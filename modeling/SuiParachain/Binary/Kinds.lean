import SuiParachain.Binary.Arguments
/-!
# Binary mode: `mod end_of_epoch`, `mod transaction_kind`, `mod transaction`, `SignedTransaction`

Every serializer here goes through a `…Ref` enum and every deserializer through its owned
twin (`serialization.rs:13-526`, `:897-960`); a pair that numbered some variant differently
would fail the visitor laws of its `Variants`. `binary_roundtrip` and `binary_canonical` read
the codec laws at the top level (`bcs::to_bytes`, `bcs::from_bytes`) for the seven entity
types, the first over BCS's limits as each entity's `withinLimits` spells them out.
-/
namespace Sui

open Bcs

variable {L : Leaves} (C : LeafCodecs L)

/-! ## `mod end_of_epoch` -/

/-- `BinaryEndOfEpochTransactionKindRef` (`:385-394`), the serialize side. -/
inductive BinaryEndOfEpochTransactionKindRef (L : Leaves) where
  | changeEpoch (k : L.ChangeEpoch)
  | authenticatorStateCreate
  | authenticatorStateExpire (k : L.AuthenticatorStateExpire)
  | randomnessStateCreate
  | denyListStateCreate
  | bridgeStateCreate (chainId : L.CheckpointDigest)
  | bridgeCommitteeInit (bridgeObjectVersion : UInt64)

/-- `BinaryEndOfEpochTransactionKind` (`:396-405`), the deserialize side. -/
inductive BinaryEndOfEpochTransactionKind (L : Leaves) where
  | changeEpoch (k : L.ChangeEpoch)
  | authenticatorStateCreate
  | authenticatorStateExpire (k : L.AuthenticatorStateExpire)
  | randomnessStateCreate
  | denyListStateCreate
  | bridgeStateCreate (chainId : L.CheckpointDigest)
  | bridgeCommitteeInit (bridgeObjectVersion : UInt64)

namespace BinaryEndOfEpochTransactionKindRef

def index : BinaryEndOfEpochTransactionKindRef L → Nat
  | changeEpoch _ => 0
  | authenticatorStateCreate => 1
  | authenticatorStateExpire _ => 2
  | randomnessStateCreate => 3
  | denyListStateCreate => 4
  | bridgeStateCreate _ => 5
  | bridgeCommitteeInit _ => 6

def fields : BinaryEndOfEpochTransactionKindRef L → Payload
  | changeEpoch k => ⟨_, C.changeEpoch, k⟩
  | authenticatorStateCreate => ⟨_, Codec.unit, ()⟩
  | authenticatorStateExpire k => ⟨_, C.authenticatorStateExpire, k⟩
  | randomnessStateCreate => ⟨_, Codec.unit, ()⟩
  | denyListStateCreate => ⟨_, Codec.unit, ()⟩
  | bridgeStateCreate c => ⟨_, C.checkpointDigest, c⟩
  | bridgeCommitteeInit v => ⟨_, Codec.u64, v⟩

end BinaryEndOfEpochTransactionKindRef

/-- The derived visitor of `BinaryEndOfEpochTransactionKind`. -/
def BinaryEndOfEpochTransactionKind.variant :
    Nat → Nat → Bytes → Except Error (BinaryEndOfEpochTransactionKind L × Bytes)
  | 0 => variantOf C.changeEpoch .changeEpoch
  | 1 => variantOf Codec.unit fun _ => .authenticatorStateCreate
  | 2 => variantOf C.authenticatorStateExpire .authenticatorStateExpire
  | 3 => variantOf Codec.unit fun _ => .randomnessStateCreate
  | 4 => variantOf Codec.unit fun _ => .denyListStateCreate
  | 5 => variantOf C.checkpointDigest .bridgeStateCreate
  | 6 => variantOf Codec.u64 .bridgeCommitteeInit
  | i => fun _ _ => .error (invalidVariantIndex i 7)

namespace EndOfEpochTransactionKind

/-- `impl Serialize for EndOfEpochTransactionKind`, binary branch (`:438-460`). -/
def toBinaryRef : EndOfEpochTransactionKind L → BinaryEndOfEpochTransactionKindRef L
  | changeEpoch k => .changeEpoch k
  | authenticatorStateCreate => .authenticatorStateCreate
  | authenticatorStateExpire k => .authenticatorStateExpire k
  | randomnessStateCreate => .randomnessStateCreate
  | denyListStateCreate => .denyListStateCreate
  | bridgeStateCreate c => .bridgeStateCreate c
  | bridgeCommitteeInit v => .bridgeCommitteeInit v

/-- `impl Deserialize for EndOfEpochTransactionKind`, binary branch (`:498-521`). -/
def ofBinary : BinaryEndOfEpochTransactionKind L → EndOfEpochTransactionKind L
  | .changeEpoch k => changeEpoch k
  | .authenticatorStateCreate => authenticatorStateCreate
  | .authenticatorStateExpire k => authenticatorStateExpire k
  | .randomnessStateCreate => randomnessStateCreate
  | .denyListStateCreate => denyListStateCreate
  | .bridgeStateCreate c => bridgeStateCreate c
  | .bridgeCommitteeInit v => bridgeCommitteeInit v

def index (k : EndOfEpochTransactionKind L) : Nat := k.toBinaryRef.index

def fields (k : EndOfEpochTransactionKind L) : Payload := k.toBinaryRef.fields C

def variants : Variants (EndOfEpochTransactionKind L) :=
  .ofFields index (fields C)
    (fun i d bs => (BinaryEndOfEpochTransactionKind.variant C i d bs).map fun p => (ofBinary p.1, p.2))
    (fun a => by cases a <;> simp [index, toBinaryRef, BinaryEndOfEpochTransactionKindRef.index])
    (fun {_ a _} rest h => by
      cases a <;> simp only [index, toBinaryRef, BinaryEndOfEpochTransactionKindRef.index,
        BinaryEndOfEpochTransactionKind.variant, variantOf_map] <;> exact variantOf_ser rest h rfl)
    (fun {i _ _ _ _} h => by
      rcases i with _ | _ | _ | _ | _ | _ | _ | i
      all_goals try simp only [BinaryEndOfEpochTransactionKind.variant, variantOf_map] at h
      all_goals first | exact variantOf_fields h fun _ => ⟨rfl, rfl⟩ | cases h)

def codec : Codec (EndOfEpochTransactionKind L) :=
  Codec.enum "BinaryEndOfEpochTransactionKindRef" "BinaryEndOfEpochTransactionKind" (variants C)

/-- `BinaryEndOfEpochTransactionKindRef`'s container, and the payload fitting one level down. -/
def withinLimits : Nat → EndOfEpochTransactionKind L → Bool
  | d + 1, changeEpoch k => C.changeEpoch.fits d k
  | d + 1, authenticatorStateExpire k => C.authenticatorStateExpire.fits d k
  | d + 1, bridgeStateCreate c => C.checkpointDigest.fits d c
  | _ + 1, _ => true
  | 0, _ => false

theorem codec_fits (d : Nat) (k : EndOfEpochTransactionKind L) :
    (codec C).fits d k = withinLimits C d k := by
  cases d <;> cases k <;> rfl

end EndOfEpochTransactionKind

/-! ## `mod transaction_kind` -/

/-- `BinaryTransactionKindRef` (`:212-222`), the serialize side. -/
inductive BinaryTransactionKindRef (L : Leaves) where
  | programmableTransaction (k : ProgrammableTransaction L)
  | changeEpoch (k : L.ChangeEpoch)
  | genesis (k : L.GenesisTransaction)
  | consensusCommitPrologue (k : L.ConsensusCommitPrologue)
  | authenticatorStateUpdate (k : L.AuthenticatorStateUpdate)
  | endOfEpoch (k : List (EndOfEpochTransactionKind L))
  | randomnessStateUpdate (k : L.RandomnessStateUpdate)
  | consensusCommitPrologueV2 (k : L.ConsensusCommitPrologueV2)

/-- `BinaryTransactionKind` (`:223-233`), the deserialize side. -/
inductive BinaryTransactionKind (L : Leaves) where
  | programmableTransaction (k : ProgrammableTransaction L)
  | changeEpoch (k : L.ChangeEpoch)
  | genesis (k : L.GenesisTransaction)
  | consensusCommitPrologue (k : L.ConsensusCommitPrologue)
  | authenticatorStateUpdate (k : L.AuthenticatorStateUpdate)
  | endOfEpoch (k : List (EndOfEpochTransactionKind L))
  | randomnessStateUpdate (k : L.RandomnessStateUpdate)
  | consensusCommitPrologueV2 (k : L.ConsensusCommitPrologueV2)

namespace BinaryTransactionKindRef

def index : BinaryTransactionKindRef L → Nat
  | programmableTransaction _ => 0
  | changeEpoch _ => 1
  | genesis _ => 2
  | consensusCommitPrologue _ => 3
  | authenticatorStateUpdate _ => 4
  | endOfEpoch _ => 5
  | randomnessStateUpdate _ => 6
  | consensusCommitPrologueV2 _ => 7

def fields : BinaryTransactionKindRef L → Payload
  | programmableTransaction k => ⟨_, ProgrammableTransaction.codec C, k⟩
  | changeEpoch k => ⟨_, C.changeEpoch, k⟩
  | genesis k => ⟨_, C.genesisTransaction, k⟩
  | consensusCommitPrologue k => ⟨_, C.consensusCommitPrologue, k⟩
  | authenticatorStateUpdate k => ⟨_, C.authenticatorStateUpdate, k⟩
  | endOfEpoch k => ⟨_, Codec.seq (EndOfEpochTransactionKind.codec C), k⟩
  | randomnessStateUpdate k => ⟨_, C.randomnessStateUpdate, k⟩
  | consensusCommitPrologueV2 k => ⟨_, C.consensusCommitPrologueV2, k⟩

end BinaryTransactionKindRef

/-- The derived visitor of `BinaryTransactionKind`. -/
def BinaryTransactionKind.variant : Nat → Nat → Bytes → Except Error (BinaryTransactionKind L × Bytes)
  | 0 => variantOf (ProgrammableTransaction.codec C) .programmableTransaction
  | 1 => variantOf C.changeEpoch .changeEpoch
  | 2 => variantOf C.genesisTransaction .genesis
  | 3 => variantOf C.consensusCommitPrologue .consensusCommitPrologue
  | 4 => variantOf C.authenticatorStateUpdate .authenticatorStateUpdate
  | 5 => variantOf (Codec.seq (EndOfEpochTransactionKind.codec C)) .endOfEpoch
  | 6 => variantOf C.randomnessStateUpdate .randomnessStateUpdate
  | 7 => variantOf C.consensusCommitPrologueV2 .consensusCommitPrologueV2
  | i => fun _ _ => .error (invalidVariantIndex i 8)

namespace TransactionKind

/-- `impl Serialize for TransactionKind`, binary branch (`:265-285`). -/
def toBinaryRef : TransactionKind L → BinaryTransactionKindRef L
  | programmableTransaction k => .programmableTransaction k
  | changeEpoch k => .changeEpoch k
  | genesis k => .genesis k
  | consensusCommitPrologue k => .consensusCommitPrologue k
  | authenticatorStateUpdate k => .authenticatorStateUpdate k
  | endOfEpoch k => .endOfEpoch k
  | randomnessStateUpdate k => .randomnessStateUpdate k
  | consensusCommitPrologueV2 k => .consensusCommitPrologueV2 k

/-- `impl Deserialize for TransactionKind`, binary branch (`:319-338`). -/
def ofBinary : BinaryTransactionKind L → TransactionKind L
  | .programmableTransaction k => programmableTransaction k
  | .changeEpoch k => changeEpoch k
  | .genesis k => genesis k
  | .consensusCommitPrologue k => consensusCommitPrologue k
  | .authenticatorStateUpdate k => authenticatorStateUpdate k
  | .endOfEpoch k => endOfEpoch k
  | .randomnessStateUpdate k => randomnessStateUpdate k
  | .consensusCommitPrologueV2 k => consensusCommitPrologueV2 k

def index (k : TransactionKind L) : Nat := k.toBinaryRef.index

def fields (k : TransactionKind L) : Payload := k.toBinaryRef.fields C

def variants : Variants (TransactionKind L) :=
  .ofFields index (fields C)
    (fun i d bs => (BinaryTransactionKind.variant C i d bs).map fun p => (ofBinary p.1, p.2))
    (fun a => by cases a <;> simp [index, toBinaryRef, BinaryTransactionKindRef.index])
    (fun {_ a _} rest h => by
      cases a <;> simp only [index, toBinaryRef, BinaryTransactionKindRef.index,
        BinaryTransactionKind.variant, variantOf_map] <;> exact variantOf_ser rest h rfl)
    (fun {i _ _ _ _} h => by
      rcases i with _ | _ | _ | _ | _ | _ | _ | _ | i
      all_goals try simp only [BinaryTransactionKind.variant, variantOf_map] at h
      all_goals first | exact variantOf_fields h fun _ => ⟨rfl, rfl⟩ | cases h)

def codec : Codec (TransactionKind L) :=
  Codec.enum "BinaryTransactionKindRef" "BinaryTransactionKind" (variants C)

/-- `BinaryTransactionKindRef`'s container, and the payload within the limits one level
down: the end-of-epoch list within `MAX_SEQUENCE_LENGTH`, each entry within its own. -/
def withinLimits : Nat → TransactionKind L → Bool
  | d + 1, programmableTransaction k => ProgrammableTransaction.withinLimits C d k
  | d + 1, changeEpoch k => C.changeEpoch.fits d k
  | d + 1, genesis k => C.genesisTransaction.fits d k
  | d + 1, consensusCommitPrologue k => C.consensusCommitPrologue.fits d k
  | d + 1, authenticatorStateUpdate k => C.authenticatorStateUpdate.fits d k
  | d + 1, endOfEpoch ks =>
    decide (ks.length ≤ maxSequenceLength) && ks.all (EndOfEpochTransactionKind.withinLimits C d)
  | d + 1, randomnessStateUpdate k => C.randomnessStateUpdate.fits d k
  | d + 1, consensusCommitPrologueV2 k => C.consensusCommitPrologueV2.fits d k
  | 0, _ => false

theorem codec_fits (d : Nat) (k : TransactionKind L) : (codec C).fits d k = withinLimits C d k := by
  cases d with
  | zero => rfl
  | succ d =>
    cases k
    case programmableTransaction k => exact ProgrammableTransaction.codec_fits C d k
    case endOfEpoch ks =>
      exact congrArg (_ && ·) (congrArg ks.all (funext (EndOfEpochTransactionKind.codec_fits C d)))
    all_goals rfl

end TransactionKind

/-! ## `mod transaction` -/

namespace Transaction

/-- `BinaryTransactionRef` / `BinaryTransaction` (`:57-71`): a named struct of
`kind, sender, gas_payment, expiration`, in that order. -/
def fields : Codec (Transaction L) :=
  (Codec.named "BinaryTransactionRef" "BinaryTransaction"
    ((TransactionKind.codec C).pair (C.address.pair (C.gasPayment.pair C.transactionExpiration)))).map
    (fun tx => (tx.kind, tx.sender, tx.gasPayment, tx.expiration))
    (fun p => ⟨p.1, p.2.1, p.2.2.1, p.2.2.2⟩) (fun _ => rfl) (fun _ => rfl)

/-- `BinaryTransactionDataRef::V1` / `BinaryTransactionData::V1` (`:73-81`, `:97-103`,
`:128-140`): the version enum, one variant. -/
def index (_ : Transaction L) : Nat := 0

def payload (tx : Transaction L) : Payload := ⟨_, fields C, tx⟩

def variants : Variants (Transaction L) :=
  .ofFields index (payload C)
    (fun | 0 => variantOf (fields C) id | i => fun _ _ => .error (invalidVariantIndex i 1))
    (fun _ => Nat.two_pow_pos 32) (fun rest h => variantOf_ser rest h rfl)
    (fun {i _ _ _ _} h => by
      rcases i with _ | i
      · exact variantOf_fields h fun _ => ⟨rfl, rfl⟩
      · cases h)

def codec : Codec (Transaction L) :=
  Codec.enum "BinaryTransactionDataRef" "BinaryTransactionData" (variants C)

/-- The version enum's container and the struct's, then the kind and the three leaves. -/
def withinLimits : Nat → Transaction L → Bool
  | d + 2, tx => TransactionKind.withinLimits C d tx.kind &&
      (C.address.fits d tx.sender && (C.gasPayment.fits d tx.gasPayment &&
        C.transactionExpiration.fits d tx.expiration))
  | _, _ => false

theorem codec_fits (d : Nat) (tx : Transaction L) : (codec C).fits d tx = withinLimits C d tx := by
  rcases d with _ | _ | d
  · rfl
  · rfl
  · exact congrArg (· && _) (TransactionKind.codec_fits C d tx.kind)

end Transaction

/-- `impl Serialize` / `impl Deserialize for SignedTransaction`, binary branch (`:897-960`):
the named struct `BinarySignedTransactionRef { transaction, signatures }`. -/
def SignedTransaction.codec : Codec (SignedTransaction L) :=
  (Codec.named "BinarySignedTransactionRef" "BinarySignedTransaction"
    ((Transaction.codec C).pair (Codec.seq C.userSignature))).map
    (fun st => (st.transaction, st.signatures)) (fun p => ⟨p.1, p.2⟩) (fun _ => rfl) (fun _ => rfl)

/-- The struct's container, the transaction within its limits, and the signatures within
`MAX_SEQUENCE_LENGTH`, each fitting its codec one level down. -/
def SignedTransaction.withinLimits : Nat → SignedTransaction L → Bool
  | d + 1, st => Transaction.withinLimits C d st.transaction &&
      (decide (st.signatures.length ≤ maxSequenceLength) && st.signatures.all (C.userSignature.fits d))
  | 0, _ => false

theorem SignedTransaction.codec_fits (d : Nat) (st : SignedTransaction L) :
    (codec C).fits d st = withinLimits C d st := by
  cases d with
  | zero => rfl
  | succ d => exact congrArg (· && _) (Transaction.codec_fits C d st.transaction)

/-! ## The seven entity codecs at the top level -/

/-- Binary round trip: `bcs::to_bytes` writes exactly the values of each entity type within
BCS's length and depth limits, and `bcs::from_bytes` reads each back from those bytes. -/
theorem binary_roundtrip :
    RoundTripsWithin Argument.codec (Argument.withinLimits maxContainerDepth) ∧
      RoundTripsWithin (InputArgument.codec C) (InputArgument.withinLimits C maxContainerDepth) ∧
      RoundTripsWithin (Command.codec C) (Command.withinLimits C maxContainerDepth) ∧
      RoundTripsWithin (EndOfEpochTransactionKind.codec C)
        (EndOfEpochTransactionKind.withinLimits C maxContainerDepth) ∧
      RoundTripsWithin (TransactionKind.codec C) (TransactionKind.withinLimits C maxContainerDepth) ∧
      RoundTripsWithin (Transaction.codec C) (Transaction.withinLimits C maxContainerDepth) ∧
      RoundTripsWithin (SignedTransaction.codec C) (SignedTransaction.withinLimits C maxContainerDepth) :=
  ⟨Codec.roundTripsWithin _ (Argument.codec_fits _), Codec.roundTripsWithin _ (InputArgument.codec_fits C _),
    Codec.roundTripsWithin _ (Command.codec_fits C _),
    Codec.roundTripsWithin _ (EndOfEpochTransactionKind.codec_fits C _),
    Codec.roundTripsWithin _ (TransactionKind.codec_fits C _),
    Codec.roundTripsWithin _ (Transaction.codec_fits C _),
    Codec.roundTripsWithin _ (SignedTransaction.codec_fits C _)⟩

/-- Binary canonicality: every byte string an entity's deserializer accepts, with nothing
left over, is the serialization of the value it returns. -/
theorem binary_canonical :
    Canonical Argument.codec ∧ Canonical (InputArgument.codec C) ∧
      Canonical (Command.codec C) ∧ Canonical (EndOfEpochTransactionKind.codec C) ∧
      Canonical (TransactionKind.codec C) ∧ Canonical (Transaction.codec C) ∧
      Canonical (SignedTransaction.codec C) :=
  ⟨Codec.canonical _, Codec.canonical _, Codec.canonical _, Codec.canonical _,
    Codec.canonical _, Codec.canonical _, Codec.canonical _⟩

end Sui
