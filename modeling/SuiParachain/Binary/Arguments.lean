import SuiParachain.Bcs.Containers
import SuiParachain.Transaction.Types
/-!
# Binary mode: `mod argument`, `mod input_argument`, `mod command` (`serialization.rs:528-871`)

Each serde enum is a `Variants` description: `index` and `fields` follow the enum the
serializer uses, `variant` is the derived visitor of the enum the deserializer uses, and the
visitor laws are the agreement of their discriminants. `InputArgument` is the two-level case:
`Pure` is a `CallArg` variant, the object variants sit under `CallArg::Object`.

Each entity's `withinLimits` is what BCS asks of a value written with `d` containers of depth
left: its own containers, every sequence within `MAX_SEQUENCE_LENGTH`, and each leaf fitting
its codec where it sits. `codec_fits` says the codec writes exactly those values.
-/
namespace Sui

open Bcs

/-- A lawful, canonical BCS codec for each leaf type. -/
structure LeafCodecs (L : Leaves) where
  address : Codec L.Address
  objectId : Codec L.ObjectId
  objectReference : Codec L.ObjectReference
  checkpointDigest : Codec L.CheckpointDigest
  gasPayment : Codec L.GasPayment
  transactionExpiration : Codec L.TransactionExpiration
  changeEpoch : Codec L.ChangeEpoch
  genesisTransaction : Codec L.GenesisTransaction
  consensusCommitPrologue : Codec L.ConsensusCommitPrologue
  authenticatorStateUpdate : Codec L.AuthenticatorStateUpdate
  authenticatorStateExpire : Codec L.AuthenticatorStateExpire
  randomnessStateUpdate : Codec L.RandomnessStateUpdate
  consensusCommitPrologueV2 : Codec L.ConsensusCommitPrologueV2
  moveCall : Codec L.MoveCall
  transferObjects : Codec L.TransferObjects
  splitCoins : Codec L.SplitCoins
  mergeCoins : Codec L.MergeCoins
  publish : Codec L.Publish
  makeMoveVector : Codec L.MakeMoveVector
  upgrade : Codec L.Upgrade
  userSignature : Codec L.UserSignature

/-- Every leaf of `Leaves.unit` written as no bytes at all. -/
def LeafCodecs.unit : LeafCodecs Leaves.unit where
  address := Codec.unit
  objectId := Codec.unit
  objectReference := Codec.unit
  checkpointDigest := Codec.unit
  gasPayment := Codec.unit
  transactionExpiration := Codec.unit
  changeEpoch := Codec.unit
  genesisTransaction := Codec.unit
  consensusCommitPrologue := Codec.unit
  authenticatorStateUpdate := Codec.unit
  authenticatorStateExpire := Codec.unit
  randomnessStateUpdate := Codec.unit
  consensusCommitPrologueV2 := Codec.unit
  moveCall := Codec.unit
  transferObjects := Codec.unit
  splitCoins := Codec.unit
  mergeCoins := Codec.unit
  publish := Codec.unit
  makeMoveVector := Codec.unit
  upgrade := Codec.unit
  userSignature := Codec.unit

variable {L : Leaves} (C : LeafCodecs L)

/-! ## `mod argument` -/

/-- `BinaryArgument` (`:689-695`), `#[derive(Serialize, Deserialize)]`. -/
inductive BinaryArgument where
  | gasCoin
  | input (input : UInt16)
  | result (result : UInt16)
  | nestedResult (result subresult : UInt16)

namespace BinaryArgument

def index : BinaryArgument → Nat
  | gasCoin => 0
  | input _ => 1
  | result _ => 2
  | nestedResult _ _ => 3

def fields : BinaryArgument → Payload
  | gasCoin => ⟨_, Codec.unit, ()⟩
  | input i => ⟨_, Codec.u16, i⟩
  | result i => ⟨_, Codec.u16, i⟩
  | nestedResult i j => ⟨_, Codec.u16.pair Codec.u16, (i, j)⟩

/-- The derived variant visitor. -/
def variant : Nat → Nat → Bytes → Except Error (BinaryArgument × Bytes)
  | 0 => variantOf Codec.unit fun _ => gasCoin
  | 1 => variantOf Codec.u16 input
  | 2 => variantOf Codec.u16 result
  | 3 => variantOf (Codec.u16.pair Codec.u16) fun p => nestedResult p.1 p.2
  | i => fun _ _ => .error (invalidVariantIndex i 4)

def variants : Variants BinaryArgument :=
  .ofFields index fields variant (fun a => by cases a <;> simp [index])
    (fun {_ a _} rest h => by cases a <;> simp only [index, variant] <;> exact variantOf_ser rest h rfl)
    (fun {i _ _ _ _} h => by
      rcases i with _ | _ | _ | _ | i
      all_goals try simp only [variant] at h
      all_goals first | exact variantOf_fields h fun _ => ⟨rfl, rfl⟩ | cases h)

end BinaryArgument

namespace Argument

/-- `impl Serialize for Argument`, binary branch (`:713-721`). -/
def toBinary : Argument → BinaryArgument
  | gasCoin => .gasCoin
  | input i => .input i
  | result i => .result i
  | nestedResult i j => .nestedResult i j

/-- `impl Deserialize for Argument`, binary branch (`:741-748`). -/
def ofBinary : BinaryArgument → Argument
  | .gasCoin => gasCoin
  | .input i => input i
  | .result i => result i
  | .nestedResult i j => nestedResult i j

def codec : Codec Argument :=
  (Codec.enum "BinaryArgument" "BinaryArgument" BinaryArgument.variants).map toBinary ofBinary
    (by intro a; cases a <;> rfl) (by intro b; cases b <;> rfl)

/-- `BinaryArgument`'s container; its indices are `u16`s, which always fit. -/
def withinLimits : Nat → Argument → Bool
  | 0, _ => false
  | _ + 1, _ => true

theorem codec_fits (d : Nat) (a : Argument) : codec.fits d a = withinLimits d a := by
  cases d <;> cases a <;> rfl

end Argument

/-! ## `mod input_argument` -/

/-- `ObjectArg` (`:556-565`). -/
inductive ObjectArg (L : Leaves) where
  | immutableOrOwned (objectRef : L.ObjectReference)
  | shared (objectId : L.ObjectId) (initialSharedVersion : UInt64) (mutable : Bool)
  | receiving (objectRef : L.ObjectReference)

/-- `CallArg` (`:550-554`); `Pure` goes through `serde_with::Bytes`. -/
inductive CallArg (L : Leaves) where
  | pure (value : Bytes)
  | object (arg : ObjectArg L)

namespace ObjectArg

def index : ObjectArg L → Nat
  | immutableOrOwned _ => 0
  | shared .. => 1
  | receiving _ => 2

/-- The fields of `Shared { object_id, initial_shared_version, mutable }`, in order. -/
def sharedFields : Codec (L.ObjectId × UInt64 × Bool) := C.objectId.pair (Codec.u64.pair Codec.bool)

def fields : ObjectArg L → Payload
  | immutableOrOwned r => ⟨_, C.objectReference, r⟩
  | shared o v m => ⟨_, sharedFields C, (o, v, m)⟩
  | receiving r => ⟨_, C.objectReference, r⟩

def variant : Nat → Nat → Bytes → Except Error (ObjectArg L × Bytes)
  | 0 => variantOf C.objectReference immutableOrOwned
  | 1 => variantOf (sharedFields C) fun p => shared p.1 p.2.1 p.2.2
  | 2 => variantOf C.objectReference receiving
  | i => fun _ _ => .error (invalidVariantIndex i 3)

def variants : Variants (ObjectArg L) :=
  .ofFields index (fields C) (variant C) (fun a => by cases a <;> simp [index])
    (fun {_ a _} rest h => by cases a <;> simp only [index, variant] <;> exact variantOf_ser rest h rfl)
    (fun {i _ _ _ _} h => by
      rcases i with _ | _ | _ | i
      all_goals try simp only [variant] at h
      all_goals first | exact variantOf_fields h fun _ => ⟨rfl, rfl⟩ | cases h)

def codec : Codec (ObjectArg L) := Codec.enum "ObjectArg" "ObjectArg" (variants C)

end ObjectArg

namespace CallArg

def index : CallArg L → Nat
  | pure _ => 0
  | object _ => 1

def fields : CallArg L → Payload
  | pure v => ⟨_, Codec.bytes, v⟩
  | object o => ⟨_, ObjectArg.codec C, o⟩

def variant : Nat → Nat → Bytes → Except Error (CallArg L × Bytes)
  | 0 => variantOf Codec.bytes pure
  | 1 => variantOf (ObjectArg.codec C) object
  | i => fun _ _ => .error (invalidVariantIndex i 2)

def variants : Variants (CallArg L) :=
  .ofFields index (fields C) (variant C) (fun a => by cases a <;> simp [index])
    (fun {_ a _} rest h => by cases a <;> simp only [index, variant] <;> exact variantOf_ser rest h rfl)
    (fun {i _ _ _ _} h => by
      rcases i with _ | _ | i
      all_goals try simp only [variant] at h
      all_goals first | exact variantOf_fields h fun _ => ⟨rfl, rfl⟩ | cases h)

def codec : Codec (CallArg L) := Codec.enum "CallArg" "CallArg" (variants C)

end CallArg

namespace InputArgument

/-- `impl Serialize for InputArgument`, binary branch (`:593-611`): `Pure` at the top, the
object variants under `CallArg::Object`. -/
def toCallArg : InputArgument L → CallArg L
  | pure v => .pure v
  | immutableOrOwned r => .object (.immutableOrOwned r)
  | shared o v m => .object (.shared o v m)
  | receiving r => .object (.receiving r)

/-- `impl Deserialize for InputArgument`, binary branch (`:641-658`). -/
def ofCallArg : CallArg L → InputArgument L
  | .pure v => pure v
  | .object (.immutableOrOwned r) => immutableOrOwned r
  | .object (.shared o v m) => shared o v m
  | .object (.receiving r) => receiving r

theorem ofCallArg_toCallArg (a : InputArgument L) : ofCallArg (toCallArg a) = a := by
  cases a <;> rfl

theorem toCallArg_ofCallArg (b : CallArg L) : toCallArg (ofCallArg b) = b := by
  rcases b with _ | (_ | _ | _) <;> rfl

def codec : Codec (InputArgument L) :=
  (CallArg.codec C).map toCallArg ofCallArg ofCallArg_toCallArg toCallArg_ofCallArg

/-- `CallArg`'s container and a `Pure` payload within `MAX_SEQUENCE_LENGTH`; for an object,
also `ObjectArg`'s container and its leaves two levels down. -/
def withinLimits : Nat → InputArgument L → Bool
  | _ + 1, pure v => decide (v.length ≤ maxSequenceLength)
  | d + 2, immutableOrOwned r => C.objectReference.fits d r
  | d + 2, shared o _ _ => C.objectId.fits d o
  | d + 2, receiving r => C.objectReference.fits d r
  | _, _ => false

theorem codec_fits (d : Nat) (a : InputArgument L) : (codec C).fits d a = withinLimits C d a := by
  rcases d with _ | _ | d <;> cases a <;> first | rfl | exact Bool.and_true _

end InputArgument

/-! ## `mod command` -/

/-- `BinaryCommandRef` (`:790-799`), the serialize side. -/
inductive BinaryCommandRef (L : Leaves) where
  | moveCall (c : L.MoveCall)
  | transferObjects (c : L.TransferObjects)
  | splitCoins (c : L.SplitCoins)
  | mergeCoins (c : L.MergeCoins)
  | publish (c : L.Publish)
  | makeMoveVector (c : L.MakeMoveVector)
  | upgrade (c : L.Upgrade)

/-- `BinaryCommand` (`:801-810`), the deserialize side. -/
inductive BinaryCommand (L : Leaves) where
  | moveCall (c : L.MoveCall)
  | transferObjects (c : L.TransferObjects)
  | splitCoins (c : L.SplitCoins)
  | mergeCoins (c : L.MergeCoins)
  | publish (c : L.Publish)
  | makeMoveVector (c : L.MakeMoveVector)
  | upgrade (c : L.Upgrade)

namespace BinaryCommandRef

def index : BinaryCommandRef L → Nat
  | moveCall _ => 0
  | transferObjects _ => 1
  | splitCoins _ => 2
  | mergeCoins _ => 3
  | publish _ => 4
  | makeMoveVector _ => 5
  | upgrade _ => 6

def fields : BinaryCommandRef L → Payload
  | moveCall c => ⟨_, C.moveCall, c⟩
  | transferObjects c => ⟨_, C.transferObjects, c⟩
  | splitCoins c => ⟨_, C.splitCoins, c⟩
  | mergeCoins c => ⟨_, C.mergeCoins, c⟩
  | publish c => ⟨_, C.publish, c⟩
  | makeMoveVector c => ⟨_, C.makeMoveVector, c⟩
  | upgrade c => ⟨_, C.upgrade, c⟩

end BinaryCommandRef

/-- The derived visitor of `BinaryCommand`. -/
def BinaryCommand.variant : Nat → Nat → Bytes → Except Error (BinaryCommand L × Bytes)
  | 0 => variantOf C.moveCall .moveCall
  | 1 => variantOf C.transferObjects .transferObjects
  | 2 => variantOf C.splitCoins .splitCoins
  | 3 => variantOf C.mergeCoins .mergeCoins
  | 4 => variantOf C.publish .publish
  | 5 => variantOf C.makeMoveVector .makeMoveVector
  | 6 => variantOf C.upgrade .upgrade
  | i => fun _ _ => .error (invalidVariantIndex i 7)

namespace Command

/-- `impl Serialize for Command`, binary branch (`:829-838`). -/
def toBinaryRef : Command L → BinaryCommandRef L
  | moveCall c => .moveCall c
  | transferObjects c => .transferObjects c
  | splitCoins c => .splitCoins c
  | mergeCoins c => .mergeCoins c
  | publish c => .publish c
  | makeMoveVector c => .makeMoveVector c
  | upgrade c => .upgrade c

/-- `impl Deserialize for Command`, binary branch (`:859-867`). -/
def ofBinary : BinaryCommand L → Command L
  | .moveCall c => moveCall c
  | .transferObjects c => transferObjects c
  | .splitCoins c => splitCoins c
  | .mergeCoins c => mergeCoins c
  | .publish c => publish c
  | .makeMoveVector c => makeMoveVector c
  | .upgrade c => upgrade c

def index (c : Command L) : Nat := c.toBinaryRef.index

def fields (c : Command L) : Payload := c.toBinaryRef.fields C

/-- Serialized through `BinaryCommandRef`, read back through `BinaryCommand`. -/
def variants : Variants (Command L) :=
  .ofFields index (fields C)
    (fun i d bs => (BinaryCommand.variant C i d bs).map fun p => (ofBinary p.1, p.2))
    (fun a => by cases a <;> simp [index, toBinaryRef, BinaryCommandRef.index])
    (fun {_ a _} rest h => by
      cases a <;> simp only [index, toBinaryRef, BinaryCommandRef.index, BinaryCommand.variant,
        variantOf_map] <;> exact variantOf_ser rest h rfl)
    (fun {i _ _ _ _} h => by
      rcases i with _ | _ | _ | _ | _ | _ | _ | i
      all_goals try simp only [BinaryCommand.variant, variantOf_map] at h
      all_goals first | exact variantOf_fields h fun _ => ⟨rfl, rfl⟩ | cases h)

def codec : Codec (Command L) := Codec.enum "BinaryCommandRef" "BinaryCommand" (variants C)

/-- `BinaryCommandRef`'s container, and the payload fitting its codec one level down. -/
def withinLimits : Nat → Command L → Bool
  | d + 1, moveCall c => C.moveCall.fits d c
  | d + 1, transferObjects c => C.transferObjects.fits d c
  | d + 1, splitCoins c => C.splitCoins.fits d c
  | d + 1, mergeCoins c => C.mergeCoins.fits d c
  | d + 1, publish c => C.publish.fits d c
  | d + 1, makeMoveVector c => C.makeMoveVector.fits d c
  | d + 1, upgrade c => C.upgrade.fits d c
  | 0, _ => false

theorem codec_fits (d : Nat) (c : Command L) : (codec C).fits d c = withinLimits C d c := by
  cases d <;> cases c <;> rfl

end Command

/-! ## `ProgrammableTransaction` -/

/-- Modelled from the spec: the derived codec of `ProgrammableTransaction`, a named struct
whose fields are the inputs and the commands, in order. -/
def ProgrammableTransaction.codec : Codec (ProgrammableTransaction L) :=
  (Codec.named "ProgrammableTransaction" "ProgrammableTransaction"
    ((Codec.seq (InputArgument.codec C)).pair (Codec.seq (Command.codec C)))).map
    (fun pt => (pt.inputs, pt.commands)) (fun p => ⟨p.1, p.2⟩) (fun _ => rfl) (fun _ => rfl)

/-- Its container, and both sequences within `MAX_SEQUENCE_LENGTH` with every element within
the limits one level down. -/
def ProgrammableTransaction.withinLimits : Nat → ProgrammableTransaction L → Bool
  | d + 1, pt =>
    decide (pt.inputs.length ≤ maxSequenceLength) && pt.inputs.all (InputArgument.withinLimits C d) &&
      (decide (pt.commands.length ≤ maxSequenceLength) && pt.commands.all (Command.withinLimits C d))
  | 0, _ => false

theorem ProgrammableTransaction.codec_fits (d : Nat) (pt : ProgrammableTransaction L) :
    (codec C).fits d pt = withinLimits C d pt := by
  cases d with
  | zero => rfl
  | succ d =>
    have hi : (InputArgument.codec C).fits d = InputArgument.withinLimits C d :=
      funext (InputArgument.codec_fits C d)
    have hc : (Command.codec C).fits d = Command.withinLimits C d := funext (Command.codec_fits C d)
    simp only [codec, Codec.map, Codec.named, Codec.pair, Codec.fits_seq, hi, hc, withinLimits]

end Sui
