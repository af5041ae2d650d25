import SuiParachain.Bcs.Codec
import SuiParachain.Readable.Scalars
import SuiParachain.Transaction.Types
/-!
# The human-readable encodings (`serialization.rs`, the `Readable*` types)

When the format is human-readable, each impl of `serialization.rs` goes through a derived
`Readable*` type: internally tagged enums with `snake_case` variant names, and two flattens.

| here | `serialization.rs` |
|---|---|
| `Argument.readable` | `ReadableArgument` (`:653-663`, `:697-748`) |
| `InputArgument.readable` | `ReadableInputArgument` (`:533-547`, `:566-650`) |
| `Command.readable` | `ReadableCommandRef` / `ReadableCommand` (`:763-785`, `:811-871`) |
| `EndOfEpochTransactionKind.readable` | `ReadableEndOfEpochTransactionKind[Ref]` (`:351-383`, `:405-525`) |
| `TransactionKind.readable` | `ReadableTransactionKind[Ref]` (`:169-199`, `:232-340`) |
| `Transaction.readable` | `ReadableTransactionData[Ref]` over `ReadableTransaction[Ref]` (`:21-54`, `:84-142`) |
| `SignedTransaction.readable` | `ReadableSignedTransaction[Ref]` (`:877-889`, `:906-960`) |

Each round trip holds because no key is written twice into one map: the payloads avoid the
keys they share a map with (`LeafJson`), and the keys `serialization.rs` writes are distinct.
-/
namespace Sui

open Readable JsonCodec
open Bcs (ok_bind)

/-- The keys a transaction kind's payload shares its map with: the kind's tag, the
transaction's `"version"` tag and fields, and the signed transaction's `"signatures"`. -/
def kindKeys : List String := ["kind", "version", "sender", "gas_payment", "expiration", "signatures"]

/-- The human-readable codecs of the leaves, each lawful. A payload that an internally tagged
variant carries is written as a struct's entries (`FieldsCodec`) and avoids every key of the
map it is merged into. -/
structure LeafJson (L : Leaves) where
  address : JsonCodec L.Address
  objectId : JsonCodec L.ObjectId
  objectReference : FieldsCodec L.ObjectReference ["type"]
  checkpointDigest : JsonCodec L.CheckpointDigest
  gasPayment : JsonCodec L.GasPayment
  transactionExpiration : JsonCodec L.TransactionExpiration
  changeEpoch : FieldsCodec L.ChangeEpoch kindKeys
  genesisTransaction : FieldsCodec L.GenesisTransaction kindKeys
  consensusCommitPrologue : FieldsCodec L.ConsensusCommitPrologue kindKeys
  authenticatorStateUpdate : FieldsCodec L.AuthenticatorStateUpdate kindKeys
  authenticatorStateExpire : FieldsCodec L.AuthenticatorStateExpire ["kind"]
  randomnessStateUpdate : FieldsCodec L.RandomnessStateUpdate kindKeys
  consensusCommitPrologueV2 : FieldsCodec L.ConsensusCommitPrologueV2 kindKeys
  moveCall : FieldsCodec L.MoveCall ["command"]
  transferObjects : FieldsCodec L.TransferObjects ["command"]
  splitCoins : FieldsCodec L.SplitCoins ["command"]
  mergeCoins : FieldsCodec L.MergeCoins ["command"]
  publish : FieldsCodec L.Publish ["command"]
  makeMoveVector : FieldsCodec L.MakeMoveVector ["command"]
  upgrade : FieldsCodec L.Upgrade ["command"]
  userSignature : JsonCodec L.UserSignature

/-- Every leaf of `Leaves.unit` written as `null`, every payload as a struct with no field. -/
def LeafJson.unit : LeafJson Leaves.unit :=
  let value : JsonCodec Unit := ⟨fun _ => .null, fun _ => .ok (), fun _ => rfl⟩
  let payload {reserved : List String} : FieldsCodec Unit reserved :=
    ⟨fun _ => [], fun _ => .ok (), fun _ => rfl, fun _ => avoids_nil⟩
  ⟨value, value, payload, value, value, value, payload, payload, payload, payload, payload, payload,
    payload, payload, payload, payload, payload, payload, payload, payload, value⟩

variable {L : Leaves} (J : LeafJson L)

/-! ## `Argument` -/

namespace Argument

/-- `ReadableArgument`'s variants (`rename_all = "snake_case"`). -/
def readableVariants : List String := ["gas_coin", "input", "result", "nested_result"]

/-- `Serialize for Argument`, human-readable branch. -/
def toReadable : Argument → Fields
  | .gasCoin => [("type", .string "gas_coin")]
  | .input i => [("type", .string "input"), ("input", u16.toJson i)]
  | .result r => [("type", .string "result"), ("result", u16.toJson r)]
  | .nestedResult r s =>
    [("type", .string "nested_result"), ("result", u16.toJson r), ("subresult", u16.toJson s)]

/-- `Deserialize for Argument`, human-readable branch. -/
def ofReadable : Fields → Except String Argument :=
  readTagged "type" readableVariants fun
    | 0, _ => pure .gasCoin
    | 1, fs => return .input (← u16.fromJson (← field fs "input"))
    | 2, fs => return .result (← u16.fromJson (← field fs "result"))
    | 3, fs => do
      let r ← u16.fromJson (← field fs "result")
      let s ← u16.fromJson (← field fs "subresult")
      pure (.nestedResult r s)
    | i, _ => .error (invalidVariantIndex i 4)

def readable : JsonCodec Argument where
  toJson a := .object (toReadable a)
  fromJson j := j.fields "internally tagged enum ReadableArgument" >>= ofReadable
  fromJson_toJson a := by
    show ofReadable (toReadable a) = .ok a
    cases a <;> rw [toReadable, ofReadable, readTagged_cons (by simp) (by rfl)] <;>
      simp [field_cons, field_cons_of_ne, u16.fromJson_toJson]

example : readable.toJson (.nestedResult 3 4) =
    .object [("type", .string "nested_result"), ("result", .number 3), ("subresult", .number 4)] :=
  rfl

end Argument

/-! ## `InputArgument` -/

namespace InputArgument

/-- `ReadableInputArgument`'s variants. -/
def readableVariants : List String := ["pure", "immutable_or_owned", "shared", "receiving"]

/-- `Serialize for InputArgument`, human-readable branch: `Pure`'s bytes in base64, the version
of a shared object as a decimal string. -/
def toReadable : InputArgument L → Fields
  | .pure value => [("type", .string "pure"), ("value", base64Encoded.toJson value)]
  | .immutableOrOwned objectRef =>
    ("type", .string "immutable_or_owned") :: J.objectReference.toFields objectRef
  | .shared objectId initialSharedVersion mutable =>
    [("type", .string "shared"), ("object_id", J.objectId.toJson objectId),
      ("initial_shared_version", readableDisplay.toJson initialSharedVersion),
      ("mutable", bool.toJson mutable)]
  | .receiving objectRef => ("type", .string "receiving") :: J.objectReference.toFields objectRef

/-- `Deserialize for InputArgument`, human-readable branch. -/
def ofReadable : Fields → Except String (InputArgument L) :=
  readTagged "type" readableVariants fun
    | 0, fs => return .pure (← base64Encoded.fromJson (← field fs "value"))
    | 1, fs => return .immutableOrOwned (← J.objectReference.fromFields fs)
    | 2, fs => do
      let objectId ← J.objectId.fromJson (← field fs "object_id")
      let initialSharedVersion ← readableDisplay.fromJson (← field fs "initial_shared_version")
      let mutable ← bool.fromJson (← field fs "mutable")
      return .shared objectId initialSharedVersion mutable
    | 3, fs => return .receiving (← J.objectReference.fromFields fs)
    | i, _ => .error (invalidVariantIndex i 4)

def readable : JsonCodec (InputArgument L) where
  toJson a := .object (toReadable J a)
  fromJson j := j.fields "internally tagged enum ReadableInputArgument" >>= ofReadable J
  fromJson_toJson a := by
    show ofReadable J (toReadable J a) = .ok a
    cases a <;>
      rw [toReadable, ofReadable, readTagged_cons (by simp [FieldsCodec.avoids_of_subset]) (by rfl)] <;>
      simp [field_cons, field_cons_of_ne, J.objectReference.fromFields_toFields,
        J.objectId.fromJson_toJson, base64Encoded.fromJson_toJson, readableDisplay.fromJson_toJson,
        bool.fromJson_toJson]

end InputArgument

/-! ## `Command` -/

namespace Command

/-- `ReadableCommand`'s variants. -/
def readableVariants : List String :=
  ["move_call", "transfer_objects", "split_coins", "merge_coins", "publish", "make_move_vector",
    "upgrade"]

/-- `Serialize for Command`, human-readable branch: `ReadableCommandRef`, tagged `"command"`. -/
def toReadable : Command L → Fields
  | .moveCall c => ("command", .string "move_call") :: J.moveCall.toFields c
  | .transferObjects c => ("command", .string "transfer_objects") :: J.transferObjects.toFields c
  | .splitCoins c => ("command", .string "split_coins") :: J.splitCoins.toFields c
  | .mergeCoins c => ("command", .string "merge_coins") :: J.mergeCoins.toFields c
  | .publish c => ("command", .string "publish") :: J.publish.toFields c
  | .makeMoveVector c => ("command", .string "make_move_vector") :: J.makeMoveVector.toFields c
  | .upgrade c => ("command", .string "upgrade") :: J.upgrade.toFields c

/-- `Deserialize for Command`, human-readable branch: `ReadableCommand`. -/
def ofReadable : Fields → Except String (Command L) :=
  readTagged "command" readableVariants fun
    | 0, fs => return .moveCall (← J.moveCall.fromFields fs)
    | 1, fs => return .transferObjects (← J.transferObjects.fromFields fs)
    | 2, fs => return .splitCoins (← J.splitCoins.fromFields fs)
    | 3, fs => return .mergeCoins (← J.mergeCoins.fromFields fs)
    | 4, fs => return .publish (← J.publish.fromFields fs)
    | 5, fs => return .makeMoveVector (← J.makeMoveVector.fromFields fs)
    | 6, fs => return .upgrade (← J.upgrade.fromFields fs)
    | i, _ => .error (invalidVariantIndex i 7)

def readable : JsonCodec (Command L) where
  toJson c := .object (toReadable J c)
  fromJson j := j.fields "internally tagged enum ReadableCommand" >>= ofReadable J
  fromJson_toJson c := by
    show ofReadable J (toReadable J c) = .ok c
    cases c <;>
      rw [toReadable, ofReadable, readTagged_cons (by simp [FieldsCodec.avoids_of_subset]) (by rfl)] <;>
      simp [J.moveCall.fromFields_toFields, J.transferObjects.fromFields_toFields,
        J.splitCoins.fromFields_toFields, J.mergeCoins.fromFields_toFields,
        J.publish.fromFields_toFields, J.makeMoveVector.fromFields_toFields,
        J.upgrade.fromFields_toFields]

end Command

/-! ## `EndOfEpochTransactionKind` -/

namespace EndOfEpochTransactionKind

/-- `ReadableEndOfEpochTransactionKind`'s variants. -/
def readableVariants : List String :=
  ["change_epoch", "authenticator_state_create", "authenticator_state_expire",
    "randomness_state_create", "deny_list_state_create", "bridge_state_create",
    "bridge_committee_init"]

/-- `Serialize for EndOfEpochTransactionKind`, human-readable branch. -/
def toReadable : EndOfEpochTransactionKind L → Fields
  | .changeEpoch k => ("kind", .string "change_epoch") :: J.changeEpoch.toFields k
  | .authenticatorStateCreate => [("kind", .string "authenticator_state_create")]
  | .authenticatorStateExpire k =>
    ("kind", .string "authenticator_state_expire") :: J.authenticatorStateExpire.toFields k
  | .randomnessStateCreate => [("kind", .string "randomness_state_create")]
  | .denyListStateCreate => [("kind", .string "deny_list_state_create")]
  | .bridgeStateCreate chainId =>
    [("kind", .string "bridge_state_create"), ("chain_id", J.checkpointDigest.toJson chainId)]
  | .bridgeCommitteeInit bridgeObjectVersion =>
    [("kind", .string "bridge_committee_init"),
      ("bridge_object_version", readableDisplay.toJson bridgeObjectVersion)]

/-- `Deserialize for EndOfEpochTransactionKind`, human-readable branch. -/
def ofReadable : Fields → Except String (EndOfEpochTransactionKind L) :=
  readTagged "kind" readableVariants fun
    | 0, fs => return .changeEpoch (← J.changeEpoch.fromFields fs)
    | 1, _ => pure .authenticatorStateCreate
    | 2, fs => return .authenticatorStateExpire (← J.authenticatorStateExpire.fromFields fs)
    | 3, _ => pure .randomnessStateCreate
    | 4, _ => pure .denyListStateCreate
    | 5, fs => return .bridgeStateCreate (← J.checkpointDigest.fromJson (← field fs "chain_id"))
    | 6, fs =>
      return .bridgeCommitteeInit (← readableDisplay.fromJson (← field fs "bridge_object_version"))
    | i, _ => .error (invalidVariantIndex i 7)

def readable : JsonCodec (EndOfEpochTransactionKind L) where
  toJson k := .object (toReadable J k)
  fromJson j := j.fields "internally tagged enum ReadableEndOfEpochTransactionKind" >>= ofReadable J
  fromJson_toJson k := by
    show ofReadable J (toReadable J k) = .ok k
    cases k <;>
      rw [toReadable, ofReadable,
        readTagged_cons (by simp [FieldsCodec.avoids_of_subset, kindKeys]) (by rfl)] <;>
      simp [field_cons, J.changeEpoch.fromFields_toFields,
        J.authenticatorStateExpire.fromFields_toFields, J.checkpointDigest.fromJson_toJson,
        readableDisplay.fromJson_toJson]

end EndOfEpochTransactionKind

/-! ## `TransactionKind`, flattened into the transaction -/

/-- The keys of the transaction's map besides the kind's own: the `"version"` tag, the
transaction's fields, and the signed transaction's `"signatures"`. -/
def transactionKeys : List String := ["version", "sender", "gas_payment", "expiration", "signatures"]

namespace ProgrammableTransaction

/-- Modelled from the spec: the readable form of a programmable transaction is the struct
`{ inputs, commands }` of its readable inputs and commands. -/
def toReadable (k : ProgrammableTransaction L) : Fields :=
  [("inputs", (seq (InputArgument.readable J)).toJson k.inputs),
    ("commands", (seq (Command.readable J)).toJson k.commands)]

/-- Modelled from the spec: its derived struct deserializer. -/
def ofReadable (fs : Fields) : Except String (ProgrammableTransaction L) := do
  let inputs ← (seq (InputArgument.readable J)).fromJson (← field fs "inputs")
  let commands ← (seq (Command.readable J)).fromJson (← field fs "commands")
  return { inputs, commands }

def readableFields : FieldsCodec (ProgrammableTransaction L) kindKeys where
  toFields := toReadable J
  fromFields := ofReadable J
  fromFields_toFields k := by
    simp [toReadable, ofReadable, field_cons, field_cons_of_ne, fromJson_toJson]
  avoids _ := by simp [toReadable, kindKeys]

end ProgrammableTransaction

namespace TransactionKind

/-- `ReadableTransactionKind`'s variants. -/
def readableVariants : List String :=
  ["programmable_transaction", "change_epoch", "genesis", "consensus_commit_prologue",
    "authenticator_state_update", "end_of_epoch", "randomness_state_update",
    "consensus_commit_prologue_v2"]

/-- `Serialize for TransactionKind`, human-readable branch: `ReadableTransactionKindRef`,
tagged `"kind"`, each payload's fields next to the tag. -/
def toReadable : TransactionKind L → Fields
  | .programmableTransaction k =>
    ("kind", .string "programmable_transaction") ::
      (ProgrammableTransaction.readableFields J).toFields k
  | .changeEpoch k => ("kind", .string "change_epoch") :: J.changeEpoch.toFields k
  | .genesis k => ("kind", .string "genesis") :: J.genesisTransaction.toFields k
  | .consensusCommitPrologue k =>
    ("kind", .string "consensus_commit_prologue") :: J.consensusCommitPrologue.toFields k
  | .authenticatorStateUpdate k =>
    ("kind", .string "authenticator_state_update") :: J.authenticatorStateUpdate.toFields k
  | .endOfEpoch commands =>
    [("kind", .string "end_of_epoch"),
      ("commands", (seq (EndOfEpochTransactionKind.readable J)).toJson commands)]
  | .randomnessStateUpdate k =>
    ("kind", .string "randomness_state_update") :: J.randomnessStateUpdate.toFields k
  | .consensusCommitPrologueV2 k =>
    ("kind", .string "consensus_commit_prologue_v2") :: J.consensusCommitPrologueV2.toFields k

/-- `Deserialize for TransactionKind`, human-readable branch: `ReadableTransactionKind`. -/
def ofReadable : Fields → Except String (TransactionKind L) :=
  readTagged "kind" readableVariants fun
    | 0, fs =>
      return .programmableTransaction (← (ProgrammableTransaction.readableFields J).fromFields fs)
    | 1, fs => return .changeEpoch (← J.changeEpoch.fromFields fs)
    | 2, fs => return .genesis (← J.genesisTransaction.fromFields fs)
    | 3, fs => return .consensusCommitPrologue (← J.consensusCommitPrologue.fromFields fs)
    | 4, fs => return .authenticatorStateUpdate (← J.authenticatorStateUpdate.fromFields fs)
    | 5, fs =>
      return .endOfEpoch (← (seq (EndOfEpochTransactionKind.readable J)).fromJson (← field fs "commands"))
    | 6, fs => return .randomnessStateUpdate (← J.randomnessStateUpdate.fromFields fs)
    | 7, fs => return .consensusCommitPrologueV2 (← J.consensusCommitPrologueV2.fromFields fs)
    | i, _ => .error (invalidVariantIndex i 8)

def readableFields : FieldsCodec (TransactionKind L) transactionKeys where
  toFields := toReadable J
  fromFields := ofReadable J
  fromFields_toFields k := by
    cases k <;>
      rw [toReadable, ofReadable,
        readTagged_cons (by simp [FieldsCodec.avoids_of_subset, kindKeys]) (by rfl)] <;>
      simp [field_cons, fromJson_toJson, FieldsCodec.fromFields_toFields]
  avoids k := by
    cases k <;> simp [toReadable, transactionKeys, kindKeys, FieldsCodec.avoids_of_subset]

/-- `TransactionKind` on its own: the map, read as `internally tagged enum ReadableTransactionKind`. -/
def readable : JsonCodec (TransactionKind L) :=
  (readableFields J).json "internally tagged enum ReadableTransactionKind"

end TransactionKind

/-! ## `Transaction` and `SignedTransaction` -/

namespace Transaction

/-- `ReadableTransactionData`'s one variant, `V1` renamed `"1"`. -/
def readableVariants : List String := ["1"]

/-- `Serialize for Transaction`, human-readable branch:
`ReadableTransactionDataRef::V1(ReadableTransactionRef { .. })`, the `"version"` tag, the kind's
entries (flattened), then `sender`, `gas_payment` and `expiration`. -/
def toReadable (tx : Transaction L) : Fields :=
  ("version", .string "1") :: ((TransactionKind.readableFields J).toFields tx.kind ++
    [("sender", J.address.toJson tx.sender), ("gas_payment", J.gasPayment.toJson tx.gasPayment),
      ("expiration", J.transactionExpiration.toJson tx.expiration)])

/-- `Deserialize for Transaction`, human-readable branch: `ReadableTransactionData::V1`, whose
`ReadableTransaction` takes its three fields and leaves every other entry to the flattened
`kind`. -/
def ofReadable : Fields → Except String (Transaction L) :=
  readTagged "version" readableVariants fun
    | 0, fs => do
      let sender ← J.address.fromJson (← field fs "sender")
      let gasPayment ← J.gasPayment.fromJson (← field fs "gas_payment")
      let expiration ← J.transactionExpiration.fromJson (← field fs "expiration")
      let kind ← (TransactionKind.readableFields J).fromFields
        (without ["sender", "gas_payment", "expiration"] fs)
      return { kind, sender, gasPayment, expiration }
    | i, _ => .error (invalidVariantIndex i 1)

def readableFields : FieldsCodec (Transaction L) ["signatures"] where
  toFields := toReadable J
  fromFields := ofReadable J
  fromFields_toFields tx := by
    obtain ⟨kind, sender, gasPayment, expiration⟩ := tx
    rw [toReadable, ofReadable,
      readTagged_cons (by simp [FieldsCodec.avoids_of_subset, transactionKeys]) (by rfl)]
    simp [field_cons, field_cons_of_ne, field_append_of_avoids, transactionKeys,
      FieldsCodec.avoids_of_subset, without_eq_self, FieldsCodec.fromFields_toFields,
      fromJson_toJson]
  avoids tx := by simp [toReadable, transactionKeys, FieldsCodec.avoids_of_subset]

/-- `Transaction` on its own: the map, read as `internally tagged enum ReadableTransactionData`. -/
def readable : JsonCodec (Transaction L) :=
  (readableFields J).json "internally tagged enum ReadableTransactionData"

end Transaction

namespace SignedTransaction

/-- `ReadableSignedTransactionRef`: the transaction's entries (flattened), then `signatures`. -/
def toReadable (st : SignedTransaction L) : Fields :=
  (Transaction.readableFields J).toFields st.transaction ++
    [("signatures", (seq J.userSignature).toJson st.signatures)]

/-- `ReadableSignedTransaction`: `signatures`, and every other entry for the flattened
`transaction`. -/
def ofReadable (j : Json) : Except String (SignedTransaction L) := do
  let fs ← j.fields "struct ReadableSignedTransaction"
  let signatures ← (seq J.userSignature).fromJson (← field fs "signatures")
  let transaction ← (Transaction.readableFields J).fromFields (without ["signatures"] fs)
  return { transaction, signatures }

def readable : JsonCodec (SignedTransaction L) where
  toJson st := .object (toReadable J st)
  fromJson := ofReadable J
  fromJson_toJson st := by
    obtain ⟨transaction, signatures⟩ := st
    simp [toReadable, ofReadable, Json.fields, field_cons, field_append_of_avoids,
      FieldsCodec.avoids_of_subset, without_eq_self, FieldsCodec.fromFields_toFields,
      fromJson_toJson]

end SignedTransaction

/-- The kind's entries share the transaction's map: an end-of-epoch transaction signed by no
one. -/
example : (SignedTransaction.readable LeafJson.unit).toJson
      ⟨⟨.endOfEpoch [.randomnessStateCreate], (), (), ()⟩, []⟩ =
    .object [("version", .string "1"), ("kind", .string "end_of_epoch"),
      ("commands", .array [.object [("kind", .string "randomness_state_create")]]),
      ("sender", .null), ("gas_payment", .null), ("expiration", .null), ("signatures", .array [])] :=
  rfl

/-! ## The textual round trip -/

theorem readable_roundtrip :
    (∀ a : Argument, Argument.readable.fromJson (Argument.readable.toJson a) = .ok a) ∧
    (∀ a : InputArgument L,
      (InputArgument.readable J).fromJson ((InputArgument.readable J).toJson a) = .ok a) ∧
    (∀ c : Command L, (Command.readable J).fromJson ((Command.readable J).toJson c) = .ok c) ∧
    (∀ k : EndOfEpochTransactionKind L,
      (EndOfEpochTransactionKind.readable J).fromJson
        ((EndOfEpochTransactionKind.readable J).toJson k) = .ok k) ∧
    (∀ k : TransactionKind L,
      (TransactionKind.readable J).fromJson ((TransactionKind.readable J).toJson k) = .ok k) ∧
    (∀ tx : Transaction L,
      (Transaction.readable J).fromJson ((Transaction.readable J).toJson tx) = .ok tx) ∧
    (∀ st : SignedTransaction L,
      (SignedTransaction.readable J).fromJson ((SignedTransaction.readable J).toJson st) = .ok st) :=
  ⟨Argument.readable.fromJson_toJson, (InputArgument.readable J).fromJson_toJson,
    (Command.readable J).fromJson_toJson, (EndOfEpochTransactionKind.readable J).fromJson_toJson,
    (TransactionKind.readable J).fromJson_toJson, (Transaction.readable J).fromJson_toJson,
    (SignedTransaction.readable J).fromJson_toJson⟩

end Sui
