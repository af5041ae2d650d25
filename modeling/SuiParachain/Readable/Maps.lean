import SuiParachain.Readable.Entities
/-!
# What the readable readers do not look at: the order of a map's entries

serde's derived readers find every entry of a map by its key: a struct's `visit_map`, the
`TaggedContentVisitor` of an internally tagged enum, and the entries a `#[serde(flatten)]`
field is handed once the enclosing struct has taken its own. So a map is read the same
whatever order its entries come in. This is what lets a textual transaction pass through a
JSON tool that reorders or sorts keys, and it is not obvious from the code: the readable
transaction is one flat map that three levels of `serialization.rs` share (the `"version"`
tag, the flattened kind with its `"kind"` tag and payload, the transaction's own fields,
and the signed transaction's `"signatures"`).

* `field_perm`: a lookup gives the same on any reordering, whether the key is missing, present
  once or written twice;
* `OrderFree`: a reader accepts every reordering of what it accepts, and reads the same value.
  Only success is asked for: serde reports the first problem in the order entries come,
  which this model does not follow;
* `readable_order_free`: every entity reader is order-free when the leaves' struct readers
  are (`LeafJson.OrderFree`), so every reordering of a written signed transaction reads back
  as the value written.
-/
namespace Sui

open Readable
open Bcs (bind_eq_ok)

namespace Readable

/-- A reader of a map's entries that accepts every reordering of what it accepts, and reads the
same value from it. -/
def OrderFree {α : Type} (read : Fields → Except String α) : Prop :=
  ∀ ⦃fs fs' : Fields⦄ ⦃a : α⦄, fs.Perm fs' → read fs = .ok a → read fs' = .ok a

/-- A lookup is the same on any reordering: `field` looks at every entry under the key, and a
reordering keeps how many there are and, when there is one, which. -/
theorem field_perm {fs fs' : Fields} (h : fs.Perm fs') (key : String) :
    field fs key = field fs' key := by
  have hp := h.filter (·.1 == key)
  unfold field
  split
  · next _ k v hl =>
    rw [hl] at hp
    rw [← List.singleton_perm.1 hp]
  · next _ hl =>
    rw [hl, List.nil_perm] at hp
    rw [hp]
  · next _ hne1 hne0 =>
    split
    · next _ k v hl => exact absurd (List.perm_singleton.1 (hl ▸ hp)) (hne1 k v)
    · next _ hl => exact absurd (List.perm_nil.1 (hl ▸ hp)) hne0
    · rfl

theorem without_perm {fs fs' : Fields} (h : fs.Perm fs') (keys : List String) :
    (without keys fs).Perm (without keys fs') :=
  h.filter _

section OrderFree

variable {α β γ : Type}

theorem orderFree_const (x : Except String α) : OrderFree fun _ => x := fun _ _ _ _ h => h

theorem OrderFree.bind {r : Fields → Except String α} {k : α → Fields → Except String β}
    (hr : OrderFree r) (hk : ∀ a, OrderFree (k a)) :
    OrderFree fun fs => r fs >>= fun a => k a fs := by
  intro fs fs' b hp h
  obtain ⟨a, ha, hb⟩ := bind_eq_ok.1 h
  exact bind_eq_ok.2 ⟨a, hr hp ha, hk a hp hb⟩

/-- One field looked up and decoded, then the rest of the reader. -/
theorem OrderFree.field_bind (key : String) (dec : Json → Except String β)
    {k : β → Fields → Except String γ} (hk : ∀ b, OrderFree (k b)) :
    OrderFree fun fs => field fs key >>= fun j => dec j >>= fun b => k b fs :=
  OrderFree.bind (fun _ _ _ hp h => (field_perm hp key) ▸ h) fun j =>
    (orderFree_const (dec j)).bind hk

/-- A flattened field's reader, handed the entries the enclosing struct did not take. -/
theorem OrderFree.without {r : Fields → Except String α} (h : OrderFree r) (keys : List String) :
    OrderFree fun fs => r (without keys fs) :=
  fun _ _ _ hp ha => h (without_perm hp keys) ha

/-- An internally tagged enum is order-free when each variant's reader is: the tag is found by
`field`, and the variant gets the other entries. -/
theorem orderFree_readTagged {tag : String} {names : List String}
    {variant : Nat → Fields → Except String α} (hv : ∀ i, OrderFree (variant i)) :
    OrderFree (readTagged tag names variant) := by
  rw [readTagged_eq]
  exact OrderFree.field_bind tag (variantIndex names) fun i => (hv i).without [tag]

end OrderFree

end Readable

variable {L : Leaves} (J : LeafJson L)

/-- The leaves' struct readers accept every reordering of what they accept, as serde's derived
`visit_map` does. -/
structure LeafJson.OrderFree : Prop where
  objectReference : Readable.OrderFree J.objectReference.fromFields
  changeEpoch : Readable.OrderFree J.changeEpoch.fromFields
  genesisTransaction : Readable.OrderFree J.genesisTransaction.fromFields
  consensusCommitPrologue : Readable.OrderFree J.consensusCommitPrologue.fromFields
  authenticatorStateUpdate : Readable.OrderFree J.authenticatorStateUpdate.fromFields
  authenticatorStateExpire : Readable.OrderFree J.authenticatorStateExpire.fromFields
  randomnessStateUpdate : Readable.OrderFree J.randomnessStateUpdate.fromFields
  consensusCommitPrologueV2 : Readable.OrderFree J.consensusCommitPrologueV2.fromFields
  moveCall : Readable.OrderFree J.moveCall.fromFields
  transferObjects : Readable.OrderFree J.transferObjects.fromFields
  splitCoins : Readable.OrderFree J.splitCoins.fromFields
  mergeCoins : Readable.OrderFree J.mergeCoins.fromFields
  publish : Readable.OrderFree J.publish.fromFields
  makeMoveVector : Readable.OrderFree J.makeMoveVector.fromFields
  upgrade : Readable.OrderFree J.upgrade.fromFields

/-- Leaves read without looking at their entries. -/
theorem LeafJson.unit_orderFree : LeafJson.unit.OrderFree :=
  ⟨orderFree_const _, orderFree_const _, orderFree_const _, orderFree_const _, orderFree_const _,
    orderFree_const _, orderFree_const _, orderFree_const _, orderFree_const _, orderFree_const _,
    orderFree_const _, orderFree_const _, orderFree_const _, orderFree_const _, orderFree_const _⟩

/-! ## Each entity reader -/

theorem Argument.ofReadable_orderFree : OrderFree Argument.ofReadable :=
  orderFree_readTagged fun
    | 0 => orderFree_const _
    | 1 => OrderFree.field_bind "input" _ fun _ => orderFree_const _
    | 2 => OrderFree.field_bind "result" _ fun _ => orderFree_const _
    | 3 => OrderFree.field_bind "result" _ fun _ => OrderFree.field_bind "subresult" _ fun _ =>
      orderFree_const _
    | _ + 4 => orderFree_const _

variable {J}

theorem InputArgument.ofReadable_orderFree (hJ : J.OrderFree) : OrderFree (InputArgument.ofReadable J) :=
  orderFree_readTagged fun
    | 0 => OrderFree.field_bind "value" _ fun _ => orderFree_const _
    | 1 => hJ.objectReference.bind fun _ => orderFree_const _
    | 2 => OrderFree.field_bind "object_id" _ fun _ =>
      OrderFree.field_bind "initial_shared_version" _ fun _ =>
      OrderFree.field_bind "mutable" _ fun _ => orderFree_const _
    | 3 => hJ.objectReference.bind fun _ => orderFree_const _
    | _ + 4 => orderFree_const _

theorem Command.ofReadable_orderFree (hJ : J.OrderFree) : OrderFree (Command.ofReadable J) :=
  orderFree_readTagged fun
    | 0 => hJ.moveCall.bind fun _ => orderFree_const _
    | 1 => hJ.transferObjects.bind fun _ => orderFree_const _
    | 2 => hJ.splitCoins.bind fun _ => orderFree_const _
    | 3 => hJ.mergeCoins.bind fun _ => orderFree_const _
    | 4 => hJ.publish.bind fun _ => orderFree_const _
    | 5 => hJ.makeMoveVector.bind fun _ => orderFree_const _
    | 6 => hJ.upgrade.bind fun _ => orderFree_const _
    | _ + 7 => orderFree_const _

theorem EndOfEpochTransactionKind.ofReadable_orderFree (hJ : J.OrderFree) :
    OrderFree (EndOfEpochTransactionKind.ofReadable J) :=
  orderFree_readTagged fun
    | 0 => hJ.changeEpoch.bind fun _ => orderFree_const _
    | 1 => orderFree_const _
    | 2 => hJ.authenticatorStateExpire.bind fun _ => orderFree_const _
    | 3 => orderFree_const _
    | 4 => orderFree_const _
    | 5 => OrderFree.field_bind "chain_id" _ fun _ => orderFree_const _
    | 6 => OrderFree.field_bind "bridge_object_version" _ fun _ => orderFree_const _
    | _ + 7 => orderFree_const _

theorem ProgrammableTransaction.ofReadable_orderFree :
    OrderFree (ProgrammableTransaction.ofReadable J) :=
  OrderFree.field_bind "inputs" _ fun _ => OrderFree.field_bind "commands" _ fun _ =>
    orderFree_const _

theorem TransactionKind.ofReadable_orderFree (hJ : J.OrderFree) :
    OrderFree (TransactionKind.ofReadable J) :=
  orderFree_readTagged fun
    | 0 => ProgrammableTransaction.ofReadable_orderFree.bind fun _ => orderFree_const _
    | 1 => hJ.changeEpoch.bind fun _ => orderFree_const _
    | 2 => hJ.genesisTransaction.bind fun _ => orderFree_const _
    | 3 => hJ.consensusCommitPrologue.bind fun _ => orderFree_const _
    | 4 => hJ.authenticatorStateUpdate.bind fun _ => orderFree_const _
    | 5 => OrderFree.field_bind "commands" _ fun _ => orderFree_const _
    | 6 => hJ.randomnessStateUpdate.bind fun _ => orderFree_const _
    | 7 => hJ.consensusCommitPrologueV2.bind fun _ => orderFree_const _
    | _ + 8 => orderFree_const _

theorem Transaction.ofReadable_orderFree (hJ : J.OrderFree) : OrderFree (Transaction.ofReadable J) :=
  orderFree_readTagged fun
    | 0 => OrderFree.field_bind "sender" _ fun _ => OrderFree.field_bind "gas_payment" _ fun _ =>
      OrderFree.field_bind "expiration" _ fun _ =>
      ((TransactionKind.ofReadable_orderFree hJ).without _).bind fun _ => orderFree_const _
    | _ + 1 => orderFree_const _

theorem SignedTransaction.ofReadable_orderFree (hJ : J.OrderFree) :
    OrderFree fun fs => SignedTransaction.ofReadable J (.object fs) :=
  (OrderFree.field_bind "signatures" _ fun _ =>
      ((Transaction.ofReadable_orderFree hJ).without _).bind fun _ => orderFree_const _ :
    OrderFree fun fs => do
      let signatures ← (JsonCodec.seq J.userSignature).fromJson (← field fs "signatures")
      let transaction ← (Transaction.readableFields J).fromFields (without ["signatures"] fs)
      return ({ transaction, signatures } : SignedTransaction L))

/-- Every entity reader accepts each reordering of a map it accepts, and reads the same value,
when the leaves' struct readers do; so every reordering of the map written for a signed
transaction reads back as that signed transaction. -/
theorem readable_order_free (hJ : J.OrderFree) :
    OrderFree Argument.ofReadable ∧ OrderFree (InputArgument.ofReadable J) ∧
      OrderFree (Command.ofReadable J) ∧ OrderFree (EndOfEpochTransactionKind.ofReadable J) ∧
      OrderFree (TransactionKind.ofReadable J) ∧ OrderFree (Transaction.ofReadable J) ∧
      OrderFree (fun fs => SignedTransaction.ofReadable J (.object fs)) ∧
      ∀ st fs, fs.Perm (SignedTransaction.toReadable J st) →
        (SignedTransaction.readable J).fromJson (.object fs) = .ok st :=
  ⟨Argument.ofReadable_orderFree, InputArgument.ofReadable_orderFree hJ,
    Command.ofReadable_orderFree hJ, EndOfEpochTransactionKind.ofReadable_orderFree hJ,
    TransactionKind.ofReadable_orderFree hJ, Transaction.ofReadable_orderFree hJ,
    SignedTransaction.ofReadable_orderFree hJ, fun st _ hp =>
      SignedTransaction.ofReadable_orderFree hJ hp.symm ((SignedTransaction.readable J).fromJson_toJson st)⟩

/-- Over leaves that read without looking at their entries. -/
theorem readable_order_free_unit :
    LeafJson.unit.OrderFree ∧ OrderFree (Transaction.ofReadable LeafJson.unit) :=
  ⟨LeafJson.unit_orderFree, (readable_order_free LeafJson.unit_orderFree).2.2.2.2.2.1⟩

end Sui
