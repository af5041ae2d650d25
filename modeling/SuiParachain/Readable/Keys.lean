import SuiParachain.Readable.Entities
/-!
# The readable format's keys: each read once, the others ignored

A readable signed transaction is one flat map that three levels of `serialization.rs` fill:
the `"version"` tag of `ReadableTransactionData`, the flattened kind with its `"kind"` tag and
its payload's entries, the fields of `ReadableTransaction`, and the `"signatures"` of
`ReadableSignedTransaction`. No reader accepts a map in which one of its own keys is missing
or written twice (`ReadsOnce`), and an entry under any other key changes nothing the readers
return when the kind payloads' readers pass it over too (`IgnoresKey`).
-/
namespace Sui

open Readable
open Bcs (bind_eq_ok)

namespace Readable

/-! ## Keys a reader insists on -/

/-- A reader that accepts a map only when `key` is among its keys exactly once. -/
def ReadsOnce {α : Type} (read : Fields → Except String α) (key : String) : Prop :=
  ∀ ⦃fs : Fields⦄ ⦃a : α⦄, read fs = .ok a → (fs.map Prod.fst).count key = 1

theorem count_keys (fs : Fields) (key : String) :
    (fs.map Prod.fst).count key = (fs.filter (·.1 == key)).length := by
  rw [List.count_eq_countP, List.countP_map, List.countP_eq_length_filter]
  rfl

theorem count_keys_without {keys : List String} {key : String} (hk : key ∉ keys) (fs : Fields) :
    ((without keys fs).map Prod.fst).count key = (fs.map Prod.fst).count key := by
  rw [count_keys, count_keys, without, List.filter_filter]
  congr 1
  refine List.filter_congr fun p _ => ?_
  by_cases h : p.1 = key <;> simp [h, hk]

section ReadsOnce

variable {α β γ : Type} {key : String}

/-- serde's `missing field` and `duplicate field`. -/
theorem readsOnce_field (key : String) : ReadsOnce (field · key) key := by
  rintro fs v (h : field fs key = _)
  rw [count_keys]
  unfold field at h
  split at h
  · next hl => rw [hl]; rfl
  · cases h
  · cases h

theorem readsOnce_error (e : String) : ReadsOnce (fun _ => (.error e : Except String α)) key :=
  fun _ _ h => nomatch h

/-- What a reader insists on, the reader that runs it first insists on too. -/
theorem ReadsOnce.bind_left {r : Fields → Except String α} {k : α → Fields → Except String β}
    (hr : ReadsOnce r key) : ReadsOnce (fun fs => r fs >>= fun a => k a fs) key :=
  fun _ _ h => let ⟨_, ha, _⟩ := bind_eq_ok.1 h; hr ha

/-- What each continuation insists on, the reader that runs it last insists on too. -/
theorem ReadsOnce.bind_right {r : Fields → Except String α} {k : α → Fields → Except String β}
    (hk : ∀ a, ReadsOnce (k a) key) : ReadsOnce (fun fs => r fs >>= fun a => k a fs) key :=
  fun _ _ h => let ⟨a, _, hb⟩ := bind_eq_ok.1 h; hk a hb

/-- One field looked up and decoded, then the rest of the reader, which insists on `key`. -/
theorem ReadsOnce.field_bind (key' : String) (dec : Json → Except String β)
    {k : β → Fields → Except String γ} (hk : ∀ b, ReadsOnce (k b) key) :
    ReadsOnce (fun fs => field fs key' >>= fun j => dec j >>= fun b => k b fs) key :=
  ReadsOnce.bind_right fun _ => ReadsOnce.bind_right hk

/-- A flattened field's reader insists on a key that the enclosing struct does not take. -/
theorem ReadsOnce.without {r : Fields → Except String α} {keys : List String}
    (h : ReadsOnce r key) (hk : key ∉ keys) : ReadsOnce (fun fs => r (without keys fs)) key :=
  fun fs _ ha => count_keys_without hk fs ▸ h ha

/-- An internally tagged enum accepts a map only when its tag is there once. -/
theorem readsOnce_readTagged_tag {tag : String} {names : List String}
    {variant : Nat → Fields → Except String α} : ReadsOnce (readTagged tag names variant) tag := by
  rw [readTagged_eq]
  exact (readsOnce_field tag).bind_left

/-- An internally tagged enum insists on every other key that each of its variants insists on. -/
theorem ReadsOnce.readTagged {tag : String} {names : List String}
    {variant : Nat → Fields → Except String α} (hv : ∀ i, ReadsOnce (variant i) key) (hk : key ≠ tag) :
    ReadsOnce (Readable.readTagged tag names variant) key := by
  rw [readTagged_eq]
  exact ReadsOnce.field_bind tag (variantIndex names) fun i => (hv i).without (mt List.mem_singleton.1 hk)

end ReadsOnce

/-! ## Keys a reader passes over -/

/-- A reader whose outcome, errors included, is the same with an entry under `k` added. -/
def IgnoresKey {α : Type} (read : Fields → Except String α) (k : String) : Prop :=
  ∀ fs gs v, read (fs ++ (k, v) :: gs) = read (fs ++ gs)

theorem field_insert_of_ne {key k : String} (h : key ≠ k) (fs gs : Fields) (v : Json) :
    field (fs ++ (k, v) :: gs) key = field (fs ++ gs) key := by
  simp [field, List.filter_append, List.filter_cons, Ne.symm h]

section IgnoresKey

variable {α β γ : Type} {k : String}

theorem ignoresKey_const (x : Except String α) : IgnoresKey (fun _ => x) k := fun _ _ _ => rfl

theorem IgnoresKey.bind {r : Fields → Except String α} {f : α → Fields → Except String β}
    (hr : IgnoresKey r k) (hf : ∀ a, IgnoresKey (f a) k) :
    IgnoresKey (fun fs => r fs >>= fun a => f a fs) k := by
  intro fs gs v
  have hf' : ∀ a, f a (fs ++ (k, v) :: gs) = f a (fs ++ gs) := fun a => hf a fs gs v
  simp only [hr fs gs v, hf']

/-- One field looked up under another key and decoded, then the rest of the reader. -/
theorem IgnoresKey.field_bind (key : String) (h : key ≠ k) (dec : Json → Except String β)
    {f : β → Fields → Except String γ} (hf : ∀ b, IgnoresKey (f b) k) :
    IgnoresKey (fun fs => field fs key >>= fun j => dec j >>= fun b => f b fs) k :=
  IgnoresKey.bind (fun fs gs v => field_insert_of_ne h fs gs v) fun j => (ignoresKey_const (dec j)).bind hf

/-- A flattened field is handed an entry the enclosing struct does not take. -/
theorem IgnoresKey.without {r : Fields → Except String α} {keys : List String}
    (h : IgnoresKey r k) (hk : k ∉ keys) : IgnoresKey (fun fs => r (without keys fs)) k := by
  intro fs gs v
  have hw : Readable.without keys (fs ++ (k, v) :: gs) =
      Readable.without keys fs ++ (k, v) :: Readable.without keys gs := by
    simp [hk]
  simp only [hw, h _ _ v, without_append]

/-- An internally tagged enum passes over a key other than its tag when each variant does. -/
theorem IgnoresKey.readTagged {tag : String} {names : List String}
    {variant : Nat → Fields → Except String α} (hv : ∀ i, IgnoresKey (variant i) k) (hk : k ≠ tag) :
    IgnoresKey (Readable.readTagged tag names variant) k := by
  rw [readTagged_eq]
  exact IgnoresKey.field_bind tag (Ne.symm hk) (variantIndex names) fun i =>
    (hv i).without (mt List.mem_singleton.1 hk)

end IgnoresKey

end Readable

variable {L : Leaves} {J : LeafJson L}

/-! ## Keys read exactly once -/

/-- `ReadableTransactionData::V1` and its flattened kind. -/
theorem Transaction.ofReadable_readsOnce {key : String}
    (hkey : key ∈ ["kind", "version", "sender", "gas_payment", "expiration"]) :
    ReadsOnce (Transaction.ofReadable J) key := by
  have hkind : ReadsOnce (TransactionKind.ofReadable J) "kind" := readsOnce_readTagged_tag
  simp only [List.mem_cons, List.mem_singleton, List.not_mem_nil, or_false] at hkey
  rcases hkey with rfl | rfl | rfl | rfl | rfl
  · refine ReadsOnce.readTagged (fun | 0 => ?_ | _ + 1 => readsOnce_error _) (by decide)
    exact ReadsOnce.field_bind _ _ fun _ => ReadsOnce.field_bind _ _ fun _ =>
      ReadsOnce.field_bind _ _ fun _ => (hkind.without (by decide)).bind_left
  · exact readsOnce_readTagged_tag
  · exact ReadsOnce.readTagged
      (fun | 0 => (readsOnce_field _).bind_left | _ + 1 => readsOnce_error _) (by decide)
  · exact ReadsOnce.readTagged
      (fun | 0 => ReadsOnce.field_bind _ _ fun _ => (readsOnce_field _).bind_left
           | _ + 1 => readsOnce_error _) (by decide)
  · exact ReadsOnce.readTagged
      (fun | 0 => ReadsOnce.field_bind _ _ fun _ => ReadsOnce.field_bind _ _ fun _ =>
              (readsOnce_field _).bind_left
           | _ + 1 => readsOnce_error _) (by decide)

/-- `ReadableSignedTransaction` and its flattened transaction. -/
theorem SignedTransaction.ofReadable_readsOnce {key : String} (hkey : key ∈ kindKeys) :
    ReadsOnce (fun fs => SignedTransaction.ofReadable J (.object fs)) key := by
  show ReadsOnce (fun fs => do
    let signatures ← (JsonCodec.seq J.userSignature).fromJson (← field fs "signatures")
    let transaction ← (Transaction.readableFields J).fromFields (without ["signatures"] fs)
    return ({ transaction, signatures } : SignedTransaction L)) key
  by_cases hs : key = "signatures"
  · subst hs
    exact (readsOnce_field _).bind_left
  · have hkey : key ∈ ["kind", "version", "sender", "gas_payment", "expiration"] ++ ["signatures"] := hkey
    have htx := (List.mem_append.1 hkey).resolve_right (mt List.mem_singleton.1 hs)
    exact ReadsOnce.field_bind _ _ fun _ =>
      ((Transaction.ofReadable_readsOnce htx).without (mt List.mem_singleton.1 hs)).bind_left

variable (J) in
/-- The readers accept a map only when each of their own keys is in it exactly once, also
through `#[serde(flatten)]`. -/
theorem readable_keys_once :
    ReadsOnce Argument.ofReadable "type" ∧ ReadsOnce (InputArgument.ofReadable J) "type" ∧
      ReadsOnce (Command.ofReadable J) "command" ∧
      ReadsOnce (EndOfEpochTransactionKind.ofReadable J) "kind" ∧
      ReadsOnce (TransactionKind.ofReadable J) "kind" ∧
      (∀ key ∈ ["kind", "version", "sender", "gas_payment", "expiration"],
        ReadsOnce (Transaction.ofReadable J) key) ∧
      ∀ key ∈ kindKeys, ReadsOnce (fun fs => SignedTransaction.ofReadable J (.object fs)) key :=
  ⟨readsOnce_readTagged_tag, readsOnce_readTagged_tag, readsOnce_readTagged_tag,
    readsOnce_readTagged_tag, readsOnce_readTagged_tag, fun _ => Transaction.ofReadable_readsOnce,
    fun _ => SignedTransaction.ofReadable_readsOnce⟩

/-! ## Unknown keys ignored -/

variable (J) in
/-- The struct readers of the kind payloads, which share the transaction's map, ignore entries
under `k`, as serde's derived `visit_map` does with a key that names none of its fields. -/
structure LeafJson.IgnoresKey (k : String) : Prop where
  changeEpoch : Readable.IgnoresKey J.changeEpoch.fromFields k
  genesisTransaction : Readable.IgnoresKey J.genesisTransaction.fromFields k
  consensusCommitPrologue : Readable.IgnoresKey J.consensusCommitPrologue.fromFields k
  authenticatorStateUpdate : Readable.IgnoresKey J.authenticatorStateUpdate.fromFields k
  randomnessStateUpdate : Readable.IgnoresKey J.randomnessStateUpdate.fromFields k
  consensusCommitPrologueV2 : Readable.IgnoresKey J.consensusCommitPrologueV2.fromFields k

/-- Payloads read without looking at their entries. -/
theorem LeafJson.unit_ignoresKey (k : String) : LeafJson.unit.IgnoresKey k :=
  ⟨ignoresKey_const _, ignoresKey_const _, ignoresKey_const _, ignoresKey_const _,
    ignoresKey_const _, ignoresKey_const _⟩

section UnknownKey

variable {k : String} (hk : k ∉ kindKeys ++ ["inputs", "commands"])
include hk

theorem TransactionKind.ofReadable_ignoresKey (hJ : J.IgnoresKey k) :
    IgnoresKey (TransactionKind.ofReadable J) k := by
  have hne : ∀ key ∈ kindKeys ++ ["inputs", "commands"], key ≠ k := fun _ h => ne_of_mem_of_not_mem h hk
  have hpt : IgnoresKey (ProgrammableTransaction.ofReadable J) k :=
    IgnoresKey.field_bind "inputs" (hne _ (by simp)) _ fun _ =>
      IgnoresKey.field_bind "commands" (hne _ (by simp)) _ fun _ => ignoresKey_const _
  refine IgnoresKey.readTagged (fun
    | 0 => hpt.bind fun _ => ignoresKey_const _
    | 1 => hJ.changeEpoch.bind fun _ => ignoresKey_const _
    | 2 => hJ.genesisTransaction.bind fun _ => ignoresKey_const _
    | 3 => hJ.consensusCommitPrologue.bind fun _ => ignoresKey_const _
    | 4 => hJ.authenticatorStateUpdate.bind fun _ => ignoresKey_const _
    | 5 => IgnoresKey.field_bind "commands" (hne _ (by simp)) _ fun _ => ignoresKey_const _
    | 6 => hJ.randomnessStateUpdate.bind fun _ => ignoresKey_const _
    | 7 => hJ.consensusCommitPrologueV2.bind fun _ => ignoresKey_const _
    | _ + 8 => ignoresKey_const _) (hne _ (by simp [kindKeys])).symm

theorem Transaction.ofReadable_ignoresKey (hJ : J.IgnoresKey k) :
    IgnoresKey (Transaction.ofReadable J) k := by
  have hown : ["version", "sender", "gas_payment", "expiration"] ⊆ kindKeys ++ ["inputs", "commands"] := by
    simp [kindKeys]
  have hne : ∀ key ∈ ["version", "sender", "gas_payment", "expiration"], key ≠ k :=
    fun _ h => ne_of_mem_of_not_mem (hown h) hk
  refine IgnoresKey.readTagged (fun
    | 0 => ?_
    | _ + 1 => ignoresKey_const _) (hne _ (by simp)).symm
  exact IgnoresKey.field_bind _ (hne _ (by simp)) _ fun _ =>
    IgnoresKey.field_bind _ (hne _ (by simp)) _ fun _ =>
    IgnoresKey.field_bind _ (hne _ (by simp)) _ fun _ =>
    ((TransactionKind.ofReadable_ignoresKey hk hJ).without fun h => hk (hown (List.mem_cons_of_mem _ h))).bind
      fun _ => ignoresKey_const _

theorem SignedTransaction.ofReadable_ignoresKey (hJ : J.IgnoresKey k) :
    IgnoresKey (fun fs => SignedTransaction.ofReadable J (.object fs)) k := by
  have hs : "signatures" ≠ k := ne_of_mem_of_not_mem (by simp [kindKeys]) hk
  show IgnoresKey (fun fs => do
    let signatures ← (JsonCodec.seq J.userSignature).fromJson (← field fs "signatures")
    let transaction ← (Transaction.readableFields J).fromFields (without ["signatures"] fs)
    return ({ transaction, signatures } : SignedTransaction L)) k
  exact IgnoresKey.field_bind _ hs _ fun _ =>
    ((Transaction.ofReadable_ignoresKey hk hJ).without (mt List.mem_singleton.1 hs.symm)).bind
      fun _ => ignoresKey_const _

/-- No level refuses unknown fields: the flattened levels hand such an entry on and pass it
over in turn. -/
theorem readable_unknown_keys_ignored (hJ : J.IgnoresKey k) :
    IgnoresKey (TransactionKind.ofReadable J) k ∧ IgnoresKey (Transaction.ofReadable J) k ∧
      IgnoresKey (fun fs => SignedTransaction.ofReadable J (.object fs)) k :=
  ⟨TransactionKind.ofReadable_ignoresKey hk hJ, Transaction.ofReadable_ignoresKey hk hJ,
    SignedTransaction.ofReadable_ignoresKey hk hJ⟩

end UnknownKey

/-- A `"memo"` entry, over payloads read without looking at their entries. -/
theorem readable_unknown_keys_ignored_memo :
    "memo" ∉ kindKeys ++ ["inputs", "commands"] ∧ LeafJson.unit.IgnoresKey "memo" ∧
      IgnoresKey (fun fs => SignedTransaction.ofReadable LeafJson.unit (.object fs)) "memo" :=
  ⟨by decide, LeafJson.unit_ignoresKey "memo",
    (readable_unknown_keys_ignored (by decide) (LeafJson.unit_ignoresKey "memo")).2.2⟩

end Sui
