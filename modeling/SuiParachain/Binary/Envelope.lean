import SuiParachain.Binary.Kinds
/-!
# The signing envelope (`serialization.rs:963-1131`)

`SignedTransactionWithIntentMessage` is the binary pre-image signers sign:
`serialize_seq(Some(1))` around one struct whose `transaction` field goes through
`IntentMessageWrappedTransaction`, the tuple `(scope, version, app, transaction)` with the
context fixed at `(0, 0, 0)`. `visitSeq` is the visitor `V` over any `SeqAccess`; `bcs`'s
has an exact `size_hint`, so over BCS a length other than 1 is refused, while over one without
a hint the visitor stops after the first element (`visitSeq_two_unhinted`).

The pre-image is the plain binary `SignedTransaction` behind `01 00 00 00`
(`codec_eq_intent_prefix`), within the same limits; another intent triple in its place is
refused, naming the triple (`fromBytes_other_intent`).
-/
namespace Sui

open Bcs

variable {L : Leaves} (C : LeafCodecs L) {α σ : Type}

/-! ## `IntentMessageWrappedTransaction` -/

namespace IntentMessageWrappedTransaction

/-- The tuple `(u8, u8, u8, Transaction)`; `serialize_tuple` enters no container. -/
def tuple : Codec (UInt8 × UInt8 × UInt8 × Transaction L) :=
  Codec.u8.pair (Codec.u8.pair (Codec.u8.pair (Transaction.codec C)))

/-- `SerializeAs<Transaction>` (`:998-1012`): `(0u8, 0u8, 0u8, transaction)`. -/
def serializeAs (d : Nat) (tx : Transaction L) : Except Error Bytes := (tuple C).ser d (0, 0, 0, tx)

/-- `invalid intent message ({scope}, {version}, {app})` (`:1024-1026`). -/
def invalidIntent (scope version app : UInt8) : Error :=
  .custom s!"invalid intent message ({scope}, {version}, {app})"

/-- `DeserializeAs<Transaction>` (`:1014-1032`): the tuple, then the context check. -/
def deserializeAs (d : Nat) (bs : Bytes) : Except Error (Transaction L × Bytes) := do
  let ((scope, version, app, transaction), bs) ← (tuple C).de d bs
  if scope = 0 ∧ version = 0 ∧ app = 0 then pure (transaction, bs)
  else .error (invalidIntent scope version app)

def codec : Codec (Transaction L) where
  ser := serializeAs C
  de := deserializeAs C
  fits d tx := (tuple C).fits d (0, 0, 0, tx)
  ser_of_fits := (tuple C).ser_of_fits
  fits_of_ser := (tuple C).fits_of_ser
  ser_succ := (tuple C).ser_succ
  de_ser rest h := by simp [deserializeAs, (tuple C).de_ser rest h]
  ser_de {d bs tx rest} h := by
    obtain ⟨⟨⟨s, v, a, tx'⟩, r⟩, hde, hchk⟩ := bind_eq_ok.1 h
    by_cases hctx : s = 0 ∧ v = 0 ∧ a = 0
    · obtain ⟨rfl, rfl, rfl⟩ := hctx
      simp only [and_self, if_true, pure_eq_ok, Except.ok.injEq, Prod.mk.injEq] at hchk
      obtain ⟨rfl, rfl⟩ := hchk
      exact (tuple C).ser_de hde
    · simp [hctx] at hchk

theorem serializeAs_eq (d : Nat) (tx : Transaction L) :
    serializeAs C d tx = ((Transaction.codec C).ser d tx).map ([0, 0, 0] ++ ·) := by
  simp only [serializeAs, tuple, Codec.pair_ser, Codec.u8_ser, ok_bind]
  cases (Transaction.codec C).ser d tx <;> rfl

theorem deserializeAs_zero (d : Nat) (bs : Bytes) :
    deserializeAs C d (0 :: 0 :: 0 :: bs) = (Transaction.codec C).de d bs := by
  simp only [deserializeAs, tuple, Codec.pair_de, Codec.u8_de, ok_bind]
  cases (Transaction.codec C).de d bs <;> rfl

/-- Behind any other context, a transaction that reads is refused, naming the triple. -/
theorem deserializeAs_other {d : Nat} {bs rest : Bytes} {s v a : UInt8} {tx : Transaction L}
    (h : (Transaction.codec C).de d bs = .ok (tx, rest)) (hctx : ¬(s = 0 ∧ v = 0 ∧ a = 0)) :
    deserializeAs C d (s :: v :: a :: bs) = .error (invalidIntent s v a) := by
  simp only [deserializeAs, tuple, Codec.pair_de, Codec.u8_de, ok_bind, h, pure_eq_ok, hctx, if_false]

end IntentMessageWrappedTransaction

/-! ## The visitor `V` over any `SeqAccess` -/

/-- A `serde::de::SeqAccess` as `V::visit_seq` uses it, over a state `σ`. -/
structure SeqAccess (σ α : Type) where
  sizeHint : σ → Option Nat
  nextElement : σ → Except Error (Option (α × σ))

/-- `expected a sequence with length 1`, the one error `V` raises (`:1110-1120`). -/
def expectedLengthOne : Error := .custom "expected a sequence with length 1"

/-- `V::visit_seq` (`:1105-1125`): refuse a size hint other than 1, then take one element. -/
def visitSeq (seq : SeqAccess σ α) (s : σ) : Except Error (α × σ) :=
  if (seq.sizeHint s).any (· != 1) then .error expectedLengthOne
  else do
    match ← seq.nextElement s with
    | none => .error expectedLengthOne
    | some (a, s) => pure (a, s)

/-- `bcs`'s `SeqDeserializer`: its `size_hint` is `Some(remaining)`. -/
def bcsSeqAccess (c : Codec α) (d : Nat) : SeqAccess (Nat × Bytes) α where
  sizeHint s := some s.1
  nextElement
    | (0, _) => pure none
    | (n + 1, bs) => do
      let (a, bs) ← c.de d bs
      pure (some (a, (n, bs)))

/-- Over `bcs` the length is checked: any length but 1 is refused before an element is read. -/
theorem visitSeq_bcs_ne_one (c : Codec α) (d : Nat) {n : Nat} (bs : Bytes) (hn : n ≠ 1) :
    visitSeq (bcsSeqAccess c d) (n, bs) = .error expectedLengthOne := by
  simp [visitSeq, bcsSeqAccess, hn]

theorem visitSeq_bcs_one (c : Codec α) (d : Nat) (bs : Bytes) :
    visitSeq (bcsSeqAccess c d) (1, bs) = (c.de d bs).map fun p => (p.1, (0, p.2)) := by
  simp only [visitSeq, bcsSeqAccess, Option.any_some, bne_self_eq_false, Bool.false_eq_true,
    if_false, bind_pure_comp]
  cases c.de d bs <;> rfl

/-- A sequence with serde's default `size_hint`, `None`. -/
def unhintedSeqAccess : SeqAccess (List (Except Error α)) α where
  sizeHint _ := none
  nextElement
    | [] => pure none
    | .ok a :: rest => pure (some (a, rest))
    | .error e :: _ => .error e

/-- Without a size hint, two well-formed elements are accepted. -/
theorem visitSeq_two_unhinted (a₁ a₂ : α) :
    visitSeq unhintedSeqAccess [.ok a₁, .ok a₂] = .ok (a₁, [.ok a₂]) := rfl

/-! ## `SignedTransactionWithIntentMessage` -/

namespace SignedTransactionWithIntentMessage

/-- `BinarySignedTransactionWithIntentMessageRef` / `…Message` (`:1036-1048`). -/
def element : Codec (SignedTransaction L) :=
  (Codec.named "BinarySignedTransactionWithIntentMessageRef" "BinarySignedTransactionWithIntentMessage"
    ((IntentMessageWrappedTransaction.codec C).pair (Codec.seq C.userSignature))).map
    (fun st => (st.transaction, st.signatures)) (fun p => ⟨p.1, p.2⟩) (fun _ => rfl) (fun _ => rfl)

theorem element_ser (d : Nat) (st : SignedTransaction L) :
    (element C).ser (d + 1) st =
      ((IntentMessageWrappedTransaction.codec C).pair (Codec.seq C.userSignature)).ser d
        (st.transaction, st.signatures) := rfl

/-- `SerializeAs<SignedTransaction>`, binary branch (`:1068-1077`): a sequence of length 1. -/
def serializeAs (d : Nat) (st : SignedTransaction L) : Except Error Bytes := do
  let len ← outputSeqLen 1
  let e ← (element C).ser d st
  pure (len ++ e)

/-- `DeserializeAs<SignedTransaction>`, binary branch (`:1096-1129`). -/
def deserializeAs (d : Nat) (bs : Bytes) : Except Error (SignedTransaction L × Bytes) := do
  let (len, bs) ← parseLength bs
  let (st, (_, bs)) ← visitSeq (bcsSeqAccess (element C) d) (len, bs)
  pure (st, bs)

theorem outputSeqLen_one : outputSeqLen 1 = .ok [1] := rfl

theorem deserializeAs_one (d : Nat) (bs : Bytes) : deserializeAs C d (1 :: bs) = (element C).de d bs := by
  have hlen : parseLength (1 :: bs) = .ok (1, bs) := @parseLength_outputU32AsUleb128 1 (by decide) bs
  simp only [deserializeAs, hlen, ok_bind, visitSeq_bcs_one]
  cases (element C).de d bs <;> rfl

/-- The pre-image's bytes, the inner encodings one level down. -/
theorem serializeAs_split {d : Nat} {st : SignedTransaction L} {b : Bytes}
    (h : serializeAs C (d + 1) st = .ok b) :
    ∃ tb sb, (Transaction.codec C).ser d st.transaction = .ok tb ∧
      (Codec.seq C.userSignature).ser d st.signatures = .ok sb ∧ b = [1, 0, 0, 0] ++ tb ++ sb := by
  simp only [serializeAs, outputSeqLen_one, ok_bind, element_ser, Codec.pair_ser,
    IntentMessageWrappedTransaction.codec, IntentMessageWrappedTransaction.serializeAs_eq] at h
  cases ht : (Transaction.codec C).ser d st.transaction <;>
    cases hs : (Codec.seq C.userSignature).ser d st.signatures <;> simp only [ht, hs] at h <;> cases h
  exact ⟨_, _, rfl, rfl, rfl⟩

def codec : Codec (SignedTransaction L) where
  ser := serializeAs C
  de := deserializeAs C
  fits := (element C).fits
  ser_of_fits {d st} h := by
    obtain ⟨e, he⟩ := (element C).ser_of_fits h
    exact ⟨[1] ++ e, by simp [serializeAs, outputSeqLen_one, he]⟩
  fits_of_ser h := by
    obtain ⟨e, he, -⟩ := by simpa [serializeAs, outputSeqLen_one, bind_eq_ok] using h
    exact (element C).fits_of_ser he
  ser_succ h := by
    obtain ⟨e, he, rfl⟩ := by simpa [serializeAs, outputSeqLen_one, bind_eq_ok] using h
    simp [serializeAs, outputSeqLen_one, (element C).ser_succ he]
  de_ser rest h := by
    obtain ⟨e, he, rfl⟩ := by simpa [serializeAs, outputSeqLen_one, bind_eq_ok] using h
    rw [List.cons_append, deserializeAs_one]
    exact (element C).de_ser rest he
  ser_de {d bs st rest} h := by
    obtain ⟨⟨len, r⟩, hl, hv⟩ := bind_eq_ok.1 h
    obtain ⟨-, rfl⟩ := parseLength_canonical hl
    by_cases h1 : len = 1
    · subst h1
      obtain ⟨e, he, rfl⟩ := (element C).ser_de ((deserializeAs_one C d r).symm.trans h)
      exact ⟨[1] ++ e, by simp [serializeAs, outputSeqLen_one, he], rfl⟩
    · simp [visitSeq_bcs_ne_one _ _ _ h1] at hv

/-- The envelope stays within the limits of the plain signed transaction. -/
theorem codec_fits (d : Nat) (st : SignedTransaction L) :
    (codec C).fits d st = SignedTransaction.withinLimits C d st := by
  rw [← SignedTransaction.codec_fits]
  cases d <;> rfl

/-- The pre-image's layout: `uleb128(1) · 0 · 0 · 0 · bcs(transaction) · bcs(signatures)`. -/
theorem serializeAs_layout {st : SignedTransaction L} {b : Bytes} (h : toBytes (codec C) st = .ok b) :
    ∃ tb sb, toBytes (Transaction.codec C) st.transaction = .ok tb ∧
      toBytes (Codec.seq C.userSignature) st.signatures = .ok sb ∧
      b = outputU32AsUleb128 1 ++ [0, 0, 0] ++ tb ++ sb := by
  obtain ⟨tb, sb, htb, hsb, rfl⟩ := serializeAs_split C h
  exact ⟨tb, sb, (Transaction.codec C).ser_succ htb, (Codec.seq C.userSignature).ser_succ hsb, rfl⟩

/-- What was signed in one context is never read as a transaction in another. -/
theorem fromBytes_other_intent {st : SignedTransaction L} {b : Bytes} {s v a : UInt8}
    (h : toBytes (codec C) st = .ok b) (hctx : ¬(s = 0 ∧ v = 0 ∧ a = 0)) :
    fromBytes (codec C) (b.take 1 ++ [s, v, a] ++ b.drop 4) =
      .error (IntentMessageWrappedTransaction.invalidIntent s v a) := by
  obtain ⟨tb, sb, htb, -, rfl⟩ := serializeAs_split C h
  have hde := IntentMessageWrappedTransaction.deserializeAs_other C ((Transaction.codec C).de_ser sb htb) hctx
  simp only [fromBytes, maxContainerDepth, codec, List.append_assoc, List.cons_append, List.nil_append,
    List.take_succ_cons, List.take_zero, List.drop_succ_cons, List.drop_zero, List.singleton_append,
    deserializeAs_one, element, Codec.map_de, Codec.named_de, Codec.pair_de,
    IntentMessageWrappedTransaction.codec, hde, error_bind]
  rfl

/-- The scope byte of an unsigned genesis transaction's pre-image set to 1. -/
theorem fromBytes_scope_one :
    toBytes (codec LeafCodecs.unit) ⟨⟨.genesis (), (), (), ()⟩, []⟩ = .ok [1, 0, 0, 0, 0, 2, 0] ∧
      ¬((1 : UInt8) = 0 ∧ (0 : UInt8) = 0 ∧ (0 : UInt8) = 0) ∧
      fromBytes (codec LeafCodecs.unit) [1, 1, 0, 0, 0, 2, 0] =
        .error (IntentMessageWrappedTransaction.invalidIntent 1 0 0) :=
  ⟨rfl, by decide,
    @fromBytes_other_intent _ LeafCodecs.unit ⟨⟨.genesis (), (), (), ()⟩, []⟩ [1, 0, 0, 0, 0, 2, 0] 1 0 0
      rfl (by decide)⟩

/-- The two binary levels differ in the prefix only, failures included. -/
theorem codec_eq_intent_prefix :
    (∀ st : SignedTransaction L,
      toBytes (codec C) st = (toBytes (SignedTransaction.codec C) st).map ([1, 0, 0, 0] ++ ·)) ∧
    ∀ b : Bytes, fromBytes (codec C) ([1, 0, 0, 0] ++ b) = fromBytes (SignedTransaction.codec C) b := by
  constructor
  · intro st
    simp only [toBytes, maxContainerDepth, codec, serializeAs, outputSeqLen_one, ok_bind, element,
      SignedTransaction.codec, Codec.map_ser, Codec.named_ser, Codec.pair_ser,
      IntentMessageWrappedTransaction.codec, IntentMessageWrappedTransaction.serializeAs_eq]
    cases (Transaction.codec C).ser 499 st.transaction <;>
      cases (Codec.seq C.userSignature).ser 499 st.signatures <;> rfl
  · intro b
    simp only [fromBytes, maxContainerDepth, codec, List.cons_append, List.nil_append, deserializeAs_one,
      element, SignedTransaction.codec, Codec.map_de, Codec.named_de, Codec.pair_de,
      IntentMessageWrappedTransaction.codec, IntentMessageWrappedTransaction.deserializeAs_zero]

/-- A genesis transaction signed `MAX_SEQUENCE_LENGTH + 1` times. -/
def oversigned : SignedTransaction Leaves.unit :=
  ⟨⟨.genesis (), (), (), ()⟩, List.replicate (2 ^ 31) ()⟩

/-- One signature more than `serialize_seq` takes: the envelope has no bytes. -/
theorem oversigned_unserializable :
    toBytes (codec LeafCodecs.unit) oversigned = .error (.exceededMaxLen (2 ^ 31)) := by
  have htx : (IntentMessageWrappedTransaction.codec LeafCodecs.unit).ser 499
      oversigned.transaction = .ok [0, 0, 0, 0, 2] := rfl
  have hlen : oversigned.signatures.length = 2 ^ 31 := List.length_replicate _ _
  have hsig := Codec.seq_ser_of_gt LeafCodecs.unit.userSignature 499 oversigned.signatures
    (by rw [hlen]; decide)
  rw [hlen] at hsig
  simp only [toBytes, maxContainerDepth, codec, serializeAs, outputSeqLen_one, ok_bind, element_ser,
    Codec.pair, htx, hsig, error_bind]

end SignedTransactionWithIntentMessage

end Sui
