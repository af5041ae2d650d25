import SuiParachain.Bcs.Codec
/-!
# Sequences, byte buffers and derived enums

* `Codec.seq`: serde's `Vec<T>` through `bcs`: `serialize_seq(Some(len))` writes the length
  (`output_seq_len`), then every element at the sequence's own depth; the reader is serde's
  `VecVisitor` over `bcs`'s `SeqDeserializer`, which hands out exactly `len` elements.
* `Codec.bytes`: `serialize_bytes` / `deserialize_byte_buf`, the `serde_with::Bytes` path of
  `CallArg::Pure`.
* `Codec.enum`: a `#[derive(Serialize, Deserialize)]` enum. `serializeVariant` enters the
  enum's container, writes the variant index as ULEB128 (`output_variant_index`), then the
  variant's fields; `deserializeEnum` enters the container, reads the index
  (`parse_u32_from_uleb128`) and hands it to the derived visitor, which refuses an index
  past the last variant (`invalidVariantIndex`). An enum is described by its `Variants`,
  whose laws say the visitor reads variant `index a` back as `a` and nothing else;
  `Variants.ofFields` builds one from each variant's `Payload` and codec.
-/
namespace Sui
namespace Bcs

variable {α β : Type}

namespace Codec

/-! ## `Vec<T>` -/

/-- `SerializeSeq::serialize_element` over the elements, in order, at depth `d`. -/
def serElems (c : Codec α) (d : Nat) : List α → Except Error Bytes
  | [] => pure []
  | a :: as => do
    let x ← c.ser d a
    let xs ← serElems c d as
    pure (x ++ xs)

/-- serde's `VecVisitor`: `next_element` until `bcs`'s `SeqDeserializer` has no element left. -/
def deElems (c : Codec α) (d : Nat) : Nat → Bytes → Except Error (List α × Bytes)
  | 0, bs => pure ([], bs)
  | n + 1, bs => do
    let (a, bs) ← c.de d bs
    let (as, bs) ← deElems c d n bs
    pure (a :: as, bs)

theorem serElems_of_all {c : Codec α} {d : Nat} :
    ∀ {as : List α}, as.all (c.fits d) → ∃ b, serElems c d as = .ok b
  | [], _ => ⟨[], rfl⟩
  | a :: as, h => by
    simp only [List.all_cons, Bool.and_eq_true] at h
    obtain ⟨x, hx⟩ := c.ser_of_fits h.1
    obtain ⟨xs, hxs⟩ := serElems_of_all h.2
    exact ⟨x ++ xs, by simp [serElems, hx, hxs]⟩

theorem all_of_serElems {c : Codec α} {d : Nat} :
    ∀ {as : List α} {b : Bytes}, serElems c d as = .ok b → as.all (c.fits d)
  | [], _, _ => rfl
  | a :: as, b, h => by
    obtain ⟨x, hx, xs, hxs, -⟩ := by simpa [serElems, bind_eq_ok] using h
    simp [c.fits_of_ser hx, all_of_serElems hxs]

theorem serElems_succ {c : Codec α} {d : Nat} :
    ∀ {as : List α} {b : Bytes}, serElems c d as = .ok b → serElems c (d + 1) as = .ok b
  | [], _, h => h
  | a :: as, b, h => by
    obtain ⟨x, hx, xs, hxs, rfl⟩ := by simpa [serElems, bind_eq_ok] using h
    simp [serElems, c.ser_succ hx, serElems_succ hxs]

theorem deElems_serElems {c : Codec α} {d : Nat} (rest : Bytes) :
    ∀ {as : List α} {b : Bytes}, serElems c d as = .ok b →
      deElems c d as.length (b ++ rest) = .ok (as, rest)
  | [], _, h => by cases h; rfl
  | a :: as, b, h => by
    obtain ⟨x, hx, xs, hxs, rfl⟩ := by simpa [serElems, bind_eq_ok] using h
    simp [deElems, List.append_assoc, c.de_ser _ hx, deElems_serElems rest hxs]

theorem serElems_deElems {c : Codec α} {d : Nat} :
    ∀ {n : Nat} {bs rest : Bytes} {as : List α}, deElems c d n bs = .ok (as, rest) →
      as.length = n ∧ ∃ b, serElems c d as = .ok b ∧ bs = b ++ rest
  | 0, bs, rest, as, h => by cases h; exact ⟨rfl, [], rfl, rfl⟩
  | n + 1, bs, rest, as, h => by
    simp only [deElems, bind_eq_ok, pure_eq_ok, Except.ok.injEq, Prod.mk.injEq, Prod.exists] at h
    obtain ⟨a, r, ha, as', r', has, rfl, rfl⟩ := h
    obtain ⟨x, hx, rfl⟩ := c.ser_de ha
    obtain ⟨hlen, xs, hxs, rfl⟩ := serElems_deElems has
    exact ⟨by simp [hlen], x ++ xs, by simp [serElems, hx, hxs], by simp⟩

/-- `Vec<T>`: the length, then the elements. -/
def seq (c : Codec α) : Codec (List α) where
  ser d as := do
    let len ← outputSeqLen as.length
    let body ← serElems c d as
    pure (len ++ body)
  de d bs := do
    let (len, bs) ← parseLength bs
    deElems c d len bs
  fits d as := decide (as.length ≤ maxSequenceLength) && as.all (c.fits d)
  ser_of_fits := fun {_ as} h => by
    simp only [Bool.and_eq_true, decide_eq_true_eq] at h
    obtain ⟨xs, hxs⟩ := serElems_of_all h.2
    exact ⟨outputU32AsUleb128 as.length ++ xs, by simp [outputSeqLen_of_le h.1, hxs]⟩
  fits_of_ser := fun h => by
    obtain ⟨len, hlen, xs, hxs, -⟩ := by simpa [bind_eq_ok] using h
    simp [(outputSeqLen_eq_ok hlen).1, all_of_serElems hxs]
  de_ser := fun rest h => by
    obtain ⟨len, hlen, xs, hxs, rfl⟩ := by simpa [bind_eq_ok] using h
    obtain ⟨hle, rfl⟩ := outputSeqLen_eq_ok hlen
    simp [List.append_assoc, parseLength_outputU32AsUleb128 hle, deElems_serElems rest hxs]
  ser_de := fun {_ _ as _} h => by
    obtain ⟨⟨len, r⟩, hl, he⟩ := bind_eq_ok.1 h
    obtain ⟨hle, rfl⟩ := parseLength_canonical hl
    obtain ⟨rfl, xs, hxs, rfl⟩ := serElems_deElems he
    exact ⟨outputU32AsUleb128 as.length ++ xs, by simp [outputSeqLen_of_le hle, hxs], by simp⟩
  ser_succ := fun h => by
    obtain ⟨len, hlen, xs, hxs, rfl⟩ := by simpa [bind_eq_ok] using h
    simp [hlen, serElems_succ hxs]

/-- A sequence longer than `MAX_SEQUENCE_LENGTH` is refused before any element is written. -/
theorem seq_ser_of_gt (c : Codec α) (d : Nat) (as : List α) (h : maxSequenceLength < as.length) :
    (seq c).ser d as = .error (.exceededMaxLen as.length) := by
  simp only [seq, outputSeqLen, gt_iff_lt, if_pos h, error_bind]

@[simp] theorem fits_seq (c : Codec α) (d : Nat) (as : List α) :
    (seq c).fits d as = (decide (as.length ≤ maxSequenceLength) && as.all (c.fits d)) := rfl

/-! ## Byte buffers -/

/-- `serialize_bytes` / `deserialize_byte_buf` (`next_bytes`): a length, then raw bytes. -/
def bytes : Codec Bytes where
  ser _ v := do
    let len ← outputSeqLen v.length
    pure (len ++ v)
  de _ bs := do
    let (len, bs) ← parseLength bs
    fillSlice len bs
  fits _ v := decide (v.length ≤ maxSequenceLength)
  ser_of_fits := fun {_ v} h =>
    ⟨outputU32AsUleb128 v.length ++ v, by simp [outputSeqLen_of_le (of_decide_eq_true h)]⟩
  fits_of_ser := fun h => by
    obtain ⟨len, hlen, -⟩ := by simpa [bind_eq_ok] using h
    simp [(outputSeqLen_eq_ok hlen).1]
  de_ser := fun rest h => by
    obtain ⟨len, hlen, rfl⟩ := by simpa [bind_eq_ok] using h
    obtain ⟨hle, rfl⟩ := outputSeqLen_eq_ok hlen
    simp [List.append_assoc, parseLength_outputU32AsUleb128 hle, fillSlice_append]
  ser_de := fun {_ _ v _} h => by
    obtain ⟨⟨len, r⟩, hl, hf⟩ := bind_eq_ok.1 h
    obtain ⟨hle, rfl⟩ := parseLength_canonical hl
    obtain ⟨rfl, rfl⟩ := fillSlice_eq_ok hf
    exact ⟨outputU32AsUleb128 v.length ++ v, by simp [outputSeqLen_of_le hle], by simp⟩
  ser_succ := id

/-- A unit variant's (absent) fields. -/
def unit : Codec Unit := total (fun _ => []) (fun bs => .ok ((), bs)) (fun _ _ => rfl)
  (fun h => by cases h; rfl)

end Codec

/-! ## Derived enums -/

/-- `serialize_{unit,newtype,tuple,struct}_variant`: enter the enum's container, write the
variant index, then the variant's fields. -/
def serializeVariant (name : String) (index : Nat) (payload : Nat → Except Error Bytes) :
    Nat → Except Error Bytes
  | 0 => .error (.exceededContainerDepthLimit name)
  | d + 1 => do
    let p ← payload d
    pure (outputU32AsUleb128 index ++ p)

/-- `deserialize_enum`: enter the container, read the variant index, run the variant visitor. -/
def deserializeEnum (name : String) (variant : Nat → Nat → Bytes → Except Error (α × Bytes)) :
    Nat → Bytes → Except Error (α × Bytes)
  | 0, _ => .error (.exceededContainerDepthLimit name)
  | d + 1, bs => do
    let (i, bs) ← parseU32FromUleb128 bs
    variant i d bs

/-- The derived variant visitor's error for an index past the last variant
(`Error::invalid_value(Unexpected::Unsigned(i), &"variant index 0 <= i < count")`). -/
def invalidVariantIndex (i count : Nat) : Error :=
  .custom s!"invalid value: integer `{i}`, expected variant index 0 <= i < {count}"

/-- One variant read through its fields' codec (`VariantAccess::newtype_variant_seed` and
friends). -/
def variantOf (c : Codec β) (k : β → α) (d : Nat) (bs : Bytes) : Except Error (α × Bytes) :=
  (c.de d bs).map fun p => (k p.1, p.2)

theorem variantOf_ser {c : Codec β} {k : β → α} {d : Nat} {x : β} {b : Bytes} {a : α}
    (rest : Bytes) (h : c.ser d x = .ok b) (hk : k x = a) :
    variantOf c k d (b ++ rest) = .ok (a, rest) := by
  simp [variantOf, c.de_ser rest h, Except.map, hk]

theorem variantOf_canonical {c : Codec β} {k : β → α} {d : Nat} {bs rest : Bytes} {a : α}
    (h : variantOf c k d bs = .ok (a, rest)) :
    ∃ x b, a = k x ∧ c.ser d x = .ok b ∧ bs = b ++ rest := by
  unfold variantOf at h
  cases hde : c.de d bs with
  | error e => simp [hde, Except.map] at h
  | ok p =>
    simp only [hde, Except.map, Except.ok.injEq, Prod.mk.injEq] at h
    obtain ⟨rfl, rfl⟩ := h
    obtain ⟨b, hb, hbs⟩ := c.ser_de hde
    exact ⟨p.1, b, rfl, hb, hbs⟩

/-- A variant read through `k` and then converted by `g` is read through `g ∘ k`. -/
theorem variantOf_map {γ : Type} {c : Codec β} {k : β → α} (g : α → γ) (d : Nat) (bs : Bytes) :
    (variantOf c k d bs).map (fun p => (g p.1, p.2)) = variantOf c (fun x => g (k x)) d bs := by
  unfold variantOf
  cases c.de d bs <;> rfl

/-- A derived enum: the declaration index of each variant, the serialization of its fields,
and the derived visitor reading the fields of variant `i`, with the laws tying them. -/
structure Variants (α : Type) where
  index : α → Nat
  payload : Nat → α → Except Error Bytes
  fits : Nat → α → Bool
  variant : Nat → Nat → Bytes → Except Error (α × Bytes)
  index_lt : ∀ a, index a < 2 ^ 32
  payload_of_fits : ∀ {d a}, fits d a → ∃ b, payload d a = .ok b
  fits_of_payload : ∀ {d a b}, payload d a = .ok b → fits d a
  variant_payload : ∀ {d a b} (rest : Bytes), payload d a = .ok b →
    variant (index a) d (b ++ rest) = .ok (a, rest)
  payload_variant : ∀ {i d bs a rest}, variant i d bs = .ok (a, rest) →
    index a = i ∧ ∃ b, payload d a = .ok b ∧ bs = b ++ rest
  payload_succ : ∀ {d a b}, payload d a = .ok b → payload (d + 1) a = .ok b

/-- The fields one variant writes: their codec and their value. -/
structure Payload where
  β : Type
  codec : Codec β
  value : β

/-- A derived enum whose variant `a` writes the fields `fields a`; the laws about its payload
follow from the fields' codec, and the visitor's two laws are left to each enum. -/
def Variants.ofFields (index : α → Nat) (fields : α → Payload)
    (variant : Nat → Nat → Bytes → Except Error (α × Bytes)) (index_lt : ∀ a, index a < 2 ^ 32)
    (variant_fields : ∀ {d a b} (rest : Bytes), (fields a).codec.ser d (fields a).value = .ok b →
      variant (index a) d (b ++ rest) = .ok (a, rest))
    (fields_variant : ∀ {i d bs a rest}, variant i d bs = .ok (a, rest) →
      index a = i ∧ ∃ b, (fields a).codec.ser d (fields a).value = .ok b ∧ bs = b ++ rest) :
    Variants α where
  index := index
  payload d a := (fields a).codec.ser d (fields a).value
  fits d a := (fields a).codec.fits d (fields a).value
  variant := variant
  index_lt := index_lt
  payload_of_fits h := Codec.ser_of_fits _ h
  fits_of_payload h := Codec.fits_of_ser _ h
  variant_payload := variant_fields
  payload_variant := fields_variant
  payload_succ h := Codec.ser_succ _ h

/-- A variant read through `k`, whose values write their fields through the same codec. -/
theorem variantOf_fields {c : Codec β} {k : β → α} {index : α → Nat} {fields : α → Payload}
    {i d : Nat} {bs rest : Bytes} {a : α} (h : variantOf c k d bs = .ok (a, rest))
    (hk : ∀ x, index (k x) = i ∧ fields (k x) = ⟨β, c, x⟩) :
    index a = i ∧ ∃ b, (fields a).codec.ser d (fields a).value = .ok b ∧ bs = b ++ rest := by
  obtain ⟨x, b, rfl, hb, rfl⟩ := variantOf_canonical h
  obtain ⟨hi, hf⟩ := hk x
  exact ⟨hi, b, by rw [hf]; exact hb, rfl⟩

theorem serializeVariant_eq_ok {name : String} {i d : Nat} {payload : Nat → Except Error Bytes}
    {b : Bytes} (h : serializeVariant name i payload d = .ok b) :
    ∃ d' p, d = d' + 1 ∧ payload d' = .ok p ∧ b = outputU32AsUleb128 i ++ p := by
  cases d with
  | zero => cases h
  | succ d =>
    obtain ⟨p, hp, rfl⟩ := by simpa [serializeVariant, bind_eq_ok] using h
    exact ⟨d, p, rfl, hp, rfl⟩

/-- The derived enum codec. -/
def Codec.enum (serName deName : String) (v : Variants α) : Codec α where
  ser d a := serializeVariant serName (v.index a) (fun d => v.payload d a) d
  de := deserializeEnum deName v.variant
  fits
    | 0, _ => false
    | d + 1, a => v.fits d a
  ser_of_fits := fun {d a} h => by
    cases d with
    | zero => cases h
    | succ d =>
      obtain ⟨p, hp⟩ := v.payload_of_fits h
      exact ⟨outputU32AsUleb128 (v.index a) ++ p, by simp [serializeVariant, hp]⟩
  fits_of_ser := fun h => by
    obtain ⟨d', p, rfl, hp, -⟩ := serializeVariant_eq_ok h
    exact v.fits_of_payload hp
  de_ser := fun {_ a _} rest h => by
    obtain ⟨d', p, rfl, hp, rfl⟩ := serializeVariant_eq_ok h
    simp [deserializeEnum, List.append_assoc,
      parseU32FromUleb128_outputU32AsUleb128 (v.index_lt a), v.variant_payload rest hp]
  ser_de := fun {d _ a _} h => by
    cases d with
    | zero => cases h
    | succ d =>
      obtain ⟨⟨i, r⟩, hi, hv⟩ := bind_eq_ok.1 h
      obtain ⟨-, rfl⟩ := parseU32FromUleb128_canonical hi
      obtain ⟨rfl, p, hp, rfl⟩ := v.payload_variant hv
      exact ⟨outputU32AsUleb128 (v.index a) ++ p, by simp [serializeVariant, hp], by simp⟩
  ser_succ := fun h => by
    obtain ⟨d', p, rfl, hp, rfl⟩ := serializeVariant_eq_ok h
    simp [serializeVariant, v.payload_succ hp]

end Bcs
end Sui
