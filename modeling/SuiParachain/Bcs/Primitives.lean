import Mathlib.Data.Nat.Bitwise
/-!
# BCS primitives (`bcs` crate, `ser.rs` / `de.rs`)

The byte-level rules every binary-mode `Serialize` / `Deserialize` impl of
`serialization.rs` bottoms out in: one-byte reads (`Deserializer::next`), little-endian
fixed-width integers (`to_le_bytes` / `from_le_bytes`), booleans, and the ULEB128 integer
that BCS uses for sequence lengths and variant indices
(`output_u32_as_uleb128` / `parse_u32_from_uleb128`).

Every reader is a prefix parser `Bytes → Except Error (α × Bytes)`: it returns the value
and the bytes it did not consume. For each primitive we prove the two halves of a
canonical codec:

* `parse… (write… x ++ rest) = .ok (x, rest)` — the reader reads back what the writer wrote;
* `parse… bs = .ok (x, rest) → bs = write… x ++ rest` — the reader accepts nothing else.

The second half is where ULEB128 needs care: `parse_u32_from_uleb128` refuses a zero last
digit after the first byte (`nonCanonicalUleb128Encoding`) and values past `u32`
(`uleb128_canonical`).
-/
namespace Sui
namespace Bcs

abbrev Bytes := List UInt8

/-- `bcs::Error`, the variants the transaction codec can meet. `custom` carries the
message of a `serde::de::Error::custom`. -/
inductive Error where
  | eof
  | remainingInput
  | exceededMaxLen (len : Nat)
  | exceededContainerDepthLimit (name : String)
  | expectedBoolean
  | nonCanonicalUleb128Encoding
  | integerOverflowDuringUleb128Decoding
  | custom (msg : String)
  deriving DecidableEq, Repr

/-- `bcs::MAX_SEQUENCE_LENGTH`. -/
def maxSequenceLength : Nat := 2 ^ 31 - 1

/-- `bcs::MAX_CONTAINER_DEPTH`, the depth budget of `to_bytes` and `from_bytes`. -/
def maxContainerDepth : Nat := 500

/-! ## Bytes and bits -/

theorem toNat_toUInt8 (n : Nat) : n.toUInt8.toNat = n % 256 := BitVec.toNat_ofNat n 8

theorem toUInt8_toNat (b : UInt8) : b.toNat.toUInt8 = b :=
  UInt8.toNat.inj (by rw [toNat_toUInt8]; exact Nat.mod_eq_of_lt b.toNat_lt_size)

theorem toNat_land (a b : UInt8) : (a &&& b).toNat = a.toNat &&& b.toNat := BitVec.toNat_and ..

theorem toNat_lor (a b : UInt8) : (a ||| b).toNat = a.toNat ||| b.toNat := BitVec.toNat_or ..

theorem toNat_lt_256 (b : UInt8) : b.toNat < 256 := b.toNat_lt_size

/-- Or-ing in bits above the ones already set is addition. -/
theorem or_shiftLeft_eq_add {a s : Nat} (b : Nat) (h : a < 2 ^ s) :
    a ||| b <<< s = a + b * 2 ^ s := by
  rw [Nat.lor_comm, Nat.shiftLeft_eq, Nat.mul_comm, ← Nat.mul_add_lt_is_or h, Nat.add_comm]

/-- The low seven bits of a byte (`byte & 0x7f`). -/
theorem toNat_land_0x7f (b : UInt8) : (b &&& 0x7f).toNat = b.toNat % 128 := by
  rw [toNat_land]
  exact Nat.and_pow_two_sub_one_eq_mod b.toNat 7

/-- A byte is its own low seven bits exactly when its high bit is clear. -/
theorem land_0x7f_eq_iff (b : UInt8) : (b &&& 0x7f) = b ↔ b.toNat < 128 := by
  constructor
  · intro h
    have := congrArg UInt8.toNat h
    rw [toNat_land_0x7f] at this
    have := Nat.mod_lt b.toNat (show 128 > 0 by omega)
    omega
  · intro h
    exact UInt8.toNat.inj (by rw [toNat_land_0x7f]; exact Nat.mod_eq_of_lt h)

/-- `(v & 0x7f) as u8 | 0x80`: a low digit with the continuation bit. -/
theorem toNat_continuation (v : Nat) : ((v &&& 0x7f).toUInt8 ||| 0x80).toNat = v % 128 + 128 := by
  have h7 : v &&& 0x7f = v % 128 := Nat.and_pow_two_sub_one_eq_mod v 7
  have hlt : v % 128 < 2 ^ 7 := Nat.mod_lt _ (by omega)
  rw [toNat_lor, toNat_toUInt8, h7, Nat.mod_eq_of_lt (by omega : v % 128 < 256)]
  exact or_shiftLeft_eq_add 1 hlt

/-! ## Reading bytes -/

/-- `Deserializer::next`: one byte, `Eof` on empty input. -/
def next : Bytes → Except Error (UInt8 × Bytes)
  | [] => .error .eof
  | b :: bs => .ok (b, bs)

/-- `fill_slice`: exactly `n` bytes, `Eof` when fewer remain. -/
def fillSlice (n : Nat) (bs : Bytes) : Except Error (Bytes × Bytes) :=
  if n ≤ bs.length then .ok (bs.take n, bs.drop n) else .error .eof

@[simp] theorem next_cons (b : UInt8) (bs : Bytes) : next (b :: bs) = .ok (b, bs) := rfl

theorem next_eq_ok {bs rest : Bytes} {b : UInt8} (h : next bs = .ok (b, rest)) :
    bs = b :: rest := by
  cases bs with
  | nil => cases h
  | cons c cs => cases h; rfl

theorem fillSlice_append (xs rest : Bytes) :
    fillSlice xs.length (xs ++ rest) = .ok (xs, rest) := by
  simp [fillSlice]

theorem fillSlice_eq_ok {n : Nat} {bs xs rest : Bytes} (h : fillSlice n bs = .ok (xs, rest)) :
    xs.length = n ∧ bs = xs ++ rest := by
  unfold fillSlice at h
  split at h
  · cases h
    exact ⟨by simp; omega, (List.take_append_drop n bs).symm⟩
  · cases h

/-! ## Fixed-width little-endian integers -/

/-- `to_le_bytes` of the low `w` bytes of `n`. -/
def leBytes : Nat → Nat → Bytes
  | 0, _ => []
  | w + 1, n => n.toUInt8 :: leBytes w (n / 256)

/-- `from_le_bytes`. -/
def leValue : Bytes → Nat
  | [] => 0
  | b :: bs => b.toNat + 256 * leValue bs

@[simp] theorem length_leBytes (w n : Nat) : (leBytes w n).length = w := by
  induction w generalizing n <;> simp [leBytes, *]

theorem leValue_leBytes (w n : Nat) : leValue (leBytes w n) = n % 256 ^ w := by
  induction w generalizing n with
  | zero => simp [leBytes, leValue, Nat.mod_one]
  | succ w ih =>
    simp only [leBytes, leValue, toNat_toUInt8, ih, Nat.pow_succ]
    rw [Nat.mul_comm (256 ^ w) 256, Nat.mod_mul]

theorem leValue_lt (bs : Bytes) : leValue bs < 256 ^ bs.length := by
  induction bs with
  | nil => simp [leValue]
  | cons b bs ih =>
    simp only [leValue, List.length_cons, Nat.pow_succ]
    have := toNat_lt_256 b
    generalize 256 ^ bs.length = P at *
    omega

theorem leBytes_leValue (bs : Bytes) : leBytes bs.length (leValue bs) = bs := by
  induction bs with
  | nil => rfl
  | cons b bs ih =>
    simp only [List.length_cons, leBytes, leValue]
    have hb := toNat_lt_256 b
    have hdiv : (b.toNat + 256 * leValue bs) / 256 = leValue bs := by omega
    rw [hdiv, ih]
    congr 1
    exact UInt8.toNat.inj (by rw [toNat_toUInt8]; omega)

/-- `serialize_u16`. -/
def serializeU16 (x : UInt16) : Bytes := leBytes 2 x.toNat

/-- `parse_u16`. -/
def parseU16 (bs : Bytes) : Except Error (UInt16 × Bytes) := do
  let (le, bs) ← fillSlice 2 bs
  pure (UInt16.ofNat (leValue le), bs)

/-- `serialize_u64`. -/
def serializeU64 (x : UInt64) : Bytes := leBytes 8 x.toNat

/-- `parse_u64`. -/
def parseU64 (bs : Bytes) : Except Error (UInt64 × Bytes) := do
  let (le, bs) ← fillSlice 8 bs
  pure (UInt64.ofNat (leValue le), bs)

theorem size_uint16 : UInt16.size = 256 ^ 2 := rfl

theorem size_uint64 : UInt64.size = 256 ^ 8 := rfl

theorem parseU16_serializeU16 (x : UInt16) (rest : Bytes) :
    parseU16 (serializeU16 x ++ rest) = .ok (x, rest) := by
  have h := fillSlice_append (serializeU16 x) rest
  have hx : x.toNat < 256 ^ 2 := size_uint16 ▸ x.toNat_lt_size
  simp only [serializeU16, length_leBytes] at h
  simp only [parseU16, serializeU16, h, bind, Except.bind, pure, Except.pure, leValue_leBytes,
    Nat.mod_eq_of_lt hx]
  congr
  exact UInt16.toNat.inj (UInt16.toNat_ofNat_of_lt x.toNat_lt_size)

theorem parseU16_canonical {bs rest : Bytes} {x : UInt16} (h : parseU16 bs = .ok (x, rest)) :
    bs = serializeU16 x ++ rest := by
  simp only [parseU16, bind, Except.bind, pure, Except.pure] at h
  split at h
  · cases h
  · rename_i le hf
    cases h
    obtain ⟨hl, rfl⟩ := fillSlice_eq_ok hf
    have hv := leValue_lt le.1
    rw [hl, ← size_uint16] at hv
    simp only [serializeU16, UInt16.toNat_ofNat_of_lt hv, ← hl, leBytes_leValue]

theorem parseU64_serializeU64 (x : UInt64) (rest : Bytes) :
    parseU64 (serializeU64 x ++ rest) = .ok (x, rest) := by
  have h := fillSlice_append (serializeU64 x) rest
  have hx : x.toNat < 256 ^ 8 := size_uint64 ▸ x.toNat_lt_size
  simp only [serializeU64, length_leBytes] at h
  simp only [parseU64, serializeU64, h, bind, Except.bind, pure, Except.pure, leValue_leBytes,
    Nat.mod_eq_of_lt hx]
  congr
  exact UInt64.toNat.inj (UInt64.toNat_ofNat_of_lt x.toNat_lt_size)

theorem parseU64_canonical {bs rest : Bytes} {x : UInt64} (h : parseU64 bs = .ok (x, rest)) :
    bs = serializeU64 x ++ rest := by
  simp only [parseU64, bind, Except.bind, pure, Except.pure] at h
  split at h
  · cases h
  · rename_i le hf
    cases h
    obtain ⟨hl, rfl⟩ := fillSlice_eq_ok hf
    have hv := leValue_lt le.1
    rw [hl, ← size_uint64] at hv
    simp only [serializeU64, UInt64.toNat_ofNat_of_lt hv, ← hl, leBytes_leValue]

/-! ## Booleans -/

/-- `serialize_bool`. -/
def serializeBool (b : Bool) : Bytes := [if b then 1 else 0]

/-- `parse_bool`: `0` and `1` only, `ExpectedBoolean` otherwise. -/
def parseBool (bs : Bytes) : Except Error (Bool × Bytes) := do
  let (byte, bs) ← next bs
  if byte = 0 then pure (false, bs)
  else if byte = 1 then pure (true, bs)
  else .error .expectedBoolean

theorem parseBool_serializeBool (b : Bool) (rest : Bytes) :
    parseBool (serializeBool b ++ rest) = .ok (b, rest) := by
  cases b <;> rfl

theorem parseBool_canonical {bs rest : Bytes} {b : Bool} (h : parseBool bs = .ok (b, rest)) :
    bs = serializeBool b ++ rest := by
  cases bs with
  | nil => cases h
  | cons byte bs =>
    simp only [parseBool, next_cons, bind, Except.bind] at h
    split at h
    · cases h; simp_all [serializeBool]
    · split at h
      · cases h; simp_all [serializeBool]
      · cases h

end Bcs
end Sui
