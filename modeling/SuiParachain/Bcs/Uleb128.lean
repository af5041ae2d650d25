import SuiParachain.Bcs.Primitives
import Mathlib.Tactic.Ring
/-!
# ULEB128 (`output_u32_as_uleb128` / `parse_u32_from_uleb128`)

BCS writes sequence lengths and variant indices as unsigned LEB128 of a `u32`: seven bits
per byte, lowest first, the high bit set on every byte but the last
(`bcs/src/ser.rs`, `output_u32_as_uleb128`). The reader (`bcs/src/de.rs`,
`parse_u32_from_uleb128`) runs `for shift in (0..32).step_by(7)`, i.e. at most five bytes,
and accepts only the canonical form: the last byte may be zero only when it is the first
one, and the value must fit a `u32`.

* `parseU32FromUleb128_outputU32AsUleb128`: the reader reads back every `u32`;
* `parseU32FromUleb128_canonical`: whatever the reader accepts is the writer's output.

`output_seq_len` / `parse_length` add the `MAX_SEQUENCE_LENGTH` bound on top.
-/
namespace Sui
namespace Bcs

/-- The `while value >= 0x80` loop of `output_u32_as_uleb128`. `fuel` counts the passes
left; four passes take a `u32` below `0x80`, so `outputU32AsUleb128` runs the loop to its
end (`uleb128Loop_small` covers the last pass). -/
def uleb128Loop : Nat → Nat → Bytes
  | 0, value => [value.toUInt8]
  | fuel + 1, value =>
    if value ≥ 0x80 then ((value &&& 0x7f).toUInt8 ||| 0x80) :: uleb128Loop fuel (value >>> 7)
    else [value.toUInt8]

/-- `output_u32_as_uleb128`. -/
def outputU32AsUleb128 (value : Nat) : Bytes := uleb128Loop 4 value

/-- One pass of `for shift in (0..32).step_by(7)` in `parse_u32_from_uleb128`; `k` is the
number of passes left, `value` the `u64` accumulator. -/
def parseUlebLoop : Nat → Nat → Nat → Bytes → Except Error (Nat × Bytes)
  | 0, _, _, _ => .error .integerOverflowDuringUleb128Decoding
  | k + 1, shift, value, bs => do
    let (byte, bs) ← next bs
    let digit := byte &&& 0x7f
    let value := value ||| digit.toNat <<< shift
    if digit = byte then
      if shift > 0 ∧ digit = 0 then .error .nonCanonicalUleb128Encoding
      else if value < 2 ^ 32 then .ok (value, bs)
      else .error .integerOverflowDuringUleb128Decoding
    else parseUlebLoop k (shift + 7) value bs

/-- `parse_u32_from_uleb128`. -/
def parseU32FromUleb128 (bs : Bytes) : Except Error (Nat × Bytes) := parseUlebLoop 5 0 0 bs

/-! ## The writer -/

theorem uleb128Loop_small {value : Nat} (h : value < 0x80) :
    ∀ fuel, uleb128Loop fuel value = [value.toUInt8]
  | 0 => rfl
  | _ + 1 => by simp [uleb128Loop, show ¬(value ≥ 0x80) by omega]

theorem uleb128Loop_large {value : Nat} (h : 0x80 ≤ value) (fuel : Nat) :
    uleb128Loop (fuel + 1) value = (value % 128 + 128).toUInt8 :: uleb128Loop fuel (value / 128) := by
  have hc : ((value &&& 0x7f).toUInt8 ||| 0x80) = (value % 128 + 128).toUInt8 :=
    UInt8.toNat.inj (by rw [toNat_continuation, toNat_toUInt8]; omega)
  simp [uleb128Loop, h, hc, Nat.shiftRight_eq_div_pow]

/-! ## Reading back -/

/-- One pass of the reader on a byte `b`. -/
theorem parseUlebLoop_cons (k s acc : Nat) (b : UInt8) (bs : Bytes) :
    parseUlebLoop (k + 1) s acc (b :: bs) =
      if (b &&& 0x7f) = b then
        if s > 0 ∧ (b &&& 0x7f) = 0 then .error .nonCanonicalUleb128Encoding
        else if (acc ||| (b &&& 0x7f).toNat <<< s) < 2 ^ 32 then
          .ok (acc ||| (b &&& 0x7f).toNat <<< s, bs)
        else .error .integerOverflowDuringUleb128Decoding
      else parseUlebLoop k (s + 7) (acc ||| (b &&& 0x7f).toNat <<< s) bs := rfl

/-- The last pass: a byte below `0x80` ends the value. -/
theorem parseUlebLoop_last {k s acc w : Nat} (rest : Bytes) (hacc : acc < 2 ^ s) (hw : w < 0x80)
    (hpos : 0 < s → 0 < w) (hfit : acc + w * 2 ^ s < 2 ^ 32) :
    parseUlebLoop (k + 1) s acc (w.toUInt8 :: rest) = .ok (acc + w * 2 ^ s, rest) := by
  have hb : w.toUInt8.toNat = w := by rw [toNat_toUInt8]; omega
  have hd : (w.toUInt8 &&& 0x7f) = w.toUInt8 := (land_0x7f_eq_iff _).2 (by omega)
  have hnz : ¬(s > 0 ∧ w.toUInt8 = 0) := by
    rintro ⟨hs, h0⟩
    have := congrArg UInt8.toNat h0
    have := hpos hs
    simp_all
  rw [parseUlebLoop_cons, if_pos hd, hd, if_neg hnz, hb, or_shiftLeft_eq_add w hacc, if_pos hfit]

theorem parseUlebLoop_uleb128Loop (f : Nat) : ∀ (s acc w : Nat) (rest : Bytes),
    acc < 2 ^ s → (0 < s → 0 < w) → w < 128 ^ (f + 1) → acc + w * 2 ^ s < 2 ^ 32 →
      parseUlebLoop (f + 1) s acc (uleb128Loop f w ++ rest) = .ok (acc + w * 2 ^ s, rest) := by
  induction f with
  | zero =>
    intro s acc w rest hacc hpos hw hfit
    exact parseUlebLoop_last rest hacc (by simpa using hw) hpos hfit
  | succ f ih =>
    intro s acc w rest hacc hpos hw hfit
    by_cases hsmall : w < 0x80
    · rw [uleb128Loop_small hsmall]
      exact parseUlebLoop_last rest hacc hsmall hpos hfit
    · rw [uleb128Loop_large (by omega), List.cons_append]
      have hb : (w % 128 + 128).toUInt8.toNat = w % 128 + 128 := by rw [toNat_toUInt8]; omega
      have hd : (w % 128 + 128).toUInt8 &&& 0x7f ≠ (w % 128 + 128).toUInt8 := by
        rw [Ne, land_0x7f_eq_iff, hb]; omega
      have hdig : ((w % 128 + 128).toUInt8 &&& 0x7f).toNat = w % 128 := by
        rw [toNat_land_0x7f, hb]; omega
      have hstep : (w % 128) * 2 ^ s ≤ 127 * 2 ^ s := Nat.mul_le_mul_right _ (by omega)
      have hsplit : w * 2 ^ s = (w % 128) * 2 ^ s + (w / 128) * 2 ^ (s + 7) := by
        conv_lhs => rw [← Nat.mod_add_div w 128]
        ring
      have hw' : w / 128 < 128 ^ (f + 1) := by
        rw [Nat.pow_succ] at hw; exact Nat.div_lt_of_lt_mul (by rwa [Nat.mul_comm] at hw)
      rw [parseUlebLoop_cons, if_neg hd, hdig, or_shiftLeft_eq_add _ hacc,
        ih (s + 7) _ (w / 128) rest (by rw [Nat.pow_add]; omega) (fun _ => by omega) hw'
          (by omega), hsplit, Nat.add_assoc]

theorem parseU32FromUleb128_outputU32AsUleb128 {v : Nat} (h : v < 2 ^ 32) (rest : Bytes) :
    parseU32FromUleb128 (outputU32AsUleb128 v ++ rest) = .ok (v, rest) := by
  have := parseUlebLoop_uleb128Loop 4 0 0 v rest (by decide) (by omega) (by omega) (by simpa)
  simpa using this

/-! ## Canonicity -/

/-- A pass that stops (high bit clear) returns its byte as the last digit. -/
theorem parseUlebLoop_stop {k s acc v : Nat} {b : UInt8} {bs rest : Bytes} (hd : (b &&& 0x7f) = b)
    (hacc : acc < 2 ^ s) (h : parseUlebLoop (k + 1) s acc (b :: bs) = .ok (v, rest)) (f : Nat) :
    v < 2 ^ 32 ∧ ∃ w, b :: bs = uleb128Loop f w ++ rest ∧ v = acc + w * 2 ^ s ∧ (0 < s → 0 < w) := by
  rw [parseUlebLoop_cons, if_pos hd, hd] at h
  split at h
  · cases h
  · rename_i hnz
    split at h
    · cases h
      refine ⟨‹_›, b.toNat, ?_, or_shiftLeft_eq_add _ hacc, fun hs => ?_⟩
      · rw [uleb128Loop_small ((land_0x7f_eq_iff b).1 hd), toUInt8_toNat]; rfl
      · refine Nat.pos_of_ne_zero fun h0 => hnz ⟨hs, UInt8.toNat.inj ?_⟩
        simpa using h0
    · cases h

theorem parseUlebLoop_canonical (f : Nat) : ∀ (s acc v : Nat) (bs rest : Bytes),
    parseUlebLoop (f + 1) s acc bs = .ok (v, rest) → acc < 2 ^ s →
      v < 2 ^ 32 ∧ ∃ w, bs = uleb128Loop f w ++ rest ∧ v = acc + w * 2 ^ s ∧ (0 < s → 0 < w) := by
  induction f with
  | zero =>
    intro s acc v bs rest h hacc
    cases bs with
    | nil => cases h
    | cons b bs =>
      by_cases hd : (b &&& 0x7f) = b
      · exact parseUlebLoop_stop hd hacc h 0
      · rw [parseUlebLoop_cons, if_neg hd] at h; cases h
  | succ f ih =>
    intro s acc v bs rest h hacc
    cases bs with
    | nil => cases h
    | cons b bs =>
      by_cases hd : (b &&& 0x7f) = b
      · exact parseUlebLoop_stop hd hacc h (f + 1)
      · rw [parseUlebLoop_cons, if_neg hd, toNat_land_0x7f, or_shiftLeft_eq_add _ hacc] at h
        have hb : 128 ≤ b.toNat := by rw [land_0x7f_eq_iff] at hd; omega
        have hb' := toNat_lt_256 b
        have hstep : (b.toNat % 128) * 2 ^ s ≤ 127 * 2 ^ s := Nat.mul_le_mul_right _ (by omega)
        obtain ⟨hv, w, rfl, rfl, hpos⟩ := ih _ _ _ _ _ h (by rw [Nat.pow_add]; omega)
        have hw := hpos (by omega)
        refine ⟨hv, b.toNat % 128 + 128 * w, ?_, by rw [Nat.pow_add]; ring, fun _ => by omega⟩
        rw [uleb128Loop_large (by omega), List.cons_append]
        congr 1
        · exact UInt8.toNat.inj (by rw [toNat_toUInt8]; omega)
        · congr 2; omega

theorem parseU32FromUleb128_canonical {bs rest : Bytes} {v : Nat}
    (h : parseU32FromUleb128 bs = .ok (v, rest)) : v < 2 ^ 32 ∧ bs = outputU32AsUleb128 v ++ rest := by
  obtain ⟨hv, w, rfl, rfl, -⟩ := parseUlebLoop_canonical 4 0 0 v bs rest h (by decide)
  exact ⟨by simpa using hv, by simp [outputU32AsUleb128]⟩

/-! ## Lengths -/

/-- `output_seq_len`: a length past `MAX_SEQUENCE_LENGTH` is refused. -/
def outputSeqLen (len : Nat) : Except Error Bytes :=
  if len > maxSequenceLength then .error (.exceededMaxLen len) else .ok (outputU32AsUleb128 len)

/-- `parse_length`. -/
def parseLength (bs : Bytes) : Except Error (Nat × Bytes) := do
  let (len, bs) ← parseU32FromUleb128 bs
  if len > maxSequenceLength then .error (.exceededMaxLen len) else pure (len, bs)

theorem outputSeqLen_eq_ok {len : Nat} {b : Bytes} (h : outputSeqLen len = .ok b) :
    len ≤ maxSequenceLength ∧ b = outputU32AsUleb128 len := by
  unfold outputSeqLen at h
  split at h
  · cases h
  · cases h; exact ⟨by omega, rfl⟩

theorem outputSeqLen_of_le {len : Nat} (h : len ≤ maxSequenceLength) :
    outputSeqLen len = .ok (outputU32AsUleb128 len) := by
  simp [outputSeqLen, show ¬(len > maxSequenceLength) by omega]

theorem parseLength_outputU32AsUleb128 {len : Nat} (h : len ≤ maxSequenceLength) (rest : Bytes) :
    parseLength (outputU32AsUleb128 len ++ rest) = .ok (len, rest) := by
  have hlt : len < 2 ^ 32 := by unfold maxSequenceLength at h; omega
  simp [parseLength, parseU32FromUleb128_outputU32AsUleb128 hlt, bind, Except.bind,
    show ¬(len > maxSequenceLength) by omega, pure, Except.pure]

theorem parseLength_canonical {bs rest : Bytes} {len : Nat} (h : parseLength bs = .ok (len, rest)) :
    len ≤ maxSequenceLength ∧ bs = outputU32AsUleb128 len ++ rest := by
  simp only [parseLength, bind, Except.bind] at h
  split at h
  · cases h
  · rename_i p hp
    split at h
    · cases h
    · cases h
      exact ⟨by omega, (parseU32FromUleb128_canonical hp).2⟩

end Bcs
end Sui
