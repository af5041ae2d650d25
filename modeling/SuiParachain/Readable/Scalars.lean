import Mathlib.Data.Nat.Digits
import SuiParachain.Bcs.Primitives
import SuiParachain.Readable.Json
/-!
# `ReadableDisplay` and `Base64Encoded`

The two scalar adapters the readable types use, `crate::_serde::ReadableDisplay` (on
`initial_shared_version` and `bridge_object_version`) and `crate::_serde::Base64Encoded` (on a
`Pure` input's bytes). `crate::_serde` is not among the sources, so both follow the spec: a `u64`
is "carried as decimal-string text" (§3) and a byte payload is "presented as base64 text"
(§4.2), and a text that does not parse is refused ("malformed integer", "malformed byte
payload", §4.2).

* `parseDecimal_decimal`: the digits written for `n` read back as `n`;
* `decodeBase64_encodeBase64`: standard padded base64 reads back the bytes it was written from;
* `readableDisplay` and `base64Encoded` are then lawful `JsonCodec`s.
-/
namespace Sui
namespace Readable

open Bcs (Bytes toUInt8_toNat)

/-- The decode error of a decimal-string integer (§4.2). -/
def malformedInteger : String := "malformed integer"

/-- The decode error of a base64 payload (§4.2). -/
def malformedBytePayload : String := "malformed byte payload"

/-! ## Decimal strings -/

/-- Modelled from the spec: the decimal digits of `n`, most significant first, `0` for zero. -/
def decimal (n : Nat) : List Char :=
  if n = 0 then ['0'] else (Nat.digits 10 n).reverse.map Nat.digitChar

/-- One more decimal digit, or `none` at a character that is not one. -/
def decimalStep (acc : Nat) (c : Char) : Option Nat :=
  if c.isDigit then some (acc * 10 + (c.toNat - '0'.toNat)) else none

/-- Modelled from the spec: a non-empty string of decimal digits, as a number. -/
def parseDecimal (cs : List Char) : Option Nat :=
  if cs.isEmpty then none else cs.foldlM decimalStep 0

theorem decimalStep_digitChar {d : Nat} (h : d < 10) (acc : Nat) :
    decimalStep acc (Nat.digitChar d) = some (acc * 10 + d) := by
  have key : ∀ d < 10, (Nat.digitChar d).isDigit = true ∧ (Nat.digitChar d).toNat - 48 = d := by
    decide
  simp [decimalStep, (key d h).1, (key d h).2]

theorem foldlM_decimalStep (ds : List Nat) (hds : ∀ d ∈ ds, d < 10) (acc : Nat) :
    (ds.map Nat.digitChar).foldlM decimalStep acc = some (ds.foldl (fun a d => a * 10 + d) acc) := by
  induction ds generalizing acc with
  | nil => rfl
  | cons d ds ih =>
    simp only [List.map_cons, List.foldlM_cons, List.foldl_cons,
      decimalStep_digitChar (hds d (List.mem_cons_self d ds))]
    exact ih (fun d hd => hds d (List.mem_cons_of_mem _ hd)) _

theorem parseDecimal_decimal (n : Nat) : parseDecimal (decimal n) = some n := by
  unfold decimal
  split
  · subst_vars; rfl
  · rename_i hn
    have hne : Nat.digits 10 n ≠ [] := Nat.digits_ne_nil_iff_ne_zero.2 hn
    have hlt : ∀ d ∈ (Nat.digits 10 n).reverse, d < 10 := fun d hd =>
      Nat.digits_lt_base (by norm_num) (List.mem_reverse.1 hd)
    rw [parseDecimal, if_neg (by simpa using hne), foldlM_decimalStep _ hlt, List.foldl_reverse]
    congr 1
    calc List.foldr (fun d a => a * 10 + d) 0 (Nat.digits 10 n)
        = Nat.ofDigits 10 (Nat.digits 10 n) := by
          rw [Nat.ofDigits_eq_foldr]; congr; funext d a; simp [Nat.add_comm, Nat.mul_comm]
      _ = n := Nat.ofDigits_digits 10 n

/-- Modelled from the spec: `ReadableDisplay` on a `u64`, a decimal string. -/
def readableDisplay : JsonCodec UInt64 where
  toJson x := .string (String.mk (decimal x.toNat))
  fromJson
    | .string s =>
      match parseDecimal s.toList with
      | some n => if n < UInt64.size then .ok (UInt64.ofNat n) else .error malformedInteger
      | none => .error malformedInteger
    | j => .error (invalidType j.unexpected "a string")
  fromJson_toJson x := by
    simp only [String.toList, parseDecimal_decimal, x.toNat_lt_size, if_true]
    exact congrArg _ (UInt64.toNat.inj (UInt64.toNat_ofNat_of_lt x.toNat_lt_size))

/-! ## Base64 -/

/-- The standard alphabet. -/
def base64Alphabet : List Char :=
  "ABCDEFGHIJKLMNOPQRSTUVWXYZabcdefghijklmnopqrstuvwxyz0123456789+/".toList

/-- The character of a sextet. -/
def sextetChar (n : Nat) : Char := base64Alphabet.getD n '='

/-- The sextet of a character, `none` outside the alphabet (the padding `=` included). -/
def sextetValue (c : Char) : Option Nat := base64Alphabet.indexOf? c

theorem getD_mem {α : Type} {l : List α} {n : Nat} (d : α) (h : n < l.length) : l.getD n d ∈ l :=
  List.getD_eq_getElem l d h ▸ List.getElem_mem h

/-- In a list without repeats, an element is found at the position it was taken from. -/
theorem indexOf?_getD {α : Type} [DecidableEq α] {d : α} :
    ∀ {l : List α} {n : Nat}, l.Nodup → n < l.length → l.indexOf? (l.getD n d) = some n
  | a :: l, 0, _, _ => by simp [List.indexOf?_cons]
  | a :: l, n + 1, hnd, hn => by
    have hlt : n < l.length := by simpa using hn
    have hne : a ≠ l.getD n d := fun h => (List.nodup_cons.1 hnd).1 (h ▸ getD_mem d hlt)
    rw [List.getD_cons_succ, List.indexOf?_cons, indexOf?_getD (List.nodup_cons.1 hnd).2 hlt]
    simp only [beq_iff_eq, hne, if_false, Option.map_some', Nat.succ_eq_add_one]

/-- Checked on the characters' codes, which the kernel compares as numbers. -/
theorem base64Alphabet_nodup : base64Alphabet.Nodup :=
  List.Nodup.of_map Char.toNat (by decide)

theorem pad_not_mem_base64Alphabet : '=' ∉ base64Alphabet := by decide

/-- A sextet's character reads back as the sextet: the alphabet has no repeats. -/
theorem sextetValue_sextetChar {n : Nat} (h : n < 64) : sextetValue (sextetChar n) = some n :=
  indexOf?_getD base64Alphabet_nodup h

/-- A sextet's character is never the padding. -/
theorem sextetChar_ne_pad {n : Nat} (h : n < 64) : sextetChar n ≠ '=' := fun heq =>
  pad_not_mem_base64Alphabet (heq ▸ getD_mem '=' (show n < base64Alphabet.length from h))

/-- Modelled from the spec: standard base64 with `=` padding. -/
def encodeBase64 : Bytes → List Char
  | [] => []
  | [a] =>
    let n := a.toNat * 65536
    [sextetChar (n / 262144), sextetChar (n / 4096 % 64), '=', '=']
  | [a, b] =>
    let n := a.toNat * 65536 + b.toNat * 256
    [sextetChar (n / 262144), sextetChar (n / 4096 % 64), sextetChar (n / 64 % 64), '=']
  | a :: b :: c :: rest =>
    let n := a.toNat * 65536 + b.toNat * 256 + c.toNat
    [sextetChar (n / 262144), sextetChar (n / 4096 % 64), sextetChar (n / 64 % 64),
      sextetChar (n % 64)] ++ encodeBase64 rest

/-- Modelled from the spec: its decoder, four characters at a time, padding only at the end
and with no bit set past the last byte. -/
def decodeBase64 : List Char → Option Bytes
  | [] => some []
  | c0 :: c1 :: c2 :: c3 :: rest => do
    let v0 ← sextetValue c0
    let v1 ← sextetValue c1
    if c2 = '=' ∧ c3 = '=' ∧ rest = [] then
      if v1 % 16 = 0 then some [(v0 * 4 + v1 / 16).toUInt8] else none
    else
      let v2 ← sextetValue c2
      if c3 = '=' ∧ rest = [] then
        let n := v0 * 4096 + v1 * 64 + v2
        if v2 % 4 = 0 then some [(n / 1024).toUInt8, (n / 4 % 256).toUInt8] else none
      else
        let v3 ← sextetValue c3
        let n := v0 * 262144 + v1 * 4096 + v2 * 64 + v3
        let bytes ← decodeBase64 rest
        some ([(n / 65536).toUInt8, (n / 256 % 256).toUInt8, (n % 256).toUInt8] ++ bytes)
  | _ => none

theorem decodeBase64_encodeBase64 (bs : Bytes) : decodeBase64 (encodeBase64 bs) = some bs := by
  induction bs using encodeBase64.induct with
  | case1 => rfl
  | case2 a =>
    have ha := Bcs.toNat_lt_256 a
    simp (disch := omega) only [encodeBase64, decodeBase64, sextetValue_sextetChar,
      Option.bind_eq_bind, Option.some_bind, and_self, if_true,
      show a.toNat * 65536 / 4096 % 64 % 16 = 0 by omega]
    rw [show a.toNat * 65536 / 262144 * 4 + a.toNat * 65536 / 4096 % 64 / 16 = a.toNat by omega,
      toUInt8_toNat]
  | case3 a b =>
    have ha := Bcs.toNat_lt_256 a
    have hb := Bcs.toNat_lt_256 b
    generalize hn : a.toNat * 65536 + b.toNat * 256 = n
    simp (disch := omega) only [encodeBase64, hn, decodeBase64, sextetValue_sextetChar,
      sextetChar_ne_pad, Option.bind_eq_bind, Option.some_bind, false_and, if_false, and_self,
      if_true, show n / 64 % 64 % 4 = 0 by omega]
    rw [show (n / 262144 * 4096 + n / 4096 % 64 * 64 + n / 64 % 64) / 1024 = a.toNat by omega,
      show (n / 262144 * 4096 + n / 4096 % 64 * 64 + n / 64 % 64) / 4 % 256 = b.toNat by omega,
      toUInt8_toNat, toUInt8_toNat]
  | case4 a b c rest ih =>
    have ha := Bcs.toNat_lt_256 a
    have hb := Bcs.toNat_lt_256 b
    have hc := Bcs.toNat_lt_256 c
    generalize hn : a.toNat * 65536 + b.toNat * 256 + c.toNat = n
    simp (disch := omega) only [encodeBase64, hn, List.cons_append, List.nil_append, decodeBase64,
      sextetValue_sextetChar, sextetChar_ne_pad, ih, Option.bind_eq_bind, Option.some_bind,
      false_and, if_false]
    have hsum : n / 262144 * 262144 + n / 4096 % 64 * 4096 + n / 64 % 64 * 64 + n % 64 = n := by
      omega
    rw [hsum, show n / 65536 = a.toNat by omega, show n / 256 % 256 = b.toNat by omega,
      show n % 256 = c.toNat by omega, toUInt8_toNat, toUInt8_toNat, toUInt8_toNat]
    simp [List.append_eq, ih]

/-- Modelled from the spec: `Base64Encoded` on a byte vector, a base64 string. -/
def base64Encoded : JsonCodec Bytes where
  toJson bs := .string (String.mk (encodeBase64 bs))
  fromJson
    | .string s =>
      match decodeBase64 s.toList with
      | some bs => .ok bs
      | none => .error malformedBytePayload
    | j => .error (invalidType j.unexpected "a string")
  fromJson_toJson bs := by simp only [String.toList, decodeBase64_encodeBase64]

end Readable
end Sui
