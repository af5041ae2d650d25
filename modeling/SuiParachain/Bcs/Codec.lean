import SuiParachain.Bcs.Uleb128
/-!
# Lawful BCS codecs and serde's derived shapes

A `Codec α` is a binary-mode `Serialize` / `Deserialize` pair as `bcs` runs it, both sides
taking the remaining container depth. It carries the laws that make the encoding canonical:
`de_ser` and `ser_de` (reading back exactly what was written, and nothing else), and `fits`,
a computable predicate saying when serialization succeeds. The combinators are serde's derived
shapes with `bcs`'s rules for each: `pair`, `named`, `seq`, `bytes`, `map` and `enum`.
-/
namespace Sui
namespace Bcs

variable {α β : Type}

/-! ## `Except` plumbing -/

theorem bind_eq_ok {ε : Type} {x : Except ε α} {f : α → Except ε β} {b : β} :
    (x >>= f) = .ok b ↔ ∃ a, x = .ok a ∧ f a = .ok b := by
  cases x <;> simp [bind, Except.bind]

@[simp] theorem ok_bind {ε : Type} (a : α) (f : α → Except ε β) : (Except.ok a >>= f) = f a := rfl

@[simp] theorem error_bind {ε : Type} (e : ε) (f : α → Except ε β) :
    (Except.error e >>= f) = .error e := rfl

@[simp] theorem pure_eq_ok {ε : Type} (a : α) : (pure a : Except ε α) = .ok a := rfl

/-! ## Codecs -/

/-- A binary-mode serde pair at every depth budget, with its canonicity laws. -/
structure Codec (α : Type) where
  ser : Nat → α → Except Error Bytes
  de : Nat → Bytes → Except Error (α × Bytes)
  fits : Nat → α → Bool
  ser_of_fits : ∀ {d a}, fits d a → ∃ b, ser d a = .ok b
  fits_of_ser : ∀ {d a b}, ser d a = .ok b → fits d a
  de_ser : ∀ {d a b} (rest : Bytes), ser d a = .ok b → de d (b ++ rest) = .ok (a, rest)
  ser_de : ∀ {d bs a rest}, de d bs = .ok (a, rest) → ∃ b, ser d a = .ok b ∧ bs = b ++ rest
  ser_succ : ∀ {d a b}, ser d a = .ok b → ser (d + 1) a = .ok b

namespace Codec

/-- A type whose serializer cannot fail: `u8`, `u16`, `u64`, `bool`. -/
def total (ser : α → Bytes) (de : Bytes → Except Error (α × Bytes))
    (de_ser : ∀ a rest, de (ser a ++ rest) = .ok (a, rest))
    (ser_de : ∀ {bs a rest}, de bs = .ok (a, rest) → bs = ser a ++ rest) : Codec α where
  ser _ a := .ok (ser a)
  de _ := de
  fits _ _ := true
  ser_of_fits := fun _ => ⟨_, rfl⟩
  fits_of_ser := fun _ => rfl
  de_ser := fun rest h => by cases h; exact de_ser _ rest
  ser_de := fun h => ⟨_, rfl, ser_de h⟩
  ser_succ := id

def u8 : Codec UInt8 := total (fun x => [x]) next (fun _ _ => rfl) next_eq_ok

theorem u8_ser (d : Nat) (x : UInt8) : u8.ser d x = .ok [x] := rfl

theorem u8_de (d : Nat) (b : UInt8) (bs : Bytes) : u8.de d (b :: bs) = .ok (b, bs) := rfl

def u16 : Codec UInt16 := total serializeU16 parseU16 parseU16_serializeU16 parseU16_canonical

def u64 : Codec UInt64 := total serializeU64 parseU64 parseU64_serializeU64 parseU64_canonical

def bool : Codec Bool := total serializeBool parseBool parseBool_serializeBool parseBool_canonical

/-! ## Products and named containers -/

/-- Two fields in order, at the same depth: a tuple, or a struct's fields inside its
container. -/
def pair (c₁ : Codec α) (c₂ : Codec β) : Codec (α × β) where
  ser d p := do
    let x ← c₁.ser d p.1
    let y ← c₂.ser d p.2
    pure (x ++ y)
  de d bs := do
    let (a, bs) ← c₁.de d bs
    let (b, bs) ← c₂.de d bs
    pure ((a, b), bs)
  fits d p := c₁.fits d p.1 && c₂.fits d p.2
  ser_of_fits := fun h => by
    simp only [Bool.and_eq_true] at h
    obtain ⟨x, hx⟩ := c₁.ser_of_fits h.1
    obtain ⟨y, hy⟩ := c₂.ser_of_fits h.2
    exact ⟨x ++ y, by simp [hx, hy]⟩
  fits_of_ser := fun h => by
    obtain ⟨x, hx, y, hy, -⟩ : ∃ x, _ ∧ ∃ y, _ ∧ _ := by simpa [bind_eq_ok] using h
    simp [c₁.fits_of_ser hx, c₂.fits_of_ser hy]
  de_ser := fun rest h => by
    obtain ⟨x, hx, y, hy, rfl⟩ : ∃ x, _ ∧ ∃ y, _ ∧ _ := by simpa [bind_eq_ok] using h
    simp [List.append_assoc, c₁.de_ser _ hx, c₂.de_ser _ hy]
  ser_de := fun h => by
    simp only [bind_eq_ok, pure_eq_ok, Except.ok.injEq, Prod.mk.injEq, Prod.exists] at h
    obtain ⟨a, r, ha, b, r', hb, rfl, rfl⟩ := h
    obtain ⟨x, hx, rfl⟩ := c₁.ser_de ha
    obtain ⟨y, hy, rfl⟩ := c₂.ser_de hb
    exact ⟨x ++ y, by simp [hx, hy], by simp⟩
  ser_succ := fun h => by
    obtain ⟨x, hx, y, hy, rfl⟩ : ∃ x, _ ∧ ∃ y, _ ∧ _ := by simpa [bind_eq_ok] using h
    simp [c₁.ser_succ hx, c₂.ser_succ hy]

theorem pair_ser (c₁ : Codec α) (c₂ : Codec β) (d : Nat) (p : α × β) :
    (c₁.pair c₂).ser d p = c₁.ser d p.1 >>= fun x => c₂.ser d p.2 >>= fun y => pure (x ++ y) := rfl

theorem pair_de (c₁ : Codec α) (c₂ : Codec β) (d : Nat) (bs : Bytes) :
    (c₁.pair c₂).de d bs = c₁.de d bs >>= fun p => c₂.de d p.2 >>= fun q => pure ((p.1, q.1), q.2) :=
  rfl

/-- `enter_named_container`: a struct spends one unit of depth, and fails with
`ExceededContainerDepthLimit` when none is left. -/
def named (serName deName : String) (c : Codec α) : Codec α where
  ser
    | 0, _ => .error (.exceededContainerDepthLimit serName)
    | d + 1, a => c.ser d a
  de
    | 0, _ => .error (.exceededContainerDepthLimit deName)
    | d + 1, bs => c.de d bs
  fits
    | 0, _ => false
    | d + 1, a => c.fits d a
  ser_of_fits := fun {d _} h => by cases d with
    | zero => cases h
    | succ d => exact c.ser_of_fits h
  fits_of_ser := fun {d _ _} h => by cases d with
    | zero => cases h
    | succ d => exact c.fits_of_ser h
  de_ser := fun {d _ _} rest h => by cases d with
    | zero => cases h
    | succ d => exact c.de_ser rest h
  ser_de := fun {d _ _ _} h => by cases d with
    | zero => cases h
    | succ d => exact c.ser_de h
  ser_succ := fun {d _ _} h => by cases d with
    | zero => cases h
    | succ d => exact c.ser_succ h

theorem named_ser (serName deName : String) (c : Codec α) (d : Nat) (a : α) :
    (named serName deName c).ser (d + 1) a = c.ser d a := rfl

theorem named_de (serName deName : String) (c : Codec α) (d : Nat) (bs : Bytes) :
    (named serName deName c).de (d + 1) bs = c.de d bs := rfl

/-- A conversion to a serde type and back (the `match self { … }` blocks of the impls). -/
def map (c : Codec β) (f : α → β) (g : β → α) (gf : ∀ a, g (f a) = a) (fg : ∀ b, f (g b) = b) :
    Codec α where
  ser d a := c.ser d (f a)
  de d bs := (c.de d bs).map fun p => (g p.1, p.2)
  fits d a := c.fits d (f a)
  ser_of_fits := c.ser_of_fits
  fits_of_ser := c.fits_of_ser
  ser_succ := c.ser_succ
  de_ser := fun rest h => by simp [c.de_ser rest h, Except.map, gf]
  ser_de := fun {d bs a rest} h => by
    cases hde : c.de d bs with
    | error e => simp [hde, Except.map] at h
    | ok p =>
      simp only [hde, Except.map, Except.ok.injEq, Prod.mk.injEq] at h
      obtain ⟨rfl, rfl⟩ := h
      obtain ⟨b, hb, hbs⟩ := c.ser_de hde
      exact ⟨b, show c.ser d (f (g p.1)) = _ by rw [fg]; exact hb, hbs⟩

theorem map_ser (c : Codec β) (f : α → β) (g gf fg) (d : Nat) (a : α) :
    (c.map f g gf fg).ser d a = c.ser d (f a) := rfl

theorem map_de (c : Codec β) (f : α → β) (g gf fg) (d : Nat) (bs : Bytes) :
    (c.map f g gf fg).de d bs = (c.de d bs).map fun p => (g p.1, p.2) := rfl

end Codec

/-! ## Top level: `bcs::to_bytes` and `bcs::from_bytes` -/

def toBytes (c : Codec α) (a : α) : Except Error Bytes := c.ser maxContainerDepth a

/-- `bcs::from_bytes`: the value, then `Deserializer::end`, which refuses leftover input. -/
def fromBytes (c : Codec α) (bs : Bytes) : Except Error α := do
  let (a, rest) ← c.de maxContainerDepth bs
  if rest.isEmpty then pure a else .error .remainingInput

theorem fromBytes_toBytes {c : Codec α} {a : α} {b : Bytes} (h : toBytes c a = .ok b) :
    fromBytes c b = .ok a := by
  have := c.de_ser [] h
  simp only [List.append_nil] at this
  simp [fromBytes, this]

theorem toBytes_fromBytes {c : Codec α} {a : α} {bs : Bytes} (h : fromBytes c bs = .ok a) :
    toBytes c a = .ok bs := by
  obtain ⟨⟨a', rest⟩, hde, hend⟩ := bind_eq_ok.1 h
  obtain ⟨b, hb, rfl⟩ := c.ser_de hde
  cases rest with
  | nil => simp only [List.isEmpty_nil, if_true, pure_eq_ok, Except.ok.injEq] at hend; simpa [← hend] using hb
  | cons _ _ => simp at hend

/-- Canonicity of a whole value: `from_bytes` accepts exactly the bytes `to_bytes` writes. -/
theorem fromBytes_eq_ok_iff {c : Codec α} {a : α} {bs : Bytes} :
    fromBytes c bs = .ok a ↔ toBytes c a = .ok bs :=
  ⟨toBytes_fromBytes, fromBytes_toBytes⟩

/-- `to_bytes` writes exactly the values within `limits`, and `from_bytes` reads each of them
back from those bytes. -/
def RoundTripsWithin (c : Codec α) (limits : α → Bool) : Prop :=
  ∀ a, limits a ↔ ∃ b, toBytes c a = .ok b ∧ fromBytes c b = .ok a

/-- Every byte string `from_bytes` accepts is what `to_bytes` writes for the value it returns. -/
def Canonical (c : Codec α) : Prop :=
  ∀ bs a, fromBytes c bs = .ok a → toBytes c a = .ok bs

/-- A codec round-trips within the limits that its `fits` is at the full depth budget. -/
theorem Codec.roundTripsWithin (c : Codec α) {limits : α → Bool}
    (h : ∀ a, c.fits maxContainerDepth a = limits a) : RoundTripsWithin c limits := fun a =>
  ⟨fun ha => let ⟨b, hb⟩ := c.ser_of_fits ((h a).trans ha); ⟨b, hb, fromBytes_toBytes hb⟩,
    fun ⟨_, hb, _⟩ => (h a) ▸ c.fits_of_ser hb⟩

theorem Codec.canonical (c : Codec α) : Canonical c := fun _ _ => toBytes_fromBytes

end Bcs
end Sui
