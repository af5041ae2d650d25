import Mathlib.Data.List.Basic
/-!
# serde's human-readable data model, as `serde_json` carries it

What the derived `Readable*` impls of `serialization.rs` do is serde's, modelled here once: a
derived struct's `visit_map` (`field`), `TaggedContentVisitor` (`taggedContent`), the derived
variant identifier (`variantIndex`) and `#[serde(flatten)]` (`without`). A map is the list of
its entries in the order they were written, so a key written twice stays visible to the reader.
-/
namespace Sui
namespace Readable

/-- A value of serde's data model (integers non-negative). -/
inductive Json where
  | null
  | bool (b : Bool)
  | number (n : Nat)
  | string (s : String)
  | array (elems : List Json)
  | object (entries : List (String × Json))

abbrev Fields := List (String × Json)

/-! ## serde's error texts -/

def missingField (field : String) : String := s!"missing field `{field}`"

def duplicateField (field : String) : String := s!"duplicate field `{field}`"

/-- `OneOf`, the list of expected names in `unknown variant`. -/
def oneOf : List String → String
  | [] => "there are no variants"
  | [a] => s!"`{a}`"
  | [a, b] => s!"`{a}` or `{b}`"
  | names => "one of " ++ ", ".intercalate (names.map fun name => s!"`{name}`")

def unknownVariant (variant : String) (expected : List String) : String :=
  s!"unknown variant `{variant}`, expected {oneOf expected}"

def invalidType (unexpected expected : String) : String :=
  s!"invalid type: {unexpected}, expected {expected}"

def invalidValue (unexpected expected : String) : String :=
  s!"invalid value: {unexpected}, expected {expected}"

/-- `Unexpected`, as `serde_json` reports the value it found. -/
def Json.unexpected : Json → String
  | .null => "unit value"
  | .bool b => s!"boolean `{b}`"
  | .number n => s!"integer `{n}`"
  | .string s => "string " ++ s.quote
  | .array _ => "sequence"
  | .object _ => "map"

/-! ## Maps, structs and tags -/

/-- The entries of a map; anything else is the `invalid type` of the visitor expecting it. -/
def Json.fields (expected : String) : Json → Except String Fields
  | .object fs => .ok fs
  | j => .error (invalidType j.unexpected expected)

/-- The one entry named `key`, as a derived struct's `visit_map` reads it. -/
def field (fs : Fields) (key : String) : Except String Json :=
  match fs.filter (·.1 == key) with
  | [(_, v)] => .ok v
  | [] => .error (missingField key)
  | _ => .error (duplicateField key)

/-- What is left for a flattened field once the enclosing struct has taken its own keys. -/
def without (keys : List String) (fs : Fields) : Fields := fs.filter fun p => !keys.contains p.1

/-- `TaggedContentVisitor::visit_map`: the tag's value, and the other entries in order. -/
def taggedContent (tag : String) (fs : Fields) : Except String (Json × Fields) := do
  let t ← field fs tag
  pure (t, without [tag] fs)

def invalidVariantIndex (i count : Nat) : String :=
  invalidValue s!"integer `{i}`" s!"variant index 0 <= i < {count}"

/-- The derived `__Field`: a name among `names`, or an index below their number as serde's
buffered `Content` gives it under a `flatten`; `serde_json` reading a tag directly refuses a
number, so outside a flattened map this accepts more than the code. -/
def variantIndex (names : List String) : Json → Except String Nat
  | .string s =>
    match names.indexOf? s with
    | some i => .ok i
    | none => .error (unknownVariant s names)
  | .number i => if i < names.length then .ok i else .error (invalidVariantIndex i names.length)
  | j => .error (invalidType j.unexpected "variant identifier")

/-- An internally tagged enum's derived reader: the tag, then its variant's reader. -/
def readTagged {α : Type} (tag : String) (names : List String)
    (variant : Nat → Fields → Except String α) (fs : Fields) : Except String α := do
  let (t, fs) ← taggedContent tag fs
  variant (← variantIndex names t) fs

/-! ## Keys a value never writes -/

/-- No entry of `fs` is under a key of `keys`. -/
def Avoids (keys : List String) (fs : Fields) : Prop := ∀ p ∈ fs, p.1 ∉ keys

section Avoids

variable {keys : List String} {fs gs : Fields}

@[simp] theorem avoids_nil : Avoids keys [] := fun _ h => nomatch h

@[simp] theorem avoids_cons {k : String} {v : Json} :
    Avoids keys ((k, v) :: fs) ↔ k ∉ keys ∧ Avoids keys fs := by
  simp [Avoids]

@[simp] theorem avoids_append : Avoids keys (fs ++ gs) ↔ Avoids keys fs ∧ Avoids keys gs := by
  simp only [Avoids, List.mem_append, or_imp, forall_and]

theorem Avoids.mono {keys' : List String} (h : Avoids keys fs) (hk : keys' ⊆ keys) :
    Avoids keys' fs := fun p hp hk' => h p hp (hk hk')

theorem filter_key_eq_nil {k : String} (h : Avoids [k] fs) : fs.filter (·.1 == k) = [] :=
  List.filter_eq_nil_iff.2 fun p hp => by simpa using h p hp

@[simp] theorem without_nil : without keys [] = [] := rfl

@[simp] theorem without_cons {k : String} {v : Json} :
    without keys ((k, v) :: fs) = if k ∈ keys then without keys fs else (k, v) :: without keys fs := by
  by_cases hk : k ∈ keys <;> simp [without, List.filter_cons, hk]

@[simp] theorem without_append : without keys (fs ++ gs) = without keys fs ++ without keys gs :=
  List.filter_append ..

theorem without_eq_self (h : Avoids keys fs) : without keys fs = fs :=
  List.filter_eq_self.2 fun p hp => by simpa using h p hp

theorem field_cons {k : String} {v : Json} (h : Avoids [k] fs) : field ((k, v) :: fs) k = .ok v := by
  simp [field, List.filter_cons, filter_key_eq_nil h]

theorem field_cons_of_ne {k k' : String} {v : Json} (h : k' ≠ k) :
    field ((k', v) :: fs) k = field fs k := by
  simp [field, List.filter_cons, h]

theorem field_append_of_avoids {k : String} (h : Avoids [k] fs) : field (fs ++ gs) k = field gs k := by
  simp [field, List.filter_append, filter_key_eq_nil h]

end Avoids

theorem taggedContent_cons {tag : String} {t : Json} {fs : Fields} (h : Avoids [tag] fs) :
    taggedContent tag ((tag, t) :: fs) = .ok (t, fs) := by
  simp [taggedContent, field_cons h, without_eq_self h]

/-- A variant written by name, its tag first and not again, is read by that variant's reader. -/
theorem readTagged_cons {α : Type} {tag name : String} {names : List String}
    {variant : Nat → Fields → Except String α} {fs : Fields} {i : Nat} (h : Avoids [tag] fs)
    (hi : names.indexOf? name = some i) :
    readTagged tag names variant ((tag, .string name) :: fs) = variant i fs := by
  simp [readTagged, taggedContent_cons h, variantIndex, hi, bind, Except.bind]

theorem readTagged_eq {α : Type} (tag : String) (names : List String)
    (variant : Nat → Fields → Except String α) :
    readTagged tag names variant =
      fun fs => field fs tag >>= fun t => variantIndex names t >>= fun i => variant i (without [tag] fs) := by
  funext fs
  simp only [readTagged, taggedContent]
  cases field fs tag <;> rfl

/-! ## Lawful human-readable codecs -/

/-- A human-readable `Serialize` / `Deserialize` pair, with its round trip. -/
structure JsonCodec (α : Type) where
  toJson : α → Json
  fromJson : Json → Except String α
  fromJson_toJson : ∀ a, fromJson (toJson a) = .ok a

/-- A value written as a map's entries, none of them under a key of `reserved`. -/
structure FieldsCodec (α : Type) (reserved : List String) where
  toFields : α → Fields
  fromFields : Fields → Except String α
  fromFields_toFields : ∀ a, fromFields (toFields a) = .ok a
  avoids : ∀ a, Avoids reserved (toFields a)

theorem FieldsCodec.avoids_of_subset {α : Type} {reserved keys : List String}
    (c : FieldsCodec α reserved) (a : α) (h : keys ⊆ reserved) : Avoids keys (c.toFields a) :=
  (c.avoids a).mono h

/-- The map on its own, read by a visitor that expects `expected`. -/
def FieldsCodec.json {α : Type} {reserved : List String} (c : FieldsCodec α reserved)
    (expected : String) : JsonCodec α where
  toJson a := .object (c.toFields a)
  fromJson j := j.fields expected >>= c.fromFields
  fromJson_toJson a := c.fromFields_toFields a

namespace JsonCodec

def bool : JsonCodec Bool where
  toJson := .bool
  fromJson
    | .bool b => .ok b
    | j => .error (invalidType j.unexpected "a boolean")
  fromJson_toJson _ := rfl

/-- `u16`: a JSON integer, within range (`visit_u64`). -/
def u16 : JsonCodec UInt16 where
  toJson x := .number x.toNat
  fromJson
    | .number n =>
      if n < UInt16.size then .ok (UInt16.ofNat n) else .error (invalidValue s!"integer `{n}`" "u16")
    | j => .error (invalidType j.unexpected "u16")
  fromJson_toJson x := by
    simp only [x.toNat_lt_size, if_true]
    exact congrArg _ (UInt16.toNat.inj (UInt16.toNat_ofNat_of_lt x.toNat_lt_size))

variable {α : Type}

theorem mapM_fromJson_toJson (c : JsonCodec α) (as : List α) :
    (as.map c.toJson).mapM c.fromJson = .ok as := by
  induction as with
  | nil => rfl
  | cons a as ih => rw [List.map_cons, List.mapM_cons, c.fromJson_toJson, ih]; rfl

/-- `Vec<T>`: a JSON array of the elements. -/
def seq (c : JsonCodec α) : JsonCodec (List α) where
  toJson as := .array (as.map c.toJson)
  fromJson
    | .array js => js.mapM c.fromJson
    | j => .error (invalidType j.unexpected "a sequence")
  fromJson_toJson as := mapM_fromJson_toJson c as

end JsonCodec

end Readable
end Sui
