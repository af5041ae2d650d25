import Mathlib.Data.List.Basic
/-!
# The ability field-requirements checker (`ability_field_requirements.rs`)

"A checker for verifying that all of the struct's fields satisfy the abilities required by the
struct's abilities" (`:5-6`). `verifyModule` and `verifyModuleImpl` are `verify_module` and
`verify_module_impl` (`:14-81`); `verifyStructDefs`, `verifyEnumDefs`, `verifyVariants` and
`checkFields` are its loops. What it uses of `move_binary_format` (signature tokens, ability
sets, module ids) is taken as given (`FileFormat`), and so is `CompiledModule::abilities`.

The specification side writes out, for each field the checker visits, its required set, the
abilities assumed of the type parameters and the indices of its error (`fieldChecks`);
`verifyModuleImpl_eq_firstFailure` says the checker returns the outcome of the first of them
that fails.
-/
namespace Sui
namespace Verifier

/-- The parts of `move_binary_format::file_format` the checker uses without looking inside:
`AbilitySet::EMPTY`, `ALL`, `|`, `is_subset`, `into_iter`, and `Ability::requires`. -/
structure FileFormat where
  SignatureToken : Type
  ModuleId : Type
  AbilitySet : Type
  Ability : Type
  empty : AbilitySet
  all : AbilitySet
  union : AbilitySet → AbilitySet → AbilitySet
  isSubset : AbilitySet → AbilitySet → Bool
  abilities : AbilitySet → List Ability
  requires : Ability → AbilitySet

abbrev TableIndex := UInt16

/-- `IndexKind`, the kinds of table this checker locates an error in. -/
inductive IndexKind where
  | structDefinition
  | enumDefinition
  | variantTag
  | fieldDefinition
  deriving DecidableEq, Repr

/-- `StatusCode`: the one this checker raises, and every other as its number. -/
inductive StatusCode where
  | fieldMissingTypeAbility
  | other (code : UInt64)
  deriving DecidableEq, Repr

/-- `PartialVMError`: its status and the table indices it is located at. -/
structure PartialVMError where
  majorStatus : StatusCode
  indices : List (IndexKind × TableIndex)
  deriving DecidableEq, Repr

/-- `PartialVMError::at_index`: one more location, pushed at the end. -/
def PartialVMError.atIndex (e : PartialVMError) (kind : IndexKind) (index : TableIndex) :
    PartialVMError :=
  { e with indices := e.indices ++ [(kind, index)] }

def verificationError (status : StatusCode) (kind : IndexKind) (index : TableIndex) :
    PartialVMError :=
  PartialVMError.atIndex ⟨status, []⟩ kind index

variable (F : FileFormat)

/-- `Location`, as `verify_module` builds it. -/
inductive Location where
  | module (id : F.ModuleId)

structure VMError where
  majorStatus : StatusCode
  location : Location F
  indices : List (IndexKind × TableIndex)

/-! ## Compiled modules -/

/-- `DatatypeTyParameter`: the checker only counts them. -/
structure DatatypeTyParameter where

/-- `DatatypeHandle`: its abilities and type parameters. -/
structure DatatypeHandle where
  abilities : F.AbilitySet
  typeParameters : List DatatypeTyParameter

structure FieldDefinition where
  signature : F.SignatureToken

inductive StructFieldInformation where
  | native
  | declared (fields : List (FieldDefinition F))

/-- `StructDefinition`, whose handle is one of the module's `handles`. -/
structure StructDefinition (handles : Nat) where
  structHandle : Fin handles
  fieldInformation : StructFieldInformation F

structure VariantDefinition where
  fields : List (FieldDefinition F)

structure EnumDefinition (handles : Nat) where
  enumHandle : Fin handles
  variants : List (VariantDefinition F)

/-- `CompiledModule`, past the bounds checker: every definition's handle is in the table. -/
structure CompiledModule where
  selfId : F.ModuleId
  datatypeHandles : List (DatatypeHandle F)
  structDefs : List (StructDefinition F datatypeHandles.length)
  enumDefs : List (EnumDefinition F datatypeHandles.length)

variable {F}

def PartialVMError.finish (e : PartialVMError) (location : Location F) : VMError F :=
  ⟨e.majorStatus, location, e.indices⟩

def CompiledModule.datatypeHandleAt (m : CompiledModule F) (idx : Fin m.datatypeHandles.length) :
    DatatypeHandle F :=
  m.datatypeHandles.get idx

/-- `sh.abilities.into_iter().map(|a| a.requires()).fold(AbilitySet::EMPTY, |acc, r| acc | r)`. -/
def requiredAbilities (sh : DatatypeHandle F) : F.AbilitySet :=
  ((F.abilities sh.abilities).map F.requires).foldl F.union F.empty

/-- `sh.type_parameters.iter().map(|_| AbilitySet::ALL).collect()`. -/
def typeParameterAbilities (sh : DatatypeHandle F) : List F.AbilitySet :=
  sh.typeParameters.map fun _ => F.all

theorem typeParameterAbilities_eq (sh : DatatypeHandle F) :
    typeParameterAbilities sh = List.replicate sh.typeParameters.length F.all :=
  List.map_const' _ _

/-! ## The checker -/

variable (abilities : CompiledModule F → F.SignatureToken → List F.AbilitySet →
  Except PartialVMError F.AbilitySet)

/-- The loop over one datatype's fields, from position `fi`. -/
def checkFields (m : CompiledModule F) (required : F.AbilitySet) (tps : List F.AbilitySet)
    (missing : Nat → PartialVMError) (fi : Nat) : List (FieldDefinition F) → Except PartialVMError Unit
  | [] => pure ()
  | field :: fields => do
    let fieldAbilities ← abilities m field.signature tps
    if !F.isSubset required fieldAbilities then .error (missing fi)
    else checkFields m required tps missing (fi + 1) fields

/-- The loop over `struct_defs`, from index `idx`: a native struct is skipped. -/
def verifyStructDefs (m : CompiledModule F) (idx : Nat) :
    List (StructDefinition F m.datatypeHandles.length) → Except PartialVMError Unit
  | [] => pure ()
  | structDef :: structDefs => do
    let sh := m.datatypeHandleAt structDef.structHandle
    match structDef.fieldInformation with
    | .native => verifyStructDefs m (idx + 1) structDefs
    | .declared fields =>
      checkFields abilities m (requiredAbilities sh) (typeParameterAbilities sh)
        (fun _ => verificationError .fieldMissingTypeAbility .structDefinition (UInt16.ofNat idx))
        0 fields
      verifyStructDefs m (idx + 1) structDefs

/-- The loop over one enum's variants, from tag `i`. -/
def verifyVariants (m : CompiledModule F) (idx : Nat) (sh : DatatypeHandle F) (i : Nat) :
    List (VariantDefinition F) → Except PartialVMError Unit
  | [] => pure ()
  | variant :: variants => do
    checkFields abilities m (requiredAbilities sh) (typeParameterAbilities sh)
      (fun fi => ((verificationError .fieldMissingTypeAbility .enumDefinition (UInt16.ofNat idx)).atIndex
        .variantTag (UInt16.ofNat i)).atIndex .fieldDefinition (UInt16.ofNat fi))
      0 variant.fields
    verifyVariants m idx sh (i + 1) variants

/-- The loop over `enum_defs`, from index `idx`. -/
def verifyEnumDefs (m : CompiledModule F) (idx : Nat) :
    List (EnumDefinition F m.datatypeHandles.length) → Except PartialVMError Unit
  | [] => pure ()
  | enumDef :: enumDefs => do
    let sh := m.datatypeHandleAt enumDef.enumHandle
    verifyVariants abilities m idx sh 0 enumDef.variants
    verifyEnumDefs m (idx + 1) enumDefs

def verifyModuleImpl (m : CompiledModule F) : Except PartialVMError Unit := do
  verifyStructDefs abilities m 0 m.structDefs
  verifyEnumDefs abilities m 0 m.enumDefs

/-- `verify_module`: the error finished at the module. -/
def verifyModule (m : CompiledModule F) : Except (VMError F) Unit :=
  (verifyModuleImpl abilities m).mapError (·.finish (.module m.selfId))

/-! ## What the checker decides -/

/-- A field the checker visits, what it must have, and the error that reports it. -/
structure FieldCheck (F : FileFormat) where
  ty : F.SignatureToken
  required : F.AbilitySet
  typeParameterAbilities : List F.AbilitySet
  missing : PartialVMError

/-- The fields of the struct definition at `idx`, none for a native one: the union of
`requires` over its handle's abilities, one `ALL` per type parameter, and the error located at
`idx` alone. -/
def structFieldChecks (m : CompiledModule F) (idx : Nat)
    (structDef : StructDefinition F m.datatypeHandles.length) : List (FieldCheck F) :=
  let sh := m.datatypeHandles.get structDef.structHandle
  match structDef.fieldInformation with
  | .native => []
  | .declared fields => fields.map fun field =>
    ⟨field.signature, ((F.abilities sh.abilities).map F.requires).foldl F.union F.empty,
      List.replicate sh.typeParameters.length F.all,
      ⟨.fieldMissingTypeAbility, [(.structDefinition, UInt16.ofNat idx)]⟩⟩

/-- The fields of variant `i` of the enum definition at `idx` whose handle is `sh`. -/
def variantFieldChecks (idx : Nat) (sh : DatatypeHandle F) (i : Nat) (variant : VariantDefinition F) :
    List (FieldCheck F) :=
  variant.fields.enum.map fun (fi, field) =>
    ⟨field.signature, ((F.abilities sh.abilities).map F.requires).foldl F.union F.empty,
      List.replicate sh.typeParameters.length F.all,
      ⟨.fieldMissingTypeAbility, [(.enumDefinition, UInt16.ofNat idx), (.variantTag, UInt16.ofNat i),
        (.fieldDefinition, UInt16.ofNat fi)]⟩⟩

def enumFieldChecks (m : CompiledModule F) (idx : Nat)
    (enumDef : EnumDefinition F m.datatypeHandles.length) : List (FieldCheck F) :=
  enumDef.variants.enum.flatMap fun (i, variant) =>
    variantFieldChecks idx (m.datatypeHandles.get enumDef.enumHandle) i variant

/-- Every field the checker visits, in traversal order: struct definitions by index, then enum
definitions by index, variants by tag, fields by position. -/
def fieldChecks (m : CompiledModule F) : List (FieldCheck F) :=
  (m.structDefs.enum.flatMap fun (idx, structDef) => structFieldChecks m idx structDef) ++
    (m.enumDefs.enum.flatMap fun (idx, enumDef) => enumFieldChecks m idx enumDef)

/-- A field's outcome: its abilities' error, or `missing` unless they hold all it requires. -/
def FieldCheck.outcome (m : CompiledModule F) (c : FieldCheck F) :
    Except PartialVMError Unit := do
  let a ← abilities m c.ty c.typeParameterAbilities
  if F.isSubset c.required a then pure () else .error c.missing

/-- The outcome of the first field that fails, `Ok(())` when none does. -/
def firstFailure (m : CompiledModule F) : List (FieldCheck F) → Except PartialVMError Unit
  | [] => pure ()
  | c :: cs => do
    c.outcome abilities m
    firstFailure m cs

variable (m : CompiledModule F)

theorem firstFailure_append (cs ds : List (FieldCheck F)) :
    firstFailure abilities m (cs ++ ds) =
      (do firstFailure abilities m cs; firstFailure abilities m ds) := by
  induction cs with
  | nil => rfl
  | cons c cs ih => rw [List.cons_append, firstFailure, firstFailure, ih, bind_assoc]

theorem checkFields_eq (required : F.AbilitySet) (tps : List F.AbilitySet)
    (missing : Nat → PartialVMError) (fi : Nat) (fields : List (FieldDefinition F)) :
    checkFields abilities m required tps missing fi fields =
      firstFailure abilities m ((fields.enumFrom fi).map fun (j, field) =>
        ⟨field.signature, required, tps, missing j⟩) := by
  induction fields generalizing fi with
  | nil => rfl
  | cons field fields ih =>
    simp only [checkFields, List.enumFrom_cons, List.map_cons, firstFailure, FieldCheck.outcome, ih]
    cases abilities m field.signature tps with
    | error e => rfl
    | ok a => cases h : F.isSubset required a <;> simp [h, bind, Except.bind, pure, Except.pure]

theorem checkFields_const (required : F.AbilitySet) (tps : List F.AbilitySet) (missing : PartialVMError)
    (fi : Nat) (fields : List (FieldDefinition F)) :
    checkFields abilities m required tps (fun _ => missing) fi fields =
      firstFailure abilities m (fields.map fun field => ⟨field.signature, required, tps, missing⟩) := by
  rw [checkFields_eq]
  conv_rhs => rw [← List.enumFrom_map_snd fi fields, List.map_map]
  rfl

theorem verifyStructDefs_eq (idx : Nat) (structDefs : List (StructDefinition F m.datatypeHandles.length)) :
    verifyStructDefs abilities m idx structDefs =
      firstFailure abilities m ((structDefs.enumFrom idx).flatMap fun (idx, structDef) =>
        structFieldChecks m idx structDef) := by
  induction structDefs generalizing idx with
  | nil => rfl
  | cons structDef structDefs ih =>
    simp only [verifyStructDefs, List.enumFrom_cons, List.flatMap_cons, firstFailure_append, ih]
    cases h : structDef.fieldInformation with
    | native => simp only [structFieldChecks, h]; rfl
    | declared fields =>
      simp only [structFieldChecks, h, checkFields_const, typeParameterAbilities_eq]
      rfl

theorem verifyVariants_eq (idx : Nat) (sh : DatatypeHandle F) (i : Nat)
    (variants : List (VariantDefinition F)) :
    verifyVariants abilities m idx sh i variants =
      firstFailure abilities m ((variants.enumFrom i).flatMap fun (i, variant) =>
        variantFieldChecks idx sh i variant) := by
  induction variants generalizing i with
  | nil => rfl
  | cons variant variants ih =>
    simp only [verifyVariants, List.enumFrom_cons, List.flatMap_cons, firstFailure_append, ih,
      checkFields_eq, variantFieldChecks, List.enum, typeParameterAbilities_eq]
    rfl

theorem verifyEnumDefs_eq (idx : Nat) (enumDefs : List (EnumDefinition F m.datatypeHandles.length)) :
    verifyEnumDefs abilities m idx enumDefs =
      firstFailure abilities m ((enumDefs.enumFrom idx).flatMap fun (idx, enumDef) =>
        enumFieldChecks m idx enumDef) := by
  induction enumDefs generalizing idx with
  | nil => rfl
  | cons enumDef enumDefs ih =>
    simp only [verifyEnumDefs, List.enumFrom_cons, List.flatMap_cons, firstFailure_append, ih,
      verifyVariants_eq, enumFieldChecks, List.enum, CompiledModule.datatypeHandleAt]

/-- The checker returns the outcome of the first field that fails. -/
theorem verifyModuleImpl_eq_firstFailure :
    verifyModuleImpl abilities m = firstFailure abilities m (fieldChecks m) := by
  simp only [verifyModuleImpl, verifyStructDefs_eq, verifyEnumDefs_eq, fieldChecks,
    firstFailure_append, List.enum]

theorem outcome_eq_ok {c : FieldCheck F} :
    c.outcome abilities m = .ok () ↔
      ∃ a, abilities m c.ty c.typeParameterAbilities = .ok a ∧ F.isSubset c.required a := by
  unfold FieldCheck.outcome
  cases abilities m c.ty c.typeParameterAbilities with
  | error e => simp [bind, Except.bind]
  | ok a => cases h : F.isSubset c.required a <;> simp [h, bind, Except.bind, pure, Except.pure]

theorem outcome_eq_error {c : FieldCheck F} {e : PartialVMError} (h : c.outcome abilities m = .error e) :
    abilities m c.ty c.typeParameterAbilities = .error e ∨
      (∃ a, abilities m c.ty c.typeParameterAbilities = .ok a ∧ F.isSubset c.required a = false) ∧
        e = c.missing := by
  unfold FieldCheck.outcome at h
  cases ha : abilities m c.ty c.typeParameterAbilities with
  | error e' => simp_all [bind, Except.bind]
  | ok a => cases hs : F.isSubset c.required a <;> simp_all [bind, Except.bind, pure, Except.pure]

theorem firstFailure_eq_ok (cs : List (FieldCheck F)) :
    firstFailure abilities m cs = .ok () ↔
      ∀ c ∈ cs, ∃ a, abilities m c.ty c.typeParameterAbilities = .ok a ∧ F.isSubset c.required a := by
  induction cs with
  | nil => simp [firstFailure, pure, Except.pure]
  | cons c cs ih =>
    rw [firstFailure, List.forall_mem_cons, ← ih, ← outcome_eq_ok]
    cases c.outcome abilities m <;> simp [bind, Except.bind]

/-- `verify_module_impl` accepts a module exactly when every field has what its datatype
requires, and otherwise returns the outcome of the first field that does not. -/
theorem verifyModuleImpl_spec :
    (verifyModuleImpl abilities m = .ok () ↔
      ∀ c ∈ fieldChecks m, ∃ a, abilities m c.ty c.typeParameterAbilities = .ok a ∧
        F.isSubset c.required a) ∧
    verifyModuleImpl abilities m = firstFailure abilities m (fieldChecks m) := by
  rw [verifyModuleImpl_eq_firstFailure]
  exact ⟨firstFailure_eq_ok abilities m _, rfl⟩

/-! ## What the checker is for, and where it reports a failure -/

/-- The field has every ability `sh`'s abilities require, each type parameter having all. -/
def HasRequiredAbilities (sh : DatatypeHandle F) (field : FieldDefinition F) : Prop :=
  ∃ a, abilities m field.signature (List.replicate sh.typeParameters.length F.all) = .ok a ∧
    F.isSubset (((F.abilities sh.abilities).map F.requires).foldl F.union F.empty) a

/-- The field's abilities are computed, and miss one that `sh`'s abilities require. -/
def MissesRequiredAbility (sh : DatatypeHandle F) (field : FieldDefinition F) : Prop :=
  ∃ a, abilities m field.signature (List.replicate sh.typeParameters.length F.all) = .ok a ∧
    F.isSubset (((F.abilities sh.abilities).map F.requires).foldl F.union F.empty) a = false

/-- Every field of every declared struct, and every field of every variant of every enum, has
the abilities its datatype requires (`:5-6`). -/
def FieldsHaveRequiredAbilities : Prop :=
  (∀ structDef ∈ m.structDefs, ∀ fields, structDef.fieldInformation = .declared fields →
    ∀ field ∈ fields, HasRequiredAbilities abilities m (m.datatypeHandles.get structDef.structHandle) field) ∧
  (∀ enumDef ∈ m.enumDefs, ∀ variant ∈ enumDef.variants, ∀ field ∈ variant.fields,
    HasRequiredAbilities abilities m (m.datatypeHandles.get enumDef.enumHandle) field)

/-- Where `FIELD_MISSING_TYPE_ABILITY` is located: at a declared struct with a field that
misses a required ability, by the struct definition's index alone; at such a field of an
enum's variant, by the enum definition's index, the variant's tag and the field's position. -/
def MissingAbilityAt (indices : List (IndexKind × TableIndex)) : Prop :=
  (∃ idx structDef fields field, m.structDefs[idx]? = some structDef ∧
    structDef.fieldInformation = .declared fields ∧ field ∈ fields ∧
    MissesRequiredAbility abilities m (m.datatypeHandles.get structDef.structHandle) field ∧
    indices = [(.structDefinition, UInt16.ofNat idx)]) ∨
  (∃ idx enumDef i variant fi field, m.enumDefs[idx]? = some enumDef ∧
    enumDef.variants[i]? = some variant ∧ variant.fields[fi]? = some field ∧
    MissesRequiredAbility abilities m (m.datatypeHandles.get enumDef.enumHandle) field ∧
    indices = [(.enumDefinition, UInt16.ofNat idx), (.variantTag, UInt16.ofNat i),
      (.fieldDefinition, UInt16.ofNat fi)])

theorem forall_mem_enum {α : Type} {Q : α → Prop} {l : List α} :
    (∀ i x, (i, x) ∈ l.enum → Q x) ↔ ∀ x ∈ l, Q x :=
  ⟨fun h x hx => let ⟨i, hi⟩ := List.mem_iff_getElem?.1 hx; h i x (List.mk_mem_enum_iff_getElem?.2 hi),
    fun h _ x hx => h x (List.snd_mem_of_mem_enum hx)⟩

theorem forall_structFieldChecks (idx : Nat) (structDef : StructDefinition F m.datatypeHandles.length) :
    (∀ c ∈ structFieldChecks m idx structDef,
      ∃ a, abilities m c.ty c.typeParameterAbilities = .ok a ∧ F.isSubset c.required a) ↔
    ∀ fields, structDef.fieldInformation = .declared fields →
      ∀ field ∈ fields, HasRequiredAbilities abilities m (m.datatypeHandles.get structDef.structHandle) field := by
  unfold structFieldChecks
  split <;> simp [HasRequiredAbilities, *]

theorem forall_enumFieldChecks (idx : Nat) (enumDef : EnumDefinition F m.datatypeHandles.length) :
    (∀ c ∈ enumFieldChecks m idx enumDef,
      ∃ a, abilities m c.ty c.typeParameterAbilities = .ok a ∧ F.isSubset c.required a) ↔
    ∀ variant ∈ enumDef.variants, ∀ field ∈ variant.fields,
      HasRequiredAbilities abilities m (m.datatypeHandles.get enumDef.enumHandle) field := by
  simp only [enumFieldChecks, variantFieldChecks, List.forall_mem_flatMap, List.forall_mem_map,
    Prod.forall, forall_mem_enum, HasRequiredAbilities]

theorem verifyModule_eq_ok :
    verifyModule abilities m = .ok () ↔ FieldsHaveRequiredAbilities abilities m := by
  have hfinish : verifyModule abilities m = .ok () ↔ verifyModuleImpl abilities m = .ok () := by
    cases h : verifyModuleImpl abilities m <;> simp [verifyModule, Except.mapError, h]
  rw [hfinish, verifyModuleImpl_eq_firstFailure, firstFailure_eq_ok, fieldChecks,
    List.forall_mem_append, List.forall_mem_flatMap, List.forall_mem_flatMap]
  simp only [Prod.forall, forall_structFieldChecks, forall_enumFieldChecks]
  exact and_congr forall_mem_enum forall_mem_enum

theorem firstFailure_eq_error {cs : List (FieldCheck F)} {e : PartialVMError}
    (h : firstFailure abilities m cs = .error e) : ∃ c ∈ cs, c.outcome abilities m = .error e := by
  induction cs with
  | nil => cases h
  | cons c cs ih =>
    cases hc : c.outcome abilities m with
    | error e' =>
      simp only [firstFailure, hc] at h
      exact ⟨c, List.mem_cons_self c cs, hc.trans h⟩
    | ok u =>
      simp only [firstFailure, hc] at h
      obtain ⟨c', hc', he⟩ := ih h
      exact ⟨c', List.mem_cons_of_mem c hc', he⟩

theorem mem_fieldChecks {c : FieldCheck F} (h : c ∈ fieldChecks m) :
    (∃ idx structDef fields field, m.structDefs[idx]? = some structDef ∧
      structDef.fieldInformation = .declared fields ∧ field ∈ fields ∧
      let sh := m.datatypeHandles.get structDef.structHandle
      c = ⟨field.signature, ((F.abilities sh.abilities).map F.requires).foldl F.union F.empty,
        List.replicate sh.typeParameters.length F.all,
        ⟨.fieldMissingTypeAbility, [(.structDefinition, UInt16.ofNat idx)]⟩⟩) ∨
    (∃ idx enumDef i variant fi field, m.enumDefs[idx]? = some enumDef ∧
      enumDef.variants[i]? = some variant ∧ variant.fields[fi]? = some field ∧
      let sh := m.datatypeHandles.get enumDef.enumHandle
      c = ⟨field.signature, ((F.abilities sh.abilities).map F.requires).foldl F.union F.empty,
        List.replicate sh.typeParameters.length F.all,
        ⟨.fieldMissingTypeAbility, [(.enumDefinition, UInt16.ofNat idx), (.variantTag, UInt16.ofNat i),
          (.fieldDefinition, UInt16.ofNat fi)]⟩⟩) := by
  simp only [fieldChecks, List.mem_append, List.mem_flatMap, Prod.exists,
    List.mk_mem_enum_iff_getElem?] at h
  rcases h with ⟨idx, structDef, hsd, hc⟩ | ⟨idx, enumDef, hed, hc⟩
  · unfold structFieldChecks at hc
    split at hc
    · cases hc
    · rename_i fields hfi
      obtain ⟨field, hf, rfl⟩ := List.mem_map.1 hc
      exact .inl ⟨idx, structDef, fields, field, hsd, hfi, hf, rfl⟩
  · simp only [enumFieldChecks, variantFieldChecks, List.mem_flatMap, List.mem_map, Prod.exists,
      List.mk_mem_enum_iff_getElem?] at hc
    obtain ⟨i, variant, hv, fi, field, hf, rfl⟩ := hc
    exact .inr ⟨idx, enumDef, i, variant, fi, field, hed, hv, hf, rfl⟩

/-- Every error `verify_module` returns is finished at the module, and is either the error
`abilities` returned for a field the checker visits, or `FIELD_MISSING_TYPE_ABILITY` located
at a field that misses a required ability: a struct's by the definition's index alone, an
enum's by the definition's index, the variant's tag and the field's position. -/
theorem verifyModule_eq_error {e : VMError F} (h : verifyModule abilities m = .error e) :
    e.location = .module m.selfId ∧
      ((∃ c ∈ fieldChecks m, abilities m c.ty c.typeParameterAbilities = .error ⟨e.majorStatus, e.indices⟩) ∨
        e.majorStatus = .fieldMissingTypeAbility ∧ MissingAbilityAt abilities m e.indices) := by
  cases hi : verifyModuleImpl abilities m with
  | ok u => simp [verifyModule, hi, Except.mapError] at h
  | error pe =>
    simp only [verifyModule, hi, Except.mapError, Except.error.injEq] at h
    subst h
    rw [verifyModuleImpl_eq_firstFailure] at hi
    obtain ⟨c, hc, hout⟩ := firstFailure_eq_error abilities m hi
    refine ⟨rfl, ?_⟩
    rcases outcome_eq_error abilities m hout with habil | ⟨hmiss, rfl⟩
    · exact .inl ⟨c, hc, habil⟩
    · right
      rcases mem_fieldChecks m hc with
        ⟨idx, structDef, fields, field, hsd, hfi, hf, rfl⟩ | ⟨idx, enumDef, i, variant, fi, field, hed, hv, hf, rfl⟩
      · exact ⟨rfl, .inl ⟨idx, structDef, fields, field, hsd, hfi, hf, hmiss, rfl⟩⟩
      · exact ⟨rfl, .inr ⟨idx, enumDef, i, variant, fi, field, hed, hv, hf, hmiss, rfl⟩⟩

/-- One ability, which requires itself; a type is whether it has it. -/
def FileFormat.oneAbility : FileFormat :=
  ⟨Bool, Unit, Bool, Unit, false, true, or, fun a b => !a || b, fun a => if a then [()] else [],
    fun _ => true⟩

/-- A type's abilities: itself. -/
def typeAbilities (_ : CompiledModule FileFormat.oneAbility) (ty : Bool) (_ : List Bool) :
    Except PartialVMError Bool :=
  .ok ty

/-- A struct with the ability, and one field whose type lacks it. -/
def oneStructMissing : CompiledModule FileFormat.oneAbility :=
  ⟨(), [⟨true, []⟩], [⟨⟨0, Nat.one_pos⟩, .declared [⟨false⟩]⟩], []⟩

theorem verifyModule_eq_error_oneStruct :
    verifyModule typeAbilities oneStructMissing =
        .error ⟨.fieldMissingTypeAbility, .module (), [(.structDefinition, 0)]⟩ ∧
      MissingAbilityAt typeAbilities oneStructMissing [(.structDefinition, 0)] :=
  ⟨rfl, ((verifyModule_eq_error typeAbilities oneStructMissing rfl).2.resolve_left
    fun ⟨_, _, hc⟩ => nomatch hc).2⟩

end Verifier
end Sui
