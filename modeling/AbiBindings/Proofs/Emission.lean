import AbiBindings.Bindings.Sections
import AbiBindings.Proofs.ElementTypes
import AbiBindings.Proofs.TypeNames

/-!
# Emission always succeeds

Every type that a section needs has a name, so no section fails, and the declarations are those of
`listing` whatever the platform. The check of the widths alone decides whether there is a file.
-/

namespace AbiBindings

namespace IntEnumeration

theorem mem_all (e : IntEnumeration) : e ∈ all := by
  cases e <;> decide

theorem differsFromInt_iff (p : Platform) (e : IntEnumeration) :
    e.differsFromInt p = true ↔ (e.representation p).size ≠ p.cInt.size :=
  bne_iff_ne

/-- The enumeration is not as wide as an `int`, and those before it in the order of checks are. -/
def FirstDiffering (p : Platform) (e : IntEnumeration) : Prop :=
  (e.representation p).size ≠ p.cInt.size ∧
    ∃ before after, all = before ++ e :: after ∧
      ∀ d ∈ before, (d.representation p).size = p.cInt.size

theorem find?_differsFromInt_iff (p : Platform) (e : IntEnumeration) :
    all.find? (·.differsFromInt p) = some e ↔ e.FirstDiffering p := by
  rw [List.find?_eq_some_iff_append, differsFromInt_iff, FirstDiffering]
  simp only [Bool.not_eq_true', ← Bool.not_eq_true, differsFromInt_iff, ne_eq, Decidable.not_not]

end IntEnumeration

namespace Platform

/-- All four enumerations are exactly as wide as an `int`. -/
def Acceptable (p : Platform) : Prop :=
  ∀ e : IntEnumeration, (e.representation p).size = p.cInt.size

theorem checkWidths_eq_ok_iff (p : Platform) : p.checkWidths = .ok () ↔ p.Acceptable := by
  have hnone : IntEnumeration.all.find? (·.differsFromInt p) = none ↔ p.Acceptable := by
    simp only [Acceptable, List.find?_eq_none, IntEnumeration.differsFromInt_iff, ne_eq,
      Decidable.not_not, IntEnumeration.mem_all, forall_const]
  rw [← hnone]
  unfold checkWidths
  split <;> simp_all

/-- A platform is either acceptable, or refused for the first enumeration that differs. -/
theorem checkWidths_cases (p : Platform) :
    p.Acceptable ∨
      ∃ e : IntEnumeration, e.FirstDiffering p ∧
        p.checkWidths = .error (.assertion e.assertion) := by
  rw [← checkWidths_eq_ok_iff]
  unfold checkWidths
  cases h : IntEnumeration.all.find? (·.differsFromInt p) with
  | none => exact Or.inl rfl
  | some e => exact Or.inr ⟨e, (IntEnumeration.find?_differsFromInt_iff p e).mp h, rfl⟩

/-- A platform on which `int`, `long` and all enumerations have four bytes. -/
def ilp32 : Platform where
  cChar := Tao.NativeElement.int8.representation
  cShort := Tao.NativeElement.int16.representation
  cInt := Tao.NativeElement.int32.representation
  cLong := Tao.NativeElement.int32.representation
  cFloat := Tao.NativeElement.float.representation
  cDouble := Tao.NativeElement.double.representation
  status := Tao.NativeElement.int32.representation
  objectType := Tao.NativeElement.uint32.representation
  elementType := Tao.NativeElement.uint32.representation
  cameraState := Tao.NativeElement.uint32.representation
  cEnum := Tao.NativeElement.int32.representation
  shmId := Tao.NativeElement.int32.representation
  timespec := ⟨"timespec", 8, []⟩

end Platform

namespace Bindings.Source

open Julia

variable (s : Source)

/-- The text of the name of the type of a representation. -/
def named (style : Style) (r : Representation) : String :=
  (TypeName.chosen s.platform style r).render

theorem typeName_eq_named (style : Style) (r : Representation) :
    s.typeName style r = .ok (s.named style r) := by
  simp only [typeName, TypeName.resolve_eq_chosen, Except.map, named]

/-- The declaration of the type of a member. -/
def fieldTypeNamed (f : FieldLayout) : Declaration :=
  fieldTypeOf s.platform.timespec f (s.named .fixedWidth f.repr)

/-- What the sections hold, in order. -/
def parts : List (List Declaration) :=
  [s.header,
    s.libraryPath,
    statusOf (s.named .nativeCall s.platform.status),
    s.sharedMemoryOf (s.named .fixedWidth s.platform.shmId),
    enumerationTypeOf (s.named .nativeCall s.platform.cEnum),
    s.objectTypes,
    s.capacities,
    s.elementUnion,
    s.elementTuple,
    s.elementDispatchOf (s.named .nativeCall s.platform.cInt),
    s.elementTable,
    timespecOf s.platform.timespec (s.platform.timespec.fields.map s.fieldTypeNamed),
    cameraStatesOf (s.named .nativeCall s.platform.cInt)]

/-- The declarations of all sections, in order. -/
def listing : List Declaration :=
  s.parts.flatten

theorem timespec_eq :
    s.timespec =
      .ok (timespecOf s.platform.timespec (s.platform.timespec.fields.map s.fieldTypeNamed)) := by
  have hfield : ∀ f, s.fieldType s.platform.timespec f = .ok (s.fieldTypeNamed f) := fun f => by
    simp only [fieldType, typeName_eq_named, Except.map, fieldTypeNamed]
  simp only [timespec, mapM_ok hfield, Except.map]

theorem sections_eq_parts : s.sections = s.parts.map .ok := by
  simp only [sections, parts, status, sharedMemory, enumerationType, elementDispatch, cameraStates,
    timespec_eq, typeName_eq_named, Except.map, List.map_cons, List.map_nil]

theorem declarations_eq_listing : s.declarations = .ok s.listing := by
  have hparts : s.sections.mapM id = .ok s.parts := by
    rw [sections_eq_parts, List.mapM_map]
    exact (mapM_ok (g := id) (fun _ => rfl) s.parts).trans (by rw [List.map_id])
  simp only [declarations, hparts]
  rfl

/-- The declarations of an acceptable platform make up its file. -/
theorem artifact_eq_ok (h : s.platform.Acceptable) : s.artifact = .ok ⟨s.listing⟩ := by
  simp only [artifact, (s.platform.checkWidths_eq_ok_iff).mpr h, declarations_eq_listing]
  rfl

theorem artifact_eq_error {v : Violation} (h : s.platform.checkWidths = .error v) :
    s.artifact = .error v := by
  simp only [artifact, h]
  rfl

end Bindings.Source

end AbiBindings
