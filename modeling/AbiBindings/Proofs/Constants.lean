import AbiBindings.Proofs.Contents
import AbiBindings.Text.Beginning

/-!
# Constants by name

A constant is looked up by its name, or by how its name begins. The names that are fixed differ from
each other and from those that are made from element types and members, which have beginnings of
their own.
-/

namespace AbiBindings

open Julia Declaration

/-- The constants of a file after the first, which is the path of the library. -/
def ownConstants (a : Artifact) : List (String × String) :=
  (a.declarations.filterMap constant?).tail

/-- The values of the constants of a name. -/
def valuesOf (name : String) (constants : List (String × String)) : List String :=
  (constants.filter fun c => c.1 == name).map (·.2)

/-- The constants whose names begin in a given way. -/
def constantsFrom (start : String) (constants : List (String × String)) :
    List (String × String) :=
  constants.filter fun c => Text.startsWith start c.1

theorem valuesOf_append (name : String) (front rest : List (String × String)) :
    valuesOf name (front ++ rest) = valuesOf name front ++ valuesOf name rest := by
  simp only [valuesOf, List.filter_append, List.map_append]

theorem valuesOf_eq_nil {name : String} {constants : List (String × String)}
    (h : ∀ c ∈ constants, c.1 ≠ name) : valuesOf name constants = [] := by
  have hfilter : (constants.filter fun c => c.1 == name) = [] :=
    List.filter_eq_nil_iff.mpr fun c hc => by simpa using h c hc
  rw [valuesOf, hfilter, List.map_nil]

/-- Where names are distinct, a constant is the only one of its name. -/
theorem valuesOf_of_mem {constants : List (String × String)}
    (hnodup : (constants.map (·.1)).Nodup) {name value : String} (h : (name, value) ∈ constants) :
    valuesOf name constants = [value] := by
  obtain ⟨front, rest, rfl⟩ := List.append_of_mem h
  rw [List.map_append, List.map_cons, List.nodup_append, List.nodup_cons] at hnodup
  obtain ⟨-, ⟨hrest, -⟩, hfront⟩ := hnodup
  have hnone : ∀ c ∈ front, c.1 ≠ name := fun c hc =>
    hfront c.1 (List.mem_map_of_mem hc) name List.mem_cons_self
  have hnone' : ∀ c ∈ rest, c.1 ≠ name := by
    rintro c hc rfl
    exact hrest (List.mem_map.mpr ⟨c, hc, rfl⟩)
  rw [valuesOf_append, valuesOf_eq_nil hnone, List.nil_append, valuesOf, List.filter_cons]
  have hfilter := valuesOf_eq_nil hnone'
  simpa [valuesOf] using hfilter

theorem constantsFrom_append (start : String) (front rest : List (String × String)) :
    constantsFrom start (front ++ rest) = constantsFrom start front ++ constantsFrom start rest :=
  List.filter_append _ _

theorem constantsFrom_eq_nil {start : String} {constants : List (String × String)}
    (h : ∀ c ∈ constants, Text.startsWith start c.1 = false) : constantsFrom start constants = [] :=
  List.filter_eq_nil_iff.mpr fun c hc => by simp [h c hc]

theorem constantsFrom_eq_self {start : String} {constants : List (String × String)}
    (h : ∀ c ∈ constants, Text.startsWith start c.1 = true) :
    constantsFrom start constants = constants :=
  List.filter_eq_self.mpr h

namespace Bindings.Source

variable (s : Source)

theorem ownConstants_listing : ownConstants ⟨s.listing⟩ = s.laterConstants := by
  rw [ownConstants, constants_listing, List.tail_cons]

/-- The constants whose names depend on neither the element types nor the platform. -/
def fixedConstants : List (String × String) :=
  s.frontConstants ++ s.cameraConstants

/-- The names of the fixed constants, in their order. -/
def fixedNames : List String :=
  Tao.Status.all.map Tao.Status.name ++ ["ShmId", "BAD_SHMID", "Cenum"] ++
    Tao.objectTypeTags.map (·.name) ++ Tao.capacityLimits.map (·.name) ++
    Tao.CameraState.all.map Tao.CameraState.name

theorem map_fst_fixedConstants : s.fixedConstants.map (·.1) = fixedNames := by
  rfl

theorem nodup_fixedNames : fixedNames.Nodup := by
  decide

theorem fst_mem_fixedNames {c : String × String} (h : c ∈ s.fixedConstants) : c.1 ∈ fixedNames := by
  rw [← s.map_fst_fixedConstants]
  exact List.mem_map_of_mem h

/-- How the names begin that are made from element types and members. -/
def madeNameStarts : List String :=
  ["ELTYPE_", "_typeof_", "_sizeof_", "_offsetof_"]

theorem not_startsWith_of_mem_fixedNames {name start : String} (hname : name ∈ fixedNames)
    (hstart : start ∈ madeNameStarts) : Text.startsWith start name = false := by
  have hall : ∀ name ∈ fixedNames, ∀ start ∈ madeNameStarts,
      Text.startsWith start name = false := by
    decide
  exact hall name hname start hstart

/-- All names begin in the given way. -/
def NamedFrom (start : String) (constants : List (String × String)) : Prop :=
  ∀ c ∈ constants, ∃ rest, c.1 = start ++ rest

theorem NamedFrom.constantsFrom_self {start : String} {constants : List (String × String)}
    (h : NamedFrom start constants) : constantsFrom start constants = constants := by
  apply constantsFrom_eq_self
  intro c hc
  obtain ⟨rest, hrest⟩ := h c hc
  rw [hrest, Text.startsWith_append]

theorem NamedFrom.constantsFrom_other {start other : String} {constants : List (String × String)}
    (h : NamedFrom start constants) (hclash : Text.clash other start = true) :
    constantsFrom other constants = [] := by
  apply constantsFrom_eq_nil
  intro c hc
  obtain ⟨rest, hrest⟩ := h c hc
  rw [hrest, Text.startsWith_append_of_clash hclash]

theorem NamedFrom.valuesOf_fixed {start name : String} {constants : List (String × String)}
    (h : NamedFrom start constants) (hstart : start ∈ madeNameStarts) (hname : name ∈ fixedNames) :
    valuesOf name constants = [] := by
  apply valuesOf_eq_nil
  rintro c hc rfl
  obtain ⟨rest, hrest⟩ := h c hc
  have hfixed := not_startsWith_of_mem_fixedNames hname hstart
  rw [hrest, Text.startsWith_append] at hfixed
  exact absurd hfixed (by decide)

theorem namedFrom_elementConstants : NamedFrom "ELTYPE_" s.elementConstants := by
  intro c hc
  obtain ⟨e, -, rfl⟩ := List.mem_map.mp hc
  exact ⟨e.name, rfl⟩

theorem fieldConstantName_eq (kind : String) (layout : StructLayout) (f : FieldLayout) :
    fieldConstantName kind layout f =
      ("_" ++ kind ++ "_") ++ (layout.name ++ "_" ++ shortFieldName f.field) := by
  simp only [fieldConstantName, String.append_assoc]

theorem namedFrom_fieldTypeConstants : NamedFrom "_typeof_" s.fieldTypeConstants := by
  intro c hc
  obtain ⟨f, -, rfl⟩ := List.mem_map.mp hc
  exact ⟨_, fieldConstantName_eq "typeof" s.platform.timespec f⟩

theorem namedFrom_sizeConstant : NamedFrom "_sizeof_" [s.sizeConstant] := by
  intro c hc
  rw [List.mem_singleton] at hc
  subst hc
  exact ⟨s.platform.timespec.name, rfl⟩

theorem namedFrom_fieldOffsetConstants : NamedFrom "_offsetof_" s.fieldOffsetConstants := by
  intro c hc
  obtain ⟨f, -, rfl⟩ := List.mem_map.mp hc
  exact ⟨_, fieldConstantName_eq "offsetof" s.platform.timespec f⟩

/-- No fixed constant has a name that begins like one that is made. -/
theorem constantsFrom_of_subset_fixed {start : String} (hstart : start ∈ madeNameStarts)
    {constants : List (String × String)} (h : constants ⊆ s.fixedConstants) :
    constantsFrom start constants = [] :=
  constantsFrom_eq_nil fun _ hc =>
    not_startsWith_of_mem_fixedNames (s.fst_mem_fixedNames (h hc)) hstart

/-- A fixed constant is the only one of its name after the path of the library. -/
theorem valuesOf_fixed {name value : String} (h : (name, value) ∈ s.fixedConstants) :
    valuesOf name s.laterConstants = [value] := by
  have hname := s.fst_mem_fixedNames h
  have hfixed : valuesOf name s.fixedConstants = [value] :=
    valuesOf_of_mem (s.map_fst_fixedConstants ▸ nodup_fixedNames) h
  rw [fixedConstants, valuesOf_append] at hfixed
  rw [laterConstants, valuesOf_append, valuesOf_append, valuesOf_append, valuesOf_append,
    valuesOf_append, s.namedFrom_elementConstants.valuesOf_fixed (by decide) hname,
    s.namedFrom_fieldTypeConstants.valuesOf_fixed (by decide) hname,
    s.namedFrom_sizeConstant.valuesOf_fixed (by decide) hname,
    s.namedFrom_fieldOffsetConstants.valuesOf_fixed (by decide) hname, ← hfixed]
  simp only [List.append_nil]

theorem constantsFrom_laterConstants {start : String} (hstart : start ∈ madeNameStarts) :
    constantsFrom start s.laterConstants =
      constantsFrom start s.elementConstants ++ constantsFrom start s.fieldTypeConstants ++
        constantsFrom start [s.sizeConstant] ++ constantsFrom start s.fieldOffsetConstants := by
  have hfront := s.constantsFrom_of_subset_fixed hstart (List.subset_append_left s.frontConstants _)
  have hcamera :=
    s.constantsFrom_of_subset_fixed hstart (List.subset_append_right _ s.cameraConstants)
  simp only [laterConstants, constantsFrom_append, hfront, hcamera, List.nil_append,
    List.append_nil]

/-- The constants of the element types are told by their names. -/
theorem constantsFrom_elements :
    constantsFrom "ELTYPE_" s.laterConstants = s.elementConstants := by
  rw [s.constantsFrom_laterConstants (by decide), s.namedFrom_elementConstants.constantsFrom_self,
    s.namedFrom_fieldTypeConstants.constantsFrom_other (by decide),
    s.namedFrom_sizeConstant.constantsFrom_other (by decide),
    s.namedFrom_fieldOffsetConstants.constantsFrom_other (by decide)]
  simp only [List.append_nil]

/-- The constants of the types of members are told by their names. -/
theorem constantsFrom_fieldTypes :
    constantsFrom "_typeof_" s.laterConstants = s.fieldTypeConstants := by
  rw [s.constantsFrom_laterConstants (by decide),
    s.namedFrom_elementConstants.constantsFrom_other (by decide),
    s.namedFrom_fieldTypeConstants.constantsFrom_self,
    s.namedFrom_sizeConstant.constantsFrom_other (by decide),
    s.namedFrom_fieldOffsetConstants.constantsFrom_other (by decide)]
  simp only [List.append_nil, List.nil_append]

end Bindings.Source

end AbiBindings
