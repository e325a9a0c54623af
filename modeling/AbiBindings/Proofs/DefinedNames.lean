import AbiBindings.Proofs.Constants
import AbiBindings.Proofs.Generation
import AbiBindings.Settings.Reader
import Mathlib.Data.List.Dedup
import Mathlib.Data.List.Perm.Basic

/-!
# The names that a file defines

A file defines its constants, lists and structures, and the functions of its methods. The names of
the bindings are fixed, or made from an element type or a member, or chosen by the user for the path
of the library. Nothing keeps the last apart from the others, and the prefix of a member is dropped
whatever it is. These are the only two ways in which a name can come twice.
-/

namespace AbiBindings

open Julia

namespace Julia

/-- The names that a file defines, each as often as it does. All methods of a function are one
definition. -/
def Artifact.definedNames (a : Artifact) : List String :=
  (a.declarations.filterMap Declaration.constant?).map (·.1) ++
    (a.declarations.filterMap Declaration.list?).map (·.1) ++
    (a.declarations.filterMap Declaration.structure?).map (·.1) ++
    (a.declarations.filterMap Declaration.function?).dedup

end Julia

/-- The names of the members, each without its prefix. -/
def StructLayout.shortNames (layout : StructLayout) : List String :=
  layout.fields.map fun f => Bindings.Source.shortFieldName f.field

namespace Text

theorem nodup_map_append_iff (front : String) (names : List String) :
    (names.map (front ++ ·)).Nodup ↔ names.Nodup :=
  List.nodup_map_iff fun _ _ => (String.append_right_inj front).mp

end Text

namespace Bindings.Source

/-- The names of the structure, the lists and the function. -/
def otherNames : List String :=
  ["Status", "SharedArrayElementTypes", "SHARED_ARRAY_ELTYPES", codeFunction]

/-- The names that depend on nothing. -/
def singleNames : List String :=
  fixedNames ++ otherNames

def layoutNames (layout : StructLayout) : List String :=
  layout.fields.map (fieldConstantName "typeof" layout) ++ ["_sizeof_" ++ layout.name] ++
    layout.fields.map (fieldConstantName "offsetof" layout)

/-- The names that the bindings define by themselves. -/
def ownNames (types : Tao.ElementTypes) (layout : StructLayout) : List String :=
  singleNames ++ types.entries.map elementConstantName ++ layoutNames layout

theorem nodup_singleNames : singleNames.Nodup := by
  decide

theorem not_startsWith_of_mem_singleNames {name start : String} (hname : name ∈ singleNames)
    (hstart : start ∈ madeNameStarts) : Text.startsWith start name = false := by
  have hother : ∀ name ∈ otherNames, ∀ start ∈ madeNameStarts,
      Text.startsWith start name = false := by
    decide
  rcases List.mem_append.mp hname with hfixed | hname
  · exact not_startsWith_of_mem_fixedNames hfixed hstart
  · exact hother name hname start hstart

theorem elementConstantNames_eq (types : Tao.ElementTypes) :
    types.entries.map elementConstantName =
      (types.entries.map (·.name)).map ("ELTYPE_" ++ ·) := by
  rw [List.map_map]
  rfl

theorem fieldConstantNames_eq (kind : String) (layout : StructLayout) :
    layout.fields.map (fieldConstantName kind layout) =
      layout.shortNames.map ("_" ++ kind ++ "_" ++ layout.name ++ "_" ++ ·) := by
  rw [StructLayout.shortNames, List.map_map]
  rfl

theorem fieldConstantName_ne_sizeof {kind : String}
    (h : Text.clash ("_" ++ kind ++ "_") "_sizeof_" = true) (layout : StructLayout)
    (f : FieldLayout) : fieldConstantName kind layout f ≠ "_sizeof_" ++ layout.name := by
  rw [fieldConstantName_eq]
  exact Text.append_ne_append_of_clash h _ _

theorem typeof_ne_offsetof (layout : StructLayout) (f g : FieldLayout) :
    fieldConstantName "typeof" layout f ≠ fieldConstantName "offsetof" layout g := by
  rw [fieldConstantName_eq, fieldConstantName_eq]
  exact Text.append_ne_append_of_clash (by decide) _ _

/-- The names of a layout are distinct if its members have distinct short names. -/
theorem nodup_layoutNames_iff (layout : StructLayout) :
    (layoutNames layout).Nodup ↔ layout.shortNames.Nodup := by
  have hmembers : ∀ kind, (layout.fields.map (fieldConstantName kind layout)).Nodup ↔
      layout.shortNames.Nodup := fun kind => by
    rw [fieldConstantNames_eq, Text.nodup_map_append_iff]
  constructor
  · intro h
    rw [layoutNames, List.nodup_append] at h
    exact (hmembers "offsetof").mp h.2.1
  · intro h
    rw [layoutNames, List.nodup_append, List.nodup_append]
    refine ⟨⟨(hmembers "typeof").mpr h, List.nodup_singleton _, ?_⟩,
      (hmembers "offsetof").mpr h, ?_⟩
    · intro a ha b hb
      obtain ⟨f, -, rfl⟩ := List.mem_map.mp ha
      rw [List.mem_singleton.mp hb]
      exact fieldConstantName_ne_sizeof (by decide) layout f
    · intro a ha b hb
      obtain ⟨g, -, rfl⟩ := List.mem_map.mp hb
      rcases List.mem_append.mp ha with htype | hsize
      · obtain ⟨f, -, rfl⟩ := List.mem_map.mp htype
        exact typeof_ne_offsetof layout f g
      · rw [List.mem_singleton.mp hsize]
        exact (fieldConstantName_ne_sizeof (by decide) layout g).symm

/-- A name of a layout begins in a way of its own. -/
theorem exists_start_of_mem_layoutNames {layout : StructLayout} {name : String}
    (h : name ∈ layoutNames layout) :
    ∃ start ∈ madeNameStarts, Text.clash "ELTYPE_" start = true ∧ ∃ rest, name = start ++ rest := by
  rcases List.mem_append.mp h with hfront | hoffset
  · rcases List.mem_append.mp hfront with htype | hsize
    · obtain ⟨f, -, rfl⟩ := List.mem_map.mp htype
      exact ⟨"_typeof_", by decide, by decide, _, fieldConstantName_eq "typeof" layout f⟩
    · exact ⟨"_sizeof_", by decide, by decide, _, List.mem_singleton.mp hsize⟩
  · obtain ⟨f, -, rfl⟩ := List.mem_map.mp hoffset
    exact ⟨"_offsetof_", by decide, by decide, _, fieldConstantName_eq "offsetof" layout f⟩

theorem ne_of_mem_singleNames {name start : String} (hname : name ∈ singleNames)
    (hstart : start ∈ madeNameStarts) (rest : String) : name ≠ start ++ rest := by
  rintro rfl
  have hsingle := not_startsWith_of_mem_singleNames hname hstart
  rw [Text.startsWith_append] at hsingle
  exact absurd hsingle (by decide)

/-- Names of different origin differ by how they begin, so each origin is looked at by itself. -/
theorem nodup_ownNames_iff (types : Tao.ElementTypes) (layout : StructLayout) :
    (ownNames types layout).Nodup ↔
      (types.entries.map (·.name)).Nodup ∧ layout.shortNames.Nodup := by
  have helements : (types.entries.map elementConstantName).Nodup ↔
      (types.entries.map (·.name)).Nodup := by
    rw [elementConstantNames_eq, Text.nodup_map_append_iff]
  have hsingle : ∀ a ∈ singleNames, ∀ b ∈ types.entries.map elementConstantName, a ≠ b := by
    intro a ha b hb
    obtain ⟨e, -, rfl⟩ := List.mem_map.mp hb
    exact ne_of_mem_singleNames ha (by decide) e.name
  have hlayout : ∀ a ∈ singleNames ++ types.entries.map elementConstantName,
      ∀ b ∈ layoutNames layout, a ≠ b := by
    intro a ha b hb
    obtain ⟨start, hstart, hclash, rest, rfl⟩ := exists_start_of_mem_layoutNames hb
    rcases List.mem_append.mp ha with hname | helement
    · exact ne_of_mem_singleNames hname hstart rest
    · obtain ⟨e, -, rfl⟩ := List.mem_map.mp helement
      exact Text.append_ne_append_of_clash hclash e.name rest
  rw [ownNames, List.nodup_append, List.nodup_append, helements, nodup_layoutNames_iff]
  constructor
  · rintro ⟨⟨-, htypes, -⟩, hmembers, -⟩
    exact ⟨htypes, hmembers⟩
  · rintro ⟨htypes, hmembers⟩
    exact ⟨⟨nodup_singleNames, htypes, hsingle⟩, hmembers, hlayout⟩

variable (s : Source)

/-- The names of the later constants, those of fixed name first. -/
theorem map_fst_laterConstants_perm :
    (s.laterConstants.map (·.1)).Perm
      (fixedNames ++ s.types.entries.map elementConstantName ++
        layoutNames s.platform.timespec) := by
  have hfixed := s.map_fst_fixedConstants
  rw [fixedConstants, List.map_append] at hfixed
  have helements : s.elementConstants.map (·.1) = s.types.entries.map elementConstantName := by
    rw [elementConstants, List.map_map]
    rfl
  have htypes : s.fieldTypeConstants.map (·.1) =
      s.platform.timespec.fields.map (fieldConstantName "typeof" s.platform.timespec) := by
    rw [fieldTypeConstants, List.map_map]
    rfl
  have hoffsets : s.fieldOffsetConstants.map (·.1) =
      s.platform.timespec.fields.map (fieldConstantName "offsetof" s.platform.timespec) := by
    rw [fieldOffsetConstants, List.map_map]
    rfl
  -- The camera states move forward, to the other fixed names.
  rw [← hfixed, laterConstants, layoutNames, ← htypes, ← hoffsets, ← helements, List.perm_iff_count]
  intro name
  simp only [List.map_append, List.count_append, List.map_cons, List.map_nil, sizeConstant]
  omega

/-- The file defines the chosen name of the path and what the bindings define by themselves. -/
theorem definedNames_perm :
    (Artifact.definedNames ⟨s.listing⟩).Perm
      (s.settings.library.pathConstant :: ownNames s.types s.platform.timespec) := by
  rw [Artifact.definedNames, constants_listing, lists_listing, structures_listing,
    functions_listing, List.replicate_dedup (Nat.succ_ne_zero _), List.map_cons, List.cons_append,
    List.cons_append, List.cons_append, List.perm_cons, List.perm_iff_count]
  intro name
  have hlater := (s.map_fst_laterConstants_perm).count_eq name
  simp only [List.count_append] at hlater
  simp only [ownNames, singleNames, otherNames, List.map_cons, List.map_nil, List.count_append,
    List.count_cons, List.count_nil, hlater]
  omega

theorem nodup_definedNames_iff :
    (Artifact.definedNames ⟨s.listing⟩).Nodup ↔
      s.settings.library.pathConstant ∉ ownNames s.types s.platform.timespec ∧
        (s.types.entries.map (·.name)).Nodup ∧ s.platform.timespec.shortNames.Nodup := by
  rw [s.definedNames_perm.nodup_iff, List.nodup_cons, nodup_ownNames_iff]

end Bindings.Source

namespace Generation

open Bindings Source

theorem nodup_definedNames_file_iff (p : Platform) (settings : Settings) :
    (file p settings).definedNames.Nodup ↔
      settings.library.pathConstant ∉ ownNames .own p.timespec ∧ p.timespec.shortNames.Nodup := by
  have htypes : (Tao.ElementTypes.own.entries.map (·.name)).Nodup := by
    decide
  rw [file, nodup_definedNames_iff]
  exact and_congr_right fun _ => and_iff_right htypes

/-- The file of an acceptable platform defines every name once exactly if the name that is chosen
for the path is none of the others and the members have distinct short names. -/
theorem definedOnce_iff {p : Platform} (h : p.checkWidths = .ok ()) (settings : Settings) :
    ∃ a, HasFile p settings a ∧
      (a.definedNames.Nodup ↔
        settings.library.pathConstant ∉ ownNames .own p.timespec ∧
          p.timespec.shortNames.Nodup) :=
  ⟨file p settings, hasFile_file (p.checkWidths_eq_ok_iff.mp h) settings,
    nodup_definedNames_file_iff p settings⟩

/-- A platform on which `long` has eight bytes. -/
def lp64 : Platform :=
  { Platform.ilp32 with
    cLong := Tao.NativeElement.int64.representation
    timespec := ⟨"timespec", 16,
      [⟨"timespec", "tv_sec", 0, Tao.NativeElement.int64.representation⟩,
        ⟨"timespec", "tv_nsec", 8, Tao.NativeElement.int64.representation⟩]⟩ }

/-- The host is such a platform. -/
theorem host_eq_lp64 : Platform.host = .ok lp64 := by
  decide +kernel

theorem acceptable_lp64 : lp64.Acceptable :=
  (Platform.checkWidths_eq_ok_iff lp64).mp rfl

set_option maxRecDepth 100000 in
/-- Nothing is defined twice on the host, with the default settings. -/
theorem host_definedOnce :
    Platform.host = .ok lp64 ∧ lp64.checkWidths = .ok () ∧
      ∃ a, HasFile lp64 {} a ∧ a.definedNames.Nodup := by
  have hwidths : lp64.checkWidths = .ok () := rfl
  obtain ⟨a, hfile, honce⟩ := definedOnce_iff hwidths {}
  refine ⟨host_eq_lp64, hwidths, a, hfile, honce.mpr ⟨?_, ?_⟩⟩
  · decide
  · decide

/-- The text of settings that call the path like a result of operations. -/
def okPathText : String :=
  "[library]\npath_constant = \"OK\"\n"

def okPathSettings : Settings where
  library := { pathConstant := "OK" }

/-- A platform with two members of the same short name in the layout. -/
def sameShortName : Platform :=
  { lp64 with
    timespec := ⟨"timespec", 16,
      [⟨"timespec", "tv_x", 0, Tao.NativeElement.int64.representation⟩,
        ⟨"timespec", "x", 8, Tao.NativeElement.int64.representation⟩]⟩ }

set_option maxRecDepth 100000 in
/-- Neither settings that are accepted nor members of different names keep a file from defining a
name twice. -/
theorem okPath_and_sameShortName_definedTwice :
    (Settings.parse okPathText = .ok okPathSettings ∧ lp64.checkWidths = .ok () ∧
        (lp64.timespec.fields.map (·.field)).Nodup ∧
        ∃ a, HasFile lp64 okPathSettings a ∧ ¬a.definedNames.Nodup) ∧
      Settings.parse "" = .ok {} ∧ sameShortName.checkWidths = .ok () ∧
        (sameShortName.timespec.fields.map (·.field)).Nodup ∧
        ∃ a, HasFile sameShortName {} a ∧ ¬a.definedNames.Nodup := by
  have hlp64 : lp64.checkWidths = .ok () := rfl
  have hshort : sameShortName.checkWidths = .ok () := rfl
  refine ⟨⟨rfl, hlp64, by decide, _, hasFile_file (lp64.checkWidths_eq_ok_iff.mp hlp64) _, ?_⟩,
    rfl, hshort, by decide, _, hasFile_file (sameShortName.checkWidths_eq_ok_iff.mp hshort) _, ?_⟩
  · intro h
    exact absurd ((nodup_definedNames_file_iff _ _).mp h).1 (by decide)
  · intro h
    exact absurd ((nodup_definedNames_file_iff _ _).mp h).2 (by decide)

end Generation

end AbiBindings
