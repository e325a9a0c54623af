import AbiBindings.Tao.ElementTypes
import Mathlib.Data.List.Perm.Basic

/-!
# Codes of element types

An entry is found by its code, and of several entries with one code the first is found. If the codes
are distinct and none exceeds the number of entries, they are a rearrangement of the identifiers.
-/

namespace AbiBindings.Tao.ElementTypes

variable (types : ElementTypes)

/-- The entry has the code, and no entry before it does. -/
def FirstWith (code : Int) (e : ElementType) : Prop :=
  e.code = code ∧
    ∃ before after, types.entries = before ++ e :: after ∧ ∀ d ∈ before, d.code ≠ code

theorem byCode?_eq_some_iff (code : Int) (e : ElementType) :
    types.byCode? code = some e ↔ types.FirstWith code e := by
  rw [byCode?, List.find?_eq_some_iff_append, FirstWith, beq_iff_eq]
  simp only [Bool.not_eq_true', beq_eq_false_iff_ne]

theorem byCode?_eq_none_iff (code : Int) :
    types.byCode? code = none ↔ ∀ e ∈ types.entries, e.code ≠ code := by
  simp only [byCode?, List.find?_eq_none, beq_iff_eq, ne_eq]

/-- The codes are distinct and between one and the number of entries. -/
structure Numbered : Prop where
  distinct : (types.entries.map (·.code)).Nodup
  bounds : ∀ e ∈ types.entries, 1 ≤ e.code ∧ e.code ≤ types.size

instance : Decidable types.Numbered :=
  decidable_of_iff
    ((types.entries.map (·.code)).Nodup ∧
      ∀ e ∈ types.entries, 1 ≤ e.code ∧ e.code ≤ types.size)
    ⟨fun h => ⟨h.1, h.2⟩, fun h => ⟨h.distinct, h.bounds⟩⟩

/-- The numbers from one to the number of entries. -/
def identifiers : List Int :=
  (List.range types.size).map fun position => ((position + 1 : Nat) : Int)

theorem mem_identifiers_iff (code : Int) :
    code ∈ types.identifiers ↔ 1 ≤ code ∧ code ≤ types.size := by
  rw [identifiers, List.mem_map]
  constructor
  · rintro ⟨position, hposition, rfl⟩
    rw [List.mem_range] at hposition
    omega
  · rintro ⟨hlow, hhigh⟩
    exact ⟨(code - 1).toNat, List.mem_range.mpr (by omega), by omega⟩

theorem length_identifiers : types.identifiers.length = types.size := by
  rw [identifiers, List.length_map, List.length_range]

variable {types}

/-- As many distinct codes as there are identifiers to choose from use each of them once. -/
theorem Numbered.codes_perm (h : types.Numbered) :
    (types.entries.map (·.code)).Perm types.identifiers := by
  have hsubset : types.entries.map (·.code) ⊆ types.identifiers := by
    intro code hcode
    obtain ⟨e, he, rfl⟩ := List.mem_map.mp hcode
    exact (types.mem_identifiers_iff e.code).mpr (h.bounds e he)
  have hlength : types.identifiers.length ≤ (types.entries.map (·.code)).length := by
    rw [length_identifiers, List.length_map]
    exact Nat.le_refl _
  exact (List.subperm_of_subset h.distinct hsubset).perm_of_length_le hlength

theorem byCode?_of_nodup (h : (types.entries.map (·.code)).Nodup) {e : ElementType}
    (he : e ∈ types.entries) : types.byCode? e.code = some e := by
  obtain ⟨before, after, hentries⟩ := List.append_of_mem he
  refine (types.byCode?_eq_some_iff e.code e).mpr ⟨rfl, before, after, hentries, ?_⟩
  rw [hentries, List.map_append, List.map_cons, List.nodup_append] at h
  intro d hd
  exact h.2.2 d.code (List.mem_map_of_mem hd) e.code List.mem_cons_self

/-- Every identifier is the code of an entry. -/
theorem Numbered.exists_mem (h : types.Numbered) {code : Int} (hlow : 1 ≤ code)
    (hhigh : code ≤ types.size) : ∃ e ∈ types.entries, e.code = code := by
  have hmem := h.codes_perm.mem_iff.mpr ((types.mem_identifiers_iff code).mpr ⟨hlow, hhigh⟩)
  exact List.mem_map.mp hmem

end AbiBindings.Tao.ElementTypes
