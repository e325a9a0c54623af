import AbiBindings.Proofs.Codes
import AbiBindings.Proofs.ElementSections

/-!
# Identifiers and codes

An identifier is a position, and a code belongs to the entry itself. Looking an entry up by its
identifier and listing the entries with their identifiers are two views of one table; looking it up by
its code gives the entry with the least identifier of those that have it. The two ways of looking up
agree on all identifiers exactly if every entry has its identifier as its code. Then the list by code
is the list in order.
-/

namespace AbiBindings

namespace Tao.ElementTypes

variable (types : ElementTypes)

theorem get?_eq_some_iff_getElem? {id : Nat} {e : ElementType} :
    types.get? id = some e ↔ ∃ position, id = position + 1 ∧ types.entries[position]? = some e := by
  cases id with
  | zero => simp [get?]
  | succ position => simp [get?]

/-- An entry is found under exactly the identifier it is listed with. -/
theorem get?_eq_some_iff {id : Nat} {e : ElementType} :
    types.get? id = some e ↔ (id, e) ∈ types.enumerate := by
  rw [get?_eq_some_iff_getElem?, enumerate, List.mem_mapIdx]
  constructor
  · rintro ⟨position, rfl, he⟩
    obtain ⟨hposition, rfl⟩ := List.getElem?_eq_some_iff.mp he
    exact ⟨position, hposition, rfl⟩
  · rintro ⟨position, hposition, heq⟩
    cases heq
    exact ⟨position, rfl, List.getElem?_eq_getElem hposition⟩

theorem get?_eq_none_iff {id : Nat} : types.get? id = none ↔ id = 0 ∨ types.size < id := by
  cases id with
  | zero => simp [get?]
  | succ position =>
    rw [get?, List.getElem?_eq_none_iff, size]
    omega

theorem mem_entries_iff {e : ElementType} : e ∈ types.entries ↔ ∃ id, types.get? id = some e := by
  constructor
  · intro he
    obtain ⟨position, hposition⟩ := List.mem_iff_getElem?.mp he
    exact ⟨position + 1, hposition⟩
  · rintro ⟨id, he⟩
    obtain ⟨position, -, hposition⟩ := types.get?_eq_some_iff_getElem?.mp he
    exact List.mem_of_getElem? hposition

/-- The entry has the code, and its identifier is the least of those whose entries do. -/
def LeastWith (code : Int) (e : ElementType) : Prop :=
  e.code = code ∧ ∃ id, types.get? id = some e ∧
    ∀ other d, types.get? other = some d → d.code = code → id ≤ other

theorem byCode?_eq_some_iff_leastWith {code : Int} {e : ElementType} :
    types.byCode? code = some e ↔ types.LeastWith code e := by
  rw [byCode?, List.find?_eq_some_iff_getElem, LeastWith, beq_iff_eq]
  refine and_congr_right fun hcode => ?_
  constructor
  · rintro ⟨position, hposition, rfl, hbefore⟩
    refine ⟨position + 1, List.getElem?_eq_getElem hposition, fun other d hd hdcode => ?_⟩
    obtain ⟨place, rfl, hplace⟩ := types.get?_eq_some_iff_getElem?.mp hd
    obtain ⟨hlt, rfl⟩ := List.getElem?_eq_some_iff.mp hplace
    -- a lesser position would be one before the first hit
    by_contra hless
    have hfirst := hbefore place (by omega)
    simp [hdcode] at hfirst
  · rintro ⟨id, hid, hleast⟩
    obtain ⟨position, rfl, he⟩ := types.get?_eq_some_iff_getElem?.mp hid
    obtain ⟨hposition, rfl⟩ := List.getElem?_eq_some_iff.mp he
    refine ⟨position, hposition, rfl, fun place hplace => ?_⟩
    by_contra hfound
    have hcode : types.entries[place].code = code := by simpa using hfound
    have hle := hleast (place + 1) _ (List.getElem?_eq_getElem _) hcode
    omega

theorem byCode?_eq_none_iff_get? {code : Int} :
    types.byCode? code = none ↔ ∀ id e, types.get? id = some e → e.code ≠ code := by
  rw [byCode?_eq_none_iff]
  constructor
  · intro h id e he
    exact h e (types.mem_entries_iff.mpr ⟨id, he⟩)
  · intro h e he
    obtain ⟨id, hid⟩ := types.mem_entries_iff.mp he
    exact h id e hid

/-- Every entry has its identifier as its code. -/
def CodedByIdentifier : Prop :=
  ∀ id e, types.get? id = some e → e.code = id

theorem codedByIdentifier_iff :
    types.CodedByIdentifier ↔ ∀ entry ∈ types.enumerate, entry.2.code = entry.1 := by
  constructor
  · rintro h ⟨id, e⟩ hentry
    exact h id e (types.get?_eq_some_iff.mpr hentry)
  · intro h id e he
    exact h (id, e) (types.get?_eq_some_iff.mp he)

instance : Decidable types.CodedByIdentifier :=
  decidable_of_iff _ types.codedByIdentifier_iff.symm

/-- Looking up by code and by identifier agree on all identifiers. -/
def LookupsAgree : Prop :=
  ∀ id : Nat, 1 ≤ id → id ≤ types.size → types.byCode? id = types.get? id

theorem exists_get? {id : Nat} (hlow : 1 ≤ id) (hhigh : id ≤ types.size) :
    ∃ e, types.get? id = some e := by
  have hfound : types.get? id ≠ none := by
    rw [ne_eq, get?_eq_none_iff]
    omega
  exact Option.ne_none_iff_exists'.mp hfound

theorem lookupsAgree_iff : types.LookupsAgree ↔ types.CodedByIdentifier := by
  constructor
  · intro hagree id e he
    have hbounds : ¬(id = 0 ∨ types.size < id) := by
      rw [← get?_eq_none_iff, he]
      exact Option.some_ne_none e
    have hfound := hagree id (by omega) (by omega)
    rw [he, byCode?_eq_some_iff_leastWith] at hfound
    exact hfound.1
  · intro hcoded id hlow hhigh
    obtain ⟨e, he⟩ := types.exists_get? hlow hhigh
    rw [he, byCode?_eq_some_iff_leastWith]
    refine ⟨hcoded id e he, id, he, fun other d hd hdcode => ?_⟩
    have hother := hcoded other d hd
    omega

end Tao.ElementTypes

namespace Bindings.Source

open Julia Declaration

variable (s : Source)

/-- Where the codes are the identifiers, the list by code is in the order of the entries. -/
theorem typesByCode_eq (h : s.types.CodedByIdentifier) :
    s.typesByCode = s.types.entries.map (·.juliaType) := by
  refine List.ext_getElem (by simp [typesByCode, Tao.ElementTypes.size]) ?_
  intro position hleft hright
  rw [List.length_map] at hright
  have hagree := s.types.lookupsAgree_iff.mpr h (position + 1) (by omega) hright
  have hfound : s.types.byCode? (position + 1 : Nat) = some s.types.entries[position] :=
    hagree.trans (List.getElem?_eq_getElem hright)
  simp only [typesByCode, List.getElem_map, List.getElem_range, s.typeOfCode_of_some hfound]

end Bindings.Source

namespace Tao.ElementTypes

open Julia Bindings

/-- The ways to an entry fit together, and so do the two lists of types. -/
structure Consistent (types : ElementTypes) : Prop where
  listed : ∀ id e, types.get? id = some e ↔ (id, e) ∈ types.enumerate
  absent : ∀ id, types.get? id = none ↔ id = 0 ∨ types.size < id
  least : ∀ code e, types.byCode? code = some e ↔ types.LeastWith code e
  unused : ∀ code, types.byCode? code = none ↔ ∀ id e, types.get? id = some e → e.code ≠ code
  agree : types.LookupsAgree ↔ types.CodedByIdentifier
  lists : types.CodedByIdentifier → ∀ (platform : Platform) (settings : Settings),
    ∃ ds items, Source.declarations ⟨types, platform, settings⟩ = .ok ds ∧
      ds.filterMap Declaration.list? =
        [("SharedArrayElementTypes", items), ("SHARED_ARRAY_ELTYPES", items)]

/-- Identifiers and codes are consistent for any entries, with repeated codes and codes that are no
identifiers too. -/
theorem identifiers_codes_consistent (types : ElementTypes) : types.Consistent where
  listed _ _ := types.get?_eq_some_iff
  absent _ := types.get?_eq_none_iff
  least _ _ := types.byCode?_eq_some_iff_leastWith
  unused _ := types.byCode?_eq_none_iff_get?
  agree := types.lookupsAgree_iff
  lists h platform settings := by
    have hlists := Source.lists_listing ⟨types, platform, settings⟩
    rw [Source.typesByCode_eq ⟨types, platform, settings⟩ h] at hlists
    exact ⟨_, _, Source.declarations_eq_listing _, hlists⟩

/-- Two entries with one code, and one with a code that is no identifier. -/
def repeatedTypes : ElementTypes :=
  ⟨[⟨"A", NativeElement.int8.representation, "Int8", 2, ""⟩,
    ⟨"B", NativeElement.uint8.representation, "UInt8", 2, ""⟩,
    ⟨"C", NativeElement.int16.representation, "Int16", -1, ""⟩]⟩

/-- In the library's own table every code is the identifier. Of entries with one code the first is
found, so that looking up by the code of the second does not lead to it. -/
theorem own_and_repeatedTypes_consistent :
    own.CodedByIdentifier ∧ own.LookupsAgree ∧
      (∃ ds items, Source.declarations ⟨own, .ilp32, {}⟩ = .ok ds ∧
        ds.filterMap Declaration.list? =
          [("SharedArrayElementTypes", items), ("SHARED_ARRAY_ELTYPES", items)]) ∧
      ¬repeatedTypes.LookupsAgree ∧
      (∃ e, e.name = "A" ∧ repeatedTypes.LeastWith 2 e) ∧
      ∀ id e, repeatedTypes.get? id = some e → e.code ≠ 1 := by
  have hcoded : own.CodedByIdentifier := by decide
  have hown := identifiers_codes_consistent own
  have hrepeated := identifiers_codes_consistent repeatedTypes
  refine ⟨hcoded, hown.agree.mpr hcoded, hown.lists hcoded .ilp32 {}, ?_, ?_, ?_⟩
  · rw [hrepeated.agree]
    decide
  · exact ⟨_, rfl, (hrepeated.least 2 _).mp rfl⟩
  · exact (hrepeated.unused 1).mp rfl

end Tao.ElementTypes

end AbiBindings
