import AbiBindings.Proofs.Codes
import AbiBindings.Proofs.Constants
import AbiBindings.Proofs.Numerals

/-!
# Agreement of the element type sections

The union and the methods follow the order of the entries, and so do the constants; the tuple
follows their codes. The four agree for any entries. If the codes number the entries, the tuple
rearranges the union, and the code that a type has by its last method leads back to it.
-/

namespace AbiBindings

open Julia Declaration

/-- The item at a position that is counted from one, as Julia counts. -/
def slot? (items : List String) (position : Int) : Option String :=
  if 1 ≤ position then items[position.toNat - 1]? else none

/-- The methods of a file, with the numbers that their values write. -/
def methodCodes (ds : List Declaration) : List (String × String × Option Int) :=
  (ds.filterMap method?).map fun m => (m.1, m.2.1, Numeral.read? m.2.2)

/-- The number that a function gives to a type: that of the last method, as a later method replaces
an earlier one on the same type. -/
def lastCode? (function type : String) (ds : List Declaration) : Option Int :=
  ((methodCodes ds).filter fun m => m.1 == function && m.2.1 == type).getLast?.bind (·.2.2)

/-- The constants of the element types, with the numbers that their values write. -/
def elementCodes (ds : List Declaration) : List (String × Option Int) :=
  (constantsFrom "ELTYPE_" (ownConstants ⟨ds⟩)).map fun c => (c.1, Numeral.read? c.2)

namespace Tao.ElementTypes

/-- A slot for each entry: each holds the type of the first entry with its position as the code, and
the placeholder if no entry has it. -/
def SlotsByCode (types : ElementTypes) (slots : List String) : Prop :=
  slots.length = types.size ∧
    ∀ position : Int, 1 ≤ position → position ≤ types.size →
      (∃ e, types.FirstWith position e ∧ slot? slots position = some e.juliaType) ∨
        ((∀ e ∈ types.entries, e.code ≠ position) ∧ slot? slots position = some "Nothing")

end Tao.ElementTypes

namespace Bindings.Source

variable (s : Source)

theorem length_typesByCode : s.typesByCode.length = s.types.size := by
  rw [typesByCode, List.length_map, List.length_range]

theorem slot?_typesByCode {position : Int} (hlow : 1 ≤ position) (hhigh : position ≤ s.types.size) :
    slot? s.typesByCode position = some (s.typeOfCode position.toNat) := by
  have hindex : position.toNat - 1 < s.types.size := by omega
  have hposition : position.toNat - 1 + 1 = position.toNat := by omega
  rw [slot?, if_pos hlow, typesByCode, List.getElem?_map, List.getElem?_range hindex,
    Option.map_some, hposition]

theorem typeOfCode_of_some {code : Nat} {e : Tao.ElementType} (h : s.types.byCode? code = some e) :
    s.typeOfCode code = e.juliaType := by
  simp only [typeOfCode, h]

theorem typeOfCode_of_none {code : Nat} (h : s.types.byCode? code = none) :
    s.typeOfCode code = "Nothing" := by
  simp only [typeOfCode, h]

theorem slotsByCode_typesByCode : s.types.SlotsByCode s.typesByCode := by
  refine ⟨s.length_typesByCode, fun position hlow hhigh => ?_⟩
  rw [s.slot?_typesByCode hlow hhigh]
  have hcode : ((position.toNat : Nat) : Int) = position := Int.toNat_of_nonneg (by omega)
  cases hfound : s.types.byCode? position.toNat with
  | some e =>
    refine Or.inl ⟨e, ?_, congrArg some (s.typeOfCode_of_some hfound)⟩
    rwa [Tao.ElementTypes.byCode?_eq_some_iff, hcode] at hfound
  | none =>
    refine Or.inr ⟨?_, congrArg some (s.typeOfCode_of_none hfound)⟩
    rwa [Tao.ElementTypes.byCode?_eq_none_iff, hcode] at hfound

/-- Where the codes are distinct, the slot of an entry's code holds the entry's type. -/
theorem slot?_code (h : s.types.Numbered) {e : Tao.ElementType} (he : e ∈ s.types.entries) :
    slot? s.typesByCode e.code = some e.juliaType := by
  obtain ⟨hlow, hhigh⟩ := h.bounds e he
  have hcode : ((e.code.toNat : Nat) : Int) = e.code := Int.toNat_of_nonneg (by omega)
  rw [s.slot?_typesByCode hlow hhigh]
  refine congrArg some (s.typeOfCode_of_some ?_)
  rw [hcode]
  exact Tao.ElementTypes.byCode?_of_nodup h.distinct he

theorem typesByCode_perm (h : s.types.Numbered) :
    s.typesByCode.Perm (s.types.entries.map (·.juliaType)) := by
  have hslots : s.typesByCode = s.types.identifiers.map fun code => s.typeOfCode code.toNat := by
    rw [typesByCode, Tao.ElementTypes.identifiers, List.map_map]
    rfl
  have htypes : s.types.entries.map (·.juliaType) =
      (s.types.entries.map (·.code)).map fun code => s.typeOfCode code.toNat := by
    rw [List.map_map]
    refine List.map_congr_left fun e he => ?_
    obtain ⟨hlow, hhigh⟩ := h.bounds e he
    have hslot := s.slot?_code h he
    rw [s.slot?_typesByCode hlow hhigh] at hslot
    exact (Option.some.inj hslot).symm
  rw [hslots, htypes]
  exact (h.codes_perm.map _).symm

theorem methodCodes_listing :
    methodCodes s.listing =
      s.types.entries.map fun e => (codeFunction, e.juliaType, some e.code) := by
  rw [methodCodes, methods_listing, List.map_map]
  refine List.map_congr_left fun e _ => ?_
  have hplain := (TypeName.chosen s.platform .nativeCall s.platform.cInt).notMem_render
  simp only [Function.comp_apply, Prod.mk.injEq, true_and]
  exact Numeral.read?_call_unpadded hplain.1 hplain.2 e.code

theorem elementCodes_listing :
    elementCodes s.listing = s.types.entries.map fun e => ("ELTYPE_" ++ e.name, some e.code) := by
  rw [elementCodes, ownConstants_listing, constantsFrom_elements, elementConstants, List.map_map]
  refine List.map_congr_left fun e _ => ?_
  simp only [Function.comp_apply, Prod.mk.injEq]
  exact ⟨rfl, Numeral.read?_padLeft 2 e.code⟩

/-- The last method on a type belongs to an entry with that type. -/
theorem exists_lastCode {type : String} (h : type ∈ s.types.entries.map (·.juliaType)) :
    ∃ e ∈ s.types.entries, e.juliaType = type ∧
      lastCode? codeFunction type s.listing = some e.code := by
  have hmethods : (methodCodes s.listing).filter (fun m => m.1 == codeFunction && m.2.1 == type) =
      (s.types.entries.filter fun e => e.juliaType == type).map
        fun e => (codeFunction, e.juliaType, some e.code) := by
    rw [methodCodes_listing, List.filter_map]
    simp only [Function.comp_def, beq_self_eq_true, Bool.true_and]
  obtain ⟨e, he, htype⟩ := List.mem_map.mp h
  have hfiltered : e ∈ s.types.entries.filter fun e => e.juliaType == type :=
    List.mem_filter.mpr ⟨he, beq_iff_eq.mpr htype⟩
  obtain ⟨last, hlast⟩ := Option.isSome_iff_exists.mp
    (List.getLast?_isSome.mpr (List.ne_nil_of_mem hfiltered))
  obtain ⟨hmem, hlastType⟩ := List.mem_filter.mp (List.mem_of_getLast? hlast)
  refine ⟨last, hmem, beq_iff_eq.mp hlastType, ?_⟩
  rw [lastCode?, hmethods, List.getLast?_map, hlast]
  rfl

/-- The sections agree for any entries, and if the codes number the entries, the tuple has all types
of the union and every type leads back to its slot. -/
theorem elementSections_agree :
    ∃ ds slots, s.declarations = .ok ds ∧
      ds.filterMap list? =
        [("SharedArrayElementTypes", s.types.entries.map (·.juliaType)),
          ("SHARED_ARRAY_ELTYPES", slots)] ∧
      s.types.SlotsByCode slots ∧
      (methodCodes ds = s.types.entries.map fun e => (codeFunction, e.juliaType, some e.code)) ∧
      (elementCodes ds = s.types.entries.map fun e => ("ELTYPE_" ++ e.name, some e.code)) ∧
      (s.types.Numbered →
        slots.Perm (s.types.entries.map (·.juliaType)) ∧
          (∀ position : Int, 1 ≤ position → position ≤ s.types.size →
            ∃ e ∈ s.types.entries, e.code = position ∧ slot? slots position = some e.juliaType) ∧
          ∀ type ∈ s.types.entries.map (·.juliaType),
            ∃ code, lastCode? codeFunction type ds = some code ∧ slot? slots code = some type) := by
  refine ⟨s.listing, s.typesByCode, s.declarations_eq_listing, s.lists_listing,
    s.slotsByCode_typesByCode, s.methodCodes_listing, s.elementCodes_listing, fun h => ?_⟩
  refine ⟨s.typesByCode_perm h, fun position hlow hhigh => ?_, fun type htype => ?_⟩
  · obtain ⟨e, he, rfl⟩ := h.exists_mem hlow hhigh
    exact ⟨e, he, rfl, s.slot?_code h he⟩
  · obtain ⟨e, he, rfl, hlast⟩ := s.exists_lastCode htype
    exact ⟨e.code, hlast, s.slot?_code h he⟩

/-- Entries whose codes are out of order, with one type twice. -/
def shuffledTypes : Tao.ElementTypes :=
  ⟨[⟨"A", Tao.NativeElement.int8.representation, "Int8", 2, ""⟩,
    ⟨"B", Tao.NativeElement.uint8.representation, "UInt8", 3, ""⟩,
    ⟨"C", Tao.NativeElement.int8.representation, "Int8", 1, ""⟩]⟩

/-- Both methods on the repeated type lead to a slot with the type, the last one in particular. -/
theorem shuffledTypes_agree :
    shuffledTypes.Numbered ∧
      ∃ ds slots, declarations ⟨shuffledTypes, .ilp32, {}⟩ = .ok ds ∧
        slots.Perm ["Int8", "UInt8", "Int8"] ∧
        ∃ code, lastCode? codeFunction "Int8" ds = some code ∧ slot? slots code = some "Int8" := by
  have hnumbered : shuffledTypes.Numbered := by decide
  obtain ⟨ds, slots, hds, -, -, -, -, hlossless⟩ :=
    elementSections_agree ⟨shuffledTypes, .ilp32, {}⟩
  obtain ⟨hperm, -, hlast⟩ := hlossless hnumbered
  exact ⟨hnumbered, ds, slots, hds, hperm, hlast "Int8" (by decide)⟩

end Bindings.Source

end AbiBindings
