import AbiBindings.Proofs.Constants
import AbiBindings.Proofs.Numerals

/-!
# Exactness of the types

The types in the file of an acceptable platform are read as Julia reads them, and compared with the
representations that were measured. The type of `Status`, the shared memory identifier and the
types of members are always exact. The type of enumerations is exact unless plain `char` stands for
a signed enumeration and is unsigned. The tags have the width of their enumeration if it has at
least four bytes; a narrower one has no room for them, as they keep all their digits.
-/

namespace AbiBindings

open Julia Declaration

namespace Julia.Literal

/-- The widths in bytes of the unsigned types that hexadecimal literals have. -/
def hexWidths : List Nat := [1, 2, 4, 8, 16]

/-- The width in bytes of the type of a hexadecimal literal: the least that has room for its digits,
two to a byte. -/
def hexWidth? (text : String) : Option Nat :=
  (Numeral.hexadecimal? text.toList).bind fun digits =>
    hexWidths.find? fun width => decide (digits.length ≤ 2 * width)

theorem hexWidth?_bits (digits value : Nat) :
    hexWidth? (render digits (.bits value)) =
      hexWidths.find? fun width =>
        decide (max digits (Nat.toDigits 16 value).length ≤ 2 * width) := by
  have htext :
      (render digits (.bits value)).toList = '0' :: 'x' :: Text.hexDigits digits value := by
    simp [render]
  rw [hexWidth?, htext, Numeral.hexadecimal?_hexDigits, Option.bind_some, Text.hexDigits,
    List.length_leftpad]

/-- A value of eight digits, filled up to a width, has the type of that width or of four bytes,
whichever is wider. -/
theorem hexWidth?_of_eight_digits {value : Nat} (hlow : 0x10000000 ≤ value)
    (hhigh : value < 0x100000000) {width : Nat} (hwidth : width ∈ hexWidths) :
    hexWidth? (render (2 * width) (.bits value)) = some (max width 4) := by
  have hle := (Nat.length_toDigits_le_iff (n := value) (k := 8) (by decide : 1 < 16)
    (by decide)).mpr hhigh
  have hnot := mt (Nat.length_toDigits_le_iff (n := value) (k := 7) (by decide : 1 < 16)
    (by decide)).mp (Nat.not_lt.mpr hlow)
  have hlength : (Nat.toDigits 16 value).length = 8 := by omega
  have hall : ∀ width ∈ hexWidths,
      (hexWidths.find? fun w => decide (max (2 * width) 8 ≤ 2 * w)) = some (max width 4) := by
    decide
  rw [hexWidth?_bits, hlength, hall width hwidth]

end Julia.Literal

theorem Representation.size_mem_hexWidths (r : Representation) : r.size ∈ Literal.hexWidths := by
  have hall : ∀ cls : NumberClass, cls.widths ⊆ Literal.hexWidths := by
    intro cls
    cases cls <;> decide
  exact hall r.cls r.known

theorem Tao.exists_bits_of_mem_objectTypeTags {c : SymbolicConstant} (h : c ∈ objectTypeTags) :
    ∃ bits, c.value = .bits bits ∧ 0x10000000 ≤ bits ∧ bits < 0x100000000 := by
  simp only [objectTypeTags, ObjectType.all, List.map_cons, List.map_nil, List.cons_append,
    List.nil_append, List.mem_cons, List.not_mem_nil, or_false] at h
  rcases h with rfl | rfl | rfl | rfl | rfl | rfl | rfl <;>
    exact ⟨_, rfl, by decide, by decide⟩

namespace Bindings.Source

variable (s : Source)

/-- A text names a type with the width and class of a representation. -/
def Means (text : String) (r : Representation) : Prop :=
  TypeName.textMeaning? s.platform text = some (r.size, r.cls)

def StatusExact (a : Artifact) : Prop :=
  ∃ type, a.declarations.filterMap structure? = [("Status", "val", type)] ∧
    s.Means type s.platform.status

def ShmIdExact (a : Artifact) : Prop :=
  ∃ type, valuesOf "ShmId" (ownConstants a) = [type] ∧ s.Means type s.platform.shmId

def CenumExact (a : Artifact) : Prop :=
  ∃ type, valuesOf "Cenum" (ownConstants a) = [type] ∧ s.Means type s.platform.cEnum

/-- The constants of the types of members are, in order, those of the layout, and each is exact. -/
def FieldTypesExact (a : Artifact) : Prop :=
  ((constantsFrom "_typeof_" (ownConstants a)).map fun c =>
      (c.1, TypeName.textMeaning? s.platform c.2)) =
    s.platform.timespec.fields.map fun f =>
      (fieldConstantName "typeof" s.platform.timespec f, some (f.repr.size, f.repr.cls))

def TagsExact (a : Artifact) : Prop :=
  ∀ c ∈ Tao.objectTypeTags, ∃ literal, valuesOf c.name (ownConstants a) = [literal] ∧
    Literal.hexWidth? literal = some s.platform.objectType.size

theorem means_named_iff (style : Style) (r : Representation) :
    s.Means (s.named style r) r ↔
      TypeName.meaning s.platform (.chosen s.platform style r) = (r.size, r.cls) := by
  rw [Means, named, TypeName.textMeaning?_render, Option.some.injEq]

theorem means_fixedWidth (r : Representation) : s.Means (s.named .fixedWidth r) r :=
  (s.means_named_iff .fixedWidth r).mpr (TypeName.meaning_builtIn s.platform r)

theorem means_nativeCall_iff (r : Representation) :
    s.Means (s.named .nativeCall r) r ↔
      (TypeName.OnlyChar s.platform r → s.platform.cChar.cls = .signed) :=
  (s.means_named_iff .nativeCall r).trans (TypeName.meaning_chosen_nativeCall_iff s.platform r)

theorem statusExact_listing (h : s.platform.Acceptable) : s.StatusExact ⟨s.listing⟩ := by
  refine ⟨_, s.structures_listing, (s.means_nativeCall_iff _).mpr fun hchar => ?_⟩
  exact absurd hchar (TypeName.not_onlyChar_of_size_eq (h .status).symm)

theorem valuesOf_shmId :
    valuesOf "ShmId" s.laterConstants = [s.named .fixedWidth s.platform.shmId] :=
  s.valuesOf_fixed (by simp [fixedConstants, frontConstants])

theorem valuesOf_cEnum :
    valuesOf "Cenum" s.laterConstants = [s.named .nativeCall s.platform.cEnum] :=
  s.valuesOf_fixed (by simp [fixedConstants, frontConstants])

theorem valuesOf_tag {c : Tao.SymbolicConstant} (h : c ∈ Tao.objectTypeTags) :
    valuesOf c.name s.laterConstants = [c.value.render (2 * s.platform.objectType.size)] := by
  refine s.valuesOf_fixed ?_
  simp only [fixedConstants, frontConstants, List.mem_append]
  exact Or.inl (Or.inl (Or.inr (List.mem_map_of_mem h)))

theorem shmIdExact_listing : s.ShmIdExact ⟨s.listing⟩ := by
  rw [ShmIdExact, ownConstants_listing, valuesOf_shmId]
  exact ⟨_, rfl, s.means_fixedWidth s.platform.shmId⟩

theorem cenumExact_listing_iff :
    s.CenumExact ⟨s.listing⟩ ↔
      (TypeName.OnlyChar s.platform s.platform.cEnum → s.platform.cChar.cls = .signed) := by
  rw [CenumExact, ownConstants_listing, valuesOf_cEnum, ← means_nativeCall_iff]
  constructor
  · rintro ⟨type, htype, hmeans⟩
    rw [List.singleton_inj] at htype
    rwa [htype]
  · intro hmeans
    exact ⟨_, rfl, hmeans⟩

theorem fieldTypesExact_listing : s.FieldTypesExact ⟨s.listing⟩ := by
  rw [FieldTypesExact, ownConstants_listing, constantsFrom_fieldTypes, fieldTypeConstants,
    List.map_map]
  refine List.map_congr_left fun f _ => ?_
  simp only [Function.comp_apply, Prod.mk.injEq, true_and]
  exact s.means_fixedWidth f.repr

/-- A tag has eight digits, so a narrower enumeration has no room for it. -/
theorem hexWidth?_tag {c : Tao.SymbolicConstant} (h : c ∈ Tao.objectTypeTags) :
    Literal.hexWidth? (c.value.render (2 * s.platform.objectType.size)) =
      some (max s.platform.objectType.size 4) := by
  obtain ⟨bits, hvalue, hlow, hhigh⟩ := Tao.exists_bits_of_mem_objectTypeTags h
  rw [hvalue]
  exact Literal.hexWidth?_of_eight_digits hlow hhigh s.platform.objectType.size_mem_hexWidths

theorem tag_exact_iff {c : Tao.SymbolicConstant} (h : c ∈ Tao.objectTypeTags) :
    (∃ literal, valuesOf c.name s.laterConstants = [literal] ∧
        Literal.hexWidth? literal = some s.platform.objectType.size) ↔
      4 ≤ s.platform.objectType.size := by
  rw [s.valuesOf_tag h]
  constructor
  · rintro ⟨literal, hliteral, hwidth⟩
    rw [List.singleton_inj] at hliteral
    rw [← hliteral, s.hexWidth?_tag h, Option.some.injEq] at hwidth
    omega
  · intro hsize
    refine ⟨_, rfl, ?_⟩
    rw [s.hexWidth?_tag h, Nat.max_eq_left hsize]

theorem tagsExact_listing_iff :
    s.TagsExact ⟨s.listing⟩ ↔ 4 ≤ s.platform.objectType.size := by
  rw [TagsExact, ownConstants_listing]
  constructor
  · intro h
    obtain ⟨c, hc⟩ : ∃ c, c ∈ Tao.objectTypeTags := ⟨_, List.mem_append_left _ List.mem_cons_self⟩
    exact (s.tag_exact_iff hc).mp (h c hc)
  · exact fun hsize c hc => (s.tag_exact_iff hc).mpr hsize

/-- The exact condition under which each kind of type is exact in the file of an acceptable platform.
Three kinds always are. -/
theorem types_exact_iff (h : s.platform.checkWidths = .ok ()) :
    ∃ a, s.artifact = .ok a ∧ s.StatusExact a ∧ s.ShmIdExact a ∧ s.FieldTypesExact a ∧
      (s.CenumExact a ↔
        (TypeName.OnlyChar s.platform s.platform.cEnum → s.platform.cChar.cls = .signed)) ∧
      (s.TagsExact a ↔ 4 ≤ s.platform.objectType.size) := by
  have hacceptable := (s.platform.checkWidths_eq_ok_iff).mp h
  exact ⟨⟨s.listing⟩, s.artifact_eq_ok hacceptable, s.statusExact_listing hacceptable,
    s.shmIdExact_listing, s.fieldTypesExact_listing, s.cenumExact_listing_iff,
    s.tagsExact_listing_iff⟩

/-- A platform with a plain `char` that is unsigned, and with short enumerations. -/
def shortEnumerations : Platform :=
  { Platform.ilp32 with
    cChar := Tao.NativeElement.uint8.representation
    cEnum := Tao.NativeElement.int8.representation }

/-- There a signed enumeration has an unsigned type, while the tags are exact. -/
theorem shortEnumerations_not_cenumExact :
    shortEnumerations.checkWidths = .ok () ∧
      ∃ a, artifact ⟨.own, shortEnumerations, {}⟩ = .ok a ∧
        ¬CenumExact ⟨.own, shortEnumerations, {}⟩ a ∧
        TagsExact ⟨.own, shortEnumerations, {}⟩ a := by
  have hwidths : shortEnumerations.checkWidths = .ok () := rfl
  obtain ⟨a, ha, -, -, -, hcenum, htags⟩ :=
    types_exact_iff ⟨.own, shortEnumerations, {}⟩ hwidths
  have hchar : TypeName.OnlyChar shortEnumerations shortEnumerations.cEnum :=
    ⟨rfl, rfl, by decide, by decide, by decide⟩
  refine ⟨hwidths, a, ha, fun hexact => ?_, htags.mpr (by decide)⟩
  exact absurd (hcenum.mp hexact hchar) (by decide)

end Bindings.Source

end AbiBindings
