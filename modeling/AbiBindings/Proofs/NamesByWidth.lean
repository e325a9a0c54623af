import AbiBindings.Proofs.Emission

/-!
# Names by width

A representation exists exactly if there is a built-in type for it, so every representation has a
name in either style. On one platform no two representations share a name, however many of the C
types are equally wide. Among the C-compatible types of the kind of a representation the first that
has its width gives the name; if none has it, the name says the width. Nothing but the widths of the
C types is looked at on the platform.
-/

namespace AbiBindings

open Julia

/-- The platforms agree on the widths of the C types that Julia has names for. -/
structure Platform.SameWidths (p q : Platform) : Prop where
  char : p.cChar.size = q.cChar.size
  short : p.cShort.size = q.cShort.size
  int : p.cInt.size = q.cInt.size
  long : p.cLong.size = q.cLong.size
  float : p.cFloat.size = q.cFloat.size
  double : p.cDouble.size = q.cDouble.size

theorem Representation.eq_of_size_cls {r t : Representation} (hsize : r.size = t.size)
    (hcls : r.cls = t.cls) : r = t := by
  cases r
  cases t
  subst hsize hcls
  rfl

theorem Representation.exists_ofSize_iff (size : Nat) (cls : NumberClass) :
    (∃ r, ofSize size cls = .ok r) ↔ size ∈ cls.widths := by
  constructor
  · rintro ⟨r, hr⟩
    by_cases hwidth : size ∈ cls.widths
    · exact hwidth
    · rw [ofSize_of_notMem hwidth] at hr
      cases hr
  · intro hwidth
    exact ⟨⟨size, cls, hwidth⟩, ofSize_self ⟨size, cls, hwidth⟩⟩

namespace Julia

/-- What the names of the built-in types of a class begin with. -/
def BuiltIn.stem : NumberClass → String
  | .signed => "Int"
  | .unsigned => "UInt"
  | .float => "Float"

/-- A built-in type is named for its class and its number of bits. -/
theorem BuiltIn.name_eq (type : BuiltIn) :
    type.name = stem type.cls ++ toString (8 * type.size) := by
  cases type <;> rfl

/-- A C-compatible type of either kind. -/
inductive Candidate where
  | integer (type : CInteger)
  | float (type : CFloat)
  deriving DecidableEq

namespace Candidate

/-- The candidates for a class, in the order of preference. -/
def ofClass : NumberClass → List Candidate
  | .float => CFloat.all.map float
  | _ => CInteger.all.map integer

def size (p : Platform) : Candidate → Nat
  | integer type => type.size p
  | float type => type.size p

def spelling (isSigned : Bool) : Candidate → TypeName
  | integer type => .cInteger type isSigned
  | float type => .cFloat type

/-- The candidate has the width of the representation, and those that are preferred to it do not. -/
def Earliest (p : Platform) (r : Representation) (c : Candidate) : Prop :=
  c.size p = r.size ∧
    ∃ before after, ofClass r.cls = before ++ c :: after ∧ ∀ d ∈ before, d.size p ≠ r.size

theorem find?_eq_some_iff (p : Platform) (r : Representation) (c : Candidate) :
    ((ofClass r.cls).find? fun d => d.size p == r.size) = some c ↔ c.Earliest p r := by
  rw [List.find?_eq_some_iff_append, beq_iff_eq, Earliest]
  simp only [Bool.not_eq_true', beq_eq_false_iff_ne]

end Candidate

namespace TypeName

theorem nativeCall?_eq_find? (p : Platform) (r : Representation) :
    nativeCall? p r =
      ((Candidate.ofClass r.cls).find? fun c => c.size p == r.size).map
        (Candidate.spelling r.isSigned) := by
  by_cases hcls : r.cls = .float
  · rw [nativeCall?_of_float hcls, hcls, Candidate.ofClass, List.find?_map, Option.map_map]
    rfl
  · have hintegers : Candidate.ofClass r.cls = CInteger.all.map .integer := by
      cases h : r.cls with
      | float => exact absurd h hcls
      | signed | unsigned => rfl
    rw [nativeCall?_of_ne_float hcls, hintegers, List.find?_map, Option.map_map]
    rfl

theorem render_injective {a b : TypeName} (h : a.render = b.render) : a = b := by
  have hread := ofText?_render a
  rw [h, ofText?_render b] at hread
  exact (Option.some.inj hread).symm

/-- No coincidence of widths gives two representations one name. -/
theorem chosen_injective {p : Platform} {style : Style} {r t : Representation}
    (h : chosen p style r = chosen p style t) : r = t := by
  by_cases hchar : chosen p style r = cInteger .char true
  · -- `Cchar` need not mean the representation, but only signed ones of its width are given it.
    cases style with
    | fixedWidth => cases hchar
    | nativeCall =>
      obtain ⟨hcls, hsize, -⟩ := (chosen_eq_char_iff p r).mp hchar
      obtain ⟨hcls', hsize', -⟩ := (chosen_eq_char_iff p t).mp (h ▸ hchar)
      exact Representation.eq_of_size_cls (hsize.symm.trans hsize') (hcls.trans hcls'.symm)
  · have hmeaning : (r.size, r.cls) = (t.size, t.cls) := by
      rw [← meaning_chosen hchar, h, meaning_chosen (h ▸ hchar)]
    rw [Prod.mk.injEq] at hmeaning
    exact Representation.eq_of_size_cls hmeaning.1 hmeaning.2

theorem chosen_eq_of_sameWidths {p q : Platform} (h : p.SameWidths q) (style : Style)
    (r : Representation) : chosen p style r = chosen q style r := by
  have hinteger : ∀ type : CInteger, type.size p = type.size q := by
    intro type
    cases type with
    | int => exact h.int
    | long => exact h.long
    | short => exact h.short
    | char => exact h.char
  have hfloat : ∀ type : CFloat, type.size p = type.size q := by
    intro type
    cases type with
    | float => exact h.float
    | double => exact h.double
  have hnative : nativeCall? p r = nativeCall? q r := by
    simp only [nativeCall?, hinteger, hfloat]
  cases style with
  | fixedWidth => rfl
  | nativeCall => simp only [chosen, hnative]

/-- The text that names the type of a representation. -/
def text (p : Platform) (style : Style) (r : Representation) : Except Violation String :=
  (resolve p style r).map render

theorem text_eq_ok (p : Platform) (style : Style) (r : Representation) :
    text p style r = .ok (chosen p style r).render := by
  rw [text, resolve_eq_chosen]
  rfl

theorem text_fixedWidth (p : Platform) (r : Representation) :
    text p .fixedWidth r = .ok (BuiltIn.stem r.cls ++ toString r.bits) := by
  obtain ⟨hsize, hcls⟩ := BuiltIn.size_cls_of_ofSize? (BuiltIn.ofSize?_representation r)
  rw [text_eq_ok, chosen, render, BuiltIn.name_eq, hsize, hcls, Representation.bits]

theorem text_injective {p : Platform} {style : Style} {r t : Representation}
    (h : text p style r = text p style t) : r = t := by
  rw [text_eq_ok, text_eq_ok, Except.ok.injEq] at h
  exact chosen_injective (render_injective h)

/-- The text is a name of a C-compatible type. -/
def IsCompatible (text : String) : Prop :=
  ∃ (c : Candidate) (isSigned : Bool), text = (c.spelling isSigned).render

theorem not_isCompatible_builtIn (type : BuiltIn) : ¬IsCompatible (builtIn type).render := by
  rintro ⟨c, isSigned, htext⟩
  have hname := render_injective htext
  cases c <;> cases hname

/-- How the preference for C-compatible names settles the name of a representation. -/
inductive NamedByWidth (p : Platform) (r : Representation) (text : String) : Prop
  | compatible (c : Candidate) (hc : c.Earliest p r)
    (htext : text = (c.spelling r.isSigned).render)
  | builtIn (hnone : ∀ c ∈ Candidate.ofClass r.cls, c.size p ≠ r.size)
    (htext : TypeName.text p .fixedWidth r = .ok text)

/-- The name is C-compatible only if a candidate has the width, and settled by the widths. -/
theorem chosen_nativeCall_byWidth (p : Platform) (r : Representation) :
    (IsCompatible (chosen p .nativeCall r).render ↔
        ∃ c ∈ Candidate.ofClass r.cls, c.size p = r.size) ∧
      NamedByWidth p r (chosen p .nativeCall r).render := by
  cases hfind : (Candidate.ofClass r.cls).find? fun c => c.size p == r.size with
  | some c =>
    have hchosen : chosen p .nativeCall r = c.spelling r.isSigned := by
      rw [chosen, nativeCall?_eq_find?, hfind, Option.map_some, Option.getD_some]
    have hwidth : c.size p = r.size := by simpa using List.find?_some hfind
    rw [hchosen]
    refine ⟨iff_of_true ⟨c, r.isSigned, rfl⟩ ⟨c, List.mem_of_find?_eq_some hfind, hwidth⟩, ?_⟩
    exact .compatible c ((Candidate.find?_eq_some_iff p r c).mp hfind) rfl
  | none =>
    have hnone : ∀ c ∈ Candidate.ofClass r.cls, c.size p ≠ r.size := by
      simpa using List.find?_eq_none.mp hfind
    have hchosen : chosen p .nativeCall r = TypeName.builtIn (.ofRepresentation r) := by
      rw [chosen, nativeCall?_eq_find?, hfind, Option.map_none, Option.getD_none]
    rw [hchosen]
    refine ⟨iff_of_false (not_isCompatible_builtIn _) ?_, ?_⟩
    · rintro ⟨c, hc, hwidth⟩
      exact hnone c hc hwidth
    · exact .builtIn hnone (text_eq_ok p .fixedWidth r)

/-- Representations are exactly the sizes and classes that have a built-in type. Each has a name in
either style, different ones have different names, and the name follows from the widths of the
C types alone. -/
theorem text_total_injective_byWidth :
    (∀ size cls, (∃ r, Representation.ofSize size cls = .ok r) ↔
        ∃ type, BuiltIn.ofSize? size cls = some type) ∧
      ∀ p : Platform,
        (∀ style r, ∃ name, text p style r = .ok name) ∧
          (∀ style r t, text p style r = text p style t → r = t) ∧
          (∀ r, text p .fixedWidth r = .ok (BuiltIn.stem r.cls ++ toString r.bits)) ∧
          (∀ r, ∃ name, text p .nativeCall r = .ok name ∧
            (IsCompatible name ↔ ∃ c ∈ Candidate.ofClass r.cls, c.size p = r.size) ∧
            NamedByWidth p r name) ∧
          ∀ q : Platform, p.SameWidths q → ∀ style r, text p style r = text q style r := by
  refine ⟨fun size cls => ?_, fun p => ⟨fun style r => ⟨_, text_eq_ok p style r⟩, ?_,
    text_fixedWidth p, fun r => ⟨_, text_eq_ok p .nativeCall r, chosen_nativeCall_byWidth p r⟩, ?_⟩⟩
  · rw [Representation.exists_ofSize_iff, ← BuiltIn.isSome_ofSize?, Option.isSome_iff_exists]
  · intro style r t
    exact text_injective
  · intro q h style r
    rw [text_eq_ok, text_eq_ok, chosen_eq_of_sameWidths h]

/-- Like `ilp32`, with unsigned integers of the same widths. -/
def unsignedInts : Platform :=
  { Platform.ilp32 with
    cChar := Tao.NativeElement.uint8.representation
    cInt := Tao.NativeElement.uint32.representation
    cLong := Tao.NativeElement.uint32.representation }

/-- Where `int` and `long` are equally wide, `int` gives the name, and no type of C has eight bytes.
The classes of the C types themselves do not matter. -/
theorem ilp32_and_unsignedInts_named :
    text .ilp32 .nativeCall Tao.NativeElement.int32.representation = .ok "Cint" ∧
      text .ilp32 .nativeCall Tao.NativeElement.int64.representation = .ok "Int64" ∧
      text .ilp32 .nativeCall Tao.NativeElement.int32.representation ≠
        text .ilp32 .nativeCall Tao.NativeElement.uint32.representation ∧
      Platform.ilp32.SameWidths unsignedInts ∧
      ∀ style r, text .ilp32 style r = text unsignedInts style r := by
  obtain ⟨-, hinjective, -, -, hsame⟩ := text_total_injective_byWidth.2 .ilp32
  have hwidths : Platform.ilp32.SameWidths unsignedInts := ⟨rfl, rfl, rfl, rfl, rfl, rfl⟩
  refine ⟨rfl, rfl, fun h => ?_, hwidths, hsame unsignedInts hwidths⟩
  exact absurd (hinjective _ _ _ h) (by decide)

end TypeName

end Julia

end AbiBindings
