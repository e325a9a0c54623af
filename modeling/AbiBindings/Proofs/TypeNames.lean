import AbiBindings.Julia.TypeName

/-!
# Every representation has a name

A representation has a width that a built-in type of its class exists for, so naming its type
cannot fail. What a name means is read off the name alone: the built-in types have the width that
their name says, and the others have the width that the C compiler gives them. `Cchar` is the plain
`char` of C, which need not be signed. The name that is chosen means the representation again,
unless that is `Cchar` and plain `char` has no sign.
-/

namespace AbiBindings.Julia

namespace BuiltIn

def all : List BuiltIn :=
  [int8, int16, int32, int64, int128, uint8, uint16, uint32, uint64, uint128, float16, float32,
    float64]

/-- The width in bytes that the name of the type says. -/
def size : BuiltIn → Nat
  | int8 | uint8 => 1
  | int16 | uint16 | float16 => 2
  | int32 | uint32 | float32 => 4
  | int64 | uint64 | float64 => 8
  | int128 | uint128 => 16

def cls : BuiltIn → NumberClass
  | int8 | int16 | int32 | int64 | int128 => .signed
  | uint8 | uint16 | uint32 | uint64 | uint128 => .unsigned
  | float16 | float32 | float64 => .float

theorem size_cls_of_ofSize? {size : Nat} {cls : NumberClass} {type : BuiltIn}
    (h : ofSize? size cls = some type) : type.size = size ∧ type.cls = cls := by
  unfold ofSize? at h
  split at h <;> cases h <;> exact ⟨rfl, rfl⟩

/-- The built-in type of a representation. -/
def ofRepresentation (r : Representation) : BuiltIn :=
  (ofSize? r.size r.cls).get ((isSome_ofSize? r.size r.cls).mpr r.known)

theorem ofSize?_representation (r : Representation) :
    ofSize? r.size r.cls = some (ofRepresentation r) :=
  (Option.some_get _).symm

end BuiltIn

namespace TypeName

/-- The name of the type of a representation, which there always is. -/
def chosen (p : Platform) : Style → Representation → TypeName
  | .fixedWidth, r => builtIn (.ofRepresentation r)
  | .nativeCall, r => (nativeCall? p r).getD (builtIn (.ofRepresentation r))

theorem fixedWidth_eq (r : Representation) :
    fixedWidth r = .ok (builtIn (.ofRepresentation r)) := by
  simp only [fixedWidth, BuiltIn.ofSize?_representation]

theorem resolve_eq_chosen (p : Platform) (style : Style) (r : Representation) :
    resolve p style r = .ok (chosen p style r) := by
  cases style with
  | fixedWidth => exact fixedWidth_eq r
  | nativeCall =>
    simp only [resolve, chosen]
    cases nativeCall? p r with
    | some name => rfl
    | none => exact fixedWidth_eq r

/-- Width and class of the type that a name means on a platform. -/
def meaning (p : Platform) : TypeName → Nat × NumberClass
  | builtIn type => (type.size, type.cls)
  | cInteger .char true => (p.cChar.size, p.cChar.cls)
  | cInteger type isSigned => (type.size p, .ofSigned isSigned)
  | cFloat type => (type.size p, .float)

theorem meaning_builtIn (p : Platform) (r : Representation) :
    meaning p (builtIn (.ofRepresentation r)) = (r.size, r.cls) := by
  obtain ⟨hsize, hcls⟩ := BuiltIn.size_cls_of_ofSize? (BuiltIn.ofSize?_representation r)
  simp only [meaning, hsize, hcls]

theorem meaning_cInteger {p : Platform} {type : CInteger} {isSigned : Bool}
    (h : cInteger type isSigned ≠ cInteger .char true) :
    meaning p (cInteger type isSigned) = (type.size p, .ofSigned isSigned) := by
  cases type with
  | char =>
    cases isSigned with
    | false => rfl
    | true => exact absurd rfl h
  | _ => rfl

theorem nativeCall?_of_float {p : Platform} {r : Representation} (h : r.cls = .float) :
    nativeCall? p r = (CFloat.all.find? fun t => t.size p == r.size).map cFloat := by
  simp only [nativeCall?, h]

theorem nativeCall?_of_ne_float {p : Platform} {r : Representation} (h : r.cls ≠ .float) :
    nativeCall? p r =
      (CInteger.all.find? fun t => t.size p == r.size).map fun t => cInteger t r.isSigned := by
  cases hcls : r.cls with
  | float => exact absurd hcls h
  | signed | unsigned => simp only [nativeCall?, hcls]

theorem ofSigned_isSigned {r : Representation} (h : r.cls ≠ .float) :
    NumberClass.ofSigned r.isSigned = r.cls := by
  cases hcls : r.cls with
  | float => exact absurd hcls h
  | signed | unsigned => simp [NumberClass.ofSigned, Representation.isSigned, hcls]

/-- A C-compatible name means the representation that it was found for, `Cchar` aside. -/
theorem meaning_of_nativeCall? {p : Platform} {r : Representation} {name : TypeName}
    (h : nativeCall? p r = some name) (hchar : name ≠ cInteger .char true) :
    meaning p name = (r.size, r.cls) := by
  by_cases hcls : r.cls = .float
  · rw [nativeCall?_of_float hcls] at h
    obtain ⟨type, hfind, rfl⟩ := Option.map_eq_some_iff.mp h
    have hsize : type.size p = r.size := by simpa using List.find?_some hfind
    simp only [meaning, hsize, hcls]
  · rw [nativeCall?_of_ne_float hcls] at h
    obtain ⟨type, hfind, rfl⟩ := Option.map_eq_some_iff.mp h
    have hsize : type.size p = r.size := by simpa using List.find?_some hfind
    rw [meaning_cInteger hchar, hsize, ofSigned_isSigned hcls]

theorem meaning_chosen {p : Platform} {style : Style} {r : Representation}
    (h : chosen p style r ≠ cInteger .char true) :
    meaning p (chosen p style r) = (r.size, r.cls) := by
  cases style with
  | fixedWidth => exact meaning_builtIn p r
  | nativeCall =>
    simp only [chosen] at h ⊢
    cases hname : nativeCall? p r with
    | none => exact meaning_builtIn p r
    | some name =>
      rw [hname] at h
      exact meaning_of_nativeCall? hname h

/-- Of the integer types of C only `char` has the width of the representation, which is signed. -/
def OnlyChar (p : Platform) (r : Representation) : Prop :=
  r.cls = .signed ∧ p.cChar.size = r.size ∧ p.cInt.size ≠ r.size ∧ p.cLong.size ≠ r.size ∧
    p.cShort.size ≠ r.size

theorem nativeCall?_eq_char_iff (p : Platform) (r : Representation) :
    nativeCall? p r = some (cInteger .char true) ↔ OnlyChar p r := by
  by_cases hcls : r.cls = .float
  · simp [nativeCall?_of_float hcls, OnlyChar, hcls]
  · rw [nativeCall?_of_ne_float hcls]
    have hsigned : r.isSigned = true ↔ r.cls = .signed := by simp [Representation.isSigned]
    -- The candidates are gone through in their order of preference.
    by_cases hint : p.cInt.size = r.size
    · simp [CInteger.all, CInteger.size, OnlyChar, hint]
    by_cases hlong : p.cLong.size = r.size
    · simp [CInteger.all, CInteger.size, OnlyChar, hint, hlong]
    by_cases hshort : p.cShort.size = r.size
    · simp [CInteger.all, CInteger.size, OnlyChar, hint, hlong, hshort]
    by_cases hchar : p.cChar.size = r.size
    · simp [CInteger.all, CInteger.size, OnlyChar, hint, hlong, hshort, hchar, hsigned]
    · simp [CInteger.all, CInteger.size, OnlyChar, hint, hlong, hshort, hchar]

theorem chosen_eq_char_iff (p : Platform) (r : Representation) :
    chosen p .nativeCall r = cInteger .char true ↔ OnlyChar p r := by
  rw [← nativeCall?_eq_char_iff]
  cases h : nativeCall? p r <;> simp [chosen, h]

/-- A name that was chosen means the representation, unless plain `char` was chosen for a signed one
and is not signed itself. -/
theorem meaning_chosen_nativeCall_iff (p : Platform) (r : Representation) :
    meaning p (chosen p .nativeCall r) = (r.size, r.cls) ↔
      (OnlyChar p r → p.cChar.cls = .signed) := by
  rw [← chosen_eq_char_iff]
  by_cases h : chosen p .nativeCall r = cInteger .char true
  · obtain ⟨hcls, hsize, -⟩ := (chosen_eq_char_iff p r).mp h
    simp only [h, meaning, Prod.mk.injEq, hcls, hsize, true_and, forall_const]
  · simp only [meaning_chosen h, h, false_implies]

/-- What is as wide as an `int` never needs the name `Cchar`. -/
theorem not_onlyChar_of_size_eq {p : Platform} {r : Representation} (h : p.cInt.size = r.size) :
    ¬OnlyChar p r := by
  rintro ⟨-, -, hint, -⟩
  exact hint h

def all : List TypeName :=
  BuiltIn.all.map builtIn ++ (CInteger.all.map fun type => cInteger type true) ++
    (CInteger.all.map fun type => cInteger type false) ++ CFloat.all.map cFloat

/-- The name that a text spells. -/
def ofText? (text : String) : Option TypeName :=
  all.find? fun name => name.render == text

theorem ofText?_render (name : TypeName) : ofText? name.render = some name := by
  cases name with
  | builtIn type => cases type <;> rfl
  | cInteger type isSigned => cases type <;> cases isSigned <;> rfl
  | cFloat type => cases type <;> rfl

/-- Width and class of the type that a text names on a platform. -/
def textMeaning? (p : Platform) (text : String) : Option (Nat × NumberClass) :=
  (ofText? text).map (meaning p)

theorem textMeaning?_render (p : Platform) (name : TypeName) :
    textMeaning? p name.render = some (meaning p name) := by
  rw [textMeaning?, ofText?_render, Option.map_some]

/-- The characters around the argument of a call are in no name. -/
theorem notMem_render (name : TypeName) : ' ' ∉ name.render.toList ∧ '(' ∉ name.render.toList := by
  cases name with
  | builtIn type => cases type <;> decide
  | cInteger type isSigned => cases type <;> cases isSigned <;> decide
  | cFloat type => cases type <;> decide

end TypeName

end AbiBindings.Julia
