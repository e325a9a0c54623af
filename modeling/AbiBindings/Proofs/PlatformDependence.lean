import AbiBindings.Proofs.Constants
import AbiBindings.Proofs.NamesByWidth
import Mathlib.Data.List.Forall2

/-!
# What depends on the platform

Two acceptable platforms are compared by their files. If they agree on the widths of the C types, on
what is measured of the interface and on the layout, the files are equal: the other measurements
play no part. If only the names of the layout and of its members are the same, the files still agree
declaration by declaration, apart from certain values.
-/

namespace AbiBindings

open Julia Declaration

/-- The platforms agree on the widths of the C types, on the classes of `int` and of results, on the
generic enumeration, on the identifier of shared memory, and on the layout. -/
structure Platform.SameInterface (p q : Platform) : Prop where
  char : p.cChar.size = q.cChar.size
  short : p.cShort.size = q.cShort.size
  int : p.cInt.size = q.cInt.size
  long : p.cLong.size = q.cLong.size
  float : p.cFloat.size = q.cFloat.size
  double : p.cDouble.size = q.cDouble.size
  intClass : p.cInt.cls = q.cInt.cls
  statusClass : p.status.cls = q.status.cls
  cEnum : p.cEnum = q.cEnum
  shmId : p.shmId = q.shmId
  timespec : p.timespec = q.timespec

/-- The layouts have the same name, and members of the same names in the same order. -/
structure StructLayout.SameMembers (layout other : StructLayout) : Prop where
  name : layout.name = other.name
  fields : layout.fields.map (·.field) = other.fields.map (·.field)

namespace Platform.SameInterface

variable {p q : Platform}

theorem cInt_eq (h : p.SameInterface q) : p.cInt = q.cInt :=
  Representation.eq_of_size_cls h.int h.intClass

/-- Results are as wide as an `int` on both platforms. -/
theorem status_eq (h : p.SameInterface q) (hp : p.Acceptable) (hq : q.Acceptable) :
    p.status = q.status := by
  have hstatus : p.status.size = p.cInt.size := hp .status
  have hstatus' : q.status.size = q.cInt.size := hq .status
  exact Representation.eq_of_size_cls (hstatus.trans (h.int.trans hstatus'.symm)) h.statusClass

theorem objectType_size_eq (h : p.SameInterface q) (hp : p.Acceptable) (hq : q.Acceptable) :
    p.objectType.size = q.objectType.size := by
  have htype : p.objectType.size = p.cInt.size := hp .objectType
  have htype' : q.objectType.size = q.cInt.size := hq .objectType
  exact htype.trans (h.int.trans htype'.symm)

theorem chosen_eq (h : p.SameInterface q) (style : Style) (r : Representation) :
    TypeName.chosen p style r = TypeName.chosen q style r :=
  TypeName.chosen_eq_of_sameWidths ⟨h.char, h.short, h.int, h.long, h.float, h.double⟩ style r

end Platform.SameInterface

namespace Bindings

/-- How the names of constants begin whose values come from the layout, or have the type `int`. -/
def variedStarts : List String :=
  ["_typeof_", "_sizeof_", "_offsetof_", "CAMERA_STATE_"]

/-- The constants whose values may differ between platforms. -/
def VariesByPlatform (name : String) : Prop :=
  name = "ShmId" ∨ name = "Cenum" ∨ name ∈ Tao.objectTypeTags.map (·.name) ∨
    ∃ start ∈ variedStarts, Text.startsWith start name = true

/-- The declarations are the same, or they are of one kind and differ in a type or value that may
depend on the platform. -/
inductive Alike : Declaration → Declaration → Prop
  | same (d : Declaration) : Alike d d
  | status (type type' : String) :
    Alike (.struct "Status" "val" type) (.struct "Status" "val" type')
  | const {name : String} (h : VariesByPlatform name) (pad : Nat) (value value' : String)
      (note : Option String) : Alike (.const name pad value note) (.const name pad value' note)
  | method (type value value' : String) :
    Alike (.dispatch Source.codeFunction type value) (.dispatch Source.codeFunction type value')

theorem forall₂_alike_refl (ds : List Declaration) : List.Forall₂ Alike ds ds :=
  List.forall₂_same.mpr fun d _ => .same d

theorem forall₂_alike_append {front front' rest rest' : List Declaration}
    (hfront : List.Forall₂ Alike front front') (hrest : List.Forall₂ Alike rest rest') :
    List.Forall₂ Alike (front ++ rest) (front' ++ rest') :=
  List.rel_append hfront hrest

/-- Declarations made from related things are alike. -/
theorem forall₂_alike_map {α : Type} {related : α → α → Prop} {make make' : α → Declaration}
    (h : ∀ x y, related x y → Alike (make x) (make' y)) {xs ys : List α}
    (hxs : List.Forall₂ related xs ys) : List.Forall₂ Alike (xs.map make) (ys.map make') :=
  List.forall₂_map_left_iff.mpr (List.forall₂_map_right_iff.mpr (hxs.imp h))

theorem forall₂_alike_flatMap {α : Type} {make make' : α → List Declaration} {xs : List α}
    (h : ∀ x ∈ xs, List.Forall₂ Alike (make x) (make' x)) :
    List.Forall₂ Alike (xs.flatMap make) (xs.flatMap make') := by
  induction xs with
  | nil => exact .nil
  | cons x rest ih =>
    obtain ⟨hx, hrest⟩ := List.forall_mem_cons.mp h
    exact forall₂_alike_append hx (ih hrest)

theorem variesByPlatform_of_start {start : String} (h : start ∈ variedStarts) (rest : String) :
    VariesByPlatform (start ++ rest) :=
  Or.inr (Or.inr (Or.inr ⟨start, h, Text.startsWith_append start rest⟩))

end Bindings

namespace Bindings.Source

variable (types : Tao.ElementTypes) (settings : Settings) {p q : Platform}

theorem listing_eq_of_sameInterface (h : p.SameInterface q) (hp : p.Acceptable)
    (hq : q.Acceptable) : listing ⟨types, p, settings⟩ = listing ⟨types, q, settings⟩ := by
  have hnamed : ∀ style r,
      named ⟨types, p, settings⟩ style r = named ⟨types, q, settings⟩ style r :=
    fun style r => congrArg TypeName.render (h.chosen_eq style r)
  have hfield : fieldTypeNamed ⟨types, p, settings⟩ = fieldTypeNamed ⟨types, q, settings⟩ := by
    funext f
    simp only [fieldTypeNamed, hnamed, h.timespec]
  have htags : objectTypes ⟨types, p, settings⟩ = objectTypes ⟨types, q, settings⟩ := by
    simp only [objectTypes, h.objectType_size_eq hp hq]
    rfl
  simp only [listing, parts, hnamed, hfield, htags, h.cInt_eq, h.status_eq hp hq, h.cEnum, h.shmId,
    h.timespec]
  rfl

theorem alike_statusOf (type type' : String) :
    List.Forall₂ Alike (statusOf type) (statusOf type') :=
  .cons (.same _) (.cons (.same _) (.cons (.status type type') (forall₂_alike_refl _)))

theorem alike_sharedMemoryOf (type type' : String) :
    List.Forall₂ Alike (sharedMemoryOf ⟨types, p, settings⟩ type)
      (sharedMemoryOf ⟨types, q, settings⟩ type') :=
  .cons (.same _) (.cons (.same _)
    (.cons (.const (Or.inl rfl) 0 type type' none) (forall₂_alike_refl _)))

theorem alike_enumerationTypeOf (type type' : String) :
    List.Forall₂ Alike (enumerationTypeOf type) (enumerationTypeOf type') :=
  .cons (.same _) (.cons (.same _)
    (.cons (.const (Or.inr (Or.inl rfl)) 0 type type' none) .nil))

theorem alike_symbolic {c : Tao.SymbolicConstant} (h : c ∈ Tao.objectTypeTags)
    (width width' : Nat) :
    List.Forall₂ Alike (symbolic ⟨types, p, settings⟩ width c)
      (symbolic ⟨types, q, settings⟩ width' c) := by
  have hname : VariesByPlatform c.name := Or.inr (Or.inr (Or.inl (List.mem_map_of_mem h)))
  exact .cons (.same _) (.cons (.same _)
    (.cons (.const hname 0 (c.value.render width) (c.value.render width') none) .nil))

theorem alike_objectTypes :
    List.Forall₂ Alike (objectTypes ⟨types, p, settings⟩) (objectTypes ⟨types, q, settings⟩) :=
  forall₂_alike_flatMap fun _ hc => alike_symbolic types settings hc _ _

theorem alike_elementDispatchOf (int int' : String) :
    List.Forall₂ Alike (elementDispatchOf ⟨types, p, settings⟩ int)
      (elementDispatchOf ⟨types, q, settings⟩ int') := by
  refine forall₂_alike_append (forall₂_alike_append (forall₂_alike_refl _) ?_)
    (forall₂_alike_refl _)
  refine forall₂_alike_map ?_ (List.forall₂_same.mpr fun e _ => rfl)
  rintro e _ rfl
  exact .method e.juliaType _ _

theorem alike_cameraStatesOf (int int' : String) :
    List.Forall₂ Alike (cameraStatesOf int) (cameraStatesOf int') := by
  refine forall₂_alike_append (forall₂_alike_refl _) ?_
  refine forall₂_alike_map ?_ (List.forall₂_same.mpr fun e _ => rfl)
  rintro state _ rfl
  have hstart : Text.startsWith "CAMERA_STATE_" state.name = true := by
    cases state <;> rfl
  exact .const (Or.inr (Or.inr (Or.inr ⟨_, by decide, hstart⟩))) 25 _ _ none

/-- Constants of members of the same name. -/
theorem alike_fieldConstant {layout other : StructLayout} (h : layout.name = other.name)
    {f g : FieldLayout} (hfield : f.field = g.field) (kind : String)
    (hkind : "_" ++ kind ++ "_" ∈ variedStarts) (value value' : String) :
    Alike (.constant (fieldConstantName kind layout f) value)
      (.constant (fieldConstantName kind other g) value') := by
  have hname : fieldConstantName kind layout f = fieldConstantName kind other g := by
    rw [fieldConstantName, fieldConstantName, h, hfield]
  have hvaries : VariesByPlatform (fieldConstantName kind other g) := by
    rw [fieldConstantName_eq]
    exact variesByPlatform_of_start hkind _
  rw [hname]
  exact .const hvaries 0 value value' none

theorem alike_timespecOf {layout other : StructLayout} (h : layout.SameMembers other)
    (type type' : FieldLayout → String) :
    List.Forall₂ Alike
      (timespecOf layout (layout.fields.map fun f => fieldTypeOf layout f (type f)))
      (timespecOf other (other.fields.map fun f => fieldTypeOf other f (type' f))) := by
  have hmembers : List.Forall₂ (fun f g : FieldLayout => f.field = g.field) layout.fields
      other.fields := by
    have hmap := h.fields
    rwa [← List.forall₂_eq_eq_eq, List.forall₂_map_left_iff, List.forall₂_map_right_iff] at hmap
  have htypes : List.Forall₂ Alike
      (layout.fields.map fun f => fieldTypeOf layout f (type f))
      (other.fields.map fun f => fieldTypeOf other f (type' f)) := by
    refine forall₂_alike_map (fun f g hfield => ?_) hmembers
    exact alike_fieldConstant h.name hfield "typeof" (by decide) (type f) (type' g)
  have hoffsets : List.Forall₂ Alike (layout.fields.map (fieldOffset layout))
      (other.fields.map (fieldOffset other)) := by
    refine forall₂_alike_map (fun f g hfield => ?_) hmembers
    exact alike_fieldConstant h.name hfield "offsetof" (by decide) (toString f.offset)
      (toString g.offset)
  have hsize : VariesByPlatform ("_sizeof_" ++ other.name) :=
    variesByPlatform_of_start (by decide) other.name
  rw [timespecOf, timespecOf, h.name]
  refine forall₂_alike_append (forall₂_alike_append
    (forall₂_alike_append (forall₂_alike_refl _) htypes) ?_) hoffsets
  exact .cons (.same _) (.cons (.same _) (.cons (.const hsize 0 _ _ none) .nil))

/-- Every section is alike on both platforms, so the files are. -/
theorem alike_listing (h : p.timespec.SameMembers q.timespec) :
    List.Forall₂ Alike (listing ⟨types, p, settings⟩) (listing ⟨types, q, settings⟩) := by
  have hparts : List.Forall₂ (List.Forall₂ Alike) (parts ⟨types, p, settings⟩)
      (parts ⟨types, q, settings⟩) :=
    .cons (forall₂_alike_refl _) <|
    .cons (forall₂_alike_refl _) <|
    .cons (alike_statusOf _ _) <|
    .cons (alike_sharedMemoryOf types settings _ _) <|
    .cons (alike_enumerationTypeOf _ _) <|
    .cons (alike_objectTypes types settings) <|
    .cons (forall₂_alike_refl _) <|
    .cons (forall₂_alike_refl _) <|
    .cons (forall₂_alike_refl _) <|
    .cons (alike_elementDispatchOf types settings _ _) <|
    .cons (forall₂_alike_refl _) <|
    .cons (alike_timespecOf h _ _) <|
    .cons (alike_cameraStatesOf _ _) .nil
  exact List.rel_flatten hparts

/-- Of two acceptable platforms, those with the same interface have the same file, and those whose
layouts have the same members have files that are alike declaration by declaration. -/
theorem artifacts_eq_and_alike {p q : Platform} (hp : p.checkWidths = .ok ())
    (hq : q.checkWidths = .ok ()) :
    ∃ a b, artifact ⟨types, p, settings⟩ = .ok a ∧ artifact ⟨types, q, settings⟩ = .ok b ∧
      (p.SameInterface q → a = b) ∧
      (p.timespec.SameMembers q.timespec →
        List.Forall₂ Alike a.declarations b.declarations) := by
  have hp' := p.checkWidths_eq_ok_iff.mp hp
  have hq' := q.checkWidths_eq_ok_iff.mp hq
  refine ⟨_, _, artifact_eq_ok ⟨types, p, settings⟩ hp', artifact_eq_ok ⟨types, q, settings⟩ hq',
    fun h => ?_, fun h => alike_listing types settings h⟩
  rw [listing_eq_of_sameInterface types settings h hp' hq']

/-- Like `ilp32`, with other classes wherever no name of a type depends on the class. -/
def otherClasses : Platform :=
  { Platform.ilp32 with
    cChar := Tao.NativeElement.uint8.representation
    cLong := Tao.NativeElement.uint32.representation
    objectType := Tao.NativeElement.int32.representation
    elementType := Tao.NativeElement.int32.representation
    cameraState := Tao.NativeElement.int32.representation }

/-- A platform with one member in the layout. -/
def longSeconds : Platform :=
  { Platform.ilp32 with
    timespec := ⟨"timespec", 16,
      [⟨"timespec", "tv_sec", 0, Tao.NativeElement.int64.representation⟩]⟩ }

/-- A platform with short integers, whose layout has the same member elsewhere. -/
def shortInts : Platform :=
  { Platform.ilp32 with
    cInt := Tao.NativeElement.int16.representation
    status := Tao.NativeElement.int16.representation
    objectType := Tao.NativeElement.uint16.representation
    elementType := Tao.NativeElement.uint16.representation
    cameraState := Tao.NativeElement.uint16.representation
    timespec := ⟨"timespec", 8,
      [⟨"timespec", "tv_sec", 4, Tao.NativeElement.uint32.representation⟩]⟩ }

theorem otherClasses_eq_and_shortInts_alike :
    (∃ a, artifact ⟨.own, .ilp32, {}⟩ = .ok a ∧ artifact ⟨.own, otherClasses, {}⟩ = .ok a) ∧
      ∃ a b, artifact ⟨.own, longSeconds, {}⟩ = .ok a ∧ artifact ⟨.own, shortInts, {}⟩ = .ok b ∧
        List.Forall₂ Alike a.declarations b.declarations := by
  constructor
  · obtain ⟨a, b, ha, hb, hsame, -⟩ :=
      artifacts_eq_and_alike .own {} (p := .ilp32) (q := otherClasses) rfl rfl
    have hab := hsame ⟨rfl, rfl, rfl, rfl, rfl, rfl, rfl, rfl, rfl, rfl, rfl⟩
    exact ⟨a, ha, hab ▸ hb⟩
  · obtain ⟨a, b, ha, hb, -, halike⟩ :=
      artifacts_eq_and_alike .own {} (p := longSeconds) (q := shortInts) rfl rfl
    exact ⟨a, b, ha, hb, halike ⟨rfl, rfl⟩⟩

end Bindings.Source

end AbiBindings
