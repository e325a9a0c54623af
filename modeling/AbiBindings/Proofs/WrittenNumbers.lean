import AbiBindings.Proofs.Emission
import AbiBindings.Proofs.Numerals

/-!
# The numbers of the file

Every value in the bindings is read for the number that it writes. In order, the numbers are those
of the library, of the element types and of the layout, each under its own name and in its
constructor. Nothing else in the file reads as a number, whatever the path of the library and the
names of types.
-/

namespace AbiBindings

open Julia Declaration

/-- The name that has a number, or the method that gives it. -/
inductive NumberOwner where
  | constant (name : String)
  | method (function type : String)
  deriving DecidableEq

/-- The number that the value of a declaration writes. -/
def writtenNumber? : Declaration → Option (NumberOwner × Numeral.Reading)
  | const name _ value _ => (Numeral.reading? value).map fun n => (.constant name, n)
  | dispatch function type value =>
    (Numeral.reading? value).map fun n => (.method function type, n)
  | _ => none

/-- The numbers that declarations write, in order. -/
def writtenNumbers (ds : List Declaration) : List (NumberOwner × Numeral.Reading) :=
  ds.filterMap writtenNumber?

theorem writtenNumbers_nil : writtenNumbers [] = [] := rfl

theorem writtenNumbers_cons (d : Declaration) (rest : List Declaration) :
    writtenNumbers (d :: rest) = (writtenNumber? d).toList ++ writtenNumbers rest := by
  rw [writtenNumbers, List.filterMap_cons]
  cases writtenNumber? d <;> rfl

theorem writtenNumbers_append (front rest : List Declaration) :
    writtenNumbers (front ++ rest) = writtenNumbers front ++ writtenNumbers rest :=
  List.filterMap_append

theorem Julia.TypeName.reading?_render (name : TypeName) :
    Numeral.reading? name.render = none := by
  cases name with
  | builtIn type => cases type <;> rfl
  | cInteger type isSigned => cases type <;> cases isSigned <;> rfl
  | cFloat type => cases type <;> rfl

namespace Bindings.Source

variable (s : Source)

/-- The number of a constant of the library. -/
def symbolicNumber? (c : Tao.SymbolicConstant) : Option (NumberOwner × Numeral.Reading) :=
  (Numeral.ofLiteral? c.value).map fun value => (.constant c.name, ⟨"", value⟩)

/-- The numbers that the native side has, in the order of the file. -/
def nativeNumbers : List (NumberOwner × Numeral.Reading) :=
  let int := s.named .nativeCall s.platform.cInt
  let layout := s.platform.timespec
  [(.constant "ERROR", ⟨"Status", -1⟩),
    (.constant "OK", ⟨"Status", 0⟩),
    (.constant "TIMEOUT", ⟨"Status", 1⟩),
    (.constant "BAD_SHMID", ⟨"ShmId", -1⟩)] ++
  Tao.objectTypeTags.filterMap symbolicNumber? ++
  Tao.capacityLimits.filterMap symbolicNumber? ++
  (s.types.entries.map fun e => (.method codeFunction e.juliaType, ⟨int, e.code⟩)) ++
  (s.types.entries.map fun e => (.constant ("ELTYPE_" ++ e.name), ⟨"", e.code⟩)) ++
  [(.constant ("_sizeof_" ++ layout.name), ⟨"", layout.size⟩)] ++
  (layout.fields.map fun f =>
    (.constant (fieldConstantName "offsetof" layout f), ⟨"", f.offset⟩)) ++
  [(.constant "CAMERA_STATE_INITIALIZING", ⟨int, 0⟩),
    (.constant "CAMERA_STATE_SLEEPING", ⟨int, 1⟩),
    (.constant "CAMERA_STATE_STARTING", ⟨int, 2⟩),
    (.constant "CAMERA_STATE_ACQUIRING", ⟨int, 3⟩),
    (.constant "CAMERA_STATE_STOPPING", ⟨int, 4⟩),
    (.constant "CAMERA_STATE_ABORTING", ⟨int, 5⟩),
    (.constant "CAMERA_STATE_FINISHED", ⟨int, 6⟩)]

theorem writtenNumbers_libraryPath : writtenNumbers s.libraryPath = [] := by
  simp only [libraryPath, Declaration.constant, writtenNumbers_cons, writtenNumbers_nil,
    writtenNumber?, Numeral.reading?_quote, Option.map_none, Option.toList_none, List.append_nil]

theorem writtenNumbers_statusOf (type : String) :
    writtenNumbers (statusOf type) =
      [(.constant "ERROR", ⟨"Status", -1⟩),
        (.constant "OK", ⟨"Status", 0⟩),
        (.constant "TIMEOUT", ⟨"Status", 1⟩)] := by
  have hspace : ' ' ∉ "Status".toList := by decide
  have hparen : '(' ∉ "Status".toList := by decide
  have hstatus : ∀ x : Tao.Status, Numeral.reading? ("Status(" ++ twoColumns x.value ++ ")") =
      some ⟨"Status", x.value⟩ := fun x => Numeral.reading?_call hspace hparen 2 x.value
  rw [statusOf, writtenNumbers_append]
  simp only [writtenNumbers, List.filterMap_map, Function.comp_def, statusConstant, writtenNumber?,
    hstatus, Option.map_some, List.filterMap_eq_map']
  rfl

theorem writtenNumbers_sharedMemoryOf (type : TypeName) :
    writtenNumbers (s.sharedMemoryOf type.render) = [(.constant "BAD_SHMID", ⟨"ShmId", -1⟩)] := by
  have hspace : ' ' ∉ "ShmId".toList := by decide
  have hparen : '(' ∉ "ShmId".toList := by decide
  have hbad : Numeral.reading? ("ShmId(" ++ toString Tao.badShmId ++ ")") = some ⟨"ShmId", -1⟩ :=
    Numeral.reading?_call_unpadded hspace hparen Tao.badShmId
  simp only [sharedMemoryOf, documented, Declaration.constant, writtenNumbers_cons,
    writtenNumbers_nil, writtenNumber?, type.reading?_render, hbad, Option.map_some,
    Option.map_none, Option.toList_some, Option.toList_none, List.nil_append, List.append_nil]

theorem writtenNumbers_enumerationTypeOf (type : TypeName) :
    writtenNumbers (enumerationTypeOf type.render) = [] := by
  simp only [enumerationTypeOf, Declaration.constant, writtenNumbers_cons, writtenNumbers_nil,
    writtenNumber?, type.reading?_render, Option.map_none, Option.toList_none, List.append_nil]

/-- Whatever the width of bit patterns, the literals of a table are read back. -/
theorem writtenNumbers_symbolic (hexWidth : Nat) (cs : List Tao.SymbolicConstant) :
    writtenNumbers (cs.flatMap (s.symbolic hexWidth)) = cs.filterMap symbolicNumber? := by
  induction cs with
  | nil => rfl
  | cons c rest ih =>
    have hc : writtenNumbers (s.symbolic hexWidth c) = (symbolicNumber? c).toList := by
      simp only [symbolic, documented, Declaration.constant, writtenNumbers_cons,
        writtenNumbers_nil, writtenNumber?, Numeral.reading?_render, Option.map_map,
        Option.toList_none, List.nil_append, List.append_nil, symbolicNumber?, Function.comp_def]
    rw [List.flatMap_cons, writtenNumbers_append, hc, ih, List.filterMap_cons]
    cases symbolicNumber? c <;> rfl

theorem writtenNumbers_elementDispatchOf (type : TypeName) :
    writtenNumbers (s.elementDispatchOf type.render) =
      s.types.entries.map fun e =>
        (.method codeFunction e.juliaType, ⟨type.render, e.code⟩) := by
  obtain ⟨hspace, hparen⟩ := type.notMem_render
  have hcode : ∀ e : Tao.ElementType,
      Numeral.reading? (type.render ++ "(" ++ toString e.code ++ ")") =
        some ⟨type.render, e.code⟩ :=
    fun e => Numeral.reading?_call_unpadded hspace hparen e.code
  have hmethods : writtenNumbers (s.types.entries.map (codeMethod type.render)) =
      s.types.entries.map fun e =>
        (.method codeFunction e.juliaType, ⟨type.render, e.code⟩) := by
    simp only [writtenNumbers, List.filterMap_map, Function.comp_def, codeMethod, writtenNumber?,
      hcode, Option.map_some, List.filterMap_eq_map']
  rw [elementDispatchOf, writtenNumbers_append, writtenNumbers_append, hmethods]
  exact List.append_nil _

theorem writtenNumbers_elementTable :
    writtenNumbers s.elementTable =
      s.types.entries.map fun e => (.constant ("ELTYPE_" ++ e.name), ⟨"", e.code⟩) := by
  have hcode : ∀ e : Tao.ElementType,
      Numeral.reading? (twoColumns e.code) = some ⟨"", e.code⟩ :=
    fun e => Numeral.reading?_padLeft 2 e.code
  rw [elementTable, writtenNumbers_append]
  simp only [writtenNumbers, List.filterMap_map, Function.comp_def, elementConstant,
    writtenNumber?, hcode, Option.map_some, List.filterMap_eq_map']
  rfl

theorem writtenNumbers_fieldTypes (fields : List FieldLayout) :
    writtenNumbers (fields.map s.fieldTypeNamed) = [] := by
  simp only [writtenNumbers, List.filterMap_eq_nil_iff, List.mem_map]
  rintro d ⟨f, -, rfl⟩
  simp only [fieldTypeNamed, fieldTypeOf, Declaration.constant, writtenNumber?, named,
    TypeName.reading?_render, Option.map_none]

theorem writtenNumbers_fieldOffsets (layout : StructLayout) (fields : List FieldLayout) :
    writtenNumbers (fields.map (fieldOffset layout)) =
      fields.map fun f => (.constant (fieldConstantName "offsetof" layout f), ⟨"", f.offset⟩) := by
  simp only [writtenNumbers, List.filterMap_map, Function.comp_def, fieldOffset,
    Declaration.constant, writtenNumber?, Numeral.reading?_natural, Option.map_some,
    List.filterMap_eq_map']

theorem writtenNumbers_timespecOf :
    writtenNumbers (timespecOf s.platform.timespec
        (s.platform.timespec.fields.map s.fieldTypeNamed)) =
      (.constant ("_sizeof_" ++ s.platform.timespec.name), ⟨"", s.platform.timespec.size⟩) ::
        s.platform.timespec.fields.map fun f =>
          (.constant (fieldConstantName "offsetof" s.platform.timespec f), ⟨"", f.offset⟩) := by
  simp only [timespecOf, Declaration.constant, writtenNumbers_append, writtenNumbers_fieldTypes,
    writtenNumbers_fieldOffsets, writtenNumbers_cons, writtenNumbers_nil, writtenNumber?,
    Numeral.reading?_natural, Option.map_some, Option.toList_some, Option.toList_none,
    List.nil_append, List.append_nil, List.cons_append]

theorem writtenNumbers_cameraStatesOf (type : TypeName) :
    writtenNumbers (cameraStatesOf type.render) =
      Tao.CameraState.all.map fun x => (.constant x.name, ⟨type.render, x.value⟩) := by
  obtain ⟨hspace, hparen⟩ := type.notMem_render
  have hvalue : ∀ x : Tao.CameraState,
      Numeral.reading? (type.render ++ "(" ++ toString x.value ++ ")") =
        some ⟨type.render, x.value⟩ :=
    fun x => Numeral.reading?_call_unpadded hspace hparen x.value
  rw [cameraStatesOf, writtenNumbers_append]
  simp only [writtenNumbers, List.filterMap_map, Function.comp_def, cameraState, writtenNumber?,
    hvalue, Option.map_some, List.filterMap_eq_map']
  rfl

theorem writtenNumbers_listing : writtenNumbers s.listing = s.nativeNumbers := by
  have hflatten : writtenNumbers s.listing = (s.parts.map writtenNumbers).flatten :=
    List.filterMap_flatten
  have hheader : writtenNumbers s.header = [] := rfl
  have hunion : writtenNumbers s.elementUnion = [] := rfl
  have htuple : writtenNumbers s.elementTuple = [] := rfl
  rw [hflatten]
  simp only [parts, List.map_cons, List.map_nil, named, objectTypes, capacities, hheader,
    writtenNumbers_libraryPath, writtenNumbers_statusOf, writtenNumbers_sharedMemoryOf,
    writtenNumbers_enumerationTypeOf, writtenNumbers_symbolic, hunion, htuple,
    writtenNumbers_elementDispatchOf, writtenNumbers_elementTable, writtenNumbers_timespecOf,
    writtenNumbers_cameraStatesOf, List.flatten_cons, List.flatten_nil, List.nil_append,
    List.append_nil]
  simp only [nativeNumbers, named, List.append_assoc, List.cons_append, List.nil_append]
  rfl

/-- In the file of an acceptable platform, the numbers that the values write are those of the native
side, whatever the platform's widths. -/
theorem numbers_exact (h : s.platform.checkWidths = .ok ()) :
    ∃ a, s.artifact = .ok a ∧ writtenNumbers a.declarations = s.nativeNumbers := by
  have hacceptable := (s.platform.checkWidths_eq_ok_iff).mp h
  exact ⟨⟨s.listing⟩, s.artifact_eq_ok hacceptable, s.writtenNumbers_listing⟩

/-- A platform whose `int` and enumerations have one byte, with the greatest of all offsets. -/
def byteInts : Platform :=
  { Platform.ilp32 with
    cInt := Tao.NativeElement.int8.representation
    status := Tao.NativeElement.int8.representation
    objectType := Tao.NativeElement.uint8.representation
    elementType := Tao.NativeElement.uint8.representation
    cameraState := Tao.NativeElement.uint8.representation
    timespec := ⟨"timespec", 0xffffffffffffffff,
      [⟨"timespec", "tv_sec", 0xffffffffffffffff, Tao.NativeElement.int64.representation⟩]⟩ }

/-- An element type with the least of all codes. -/
def leastCode : Tao.ElementTypes :=
  ⟨[⟨"INT8", Tao.NativeElement.int8.representation, "Int8", -0x8000000000000000, ""⟩]⟩

/-- Neither a tag that is wider than its enumeration nor an extreme code or offset is changed. -/
theorem byteInts_numbers :
    byteInts.checkWidths = .ok () ∧
      ∃ a, artifact ⟨leastCode, byteInts, {}⟩ = .ok a ∧
        (.constant "SHARED_ANY", ⟨"", 0xffffffff⟩) ∈ writtenNumbers a.declarations ∧
        (.method "shared_array_eltype" "Int8", ⟨"Cint", -0x8000000000000000⟩) ∈
          writtenNumbers a.declarations ∧
        (.constant "_offsetof_timespec_sec", ⟨"", 0xffffffffffffffff⟩) ∈
          writtenNumbers a.declarations := by
  have hwidths : byteInts.checkWidths = .ok () := rfl
  obtain ⟨a, ha, hnumbers⟩ := numbers_exact ⟨leastCode, byteInts, {}⟩ hwidths
  refine ⟨hwidths, a, ha, ?_⟩
  rw [hnumbers]
  decide

end Bindings.Source

end AbiBindings
