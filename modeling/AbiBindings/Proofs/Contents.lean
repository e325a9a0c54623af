import AbiBindings.Proofs.Emission

/-!
# What the file contains

A file is looked at by the kind of its declarations: its constants with their values, its lists with
their items, its methods, structures, comments and docstrings, each in the order of the file.
-/

namespace AbiBindings

namespace Julia.Declaration

def constant? : Declaration → Option (String × String)
  | const name _ value _ => some (name, value)
  | _ => none

def list? : Declaration → Option (String × List String)
  | list name _ _ items _ => some (name, items)
  | _ => none

/-- Function, type and value of a method. -/
def method? : Declaration → Option (String × String × String)
  | dispatch function type value => some (function, type, value)
  | _ => none

/-- The function that a method belongs to, be it for one type or for every other. -/
def function? : Declaration → Option String
  | dispatch function _ _ => some function
  | fallback function => some function
  | _ => none

/-- Name, field and type of a structure. -/
def structure? : Declaration → Option (String × String × String)
  | struct name field type => some (name, field, type)
  | _ => none

def comment? : Declaration → Option String
  | comment text => some text
  | _ => none

def doc? : Declaration → Option String
  | doc text => some text
  | _ => none

theorem mem_comments_iff {text : String} {ds : List Declaration} :
    text ∈ ds.filterMap comment? ↔ comment text ∈ ds := by
  rw [List.mem_filterMap]
  constructor
  · rintro ⟨d, hd, htext⟩
    cases d <;> simp_all [comment?]
  · intro h
    exact ⟨_, h, rfl⟩

theorem mem_docs_iff {text : String} {ds : List Declaration} :
    text ∈ ds.filterMap doc? ↔ doc text ∈ ds := by
  rw [List.mem_filterMap]
  constructor
  · rintro ⟨d, hd, htext⟩
    cases d <;> simp_all [doc?]
  · intro h
    exact ⟨_, h, rfl⟩

end Julia.Declaration

namespace Bindings.Source

open Julia Declaration

variable (s : Source)

theorem filterMap_none {α β : Type} (as : List α) :
    as.filterMap (fun _ => (none : Option β)) = [] :=
  List.filterMap_eq_nil_iff.mpr fun _ _ => rfl

theorem flatMap_nil {α β : Type} (as : List α) : as.flatMap (fun _ => ([] : List β)) = [] :=
  List.flatMap_eq_nil_iff.mpr fun _ _ => rfl

/-- What is documented under its qualified name, with the text after the name. -/
def documentedTexts : List (String × String) :=
  ("BAD_SHMID", "is used to denote an invalid shared memory identifier.") ::
    (Tao.objectTypeTags ++ Tao.capacityLimits).map fun c => (c.name, c.doc)

/-- The constants before those of the element types, the path of the library aside. -/
def frontConstants : List (String × String) :=
  (Tao.Status.all.map fun x => (x.name, "Status(" ++ twoColumns x.value ++ ")")) ++
    [("ShmId", s.named .fixedWidth s.platform.shmId),
      ("BAD_SHMID", "ShmId(" ++ toString Tao.badShmId ++ ")"),
      ("Cenum", s.named .nativeCall s.platform.cEnum)] ++
    (Tao.objectTypeTags.map fun c => (c.name, c.value.render (2 * s.platform.objectType.size))) ++
    (Tao.capacityLimits.map fun c => (c.name, c.value.render 0))

def elementConstants : List (String × String) :=
  s.types.entries.map fun e => (elementConstantName e, twoColumns e.code)

def fieldTypeConstants : List (String × String) :=
  s.platform.timespec.fields.map fun f =>
    (fieldConstantName "typeof" s.platform.timespec f, s.named .fixedWidth f.repr)

def sizeConstant : String × String :=
  ("_sizeof_" ++ s.platform.timespec.name, toString s.platform.timespec.size)

def fieldOffsetConstants : List (String × String) :=
  s.platform.timespec.fields.map fun f =>
    (fieldConstantName "offsetof" s.platform.timespec f, toString f.offset)

def cameraConstants : List (String × String) :=
  Tao.CameraState.all.map fun x =>
    (x.name, s.named .nativeCall s.platform.cInt ++ "(" ++ toString x.value ++ ")")

/-- The constants after the path of the library. -/
def laterConstants : List (String × String) :=
  s.frontConstants ++ s.elementConstants ++ s.fieldTypeConstants ++ [s.sizeConstant] ++
    s.fieldOffsetConstants ++ s.cameraConstants

attribute [local simp] listing parts header libraryPath statusOf statusConstant sharedMemoryOf
  enumerationTypeOf objectTypes capacities symbolic documented elementUnion elementTuple
  elementDispatchOf codeMethod elementTable elementConstant timespecOf fieldTypeNamed fieldTypeOf
  fieldOffset cameraStatesOf cameraState Declaration.constant List.filterMap_cons
  List.filterMap_flatMap Function.comp_def filterMap_none flatMap_nil

/-- The first constant of the file is the path of the library. -/
theorem constants_listing :
    s.listing.filterMap constant? =
      (s.settings.library.pathConstant, Literal.quote s.settings.library.path) ::
        s.laterConstants := by
  simp [laterConstants, frontConstants, elementConstants, fieldTypeConstants, sizeConstant,
    fieldOffsetConstants, cameraConstants, constant?, ← List.map_eq_flatMap]

/-- The file has one structure. -/
theorem structures_listing :
    s.listing.filterMap structure? =
      [("Status", "val", s.named .nativeCall s.platform.status)] := by
  simp [structure?]

/-- The file has two lists: the element types in their own order, and by code. -/
theorem lists_listing :
    s.listing.filterMap list? =
      [("SharedArrayElementTypes", s.types.entries.map (·.juliaType)),
        ("SHARED_ARRAY_ELTYPES", s.typesByCode)] := by
  simp [list?]

/-- The file has a method for each element type. -/
theorem methods_listing :
    s.listing.filterMap method? =
      s.types.entries.map fun e =>
        (codeFunction, e.juliaType,
          s.named .nativeCall s.platform.cInt ++ "(" ++ toString e.code ++ ")") := by
  simp [method?]

/-- All methods belong to one function, which has one method more than there are element types. -/
theorem functions_listing :
    s.listing.filterMap function? = List.replicate (s.types.entries.length + 1) codeFunction := by
  simp [function?, List.map_const', List.replicate_succ']

/-- The docstrings of single constants come before that of the methods. -/
theorem docs_listing :
    s.listing.filterMap doc? =
      (documentedTexts.map fun entry =>
        "`" ++ s.settings.library.juliaModule ++ "." ++ entry.1 ++ "` " ++ entry.2) ++
        [s.codeFunctionDoc] := by
  simp [doc?, documentedTexts, ← List.map_eq_flatMap]

/-- Apart from the name of the layout, comments mention the name of the file and the display name. -/
theorem newline_notMem_comments_iff (h : '\n' ∉ s.platform.timespec.name.toList) :
    (∀ text ∈ s.listing.filterMap comment?, '\n' ∉ text.toList) ↔
      '\n' ∉ s.settings.output.fileName.toList ∧ '\n' ∉ s.settings.library.name.toList := by
  simp [comment?, h]

end Bindings.Source

end AbiBindings
