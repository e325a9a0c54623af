import AbiBindings.Bindings.WidthCheck
import AbiBindings.Julia.Declaration
import AbiBindings.Julia.TypeName
import AbiBindings.Settings.Basic

/-!
# The sections of the bindings

The generated file consists of thirteen sections in a fixed order. Every section is a list of
declarations of its own; of the platform it takes only the names and sizes of types. A section that
needs the name of a type can fail; what it holds once the type is named stands beside it.
-/

namespace AbiBindings.Bindings

open Julia

/-- What the sections are made from. -/
structure Source where
  types : Tao.ElementTypes
  platform : Platform
  settings : Settings

namespace Source

/-- The name of the function that gives the code of an element type. -/
def codeFunction : String := "shared_array_eltype"

def typeName (s : Source) (style : Style) (r : Representation) : Except Violation String :=
  (TypeName.resolve s.platform style r).map TypeName.render

/-- A docstring that opens with the qualified name of what it documents. -/
def documented (s : Source) (name text : String) : Declaration :=
  .doc ("`" ++ s.settings.library.juliaModule ++ "." ++ name ++ "` " ++ text)

def header (s : Source) : List Declaration :=
  [.comment "",
    .comment (s.settings.output.fileName ++ " --"),
    .comment "",
    .comment ("Definitions for the Julia interface to the " ++ s.settings.library.name ++
      " C library."),
    .comment "",
    .comment "*IMPORTANT* This file has been automatically generated by `gendeps`, do",
    .comment "            not edit it directly but rather regenerate it.",
    .comment ""]

def libraryPath (s : Source) : List Declaration :=
  [.blank,
    .comment ("Path to the core " ++ s.settings.library.name ++ " dynamic library:"),
    .constant s.settings.library.pathConstant (Literal.quote s.settings.library.path)]

/-- A number in at least two columns. -/
def twoColumns (n : Int) : String :=
  Text.padLeft 2 (toString n)

def statusConstant (status : Tao.Status) : Declaration :=
  .const status.name 7 ("Status(" ++ twoColumns status.value ++ ")") none

def statusOf (type : String) : List Declaration :=
  [.blank,
    .comment "Possible return values for an operation:",
    .struct "Status" "val" type] ++ Tao.Status.all.map statusConstant

def status (s : Source) : Except Violation (List Declaration) :=
  (s.typeName .nativeCall s.platform.status).map statusOf

def sharedMemoryOf (s : Source) (type : String) : List Declaration :=
  [.blank,
    .comment "Type used to store a shared memory identifier:",
    .constant "ShmId" type,
    .blank,
    s.documented "BAD_SHMID" "is used to denote an invalid shared memory identifier.",
    .constant "BAD_SHMID" ("ShmId(" ++ toString Tao.badShmId ++ ")")]

def sharedMemory (s : Source) : Except Violation (List Declaration) :=
  (s.typeName .fixedWidth s.platform.shmId).map s.sharedMemoryOf

def enumerationTypeOf (type : String) : List Declaration :=
  [.blank,
    .comment "Julia type corresponding to a C enumeration:",
    .constant "Cenum" type]

def enumerationType (s : Source) : Except Violation (List Declaration) :=
  (s.typeName .nativeCall s.platform.cEnum).map enumerationTypeOf

/-- A constant of the library with its docstring. -/
def symbolic (s : Source) (hexWidth : Nat) (c : Tao.SymbolicConstant) : List Declaration :=
  [.blank, s.documented c.name c.doc, .constant c.name (c.value.render hexWidth)]

/-- The tags, with two hexadecimal digits for each byte of the enumeration. -/
def objectTypes (s : Source) : List Declaration :=
  Tao.objectTypeTags.flatMap (s.symbolic (2 * s.platform.objectType.size))

def capacities (s : Source) : List Declaration :=
  Tao.capacityLimits.flatMap (s.symbolic 0)

def elementUnion (s : Source) : List Declaration :=
  [.blank,
    .comment ("Union of all element types of " ++ s.settings.library.name ++ " shared arrays."),
    .list "SharedArrayElementTypes" "Union\x7b" "\x7d" (s.types.entries.map (·.juliaType))
      s.settings.output.itemsPerLine]

/-- The type at a position of the list that is indexed by code; an unused code has a placeholder. -/
def typeOfCode (s : Source) (code : Nat) : String :=
  match s.types.byCode? code with
  | some e => e.juliaType
  | none => "Nothing"

/-- The types in the order of the codes from one to the number of entries. -/
def typesByCode (s : Source) : List String :=
  (List.range s.types.size).map fun position => s.typeOfCode (position + 1)

/-- A list of one item ends with a comma, as otherwise it would not be a tuple. -/
def tupleClosing (items : List String) : String :=
  if items.length = 1 then ",)" else ")"

def elementTuple (s : Source) : List Declaration :=
  [.blank,
    .comment ("List of all element types of " ++ s.settings.library.name ++
      " shared arrays (can be indexed"),
    .comment ("by " ++ s.settings.library.name ++ " element type identifier)."),
    .list "SHARED_ARRAY_ELTYPES" "(" (tupleClosing s.typesByCode) s.typesByCode
      s.settings.output.itemsPerLine]

def codeFunctionDoc (s : Source) : String :=
  "    " ++ s.settings.library.juliaModule ++ "." ++ codeFunction ++ "(T) -> id\n\n" ++
    "yields the element type code of " ++ s.settings.library.name ++
    " shared array corresponding to Julia\n" ++
    "type `T`.  An error is raised if `T` is not supported."

def codeMethod (intName : String) (e : Tao.ElementType) : Declaration :=
  .dispatch codeFunction e.juliaType (intName ++ "(" ++ toString e.code ++ ")")

def elementDispatchOf (s : Source) (intName : String) : List Declaration :=
  [.blank, .doc s.codeFunctionDoc] ++ s.types.entries.map (codeMethod intName) ++
    [.fallback codeFunction]

def elementDispatch (s : Source) : Except Violation (List Declaration) :=
  (s.typeName .nativeCall s.platform.cInt).map s.elementDispatchOf

def elementConstantName (e : Tao.ElementType) : String :=
  "ELTYPE_" ++ e.name

/-- The width of the name column: the length in bytes of the longest name. -/
def elementPad (s : Source) : Nat :=
  ((s.types.entries.map fun e => (elementConstantName e).utf8ByteSize).max?).getD 0

def elementConstant (pad : Nat) (e : Tao.ElementType) : Declaration :=
  .const (elementConstantName e) pad (twoColumns e.code) (some e.description)

def elementTable (s : Source) : List Declaration :=
  [.blank, .comment "Identifiers of the type of the elements in an array."] ++
    s.types.entries.map (elementConstant s.elementPad)

/-- The name of a member without what precedes its first underscore, if something follows. -/
def shortFieldName (field : String) : String :=
  match field.toList.dropWhile (· != '_') with
  | _ :: c :: rest => String.ofList (c :: rest)
  | _ => field

def fieldConstantName (kind : String) (layout : StructLayout) (f : FieldLayout) : String :=
  "_" ++ kind ++ "_" ++ layout.name ++ "_" ++ shortFieldName f.field

def fieldTypeOf (layout : StructLayout) (f : FieldLayout) (type : String) : Declaration :=
  .constant (fieldConstantName "typeof" layout f) type

def fieldType (s : Source) (layout : StructLayout) (f : FieldLayout) :
    Except Violation Declaration :=
  (s.typeName .fixedWidth f.repr).map (fieldTypeOf layout f)

def fieldOffset (layout : StructLayout) (f : FieldLayout) : Declaration :=
  .constant (fieldConstantName "offsetof" layout f) (toString f.offset)

/-- The section of a layout, given the declarations of its members' types. -/
def timespecOf (layout : StructLayout) (types : List Declaration) : List Declaration :=
  [.blank,
      .comment ("Julia types of the members of the C `" ++ layout.name ++ "` structure.")] ++
    types ++
    [.blank,
      .comment ("Size and member offsets (in bytes) of the C `" ++ layout.name ++
        "` structure."),
      .constant ("_sizeof_" ++ layout.name) (toString layout.size)] ++
    layout.fields.map (fieldOffset layout)

def timespec (s : Source) : Except Violation (List Declaration) :=
  (s.platform.timespec.fields.mapM (s.fieldType s.platform.timespec)).map
    (timespecOf s.platform.timespec)

def cameraState (intName : String) (state : Tao.CameraState) : Declaration :=
  .const state.name 25 (intName ++ "(" ++ toString state.value ++ ")") none

def cameraStatesOf (intName : String) : List Declaration :=
  [.blank, .comment "The different possible camera states."] ++
    Tao.CameraState.all.map (cameraState intName)

def cameraStates (s : Source) : Except Violation (List Declaration) :=
  (s.typeName .nativeCall s.platform.cInt).map cameraStatesOf

/-- All sections, in order. -/
def sections (s : Source) : List (Except Violation (List Declaration)) :=
  [.ok s.header,
    .ok s.libraryPath,
    s.status,
    s.sharedMemory,
    s.enumerationType,
    .ok s.objectTypes,
    .ok s.capacities,
    .ok s.elementUnion,
    .ok s.elementTuple,
    s.elementDispatch,
    .ok s.elementTable,
    s.timespec,
    s.cameraStates]

/-- The declarations of the bindings, without a check of the platform. -/
def declarations (s : Source) : Except Violation (List Declaration) := do
  return (← s.sections.mapM id).flatten

/-- Append the sections to a file, one after the other. The first that fails ends the emission. -/
def emit (s : Source) (a : Artifact) : Except Violation Artifact :=
  s.sections.foldlM (fun a part => part.map a.append) a

/-- The bindings of an acceptable platform. -/
def artifact (s : Source) : Except Violation Artifact := do
  s.platform.checkWidths
  return ⟨← s.declarations⟩

end Source

end AbiBindings.Bindings
