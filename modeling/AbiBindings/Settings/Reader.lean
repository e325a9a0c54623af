import AbiBindings.Julia.Token
import AbiBindings.Settings.Basic
import AbiBindings.Toml.Document

/-!
# Reading settings

Settings are read from a document with the sections `library`, `output` and `log`. What is missing
has its default, and unknown keys do not matter. A section may also be an array, which lists the
values in a fixed order. The settings read are then checked: names must not be empty, and what becomes
a Julia name must be an identifier.
-/

namespace AbiBindings

/-- Why a text holds no settings. -/
inductive SettingsError where
  /-- The text is no document, or a value has the wrong type. -/
  | malformed
  /-- A value that is needed is the empty text. -/
  | emptyValue (key : String)
  | notIdentifier
  deriving DecidableEq

def SettingsError.message : SettingsError → String
  | malformed => "failed to parse generator configuration"
  | emptyValue key => "invalid generator configuration: `" ++ key ++ "` must not be empty"
  | notIdentifier =>
    "invalid generator configuration: " ++
      "`library.module` and `library.path_constant` must be Julia identifiers"

namespace Settings

/-- A section, as it is looked into. -/
inductive Section where
  | keyed (entries : Toml.Entries)
  | positional (items : List Toml.Value)

namespace Section

/-- A table or an array. A moment is as good as an empty table. -/
def ofValue? : Toml.Value → Option Section
  | .table _ entries => some (keyed entries)
  | .array _ items => some (positional items)
  | .moment _ => some (keyed [])
  | _ => none

/-- The section of the given name, empty if it is missing. -/
def ofDocument? (document : Toml.Entries) (name : String) : Option Section :=
  match document.get? name with
  | none => some (keyed [])
  | some value => ofValue? value

/-- The value at a key, or at the position of that key. -/
def get? (s : Section) (position : Nat) (key : String) : Option Toml.Value :=
  match s with
  | keyed entries => entries.get? key
  | positional items => items[position]?

/-- A text, which has the given default; nothing if the value is of another type. -/
def text? (s : Section) (position : Nat) (key default : String) : Option String :=
  match s.get? position key with
  | none => some default
  | some (.text value) => some value
  | some _ => none

/-- A natural number, which has the given default; nothing if the value is none. -/
def natural? (s : Section) (position : Nat) (key : String) (default : Nat) : Option Nat :=
  match s.get? position key with
  | none => some default
  | some (.integer value) => if 0 ≤ value then some value.toNat else none
  | some _ => none

end Section

def readLibrary? (s : Section) : Option LibrarySettings := do
  let initial : LibrarySettings := {}
  return {
    name := ← s.text? 0 "name" initial.name
    path := ← s.text? 1 "path" initial.path
    juliaModule := ← s.text? 2 "module" initial.juliaModule
    pathConstant := ← s.text? 3 "path_constant" initial.pathConstant }

def readOutput? (s : Section) : Option OutputSettings := do
  let initial : OutputSettings := {}
  return {
    fileName := ← s.text? 0 "file_name" initial.fileName
    itemsPerLine := ← s.natural? 1 "items_per_line" initial.itemsPerLine }

def readLog? (s : Section) : Option LogSettings := do
  let initial : LogSettings := {}
  return { level := ← s.text? 0 "level" initial.level }

/-- The settings of a document, unchecked. -/
def ofDocument? (document : Toml.Entries) : Option Settings := do
  let library ← Section.ofDocument? document "library"
  let output ← Section.ofDocument? document "output"
  let log ← Section.ofDocument? document "log"
  return { library := ← readLibrary? library, output := ← readOutput? output, log := ← readLog? log }

/-- The texts that must not be empty, with their keys, in the order in which they are checked. -/
def neededValues (s : Settings) : List (String × String) :=
  [("library.name", s.library.name),
    ("library.path", s.library.path),
    ("library.module", s.library.juliaModule),
    ("library.path_constant", s.library.pathConstant)]

/-- Accept settings, or name the first thing that is wrong with them. -/
def check (s : Settings) : Except SettingsError Unit :=
  match s.neededValues.find? fun entry => entry.2 == "" with
  | some (key, _) => .error (.emptyValue key)
  | none =>
    if Julia.isIdentifier s.library.juliaModule && Julia.isIdentifier s.library.pathConstant then
      .ok ()
    else .error .notIdentifier

/-- Read settings and check them. -/
def parse (text : String) : Except SettingsError Settings :=
  match (Toml.read? text).bind ofDocument? with
  | none => .error .malformed
  | some settings => do
    settings.check
    return settings

/-- The document with the settings of the program itself. -/
def builtInText : String :=
  String.join [
    "# Settings compiled into `gendeps`.\n",
    "\n",
    "[library]\n",
    "name = \"TAO\"\n",
    "path = \"/usr/local/lib/libtao.so\"\n",
    "module = \"TaoBindings\"\n",
    "path_constant = \"taolib\"\n",
    "\n",
    "[output]\n",
    "file_name = \"deps.jl\"\n",
    "items_per_line = 5\n",
    "\n",
    "[log]\n",
    "level = \"warn\"\n"]

def builtIn : Except SettingsError Settings :=
  parse builtInText

end Settings

end AbiBindings
