import AbiBindings.Generation
import AbiBindings.Log.Filter
import AbiBindings.Settings.Reader

/-!
# The command line

The program takes at most one argument, which can only ask for help. Arguments are bytes that need
not be valid text. Without an argument the bindings of the host are written to standard output.
-/

namespace AbiBindings.CommandLine

abbrev Argument := List UInt8

/-- Why a command line is refused. -/
inductive Refusal where
  /-- More arguments than one, or the lone end-of-options mark; all of them, with blanks between. -/
  | extra (arguments : String)
  | unexpected (argument : String)
  /-- The help option does not take a value. -/
  | unexpectedValue (value : String)
  | repeatedHelp
  deriving DecidableEq

/-- What opens every error text. -/
def errorLabel : String :=
  Text.graphic "1;31" "error:" ++ " "

/-- The usage that ends the text for arguments in excess. -/
def usageNote : String :=
  "\n\n" ++ Text.graphic "1;4" "Usage:" ++ " " ++ Text.graphic "1" "gendeps"

/-- The error text as it is made for a terminal. -/
def Refusal.text (r : Refusal) : String :=
  errorLabel ++
    (match r with
    | extra arguments => "unexpected argument '" ++ arguments ++ "'" ++ usageNote
    | unexpected argument => "unexpected argument '" ++ Text.graphic "33" argument ++ "' found"
    | unexpectedValue value =>
      "unexpected value '" ++ Text.graphic "33" value ++ "' for '" ++ Text.graphic "1" "--help" ++
        "' found; no more were expected"
    | repeatedHelp =>
      "the argument '" ++ Text.graphic "33" "--help" ++ "' cannot be used multiple times") ++
    "\n"

/-- The first line of the error text without its control sequences, of which the arguments may hold
some too. -/
def Refusal.message (r : Refusal) : String :=
  Text.firstLine (Text.Terminal.visible r.text)

/-- What a command line asks for. -/
inductive Request where
  | generate
  | help
  deriving DecidableEq

/-- The byte of an ASCII character. -/
def byte (c : Char) : UInt8 :=
  UInt8.ofNat c.toNat

/-- An option with a long name, without the two dashes: a name, then perhaps a value. -/
def readLong (option : Argument) : Except Refusal Request :=
  let name := option.takeWhile (· != byte '=')
  if name ≠ Text.utf8 "help" then .error (.unexpected ("--" ++ Text.lossy name))
  else
    match option.drop name.length with
    | [] => .ok .help
    | _ :: value => .error (.unexpectedValue (Text.lossy value))

/-- One-letter options, without the dash: the letter for help once and nothing else. The first
unknown letter is named, or everything that follows if that is no text. -/
def readShort (letters : Argument) : Except Refusal Request :=
  let known := letters.takeWhile (· == byte 'h')
  if 1 < known.length then .error .repeatedHelp
  else
    match Text.decode (letters.drop known.length) with
    | [] => .ok .help
    | some c :: _ => .error (.unexpected (String.ofList ['-', c]))
    | parts => .error (.unexpected ("-" ++ Text.showParts parts))

/-- A single argument. -/
def readArgument (argument : Argument) : Except Refusal Request :=
  match argument with
  | first :: second :: rest =>
    if first ≠ byte '-' then .error (.unexpected (Text.lossy argument))
    else if second = byte '-' then readLong rest
    else readShort (second :: rest)
  | _ => .error (.unexpected (Text.lossy argument))

/-- The mark that ends the options. -/
def endOfOptions : Argument := Text.utf8 "--"

/-- A command line, starting with the name of the program. -/
def parse : List Argument → Except Refusal Request
  | [] | [_] => .ok .generate
  | [_, argument] =>
    if argument = endOfOptions then .error (.extra (Text.lossy argument))
    else readArgument argument
  | _ :: arguments => .error (.extra (String.intercalate " " (arguments.map Text.lossy)))

/-- The final component of a path. Trailing slashes and single dots do not count, and a path that
ends in two dots has none. -/
def fileName? (path : Argument) : Option String :=
  let components := Text.split (byte '/') path
  match components.filter (fun c => c ≠ [] ∧ c ≠ Text.utf8 ".") |>.getLast? with
  | none => none
  | some name => if name = Text.utf8 ".." then none else some (Text.lossy name)

/-- The name of the program in the usage line. -/
def programName (program : Option Argument) : String :=
  (program.bind fileName?).getD "gendeps"

def usage (program : String) : String :=
  "Usage: " ++ program ++ " [--help|-h]"

/-- What a run of the program leaves behind. -/
structure Outcome where
  code : Nat
  output : List UInt8
  errors : String

def succeed (output : List UInt8) (errors : String) : Outcome := ⟨0, output, errors⟩

def fail (output : List UInt8) (errors : String) : Outcome := ⟨1, output, errors⟩

def missingLibrary (settings : Settings) : Diagnostic :=
  Diagnostic.new .warning
      (settings.library.name ++ " library not found at " ++ settings.library.path)
    |>.add (.context "the generated bindings load the library from this path")
    |>.add (.suggestion "Rebuild gendeps with TAO_DLL set to the installed library")

/-- What is said when not everything could be written. -/
def writingFailed (cause : String) : String :=
  "error: " ++ GenerationError.writing.message ++ ": " ++ cause ++ "\n"

/-- Generate the bindings of the host with the given settings. The library is looked for only after
everything has been written. -/
def generate (settings : Settings) (sink : Sink) (coloured libraryFound : Bool) : Outcome :=
  let run := Generation.ofHost settings sink
  let log := (Log.Filter.ofSettings settings).text run.events
  match run.result with
  | .ok _ =>
    succeed run.received
      (log ++ if libraryFound then "" else (missingLibrary settings).render coloured)
  | .error (.violation v) => fail run.received (log ++ v.toDiagnostic.render coloured)
  | .error .writing => fail run.received (log ++ writingFailed sink.cause)

/-- The whole program. Its own settings are well formed, so the report of a mistake in them
gives no cause. -/
def run (arguments : List Argument) (coloured libraryFound : Bool) (sink : Sink) : Outcome :=
  let usageLine := usage (programName arguments.head?) ++ "\n"
  match parse arguments with
  | .error _ => fail [] usageLine
  | .ok .help => succeed [] usageLine
  | .ok .generate =>
    match Settings.builtIn with
    | .error e => fail [] ("error: invalid built-in configuration: " ++ e.message ++ "\n")
    | .ok settings => generate settings sink coloured libraryFound

end AbiBindings.CommandLine
