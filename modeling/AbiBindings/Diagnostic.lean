import AbiBindings.Text.Terminal

/-!
# Messages for the user

A diagnostic has a severity, a message, at most one location, context lines and numbered
suggestions. It is built by steps, and written either plainly or with terminal colours. Colours
surround the severity and the word `help` only.
-/

namespace AbiBindings

inductive Severity where
  | error
  | warning
  deriving DecidableEq

namespace Severity

def name : Severity → String
  | error => "error"
  | warning => "warning"

/-- The select-graphic-rendition parameters of a severity: bold red or bold yellow. -/
def colour : Severity → String
  | error => "1;31"
  | warning => "1;33"

end Severity

structure Diagnostic where
  severity : Severity
  message : String
  context : List String
  suggestions : List String
  location : Option String
  deriving DecidableEq

namespace Diagnostic

/-- What can be added to a diagnostic after its message. -/
inductive Step where
  | context (text : String)
  | suggestion (text : String)
  | location (text : String)
  deriving DecidableEq

def new (severity : Severity) (message : String) : Diagnostic where
  severity := severity
  message := message
  context := []
  suggestions := []
  location := none

/-- Contexts and suggestions accumulate in order; the last location given is the one kept. -/
def add (d : Diagnostic) : Step → Diagnostic
  | .context text => { d with context := d.context ++ [text] }
  | .suggestion text => { d with suggestions := d.suggestions ++ [text] }
  | .location text => { d with location := some text }

def addAll (d : Diagnostic) (steps : List Step) : Diagnostic :=
  steps.foldl add d

/-- A word, bold and coloured by the given parameters if colours are wanted. -/
def paint (coloured : Bool) (parameters word : String) : String :=
  if coloured then Text.graphic parameters word else word

def headingLine (coloured : Bool) (d : Diagnostic) : String :=
  paint coloured d.severity.colour d.severity.name ++ ": " ++ d.message ++ "\n"

def locationLine : Option String → String
  | none => ""
  | some text => "  --> " ++ text ++ "\n"

def contextLine (text : String) : String :=
  "  = " ++ text ++ "\n"

def suggestionLine (number : Nat) (text : String) : String :=
  "  " ++ toString number ++ ". " ++ text ++ "\n"

/-- The suggestion lines, numbered upwards from `number`. -/
def suggestionLines (number : Nat) : List String → String
  | [] => ""
  | text :: rest => suggestionLine number text ++ suggestionLines (number + 1) rest

/-- The block that ends a diagnostic with suggestions; without any it is empty. -/
def helpBlock (coloured : Bool) : List String → String
  | [] => ""
  | suggestions =>
    "\n" ++ paint coloured "1;32" "help" ++ ": consider:\n" ++ suggestionLines 1 suggestions

/-- The written form: heading, location, context lines, then the suggestions. -/
def render (coloured : Bool) (d : Diagnostic) : String :=
  headingLine coloured d ++ locationLine d.location ++
    String.join (d.context.map contextLine) ++ helpBlock coloured d.suggestions

end Diagnostic

end AbiBindings
