import AbiBindings.Text.Utf8

/-!
# Text for terminals

A terminal obeys control sequences instead of showing them. Such a sequence starts with the escape
character; what may follow depends on how it goes on. Reading is a machine that takes one character
at a time, and the visible part of a text is what it shows on the way. Control characters are never
shown, except for those that move to another place or line.
-/

namespace AbiBindings.Text

/-- The word between the sequences that turn the given graphic parameters on and everything off. -/
def graphic (parameters word : String) : String :=
  "\x1b[" ++ parameters ++ "m" ++ word ++ "\x1b[0m"

namespace Terminal

/-- Where the reader is. -/
inductive Mode where
  /-- Outside of any sequence. -/
  | ground
  /-- After the escape character. -/
  | escape
  /-- In a sequence of the escape character and intermediate characters. -/
  | intermediate
  /-- In a control sequence, which a character from the at sign on ends. -/
  | control
  /-- At the start of a device control string. -/
  | deviceEntry
  | deviceParameters
  | deviceIntermediate
  /-- In the body of a string, which only an escape character or the terminator ends. -/
  | body
  /-- In a command to the operating system, which the bell ends too. -/
  | command
  deriving DecidableEq

/-- The control characters that are shown as they are. -/
def isLayout (c : Char) : Bool :=
  c == '\t' || c == '\n' || c == '\x0c' || c == '\r'

/-- Whether one of the bytes of a character is the string terminator. -/
def hasTerminator (c : Char) : Bool :=
  (utf8 (String.singleton c)).contains 0x9C

/-- Whether a character is shown. Showing one ends every sequence. -/
def Mode.shows (m : Mode) (c : Char) : Bool :=
  match m with
  | ground => (' ' ≤ c && c != '\x7f') || isLayout c
  | escape | intermediate | control => isLayout c
  | _ => false

/-- Where a character leads that is not shown. -/
def Mode.next (m : Mode) (c : Char) : Mode :=
  if c = '\x1b' then escape
  else if c = '\x18' ∨ c = '\x1a' then ground
  else
    match m with
    | ground => ground
    | escape =>
      if ' ' ≤ c ∧ c ≤ '/' then intermediate
      else if c = '[' then control
      else if c = ']' then command
      else if c = 'P' then deviceEntry
      else if c = 'X' ∨ c = '^' ∨ c = '_' then body
      else if '0' ≤ c ∧ c ≤ '~' then ground
      else escape
    | intermediate => if '0' ≤ c ∧ c ≤ '~' then ground else intermediate
    | control => if '@' ≤ c ∧ c ≤ '~' then ground else control
    | deviceEntry =>
      if ' ' ≤ c ∧ c ≤ '/' then deviceIntermediate
      else if '0' ≤ c ∧ c ≤ '?' then deviceParameters
      else if '@' ≤ c ∧ c ≤ '~' then body
      else deviceEntry
    | deviceParameters =>
      if ' ' ≤ c ∧ c ≤ '/' then deviceIntermediate
      else if '<' ≤ c ∧ c ≤ '~' then body
      else deviceParameters
    | deviceIntermediate => if '0' ≤ c ∧ c ≤ '~' then body else deviceIntermediate
    | body => if hasTerminator c then ground else body
    | command => if c = '\x07' then ground else command

/-- What is shown of a text that is read from the given mode on. -/
def visibleFrom : Mode → List Char → List Char
  | _, [] => []
  | m, c :: rest => if m.shows c then c :: visibleFrom .ground rest else visibleFrom (m.next c) rest

/-- The text without its control sequences. -/
def visible (s : String) : String :=
  String.ofList (visibleFrom .ground s.toList)

end Terminal

end AbiBindings.Text
