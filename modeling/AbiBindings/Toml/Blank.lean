/-!
# Blanks, comments and line ends

A line ends with a line feed, with or without a carriage return before it; a carriage return on its
own is nowhere allowed. Comments hold any characters but control characters other than the tab.
-/

namespace AbiBindings.Toml

/-- A reading step: what was read, and what follows it. -/
abbrev Reader (α : Type) := List Char → Option (α × List Char)

def isBlank (c : Char) : Bool :=
  c == ' ' || c == '\t'

/-- Any character but a control character; the tab is none in this sense. -/
def isPlain (c : Char) : Bool :=
  c == '\t' || (' ' ≤ c && c != '\x7f')

def skipBlanks (cs : List Char) : List Char :=
  cs.dropWhile isBlank

/-- What follows a line end, if one stands here. -/
def lineEnd? : List Char → Option (List Char)
  | '\n' :: rest => some rest
  | '\r' :: '\n' :: rest => some rest
  | _ => none

/-- What follows the comment that may stand here, up to the line end. -/
def skipComment : List Char → List Char
  | '#' :: rest => rest.dropWhile isPlain
  | cs => cs

/-- What follows the rest of a line on which nothing more is written, or of the last line. -/
def finishLine? (cs : List Char) : Option (List Char) :=
  match skipComment (skipBlanks cs) with
  | [] => some []
  | rest => lineEnd? rest

/-- Skip blanks, line ends and comments, as they may stand between the items of an array. The first
argument tells whether a comment has begun, which must be ended by a line end. -/
def skipFiller : (inComment : Bool) → List Char → Option (List Char)
  | _, '\n' :: rest => skipFiller false rest
  | _, '\r' :: '\n' :: rest => skipFiller false rest
  | true, c :: rest => if isPlain c then skipFiller true rest else none
  | true, [] => none
  | false, '#' :: rest => skipFiller true rest
  | false, '\r' :: _ => none
  | false, c :: rest => if isBlank c then skipFiller false rest else some (c :: rest)
  | false, [] => some []

end AbiBindings.Toml
