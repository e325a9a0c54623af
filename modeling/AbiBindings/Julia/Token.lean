import AbiBindings.Text.CharacterClasses
import AbiBindings.Text.Digits

/-!
# Identifiers and literals

An identifier is an alphabetic character or an underscore, then such characters, numeric ones and
exclamation marks. Constants are written as literals. Integers are decimal. Bit patterns are
hexadecimal and filled up with zeros, since the number of digits gives such a literal its width. Text
is quoted so that nothing in it ends the literal or starts an interpolation.
-/

namespace AbiBindings.Julia

def isIdentifierStart (c : Char) : Bool :=
  Text.isAlphabetic c || c == '_'

def isIdentifierPart (c : Char) : Bool :=
  Text.isAlphabetic c || Text.isNumeric c || c == '_' || c == '!'

/-- The names that are accepted for modules and constants. -/
def isIdentifier (s : String) : Bool :=
  match s.toList with
  | [] => false
  | first :: rest => isIdentifierStart first && rest.all isIdentifierPart

inductive Literal where
  | int (value : Int)
  | bits (value : Nat)
  | text (value : String)
  deriving DecidableEq

namespace Literal

/-- A character inside quotes: a quote, a backslash and a dollar sign stand behind a backslash, and
a line feed is written as an escape. -/
def escapeChar (c : Char) : List Char :=
  if c = '"' ∨ c = '\\' ∨ c = '$' then ['\\', c]
  else if c = '\n' then ['\\', 'n']
  else [c]

def quote (s : String) : String :=
  String.ofList ('"' :: s.toList.flatMap escapeChar ++ ['"'])

/-- The written form; `width` is the least number of digits of a bit pattern. -/
def render (width : Nat) : Literal → String
  | int value => toString value
  | bits value => "0x" ++ String.ofList (Text.hexDigits width value)
  | text value => quote value

end Literal

end AbiBindings.Julia
