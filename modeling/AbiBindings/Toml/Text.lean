import AbiBindings.Text.Digits
import AbiBindings.Toml.Blank
import AbiBindings.Toml.Value

/-!
# Written text and keys

Text is written between quotes or apostrophes. Between quotes a backslash starts an escape; between
apostrophes every character stands for itself. Tripled marks enclose text of several lines: a line
end right after the opening mark does not count, line ends are read as line feeds, and up to two
marks may stand right before the closing one. A key is a bare word or text in marks. A path joins keys
by points, with blanks around them if need be, and has a limited number of keys.
-/

namespace AbiBindings.Toml

/-- The number written by hexadecimal digits, most significant first, after those already read. -/
def hexValue? (value : Nat) : List Char → Option Nat
  | [] => some value
  | c :: rest => do
    let digit ← Text.hexDigit? c
    hexValue? (16 * value + digit) rest

/-- The character with a code point in hexadecimal; a surrogate is none. -/
def codePoint? (digits : List Char) : Option Char := do
  let value ← hexValue? 0 digits
  if value.isValidChar then some (Char.ofNat value) else none

/-- The character that a letter after a backslash stands for. -/
def escape? : Char → Option Char
  | 'b' => some '\x08'
  | 't' => some '\t'
  | 'n' => some '\n'
  | 'f' => some '\x0c'
  | 'r' => some '\r'
  | '"' => some '"'
  | '\\' => some '\\'
  | _ => none

/-- Put a character in front of what a reader found, if it found something. -/
def consRead (c : Char) : Option (List Char × List Char) → Option (List Char × List Char)
  | some (text, rest) => some (c :: text, rest)
  | none => none

/-- Text after an opening quote, up to the closing one. -/
def readQuoted : Reader (List Char)
  | [] => none
  | '"' :: rest => some ([], rest)
  | '\\' :: 'u' :: a :: b :: c :: d :: rest => do
    let char ← codePoint? [a, b, c, d]
    consRead char (readQuoted rest)
  | '\\' :: 'U' :: a :: b :: c :: d :: e :: f :: g :: h :: rest => do
    let char ← codePoint? [a, b, c, d, e, f, g, h]
    consRead char (readQuoted rest)
  | '\\' :: letter :: rest => do
    let char ← escape? letter
    consRead char (readQuoted rest)
  | c :: rest => if isPlain c ∧ c ≠ '\\' then consRead c (readQuoted rest) else none

/-- Text after an opening apostrophe, up to the closing one. -/
def readLiteral : Reader (List Char)
  | [] => none
  | '\'' :: rest => some ([], rest)
  | c :: rest => if isPlain c then consRead c (readLiteral rest) else none

/-- The marks right after a tripled mark: up to two of them belong to the text before it. -/
def closingMarks (mark : Char) : List Char → List Char × List Char
  | c :: d :: rest =>
    if c = mark ∧ d = mark then ([mark, mark], rest)
    else if c = mark then ([mark], d :: rest)
    else ([], c :: d :: rest)
  | [c] => if c = mark then ([mark], []) else ([], [c])
  | [] => ([], [])

/-- Whether nothing but blanks stands before the next line end. -/
def atLineEnd (cs : List Char) : Bool :=
  (lineEnd? (skipBlanks cs)).isSome

/-- Text after a tripled quote, up to the closing one. A backslash at the end of a line starts
trimming: blanks and line ends are left out up to the next other character. The first argument tells
whether trimming is on. -/
def readQuotedLines : (trimming : Bool) → Reader (List Char)
  | _, [] => none
  | _, '"' :: '"' :: '"' :: rest => some (closingMarks '"' rest)
  | trimming, '\n' :: rest =>
    if trimming then readQuotedLines true rest else consRead '\n' (readQuotedLines false rest)
  | trimming, '\r' :: '\n' :: rest =>
    if trimming then readQuotedLines true rest else consRead '\n' (readQuotedLines false rest)
  | _, '\\' :: 'u' :: a :: b :: c :: d :: rest => do
    let char ← codePoint? [a, b, c, d]
    consRead char (readQuotedLines false rest)
  | _, '\\' :: 'U' :: a :: b :: c :: d :: e :: f :: g :: h :: rest => do
    let char ← codePoint? [a, b, c, d, e, f, g, h]
    consRead char (readQuotedLines false rest)
  | _, '\\' :: letter :: rest =>
    if atLineEnd (letter :: rest) then readQuotedLines true (letter :: rest)
    else do
      let char ← escape? letter
      consRead char (readQuotedLines false rest)
  | trimming, c :: rest =>
    if trimming ∧ isBlank c then readQuotedLines true rest
    else if isPlain c ∧ c ≠ '\\' then consRead c (readQuotedLines false rest)
    else none

/-- Text after a tripled apostrophe, up to the closing one. -/
def readLiteralLines : Reader (List Char)
  | [] => none
  | '\'' :: '\'' :: '\'' :: rest => some (closingMarks '\'' rest)
  | '\n' :: rest => consRead '\n' (readLiteralLines rest)
  | '\r' :: '\n' :: rest => consRead '\n' (readLiteralLines rest)
  | c :: rest => if isPlain c then consRead c (readLiteralLines rest) else none

/-- Leave out a line end, if one stands here. -/
def skipLineEnd (cs : List Char) : List Char :=
  (lineEnd? cs).getD cs

/-- Text of one line, in either kind of marks. -/
def readLineText : Reader (List Char)
  | '"' :: rest => readQuoted rest
  | '\'' :: rest => readLiteral rest
  | _ => none

/-- Text of any kind. -/
def readText : Reader (List Char)
  | '"' :: '"' :: '"' :: rest => readQuotedLines false (skipLineEnd rest)
  | '\'' :: '\'' :: '\'' :: rest => readLiteralLines (skipLineEnd rest)
  | cs => readLineText cs

/-- Paths of this many keys, and values nested this deep, are refused. -/
def nestingLimit : Nat := 80

def isBareKeyChar (c : Char) : Bool :=
  ('a' ≤ c && c ≤ 'z') || ('A' ≤ c && c ≤ 'Z') || ('0' ≤ c && c ≤ '9') || c == '-' || c == '_'

def readKey (cs : List Char) : Option (String × List Char) :=
  match readLineText cs with
  | some (text, rest) => some (String.ofList text, rest)
  | none =>
    let word := cs.takeWhile isBareKeyChar
    if word.isEmpty then none else some (String.ofList word, cs.dropWhile isBareKeyChar)

/-- The keys of a path, with the blanks around them; the first argument bounds their number. -/
def readKeys : (limit : Nat) → List Char → Option (List String × List Char)
  | 0, _ => none
  | limit + 1, cs => do
    let (key, rest) ← readKey (skipBlanks cs)
    match skipBlanks rest with
    | '.' :: rest =>
      let (keys, rest) ← readKeys limit rest
      return (key :: keys, rest)
    | rest => return ([key], rest)

/-- A path of keys, with the blanks around it. -/
def readPath (cs : List Char) : Option (KeyPath × List Char) := do
  let (keys, rest) ← readKeys (nestingLimit - 1) cs
  let last ← keys.getLast?
  return (⟨keys.dropLast, last⟩, rest)

end AbiBindings.Toml
