import AbiBindings.Toml.Moment
import AbiBindings.Toml.Table
import AbiBindings.Toml.Text

/-!
# Documents

A document is a sequence of statements, one to a line: a header, a header of an array of tables, or a
key with its value. Arrays may extend over lines; tables between braces may not. How deep values nest
is limited, and it is the remaining depth that the reader of values recurs on. The statements are
carried out in order. Pairs go to the table that was opened last, at first to the document itself.
-/

namespace AbiBindings.Toml

inductive Statement where
  | header (path : KeyPath)
  | element (path : KeyPath)
  | pair (path : KeyPath) (value : Value)

/-- The characters of words: numbers, dates, and the names of values. -/
def isWordChar (c : Char) : Bool :=
  isBareKeyChar c || c == '+' || c == '.' || c == ':'

/-- The value of a single word. -/
def wordValue? (word : List Char) : Option Value :=
  if word = ['t', 'r', 'u', 'e'] then some (.boolean true)
  else if word = ['f', 'a', 'l', 's', 'e'] then some (.boolean false)
  else
    match moment? word with
    | some m => some (.moment m)
    | none =>
      match decimal? word with
      | some d => some (.decimal d)
      | none => (integer? word).map .integer

/-- A word, or a date and a time with a blank between them. -/
def readWord (cs : List Char) : Option (Value × List Char) := do
  let value ← wordValue? (cs.takeWhile isWordChar)
  match value, cs.dropWhile isWordChar with
  | .moment (.date date), ' ' :: c :: rest =>
    if Text.isDecimalDigit c then
      let moment ← dateTime? date ((c :: rest).takeWhile isWordChar)
      return (.moment moment, (c :: rest).dropWhile isWordChar)
    else return (value, ' ' :: c :: rest)
  | value, rest => return (value, rest)

/-- The items of an array after its opening bracket, up to the closing one. A comma may follow the
last item. The first argument bounds the number of items. -/
def readItems (element : Reader Value) : (limit : Nat) → List Char →
    Option (List Value × List Char)
  | 0, _ => none
  | limit + 1, cs => do
    match ← skipFiller false cs with
    | ']' :: rest => return ([], rest)
    | cs =>
      let (value, rest) ← element cs
      match ← skipFiller false rest with
      | ']' :: rest => return ([value], rest)
      | ',' :: rest =>
        let (values, rest) ← readItems element limit rest
        return (value :: values, rest)
      | _ => none

/-- A path, an equals sign and a value. -/
def readPair (element : Reader Value) (cs : List Char) :
    Option ((KeyPath × Value) × List Char) := do
  let (path, rest) ← readPath cs
  match rest with
  | '=' :: rest =>
    let (value, rest) ← element (skipBlanks rest)
    return ((path, value), rest)
  | _ => none

/-- The pairs of a table between braces, up to the closing one; there is at least one. The first
argument bounds their number. -/
def readPairs (element : Reader Value) : (limit : Nat) → List Char →
    Option (List (KeyPath × Value) × List Char)
  | 0, _ => none
  | limit + 1, cs => do
    let (pair, rest) ← readPair element cs
    match skipBlanks rest with
    | '\x7d' :: rest => return ([pair], rest)
    | ',' :: rest =>
      let (pairs, rest) ← readPairs element limit rest
      return (pair :: pairs, rest)
    | _ => none

/-- A value, within which arrays and tables nest at most `depth` deep. -/
def readValue : (depth : Nat) → List Char → Option (Value × List Char)
  | _, '"' :: cs => do
    let (text, rest) ← readText ('"' :: cs)
    return (.text (String.ofList text), rest)
  | _, '\'' :: cs => do
    let (text, rest) ← readText ('\'' :: cs)
    return (.text (String.ofList text), rest)
  | depth + 1, '[' :: cs => do
    let (items, rest) ← readItems (readValue depth) (cs.length + 1) cs
    return (.array .inline items, rest)
  | depth + 1, '\x7b' :: cs => do
    match skipBlanks cs with
    | '\x7d' :: rest => return (.table .inline [], rest)
    | cs =>
      let (pairs, rest) ← readPairs (readValue depth) (cs.length + 1) cs
      let entries ← Entries.ofPairs? pairs
      return (.table .inline entries, rest)
  | _, cs => readWord cs

/-- A header in double brackets. -/
def readElementHeader (cs : List Char) : Option (Statement × List Char) := do
  match ← readPath cs with
  | (path, ']' :: ']' :: rest) => return (.element path, rest)
  | _ => none

/-- A header in brackets. -/
def readTableHeader (cs : List Char) : Option (Statement × List Char) := do
  match ← readPath cs with
  | (path, ']' :: rest) => return (.header path, rest)
  | _ => none

/-- The statement that starts here. -/
def readStatement : List Char → Option (Statement × List Char)
  | '[' :: '[' :: rest => readElementHeader rest
  | '[' :: rest => readTableHeader rest
  | cs => do
    let ((path, value), rest) ← readPair (readValue (nestingLimit - 1)) cs
    return (.pair path value, rest)

/-- The statements of a document. The first argument bounds the number of lines. -/
def readStatements : (limit : Nat) → List Char → Option (List Statement)
  | 0, _ => none
  | limit + 1, cs => do
    match skipBlanks cs with
    | [] => return []
    | cs =>
      match finishLine? cs with
      | some rest => readStatements limit rest
      | none =>
        let (statement, rest) ← readStatement cs
        let rest ← finishLine? rest
        let statements ← readStatements limit rest
        return statement :: statements

/-- A document in the making. -/
structure Draft where
  root : Entries
  /-- The path of the table that was opened last. -/
  current : List String

namespace Draft

def empty : Draft := ⟨[], []⟩

def carryOut? (draft : Draft) : Statement → Option Draft
  | .header path => do
    let root ← draft.root.changeAt? (Entries.openTable? path.last) path.parents
    return ⟨root, path.parents ++ [path.last]⟩
  | .element path => do
    let root ← draft.root.changeAt? (Entries.openElement? path.last) path.parents
    return ⟨root, path.parents ++ [path.last]⟩
  | .pair path value => do
    let root ← draft.root.changeAt? (Entries.insertDotted? path.last value path.parents) draft.current
    return { draft with root }

end Draft

/-- What follows a byte-order mark at the start of a text. -/
def skipByteOrderMark : List Char → List Char
  | '\ufeff' :: rest => rest
  | cs => cs

/-- The table that a text describes, unless there is a mistake in it. -/
def read? (text : String) : Option Entries := do
  let statements ← readStatements (text.length + 1) (skipByteOrderMark text.toList)
  let draft ← statements.foldlM Draft.carryOut? Draft.empty
  return draft.root

end AbiBindings.Toml
