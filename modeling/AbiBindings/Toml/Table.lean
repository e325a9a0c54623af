import AbiBindings.Toml.Value

/-!
# Building tables

A key can be given a value once. Tables can be extended only by what fits the way they came to be: a
dotted path goes through tables that were made by dotted paths or implied by headers, and ends in one
made by a dotted path; a header goes through any table that is not written between braces, and opens
a table that is new or only implied. Both go through the last table of an array of tables.
-/

namespace AbiBindings.Toml.Entries

/-- The value of a key. -/
def get? (entries : Entries) (key : String) : Option Value :=
  (List.find? (fun entry => entry.1 == key) entries).map (·.2)

/-- Give a new value to a key that is present. -/
def replace (entries : Entries) (key : String) (value : Value) : Entries :=
  entries.map fun entry => if entry.1 == key then (key, value) else entry

/-- Give a value to a key that is not present. -/
def add? (entries : Entries) (key : String) (value : Value) : Option Entries :=
  match entries.get? key with
  | some _ => none
  | none => some (entries ++ [(key, value)])

/-- Change the last table of an array of tables. -/
def changeLast? (change : Entries → Option Entries) (items : List Value) :
    Option (List Value) :=
  match items.getLast? with
  | some (.table origin inner) => do
    let inner ← change inner
    return items.dropLast ++ [.table origin inner]
  | _ => none

/-- Give a value to the key at the end of a dotted path. -/
def insertDotted? (last : String) (value : Value) : List String → Entries → Option Entries
  | [], entries => entries.add? last value
  | key :: rest, entries =>
    match entries.get? key with
    | none => do
      let inner ← insertDotted? last value rest []
      return entries ++ [(key, .table .dotted inner)]
    | some (.table .dotted inner) => do
      let inner ← insertDotted? last value rest inner
      return entries.replace key (.table .dotted inner)
    | some (.table .implied inner) => do
      if rest.isEmpty then none
      let inner ← insertDotted? last value rest inner
      return entries.replace key (.table .implied inner)
    | some (.array .headers items) => do
      if rest.isEmpty then none
      let items ← changeLast? (insertDotted? last value rest) items
      return entries.replace key (.array .headers items)
    | some _ => none

/-- Change the table that the path of a header leads to, making the tables that are missing. -/
def changeAt? (change : Entries → Option Entries) : List String → Entries → Option Entries
  | [], entries => change entries
  | key :: rest, entries =>
    match entries.get? key with
    | none => do
      let inner ← changeAt? change rest []
      return entries ++ [(key, .table .implied inner)]
    | some (.table .inline _) => none
    | some (.table origin inner) => do
      let inner ← changeAt? change rest inner
      return entries.replace key (.table origin inner)
    | some (.array .headers items) => do
      let items ← changeLast? (changeAt? change rest) items
      return entries.replace key (.array .headers items)
    | some _ => none

/-- Open the table of a header. -/
def openTable? (key : String) (entries : Entries) : Option Entries :=
  match entries.get? key with
  | none => some (entries ++ [(key, .table .header [])])
  | some (.table .implied inner) => some (entries.replace key (.table .header inner))
  | some _ => none

/-- Add a table to the array of tables of a header. -/
def openElement? (key : String) (entries : Entries) : Option Entries :=
  match entries.get? key with
  | none => some (entries ++ [(key, .array .headers [.table .header []])])
  | some (.array .headers items) =>
    some (entries.replace key (.array .headers (items ++ [.table .header []])))
  | some _ => none

/-- The content of a table between braces. -/
def ofPairs? (pairs : List (KeyPath × Value)) : Option Entries :=
  pairs.foldlM (fun entries pair => entries.insertDotted? pair.1.last pair.2 pair.1.parents) []

end AbiBindings.Toml.Entries
