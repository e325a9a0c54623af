/-!
# Values of configuration documents

A document is a table of values. Tables and arrays remember how they were written, since that decides
what may be added to them later.
-/

namespace AbiBindings.Toml

structure Date where
  year : Nat
  month : Nat
  day : Nat
  deriving DecidableEq

structure Time where
  hour : Nat
  minute : Nat
  second : Nat
  /-- The digits after the decimal point, if there is one. -/
  fraction : List Char
  deriving DecidableEq

/-- The difference from universal time. -/
inductive Offset where
  | zero
  | east (hours minutes : Nat)
  | west (hours minutes : Nat)
  deriving DecidableEq

/-- A date, a time of day, or both, the latter perhaps with an offset. -/
inductive Moment where
  | date (date : Date)
  | time (time : Time)
  | dateTime (date : Date) (time : Time) (offset : Option Offset)
  deriving DecidableEq

/-- A floating-point number as it is written, before any rounding. -/
inductive Decimal where
  | nan
  | infinity (negative : Bool)
  /-- The digits times a power of ten. -/
  | finite (negative : Bool) (digits : Nat) (exponent : Int)
  deriving DecidableEq

/-- How a table came to be. -/
inductive TableOrigin where
  /-- By a header of its own, or as an element of an array of tables. -/
  | header
  /-- On the way to the table of a longer header. -/
  | implied
  /-- On the way to the key of a dotted path. -/
  | dotted
  /-- Written between braces. -/
  | inline
  deriving DecidableEq

/-- How an array came to be. -/
inductive ArrayOrigin where
  /-- By headers, each of which adds a table. -/
  | headers
  /-- Written between brackets. -/
  | inline
  deriving DecidableEq

inductive Value where
  | text (value : String)
  | integer (value : Int)
  | decimal (value : Decimal)
  | boolean (value : Bool)
  | moment (value : Moment)
  | array (origin : ArrayOrigin) (items : List Value)
  | table (origin : TableOrigin) (entries : List (String × Value))

/-- The content of a table, in the order of first appearance. -/
abbrev Entries := List (String × Value)

/-- A path of keys: the tables on the way, then the key itself. -/
structure KeyPath where
  parents : List String
  last : String
  deriving DecidableEq

end AbiBindings.Toml
