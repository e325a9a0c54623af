import AbiBindings.Toml.Number

/-!
# Written dates and times

A date has a year of four digits and a day that its month has; a time has seconds, of which a minute
may have sixty-one. A date and a time are joined by the letter T or by a single blank.
-/

namespace AbiBindings.Toml

def isLeapYear (year : Nat) : Bool :=
  year % 4 == 0 && (year % 100 != 0 || year % 400 == 0)

/-- How many days a month has. -/
def daysIn (year month : Nat) : Nat :=
  if month = 2 then (if isLeapYear year then 29 else 28)
  else if month = 4 ∨ month = 6 ∨ month = 9 ∨ month = 11 then 30
  else 31

/-- A date at the start of a word. -/
def readDate : List Char → Option (Date × List Char)
  | y1 :: y2 :: y3 :: y4 :: '-' :: m1 :: m2 :: '-' :: d1 :: d2 :: rest => do
    let year ← Text.decimal? [y1, y2, y3, y4]
    let month ← Text.decimal? [m1, m2]
    let day ← Text.decimal? [d1, d2]
    if 1 ≤ month ∧ month ≤ 12 ∧ 1 ≤ day ∧ day ≤ daysIn year month then
      some (⟨year, month, day⟩, rest)
    else none
  | _ => none

/-- The digits of a fraction of a second at the start of a word; a point must be followed by some. -/
def readFraction : List Char → Option (List Char × List Char)
  | '.' :: rest =>
    let digits := rest.takeWhile Text.isDecimalDigit
    if digits.isEmpty then none else some (digits, rest.dropWhile Text.isDecimalDigit)
  | rest => some ([], rest)

/-- A time of day at the start of a word. -/
def readTime : List Char → Option (Time × List Char)
  | h1 :: h2 :: ':' :: m1 :: m2 :: ':' :: s1 :: s2 :: rest => do
    let hour ← Text.decimal? [h1, h2]
    let minute ← Text.decimal? [m1, m2]
    let second ← Text.decimal? [s1, s2]
    let (fraction, rest) ← readFraction rest
    if hour ≤ 23 ∧ minute ≤ 59 ∧ second ≤ 60 then
      some (⟨hour, minute, second, fraction⟩, rest)
    else none
  | _ => none

/-- The offset that makes up a whole word; the empty word is a local time. -/
def offset? : List Char → Option (Option Offset)
  | [] => some none
  | ['Z'] | ['z'] => some (some .zero)
  | [sign, h1, h2, ':', m1, m2] => do
    let hours ← Text.decimal? [h1, h2]
    let minutes ← Text.decimal? [m1, m2]
    if 23 < hours ∨ 59 < minutes then none
    else if sign = '+' then some (some (.east hours minutes))
    else if sign = '-' then some (some (.west hours minutes))
    else none
  | _ => none

/-- The time and offset that make up a whole word, on a given date. -/
def dateTime? (date : Date) (word : List Char) : Option Moment := do
  let (time, rest) ← readTime word
  let offset ← offset? rest
  return .dateTime date time offset

/-- The moment that a word writes without a blank in it. -/
def moment? (word : List Char) : Option Moment :=
  match readDate word with
  | some (date, []) => some (.date date)
  | some (date, mark :: rest) => if mark = 'T' ∨ mark = 't' then dateTime? date rest else none
  | none =>
    match readTime word with
    | some (time, []) => some (.time time)
    | _ => none

end AbiBindings.Toml
