import AbiBindings.Text.Digits
import AbiBindings.Toml.Value

/-!
# Written numbers

Numbers are read from a whole word. Digits may be separated by single underscores. Decimal integers
have no leading zeros and fit 64 bits in two's complement, as do those in another base, which have
no sign. A floating-point number has a fraction, an exponent or both, and one that rounds to positive
infinity is refused.
-/

namespace AbiBindings.Toml

/-- The digits of a word in which single underscores may stand between two digits. -/
def separatedDigits? (isDigit : Char → Bool) : List Char → Option (List Char)
  | [] => none
  | [c] => if isDigit c then some [c] else none
  | c :: '_' :: rest =>
    if isDigit c then (separatedDigits? isDigit rest).map (c :: ·) else none
  | c :: rest =>
    if isDigit c then (separatedDigits? isDigit rest).map (c :: ·) else none

def isHexadecimalDigit (c : Char) : Bool :=
  (Text.hexDigit? c).isSome

def isOctalDigit (c : Char) : Bool :=
  '0' ≤ c && c ≤ '7'

def isBinaryDigit (c : Char) : Bool :=
  c == '0' || c == '1'

/-- A sign in front of a word: whether it is a minus, and the rest. -/
def splitSign : List Char → Bool × List Char
  | '+' :: rest => (false, rest)
  | '-' :: rest => (true, rest)
  | cs => (false, cs)

def applySign (negative : Bool) (magnitude : Nat) : Int :=
  if negative then -magnitude else magnitude

/-- The digits of an unsigned decimal integer, which has no leading zeros. -/
def wholeDigits? : List Char → Option (List Char)
  | ['0'] => some ['0']
  | '0' :: _ => none
  | cs => separatedDigits? Text.isDecimalDigit cs

/-- An integer in range, or nothing. -/
def inRange? (value : Int) : Option Int :=
  if -0x8000000000000000 ≤ value ∧ value < 0x8000000000000000 then some value else none

/-- The integer that a word writes. -/
def integer? : List Char → Option Int
  | '0' :: 'x' :: digits => do
    let digits ← separatedDigits? isHexadecimalDigit digits
    inRange? (Text.digitsValue 16 digits)
  | '0' :: 'o' :: digits => do
    let digits ← separatedDigits? isOctalDigit digits
    inRange? (Text.digitsValue 8 digits)
  | '0' :: 'b' :: digits => do
    let digits ← separatedDigits? isBinaryDigit digits
    inRange? (Text.digitsValue 2 digits)
  | word => do
    let (negative, magnitude) := splitSign word
    let digits ← wholeDigits? magnitude
    inRange? (applySign negative (Text.digitsValue 10 digits))

/-- The least value that rounds to infinity among numbers of 53 significant bits: halfway between
the largest of them and the next power of two. -/
def overflowBound : Nat :=
  ((1 <<< 54) - 1) <<< 970

/-- Whether digits times a power of ten reach the bound. Sizes far from it are told apart by the
number of digits alone. -/
def overflows (digits : List Char) (exponent : Int) : Bool :=
  let digits := digits.dropWhile (· == '0')
  let magnitude := exponent + digits.length
  if digits.isEmpty || magnitude < 300 then false
  else if 400 < magnitude then true
  else
    overflowBound * Nat.pow 10 (-exponent).toNat ≤
      Text.digitsValue 10 digits * Nat.pow 10 exponent.toNat

/-- The exponent of a word that may start with an exponent mark. -/
def exponent? : List Char → Option Int
  | [] => some 0
  | mark :: rest =>
    if mark = 'e' ∨ mark = 'E' then do
      let (negative, magnitude) := splitSign rest
      let digits ← separatedDigits? Text.isDecimalDigit magnitude
      return applySign negative (Text.digitsValue 10 digits)
    else none

def isExponentMark (c : Char) : Bool :=
  c == 'e' || c == 'E'

/-- The digits after the point of a word that may start with a point. -/
def fraction? : List Char → Option (List Char)
  | [] => some []
  | '.' :: digits => separatedDigits? Text.isDecimalDigit digits
  | _ => none

/-- An unsigned number with a fraction or an exponent: its digits and the power of ten. -/
def scientific? (word : List Char) : Option (List Char × Int) := do
  let mantissa := word.takeWhile (!isExponentMark ·)
  let scale := word.dropWhile (!isExponentMark ·)
  let whole := mantissa.takeWhile (· != '.')
  let part := mantissa.dropWhile (· != '.')
  if scale.isEmpty ∧ part.isEmpty then none
  else
    let wholeDigits ← wholeDigits? whole
    let fractionDigits ← fraction? part
    let exponent ← exponent? scale
    return (wholeDigits ++ fractionDigits, exponent - fractionDigits.length)

/-- The floating-point number that a word writes. -/
def decimal? (word : List Char) : Option Decimal :=
  match splitSign word with
  | (negative, ['i', 'n', 'f']) => some (.infinity negative)
  | (_, ['n', 'a', 'n']) => some .nan
  | (negative, magnitude) => do
    let (digits, exponent) ← scientific? magnitude
    if !negative && overflows digits exponent then none
    else some (.finite negative (Text.digitsValue 10 digits) exponent)

end AbiBindings.Toml
