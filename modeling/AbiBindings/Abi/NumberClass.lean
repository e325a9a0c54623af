/-!
# Numeric classes

A native scalar is a signed integer, an unsigned integer or a floating-point number. Each class has
the widths in bytes that a Julia built-in type exists for.
-/

namespace AbiBindings

inductive NumberClass where
  | signed
  | unsigned
  | float
  deriving DecidableEq

namespace NumberClass

/-- The integer class of the given signedness. -/
def ofSigned (isSigned : Bool) : NumberClass :=
  if isSigned then signed else unsigned

def isInteger : NumberClass → Bool
  | float => false
  | _ => true

def name : NumberClass → String
  | signed => "signed"
  | unsigned => "unsigned"
  | float => "float"

/-- The widths, in bytes, of the built-in types of a class. -/
def widths : NumberClass → List Nat
  | float => [2, 4, 8]
  | _ => [1, 2, 4, 8, 16]

end NumberClass

end AbiBindings
