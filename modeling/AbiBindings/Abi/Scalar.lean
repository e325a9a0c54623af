import AbiBindings.Abi.Representation

/-!
# Measuring scalars

A scalar is known only by how it reads a pattern of bits: as a natural number, in two's complement,
or as a binary floating-point number. It is measured by reading the pattern in which every bit is
set: such a floating-point value is not a number, a signed one lies below zero, and an unsigned one
does not. The scalar types of C are stored as scalars of the host.
-/

namespace AbiBindings

/-- How the bits of a scalar are read. -/
inductive Encoding where
  | unsigned
  | twosComplement
  /-- A sign bit, then an exponent and a fraction of the given numbers of bits. -/
  | binaryFloat (exponentBits fractionBits : Nat)
  deriving DecidableEq

structure Scalar where
  /-- The width in bytes. -/
  width : Nat
  encoding : Encoding
  deriving DecidableEq

/-- The two's-complement reading of the lowest `bits` bits of a pattern. -/
def twosComplement (bits pattern : Nat) : Int :=
  Int.bmod pattern (1 <<< bits)

/-- The reading of a floating-point pattern as a multiple of the least positive value. An infinity
reads as the first magnitude past the largest finite one, so that readings keep the order of values;
a pattern that is not a number has no reading. -/
def floatReading? (exponentBits fractionBits pattern : Nat) : Option Int :=
  let fraction := pattern % (1 <<< fractionBits)
  let exponent := (pattern >>> fractionBits) % (1 <<< exponentBits)
  let negative := (pattern >>> (fractionBits + exponentBits)) % 2 == 1
  if exponent == (1 <<< exponentBits) - 1 && fraction != 0 then none
  else
    let magnitude : Nat :=
      if exponent == 0 then fraction
      else ((1 <<< fractionBits) + fraction) <<< (exponent - 1)
    some (if negative then -magnitude else magnitude)

namespace Scalar

def signed (width : Nat) : Scalar := ⟨width, .twosComplement⟩

def unsigned (width : Nat) : Scalar := ⟨width, .unsigned⟩

def binary32 : Scalar := ⟨4, .binaryFloat 8 23⟩

def binary64 : Scalar := ⟨8, .binaryFloat 11 52⟩

/-- The pattern with every bit set. -/
def allOnes (s : Scalar) : Nat :=
  (1 <<< (8 * s.width)) - 1

/-- The value of a pattern, in a scale that keeps the order of values. -/
def read? (s : Scalar) (pattern : Nat) : Option Int :=
  match s.encoding with
  | .unsigned => some pattern
  | .twosComplement => some (twosComplement (8 * s.width) pattern)
  | .binaryFloat exponentBits fractionBits => floatReading? exponentBits fractionBits pattern

/-- The class that the pattern with every bit set gives away. -/
def measuredClass (s : Scalar) : NumberClass :=
  match s.read? s.allOnes with
  | none => .float
  | some value => .ofSigned (value < 0)

def measure (s : Scalar) : Except Violation Representation :=
  Representation.ofSize s.width s.measuredClass

end Scalar

/-- The scalar types of C. -/
inductive CScalar where
  | char
  | signedChar
  | unsignedChar
  | short
  | unsignedShort
  | int
  | unsignedInt
  | long
  | unsignedLong
  | longLong
  | unsignedLongLong
  | ptrdiff
  | size
  | float
  | double
  deriving DecidableEq

/-- How the host stores a C type: in little-endian order, with eight bytes for `long` and pointers,
and plain `char` signed. -/
def CScalar.onHost : CScalar → Scalar
  | char | signedChar => .signed 1
  | unsignedChar => .unsigned 1
  | short => .signed 2
  | unsignedShort => .unsigned 2
  | int => .signed 4
  | unsignedInt => .unsigned 4
  | long | longLong | ptrdiff => .signed 8
  | unsignedLong | unsignedLongLong | size => .unsigned 8
  | float => .binary32
  | double => .binary64

/-- The layout of a field whose owner and member have the given addresses. -/
def measureField (owner field : String) (base member : UInt64) (s : Scalar) :
    Except Violation FieldLayout := do
  let repr ← s.measure
  return { owner, field, offset := (member - base).toNat, repr }

end AbiBindings
