import AbiBindings.Abi.Scalar

/-!
# Measuring enumerations

An enumeration is measured from the bytes stored for some of its members, least significant byte
first. It is signed if one of them reads as a negative number in two's complement.
-/

namespace AbiBindings

/-- The natural number whose base-256 digits are the given bytes, least significant first. -/
def littleEndian : List UInt8 → Nat
  | [] => 0
  | b :: rest => b.toNat + 256 * littleEndian rest

/-- The lowest `width` bytes of an integer in two's complement, least significant first. -/
def storedBytes : (width : Nat) → Int → List UInt8
  | 0, _ => []
  | width + 1, value => UInt8.ofNat (value % 256).toNat :: storedBytes width (value / 256)

theorem length_storedBytes (width : Nat) (value : Int) :
    (storedBytes width value).length = width := by
  induction width generalizing value with
  | zero => rfl
  | succ width ih => simp [storedBytes, ih]

/-- A member of an enumeration of the given width, as its stored bytes. -/
abbrev StoredMember (width : Nat) := { bytes : List UInt8 // bytes.length = width }

def StoredMember.ofValue (width : Nat) (value : Int) : StoredMember width :=
  ⟨storedBytes width value, length_storedBytes width value⟩

/-- The stored bytes read as a signed integer, for the widths that integers come in. -/
def StoredMember.reading? {width : Nat} (member : StoredMember width) : Option Int :=
  match width with
  | 1 | 2 | 4 | 8 | 16 => some (twosComplement (8 * width) (littleEndian member.val))
  | _ => none

/-- Whether one of the members reads as negative. A width without a reading is reported for the
first member. -/
def anyNegative {width : Nat} : List (StoredMember width) → Except Violation Bool
  | [] => .ok false
  | member :: rest =>
    match member.reading? with
    | none => .error (.unrepresentableWidth width .signed)
    | some value => (anyNegative rest).map fun later => decide (value < 0) || later

/-- The representation of an enumeration of the given width, from some of its members. -/
def measureEnumeration {width : Nat} (members : List (StoredMember width)) :
    Except Violation Representation := do
  let isSigned ← anyNegative members
  Representation.ofSize width (.ofSigned isSigned)

/-- The width that the host gives to every enumeration, in bytes. -/
def hostEnumerationWidth : Nat := 4

/-- The representation, on the host, of an enumeration with the given member values. -/
def measureHostEnumeration (values : List Int) : Except Violation Representation :=
  measureEnumeration (values.map (StoredMember.ofValue hostEnumerationWidth))

end AbiBindings
