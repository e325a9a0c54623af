import AbiBindings.Abi.Scalar

/-!
# Element types of shared arrays

The element types form an ordered table. An entry's identifier is its position, counted from one;
the code that the library gives to it is a value of its own and need not agree with the position.
In the library's own table the two do agree.
-/

namespace AbiBindings.Tao

structure ElementType where
  /-- The symbolic name, such as `INT8`. -/
  name : String
  repr : Representation
  /-- The Julia type of the elements. -/
  juliaType : String
  /-- The code by which the library knows the type. -/
  code : Int
  description : String
  deriving DecidableEq

structure ElementTypes where
  entries : List ElementType
  deriving DecidableEq

namespace ElementTypes

def size (types : ElementTypes) : Nat :=
  types.entries.length

def isEmpty (types : ElementTypes) : Bool :=
  types.entries.isEmpty

/-- The entry with the given identifier. -/
def get? (types : ElementTypes) : Nat → Option ElementType
  | 0 => none
  | position + 1 => types.entries[position]?

/-- The first entry with the given code. -/
def byCode? (types : ElementTypes) (code : Int) : Option ElementType :=
  types.entries.find? fun e => e.code == code

/-- The entries with their identifiers, in order. -/
def enumerate (types : ElementTypes) : List (Nat × ElementType) :=
  types.entries.mapIdx fun position e => (position + 1, e)

end ElementTypes

/-- The element types that the library distinguishes. -/
inductive NativeElement where
  | int8
  | uint8
  | int16
  | uint16
  | int32
  | uint32
  | int64
  | uint64
  | float
  | double
  deriving DecidableEq

namespace NativeElement

def all : List NativeElement :=
  [int8, uint8, int16, uint16, int32, uint32, int64, uint64, float, double]

def code : NativeElement → Int
  | int8 => 1
  | uint8 => 2
  | int16 => 3
  | uint16 => 4
  | int32 => 5
  | uint32 => 6
  | int64 => 7
  | uint64 => 8
  | float => 9
  | double => 10

def name : NativeElement → String
  | int8 => "INT8"
  | uint8 => "UINT8"
  | int16 => "INT16"
  | uint16 => "UINT16"
  | int32 => "INT32"
  | uint32 => "UINT32"
  | int64 => "INT64"
  | uint64 => "UINT64"
  | float => "FLOAT"
  | double => "DOUBLE"

def juliaType : NativeElement → String
  | int8 => "Int8"
  | uint8 => "UInt8"
  | int16 => "Int16"
  | uint16 => "UInt16"
  | int32 => "Int32"
  | uint32 => "UInt32"
  | int64 => "Int64"
  | uint64 => "UInt64"
  | float => "Cfloat"
  | double => "Cdouble"

def description : NativeElement → String
  | int8 => "Signed 8-bit integer"
  | uint8 => "Unsigned 8-bit integer"
  | int16 => "Signed 16-bit integer"
  | uint16 => "Unsigned 16-bit integer"
  | int32 => "Signed 32-bit integer"
  | uint32 => "Unsigned 32-bit integer"
  | int64 => "Signed 64-bit integer"
  | uint64 => "Unsigned 64-bit integer"
  | float => "Single precision floating-point"
  | double => "Double precision floating-point"

/-- The scalar that the elements are stored as. -/
def scalar : NativeElement → Scalar
  | int8 => .signed 1
  | uint8 => .unsigned 1
  | int16 => .signed 2
  | uint16 => .unsigned 2
  | int32 => .signed 4
  | uint32 => .unsigned 4
  | int64 => .signed 8
  | uint64 => .unsigned 8
  | float => .binary32
  | double => .binary64

/-- The table entry, with the representation measured. -/
def measure (e : NativeElement) : Except Violation ElementType := do
  let repr ← e.scalar.measure
  return { name := e.name, repr, juliaType := e.juliaType, code := e.code,
           description := e.description }

end NativeElement

/-- The library's own table. -/
def ElementTypes.tao : Except Violation ElementTypes := do
  return ⟨← NativeElement.all.mapM NativeElement.measure⟩

end AbiBindings.Tao
