import AbiBindings.Platform

/-!
# Names of Julia types

A representation is named either by a C-compatible type, if the platform gives one the same width,
or by the built-in type of its class and width. Only width and class are looked at, so a type's name
in C plays no part.
-/

namespace AbiBindings.Julia

/-- The built-in number types of a fixed width. -/
inductive BuiltIn where
  | int8
  | int16
  | int32
  | int64
  | int128
  | uint8
  | uint16
  | uint32
  | uint64
  | uint128
  | float16
  | float32
  | float64
  deriving DecidableEq

namespace BuiltIn

def name : BuiltIn → String
  | int8 => "Int8"
  | int16 => "Int16"
  | int32 => "Int32"
  | int64 => "Int64"
  | int128 => "Int128"
  | uint8 => "UInt8"
  | uint16 => "UInt16"
  | uint32 => "UInt32"
  | uint64 => "UInt64"
  | uint128 => "UInt128"
  | float16 => "Float16"
  | float32 => "Float32"
  | float64 => "Float64"

/-- The built-in type of the given size in bytes and class. -/
def ofSize? : Nat → NumberClass → Option BuiltIn
  | 1, .signed => some int8
  | 2, .signed => some int16
  | 4, .signed => some int32
  | 8, .signed => some int64
  | 16, .signed => some int128
  | 1, .unsigned => some uint8
  | 2, .unsigned => some uint16
  | 4, .unsigned => some uint32
  | 8, .unsigned => some uint64
  | 16, .unsigned => some uint128
  | 2, .float => some float16
  | 4, .float => some float32
  | 8, .float => some float64
  | _, _ => none

/-- Every width that a class is known to have is named. -/
theorem isSome_ofSize? (size : Nat) (cls : NumberClass) :
    (ofSize? size cls).isSome ↔ size ∈ cls.widths := by
  cases cls <;> unfold ofSize? <;> split <;> simp_all [NumberClass.widths]

end BuiltIn

/-- The integer types that follow the C compiler, signed and unsigned. -/
inductive CInteger where
  | int
  | long
  | short
  | char
  deriving DecidableEq

namespace CInteger

/-- The order of preference among types of the same width. -/
def all : List CInteger := [int, long, short, char]

def size (p : Platform) : CInteger → Nat
  | int => p.cInt.size
  | long => p.cLong.size
  | short => p.cShort.size
  | char => p.cChar.size

def signedName : CInteger → String
  | int => "Cint"
  | long => "Clong"
  | short => "Cshort"
  | char => "Cchar"

def unsignedName : CInteger → String
  | int => "Cuint"
  | long => "Culong"
  | short => "Cushort"
  | char => "Cuchar"

end CInteger

/-- The floating-point types that follow the C compiler. -/
inductive CFloat where
  | float
  | double
  deriving DecidableEq

namespace CFloat

/-- The order of preference among types of the same width. -/
def all : List CFloat := [float, double]

def size (p : Platform) : CFloat → Nat
  | float => p.cFloat.size
  | double => p.cDouble.size

def name : CFloat → String
  | float => "Cfloat"
  | double => "Cdouble"

end CFloat

inductive TypeName where
  | builtIn (type : BuiltIn)
  | cInteger (type : CInteger) (isSigned : Bool)
  | cFloat (type : CFloat)
  deriving DecidableEq

/-- Which names are preferred. -/
inductive Style where
  /-- C-compatible names, as far as there are any. -/
  | nativeCall
  | fixedWidth
  deriving DecidableEq

namespace TypeName

def render : TypeName → String
  | builtIn type => type.name
  | cInteger type true => type.signedName
  | cInteger type false => type.unsignedName
  | cFloat type => type.name

/-- The first C-compatible type with the width of the representation on the platform. -/
def nativeCall? (p : Platform) (r : Representation) : Option TypeName :=
  match r.cls with
  | .float => (CFloat.all.find? fun t => t.size p == r.size).map cFloat
  | _ => (CInteger.all.find? fun t => t.size p == r.size).map fun t => cInteger t r.isSigned

def fixedWidth (r : Representation) : Except Violation TypeName :=
  match BuiltIn.ofSize? r.size r.cls with
  | some type => .ok (builtIn type)
  | none => .error (.unrepresentableWidth r.size r.cls)

/-- The Julia type of a representation, in the given style. -/
def resolve (p : Platform) (style : Style) (r : Representation) : Except Violation TypeName :=
  match style with
  | .fixedWidth => fixedWidth r
  | .nativeCall =>
    match nativeCall? p r with
    | some name => .ok name
    | none => fixedWidth r

end TypeName

end AbiBindings.Julia
