import AbiBindings.Platform

/-!
# The check of enumeration widths

The bindings pass four enumerations of the library as an `int`. A platform is acceptable if each of
them is exactly as wide; otherwise every value that crosses the boundary would be corrupted. The
first that differs is reported.
-/

namespace AbiBindings

/-- The enumerations that are passed as an `int`, in the order in which they are checked. -/
inductive IntEnumeration where
  | status
  | objectType
  | elementType
  | cameraState
  deriving DecidableEq

namespace IntEnumeration

def all : List IntEnumeration := [status, objectType, elementType, cameraState]

def representation (p : Platform) : IntEnumeration → Representation
  | status => p.status
  | objectType => p.objectType
  | elementType => p.elementType
  | cameraState => p.cameraState

/-- The name under which a failed check reports the enumeration. -/
def name : IntEnumeration → String
  | status => "status"
  | objectType => "object_type"
  | elementType => "eltype"
  | cameraState => "camera_state"

/-- The line that a failed check reports. -/
def line : IntEnumeration → Nat
  | status => 34
  | objectType => 35
  | elementType => 36
  | cameraState => 37

def assertion (e : IntEnumeration) : Assertion where
  expr := "platform.c_int.size() == platform." ++ e.name ++ ".size()"
  function := "validate_platform"
  file := "src/builder/bindings/validate.rs"
  line := e.line

def differsFromInt (p : Platform) (e : IntEnumeration) : Bool :=
  (e.representation p).size != p.cInt.size

end IntEnumeration

/-- Accept the platform, or name the first enumeration that is not as wide as an `int`. -/
def Platform.checkWidths (p : Platform) : Except Violation Unit :=
  match IntEnumeration.all.find? (·.differsFromInt p) with
  | none => .ok ()
  | some e => .error (.assertion e.assertion)

end AbiBindings
