import AbiBindings.Abi.Violation

/-!
# Representations and layouts

Whatever crosses the boundary to the native library is reduced to a size in bytes and a numeric
class. A representation can only be made with a width that its class has a built-in type for. A
layout lists the fields of a structure that the bindings use, each with its displacement from the
start of the structure.
-/

namespace AbiBindings

structure Representation where
  /-- The size in bytes. -/
  size : Nat
  cls : NumberClass
  known : size ∈ cls.widths
  deriving DecidableEq

namespace Representation

/-- The representation of the given size and class, refused if no built-in type is that wide. -/
def ofSize (size : Nat) (cls : NumberClass) : Except Violation Representation :=
  if h : size ∈ cls.widths then .ok ⟨size, cls, h⟩
  else .error (.unrepresentableWidth size cls)

theorem ofSize_self (r : Representation) : ofSize r.size r.cls = .ok r :=
  dif_pos r.known

theorem ofSize_of_notMem {size : Nat} {cls : NumberClass} (h : size ∉ cls.widths) :
    ofSize size cls = .error (.unrepresentableWidth size cls) :=
  dif_neg h

def bits (r : Representation) : Nat :=
  8 * r.size

def isSigned (r : Representation) : Bool :=
  r.cls == .signed

/-- The form shown in messages, such as `signed 32-bit`. -/
def display (r : Representation) : String :=
  r.cls.name ++ " " ++ toString r.bits ++ "-bit"

end Representation

structure FieldLayout where
  /-- The name of the owning structure. -/
  owner : String
  field : String
  /-- The displacement in bytes from the start of the owner. -/
  offset : Nat
  repr : Representation
  deriving DecidableEq

structure StructLayout where
  name : String
  /-- The size in bytes of the whole structure. -/
  size : Nat
  fields : List FieldLayout
  deriving DecidableEq

/-- The first field of the given name. -/
def StructLayout.field? (layout : StructLayout) (name : String) : Option FieldLayout :=
  layout.fields.find? fun f => f.field == name

end AbiBindings
