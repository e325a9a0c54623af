import AbiBindings.Abi.Enumeration
import AbiBindings.Abi.Scalar
import AbiBindings.Tao.ElementTypes
import AbiBindings.Tao.Tables

/-!
# Measured platforms

Everything that the bindings depend on: the C types that Julia has names for, the enumerations of
the library, and the layout of `timespec`.
-/

namespace AbiBindings

structure Platform where
  cChar : Representation
  cShort : Representation
  cInt : Representation
  cLong : Representation
  cFloat : Representation
  cDouble : Representation
  /-- The result of an operation. -/
  status : Representation
  objectType : Representation
  elementType : Representation
  cameraState : Representation
  /-- A C enumeration with a negative member. -/
  cEnum : Representation
  /-- The identifier of shared memory. -/
  shmId : Representation
  timespec : StructLayout
  deriving DecidableEq

namespace Platform

/-- The layout of `timespec` at the given address: seconds, then nanoseconds, both `long`. -/
def measureTimespec (address : UInt64) : Except Violation StructLayout := do
  let seconds ← measureField "timespec" "tv_sec" address address CScalar.long.onHost
  let nanoseconds ← measureField "timespec" "tv_nsec" address (address + 8) CScalar.long.onHost
  return { name := "timespec", size := 16, fields := [seconds, nanoseconds] }

/-- The measurements of the host. Of the element types the first and the last are looked at. -/
def host : Except Violation Platform := do
  return {
    cChar := ← CScalar.char.onHost.measure
    cShort := ← CScalar.short.onHost.measure
    cInt := ← CScalar.int.onHost.measure
    cLong := ← CScalar.long.onHost.measure
    cFloat := ← CScalar.float.onHost.measure
    cDouble := ← CScalar.double.onHost.measure
    status := ← measureHostEnumeration (Tao.Status.all.map Tao.Status.value)
    objectType := ← measureHostEnumeration (Tao.ObjectType.all.map fun t => (t.bits : Int))
    elementType := ←
      measureHostEnumeration [Tao.NativeElement.int8.code, Tao.NativeElement.double.code]
    cameraState := ← measureHostEnumeration (Tao.CameraState.all.map Tao.CameraState.value)
    cEnum := ← measureHostEnumeration Tao.genericEnumeration
    shmId := ← CScalar.int.onHost.measure
    timespec := ← measureTimespec 0 }

end Platform

end AbiBindings
