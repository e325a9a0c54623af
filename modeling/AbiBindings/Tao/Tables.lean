import AbiBindings.Julia.Token

/-!
# Definitions of the TAO library

The enumerations, tags and limits that the bindings publish, with the names, values and
documentation that they have there. The orders are those of publication.
-/

namespace AbiBindings.Tao

/-- The result of an operation. -/
inductive Status where
  | error
  | ok
  | timeout
  deriving DecidableEq

namespace Status

def all : List Status := [error, ok, timeout]

def value : Status → Int
  | error => -1
  | ok => 0
  | timeout => 1

def name : Status → String
  | error => "ERROR"
  | ok => "OK"
  | timeout => "TIMEOUT"

end Status

/-- The signature in the 24 most significant bits of every shared object type. -/
def sharedMagic : Nat := 0x310efc00

/-- The shared object type that stands for any other. -/
def sharedAny : Nat := 0xffffffff

/-- The type of a shared object. -/
inductive ObjectType where
  | sharedObject
  | sharedArray
  | sharedCamera
  | remoteMirror
  | sharedMirrorData
  deriving DecidableEq

namespace ObjectType

def all : List ObjectType :=
  [sharedObject, sharedArray, sharedCamera, remoteMirror, sharedMirrorData]

/-- The tag: the signature, then a number in the eight least significant bits. -/
def bits : ObjectType → Nat
  | sharedObject => sharedMagic
  | sharedArray => sharedMagic + 1
  | sharedCamera => sharedMagic + 2
  | remoteMirror => sharedMagic + 3
  | sharedMirrorData => sharedMagic + 4

def name : ObjectType → String
  | sharedObject => "SHARED_OBJECT"
  | sharedArray => "SHARED_ARRAY"
  | sharedCamera => "SHARED_CAMERA"
  | remoteMirror => "REMOTE_MIRROR"
  | sharedMirrorData => "SHARED_MIRROR_DATA"

def doc : ObjectType → String
  | sharedObject => "is the type of a basic TAO shared object."
  | sharedArray => "is the type of a TAO shared multi-dimensional array."
  | sharedCamera => "is the type of a TAO shared camera data."
  | remoteMirror => "is the type of a TAO remote deformable mirror."
  | sharedMirrorData => "is the type of a TAO shared deformable mirror data."

end ObjectType

/-- The lifecycle state of a camera. -/
inductive CameraState where
  | initializing
  | sleeping
  | starting
  | acquiring
  | stopping
  | aborting
  | finished
  deriving DecidableEq

namespace CameraState

def all : List CameraState :=
  [initializing, sleeping, starting, acquiring, stopping, aborting, finished]

def value : CameraState → Int
  | initializing => 0
  | sleeping => 1
  | starting => 2
  | acquiring => 3
  | stopping => 4
  | aborting => 5
  | finished => 6

def name : CameraState → String
  | initializing => "CAMERA_STATE_INITIALIZING"
  | sleeping => "CAMERA_STATE_SLEEPING"
  | starting => "CAMERA_STATE_STARTING"
  | acquiring => "CAMERA_STATE_ACQUIRING"
  | stopping => "CAMERA_STATE_STOPPING"
  | aborting => "CAMERA_STATE_ABORTING"
  | finished => "CAMERA_STATE_FINISHED"

end CameraState

/-- The member values of an enumeration with a negative member, whose representation is that of any
C enumeration. -/
def genericEnumeration : List Int := [-1, 0, 1]

/-- The invalid shared memory identifier. -/
def badShmId : Int := -1

/-- The number of bytes, with the final null, of the name of an owner. -/
def sharedOwnerSize : Int := 64

/-- The maximum number of dimensions of an array. -/
def maxDimensions : Int := 5

/-- A named constant with its documentation. -/
structure SymbolicConstant where
  name : String
  value : Julia.Literal
  doc : String
  deriving DecidableEq

/-- The signature, the object types and the wildcard. -/
def objectTypeTags : List SymbolicConstant :=
  ⟨"SHARED_MAGIC", .bits sharedMagic,
    "specifies a, hopefully unique, signature stored in\n" ++
      "the 24 most significant bits of the TAO shared object type."⟩ ::
    ObjectType.all.map (fun t => ⟨t.name, .bits t.bits, t.doc⟩) ++
    [⟨"SHARED_ANY", .bits sharedAny,
      "is the shared object type to use when any type is\nacceptable."⟩]

/-- The capacity limits of shared objects. -/
def capacityLimits : List SymbolicConstant :=
  [⟨"SHARED_OWNER_SIZE", .int sharedOwnerSize,
      "is the the number of bytes (including the final\nnull) for the name of the owner."⟩,
    ⟨"MAX_NDIMS", .int maxDimensions, "is the maximum number of dimensions of TAO arrays."⟩]

end AbiBindings.Tao
