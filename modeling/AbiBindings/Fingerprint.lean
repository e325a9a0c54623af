import AbiBindings.Text.Digits
import AbiBindings.Text.Utf8

/-!
# Fingerprints

The fingerprint of a file is its SHA-256 digest in hexadecimal: the message is padded to blocks of
sixteen words, and every block is mixed into a state of eight words in sixty-four rounds.
-/

namespace AbiBindings.Fingerprint

/-- The eight words that are carried from block to block. -/
structure State where
  a : UInt32
  b : UInt32
  c : UInt32
  d : UInt32
  e : UInt32
  f : UInt32
  g : UInt32
  h : UInt32
  deriving DecidableEq

namespace State

def initial : State :=
  ⟨0x6a09e667, 0xbb67ae85, 0x3c6ef372, 0xa54ff53a, 0x510e527f, 0x9b05688c, 0x1f83d9ab, 0x5be0cd19⟩

def add (x y : State) : State :=
  ⟨x.a + y.a, x.b + y.b, x.c + y.c, x.d + y.d, x.e + y.e, x.f + y.f, x.g + y.g, x.h + y.h⟩

def words (x : State) : List UInt32 :=
  [x.a, x.b, x.c, x.d, x.e, x.f, x.g, x.h]

end State

/-- The constants of the rounds. -/
def roundConstants : List UInt32 :=
  [0x428a2f98, 0x71374491, 0xb5c0fbcf, 0xe9b5dba5, 0x3956c25b, 0x59f111f1, 0x923f82a4, 0xab1c5ed5,
    0xd807aa98, 0x12835b01, 0x243185be, 0x550c7dc3, 0x72be5d74, 0x80deb1fe, 0x9bdc06a7, 0xc19bf174,
    0xe49b69c1, 0xefbe4786, 0x0fc19dc6, 0x240ca1cc, 0x2de92c6f, 0x4a7484aa, 0x5cb0a9dc, 0x76f988da,
    0x983e5152, 0xa831c66d, 0xb00327c8, 0xbf597fc7, 0xc6e00bf3, 0xd5a79147, 0x06ca6351, 0x14292967,
    0x27b70a85, 0x2e1b2138, 0x4d2c6dfc, 0x53380d13, 0x650a7354, 0x766a0abb, 0x81c2c92e, 0x92722c85,
    0xa2bfe8a1, 0xa81a664b, 0xc24b8b70, 0xc76c51a3, 0xd192e819, 0xd6990624, 0xf40e3585, 0x106aa070,
    0x19a4c116, 0x1e376c08, 0x2748774c, 0x34b0bcb5, 0x391c0cb3, 0x4ed8aa4a, 0x5b9cca4f, 0x682e6ff3,
    0x748f82ee, 0x78a5636f, 0x84c87814, 0x8cc70208, 0x90befffa, 0xa4506ceb, 0xbef9a3f7, 0xc67178f2]

def rotateRight (x count : UInt32) : UInt32 :=
  x >>> count ||| x <<< (32 - count)

def smallSigma0 (x : UInt32) : UInt32 :=
  rotateRight x 7 ^^^ rotateRight x 18 ^^^ x >>> 3

def smallSigma1 (x : UInt32) : UInt32 :=
  rotateRight x 17 ^^^ rotateRight x 19 ^^^ x >>> 10

def bigSigma0 (x : UInt32) : UInt32 :=
  rotateRight x 2 ^^^ rotateRight x 13 ^^^ rotateRight x 22

def bigSigma1 (x : UInt32) : UInt32 :=
  rotateRight x 6 ^^^ rotateRight x 11 ^^^ rotateRight x 25

def choose (x y z : UInt32) : UInt32 :=
  (x &&& y) ^^^ (~~~x &&& z)

def majority (x y z : UInt32) : UInt32 :=
  (x &&& y) ^^^ (x &&& z) ^^^ (y &&& z)

/-- The word that follows a schedule of at least sixteen words. -/
def nextWord (schedule : Array UInt32) : UInt32 :=
  let back (distance : Nat) : UInt32 := schedule[schedule.size - distance]?.getD 0
  smallSigma1 (back 2) + back 7 + smallSigma0 (back 15) + back 16

/-- The sixty-four words that a block of sixteen is extended to. -/
def schedule (block : Array UInt32) : Array UInt32 :=
  (List.range 48).foldl (fun words _ => words.push (nextWord words)) block

def round (x : State) (constantAndWord : UInt32 × UInt32) : State :=
  let t1 := x.h + bigSigma1 x.e + choose x.e x.f x.g + constantAndWord.1 + constantAndWord.2
  let t2 := bigSigma0 x.a + majority x.a x.b x.c
  ⟨t1 + t2, x.a, x.b, x.c, x.d + t1, x.e, x.f, x.g⟩

/-- Mix one block into the state. -/
def compress (x : State) (block : Array UInt32) : State :=
  x.add ((roundConstants.zip (schedule block).toList).foldl round x)

/-- The bytes of a number, most significant first. -/
def bigEndian (width value : Nat) : List UInt8 :=
  (List.range width).map fun i => UInt8.ofNat (value >>> (8 * (width - 1 - i)))

/-- How many zero bytes complete a message with its end mark and length to whole blocks. -/
def zeroCount (size : Nat) : Nat :=
  (119 - size % 64) % 64

/-- The message, an end mark, zeros, and the length in bits. -/
def pad (message : List UInt8) : List UInt8 :=
  message ++ 0x80 :: (List.replicate (zeroCount message.length) 0 ++
    bigEndian 8 (8 * message.length))

/-- Bytes in groups of four as words, most significant byte first. -/
def words : List UInt8 → List UInt32
  | b0 :: b1 :: b2 :: b3 :: rest =>
    (b0.toUInt32 <<< 24 ||| b1.toUInt32 <<< 16 ||| b2.toUInt32 <<< 8 ||| b3.toUInt32) :: words rest
  | _ => []

/-- The state after all whole blocks of a sequence of words. -/
def absorb (ws : Array UInt32) : State :=
  (List.range (ws.size / 16)).foldl
    (fun x i => compress x (ws.extract (16 * i) (16 * i + 16))) State.initial

/-- The fingerprint of a sequence of bytes, as sixty-four hexadecimal digits. -/
def ofBytes (message : List UInt8) : String :=
  String.ofList ((absorb (words (pad message)).toArray).words.flatMap fun w =>
    Text.hexDigits 8 w.toNat)

def ofText (s : String) : String :=
  ofBytes (Text.utf8 s)

/-- The short form: the first sixteen bytes, or all of a text that cannot be cut there. -/
def short (fingerprint : String) : String :=
  match Text.takeBytes? 16 fingerprint.toList with
  | some cs => String.ofList cs
  | none => fingerprint

end AbiBindings.Fingerprint
