/-!
# Bytes of text

Encoding text in UTF-8, and reading bytes that need not be valid UTF-8. The reader is a machine that
takes one byte at a time and remembers the character it is in. Every longest stretch that begins a
character without completing it is one invalid part, as is every byte that begins none.
-/

namespace AbiBindings.Text

/-- The UTF-8 encoding of a text. -/
def utf8 (s : String) : List UInt8 :=
  s.toUTF8.data.toList

theorem length_utf8 (s : String) : (utf8 s).length = s.utf8ByteSize := by
  simp [utf8]

/-- A text has no fewer bytes than characters. -/
theorem length_le_utf8ByteSize (s : String) : s.length ≤ s.utf8ByteSize := by
  have hall : ∀ cs : List Char, cs.length ≤ (String.ofList cs).utf8ByteSize := by
    intro cs
    induction cs with
    | nil => exact Nat.zero_le _
    | cons c rest ih =>
      have htext : String.ofList (c :: rest) = String.singleton c ++ String.ofList rest := by
        simp
      have hpos := c.utf8Size_pos
      rw [htext, String.utf8ByteSize_append, String.utf8ByteSize_singleton, List.length_cons]
      omega
  have hchars := hall s.toList
  rwa [String.length_toList, String.ofList_toList] at hchars

/-- The characters that make up exactly the first `count` bytes, unless that would cut one. -/
def takeBytes? : (count : Nat) → List Char → Option (List Char)
  | 0, _ => some []
  | _ + 1, [] => none
  | count + 1, c :: rest =>
    if c.utf8Size ≤ count + 1 then (takeBytes? (count + 1 - c.utf8Size) rest).map (c :: ·)
    else none

/-- A character whose last bytes are still to come. -/
structure Unfinished where
  /-- The bits of the character read so far. -/
  bits : Nat
  /-- How many bytes are missing, less one. -/
  missing : Nat
  /-- The least and the greatest value that the next byte may have. -/
  low : Nat
  high : Nat

/-- What a byte at the start of a character means. -/
inductive Lead where
  | complete (c : Char)
  | unfinished (u : Unfinished)
  | invalid

/-- The bounds on the second byte keep out overlong forms, surrogates and numbers past the last code
point. -/
def lead (b : Nat) : Lead :=
  if b < 0x80 then .complete (Char.ofNat b)
  else if b < 0xC2 then .invalid
  else if b < 0xE0 then .unfinished ⟨b - 0xC0, 0, 0x80, 0xBF⟩
  else if b < 0xF0 then
    .unfinished ⟨b - 0xE0, 1, if b = 0xE0 then 0xA0 else 0x80, if b = 0xED then 0x9F else 0xBF⟩
  else if b < 0xF5 then
    .unfinished ⟨b - 0xF0, 2, if b = 0xF0 then 0x90 else 0x80, if b = 0xF4 then 0x8F else 0xBF⟩
  else .invalid

/-- Read bytes as characters, with `none` for every invalid part. The first argument is the character
that is being read, if there is one. -/
def decodeFrom : Option Unfinished → List UInt8 → List (Option Char)
  | none, [] => []
  | some _, [] => [none]
  | state, b :: rest =>
    let start (before : List (Option Char)) : List (Option Char) :=
      match lead b.toNat with
      | .complete c => before ++ some c :: decodeFrom none rest
      | .unfinished u => before ++ decodeFrom (some u) rest
      | .invalid => before ++ none :: decodeFrom none rest
    match state with
    | none => start []
    | some u =>
      if u.low ≤ b.toNat ∧ b.toNat ≤ u.high then
        let bits := 64 * u.bits + (b.toNat - 0x80)
        match u.missing with
        | 0 => some (Char.ofNat bits) :: decodeFrom none rest
        | missing + 1 => decodeFrom (some ⟨bits, missing, 0x80, 0xBF⟩) rest
      else start [none]

/-- The characters of a sequence of bytes, with `none` for every invalid part. -/
def decode (bytes : List UInt8) : List (Option Char) :=
  decodeFrom none bytes

/-- Show decoded parts as text, with a replacement character for each invalid one. -/
def showParts (parts : List (Option Char)) : String :=
  String.ofList (parts.map fun part => part.getD '\ufffd')

/-- The text of bytes that need not be valid. -/
def lossy (bytes : List UInt8) : String :=
  showParts (decode bytes)

end AbiBindings.Text
