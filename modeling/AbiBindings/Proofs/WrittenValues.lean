import AbiBindings.Proofs.Literals
import AbiBindings.Toml.Document
import Mathlib.Data.List.TakeWhile

/-!
# Reading written values

How keys, texts and integers may be written in a document, and that each is read back. A character
between quotes may be written in several ways, of which only those with a backslash are left for
quotes, backslashes and control characters.
-/

namespace AbiBindings.Toml

/-- The letters after a backslash, and what they stand for. -/
def escapeLetters : List (Char × Char) :=
  [('b', '\x08'), ('t', '\t'), ('n', '\n'), ('f', '\x0c'), ('r', '\r'), ('"', '"'), ('\\', '\\')]

/-- The marks after a backslash that a code point follows, and the number of its digits. -/
def codePointMarks : List (Char × Nat) :=
  [('u', 4), ('U', 8)]

/-- The ways to write a character between quotes. -/
inductive Spells : Char → List Char → Prop
  | plain {c : Char} (control : ' ' ≤ c ∧ c ≠ '\x7f') (mark : c ≠ '"' ∧ c ≠ '\\') : Spells c [c]
  | letter {letter c : Char} (h : (letter, c) ∈ escapeLetters) : Spells c ['\\', letter]
  | codePoint {c mark : Char} {digits : List Char} (length : (mark, digits.length) ∈ codePointMarks)
      (hexadecimal : ∀ d ∈ digits, isHexadecimalDigit d = true)
      (value : Text.digitsValue 16 digits = c.toNat) : Spells c ('\\' :: mark :: digits)

/-- The ways to write a text between quotes. -/
inductive SpellsText : List Char → List Char → Prop
  | nil : SpellsText [] []
  | cons {c : Char} {text piece pieces : List Char} (head : Spells c piece)
      (tail : SpellsText text pieces) : SpellsText (c :: text) (piece ++ pieces)

/-- A character with a backslash only if there is no other way to write it. -/
def spelled (c : Char) : List Char :=
  if c = '"' ∨ c = '\\' then ['\\', c]
  else if ' ' ≤ c ∧ c ≠ '\x7f' then [c]
  else '\\' :: 'u' :: Text.hexDigits 4 c.toNat

theorem toNat_lt_of_control {c : Char} (h : ¬(' ' ≤ c ∧ c ≠ '\x7f')) : c.toNat < 0x80 := by
  by_cases hspace : ' ' ≤ c
  · obtain rfl : c = '\x7f' := Decidable.not_not.mp fun hdelete => h ⟨hspace, hdelete⟩
    decide
  · have hlt : c.toNat < ' '.toNat := Char.not_le.mp hspace
    exact Nat.lt_trans hlt (by decide)

theorem spells_spelled (c : Char) : Spells c (spelled c) := by
  unfold spelled
  by_cases hmark : c = '"' ∨ c = '\\'
  · rw [if_pos hmark]
    rcases hmark with rfl | rfl <;> exact .letter (by decide)
  · rw [if_neg hmark]
    by_cases hplain : ' ' ≤ c ∧ c ≠ '\x7f'
    · rw [if_pos hplain]
      exact .plain hplain (not_or.mp hmark)
    · rw [if_neg hplain]
      have hlog : Nat.log 16 c.toNat < 4 :=
        Nat.log_lt_of_lt_pow' (by decide) (Nat.lt_trans (toNat_lt_of_control hplain) (by decide))
      refine .codePoint ?_ (fun _ => Julia.Numeral.isHexDigit_of_mem_hexDigits)
        (Text.isHexadecimal_hexDigits 4 c.toNat).meaning
      rw [Text.length_hexDigits hlog]
      decide

/-- A text in quotes. -/
def quoted (text : String) : List Char :=
  '"' :: (text.toList.flatMap spelled ++ ['"'])

theorem spellsText_flatMap (text : List Char) : SpellsText text (text.flatMap spelled) := by
  induction text with
  | nil => exact .nil
  | cons c rest ih => exact .cons (spells_spelled c) ih

theorem hexValue?_of_digits {digits : List Char} (h : ∀ d ∈ digits, isHexadecimalDigit d = true)
    (value : Nat) :
    hexValue? value digits =
      some (digits.foldl (fun value c => 16 * value + (Text.hexDigit? c).getD 0) value) := by
  induction digits generalizing value with
  | nil => rfl
  | cons d rest ih =>
    obtain ⟨hd, hrest⟩ := List.forall_mem_cons.mp h
    obtain ⟨digit, hdigit⟩ := Option.isSome_iff_exists.mp hd
    rw [hexValue?, hdigit, List.foldl_cons, hdigit]
    exact ih hrest (16 * value + digit)

theorem codePoint?_of_digits {digits : List Char} {c : Char}
    (h : ∀ d ∈ digits, isHexadecimalDigit d = true)
    (hvalue : Text.digitsValue 16 digits = c.toNat) : codePoint? digits = some c := by
  have hread : hexValue? 0 digits = some c.toNat := by
    rw [hexValue?_of_digits h 0, ← hvalue]
    rfl
  have hvalid : c.toNat.isValidChar := c.valid
  rw [codePoint?, hread]
  change (if c.toNat.isValidChar then some (Char.ofNat c.toNat) else none) = some c
  rw [if_pos hvalid, Char.ofNat_toNat]

theorem escape?_of_mem {letter c : Char} (h : (letter, c) ∈ escapeLetters) :
    escape? letter = some c := by
  have hall : ∀ entry ∈ escapeLetters, escape? entry.1 = some entry.2 := by decide
  exact hall (letter, c) h

theorem isPlain_of_le {c : Char} (h : ' ' ≤ c ∧ c ≠ '\x7f') : isPlain c = true := by
  simp [isPlain, h.1, h.2]

/-- A written character is read as that character. -/
theorem readQuoted_spells {c : Char} {piece : List Char} (h : Spells c piece) (rest : List Char) :
    readQuoted (piece ++ rest) = consRead c (readQuoted rest) := by
  cases h with
  | plain control mark =>
    rw [List.singleton_append, readQuoted]
    · exact if_pos ⟨isPlain_of_le control, mark.2⟩
    · exact mark.1
    all_goals
      intros
      exact absurd ‹c = '\\'› mark.2
  | @letter letter _ h =>
    have hletter := escape?_of_mem h
    have hshort : letter ≠ 'u' := by
      rintro rfl
      cases hletter
    have hlong : letter ≠ 'U' := by
      rintro rfl
      cases hletter
    rw [List.cons_append, List.singleton_append, readQuoted, hletter]
    · rfl
    · exact fun _ _ _ _ _ hmark _ => hshort hmark
    · exact fun _ _ _ _ _ _ _ _ _ hmark _ => hlong hmark
  | @codePoint _ mark digits length hexadecimal value =>
    have hread := codePoint?_of_digits hexadecimal value
    simp only [codePointMarks, List.mem_cons, Prod.mk.injEq, List.not_mem_nil, or_false] at length
    rcases length with ⟨rfl, hlength⟩ | ⟨rfl, hlength⟩
    · match digits, hlength with
      | [a, b, c, d], _ =>
        change (codePoint? [a, b, c, d]).bind _ = _
        rw [hread]
        rfl
    · match digits, hlength with
      | [a, b, c, d, e, f, g, h], _ =>
        change (codePoint? [a, b, c, d, e, f, g, h]).bind _ = _
        rw [hread]
        rfl

theorem readQuoted_spellsText {text pieces : List Char} (h : SpellsText text pieces)
    (rest : List Char) : readQuoted (pieces ++ '"' :: rest) = some (text, rest) := by
  induction h with
  | nil => rfl
  | cons head tail ih => rw [List.append_assoc, readQuoted_spells head, ih, consRead]

/-- No written character begins with a quote. -/
theorem Spells.exists_eq_cons {c : Char} {piece : List Char} (h : Spells c piece) :
    ∃ first rest, piece = first :: rest ∧ first ≠ '"' := by
  cases h with
  | plain _ mark => exact ⟨c, [], rfl, mark.1⟩
  | letter => exact ⟨_, _, rfl, by decide⟩
  | codePoint => exact ⟨_, _, rfl, by decide⟩

/-- A text in quotes is not taken for one in tripled quotes, not even the empty text. -/
theorem readText_spellsText {text pieces : List Char} (h : SpellsText text pieces)
    {rest : List Char} (hrest : rest.head? ≠ some '"') :
    readText ('"' :: (pieces ++ '"' :: rest)) = some (text, rest) := by
  have hread : readLineText ('"' :: (pieces ++ '"' :: rest)) = some (text, rest) :=
    readQuoted_spellsText h rest
  rw [readText, hread]
  · rintro after hafter
    obtain ⟨-, hafter⟩ := List.cons.inj hafter
    cases h with
    | nil =>
      obtain ⟨-, rfl⟩ := List.cons.inj hafter
      exact hrest rfl
    | cons head _ =>
      obtain ⟨first, others, rfl, hfirst⟩ := head.exists_eq_cons
      exact hfirst (List.cons.inj hafter).1
  · rintro after hafter
    exact absurd (List.cons.inj hafter).1 (by decide)

/-- The ways to write a key: bare if its characters allow it, and in quotes. -/
inductive WritesKey : String → List Char → Prop
  | bare {key : String} (nonempty : key.toList ≠ [])
      (characters : ∀ c ∈ key.toList, isBareKeyChar c = true) : WritesKey key key.toList
  | quoted {key : String} {pieces : List Char} (h : SpellsText key.toList pieces) :
    WritesKey key ('"' :: (pieces ++ ['"']))

/-- A key in quotes only if it cannot be bare. -/
def writtenKey (key : String) : List Char :=
  if !key.toList.isEmpty && key.toList.all isBareKeyChar then key.toList else quoted key

theorem writesKey_writtenKey (key : String) : WritesKey key (writtenKey key) := by
  unfold writtenKey
  split
  · next hbare =>
    rw [Bool.and_eq_true, Bool.not_eq_true', List.isEmpty_eq_false_iff, List.all_eq_true] at hbare
    exact .bare hbare.1 hbare.2
  · exact .quoted (spellsText_flatMap key.toList)

theorem ne_of_isBareKeyChar {c d : Char} (hc : isBareKeyChar c = true)
    (hd : isBareKeyChar d = false) : c ≠ d := by
  rintro rfl
  rw [hd] at hc
  cases hc

/-- How keys and values begin. -/
def IsStart (c : Char) : Prop :=
  isWordChar c = true ∨ c = '"'

theorem IsStart.ne {c d : Char} (hc : IsStart c) (hd : isWordChar d = false) (hquote : d ≠ '"') :
    c ≠ d := by
  rintro rfl
  rcases hc with hword | rfl
  · rw [hd] at hword
    cases hword
  · exact hquote rfl

theorem IsStart.isBlank_eq_false {c : Char} (h : IsStart c) : isBlank c = false := by
  have hspace : c ≠ ' ' := h.ne rfl (by decide)
  have htab : c ≠ '\t' := h.ne rfl (by decide)
  simp [isBlank, hspace, htab]

theorem WritesKey.exists_eq_cons {key : String} {written : List Char} (h : WritesKey key written) :
    ∃ first rest, written = first :: rest ∧ IsStart first := by
  cases h with
  | bare nonempty characters =>
    obtain ⟨first, rest, hkey⟩ := List.exists_cons_of_ne_nil nonempty
    have hfirst : isBareKeyChar first = true := characters first (by simp [hkey])
    exact ⟨first, rest, hkey, Or.inl (by simp [isWordChar, hfirst])⟩
  | quoted => exact ⟨'"', _, rfl, Or.inr rfl⟩

theorem skipBlanks_of_head {c : Char} (h : isBlank c = false) (rest : List Char) :
    skipBlanks (c :: rest) = c :: rest :=
  List.dropWhile_cons_of_neg (by simp [h])

/-- A key is read up to what cannot go on with a bare one. -/
theorem readKey_writesKey {key : String} {written : List Char} (h : WritesKey key written)
    {rest : List Char} (hrest : ∀ c ∈ rest.head?, isBareKeyChar c = false) :
    readKey (written ++ rest) = some (key, rest) := by
  cases h with
  | bare nonempty characters =>
    have hmarks : readLineText (key.toList ++ rest) = none := by
      obtain ⟨first, others, hkey⟩ := List.exists_cons_of_ne_nil nonempty
      have hfirst : isBareKeyChar first = true := characters first (by simp [hkey])
      rw [hkey, List.cons_append, readLineText]
      · exact fun _ hcons => ne_of_isBareKeyChar hfirst rfl (List.cons.inj hcons).1
      · exact fun _ hcons => ne_of_isBareKeyChar hfirst rfl (List.cons.inj hcons).1
    simp only [readKey, hmarks, Text.takeWhile_run characters hrest,
      Text.dropWhile_run characters hrest, String.ofList_toList]
    exact if_neg (by simpa using nonempty)
  | quoted h =>
    have hread := readQuoted_spellsText h rest
    rw [readKey, List.cons_append, List.append_assoc, List.singleton_append, readLineText, hread]
    simp only [String.ofList_toList]

/-- A single key makes up a path; the blanks after it are passed over. -/
theorem readPath_writesKey {key : String} {written : List Char} (h : WritesKey key written)
    {rest : List Char} (hrest : ∀ c ∈ rest.head?, isBareKeyChar c = false)
    (hpoint : (skipBlanks rest).head? ≠ some '.') :
    readPath (written ++ rest) = some (⟨[], key⟩, skipBlanks rest) := by
  obtain ⟨first, others, hwritten, hfirst⟩ := h.exists_eq_cons
  have hblanks : skipBlanks (written ++ rest) = written ++ rest := by
    rw [hwritten, List.cons_append]
    exact skipBlanks_of_head hfirst.isBlank_eq_false _
  have hkeys : readKeys (nestingLimit - 1) (written ++ rest) = some ([key], skipBlanks rest) := by
    rw [show nestingLimit - 1 = 78 + 1 from rfl, readKeys, hblanks, readKey_writesKey h hrest]
    simp only [Option.bind_eq_bind, Option.bind_some]
    split
    · next hcons => exact absurd (congrArg List.head? hcons) hpoint
    · rfl
  rw [readPath, hkeys]
  rfl

/-- The characters of an integer with a sign that may be a minus. -/
def signed (negative : Bool) (digits : List Char) : List Char :=
  if negative then '-' :: digits else digits

section Integers

variable {digits : List Char} {magnitude : Nat} (h : Text.IsDecimal digits magnitude)
  (hne : digits ≠ []) (negative : Bool)

include h

theorem isDecimalDigit_of_mem_tail {c : Char} (hc : c ∈ (signed negative digits).tail) :
    Text.isDecimalDigit c = true := by
  cases negative with
  | false => exact h.decimal c (List.mem_of_mem_tail hc)
  | true => exact h.decimal c hc

/-- A date has a minus where an integer has digits, and a time has colons. -/
theorem moment?_signed : moment? (signed negative digits) = none := by
  have htail := fun c => isDecimalDigit_of_mem_tail (c := c) h negative
  generalize signed negative digits = word at htail
  have hdate : readDate word = none := by
    unfold readDate
    split
    · exact absurd (htail '-' (by simp)) (by decide)
    · rfl
  have htime : readTime word = none := by
    unfold readTime
    split
    · exact absurd (htail ':' (by simp)) (by decide)
    · rfl
  rw [moment?, hdate, htime]

theorem splitSign_signed : splitSign (signed negative digits) = (negative, digits) := by
  cases negative with
  | true => rfl
  | false =>
    change splitSign digits = (false, digits)
    unfold splitSign
    split
    · exact absurd (h.decimal '+' (by simp)) (by decide)
    · exact absurd (h.decimal '-' (by simp)) (by decide)
    · rfl

/-- Without a point or an exponent there is no floating-point number. -/
theorem scientific?_digits : scientific? digits = none := by
  have hmark : ∀ c ∈ digits, (!isExponentMark c) = true := by
    intro c hc
    have hdigit := h.decimal c hc
    cases hmark : isExponentMark c with
    | false => rfl
    | true =>
      rw [isExponentMark, Bool.or_eq_true, beq_iff_eq, beq_iff_eq] at hmark
      rcases hmark with rfl | rfl <;> exact absurd hdigit (by decide)
  have hpoint : ∀ c ∈ digits, (c != '.') = true :=
    Julia.Numeral.bne_of_notMem fun hc => absurd (h.decimal '.' hc) (by decide)
  simp only [scientific?, List.takeWhile_eq_self_iff.mpr hmark,
    List.dropWhile_eq_nil_iff.mpr hmark, List.dropWhile_eq_nil_iff.mpr hpoint]
  rfl

theorem decimal?_signed : decimal? (signed negative digits) = none := by
  unfold decimal?
  rw [splitSign_signed h negative]
  split
  · next heq =>
    obtain ⟨-, rfl⟩ := Prod.mk.inj heq
    exact absurd (h.decimal 'i' (by simp)) (by decide)
  · next heq =>
    obtain ⟨-, rfl⟩ := Prod.mk.inj heq
    exact absurd (h.decimal 'n' (by simp)) (by decide)
  · next heq =>
    obtain ⟨-, rfl⟩ := Prod.mk.inj heq
    rw [scientific?_digits h]
    rfl

include hne

theorem separatedDigits?_digits : separatedDigits? Text.isDecimalDigit digits = some digits := by
  have hall := h.decimal
  clear h
  induction digits with
  | nil => exact absurd rfl hne
  | cons c rest ih =>
    obtain ⟨hc, hrest⟩ := List.forall_mem_cons.mp hall
    cases rest with
    | nil => exact if_pos hc
    | cons d rest =>
      have hd : d ≠ '_' := by
        rintro rfl
        exact absurd (hrest '_' (List.mem_cons_self ..)) (by decide)
      rw [separatedDigits?, if_pos hc, ih (List.cons_ne_nil _ _) hrest]
      · rfl
      · exact nofun
      · exact fun _ hcons => hd (List.cons.inj hcons).1

theorem wholeDigits?_digits : wholeDigits? digits = some digits := by
  unfold wholeDigits?
  split
  · rfl
  · next hzero =>
    exact absurd (List.cons.inj (h.front rfl)).2 hzero
  · exact separatedDigits?_digits h hne

theorem integer?_signed {value : Int} (hvalue : applySign negative magnitude = value)
    (hlow : -0x8000000000000000 ≤ value) (hhigh : value < 0x8000000000000000) :
    integer? (signed negative digits) = some value := by
  have htail := fun c => isDecimalDigit_of_mem_tail (c := c) h negative
  have hsign := splitSign_signed h negative
  generalize signed negative digits = word at htail hsign
  unfold integer?
  split
  · exact absurd (htail 'x' (by simp)) (by decide)
  · exact absurd (htail 'o' (by simp)) (by decide)
  · exact absurd (htail 'b' (by simp)) (by decide)
  · rw [hsign]
    change (wholeDigits? digits).bind _ = _
    rw [wholeDigits?_digits h hne, Option.bind_some, h.meaning, hvalue]
    exact if_pos ⟨hlow, hhigh⟩

end Integers

/-- The value of an entry: a text, or an integer of 64 bits. -/
inductive Atom where
  | text (value : String)
  | integer (value : Int64)

def Atom.value : Atom → Value
  | text value => .text value
  | integer value => .integer value.toInt

/-- The ways to write a value. -/
inductive WritesAtom : Atom → List Char → Prop
  | text {value : String} {pieces : List Char} (h : SpellsText value.toList pieces) :
    WritesAtom (.text value) ('"' :: (pieces ++ ['"']))
  | integer (value : Int64) : WritesAtom (.integer value) (toString value.toInt).toList

def Atom.written : Atom → List Char
  | text value => quoted value
  | integer value => (toString value.toInt).toList

theorem Atom.writesAtom_written (atom : Atom) : WritesAtom atom atom.written := by
  cases atom with
  | text value => exact .text (spellsText_flatMap value.toList)
  | integer value => exact .integer value

theorem isWordChar_of_isDecimalDigit {c : Char} (h : Text.isDecimalDigit c = true) :
    isWordChar c = true := by
  rw [Text.isDecimalDigit] at h
  simp [isWordChar, isBareKeyChar, h]

theorem isWordChar_of_mem_toString {value : Int} {c : Char} (h : c ∈ (toString value).toList) :
    isWordChar c = true := by
  by_cases hminus : c = '-'
  · rw [hminus]
    rfl
  · cases hdigit : Text.isDecimalDigit c with
    | true => exact isWordChar_of_isDecimalDigit hdigit
    | false => exact absurd h (Julia.Numeral.notMem_toString hdigit hminus value)

theorem toList_toString_eq_signed (value : Int) :
    (toString value).toList =
      signed (decide (value < 0)) (Nat.toDigits 10 value.natAbs) := by
  rw [Julia.Numeral.toList_toString, signed]
  by_cases hneg : value < 0
  · rw [if_neg (by omega), if_pos (by simp [hneg]), show (-value).toNat = value.natAbs by omega]
  · rw [if_pos (by omega), if_neg (by simp [hneg]), show value.toNat = value.natAbs by omega]

theorem applySign_natAbs (value : Int) :
    applySign (decide (value < 0)) value.natAbs = value := by
  rw [applySign]
  by_cases hneg : value < 0
  · rw [if_pos (by simp [hneg])]
    omega
  · rw [if_neg (by simp [hneg])]
    omega

theorem wordValue?_toString (value : Int64) :
    wordValue? (toString value.toInt).toList = some (.integer value.toInt) := by
  have hdecimal := Text.isDecimal_toDigits value.toInt.natAbs
  have hne : ∀ c ∈ (toString value.toInt).toList, c ≠ 't' ∧ c ≠ 'f' := by
    intro c hc
    refine ⟨?_, ?_⟩
    all_goals
      rintro rfl
      exact absurd hc (Julia.Numeral.notMem_toString rfl (by decide) value.toInt)
  have htrue : (toString value.toInt).toList ≠ ['t', 'r', 'u', 'e'] := fun h =>
    (hne 't' (h ▸ List.mem_cons_self ..)).1 rfl
  have hfalse : (toString value.toInt).toList ≠ ['f', 'a', 'l', 's', 'e'] := fun h =>
    (hne 'f' (h ▸ List.mem_cons_self ..)).2 rfl
  rw [wordValue?, if_neg htrue, if_neg hfalse, toList_toString_eq_signed, moment?_signed hdecimal,
    decimal?_signed hdecimal]
  simp only [integer?_signed hdecimal Nat.toDigits_ne_nil _ (applySign_natAbs _) value.le_toInt
    value.toInt_lt, Option.map_some]

theorem readWord_toString (value : Int64) {rest : List Char}
    (hrest : ∀ c ∈ rest.head?, isWordChar c = false) :
    readWord ((toString value.toInt).toList ++ rest) = some (.integer value.toInt, rest) := by
  have hrun : ∀ c ∈ (toString value.toInt).toList, isWordChar c = true :=
    fun _ => isWordChar_of_mem_toString
  rw [readWord, Text.takeWhile_run hrun hrest, Text.dropWhile_run hrun hrest, wordValue?_toString]
  rfl

/-- What begins like a word is read as a word. -/
theorem readValue_eq_readWord {first : Char} (h : isWordChar first = true) (depth : Nat)
    (rest : List Char) : readValue depth (first :: rest) = readWord (first :: rest) := by
  have hne : ∀ mark, isWordChar mark = false → first ≠ mark := by
    rintro mark hmark rfl
    rw [hmark] at h
    cases h
  rw [readValue]
  · exact fun _ hcons => hne '"' rfl (List.cons.inj hcons).1
  · exact fun _ hcons => hne '\'' rfl (List.cons.inj hcons).1
  · exact fun _ _ _ hcons => hne '[' rfl (List.cons.inj hcons).1
  · exact fun _ _ _ hcons => hne '\x7b' rfl (List.cons.inj hcons).1

theorem WritesAtom.exists_eq_cons {atom : Atom} {written : List Char}
    (h : WritesAtom atom written) : ∃ first rest, written = first :: rest ∧ IsStart first := by
  cases h with
  | text => exact ⟨'"', _, rfl, Or.inr rfl⟩
  | integer value =>
    have hne : (toString value.toInt).toList ≠ [] := by
      rw [toList_toString_eq_signed]
      cases decide (value.toInt < 0) with
      | false => exact Nat.toDigits_ne_nil
      | true => exact List.cons_ne_nil _ _
    obtain ⟨first, rest, hcons⟩ := List.exists_cons_of_ne_nil hne
    exact ⟨first, rest, hcons, Or.inl (isWordChar_of_mem_toString (hcons ▸ List.mem_cons_self ..))⟩

/-- A value is read up to what follows it, which must neither go on with the word of an integer nor
triple the quotes of a text. -/
theorem readValue_writesAtom {atom : Atom} {written : List Char}
    (h : WritesAtom atom written) (depth : Nat) {rest : List Char}
    (hrest : ∀ c ∈ rest.head?, isWordChar c = false ∧ c ≠ '"') :
    readValue depth (written ++ rest) = some (atom.value, rest) := by
  cases h with
  | text h =>
    have hquote : rest.head? ≠ some '"' := fun hhead => (hrest '"' hhead).2 rfl
    rw [List.cons_append, List.append_assoc, List.singleton_append, readValue,
      readText_spellsText h hquote]
    change some (Value.text (String.ofList _), rest) = _
    rw [String.ofList_toList]
    rfl
  | integer value =>
    have hword := readWord_toString value fun c hc => (hrest c hc).1
    obtain ⟨first, others, hcons, -⟩ := (WritesAtom.integer value).exists_eq_cons
    have hstart : isWordChar first = true :=
      isWordChar_of_mem_toString (hcons ▸ List.mem_cons_self ..)
    rw [hcons, List.cons_append] at hword ⊢
    rw [readValue_eq_readWord hstart, hword]
    rfl

end AbiBindings.Toml
