import AbiBindings.Proofs.Constructs
import AbiBindings.Proofs.Numerals
import AbiBindings.Text.Beginning
import Mathlib.Data.Nat.Log

/-!
# Reading literals back

One reader tells the three kinds of literals apart by how they begin, and gives back the value that
was written. A quoted text ends at the first quote that is not escaped, whatever follows it. A
number ends where its digits do, so only what could go on with it must not follow.
-/

namespace AbiBindings

namespace Text

/-- A number has as many digits as its logarithm says, and zero has one. -/
theorem length_toDigits {base : Nat} (hbase : 1 < base) (value : Nat) :
    (Nat.toDigits base value).length = Nat.log base value + 1 := by
  have hle : (Nat.toDigits base value).length ≤ Nat.log base value + 1 :=
    (Nat.length_toDigits_le_iff hbase (Nat.succ_pos _)).mpr (Nat.lt_pow_succ_log_self hbase value)
  have hge : ¬(Nat.toDigits base value).length ≤ Nat.log base value := by
    intro hshort
    have hpos : 0 < (Nat.toDigits base value).length :=
      List.length_pos_iff.mpr Nat.toDigits_ne_nil
    have hvalue : value < base ^ Nat.log base value :=
      (Nat.length_toDigits_le_iff hbase (Nat.lt_of_lt_of_le hpos hshort)).mp hshort
    have hne : value ≠ 0 := by
      rintro rfl
      rw [Nat.log_zero_right] at hshort
      omega
    exact absurd (Nat.pow_log_le_self base hne) (Nat.not_le.mpr hvalue)
  omega

/-- Only zero is written with a zero in front. -/
theorem head?_toDigits_ne_zero {base : Nat} (hlow : 1 < base) (hhigh : base ≤ 16) {value : Nat}
    (h : value ≠ 0) : (Nat.toDigits base value).head? ≠ some '0' := by
  induction value using Nat.base_induction base hlow with
  | single digit hdigit =>
    have hall : ∀ digit < 16, digit ≠ 0 → [digit.digitChar].head? ≠ some '0' := by decide
    rw [Nat.toDigits_of_lt_base hdigit]
    exact hall digit (Nat.lt_of_lt_of_le hdigit hhigh) h
  | digit front digit hdigit hfront ih =>
    obtain ⟨c, rest, hdigits⟩ := List.exists_cons_of_ne_nil (@Nat.toDigits_ne_nil front base)
    rw [← Nat.toDigits_append_toDigits hlow hfront hdigit, hdigits]
    have hhead := ih (Nat.ne_of_gt hfront)
    rwa [hdigits] at hhead

/-- The digits of a number without zeros in front. -/
structure IsDecimal (digits : List Char) (value : Nat) : Prop where
  decimal : ∀ c ∈ digits, isDecimalDigit c = true
  meaning : digitsValue 10 digits = value
  front : digits.head? = some '0' → digits = ['0']

theorem isDecimal_toDigits (value : Nat) : IsDecimal (Nat.toDigits 10 value) value where
  decimal _ := isDecimalDigit_of_mem_toDigits
  meaning := digitsValue_toDigits (by decide) (by decide) value
  front h := by
    by_cases hzero : value = 0
    · subst hzero
      rfl
    · exact absurd h (head?_toDigits_ne_zero (by decide) (by decide) hzero)

/-- The lower-case hexadecimal digits of a number, filled up to a width with zeros. -/
structure IsHexadecimal (width : Nat) (digits : List Char) (value : Nat) : Prop where
  lowerCase : ∀ c ∈ digits, ('0' ≤ c ∧ c ≤ '9') ∨ ('a' ≤ c ∧ c ≤ 'f')
  meaning : digitsValue 16 digits = value
  length : digits.length = max width (Nat.log 16 value + 1)

theorem isHexadecimal_hexDigits (width value : Nat) :
    IsHexadecimal width (hexDigits width value) value where
  lowerCase := by
    intro c hc
    rw [hexDigits, List.leftpad, List.mem_append] at hc
    rcases hc with hzero | hdigit
    · rw [(List.mem_replicate.mp hzero).2]
      decide
    · obtain ⟨digit, hlt, rfl⟩ := exists_digit_of_mem_toDigits (by decide) hdigit
      have hall : ∀ digit < 16, ('0' ≤ digit.digitChar ∧ digit.digitChar ≤ '9') ∨
          ('a' ≤ digit.digitChar ∧ digit.digitChar ≤ 'f') := by decide
      exact hall digit hlt
  meaning := by rw [hexDigits, digitsValue_leftpad, digitsValue_toDigits (by decide) (by decide)]
  length := by rw [hexDigits, List.length_leftpad, length_toDigits (by decide)]

/-- A number that fits a width has exactly that many digits. -/
theorem length_hexDigits {width value : Nat} (h : Nat.log 16 value < width) :
    (hexDigits width value).length = width := by
  rw [(isHexadecimal_hexDigits width value).length]
  exact Nat.max_eq_left h

end Text

namespace Julia.Literal

/-- What an escaped character stands for: a line feed for the letter n, and itself for any other. -/
def escaped (c : Char) : Char :=
  if c = 'n' then '\n' else c

/-- The text between quotes, with the escapes undone. -/
def unescape : List Char → List Char
  | '\\' :: c :: rest => escaped c :: unescape rest
  | c :: rest => c :: unescape rest
  | [] => []

/-- What stands before the first quote that is not escaped, and what follows the quote. -/
def untilQuote? : List Char → Option (List Char × List Char)
  | '"' :: rest => some ([], rest)
  | '\\' :: c :: rest => (untilQuote? rest).map fun found => ('\\' :: c :: found.1, found.2)
  | c :: rest => (untilQuote? rest).map fun found => (c :: found.1, found.2)
  | [] => none

/-- Every backslash begins an escape of the four known ones, and outside of these there is neither a
dollar sign nor a quote. -/
def IsEscaped : List Char → Prop
  | '\\' :: c :: rest => (c = '"' ∨ c = '\\' ∨ c = '$' ∨ c = 'n') ∧ IsEscaped rest
  | c :: rest => c ≠ '"' ∧ c ≠ '\\' ∧ c ≠ '$' ∧ IsEscaped rest
  | [] => True

/-- The number written by the digits here, of which there is at least one. -/
def readDigits? (base : Nat) (isDigit : Char → Bool) (cs : List Char) :
    Option (Nat × List Char) :=
  let digits := cs.takeWhile isDigit
  if digits.isEmpty then none else some (Text.digitsValue base digits, cs.dropWhile isDigit)

/-- The literal that begins here, and what follows it. -/
def read? : List Char → Option (Literal × List Char)
  | '"' :: rest =>
    (untilQuote? rest).map fun found => (text (String.ofList (unescape found.1)), found.2)
  | '0' :: 'x' :: rest =>
    (readDigits? 16 Numeral.isHexDigit rest).map fun found => (bits found.1, found.2)
  | '-' :: rest =>
    (readDigits? 10 Text.isDecimalDigit rest).map fun found => (int (-(found.1 : Int)), found.2)
  | cs => (readDigits? 10 Text.isDecimalDigit cs).map fun found => (int found.1, found.2)

theorem escapeChar_cases (c : Char) :
    ((c = '"' ∨ c = '\\' ∨ c = '$') ∧ escapeChar c = ['\\', c]) ∨
      (c = '\n' ∧ escapeChar c = ['\\', 'n']) ∨
      ((c ≠ '"' ∧ c ≠ '\\' ∧ c ≠ '$') ∧ escapeChar c = [c]) := by
  unfold escapeChar
  by_cases hmark : c = '"' ∨ c = '\\' ∨ c = '$'
  · exact Or.inl ⟨hmark, if_pos hmark⟩
  · rw [if_neg hmark]
    by_cases hnewline : c = '\n'
    · exact Or.inr (Or.inl ⟨hnewline, if_pos hnewline⟩)
    · rw [not_or, not_or] at hmark
      exact Or.inr (Or.inr ⟨hmark, if_neg hnewline⟩)

theorem unescape_cons {c : Char} (h : c ≠ '\\') (rest : List Char) :
    unescape (c :: rest) = c :: unescape rest := by
  rw [unescape]
  exact fun _ _ hc _ => h hc

theorem isEscaped_cons {c : Char} (h : c ≠ '\\') (rest : List Char) :
    IsEscaped (c :: rest) ↔ c ≠ '"' ∧ c ≠ '\\' ∧ c ≠ '$' ∧ IsEscaped rest := by
  rw [IsEscaped]
  exact fun _ _ hc _ => h hc

theorem unescape_escapeChar (c : Char) (rest : List Char) :
    unescape (escapeChar c ++ rest) = c :: unescape rest := by
  rcases escapeChar_cases c with ⟨hmark, hchars⟩ | ⟨rfl, hchars⟩ | ⟨⟨-, hslash, -⟩, hchars⟩
  · have hself : escaped c = c := by
      rcases hmark with rfl | rfl | rfl <;> rfl
    rw [hchars]
    change escaped c :: unescape rest = c :: unescape rest
    rw [hself]
  · rw [hchars]
    rfl
  · rw [hchars]
    exact unescape_cons hslash rest

theorem isEscaped_escapeChar (c : Char) (rest : List Char) :
    IsEscaped (escapeChar c ++ rest) ↔ IsEscaped rest := by
  rcases escapeChar_cases c with ⟨hmark, hchars⟩ | ⟨rfl, hchars⟩ | ⟨hplain, hchars⟩
  · rw [hchars]
    change (c = '"' ∨ c = '\\' ∨ c = '$' ∨ c = 'n') ∧ IsEscaped rest ↔ IsEscaped rest
    refine and_iff_right ?_
    rcases hmark with rfl | rfl | rfl <;> simp
  · rw [hchars]
    change ('n' = '"' ∨ 'n' = '\\' ∨ 'n' = '$' ∨ 'n' = 'n') ∧ IsEscaped rest ↔ IsEscaped rest
    exact and_iff_right (by simp)
  · rw [hchars, List.singleton_append, isEscaped_cons hplain.2.1]
    obtain ⟨hquote, hslash, hdollar⟩ := hplain
    simp [hquote, hslash, hdollar]

/-- What is between the quotes of a written text. -/
def body (s : List Char) : List Char :=
  s.flatMap escapeChar

theorem unescape_body (s : List Char) : unescape (body s) = s := by
  induction s with
  | nil => rfl
  | cons c rest ih =>
    change unescape (escapeChar c ++ body rest) = c :: rest
    rw [unescape_escapeChar, ih]

theorem isEscaped_body (s : List Char) : IsEscaped (body s) := by
  induction s with
  | nil => trivial
  | cons c rest ih => exact (isEscaped_escapeChar c (body rest)).mpr ih

theorem newline_notMem_body (s : List Char) : '\n' ∉ body s := by
  intro h
  obtain ⟨c, -, hc⟩ := List.mem_flatMap.mp h
  exact newline_notMem_escapeChar c hc

/-- No quote within an escaped text ends it, so the first one after it does. -/
theorem untilQuote?_of_isEscaped {cs : List Char} (h : IsEscaped cs) (rest : List Char) :
    untilQuote? (cs ++ '"' :: rest) = some (cs, rest) := by
  fun_induction IsEscaped cs with
  | case1 c tail ih =>
    change (untilQuote? (tail ++ '"' :: rest)).map _ = _
    rw [ih h.2, Option.map_some]
  | case2 c tail hescape ih =>
    obtain ⟨hquote, hslash, -, htail⟩ := h
    rw [List.cons_append, untilQuote?, ih htail, Option.map_some]
    · exact hquote
    · exact fun _ _ hc _ => hslash hc
  | case3 => rfl

theorem toList_quote (s : String) : (quote s).toList = '"' :: (body s.toList ++ ['"']) := by
  rw [quote, String.toList_ofList]
  rfl

/-- What is between the quotes of a written text: the first quote that is not escaped is the one
after it, it has one line, every special character in it is escaped, and undoing the escapes gives
the text. -/
structure IsBody (inner s : List Char) : Prop where
  closing : untilQuote? (inner ++ ['"']) = some (inner, [])
  escaped : IsEscaped inner
  newline : '\n' ∉ inner
  meaning : unescape inner = s

theorem isBody_body (s : List Char) : IsBody (body s) s where
  closing := untilQuote?_of_isEscaped (isEscaped_body s) []
  escaped := isEscaped_body s
  newline := newline_notMem_body s
  meaning := unescape_body s

/-- How each kind of literal is written. -/
def IsWritten (width : Nat) : Literal → List Char → Prop
  | int value, cs =>
    ∃ digits, Text.IsDecimal digits value.natAbs ∧
      cs = if value < 0 then '-' :: digits else digits
  | bits value, cs => ∃ digits, Text.IsHexadecimal width digits value ∧ cs = '0' :: 'x' :: digits
  | text value, cs => ∃ inner, IsBody inner value.toList ∧ cs = '"' :: (inner ++ ['"'])

/-- What follows a literal does not go on with it: a text may be followed by anything, a number by
nothing or by what is neither a digit nor the mark of hexadecimal digits. -/
def EndsBefore : Literal → List Char → Prop
  | text _, _ => True
  | _, rest => ∀ c ∈ rest.head?, Numeral.isHexDigit c = false ∧ c ≠ 'x'

theorem isWritten_render (width : Nat) (v : Literal) :
    v.IsWritten width (v.render width).toList := by
  cases v with
  | int value =>
    refine ⟨Nat.toDigits 10 value.natAbs, Text.isDecimal_toDigits value.natAbs, ?_⟩
    rw [render, Numeral.toList_toString]
    by_cases hneg : value < 0
    · rw [if_pos hneg, if_neg (by omega), show (-value).toNat = value.natAbs by omega]
    · rw [if_neg hneg, if_pos (by omega), show value.toNat = value.natAbs by omega]
  | bits value =>
    exact ⟨Text.hexDigits width value, Text.isHexadecimal_hexDigits width value,
      Numeral.toList_bits width value⟩
  | text value => exact ⟨body value.toList, isBody_body value.toList, toList_quote value⟩

/-- Digits are read up to what is none. -/
theorem readDigits?_append {base : Nat} {isDigit : Char → Bool} {digits rest : List Char}
    (hne : digits ≠ []) (hdigits : ∀ c ∈ digits, isDigit c = true)
    (hrest : ∀ c ∈ rest.head?, isDigit c = false) :
    readDigits? base isDigit (digits ++ rest) = some (Text.digitsValue base digits, rest) := by
  rw [readDigits?, Text.takeWhile_run hdigits hrest, Text.dropWhile_run hdigits hrest]
  exact if_neg (by simpa using hne)

theorem isHexDigit_of_isDecimalDigit {c : Char} (h : Text.isDecimalDigit c = true) :
    Numeral.isHexDigit c = true := by
  rw [Text.isDecimalDigit, Bool.and_eq_true, decide_eq_true_iff, decide_eq_true_iff] at h
  rw [Numeral.isHexDigit, Text.hexDigit?, if_pos h, Option.isSome_some]

theorem isDecimalDigit_eq_false {c : Char} (h : Numeral.isHexDigit c = false) :
    Text.isDecimalDigit c = false := by
  rw [← Bool.not_eq_true]
  intro hdigit
  rw [isHexDigit_of_isDecimalDigit hdigit] at h
  cases h

/-- Decimal digits are not taken for any other literal. -/
theorem read?_digits {digits rest : List Char} (hne : digits ≠ [])
    (hdigits : ∀ c ∈ digits, Text.isDecimalDigit c = true)
    (hrest : ∀ c ∈ rest.head?, Numeral.isHexDigit c = false ∧ c ≠ 'x') :
    read? (digits ++ rest) = some (int (Text.digitsValue 10 digits), rest) := by
  have hend : ∀ c ∈ rest.head?, Text.isDecimalDigit c = false :=
    fun c hc => isDecimalDigit_eq_false (hrest c hc).1
  obtain ⟨first, tail, rfl⟩ := List.exists_cons_of_ne_nil hne
  have hfirst := hdigits first (List.mem_cons_self ..)
  have hread := @readDigits?_append 10 _ _ _ hne hdigits hend
  rw [List.cons_append] at hread ⊢
  unfold read?
  split
  · next heq =>
    obtain ⟨rfl, -⟩ := List.cons.inj heq
    exact absurd hfirst (by decide)
  · next after heq =>
    obtain ⟨rfl, htail⟩ := List.cons.inj heq
    cases tail with
    | nil =>
      have hx : 'x' ∈ rest.head? := by simp [show rest = 'x' :: after from htail]
      exact absurd rfl (hrest 'x' hx).2
    | cons second tail =>
      obtain ⟨rfl, -⟩ := List.cons.inj htail
      exact absurd (hdigits 'x' (by simp)) (by decide)
  · next heq =>
    obtain ⟨rfl, -⟩ := List.cons.inj heq
    exact absurd hfirst (by decide)
  · rw [hread, Option.map_some]

theorem read?_render (width : Nat) (v : Literal) {rest : List Char} (h : v.EndsBefore rest) :
    read? ((v.render width).toList ++ rest) = some (v, rest) := by
  cases v with
  | int value =>
    have hdecimal := Text.isDecimal_toDigits value.natAbs
    rw [render, Numeral.toList_toString]
    by_cases hneg : value < 0
    · have hend : ∀ c ∈ rest.head?, Text.isDecimalDigit c = false :=
        fun c hc => isDecimalDigit_eq_false (h c hc).1
      rw [if_neg (by omega), show (-value).toNat = value.natAbs by omega]
      change (readDigits? 10 Text.isDecimalDigit (Nat.toDigits 10 value.natAbs ++ rest)).map _ = _
      rw [readDigits?_append Nat.toDigits_ne_nil hdecimal.decimal hend, hdecimal.meaning,
        Option.map_some, show -(value.natAbs : Int) = value by omega]
    · rw [if_pos (by omega), show value.toNat = value.natAbs by omega,
        read?_digits Nat.toDigits_ne_nil hdecimal.decimal h, hdecimal.meaning,
        show (value.natAbs : Int) = value by omega]
  | bits value =>
    have hhex := Text.isHexadecimal_hexDigits width value
    rw [Numeral.toList_bits]
    change (readDigits? 16 Numeral.isHexDigit (Text.hexDigits width value ++ rest)).map _ = _
    rw [readDigits?_append (Numeral.hexDigits_ne_nil width value)
      (fun _ => Numeral.isHexDigit_of_mem_hexDigits) (fun c hc => (h c hc).1), hhex.meaning,
      Option.map_some]
  | text value =>
    rw [render, toList_quote, List.cons_append, List.append_assoc, List.singleton_append]
    change (untilQuote? (body value.toList ++ '"' :: rest)).map _ = _
    rw [untilQuote?_of_isEscaped (isEscaped_body value.toList), Option.map_some, unescape_body,
      String.ofList_toList]

/-- Every literal is written in the form of its kind, and reading it gives back the value, its kind
and what follows. -/
theorem written_and_read (width : Nat) (v : Literal) {rest : List Char} (h : v.EndsBefore rest) :
    v.IsWritten width (v.render width).toList ∧
      read? ((v.render width).toList ++ rest) = some (v, rest) :=
  ⟨v.isWritten_render width, v.read?_render width h⟩

/-- A text of nothing but special characters, with backslashes before a quote, followed by another
quote; and numbers that end at a parenthesis, at a blank and with the file. -/
theorem specialText_and_numbers_read :
    read? ((render 0 (text "\\\\\"$\n")).toList ++ ['"', '$']) =
        some (text "\\\\\"$\n", ['"', '$']) ∧
      ((int (-9223372036854775808)).EndsBefore [')'] ∧
        read? ((render 0 (int (-9223372036854775808))).toList ++ [')']) =
          some (int (-9223372036854775808), [')'])) ∧
      ((bits 0xefc00).EndsBefore [' ', '#'] ∧
        read? ((render 8 (bits 0xefc00)).toList ++ [' ', '#']) =
          some (bits 0xefc00, [' ', '#'])) ∧
      (bits 18446744073709551615).EndsBefore [] ∧
        read? ((render 1 (bits 18446744073709551615)).toList ++ []) =
          some (bits 18446744073709551615, []) := by
  have hint : (int (-9223372036854775808)).EndsBefore [')'] := by
    rintro c ⟨⟩
    decide
  have hpadded : (bits 0xefc00).EndsBefore [' ', '#'] := by
    rintro c ⟨⟩
    decide
  have hlong : (bits 18446744073709551615).EndsBefore [] := nofun
  exact ⟨(written_and_read 0 (text "\\\\\"$\n") trivial).2, ⟨hint, (written_and_read 0 _ hint).2⟩,
    ⟨hpadded, (written_and_read 8 _ hpadded).2⟩, hlong, (written_and_read 1 _ hlong).2⟩

end Julia.Literal

end AbiBindings
