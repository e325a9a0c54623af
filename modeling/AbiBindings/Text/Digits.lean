/-!
# Digits

Numbers are written in decimal or in hexadecimal, most significant digit first. The value of the
digits that a number is written with is the number.
-/

namespace AbiBindings.Text

def isDecimalDigit (c : Char) : Bool :=
  '0' ≤ c && c ≤ '9'

/-- The value of a hexadecimal digit, in either case. -/
def hexDigit? (c : Char) : Option Nat :=
  if '0' ≤ c ∧ c ≤ '9' then some (c.toNat - '0'.toNat)
  else if 'a' ≤ c ∧ c ≤ 'f' then some (c.toNat - 'a'.toNat + 10)
  else if 'A' ≤ c ∧ c ≤ 'F' then some (c.toNat - 'A'.toNat + 10)
  else none

/-- The number written by the digits; what is no digit counts as zero. -/
def digitsValue (base : Nat) (digits : List Char) : Nat :=
  digits.foldl (fun value c => base * value + (hexDigit? c).getD 0) 0

/-- The number written by decimal digits, of which there is at least one. -/
def decimal? (digits : List Char) : Option Nat :=
  if digits.isEmpty || !digits.all isDecimalDigit then none else some (digitsValue 10 digits)

/-- The lower-case hexadecimal digits of a number, at least `width` of them. -/
def hexDigits (width value : Nat) : List Char :=
  (Nat.toDigits 16 value).leftpad width '0'

theorem hexDigit?_digitChar {digit : Nat} (h : digit < 16) :
    hexDigit? digit.digitChar = some digit := by
  have hall : ∀ digit < 16, hexDigit? digit.digitChar = some digit := by decide
  exact hall digit h

theorem digitsValue_append (base : Nat) (front : List Char) {digit : Nat} (h : digit < 16) :
    digitsValue base (front ++ [digit.digitChar]) = base * digitsValue base front + digit := by
  simp only [digitsValue, List.foldl_append, List.foldl_cons, List.foldl_nil, hexDigit?_digitChar h,
    Option.getD_some]

theorem digitsValue_toDigits {base : Nat} (hlow : 1 < base) (hhigh : base ≤ 16) (value : Nat) :
    digitsValue base (Nat.toDigits base value) = value := by
  induction value using Nat.base_induction base hlow with
  | single digit hdigit =>
    rw [Nat.toDigits_of_lt_base hdigit]
    simp [digitsValue, hexDigit?_digitChar (Nat.lt_of_lt_of_le hdigit hhigh)]
  | digit front digit hdigit hfront ih =>
    rw [← Nat.toDigits_append_toDigits hlow hfront hdigit, Nat.toDigits_of_lt_base hdigit,
      digitsValue_append base _ (Nat.lt_of_lt_of_le hdigit hhigh), ih]

/-- Zeros in front do not change a number. -/
theorem digitsValue_leftpad (base width : Nat) (digits : List Char) :
    digitsValue base (digits.leftpad width '0') = digitsValue base digits := by
  have hzeros : ∀ count, digitsValue base (List.replicate count '0') = 0 := by
    intro count
    induction count with
    | zero => rfl
    | succ count ih =>
      rw [List.replicate_succ', show '0' = Nat.digitChar 0 from rfl,
        digitsValue_append base _ (by decide), show Nat.digitChar 0 = '0' from rfl, ih]
      omega
  have hfold := hzeros (width - digits.length)
  simp only [digitsValue] at hfold
  simp only [List.leftpad, digitsValue, List.foldl_append, hfold]

theorem exists_digit_of_mem_toDigits {base value : Nat} (h : 1 < base) {c : Char}
    (hc : c ∈ Nat.toDigits base value) : ∃ digit < base, c = digit.digitChar := by
  induction value using Nat.base_induction base h with
  | single digit hdigit =>
    rw [Nat.toDigits_of_lt_base hdigit, List.mem_singleton] at hc
    exact ⟨digit, hdigit, hc⟩
  | digit front digit hdigit hfront ih =>
    rw [← Nat.toDigits_append_toDigits h hfront hdigit, Nat.toDigits_of_lt_base hdigit,
      List.mem_append, List.mem_singleton] at hc
    rcases hc with hfront | hlast
    · exact ih hfront
    · exact ⟨digit, hdigit, hlast⟩

theorem isDecimalDigit_of_mem_toDigits {value : Nat} {c : Char} (h : c ∈ Nat.toDigits 10 value) :
    isDecimalDigit c = true := by
  obtain ⟨digit, hdigit, rfl⟩ := exists_digit_of_mem_toDigits (by decide) h
  have hall : ∀ digit < 10, isDecimalDigit digit.digitChar = true := by decide
  exact hall digit hdigit

theorem decimal?_toDigits (value : Nat) : decimal? (Nat.toDigits 10 value) = some value := by
  have hall : (Nat.toDigits 10 value).all isDecimalDigit = true :=
    List.all_eq_true.mpr fun _ => isDecimalDigit_of_mem_toDigits
  have hne : (Nat.toDigits 10 value).isEmpty = false := by simp
  rw [decimal?, hne, hall, digitsValue_toDigits (by decide) (by decide)]
  rfl

theorem notMem_toDigits {c : Char} (h : isDecimalDigit c = false) (number : Nat) :
    c ∉ Nat.toDigits 10 number := by
  intro hc
  rw [isDecimalDigit_of_mem_toDigits hc] at h
  cases h

theorem isDecimalDigit_of_decimal? {digits : List Char} {value : Nat}
    (h : decimal? digits = some value) :
    digits ≠ [] ∧ ∀ c ∈ digits, isDecimalDigit c = true := by
  unfold decimal? at h
  split at h
  · cases h
  · rename_i hdigits
    simp only [Bool.or_eq_true, List.isEmpty_iff, Bool.not_eq_true', not_or, Bool.not_eq_false,
      List.all_eq_true] at hdigits
    exact hdigits

theorem toLower_of_isDecimalDigit {c : Char} (h : isDecimalDigit c = true) :
    c.toLower = c := by
  rw [isDecimalDigit, Bool.and_eq_true, decide_eq_true_iff, decide_eq_true_iff] at h
  have hhigh : c.val.toNat ≤ '9'.val.toNat := UInt32.le_iff_toNat_le.mp h.2
  have hupper : ¬(c.val ≥ 'A'.val ∧ c.val ≤ 'Z'.val) := by
    rintro ⟨hlow, -⟩
    exact absurd (Nat.le_trans (UInt32.le_iff_toNat_le.mp hlow) hhigh) (by decide)
  exact dif_neg hupper

end AbiBindings.Text
