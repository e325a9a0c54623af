import AbiBindings.Julia.Token
import AbiBindings.Text.Line

/-!
# Reading numbers back

Written numbers are read as a program would read them: blanks do not count, a number may be the
argument of a constructor and have a minus sign, and hexadecimal digits follow a mark. Whatever
base a number is written in, and however it is filled up, reading gives the number back.
-/

namespace AbiBindings.Julia.Numeral

def isHexDigit (c : Char) : Bool :=
  (Text.hexDigit? c).isSome

theorem isHexDigit_of_mem_hexDigits {width value : Nat} {c : Char}
    (h : c ∈ Text.hexDigits width value) : isHexDigit c = true := by
  rw [Text.hexDigits, List.leftpad, List.mem_append] at h
  rcases h with hzero | hdigit
  · rw [(List.mem_replicate.mp hzero).2]
    rfl
  · obtain ⟨digit, hlt, rfl⟩ := Text.exists_digit_of_mem_toDigits (by decide) hdigit
    rw [isHexDigit, Text.hexDigit?_digitChar hlt, Option.isSome_some]

theorem hexDigits_ne_nil (width value : Nat) : Text.hexDigits width value ≠ [] := by
  simp [Text.hexDigits, List.leftpad]

/-- The digits of a number with the mark of hexadecimal ones. -/
def hexadecimal? : List Char → Option (List Char)
  | '0' :: 'x' :: digits =>
    if digits.isEmpty || !digits.all isHexDigit then none else some digits
  | _ => none

theorem hexadecimal?_hexDigits (width value : Nat) :
    hexadecimal? ('0' :: 'x' :: Text.hexDigits width value) =
      some (Text.hexDigits width value) := by
  have hall : (Text.hexDigits width value).all isHexDigit = true :=
    List.all_eq_true.mpr fun _ => isHexDigit_of_mem_hexDigits
  have hne : (Text.hexDigits width value).isEmpty = false := by
    simpa using hexDigits_ne_nil width value
  rw [hexadecimal?, hall, hne]
  rfl

theorem hexadecimal?_toDigits (value : Nat) : hexadecimal? (Nat.toDigits 10 value) = none := by
  unfold hexadecimal?
  split
  · next digits heq =>
    have hmark : 'x' ∈ Nat.toDigits 10 value := by simp [heq]
    exact absurd (Text.isDecimalDigit_of_mem_toDigits hmark) (by decide)
  · rfl

/-- The natural number that digits write. -/
def magnitude? (cs : List Char) : Option Nat :=
  match hexadecimal? cs with
  | some digits => some (Text.digitsValue 16 digits)
  | none => Text.decimal? cs

theorem magnitude?_toDigits (value : Nat) : magnitude? (Nat.toDigits 10 value) = some value := by
  rw [magnitude?, hexadecimal?_toDigits, Text.decimal?_toDigits]

theorem magnitude?_hexDigits (width value : Nat) :
    magnitude? ('0' :: 'x' :: Text.hexDigits width value) = some value := by
  have hvalue : Text.digitsValue 16 (Text.hexDigits width value) = value := by
    rw [Text.hexDigits, Text.digitsValue_leftpad, Text.digitsValue_toDigits (by decide) (by decide)]
  simp only [magnitude?, hexadecimal?_hexDigits, hvalue]

/-- The integer that digits with an optional minus sign write. -/
def integer? : List Char → Option Int
  | '-' :: rest => (magnitude? rest).map fun value : Nat => -(value : Int)
  | cs => (magnitude? cs).map fun value : Nat => (value : Int)

theorem toList_toString (value : Int) :
    (toString value).toList =
      if 0 ≤ value then Nat.toDigits 10 value.toNat else '-' :: Nat.toDigits 10 (-value).toNat := by
  rw [Int.toString_eq_repr, Int.repr_eq_if]
  split
  · exact Nat.toList_repr
  · rw [String.toList_append, Nat.toList_repr]
    rfl

theorem integer?_toString (value : Int) : integer? (toString value).toList = some value := by
  rw [toList_toString]
  split
  · next hpos =>
    unfold integer?
    split
    · next rest heq =>
      have hminus : '-' ∈ Nat.toDigits 10 value.toNat := by simp [heq]
      exact absurd (Text.isDecimalDigit_of_mem_toDigits hminus) (by decide)
    · rw [magnitude?_toDigits, Option.map_some, Int.toNat_of_nonneg hpos]
  · next hneg =>
    rw [integer?, magnitude?_toDigits, Option.map_some, Int.toNat_of_nonneg (by omega), Int.neg_neg]

theorem notMem_toString {c : Char} (hdigit : Text.isDecimalDigit c = false) (hminus : c ≠ '-')
    (value : Int) : c ∉ (toString value).toList := by
  rw [toList_toString]
  intro hc
  split at hc
  · rw [Text.isDecimalDigit_of_mem_toDigits hc] at hdigit
    exact absurd hdigit (by decide)
  · rcases List.mem_cons.mp hc with rfl | hc
    · exact hminus rfl
    · rw [Text.isDecimalDigit_of_mem_toDigits hc] at hdigit
      exact absurd hdigit (by decide)

def skipSpaces (cs : List Char) : List Char :=
  cs.dropWhile (· == ' ')

theorem skipSpaces_of_notMem {cs : List Char} (h : ' ' ∉ cs) : skipSpaces cs = cs := by
  cases cs with
  | nil => rfl
  | cons c rest =>
    have hne : c ≠ ' ' := fun hc => h (by simp [hc])
    simp [skipSpaces, hne]

theorem skipSpaces_leftpad {cs : List Char} (h : ' ' ∉ cs) (width : Nat) :
    skipSpaces (cs.leftpad width ' ') = cs := by
  have hblanks : ∀ c ∈ List.replicate (width - cs.length) ' ', (c == ' ') = true := by
    intro c hc
    rw [(List.mem_replicate.mp hc).2]
    rfl
  rw [List.leftpad, skipSpaces, List.dropWhile_append_of_pos hblanks]
  exact skipSpaces_of_notMem h

theorem skipSpaces_call {name : List Char} (h : ' ' ∉ name) (rest : List Char) :
    skipSpaces (name ++ '(' :: rest) = name ++ '(' :: rest := by
  cases name with
  | nil => rfl
  | cons c name =>
    have hne : c ≠ ' ' := fun hc => h (by simp [hc])
    simp [skipSpaces, hne]

theorem bne_of_notMem {c : Char} {cs : List Char} (h : c ∉ cs) : ∀ d ∈ cs, (d != c) = true := by
  intro d hd
  rw [bne_iff_ne]
  rintro rfl
  exact h hd

/-- What stands between the parentheses of a call; anything else is left as it is. -/
def argument? (cs : List Char) : Option (List Char) :=
  match cs.dropWhile (· != '(') with
  | [] => some cs
  | _ :: rest => if rest.getLast? = some ')' then some rest.dropLast else none

theorem argument?_of_notMem {cs : List Char} (h : '(' ∉ cs) : argument? cs = some cs := by
  have hdrop : cs.dropWhile (· != '(') = [] := by
    simpa using @List.dropWhile_append_of_pos Char _ cs [] (bne_of_notMem h)
  simp only [argument?, hdrop]

theorem argument?_call {name : List Char} (h : '(' ∉ name) (argument : List Char) :
    argument? (name ++ '(' :: (argument ++ [')'])) = some argument := by
  have hdrop : (name ++ '(' :: (argument ++ [')'])).dropWhile (· != '(') =
      '(' :: (argument ++ [')']) := by
    rw [List.dropWhile_append_of_pos (bne_of_notMem h)]
    rfl
  simp only [argument?, hdrop, List.getLast?_concat, if_true, List.dropLast_concat]

/-- The number that a text writes. -/
def read? (text : String) : Option Int :=
  (argument? (skipSpaces text.toList)).bind fun cs => integer? (skipSpaces cs)

theorem read?_padLeft (width : Nat) (value : Int) :
    read? (Text.padLeft width (toString value)) = some value := by
  have hspace := notMem_toString (c := ' ') rfl (by decide) value
  have hparen := notMem_toString (c := '(') rfl (by decide) value
  rw [read?, Text.padLeft, String.toList_ofList, skipSpaces_leftpad hspace,
    argument?_of_notMem hparen, Option.bind_some, skipSpaces_of_notMem hspace, integer?_toString]

/-- A number in a constructor call, filled up to a width. -/
theorem read?_call {name : String} (hspace : ' ' ∉ name.toList) (hparen : '(' ∉ name.toList)
    (width : Nat) (value : Int) :
    read? (name ++ "(" ++ Text.padLeft width (toString value) ++ ")") = some value := by
  have hargument := notMem_toString (c := ' ') rfl (by decide) value
  have htext : (name ++ "(" ++ Text.padLeft width (toString value) ++ ")").toList =
      name.toList ++ '(' :: ((toString value).toList.leftpad width ' ' ++ [')']) := by
    simp [Text.padLeft]
  rw [read?, htext, skipSpaces_call hspace, argument?_call hparen, Option.bind_some,
    skipSpaces_leftpad hargument, integer?_toString]

theorem read?_call_unpadded {name : String} (hspace : ' ' ∉ name.toList)
    (hparen : '(' ∉ name.toList) (value : Int) :
    read? (name ++ "(" ++ toString value ++ ")") = some value := by
  rw [← read?_call hspace hparen 0 value, Text.padLeft_zero]

theorem toList_bits (width value : Nat) :
    (Literal.render width (.bits value)).toList = '0' :: 'x' :: Text.hexDigits width value := by
  simp [Literal.render]

theorem notMem_bits (width value : Nat) :
    '(' ∉ (Literal.render width (.bits value)).toList := by
  rw [toList_bits]
  intro h
  have hdigit : '(' ∈ Text.hexDigits width value := by simpa using h
  exact absurd (isHexDigit_of_mem_hexDigits hdigit) (by decide)

theorem read?_bits (width value : Nat) :
    read? (Literal.render width (.bits value)) = some (value : Int) := by
  have hparen := notMem_bits width value
  rw [toList_bits] at hparen
  have hspace : ∀ rest, skipSpaces ('0' :: rest) = '0' :: rest := fun _ => rfl
  rw [read?, toList_bits, hspace, argument?_of_notMem hparen, Option.bind_some, hspace]
  change (magnitude? ('0' :: 'x' :: Text.hexDigits width value)).map (fun n : Nat => (n : Int)) = _
  rw [magnitude?_hexDigits, Option.map_some]

/-- What stands before the parenthesis of a call; nothing if there is no parenthesis. -/
def constructorName (text : String) : String :=
  let cs := skipSpaces text.toList
  if '(' ∈ cs then String.ofList (cs.takeWhile (· != '(')) else ""

theorem constructorName_of_notMem {text : String} (h : '(' ∉ text.toList) :
    constructorName text = "" := by
  have hskip : '(' ∉ skipSpaces text.toList := fun hmem =>
    h ((List.dropWhile_suffix _).subset hmem)
  simp only [constructorName, if_neg hskip]

theorem constructorName_call {name : String} (hspace : ' ' ∉ name.toList)
    (hparen : '(' ∉ name.toList) (argument : String) :
    constructorName (name ++ "(" ++ argument ++ ")") = name := by
  have htext : (name ++ "(" ++ argument ++ ")").toList =
      name.toList ++ '(' :: (argument.toList ++ [')']) := by
    simp
  have htake : (name.toList ++ '(' :: (argument.toList ++ [')'])).takeWhile (· != '(') =
      name.toList := by
    rw [List.takeWhile_append_of_pos (bne_of_notMem hparen)]
    simp
  have hmem : '(' ∈ name.toList ++ '(' :: (argument.toList ++ [')']) := by simp
  simp only [constructorName, htext, skipSpaces_call hspace, if_pos hmem, htake,
    String.ofList_toList]

/-- A number with the name of its constructor, which is empty if there is none. -/
structure Reading where
  constructor : String
  value : Int
  deriving DecidableEq

def reading? (text : String) : Option Reading :=
  (read? text).map fun value => ⟨constructorName text, value⟩

theorem reading?_call {name : String} (hspace : ' ' ∉ name.toList) (hparen : '(' ∉ name.toList)
    (width : Nat) (value : Int) :
    reading? (name ++ "(" ++ Text.padLeft width (toString value) ++ ")") = some ⟨name, value⟩ := by
  rw [reading?, read?_call hspace hparen, Option.map_some, constructorName_call hspace hparen]

theorem reading?_call_unpadded {name : String} (hspace : ' ' ∉ name.toList)
    (hparen : '(' ∉ name.toList) (value : Int) :
    reading? (name ++ "(" ++ toString value ++ ")") = some ⟨name, value⟩ := by
  rw [← reading?_call hspace hparen 0 value, Text.padLeft_zero]

theorem reading?_of_notMem {text : String} {value : Int} (h : '(' ∉ text.toList)
    (hread : read? text = some value) : reading? text = some ⟨"", value⟩ := by
  rw [reading?, hread, Option.map_some, constructorName_of_notMem h]

theorem reading?_padLeft (width : Nat) (value : Int) :
    reading? (Text.padLeft width (toString value)) = some ⟨"", value⟩ := by
  refine reading?_of_notMem ?_ (read?_padLeft width value)
  rw [Text.padLeft, String.toList_ofList, List.leftpad, List.mem_append]
  rintro (hblank | hdigit)
  · exact absurd (List.mem_replicate.mp hblank).2 (by decide)
  · exact notMem_toString rfl (by decide) value hdigit

theorem reading?_toString (value : Int) : reading? (toString value) = some ⟨"", value⟩ := by
  rw [← reading?_padLeft 0 value, Text.padLeft_zero]

theorem reading?_natural (value : Nat) : reading? (toString value) = some ⟨"", value⟩ :=
  reading?_toString value

/-- A text with an opening parenthesis is a call only if it ends with the closing one. -/
theorem argument?_eq_none {cs : List Char} (h : '(' ∈ cs) (hlast : cs.getLast? ≠ some ')') :
    argument? cs = none := by
  obtain ⟨front, rest, rfl, hfront⟩ := List.eq_append_cons_of_mem h
  have hdrop : (front ++ '(' :: rest).dropWhile (· != '(') = '(' :: rest := by
    rw [List.dropWhile_append_of_pos (bne_of_notMem hfront)]
    rfl
  have hrest : rest.getLast? ≠ some ')' := by
    intro hclosing
    rw [List.getLast?_append, List.getLast?_cons, hclosing] at hlast
    exact hlast rfl
  simp only [argument?, hdrop, if_neg hrest]

theorem integer?_quotationMark (rest : List Char) : integer? ('"' :: rest) = none := by
  have hhex : hexadecimal? ('"' :: rest) = none := rfl
  have hdigit : Text.isDecimalDigit '"' = false := rfl
  change (magnitude? ('"' :: rest)).map (fun n : Nat => (n : Int)) = none
  simp only [magnitude?, hhex, Text.decimal?, List.all_cons, hdigit, Bool.false_and, Bool.not_false,
    Bool.or_true, if_true, Option.map_none]

/-- A quoted text is no number: its last character is no parenthesis, and its first no digit. -/
theorem reading?_quote (text : String) : reading? (Literal.quote text) = none := by
  obtain ⟨body, htext⟩ : ∃ body, (Literal.quote text).toList = '"' :: (body ++ ['"']) :=
    ⟨text.toList.flatMap Literal.escapeChar, by simp [Literal.quote]⟩
  have hspace : ∀ rest, skipSpaces ('"' :: rest) = '"' :: rest := fun _ => rfl
  have hread : read? (Literal.quote text) = none := by
    rw [read?, htext, hspace]
    by_cases hparen : '(' ∈ '"' :: (body ++ ['"'])
    · have hlast : ('"' :: (body ++ ['"'])).getLast? ≠ some ')' := by simp [List.getLast?_cons]
      rw [argument?_eq_none hparen hlast, Option.bind_none]
    · rw [argument?_of_notMem hparen, Option.bind_some, hspace, integer?_quotationMark]
  rw [reading?, hread, Option.map_none]

/-- The number that a literal stands for. -/
def ofLiteral? : Literal → Option Int
  | .int value => some value
  | .bits value => some (value : Int)
  | .text _ => none

theorem reading?_render (width : Nat) (literal : Literal) :
    reading? (literal.render width) =
      (ofLiteral? literal).map fun value => ⟨"", value⟩ := by
  cases literal with
  | int value => exact reading?_toString value
  | bits value => exact reading?_of_notMem (notMem_bits width value) (read?_bits width value)
  | text value => exact reading?_quote value

end AbiBindings.Julia.Numeral
