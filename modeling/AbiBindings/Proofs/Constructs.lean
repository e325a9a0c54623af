import AbiBindings.Julia.Declaration
import AbiBindings.Julia.Token

/-!
# What leaves a construct

A text in a comment, a docstring or a quoted literal can end the construct or be read as something
else. Each construct has its own dangerous characters, and the text around a dangerous part does not
make it harmless.
-/

namespace AbiBindings

namespace Julia

/-- The text is one line that begins with a number sign. -/
def OneLine (text : String) : Prop :=
  text.toList.head? = some '#' ∧ '\n' ∉ text.toList

theorem oneLine_comment_iff (text : String) :
    OneLine (Declaration.comment text).render ↔ '\n' ∉ text.toList := by
  unfold OneLine Declaration.render
  by_cases h : text = ""
  · subst h
    decide
  · simp [h]

namespace Literal

/-- No line is broken inside the literal. -/
def Unbroken (literal : String) : Prop :=
  '\n' ∉ literal.toList ∧ '\r' ∉ literal.toList

theorem newline_notMem_escapeChar (c : Char) : '\n' ∉ escapeChar c := by
  unfold escapeChar
  split
  · rename_i h
    rcases h with rfl | rfl | rfl <;> decide
  · split
    · decide
    · rename_i h
      simpa using Ne.symm h

theorem carriageReturn_mem_escapeChar_iff (c : Char) : '\r' ∈ escapeChar c ↔ '\r' = c := by
  unfold escapeChar
  split
  · rename_i h
    rcases h with rfl | rfl | rfl <;> decide
  · split
    · rename_i h
      subst h
      decide
    · exact List.mem_singleton

/-- Quoting writes a line feed as an escape, but not a carriage return. -/
theorem unbroken_quote_iff (s : String) : Unbroken (quote s) ↔ '\r' ∉ s.toList := by
  have hnewline : '\n' ∉ (quote s).toList := by
    simp [quote, newline_notMem_escapeChar]
  have hreturn : '\r' ∈ (quote s).toList ↔ '\r' ∈ s.toList := by
    simp [quote, carriageReturn_mem_escapeChar_iff]
  rw [Unbroken, hreturn]
  exact and_iff_right hnewline

end Literal

namespace Docstring

/-- A docstring stands between two of these. -/
def tripleQuote : List Char := ['"', '"', '"']

/-- Every backslash begins an escape, and every dollar sign is escaped. -/
def isEscaped : List Char → Bool
  | [] => true
  | '\\' :: c :: rest => (c == '\\' || c == '$' || c == '"') && isEscaped rest
  | c :: rest => c != '\\' && c != '$' && isEscaped rest

/-- No character has a meaning of its own in a docstring. -/
def Plain (cs : List Char) : Prop :=
  ∀ c ∈ cs, c ≠ '"' ∧ c ≠ '\\' ∧ c ≠ '$'

instance (cs : List Char) : Decidable (Plain cs) :=
  List.decidableBAll _ cs

/-- The body of a docstring neither ends it nor interpolates. -/
def Contained (cs : List Char) : Prop :=
  ¬tripleQuote <:+: cs ∧ isEscaped cs = true

theorem plain_append {front back : List Char} : Plain (front ++ back) ↔ Plain front ∧ Plain back :=
  List.forall_mem_append

theorem isEscaped_cons_plain {c : Char} (hslash : c ≠ '\\') (hdollar : c ≠ '$') (rest : List Char) :
    isEscaped (c :: rest) = isEscaped rest := by
  rw [isEscaped]
  · simp [hslash, hdollar]
  · exact fun _ _ h _ => hslash h

theorem Plain.isEscaped_append {front : List Char} (h : Plain front) (cs : List Char) :
    isEscaped (front ++ cs) = isEscaped cs := by
  induction front with
  | nil => rfl
  | cons c front ih =>
    obtain ⟨⟨-, hslash, hdollar⟩, hrest⟩ := List.forall_mem_cons.mp h
    rw [List.cons_append, isEscaped_cons_plain hslash hdollar, ih hrest]

theorem Plain.isEscaped {cs : List Char} (h : Plain cs) : isEscaped cs = true := by
  have happend := h.isEscaped_append []
  rwa [List.append_nil] at happend

/-- A backslash at the end of the front would not be escaped by what follows either. -/
theorem Plain.isEscaped_append_back {back : List Char} (h : Plain back) (cs : List Char) :
    Docstring.isEscaped (cs ++ back) = Docstring.isEscaped cs := by
  fun_induction Docstring.isEscaped cs with
  | case1 => exact h.isEscaped
  | case2 c rest ih => rw [List.cons_append, List.cons_append, Docstring.isEscaped, ih]
  | case3 c rest hescape ih =>
    by_cases hslash : c = '\\'
    · -- A backslash that begins no escape is the last character.
      subst hslash
      cases rest with
      | cons d rest => exact absurd rfl (hescape d rest rfl)
      | nil =>
        cases back with
        | nil => rfl
        | cons d back =>
          obtain ⟨⟨hquote, hslash, hdollar⟩, -⟩ := List.forall_mem_cons.mp h
          simp [Docstring.isEscaped, hquote, hslash, hdollar]
    · by_cases hdollar : c = '$'
      · subst hdollar
        simp [Docstring.isEscaped]
      · rw [List.cons_append, isEscaped_cons_plain hslash hdollar, ih]
        simp [hslash, hdollar]

theorem Plain.quote_notMem {cs : List Char} (h : Plain cs) : '"' ∉ cs :=
  fun hmem => (h '"' hmem).1 rfl

theorem tripleQuote_infix_append {front : List Char} (h : '"' ∉ front) (cs : List Char) :
    tripleQuote <:+: front ++ cs ↔ tripleQuote <:+: cs := by
  induction front with
  | nil => rfl
  | cons c front ih =>
    rw [List.mem_cons, not_or] at h
    have hprefix : ¬tripleQuote <+: c :: (front ++ cs) := fun hp =>
      h.1 (List.cons_prefix_cons.mp hp).1
    rw [List.cons_append, List.infix_cons_iff, ih h.2]
    exact or_iff_right hprefix

theorem tripleQuote_infix_append_back {back : List Char} (h : '"' ∉ back) (cs : List Char) :
    tripleQuote <:+: cs ++ back ↔ tripleQuote <:+: cs := by
  have hreverse : tripleQuote = tripleQuote.reverse := rfl
  rw [hreverse, ← List.reverse_infix, List.reverse_append, List.reverse_reverse]
  have hback : '"' ∉ back.reverse := fun hmem => h (List.mem_reverse.mp hmem)
  rw [tripleQuote_infix_append hback, ← @List.reverse_infix Char _ cs, List.reverse_reverse]

theorem Plain.contained {cs : List Char} (h : Plain cs) : Contained cs := by
  have hquote := tripleQuote_infix_append h.quote_notMem []
  rw [List.append_nil] at hquote
  exact ⟨fun hinfix => absurd (hquote.mp hinfix) (by decide), h.isEscaped⟩

/-- Only the part between two plain ones matters. -/
theorem contained_between {front back : List Char} (hfront : Plain front) (hback : Plain back)
    (cs : List Char) : Contained (front ++ cs ++ back) ↔ Contained cs := by
  rw [Contained, Contained, tripleQuote_infix_append_back hback.quote_notMem,
    tripleQuote_infix_append hfront.quote_notMem, hback.isEscaped_append_back,
    hfront.isEscaped_append]

theorem plain_of_isIdentifier {s : String} (h : isIdentifier s = true) : Plain s.toList := by
  have hpart : ∀ c, isIdentifierPart c = true → c ≠ '"' ∧ c ≠ '\\' ∧ c ≠ '$' := by
    intro c hc
    refine ⟨?_, ?_, ?_⟩ <;>
      · rintro rfl
        exact absurd hc (by decide +kernel)
  have hstart : ∀ c, isIdentifierStart c = true → isIdentifierPart c = true := by
    intro c hc
    rw [isIdentifierStart, Bool.or_eq_true] at hc
    rw [isIdentifierPart]
    rcases hc with hc | hc <;> simp [hc]
  intro c hc
  unfold isIdentifier at h
  split at h
  · exact absurd h (by decide)
  · rename_i first rest hchars
    rw [Bool.and_eq_true, List.all_eq_true] at h
    rw [hchars] at hc
    rcases List.mem_cons.mp hc with rfl | hrest
    · exact hpart c (hstart c h.1)
    · exact hpart c (h.2 c hrest)

end Docstring

end Julia

end AbiBindings
