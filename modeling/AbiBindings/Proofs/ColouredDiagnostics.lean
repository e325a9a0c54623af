import AbiBindings.Abi.Violation
import AbiBindings.Proofs.PlainDiagnostics

/-!
# Colours are decoration

A graphic sequence is the escape character, a bracket, parameters of digits and semicolons, and the
letter that ends it. Deleting these sequences from a coloured diagnostic leaves the plain one, as
long as no free text brings an escape character along. Every sequence that turns a style on is
followed by one that turns all styles off. What a terminal makes of the parameters is not described.
-/

namespace AbiBindings

namespace Text

/-- A character of the parameters of a graphic sequence. -/
def isParameter (c : Char) : Bool :=
  isDecimalDigit c || c == ';'

/-- The parameters of the graphic sequence that a text begins with, and the text after it. -/
def graphicSequence? : List Char → Option (List Char × List Char)
  | '\x1b' :: '[' :: rest =>
    match rest.dropWhile isParameter with
    | 'm' :: after => some (rest.takeWhile isParameter, after)
    | _ => none
  | _ => none

theorem graphicSequence?_eq_some_iff {cs parameters after : List Char} :
    graphicSequence? cs = some (parameters, after) ↔
      (∀ c ∈ parameters, isParameter c = true) ∧
        cs = '\x1b' :: '[' :: (parameters ++ 'm' :: after) := by
  constructor
  · intro h
    unfold graphicSequence? at h
    split at h
    · next rest =>
      split at h
      · next others hdrop =>
        cases h
        have hrest := List.takeWhile_append_dropWhile (p := isParameter) (l := rest)
        rw [hdrop] at hrest
        refine ⟨fun c hc => ?_, by rw [hrest]⟩
        exact List.all_eq_true.mp List.all_takeWhile c hc
      · cases h
    · cases h
  · rintro ⟨hparameters, rfl⟩
    have hend : ∀ c ∈ ('m' :: after).head?, isParameter c = false := by
      rintro c ⟨⟩
      rfl
    simp only [graphicSequence?, dropWhile_run hparameters hend, takeWhile_run hparameters hend]

theorem length_lt_of_graphicSequence? {cs parameters after : List Char}
    (h : graphicSequence? cs = some (parameters, after)) : after.length < cs.length := by
  obtain ⟨-, rfl⟩ := graphicSequence?_eq_some_iff.mp h
  simp only [List.length_cons, List.length_append]
  omega

/-- What a text consists of for someone who looks for graphic sequences. -/
inductive Piece where
  | character (c : Char)
  | graphic (parameters : List Char)
  deriving DecidableEq

namespace Piece

def character? : Piece → Option Char
  | character c => some c
  | graphic _ => none

def parameters? : Piece → Option String
  | character _ => none
  | graphic parameters => some (String.ofList parameters)

@[simp]
theorem character?_character (c : Char) : (character c).character? = some c :=
  rfl

@[simp]
theorem parameters?_character (c : Char) : (character c).parameters? = none :=
  rfl

@[simp]
theorem character?_graphic (parameters : List Char) : (graphic parameters).character? = none :=
  rfl

@[simp]
theorem parameters?_graphic (parameters : List Char) :
    (graphic parameters).parameters? = some (String.ofList parameters) :=
  rfl

end Piece

/-- The pieces of a text, from left to right. -/
def pieces : List Char → List Piece
  | [] => []
  | c :: rest =>
    match _ : graphicSequence? (c :: rest) with
    | some (parameters, after) => .graphic parameters :: pieces after
    | none => .character c :: pieces rest
termination_by cs => cs.length
decreasing_by
  · exact length_lt_of_graphicSequence? ‹_›
  · simp

/-- The text with every graphic sequence deleted. -/
def withoutGraphics (s : String) : String :=
  String.ofList ((pieces s.toList).filterMap Piece.character?)

/-- The parameters of the graphic sequences of a text, in order. -/
def graphics (s : String) : List String :=
  (pieces s.toList).filterMap Piece.parameters?

theorem pieces_cons_of_ne {c : Char} (h : c ≠ '\x1b') (rest : List Char) :
    pieces (c :: rest) = .character c :: pieces rest := by
  have hnone : graphicSequence? (c :: rest) = none := by
    unfold graphicSequence?
    split
    · next heq => exact absurd (List.cons.inj heq).1 h
    · rfl
  rw [pieces]
  split
  · next hsome =>
    rw [hnone] at hsome
    cases hsome
  · rfl

theorem pieces_append {front : List Char} (h : '\x1b' ∉ front) (rest : List Char) :
    pieces (front ++ rest) = front.map .character ++ pieces rest := by
  induction front with
  | nil => rfl
  | cons c front ih =>
    rw [List.mem_cons, not_or] at h
    rw [List.cons_append, pieces_cons_of_ne (Ne.symm h.1), ih h.2, List.map_cons, List.cons_append]

theorem pieces_graphicSequence {parameters : List Char}
    (h : parameters.all isParameter = true) (after : List Char) :
    pieces ('\x1b' :: '[' :: (parameters ++ 'm' :: after)) = .graphic parameters :: pieces after := by
  have hsequence := graphicSequence?_eq_some_iff.mpr
    ⟨List.all_eq_true.mp h, (rfl : '\x1b' :: '[' :: (parameters ++ 'm' :: after) = _)⟩
  rw [pieces]
  split
  · next hsome =>
    rw [hsequence] at hsome
    cases hsome
    rfl
  · next hnone =>
    rw [hsequence] at hnone
    cases hnone

/-- A text consists of the plain text and of sequences with the given parameters. -/
structure ComesApart (s plain : String) (sequences : List String) : Prop where
  plain : withoutGraphics s = plain
  sequences : graphics s = sequences

/-- Text without an escape character is kept. -/
theorem ComesApart.append {front rest plain : String} {sequences : List String}
    (h : ComesApart rest plain sequences) (hfront : '\x1b' ∉ front.toList) :
    ComesApart (front ++ rest) (front ++ plain) sequences := by
  obtain ⟨rfl, rfl⟩ := h
  constructor
  · simp [withoutGraphics, pieces_append hfront, Function.comp_def]
  · simp [graphics, pieces_append hfront]

theorem ComesApart.of_notMem {s : String} (h : '\x1b' ∉ s.toList) : ComesApart s s [] := by
  have hempty : ComesApart "" "" [] :=
    ⟨by simp [withoutGraphics, pieces], by simp [graphics, pieces]⟩
  have happend := hempty.append h
  rwa [String.append_empty] at happend

/-- Of a word between two sequences the word is left. -/
theorem ComesApart.graphic_append {parameters word rest plain : String} {sequences : List String}
    (h : ComesApart rest plain sequences) (hparameters : parameters.toList.all isParameter = true)
    (hword : '\x1b' ∉ word.toList) :
    ComesApart (graphic parameters word ++ rest) (word ++ plain)
      (parameters :: "0" :: sequences) := by
  have htext : (graphic parameters word ++ rest).toList =
      '\x1b' :: '[' :: (parameters.toList ++ 'm' :: (word.toList ++
        '\x1b' :: '[' :: (['0'] ++ 'm' :: rest.toList))) := by
    simp [graphic]
  have hpieces : pieces (graphic parameters word ++ rest).toList =
      .graphic parameters.toList ::
        (word.toList.map .character ++ .graphic ['0'] :: pieces rest.toList) := by
    rw [htext, pieces_graphicSequence hparameters, pieces_append hword,
      pieces_graphicSequence (by decide)]
  obtain ⟨rfl, rfl⟩ := h
  constructor
  · rw [withoutGraphics, hpieces]
    simp [withoutGraphics, List.filterMap_cons, Function.comp_def]
  · rw [graphics, hpieces]
    simp [graphics]

/-- A sequence without a parameter other than zero turns every style off. -/
def isReset (parameters : String) : Bool :=
  parameters.toList.all fun c => c == '0' || c == ';'

/-- Sequences that set a style and sequences that reset all take turns, and the last one resets. -/
def Alternate : List String → Prop
  | [] => True
  | [_] => False
  | start :: stop :: rest => isReset start = false ∧ isReset stop = true ∧ Alternate rest

end Text

namespace Diagnostic

/-- What a diagnostic shows between the severity and the help. -/
def body (d : Diagnostic) : String :=
  ": " ++ d.message ++ "\n" ++ locationLine d.location ++ String.join (d.context.map contextLine)

/-- What is written after the word `help`. -/
def advice (suggestions : List String) : String :=
  ": consider:\n" ++ suggestionLines 1 suggestions

theorem render_eq (coloured : Bool) (d : Diagnostic) :
    d.render coloured =
      paint coloured d.severity.colour d.severity.name ++
        (d.body ++ helpBlock coloured d.suggestions) := by
  simp only [render, headingLine, body, String.append_assoc]

theorem helpBlock_of_ne_nil (coloured : Bool) {suggestions : List String} (h : suggestions ≠ []) :
    helpBlock coloured suggestions =
      "\n" ++ (paint coloured "1;32" "help" ++ advice suggestions) := by
  cases suggestions with
  | nil => exact absurd rfl h
  | cons text rest => simp only [helpBlock, advice, String.append_assoc]

theorem escape_notMem_suggestionLines {suggestions : List String}
    (h : ∀ text ∈ suggestions, '\x1b' ∉ text.toList) (number : Nat) :
    '\x1b' ∉ (suggestionLines number suggestions).toList := by
  induction suggestions generalizing number with
  | nil => simp [suggestionLines]
  | cons text rest ih =>
    obtain ⟨htext, hrest⟩ := List.forall_mem_cons.mp h
    have hnumber : '\x1b' ∉ Nat.toDigits 10 number := Text.notMem_toDigits rfl number
    simp [suggestionLines, suggestionLine, hnumber, htext, ih hrest]

theorem escape_notMem_body {d : Diagnostic} (h : d.Lacks '\x1b') : '\x1b' ∉ d.body.toList := by
  obtain ⟨hmessage, hlocation, hcontext, -⟩ := (lacks_iff _ d).mp h
  have hlocationLine : '\x1b' ∉ (locationLine d.location).toList := by
    cases hd : d.location with
    | none => decide
    | some text => simp [locationLine, hlocation text hd]
  have hcontextLine : ∀ text ∈ d.context, '\x1b' ∉ (contextLine text).toList := by
    intro text htext
    simp [contextLine, hcontext text htext]
  simpa [body, hmessage, hlocationLine] using hcontextLine

theorem escape_notMem_advice {d : Diagnostic} (h : d.Lacks '\x1b') :
    '\x1b' ∉ (advice d.suggestions).toList := by
  obtain ⟨-, -, -, hsuggestions⟩ := (lacks_iff _ d).mp h
  simp [advice, escape_notMem_suggestionLines hsuggestions]

theorem comesApart_helpBlock {d : Diagnostic} (h : d.Lacks '\x1b') :
    Text.ComesApart (helpBlock true d.suggestions) (helpBlock false d.suggestions)
      (if d.suggestions = [] then [] else ["1;32", "0"]) := by
  split
  · next hnil =>
    rw [hnil]
    exact .of_notMem (by decide)
  · next hne =>
    rw [helpBlock_of_ne_nil true hne, helpBlock_of_ne_nil false hne]
    have hadvice := Text.ComesApart.of_notMem (escape_notMem_advice h)
    exact (hadvice.graphic_append (by decide) (by decide)).append (by decide)

theorem comesApart_render {d : Diagnostic} (h : d.Lacks '\x1b') :
    Text.ComesApart (d.render true) (d.render false)
      (d.severity.colour :: "0" :: if d.suggestions = [] then [] else ["1;32", "0"]) := by
  have hcolour : d.severity.colour.toList.all Text.isParameter = true := by
    cases d.severity <;> decide
  have hname : '\x1b' ∉ d.severity.name.toList := by
    cases d.severity <;> decide
  rw [render_eq true, render_eq false]
  exact ((comesApart_helpBlock h).append (escape_notMem_body h)).graphic_append hcolour hname

/-- The colours of a diagnostic only decorate it. -/
structure Decorated (d : Diagnostic) : Prop where
  plain : Text.withoutGraphics (d.render true) = d.render false
  count : (Text.graphics (d.render true)).length = if d.suggestions = [] then 2 else 4
  alternate : Text.Alternate (Text.graphics (d.render true))

theorem decorated_of_lacks {d : Diagnostic} (h : d.Lacks '\x1b') : d.Decorated := by
  obtain ⟨hplain, hsequences⟩ := comesApart_render h
  have hcolour : Text.isReset d.severity.colour = false := by
    cases d.severity <;> decide
  refine ⟨hplain, ?_, ?_⟩
  · rw [hsequences]
    split <;> rfl
  · rw [hsequences]
    split
    · exact ⟨hcolour, by decide, trivial⟩
    · exact ⟨hcolour, by decide, by decide, by decide, trivial⟩

namespace Step

def text : Step → String
  | context text | suggestion text | location text => text

end Step

theorem notMem_of_mem_filterMap {c : Char} {steps : List Step} {part? : Step → Option String}
    (hpart : ∀ step, ∀ text ∈ part? step, text = step.text)
    (hsteps : ∀ step ∈ steps, c ∉ step.text.toList) :
    ∀ text ∈ steps.filterMap part?, c ∉ text.toList := by
  intro text htext
  obtain ⟨step, hstep, hsome⟩ := List.mem_filterMap.mp htext
  rw [hpart step text hsome]
  exact hsteps step hstep

/-- Every text of a diagnostic was given with one of the steps. -/
theorem lacks_collect {c : Char} {severity : Severity} {message : String} {steps : List Step}
    (hmessage : c ∉ message.toList) (hsteps : ∀ step ∈ steps, c ∉ step.text.toList) :
    (collect severity message steps).Lacks c := by
  have hlocation : ∀ step : Step, ∀ text ∈ step.location?, text = step.text := by
    rintro (_ | _ | _) text ⟨⟩
    rfl
  have hcontext : ∀ step : Step, ∀ text ∈ step.context?, text = step.text := by
    rintro (_ | _ | _) text ⟨⟩
    rfl
  have hsuggestion : ∀ step : Step, ∀ text ∈ step.suggestion?, text = step.text := by
    rintro (_ | _ | _) text ⟨⟩
    rfl
  refine (lacks_iff c _).mpr ⟨hmessage, ?_, ?_, ?_⟩
  · intro text htext
    exact notMem_of_mem_filterMap hlocation hsteps text (List.mem_of_getLast? htext)
  · exact notMem_of_mem_filterMap hcontext hsteps
  · exact notMem_of_mem_filterMap hsuggestion hsteps

end Diagnostic

namespace Violation

/-- The texts that a violation brings along. -/
def texts : Violation → List String
  | unrepresentableWidth .. => []
  | assertion a => [a.expr, a.function, a.file]

theorem lacks_toDiagnostic {v : Violation} (h : ∀ text ∈ v.texts, '\x1b' ∉ text.toList) :
    v.toDiagnostic.Lacks '\x1b' := by
  rw [Diagnostic.lacks_iff]
  cases v with
  | unrepresentableWidth size cls =>
    have hsize : '\x1b' ∉ Nat.toDigits 10 size := Text.notMem_toDigits rfl size
    have hname : '\x1b' ∉ cls.name.toList := by cases cls <;> decide
    have hwidths : '\x1b' ∉ (widthList cls.widths).toList := by cases cls <;> decide
    simp [toDiagnostic, Diagnostic.add, Diagnostic.new, hsize, hname, hwidths]
  | assertion a =>
    have hline : '\x1b' ∉ Nat.toDigits 10 a.line := Text.notMem_toDigits rfl a.line
    simp only [texts, List.forall_mem_cons] at h
    obtain ⟨hexpr, hfunction, hfile, -⟩ := h
    simp [toDiagnostic, Diagnostic.add, Diagnostic.new, hline, hexpr, hfunction, hfile]

end Violation

/-- Whatever the steps and whatever the violation, colours only decorate a diagnostic whose texts have
no escape character in them. -/
theorem Diagnostic.colours_decorate :
    (∀ (severity : Severity) (message : String) (steps : List Step),
      '\x1b' ∉ message.toList → (∀ step ∈ steps, '\x1b' ∉ step.text.toList) →
        ((new severity message).addAll steps).Decorated) ∧
      ∀ v : Violation, (∀ text ∈ v.texts, '\x1b' ∉ text.toList) → v.toDiagnostic.Decorated := by
  constructor
  · intro severity message steps hmessage hsteps
    rw [addAll_new]
    exact decorated_of_lacks (lacks_collect hmessage hsteps)
  · intro v hv
    exact decorated_of_lacks (Violation.lacks_toDiagnostic hv)

/-- Texts that look like graphic sequences but for the escape character. -/
def bracketedSteps : List Diagnostic.Step :=
  [.suggestion "[0m", .location "m;1", .context "[31m", .suggestion ""]

/-- A failed check whose condition looks like such a sequence too. -/
def bracketedViolation : Violation :=
  .assertion ⟨"[1m == 2", "check", "platform", 34⟩

/-- What only looks like a sequence is kept, with colours and without. -/
theorem bracketed_texts_kept :
    '\x1b' ∉ "[1;31m".toList ∧ (∀ step ∈ bracketedSteps, '\x1b' ∉ step.text.toList) ∧
      (∀ text ∈ bracketedViolation.texts, '\x1b' ∉ text.toList) ∧
      Text.withoutGraphics (((Diagnostic.new .warning "[1;31m").addAll bracketedSteps).render true) =
        "warning: [1;31m\n  --> m;1\n  = [31m\n\nhelp: consider:\n  1. [0m\n  2. \n" ∧
      (Text.graphics
        (((Diagnostic.new .warning "[1;31m").addAll bracketedSteps).render true)).length = 4 ∧
      bracketedViolation.toDiagnostic.Decorated := by
  have hmessage : '\x1b' ∉ "[1;31m".toList := by decide
  have hsteps : ∀ step ∈ bracketedSteps, '\x1b' ∉ step.text.toList := by decide
  have htexts : ∀ text ∈ bracketedViolation.texts, '\x1b' ∉ text.toList := by decide
  obtain ⟨hbuilt, hviolation⟩ := Diagnostic.colours_decorate
  have hwarning := hbuilt .warning "[1;31m" bracketedSteps hmessage hsteps
  exact ⟨hmessage, hsteps, htexts, hwarning.plain.trans (by decide), hwarning.count,
    hviolation bracketedViolation htexts⟩

end AbiBindings
