import AbiBindings.Diagnostic
import AbiBindings.Proofs.Numerals
import AbiBindings.Text.Beginning
import AbiBindings.Text.Line

/-!
# Reading plain diagnostics

A plain diagnostic consists of lines: the heading, the location, the context and the numbered
suggestions. They depend on these parts alone, whatever the order of the steps between parts of
different kinds. A free text may look like the start of any other line, but the kind of a line
follows from its first characters and from the lines before it. So the parts can be read back, unless
one of them contains a line feed.
-/

namespace AbiBindings

namespace Diagnostic

namespace Step

def context? : Step → Option String
  | context text => some text
  | _ => none

def suggestion? : Step → Option String
  | suggestion text => some text
  | _ => none

def location? : Step → Option String
  | location text => some text
  | _ => none

/-- The contexts that are given, in order. -/
def contexts (steps : List Step) : List String :=
  steps.filterMap context?

/-- The suggestions that are given, in order. -/
def suggestions (steps : List Step) : List String :=
  steps.filterMap suggestion?

def lastLocation? (steps : List Step) : Option String :=
  (steps.filterMap location?).getLast?

theorem contexts_cons (step : Step) (rest : List Step) :
    contexts (step :: rest) = step.context?.toList ++ contexts rest := by
  cases h : step.context? <;> simp [contexts, h]

theorem suggestions_cons (step : Step) (rest : List Step) :
    suggestions (step :: rest) = step.suggestion?.toList ++ suggestions rest := by
  cases h : step.suggestion? <;> simp [suggestions, h]

/-- A later location replaces the first. -/
theorem lastLocation?_cons (step : Step) (rest : List Step) :
    lastLocation? (step :: rest) = (lastLocation? rest).or step.location? := by
  cases h : step.location? with
  | none => simp [lastLocation?, h]
  | some text =>
    simp only [lastLocation?, List.filterMap_cons, h, List.getLast?_cons]
    cases (rest.filterMap location?).getLast? <;> rfl

end Step

theorem add_eq (d : Diagnostic) (step : Step) :
    d.add step =
      { d with
        context := d.context ++ step.context?.toList
        suggestions := d.suggestions ++ step.suggestion?.toList
        location := step.location?.or d.location } := by
  cases step <;> simp [add, Step.context?, Step.suggestion?, Step.location?]

/-- Contexts and suggestions are appended in order; the location is the last of the steps, or else
that of before. -/
theorem addAll_eq (d : Diagnostic) (steps : List Step) :
    d.addAll steps =
      { d with
        context := d.context ++ Step.contexts steps
        suggestions := d.suggestions ++ Step.suggestions steps
        location := (Step.lastLocation? steps).or d.location } := by
  induction steps generalizing d with
  | nil => simp [addAll, Step.contexts, Step.suggestions, Step.lastLocation?]
  | cons step rest ih =>
    have hrest : d.addAll (step :: rest) = (d.add step).addAll rest := rfl
    rw [hrest, ih, add_eq, Step.contexts_cons, Step.suggestions_cons, Step.lastLocation?_cons]
    simp only [List.append_assoc, Option.or_assoc]

/-- The diagnostic with the given parts of the steps. -/
def collect (severity : Severity) (message : String) (steps : List Step) : Diagnostic where
  severity := severity
  message := message
  context := Step.contexts steps
  suggestions := Step.suggestions steps
  location := Step.lastLocation? steps

theorem addAll_new (severity : Severity) (message : String) (steps : List Step) :
    (new severity message).addAll steps = collect severity message steps := by
  rw [addAll_eq]
  simp [new, collect]

/-- The free texts of a diagnostic. -/
def texts (d : Diagnostic) : List String :=
  d.message :: (d.location.toList ++ d.context ++ d.suggestions)

/-- The character is in no text of the diagnostic. -/
def Lacks (c : Char) (d : Diagnostic) : Prop :=
  ∀ text ∈ d.texts, c ∉ text.toList

instance (c : Char) (d : Diagnostic) : Decidable (d.Lacks c) :=
  List.decidableBAll _ d.texts

theorem lacks_iff (c : Char) (d : Diagnostic) :
    d.Lacks c ↔ c ∉ d.message.toList ∧ (∀ text ∈ d.location, c ∉ text.toList) ∧
      (∀ text ∈ d.context, c ∉ text.toList) ∧ ∀ text ∈ d.suggestions, c ∉ text.toList := by
  simp [Lacks, texts, or_imp, forall_and]

/-- What stands before the message. -/
def headingStart (severity : Severity) : String :=
  severity.name ++ ": "

def locationStart : String := "  --> "

def contextStart : String := "  = "

/-- What stands before the suggestion with the given number. -/
def suggestionStart (number : Nat) : String :=
  "  " ++ toString number ++ ". "

/-- Suggestions numbered upwards from the given number. -/
def numberedLines (number : Nat) (suggestions : List String) : List String :=
  suggestions.mapIdx fun k text => suggestionStart (number + k) ++ text

theorem numberedLines_cons (number : Nat) (text : String) (rest : List String) :
    numberedLines number (text :: rest) =
      (suggestionStart number ++ text) :: numberedLines (number + 1) rest := by
  simp [numberedLines, List.mapIdx_cons, Nat.add_right_comm, Nat.add_assoc]

/-- The lines after the context: an empty one, a title and the suggestions, if there are any. -/
def helpLines (suggestions : List String) : List String :=
  if suggestions = [] then [] else "" :: "help: consider:" :: numberedLines 1 suggestions

/-- The lines that a diagnostic is written in. -/
def lines (d : Diagnostic) : List String :=
  (headingStart d.severity ++ d.message) ::
    (d.location.toList.map (locationStart ++ ·) ++
      (d.context.map (contextStart ++ ·) ++ helpLines d.suggestions))

theorem suggestionLines_eq_joinLines (number : Nat) (suggestions : List String) :
    suggestionLines number suggestions = Text.joinLines (numberedLines number suggestions) := by
  induction suggestions generalizing number with
  | nil => rfl
  | cons text rest ih =>
    rw [suggestionLines, ih, numberedLines_cons, Text.joinLines_cons]
    rfl

theorem helpBlock_eq_joinLines (suggestions : List String) :
    helpBlock false suggestions = Text.joinLines (helpLines suggestions) := by
  cases suggestions with
  | nil => rfl
  | cons text rest =>
    have hlines : helpLines (text :: rest) =
        "" :: "help: consider:" :: numberedLines 1 (text :: rest) := rfl
    rw [hlines, Text.joinLines_cons, Text.joinLines_cons, ← suggestionLines_eq_joinLines,
      ← String.append_assoc]
    rfl

theorem locationLine_eq_joinLines (location : Option String) :
    locationLine location = Text.joinLines (location.toList.map (locationStart ++ ·)) := by
  cases location with
  | none => rfl
  | some text => simp [locationLine, locationStart, Text.joinLines]

theorem join_contextLine (context : List String) :
    String.join (context.map contextLine) = Text.joinLines (context.map (contextStart ++ ·)) := by
  rw [Text.joinLines, List.map_map]
  rfl

/-- The plain text consists of the lines, each ended by a line feed. -/
theorem render_plain (d : Diagnostic) : d.render false = Text.joinLines d.lines := by
  rw [render, locationLine_eq_joinLines, join_contextLine, helpBlock_eq_joinLines, lines,
    Text.joinLines_cons, Text.joinLines_append, Text.joinLines_append]
  simp [headingLine, headingStart, paint, String.append_assoc]

theorem newline_notMem_numberedLines_iff (number : Nat) (suggestions : List String) :
    (∀ line ∈ numberedLines number suggestions, '\n' ∉ line.toList) ↔
      ∀ text ∈ suggestions, '\n' ∉ text.toList := by
  induction suggestions generalizing number with
  | nil => simp [numberedLines]
  | cons text rest ih =>
    have hnumber : '\n' ∉ Nat.toDigits 10 number := Text.notMem_toDigits rfl number
    simp [numberedLines_cons, suggestionStart, ih, hnumber]

theorem newline_notMem_helpLines_iff (suggestions : List String) :
    (∀ line ∈ helpLines suggestions, '\n' ∉ line.toList) ↔
      ∀ text ∈ suggestions, '\n' ∉ text.toList := by
  cases suggestions with
  | nil => simp [helpLines]
  | cons text rest =>
    rw [← newline_notMem_numberedLines_iff 1 (text :: rest)]
    simp [helpLines]

/-- A line feed in a line can only come from a free text. -/
theorem newline_notMem_lines_iff (d : Diagnostic) :
    (∀ line ∈ d.lines, '\n' ∉ line.toList) ↔ d.Lacks '\n' := by
  have hheading : '\n' ∉ (headingStart d.severity).toList := by
    cases d.severity <;> decide
  rw [lacks_iff, ← newline_notMem_helpLines_iff d.suggestions, lines, List.forall_mem_cons,
    List.forall_mem_append, List.forall_mem_append]
  simp [hheading, locationStart, contextStart]

/-! ## The reader -/

def readHeading? (line : String) : Option (Severity × String) :=
  match Text.after? (headingStart .error) line with
  | some message => some (.error, message)
  | none => (Text.after? (headingStart .warning) line).map fun message => (.warning, message)

/-- The location, if the first line holds one, and the lines after it. -/
def readLocation : List String → Option String × List String
  | [] => (none, [])
  | line :: rest =>
    match Text.after? locationStart line with
    | some text => (some text, rest)
    | none => (none, line :: rest)

/-- The contexts that the first lines hold, and the lines after them. -/
def readContext : List String → List String × List String
  | [] => ([], [])
  | line :: rest =>
    match Text.after? contextStart line with
    | some text => (text :: (readContext rest).1, (readContext rest).2)
    | none => ([], line :: rest)

/-- The suggestions that the lines hold, numbered upwards from the given number. -/
def readNumbered? (number : Nat) : List String → Option (List String)
  | [] => some []
  | line :: rest => do
    let text ← Text.after? (suggestionStart number) line
    let texts ← readNumbered? (number + 1) rest
    return text :: texts

def readHelp? : List String → Option (List String)
  | [] => some []
  | blank :: title :: rest =>
    if blank = "" ∧ title = "help: consider:" ∧ rest ≠ [] then readNumbered? 1 rest else none
  | _ => none

def ofLines? : List String → Option Diagnostic
  | [] => none
  | heading :: rest => do
    let (severity, message) ← readHeading? heading
    let (location, rest) := readLocation rest
    let (context, rest) := readContext rest
    let suggestions ← readHelp? rest
    return { severity, message, context, suggestions, location }

/-- The diagnostic that a text writes. -/
def read? (text : String) : Option Diagnostic :=
  (Text.endedLines? text).bind ofLines?

theorem readHeading?_eq_some_iff {line : String} {severity : Severity} {message : String} :
    readHeading? line = some (severity, message) ↔ line = headingStart severity ++ message := by
  constructor
  · intro h
    unfold readHeading? at h
    split at h
    · next text htext =>
      cases h
      exact Text.after?_eq_some_iff.mp htext
    · obtain ⟨text, htext, heq⟩ := Option.map_eq_some_iff.mp h
      cases heq
      exact Text.after?_eq_some_iff.mp htext
  · rintro rfl
    cases severity with
    | error => simp only [readHeading?, Text.after?_append]
    | warning =>
      have hother : Text.clash (headingStart .error) (headingStart .warning) = true := by decide
      simp only [readHeading?, Text.after?_append_of_clash hother, Text.after?_append,
        Option.map_some]

theorem readLocation_append (location : Option String) {rest : List String}
    (h : ∀ line ∈ rest.head?, Text.after? locationStart line = none) :
    readLocation (location.toList.map (locationStart ++ ·) ++ rest) = (location, rest) := by
  cases location with
  | some text => simp [readLocation, Text.after?_append]
  | none =>
    cases rest with
    | nil => rfl
    | cons line rest => simp [readLocation, h line rfl]

theorem append_readLocation (lines : List String) :
    (readLocation lines).1.toList.map (locationStart ++ ·) ++ (readLocation lines).2 = lines := by
  cases lines with
  | nil => rfl
  | cons line rest =>
    cases h : Text.after? locationStart line with
    | some text =>
      obtain rfl := Text.after?_eq_some_iff.mp h
      simp [readLocation, h]
    | none => simp [readLocation, h]

theorem readContext_append (context : List String) {rest : List String}
    (h : ∀ line ∈ rest.head?, Text.after? contextStart line = none) :
    readContext (context.map (contextStart ++ ·) ++ rest) = (context, rest) := by
  induction context with
  | nil =>
    cases rest with
    | nil => rfl
    | cons line rest => simp [readContext, h line rfl]
  | cons text context ih => simp [readContext, Text.after?_append, ih]

theorem append_readContext (lines : List String) :
    (readContext lines).1.map (contextStart ++ ·) ++ (readContext lines).2 = lines := by
  induction lines with
  | nil => rfl
  | cons line rest ih =>
    cases h : Text.after? contextStart line with
    | some text =>
      obtain rfl := Text.after?_eq_some_iff.mp h
      simp [readContext, h, ih]
    | none => simp [readContext, h]

theorem readNumbered?_eq_some_iff {number : Nat} {lines suggestions : List String} :
    readNumbered? number lines = some suggestions ↔ lines = numberedLines number suggestions := by
  induction lines generalizing number suggestions with
  | nil => cases suggestions <;> simp [readNumbered?, numberedLines]
  | cons line rest ih =>
    cases suggestions with
    | nil => simp [readNumbered?, numberedLines, Option.bind_eq_some_iff]
    | cons text texts =>
      rw [numberedLines_cons, List.cons.injEq, ← ih, ← Text.after?_eq_some_iff]
      simp [readNumbered?, Option.bind_eq_some_iff]

theorem readHelp?_eq_some_iff {lines suggestions : List String} :
    readHelp? lines = some suggestions ↔ lines = helpLines suggestions := by
  constructor
  · intro h
    unfold readHelp? at h
    split at h
    · cases h
      rfl
    · next blank title rest =>
      simp only [Option.ite_none_right_eq_some] at h
      obtain ⟨⟨rfl, rfl, hrest⟩, hnumbered⟩ := h
      rw [readNumbered?_eq_some_iff] at hnumbered
      have hsuggestions : suggestions ≠ [] := by
        rintro rfl
        exact hrest hnumbered
      rw [helpLines, if_neg hsuggestions, hnumbered]
    · cases h
  · rintro rfl
    cases suggestions with
    | nil => rfl
    | cons text texts =>
      have hrest : numberedLines 1 (text :: texts) ≠ [] := by simp [numberedLines]
      rw [helpLines, if_neg (List.cons_ne_nil _ _), readHelp?, if_pos ⟨rfl, rfl, hrest⟩,
        readNumbered?_eq_some_iff]

/-- No line after the location looks like one: a line of context differs from it after the blanks,
and the first line of help is empty. -/
theorem after?_locationStart_head (context suggestions : List String) :
    ∀ line ∈ (context.map (contextStart ++ ·) ++ helpLines suggestions).head?,
      Text.after? locationStart line = none := by
  intro line hline
  cases context with
  | cons text context =>
    cases hline
    exact Text.after?_append_of_clash (by decide) text
  | nil =>
    cases suggestions with
    | nil => cases hline
    | cons text suggestions =>
      cases hline
      rfl

theorem after?_contextStart_head (suggestions : List String) :
    ∀ line ∈ (helpLines suggestions).head?, Text.after? contextStart line = none := by
  intro line hline
  cases suggestions with
  | nil => cases hline
  | cons text suggestions =>
    cases hline
    rfl

theorem ofLines?_eq_some_iff {lines : List String} {d : Diagnostic} :
    ofLines? lines = some d ↔ d.lines = lines := by
  constructor
  · intro h
    cases lines with
    | nil => cases h
    | cons heading rest =>
      simp only [ofLines?, Option.bind_eq_bind, Option.bind_eq_some_iff, Option.pure_def,
        Option.some.injEq] at h
      obtain ⟨⟨severity, message⟩, hheading, suggestions, hhelp, rfl⟩ := h
      rw [Diagnostic.lines, ← readHeading?_eq_some_iff.mp hheading,
        ← readHelp?_eq_some_iff.mp hhelp, append_readContext, append_readLocation]
  · rintro rfl
    -- each reader stops where the next part begins, as no line after a part looks like that part
    have hheading := readHeading?_eq_some_iff.mpr (rfl : headingStart d.severity ++ d.message = _)
    have hlocation := readLocation_append d.location
      (after?_locationStart_head d.context d.suggestions)
    have hcontext := readContext_append d.context (after?_contextStart_head d.suggestions)
    have hhelp := readHelp?_eq_some_iff.mpr (rfl : helpLines d.suggestions = _)
    simp [Diagnostic.lines, ofLines?, hheading, hlocation, hcontext, hhelp]

/-- A text is read as a diagnostic exactly if the diagnostic has no line feed in it and is written
as that text. -/
theorem read?_eq_some_iff {text : String} {d : Diagnostic} :
    read? text = some d ↔ d.Lacks '\n' ∧ d.render false = text := by
  rw [read?, Option.bind_eq_some_iff, render_plain, ← newline_notMem_lines_iff]
  constructor
  · rintro ⟨lines, hended, hlines⟩
    rw [ofLines?_eq_some_iff.mp hlines]
    exact Text.of_endedLines?_eq_some hended
  · rintro ⟨hnewline, rfl⟩
    exact ⟨d.lines, Text.endedLines?_joinLines_of_notMem hnewline, ofLines?_eq_some_iff.mpr rfl⟩

/-- The parts of two diagnostics that are built in steps agree. -/
structure SameParts (severity severity' : Severity) (message message' : String)
    (steps steps' : List Step) : Prop where
  severity : severity = severity'
  message : message = message'
  location : Step.lastLocation? steps = Step.lastLocation? steps'
  context : Step.contexts steps = Step.contexts steps'
  suggestions : Step.suggestions steps = Step.suggestions steps'

theorem collect_eq_iff {severity severity' : Severity} {message message' : String}
    {steps steps' : List Step} :
    collect severity message steps = collect severity' message' steps' ↔
      SameParts severity severity' message message' steps steps' := by
  constructor
  · intro h
    simp only [collect, Diagnostic.mk.injEq] at h
    obtain ⟨hseverity, hmessage, hcontext, hsuggestions, hlocation⟩ := h
    exact ⟨hseverity, hmessage, hlocation, hcontext, hsuggestions⟩
  · rintro ⟨rfl, rfl, hlocation, hcontext, hsuggestions⟩
    rw [collect, collect, hlocation, hcontext, hsuggestions]

/-- What is written plainly consists of the lines of the parts, so steps that agree in the parts give
one text. Without line feeds in the parts they can be read back, so no two diagnostics without line
feeds give one text unless they agree in the parts. -/
theorem plain_text_iff_parts (severity severity' : Severity) (message message' : String)
    (steps steps' : List Step) :
    ((new severity message).addAll steps).render false =
        Text.joinLines (collect severity message steps).lines ∧
      (SameParts severity severity' message message' steps steps' →
        ((new severity message).addAll steps).render false =
          ((new severity' message').addAll steps').render false) ∧
      ((collect severity message steps).Lacks '\n' →
        read? (((new severity message).addAll steps).render false) =
          some (collect severity message steps)) ∧
      ((collect severity message steps).Lacks '\n' →
        (collect severity' message' steps').Lacks '\n' →
        ((new severity message).addAll steps).render false =
          ((new severity' message').addAll steps').render false →
        SameParts severity severity' message message' steps steps') := by
  rw [addAll_new, addAll_new]
  refine ⟨render_plain _, ?_, ?_, ?_⟩
  · intro hparts
    rw [collect_eq_iff.mpr hparts]
  · intro hlacks
    exact read?_eq_some_iff.mpr ⟨hlacks, rfl⟩
  · intro hlacks hlacks' htext
    -- one text has at most one reading
    have hread := read?_eq_some_iff.mpr ⟨hlacks, htext⟩
    have hread' := read?_eq_some_iff.mpr ⟨hlacks', rfl⟩
    exact collect_eq_iff.mp (Option.some.inj (hread.symm.trans hread'))

/-- Steps with a location that is replaced, texts that look like other lines and an empty
suggestion. -/
def lookalikes : List Step :=
  [.suggestion "2. a", .location "old\nplace", .context "--> b", .suggestion "", .location "  = c"]

/-- The same parts in another order. -/
def sortedLookalikes : List Step :=
  [.location "  = c", .context "--> b", .suggestion "2. a", .suggestion ""]

theorem lookalikes_read_back :
    SameParts .warning .warning "" "" lookalikes sortedLookalikes ∧
      (collect .warning "" lookalikes).Lacks '\n' ∧
      (collect .warning "" sortedLookalikes).Lacks '\n' ∧
      ((new .warning "").addAll lookalikes).render false =
        "warning: \n  -->   = c\n  = --> b\n\nhelp: consider:\n  1. 2. a\n  2. \n" ∧
      ((new .warning "").addAll lookalikes).render false =
        ((new .warning "").addAll sortedLookalikes).render false ∧
      read? (((new .warning "").addAll lookalikes).render false) =
        some ⟨.warning, "", ["--> b"], ["2. a", ""], some "  = c"⟩ := by
  have hlacks : (collect .warning "" lookalikes).Lacks '\n' := by decide
  have hlacks' : (collect .warning "" sortedLookalikes).Lacks '\n' := by decide
  obtain ⟨hlines, hsame, hread, hparts⟩ :=
    plain_text_iff_parts .warning .warning "" "" lookalikes sortedLookalikes
  have htext := hsame ⟨rfl, rfl, rfl, rfl, rfl⟩
  exact ⟨hparts hlacks hlacks' htext, hlacks, hlacks', hlines.trans (by decide), htext,
    hread hlacks⟩

end Diagnostic

end AbiBindings
