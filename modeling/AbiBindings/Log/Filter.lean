import AbiBindings.Log.Event
import AbiBindings.Settings.Basic
import AbiBindings.Text.CharacterClasses
import AbiBindings.Text.Line
import AbiBindings.Text.Split

/-!
# Filters of the log

A filter is a list of directives, separated by commas. A directive sets the level for the events of
a component and the components in it, or for those among them that carry a field. Of the directives
for an event the most specific one decides, and the last of them if there are several. The filter
only selects events; it never changes what is recorded.
-/

namespace AbiBindings.Log

structure Directive where
  /-- What the source of an event has to start with. -/
  source : String
  /-- The field that an event has to carry, if any. -/
  field : Option String
  level : Level
  deriving DecidableEq

namespace Directive

/-- Whether the directive is about an event. -/
def admits (d : Directive) (e : Event) : Bool :=
  d.source.toList.isPrefixOf e.source.toList && d.field.all (e.fields.contains ·)

/-- The order of fields: none comes first, the others are in alphabetical order. -/
def fieldPrecedes : Option String → Option String → Bool
  | none, _ => true
  | some _, none => false
  | some a, some b => !decide (b < a)

/-- Whether a directive gives way to another for the events that both are about: the longer source
goes before the shorter, and for one source the later field before the earlier. -/
def yieldsTo (d other : Directive) : Bool :=
  d.source.length < other.source.length ||
    d.source.length == other.source.length && fieldPrecedes d.field other.field

/-- The characters that the name of a component can start with. -/
def isSourceStart (c : Char) : Bool :=
  Text.isAlphabetic c || Text.isNumeric c || c == '-' || c == ':' || c == '_'

/-- The level after an equals sign; without a level everything is shown. -/
def readLevel? (cs : List Char) : Option Level :=
  if cs.isEmpty then some .trace else Level.ofText? cs

/-- The level that may stand at the end of a directive, behind a field. -/
def readEnd? : List Char → Option Level
  | '=' :: cs => readLevel? cs
  | cs => if cs.all Text.isWhiteSpace then some .trace else none

/-- A directive for a field, after the opening bracket: its name between braces. Spans and values of
fields can be written too, but no event lies in a span and values select nothing. -/
def readField? (source : List Char) : List Char → Option Directive
  | '\x7b' :: cs => do
    let field := cs.takeWhile (· != '\x7d')
    if field.isEmpty || field.contains '=' then none
    match cs.dropWhile (· != '\x7d') with
    | '\x7d' :: ']' :: rest =>
      let level ← readEnd? rest
      return ⟨String.ofList source, some (String.ofList field), level⟩
    | _ => none
  | _ => none

/-- A directive that starts with a word: a level for everything, or a source. -/
def readWord? (cs : List Char) : Option Directive :=
  let word := cs.takeWhile fun c => c != '=' && c != '['
  match cs.dropWhile fun c => c != '=' && c != '[' with
  | '=' :: rest => (readLevel? rest).map (⟨String.ofList word, none, ·⟩)
  | '[' :: rest => readField? word rest
  | _ =>
    match Level.ofText? word with
    | some level => some ⟨"", none, level⟩
    | none => some ⟨String.ofList word, none, .trace⟩

/-- The directive that a text writes, unless it is refused or can select no event. -/
def read? : List Char → Option Directive
  | [] => none
  | '[' :: cs => readField? [] cs
  | c :: cs => if isSourceStart c then readWord? (c :: cs) else none

end Directive

abbrev Filter := List Directive

namespace Filter

def ofText (s : String) : Filter :=
  (Text.split ',' s.toList).filterMap Directive.read?

/-- The filter that the settings ask for. -/
def ofSettings (s : Settings) : Filter :=
  ofText s.logFilter

/-- The directive that decides about an event. -/
def decisive? (f : Filter) (e : Event) : Option Directive :=
  f.foldl (fun best d => if d.admits e && best.all (·.yieldsTo d) then some d else best) none

/-- Whether an event is shown. -/
def shows (f : Filter) (e : Event) : Bool :=
  (f.decisive? e).any (·.level.shows e.level)

/-- The log of a run: a line for every event that is shown. -/
def text (f : Filter) (events : List Event) : String :=
  Text.joinLines ((events.filter f.shows).map Event.line)

end Filter

end AbiBindings.Log
