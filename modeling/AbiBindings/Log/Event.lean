import AbiBindings.Log.Level
import AbiBindings.Platform
import AbiBindings.Text.Beginning
import AbiBindings.Text.Line

/-!
# Events

What happens during a run is recorded as events. An event has a fixed level and a source, and it
carries a message and named values; together they make up its line in the log. The level can be read
from the first columns of a line, whatever the message and the values are.
-/

namespace AbiBindings.Log

inductive Event where
  | measuredField (field : FieldLayout)
  | measuredPlatform (platform : Platform)
  | builtElementTypes (count : Nat)
  | widthsMatch (width : Nat)
  | widthsDiffer (violation : Violation)
  /-- The bindings were written; their short fingerprint and number of bytes. -/
  | rendered (fingerprint : String) (bytes : Nat)
  | generated (declarations : Nat) (libraryPath : String)
  deriving DecidableEq

namespace Event

def level : Event → Level
  | generated .. => .info
  | _ => .debug

/-- The component that an event comes from, below the components that contain it. -/
def source : Event → String
  | measuredField _ | measuredPlatform _ => "taodeps::builder::bindings::probe"
  | builtElementTypes _ => "taodeps::core::registry"
  | widthsMatch _ | widthsDiffer _ => "taodeps::builder::bindings::validate"
  | rendered .. | generated .. => "taodeps::ops::generate"

/-- The message of an event. -/
def message : Event → String
  | measuredField _ => "measured field"
  | measuredPlatform _ => "probed platform"
  | builtElementTypes _ => "built element type registry"
  | widthsMatch _ => "enumeration widths match int"
  | widthsDiffer violation => violation.message
  | rendered .. => "rendered bindings"
  | generated .. => "generated bindings"

/-- A piece of text among the values of a line. -/
def quoted (s : String) : String :=
  "\"" ++ s ++ "\""

/-- The named values, as they are shown after the message. -/
def values : Event → List (String × String)
  | measuredField f =>
    [("owner", quoted f.owner), ("field", quoted f.field), ("offset", toString f.offset),
      ("repr", f.repr.display)]
  | measuredPlatform p =>
    [("int", p.cInt.display), ("long", p.cLong.display), ("status", p.status.display),
      ("c_enum", p.cEnum.display)]
  | builtElementTypes count => [("count", toString count)]
  | widthsMatch width => [("width", toString width)]
  | widthsDiffer _ => []
  | rendered fingerprint bytes =>
    [("fingerprint", quoted fingerprint), ("bytes", toString bytes)]
  | generated declarations libraryPath =>
    [("declarations", toString declarations), ("library", libraryPath)]

/-- The names of what an event carries. -/
def fields (e : Event) : List String :=
  "message" :: e.values.map (·.1)

/-- The level in five columns, aligned to the right. -/
def levelColumn (level : Level) : String :=
  Text.padLeft 5 level.name.toUpper

def valueText (value : String × String) : String :=
  " " ++ value.1 ++ "=" ++ value.2

/-- The line of an event, without the line feed that ends it. -/
def line (e : Event) : String :=
  levelColumn e.level ++ " " ++ e.message ++ String.join (e.values.map valueText)

theorem length_levelColumn (level : Level) : (levelColumn level).length = 5 := by
  rw [levelColumn, Text.length_padLeft, String.toUpper, String.length_map]
  cases level <;> decide

theorem toList_levelColumn (level : Level) :
    (levelColumn level).toList = (level.name.toList.map Char.toUpper).leftpad 5 ' ' := by
  rw [levelColumn, Text.padLeft, String.toUpper, String.toList_map, String.toList_ofList]

/-- The level that stands in the first columns of a line. -/
def readLevel? (line : String) : Option Level :=
  Level.ofName? ((line.toList.take 5).dropWhile (· == ' '))

theorem readLevel?_levelColumn_append (level : Level) (rest : String) :
    readLevel? (levelColumn level ++ rest) = some level := by
  have hcolumn : (levelColumn level ++ rest).toList.take 5 = (levelColumn level).toList := by
    rw [String.toList_append, ← length_levelColumn level, ← String.length_toList, List.take_left]
  rw [readLevel?, hcolumn, toList_levelColumn]
  cases level <;> decide

/-- A line begins with the level; its column is followed by the message and the values with their
names, in order, and by nothing else. -/
theorem line_says (e : Event) :
    readLevel? e.line = some e.level ∧
      Text.after? (levelColumn e.level ++ " " ++ e.message) e.line =
        some (String.join (e.values.map valueText)) := by
  constructor
  · rw [line, String.append_assoc, String.append_assoc]
    exact readLevel?_levelColumn_append e.level _
  · exact Text.after?_append _ _

theorem valueText_infix_line {e : Event} {value : String × String} (h : value ∈ e.values) :
    (valueText value).toList <:+: e.line.toList := by
  have hline := Text.after?_eq_some_iff.mp e.line_says.2
  have hvalues : (valueText value).toList <:+: (String.join (e.values.map valueText)).toList := by
    rw [String.toList_join, List.flatMap_map]
    exact List.infix_of_mem_flatten (List.mem_map_of_mem h)
  rw [hline, String.toList_append]
  exact hvalues.trans (List.suffix_append _ _).isInfix

end Event

end AbiBindings.Log
