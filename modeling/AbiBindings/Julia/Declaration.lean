import AbiBindings.Text.Line

/-!
# Declarations

The lines and blocks that a generated file is made of, with the text of each. A list is broken into
rows of a given length, and the later rows start below the first item. The text of a file has the
lines of its declarations and no others.
-/

namespace AbiBindings.Julia

inductive Declaration where
  /-- An empty line. -/
  | blank
  | comment (text : String)
  /-- A docstring, attached to the declaration after it. -/
  | doc (text : String)
  /-- A constant, its name filled up to `pad` columns, with an optional note at the end. -/
  | const (name : String) (pad : Nat) (value : String) (note : Option String)
  /-- An immutable structure with one field. -/
  | struct (name field type : String)
  /-- A constant that lists items between an opening and a closing text, `perLine` to a row. -/
  | list (name opening closing : String) (items : List String) (perLine : Nat)
  /-- A method for one type. -/
  | dispatch (function type value : String)
  /-- The method that refuses every other type. -/
  | fallback (function : String)
  deriving DecidableEq

/-- The items in rows of the given length, the last row possibly shorter. A length of zero puts all
of them in one row, and no items make one empty row. -/
def rows {α : Type} (perLine : Nat) (items : List α) : List (List α) :=
  if perLine = 0 ∨ items.length ≤ perLine then [items]
  else items.take perLine :: rows perLine (items.drop perLine)
termination_by items.length
decreasing_by
  rw [List.length_drop]
  omega

theorem flatten_rows {α : Type} (perLine : Nat) (items : List α) :
    (rows perLine items).flatten = items := by
  fun_induction rows perLine items with
  | case1 items => simp
  | case2 items _ ih => rw [List.flatten_cons, ih, List.take_append_drop]

namespace Declaration

/-- A constant that is neither padded nor annotated. -/
def constant (name value : String) : Declaration :=
  const name 0 value none

/-- What stands before the first item of a list. -/
def listHead (name opening : String) : String :=
  "const " ++ name ++ " = " ++ opening

def noteText : Option String → String
  | none => ""
  | some note => " # " ++ note

/-- The text of a declaration, without the line feed that ends it. -/
def render : Declaration → String
  | blank => ""
  | comment text => if text = "" then "#" else "# " ++ text
  | doc text => "\"\"\"\n" ++ text ++ "\n\"\"\""
  | const name pad value note =>
    "const " ++ Text.padRight pad name ++ " = " ++ value ++ noteText note
  | struct name field type => "struct " ++ name ++ "\n    " ++ field ++ "::" ++ type ++ "\nend"
  | list name opening closing items perLine =>
    let head := listHead name opening
    let lines := (rows perLine items).map (String.intercalate ", ")
    head ++ String.intercalate (",\n" ++ Text.blanks head.length) lines ++ closing
  | dispatch function type value => function ++ "(::Type\x7b" ++ type ++ "\x7d) = " ++ value
  | fallback function =>
    "@noinline " ++ function ++ "(::Type\x7bT\x7d) where T =\n    " ++
      "error(\"unsupported element type \", T)"

/-- The lines of the text of a declaration. -/
def lines (d : Declaration) : List String :=
  (Text.split '\n' d.render.toList).map String.ofList

theorem lines_ne_nil (d : Declaration) : d.lines ≠ [] := by
  intro h
  exact Text.split_ne_nil _ _ (List.map_eq_nil_iff.mp h)

end Declaration

/-- The declarations of a file, in order. -/
structure Artifact where
  declarations : List Declaration
  deriving DecidableEq

namespace Artifact

def empty : Artifact := ⟨[]⟩

def push (a : Artifact) (d : Declaration) : Artifact :=
  ⟨a.declarations ++ [d]⟩

def append (a : Artifact) (ds : List Declaration) : Artifact :=
  ⟨a.declarations ++ ds⟩

def size (a : Artifact) : Nat :=
  a.declarations.length

def isEmpty (a : Artifact) : Bool :=
  a.declarations.isEmpty

/-- The text of the file: every declaration, ended by a line feed. -/
def render (a : Artifact) : String :=
  String.join (a.declarations.map fun d => d.render ++ "\n")

theorem append_append (a : Artifact) (ds es : List Declaration) :
    (a.append ds).append es = a.append (ds ++ es) := by
  simp [append]

/-- Appending never changes the text that is there. -/
theorem render_append (a : Artifact) (ds : List Declaration) :
    (a.append ds).render = a.render ++ (Artifact.mk ds).render := by
  simp [render, append, String.join_append]

theorem render_eq_joinLines (a : Artifact) :
    a.render = Text.joinLines (a.declarations.map Declaration.render) := by
  rw [render, Text.joinLines, List.map_map]
  rfl

/-- A file consists of the lines of its declarations, in order, each ended by a line feed. -/
theorem endedLines?_render (a : Artifact) :
    Text.endedLines? a.render = some (a.declarations.flatMap Declaration.lines) := by
  rw [render_eq_joinLines, Text.endedLines?_joinLines, List.flatMap_map]
  rfl

/-- Every declaration has a line to itself. -/
theorem size_le_length_lines (a : Artifact) :
    a.size ≤ (a.declarations.flatMap Declaration.lines).length := by
  rw [size]
  induction a.declarations with
  | nil => exact Nat.le_refl _
  | cons d rest ih =>
    have hpos := List.length_pos_iff.mpr d.lines_ne_nil
    rw [List.flatMap_cons, List.length_append, List.length_cons]
    omega

end Artifact

end AbiBindings.Julia
