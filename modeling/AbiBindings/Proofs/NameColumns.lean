import AbiBindings.Proofs.Emission
import AbiBindings.Text.Utf8
import Mathlib.Data.List.Forall2

/-!
# The table of element types is in columns

The names of the element types are filled up to one width, so that the equals signs stand below each
other. The width is counted in bytes and the filling in characters. As a text has no fewer bytes than
characters, the width is never too small for a name, though it can be larger than the longest one
needs. No bound on the width is assumed.
-/

namespace AbiBindings.Bindings.Source

open Julia Declaration

variable (s : Source)

/-- The text of a constant: its full name and a filling, the number after an indentation, and the
description. -/
def rowText (e : Tao.ElementType) (filling indentation : Nat) : String :=
  "const " ++ "ELTYPE_" ++ e.name ++ Text.blanks filling ++ " = " ++
    (Text.blanks indentation ++ toString e.code) ++ " # " ++ e.description

/-- The text is that of the entry, with the equals sign after the given number of characters and the
number at the right end of two columns or of as many as it needs. -/
def IsRow (column : Nat) (e : Tao.ElementType) (text : String) : Prop :=
  ∃ filling indentation, text = rowText e filling indentation ∧
    ("const " ++ "ELTYPE_" ++ e.name ++ Text.blanks filling).length = column ∧
    (Text.blanks indentation ++ toString e.code).length = max 2 (toString e.code).length

/-- No name is longer in bytes than the width of the column. -/
theorem utf8ByteSize_le_elementPad {e : Tao.ElementType} (h : e ∈ s.types.entries) :
    (elementConstantName e).utf8ByteSize ≤ s.elementPad :=
  List.le_max?_getD_of_mem (List.mem_map_of_mem h)

theorem length_le_elementPad {e : Tao.ElementType} (h : e ∈ s.types.entries) :
    (elementConstantName e).length ≤ s.elementPad :=
  Nat.le_trans (Text.length_le_utf8ByteSize _) (s.utf8ByteSize_le_elementPad h)

/-- The column is as wide as the longest name is in bytes. -/
theorem exists_utf8ByteSize_eq_elementPad (h : s.types.entries ≠ []) :
    ∃ e ∈ s.types.entries, (elementConstantName e).utf8ByteSize = s.elementPad := by
  have hne : s.types.entries.map (fun e => (elementConstantName e).utf8ByteSize) ≠ [] :=
    mt List.map_eq_nil_iff.mp h
  obtain ⟨pad, hpad⟩ := Option.isSome_iff_exists.mp (List.isSome_max?_iff.mpr hne)
  obtain ⟨e, he, hsize⟩ := List.mem_map.mp (List.max?_mem hpad)
  refine ⟨e, he, hsize.trans ?_⟩
  rw [elementPad, hpad, Option.getD_some]

theorem render_elementConstant (pad : Nat) (e : Tao.ElementType) :
    (elementConstant pad e).render =
      rowText e (pad - (elementConstantName e).length) (2 - (toString e.code).length) := by
  simp only [elementConstant, render, noteText, twoColumns, rowText, elementConstantName,
    Text.padRight_eq, Text.padLeft_eq, String.append_assoc]

theorem isRow_elementConstant {pad : Nat} {e : Tao.ElementType}
    (h : (elementConstantName e).length ≤ pad) :
    IsRow (6 + pad) e (elementConstant pad e).render := by
  have hname : (elementConstantName e).length = 7 + e.name.length := by
    rw [elementConstantName, String.length_append]
    rfl
  have hcolumn : ("const " ++ "ELTYPE_" ++ e.name ++
      Text.blanks (pad - (elementConstantName e).length)).length = 6 + pad := by
    have hstart : ("const " ++ "ELTYPE_").length = 13 := rfl
    rw [String.length_append, String.length_append, Text.length_blanks]
    omega
  have hnumber : (Text.blanks (2 - (toString e.code).length) ++ toString e.code).length =
      max 2 (toString e.code).length := by
    rw [String.length_append, Text.length_blanks]
    omega
  exact ⟨_, _, render_elementConstant pad e, hcolumn, hnumber⟩

/-- The lines before the rows of the table. -/
def tableHeading : List Declaration :=
  [.blank, .comment "Identifiers of the type of the elements in an array."]

theorem exists_listing_eq_elementTable :
    ∃ before after, s.listing = before ++ s.elementTable ++ after := by
  have hparts : s.parts = s.parts.take 10 ++ s.elementTable :: s.parts.drop 11 := rfl
  refine ⟨(s.parts.take 10).flatten, (s.parts.drop 11).flatten, ?_⟩
  rw [listing, hparts, List.flatten_append, List.flatten_cons, List.append_assoc]
  rfl

/-- The table has a row for each entry, in order, and all equals signs stand below each other. Every
name fits the width of the column, which is what the longest name takes in bytes. -/
theorem elementTable_aligned :
    ∃ before after rows,
      s.declarations = .ok (before ++ (tableHeading ++ rows) ++ after) ∧
      s.elementTable = tableHeading ++ rows ∧
      List.Forall₂ (fun e row => IsRow (6 + s.elementPad) e (render row)) s.types.entries rows ∧
      (∀ e ∈ s.types.entries, (elementConstantName e).length ≤ s.elementPad ∧
        (elementConstantName e).utf8ByteSize ≤ s.elementPad) ∧
      (s.types.entries ≠ [] →
        ∃ e ∈ s.types.entries, (elementConstantName e).utf8ByteSize = s.elementPad) := by
  obtain ⟨before, after, hlisting⟩ := s.exists_listing_eq_elementTable
  refine ⟨before, after, s.types.entries.map (elementConstant s.elementPad), ?_, rfl, ?_, ?_,
    s.exists_utf8ByteSize_eq_elementPad⟩
  · rw [declarations_eq_listing, hlisting]
    rfl
  · rw [List.forall₂_map_right_iff, List.forall₂_same]
    intro e he
    exact isRow_elementConstant (s.length_le_elementPad he)
  · intro e he
    exact ⟨s.length_le_elementPad he, s.utf8ByteSize_le_elementPad he⟩

/-- The longest name in bytes has fewer characters than the other. -/
def umlautTypes : Tao.ElementTypes :=
  ⟨[⟨"ÄÄÄ", Tao.NativeElement.int8.representation, "Int8", 1, "a"⟩,
    ⟨"LONG1", Tao.NativeElement.uint8.representation, "UInt8", -700, "b"⟩]⟩

theorem umlautTypes_aligned :
    umlautTypes.entries ≠ [] ∧
      (∃ e ∈ umlautTypes.entries, (elementConstantName e).utf8ByteSize = 13) ∧
      ∃ rows, elementTable ⟨umlautTypes, .ilp32, {}⟩ = tableHeading ++ rows ∧
        List.Forall₂ (fun e row => IsRow 19 e (render row)) umlautTypes.entries rows ∧
        rows.map render =
          ["const ELTYPE_ÄÄÄ    =  1 # a", "const ELTYPE_LONG1  = -700 # b"] := by
  have hne : umlautTypes.entries ≠ [] := by decide
  obtain ⟨-, -, rows, -, htable, hrows, -, hlongest⟩ :=
    elementTable_aligned ⟨umlautTypes, .ilp32, {}⟩
  have htexts : rows = umlautTypes.entries.map (elementConstant 13) :=
    (List.append_cancel_left htable).symm
  refine ⟨hne, hlongest hne, rows, htable, hrows, ?_⟩
  rw [htexts]
  decide

end AbiBindings.Bindings.Source
