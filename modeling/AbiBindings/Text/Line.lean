import AbiBindings.Text.Split

/-!
# Lines and columns

A line ends with a line feed, and a carriage return right before that belongs to the line end. What
follows the last line end is a line too, unless it is empty. Text in columns is filled up to a width
counted in characters; text that is already as wide stays as it is.
-/

namespace AbiBindings.Text

def padRight (width : Nat) (s : String) : String :=
  String.ofList (s.toList.rightpad width ' ')

def padLeft (width : Nat) (s : String) : String :=
  String.ofList (s.toList.leftpad width ' ')

theorem length_padLeft (width : Nat) (s : String) :
    (padLeft width s).length = max width s.length := by
  simp only [padLeft, String.length_ofList, List.length_leftpad, String.length_toList]

theorem padLeft_zero (s : String) : padLeft 0 s = s := by
  simp [padLeft, List.leftpad]

def blanks (width : Nat) : String :=
  String.ofList (List.replicate width ' ')

theorem length_blanks (width : Nat) : (blanks width).length = width := by
  simp [blanks]

theorem padRight_eq (width : Nat) (s : String) :
    padRight width s = s ++ blanks (width - s.length) := by
  rw [padRight, List.rightpad, String.length_toList, String.ofList_append, String.ofList_toList,
    blanks]

theorem padLeft_eq (width : Nat) (s : String) :
    padLeft width s = blanks (width - s.length) ++ s := by
  rw [padLeft, List.leftpad, String.length_toList, String.ofList_append, String.ofList_toList,
    blanks]

def splitLines : List Char → List (List Char)
  | [] => []
  | '\n' :: rest => [] :: splitLines rest
  | '\r' :: '\n' :: rest => [] :: splitLines rest
  | c :: rest => consPart c (splitLines rest)

/-- The lines of a text, without their ends. -/
def lines (s : String) : List String :=
  (splitLines s.toList).map String.ofList

/-- The first line of a text; a text without any has the empty one. -/
def firstLine (s : String) : String :=
  (lines s).headD ""

/-- Lines put together, each ended by a line feed. -/
def joinLines (lines : List String) : String :=
  String.join (lines.map (· ++ "\n"))

theorem joinLines_cons (line : String) (rest : List String) :
    joinLines (line :: rest) = line ++ "\n" ++ joinLines rest := by
  simp only [joinLines, List.map_cons, String.join_cons]

theorem joinLines_append (front back : List String) :
    joinLines (front ++ back) = joinLines front ++ joinLines back := by
  simp only [joinLines, List.map_append, String.join_append]

theorem toList_joinLines (lines : List String) :
    (joinLines lines).toList = lines.flatMap fun line => line.toList ++ ['\n'] := by
  induction lines with
  | nil => rfl
  | cons line rest ih => simp [joinLines_cons, ih]

/-- Every text is divided into its own lines, whatever stands before and after it. -/
theorem split_joinLines (texts : List String) :
    split '\n' (joinLines texts).toList =
      (texts.flatMap fun text => split '\n' text.toList) ++ [[]] := by
  induction texts with
  | nil => rfl
  | cons text rest ih =>
    have htext : (joinLines (text :: rest)).toList =
        text.toList ++ '\n' :: (joinLines rest).toList := by
      simp [joinLines_cons]
    rw [htext, split_append_cons, ih, List.flatMap_cons, List.append_assoc]

/-- The lines of a text, if every one of them is ended by a line feed. -/
def endedLines? (s : String) : Option (List String) :=
  let parts := split '\n' s.toList
  if parts.getLast? = some [] then some (parts.dropLast.map String.ofList) else none

theorem endedLines?_joinLines (texts : List String) :
    endedLines? (joinLines texts) =
      some (texts.flatMap fun text => (split '\n' text.toList).map String.ofList) := by
  simp [endedLines?, split_joinLines, List.map_flatMap]

theorem endedLines?_joinLines_of_notMem {lines : List String}
    (h : ∀ line ∈ lines, '\n' ∉ line.toList) : endedLines? (joinLines lines) = some lines := by
  have hline : ∀ line ∈ lines, (split '\n' line.toList).map String.ofList = [line] := by
    intro line hmem
    rw [split_of_notMem (h line hmem), List.map_singleton, String.ofList_toList]
  rw [endedLines?_joinLines, List.flatMap_def, List.map_congr_left hline, ← List.flatMap_def,
    List.flatMap_singleton']

/-- Ending every part and starting every part differ in where the outermost separator stands. -/
theorem flatMap_concat_eq {α : Type} (a : α) (parts : List (List α)) :
    a :: parts.flatMap (· ++ [a]) = parts.flatMap (a :: ·) ++ [a] := by
  induction parts with
  | nil => rfl
  | cons part rest ih => simp [← ih]

theorem of_endedLines?_eq_some {s : String} {lines : List String} (h : endedLines? s = some lines) :
    (∀ line ∈ lines, '\n' ∉ line.toList) ∧ joinLines lines = s := by
  have hparts := flatMap_split '\n' s.toList
  simp only [endedLines?, Option.ite_none_right_eq_some, Option.some.injEq] at h
  obtain ⟨hlast, rfl⟩ := h
  obtain ⟨front, hfront⟩ := List.getLast?_eq_some_iff.mp hlast
  rw [hfront, List.dropLast_concat]
  constructor
  · intro line hline
    obtain ⟨part, hpart, rfl⟩ := List.mem_map.mp hline
    have hmem : part ∈ split '\n' s.toList := by simp [hfront, hpart]
    rw [String.toList_ofList]
    exact notMem_of_mem_split hmem
  · rw [hfront, List.flatMap_append, List.flatMap_singleton, ← flatMap_concat_eq] at hparts
    rw [← String.toList_inj, toList_joinLines, List.flatMap_map]
    simpa using hparts

end AbiBindings.Text
