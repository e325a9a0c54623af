import AbiBindings.Proofs.Appending
import AbiBindings.Text.Split
import Mathlib.Algebra.Order.Floor.Div
import Mathlib.Data.List.Forall2

/-!
# The layout of lists

A long list is broken into lines of equally many items. Which items stand on a line, how it begins
and how it ends is determined by the number of the line alone. Putting the lines together again
gives the list as it would be on one line, so the number of items to a line is a matter of layout.
-/

namespace AbiBindings

namespace Julia

variable {α : Type}

/-- The number of lines of a list of `count` items. -/
def lineCount (perLine count : Nat) : Nat :=
  if perLine = 0 ∨ count = 0 then 1 else count ⌈/⌉ perLine

/-- The items of the line with the given number, counted from zero. -/
def lineItems (perLine : Nat) (items : List α) (k : Nat) : List α :=
  if perLine = 0 then items else (items.drop (k * perLine)).take perLine

theorem lineCount_of_le {perLine count : Nat} (h : perLine = 0 ∨ count ≤ perLine) :
    lineCount perLine count = 1 := by
  unfold lineCount
  split
  · rfl
  · rename_i hne
    rw [not_or] at hne
    rw [Nat.ceilDiv_eq_add_pred_div, Nat.div_eq_iff (by omega)]
    omega

theorem lineCount_of_lt {perLine count : Nat} (hpos : 0 < perLine) (h : perLine < count) :
    lineCount perLine count = lineCount perLine (count - perLine) + 1 := by
  have hsum : count + perLine - 1 = count - perLine + perLine - 1 + perLine := by omega
  rw [lineCount, lineCount, if_neg (by omega), if_neg (by omega), Nat.ceilDiv_eq_add_pred_div,
    Nat.ceilDiv_eq_add_pred_div, hsum, Nat.add_div_right _ hpos]

theorem lineItems_succ {perLine : Nat} (h : 0 < perLine) (items : List α) (k : Nat) :
    lineItems perLine items (k + 1) = lineItems perLine (items.drop perLine) k := by
  rw [lineItems, lineItems, if_neg (by omega), if_neg (by omega), List.drop_drop]
  congr 2
  rw [Nat.succ_mul, Nat.add_comm]

/-- The rows of a list are what stands on its lines. -/
theorem rows_eq_map (perLine : Nat) (items : List α) :
    rows perLine items =
      (List.range (lineCount perLine items.length)).map (lineItems perLine items) := by
  fun_induction rows perLine items with
  | case1 items h =>
    have hitems : lineItems perLine items 0 = items := by
      unfold lineItems
      split
      · rfl
      · rw [Nat.zero_mul, List.drop_zero, List.take_of_length_le (by omega)]
    rw [lineCount_of_le h, List.range_one, List.map_singleton, hitems]
  | case2 items h ih =>
    rw [not_or, Nat.not_le] at h
    have hpos : 0 < perLine := Nat.pos_of_ne_zero h.1
    have hfirst : lineItems perLine items 0 = items.take perLine := by
      rw [lineItems, if_neg h.1, Nat.zero_mul, List.drop_zero]
    have hrest : (lineItems perLine items) ∘ Nat.succ = lineItems perLine (items.drop perLine) :=
      funext fun k => lineItems_succ hpos items k
    rw [lineCount_of_lt hpos h.2, List.range_succ_eq_map, List.map_cons, List.map_map, hfirst,
      hrest, ih, List.length_drop]

theorem rows_ne_nil (perLine : Nat) (items : List α) : rows perLine items ≠ [] := by
  unfold rows
  split
  · exact List.cons_ne_nil _ _
  · exact List.cons_ne_nil _ _

/-- Joining the joined rows joins all items. -/
theorem intercalate_rows (separator : String) (perLine : Nat) (items : List String) :
    separator.intercalate ((rows perLine items).map separator.intercalate) =
      separator.intercalate items := by
  fun_induction rows perLine items with
  | case1 items => exact String.intercalate_singleton
  | case2 items h ih =>
    rw [not_or, Nat.not_le] at h
    have hfront : items.take perLine ≠ [] := by
      rw [← List.length_pos_iff, List.length_take]
      omega
    have hback : items.drop perLine ≠ [] := by
      rw [← List.length_pos_iff, List.length_drop]
      omega
    have hrows : (rows perLine (items.drop perLine)).map separator.intercalate ≠ [] :=
      fun hnil => rows_ne_nil perLine _ (List.map_eq_nil_iff.mp hnil)
    rw [List.map_cons, String.intercalate_cons_of_ne_nil hrows, ih,
      ← String.intercalate_append_of_ne_nil hfront hback, List.take_append_drop]

/-- The lines of parts with a comma and a line feed between them, where all lines but the first are
indented. -/
theorem split_intercalate {start indent closing first : List Char} {rest : List (List Char)}
    (hstart : '\n' ∉ start) (hindent : '\n' ∉ indent) (hclosing : '\n' ∉ closing)
    (hparts : ∀ part ∈ first :: rest, '\n' ∉ part) :
    Text.split '\n'
        (start ++ List.intercalate (',' :: '\n' :: indent) (first :: rest) ++ closing) =
      (first :: rest).mapIdx fun k part =>
        (if k = 0 then start else indent) ++ part ++
          if k = rest.length then closing else [','] := by
  obtain ⟨hfirst, hrest⟩ := List.forall_mem_cons.mp hparts
  induction rest generalizing start first with
  | nil =>
    have hline : '\n' ∉ start ++ first ++ closing := by
      simp only [List.mem_append, not_or]
      exact ⟨⟨hstart, hfirst⟩, hclosing⟩
    rw [List.intercalate_singleton, Text.split_of_notMem hline]
    rfl
  | cons second rest ih =>
    obtain ⟨hsecond, hothers⟩ := List.forall_mem_cons.mp hrest
    have hline : '\n' ∉ start ++ first ++ [','] := by
      simp only [List.mem_append, not_or]
      exact ⟨⟨hstart, hfirst⟩, by decide⟩
    have htext : start ++ List.intercalate (',' :: '\n' :: indent) (first :: second :: rest) ++
          closing =
        (start ++ first ++ [',']) ++
          '\n' :: (indent ++ List.intercalate (',' :: '\n' :: indent) (second :: rest) ++
            closing) := by
      simp [List.intercalate_cons_cons]
    rw [htext, Text.split_append hline, ih hindent hrest hsecond hothers]
    simp [List.mapIdx_cons]

/-- A text without the given number of blanks at its start, if they are there. -/
def dedent (width : Nat) (cs : List Char) : List Char :=
  if List.replicate width ' ' <+: cs then cs.drop width else cs

theorem length_dedent_le (width : Nat) (cs : List Char) : (dedent width cs).length ≤ cs.length := by
  unfold dedent
  split
  · rw [List.length_drop]
    omega
  · exact Nat.le_refl _

/-- Put lines together: every line feed becomes a blank, and the indentation after it is removed. -/
def joined (width : Nat) : List Char → List Char
  | [] => []
  | c :: rest =>
    if c = '\n' then ' ' :: joined width (dedent width rest) else c :: joined width rest
termination_by cs => cs.length
decreasing_by
  · have hle := length_dedent_le width rest
    simp only [List.length_cons]
    omega
  · simp

theorem joined_nil (width : Nat) : joined width [] = [] := by
  rw [joined]

theorem joined_newline (width : Nat) (rest : List Char) :
    joined width ('\n' :: rest) = ' ' :: joined width (dedent width rest) := by
  rw [joined, if_pos rfl]

theorem joined_cons {c : Char} (h : c ≠ '\n') (width : Nat) (rest : List Char) :
    joined width (c :: rest) = c :: joined width rest := by
  rw [joined, if_neg h]

theorem joined_of_notMem {cs : List Char} (h : '\n' ∉ cs) (width : Nat) : joined width cs = cs := by
  induction cs with
  | nil => exact joined_nil width
  | cons c rest ih =>
    rw [List.mem_cons, not_or] at h
    rw [joined_cons (Ne.symm h.1), ih h.2]

theorem dedent_replicate (width : Nat) (rest : List Char) :
    dedent width (List.replicate width ' ' ++ rest) = rest := by
  have hprefix : List.replicate width ' ' <+: List.replicate width ' ' ++ rest :=
    List.prefix_append _ _
  rw [dedent, if_pos hprefix, List.drop_append_of_le_length (by simp),
    List.drop_of_length_le (by simp),
    List.nil_append]

/-- An indentation ends before a comma, so what comes from the comma on plays no part in it. -/
theorem dedent_append_comma (width : Nat) (front rest : List Char) :
    dedent width (front ++ ',' :: rest) = dedent width front ++ ',' :: rest := by
  by_cases hfront : List.replicate width ' ' <+: front
  · obtain ⟨after, rfl⟩ := hfront
    rw [List.append_assoc, dedent_replicate, dedent_replicate]
  · have hlonger : ¬List.replicate width ' ' <+: front ++ ',' :: rest := by
      intro hprefix
      rcases Nat.lt_or_ge front.length width with hlt | hge
      · have hcomma : front ++ [','] <+: List.replicate width ' ' := by
          refine List.prefix_of_prefix_length_le ⟨rest, by simp⟩ hprefix ?_
          rw [List.length_append, List.length_singleton, List.length_replicate]
          exact hlt
        have hmem : ',' ∈ List.replicate width ' ' := hcomma.subset (by simp)
        exact absurd (List.mem_replicate.mp hmem).2 (by decide)
      · refine hfront (List.prefix_of_prefix_length_le hprefix (List.prefix_append _ _) ?_)
        rwa [List.length_replicate]
    rw [dedent, dedent, if_neg hfront, if_neg hlonger]

/-- A comma divides a text into parts whose lines can be put together one after the other. -/
theorem joined_append_comma (width : Nat) (front rest : List Char) :
    joined width (front ++ ',' :: rest) = joined width front ++ ',' :: joined width rest := by
  fun_induction joined width front with
  | case1 => rw [List.nil_append, joined_cons (by decide), List.nil_append]
  | case2 front ih =>
    rw [List.cons_append, joined_newline, dedent_append_comma, ih, List.cons_append]
  | case3 c front hc ih => rw [List.cons_append, joined_cons hc, ih, List.cons_append]

/-- Breaking a text after a comma is undone by putting the lines together. -/
theorem joined_break (width : Nat) (front rest : List Char) :
    joined width (front ++ [',', '\n'] ++ List.replicate width ' ' ++ rest) =
      joined width (front ++ [',', ' '] ++ rest) := by
  have hbroken : front ++ [',', '\n'] ++ List.replicate width ' ' ++ rest =
      front ++ ',' :: '\n' :: (List.replicate width ' ' ++ rest) := by simp
  have hjoined : front ++ [',', ' '] ++ rest = front ++ ',' :: ' ' :: rest := by simp
  rw [hbroken, hjoined, joined_append_comma, joined_append_comma, joined_newline, dedent_replicate,
    joined_cons (by decide)]

/-- However many parts there are, putting the lines together undoes every break between them. -/
theorem joined_intercalate (width : Nat) (start closing first : List Char)
    (rest : List (List Char)) :
    joined width (start ++
        List.intercalate (',' :: '\n' :: List.replicate width ' ') (first :: rest) ++ closing) =
      joined width (start ++ List.intercalate [',', ' '] (first :: rest) ++ closing) := by
  induction rest generalizing start first with
  | nil => rfl
  | cons second rest ih =>
    have hbroken : start ++ List.intercalate (',' :: '\n' :: List.replicate width ' ')
          (first :: second :: rest) ++ closing =
        (start ++ first) ++ [',', '\n'] ++ List.replicate width ' ' ++
          (List.intercalate (',' :: '\n' :: List.replicate width ' ') (second :: rest) ++
            closing) := by
      simp [List.intercalate_cons_cons]
    have hjoined : start ++ List.intercalate [',', ' '] (first :: second :: rest) ++ closing =
        (start ++ first ++ [',', ' ']) ++ List.intercalate [',', ' '] (second :: rest) ++
          closing := by
      simp [List.intercalate_cons_cons]
    rw [hbroken, joined_break, hjoined, ← ih, List.append_assoc (start ++ first ++ [',', ' '])]

theorem notMem_intercalate {c : Char} {separator : String} (hseparator : c ∉ separator.toList)
    {items : List String} (hitems : ∀ item ∈ items, c ∉ item.toList) :
    c ∉ (separator.intercalate items).toList := by
  induction items with
  | nil => simp
  | cons first rest ih =>
    obtain ⟨hfirst, hrest⟩ := List.forall_mem_cons.mp hitems
    by_cases hnil : rest = []
    · subst hnil
      rwa [String.intercalate_singleton]
    · rw [String.intercalate_cons_of_ne_nil hnil, String.toList_append, String.toList_append,
        List.mem_append, List.mem_append, not_or, not_or]
      exact ⟨⟨hfirst, hseparator⟩, ih hrest⟩

namespace Declaration

/-- The line of a list with the given number: the head or as many blanks, its items, and a comma or
the closing text. -/
def listLine (name opening closing : String) (items : List String) (perLine k : Nat) : String :=
  (if k = 0 then listHead name opening else Text.blanks (listHead name opening).length) ++
    String.intercalate ", " (lineItems perLine items k) ++
    if k + 1 = lineCount perLine items.length then closing else ","

/-- The text of a declaration, with the lines of a list put together. -/
def unwrapped : Declaration → String
  | list name opening closing items perLine =>
    String.ofList (joined (listHead name opening).length
      (list name opening closing items perLine).render.toList)
  | d => d.render

/-- There is no line feed in any text that a list is made of. -/
structure FreeOfLineFeeds (name opening closing : String) (items : List String) : Prop where
  inName : '\n' ∉ name.toList
  inOpening : '\n' ∉ opening.toList
  inClosing : '\n' ∉ closing.toList
  inItems : ∀ item ∈ items, '\n' ∉ item.toList

/-- The texts of the rows of a list. -/
def rowTexts (items : List String) (perLine : Nat) : List (List Char) :=
  (rows perLine items).map fun row => (String.intercalate ", " row).toList

theorem exists_rowTexts_eq_cons (items : List String) (perLine : Nat) :
    ∃ first rest, rowTexts items perLine = first :: rest := by
  obtain ⟨row, others, hrows⟩ := List.exists_cons_of_ne_nil (rows_ne_nil perLine items)
  exact ⟨_, _, by rw [rowTexts, hrows, List.map_cons]⟩

theorem rowTexts_eq_map (items : List String) (perLine : Nat) :
    rowTexts items perLine = (List.range (lineCount perLine items.length)).map fun k =>
      (String.intercalate ", " (lineItems perLine items k)).toList := by
  rw [rowTexts, rows_eq_map, List.map_map]
  rfl

theorem intercalate_rowTexts (items : List String) (perLine : Nat) :
    List.intercalate [',', ' '] (rowTexts items perLine) =
      (String.intercalate ", " items).toList := by
  rw [← intercalate_rows ", " perLine items, String.toList_intercalate, List.map_map]
  rfl

section List

variable {name opening closing : String} {items : List String}

theorem toList_render_list (name opening closing : String) (items : List String) (perLine : Nat) :
    (list name opening closing items perLine).render.toList =
      (listHead name opening).toList ++
        List.intercalate (',' :: '\n' :: List.replicate (listHead name opening).length ' ')
          (rowTexts items perLine) ++ closing.toList := by
  have hseparator : (",\n" ++ Text.blanks (listHead name opening).length).toList =
      ',' :: '\n' :: List.replicate (listHead name opening).length ' ' := by
    simp [Text.blanks]
  rw [render, String.toList_append, String.toList_append, String.toList_intercalate, hseparator,
    List.map_map]
  rfl

theorem render_list_zero (name opening closing : String) (items : List String) :
    (list name opening closing items 0).render =
      listHead name opening ++ String.intercalate ", " items ++ closing := by
  have hrows : rows 0 items = [items] := by
    rw [rows, if_pos (Or.inl rfl)]
  simp only [render, hrows, List.map_singleton, String.intercalate_singleton]

theorem unwrapped_list (name opening closing : String) (items : List String) (perLine : Nat) :
    (list name opening closing items perLine).unwrapped =
      String.ofList (joined (listHead name opening).length
        (list name opening closing items 0).render.toList) := by
  obtain ⟨first, rest, hcons⟩ := exists_rowTexts_eq_cons items perLine
  rw [unwrapped, toList_render_list, hcons, joined_intercalate, ← hcons, intercalate_rowTexts,
    render_list_zero, String.toList_append, String.toList_append]

theorem newline_notMem_listHead (h : FreeOfLineFeeds name opening closing items) :
    '\n' ∉ (listHead name opening).toList := by
  simp only [listHead, String.toList_append, List.mem_append, not_or]
  exact ⟨⟨⟨by decide, h.inName⟩, by decide⟩, h.inOpening⟩

/-- With its lines put together a list is as it would be on one line. -/
theorem unwrapped_eq_render_zero (h : FreeOfLineFeeds name opening closing items) (perLine : Nat) :
    (list name opening closing items perLine).unwrapped =
      (list name opening closing items 0).render := by
  have hnewline : '\n' ∉ (list name opening closing items 0).render.toList := by
    rw [render_list_zero, String.toList_append, String.toList_append, List.mem_append,
      List.mem_append, not_or, not_or]
    exact ⟨⟨newline_notMem_listHead h, notMem_intercalate (by decide) h.inItems⟩, h.inClosing⟩
  rw [unwrapped_list, joined_of_notMem hnewline, String.ofList_toList]

theorem newline_notMem_rowTexts (h : ∀ item ∈ items, '\n' ∉ item.toList) (perLine : Nat) :
    ∀ part ∈ rowTexts items perLine, '\n' ∉ part := by
  intro part hpart
  obtain ⟨row, hrow, rfl⟩ := List.mem_map.mp hpart
  refine notMem_intercalate (by decide) fun item hitem => h item ?_
  rw [← flatten_rows perLine items]
  exact List.mem_flatten_of_mem hrow hitem

/-- The lines of a list are those that their numbers determine. -/
theorem lines_list (h : FreeOfLineFeeds name opening closing items) (perLine : Nat) :
    (list name opening closing items perLine).lines =
      (List.range (lineCount perLine items.length)).map
        (listLine name opening closing items perLine) := by
  have hindent : '\n' ∉ List.replicate (listHead name opening).length ' ' := fun hmem =>
    absurd (List.mem_replicate.mp hmem).2 (by decide)
  have hparts := newline_notMem_rowTexts h.inItems perLine
  have hmap := rowTexts_eq_map items perLine
  obtain ⟨first, rest, hcons⟩ := exists_rowTexts_eq_cons items perLine
  rw [hcons] at hparts hmap
  have hlength : rest.length + 1 = lineCount perLine items.length := by
    rw [← List.length_cons, hmap, List.length_map, List.length_range]
  rw [lines, toList_render_list, hcons,
    split_intercalate (newline_notMem_listHead h) hindent h.inClosing hparts, hmap]
  refine List.ext_getElem (by simp) fun k hk hk' => ?_
  rw [← String.toList_inj]
  simp only [List.getElem_map, List.getElem_mapIdx, List.getElem_range, listLine, ← hlength,
    Nat.add_right_cancel_iff, String.toList_ofList, String.toList_append, apply_ite String.toList,
    Text.blanks]
  rfl

end List

/-- The same declaration, but for the number of items to a line. -/
inductive Rewrapped : Declaration → Declaration → Prop
  | same (d : Declaration) : Rewrapped d d
  | list (name opening closing : String) (items : List String) (perLine perLine' : Nat) :
    Rewrapped (.list name opening closing items perLine) (.list name opening closing items perLine')

theorem Rewrapped.unwrapped_eq {d e : Declaration} (h : Rewrapped d e) :
    d.unwrapped = e.unwrapped := by
  cases h with
  | same => rfl
  | list name opening closing items perLine perLine' => rw [unwrapped_list, unwrapped_list]

theorem forall₂_rewrapped_refl (ds : List Declaration) : List.Forall₂ Rewrapped ds ds :=
  List.forall₂_same.mpr fun d _ => .same d

end Declaration

/-- The text of a file, with the lines of every list put together. -/
def Artifact.unwrapped (a : Artifact) : String :=
  String.join (a.declarations.map fun d => d.unwrapped ++ "\n")

theorem Artifact.unwrapped_eq {a b : Artifact}
    (h : List.Forall₂ Declaration.Rewrapped a.declarations b.declarations) :
    a.unwrapped = b.unwrapped := by
  have hlines : a.declarations.map (fun d => d.unwrapped ++ "\n") =
      b.declarations.map fun d => d.unwrapped ++ "\n" := by
    rw [← List.forall₂_eq_eq_eq, List.forall₂_map_left_iff, List.forall₂_map_right_iff]
    exact h.imp fun d e hde => by rw [hde.unwrapped_eq]
  rw [unwrapped, unwrapped, hlines]

end Julia

namespace Settings

/-- The settings with another number of items to a line. -/
def withItemsPerLine (settings : Settings) (perLine : Nat) : Settings :=
  { settings with output := { settings.output with itemsPerLine := perLine } }

end Settings

namespace Bindings.Source

open Julia Declaration

variable (s : Source)

/-- The same source, with another number of items to a line. -/
def withItemsPerLine (perLine : Nat) : Source :=
  { s with settings := s.settings.withItemsPerLine perLine }

theorem rewrapped_elementUnion (perLine : Nat) :
    List.Forall₂ Rewrapped s.elementUnion (s.withItemsPerLine perLine).elementUnion :=
  .cons (.same _) (.cons (.same _) (.cons (.list _ _ _ _ _ _) .nil))

theorem rewrapped_elementTuple (perLine : Nat) :
    List.Forall₂ Rewrapped s.elementTuple (s.withItemsPerLine perLine).elementTuple :=
  .cons (.same _) (.cons (.same _) (.cons (.same _) (.cons (.list _ _ _ _ _ _) .nil)))

/-- Only the two lists of element types are wrapped, so nothing else changes. -/
theorem rewrapped_listing (perLine : Nat) :
    List.Forall₂ Rewrapped s.listing (s.withItemsPerLine perLine).listing := by
  have hparts : List.Forall₂ (List.Forall₂ Rewrapped) s.parts (s.withItemsPerLine perLine).parts :=
    .cons (forall₂_rewrapped_refl _) <|
    .cons (forall₂_rewrapped_refl _) <|
    .cons (forall₂_rewrapped_refl _) <|
    .cons (forall₂_rewrapped_refl _) <|
    .cons (forall₂_rewrapped_refl _) <|
    .cons (forall₂_rewrapped_refl _) <|
    .cons (forall₂_rewrapped_refl _) <|
    .cons (s.rewrapped_elementUnion perLine) <|
    .cons (s.rewrapped_elementTuple perLine) <|
    .cons (forall₂_rewrapped_refl _) <|
    .cons (forall₂_rewrapped_refl _) <|
    .cons (forall₂_rewrapped_refl _) <|
    .cons (forall₂_rewrapped_refl _) .nil
  exact List.rel_flatten hparts

theorem artifact_eq_map : s.artifact = s.platform.checkWidths.map fun _ => ⟨s.listing⟩ := by
  rw [artifact, declarations_eq_listing]
  cases s.platform.checkWidths with
  | error v => rfl
  | ok u => rfl

/-- How many items stand on a line is a matter of layout: it determines the lines of a list and
nothing of what they say, and of the bindings it changes the two lists only. -/
theorem wrapping_changes_layout_only :
    (∀ (name opening closing : String) (items : List String) (perLine : Nat),
      FreeOfLineFeeds name opening closing items →
        (Declaration.list name opening closing items perLine).lines =
            (List.range (lineCount perLine items.length)).map
              (listLine name opening closing items perLine) ∧
          (Declaration.list name opening closing items perLine).unwrapped =
            (Declaration.list name opening closing items 0).render) ∧
      ∀ (s : Source) (perLine : Nat), ∃ ds es,
        s.emit .empty = .ok ⟨ds⟩ ∧ (s.withItemsPerLine perLine).emit .empty = .ok ⟨es⟩ ∧
          s.artifact = s.platform.checkWidths.map (fun _ => ⟨ds⟩) ∧
          (s.withItemsPerLine perLine).artifact = s.platform.checkWidths.map (fun _ => ⟨es⟩) ∧
          List.Forall₂ Rewrapped ds es ∧
          (Artifact.mk ds).unwrapped = (Artifact.mk es).unwrapped := by
  constructor
  · intro name opening closing items perLine h
    exact ⟨lines_list h perLine, unwrapped_eq_render_zero h perLine⟩
  · intro s perLine
    have hlists := s.rewrapped_listing perLine
    exact ⟨s.listing, (s.withItemsPerLine perLine).listing, s.emit_eq_append .empty,
      (s.withItemsPerLine perLine).emit_eq_append .empty, s.artifact_eq_map,
      (s.withItemsPerLine perLine).artifact_eq_map, hlists, Artifact.unwrapped_eq hlists⟩

/-- Three items, two to a line, below a head with letters that are longer in bytes than in
characters; and the bindings of a platform with every type on a line of its own. -/
theorem twoLines_and_singleTypes_laidOut :
    FreeOfLineFeeds "Größe" "(" ")" ["A", "B", "C"] ∧
      (Declaration.list "Größe" "(" ")" ["A", "B", "C"] 2).lines =
        ["const Größe = (A, B,", "               C)"] ∧
      (Declaration.list "Größe" "(" ")" ["A", "B", "C"] 2).unwrapped =
        "const Größe = (A, B, C)" ∧
      ∃ ds es, artifact ⟨.own, .ilp32, {}⟩ = .ok ⟨ds⟩ ∧
        artifact (withItemsPerLine ⟨.own, .ilp32, {}⟩ 1) = .ok ⟨es⟩ ∧
        List.Forall₂ Rewrapped ds es := by
  have hfree : FreeOfLineFeeds "Größe" "(" ")" ["A", "B", "C"] :=
    ⟨by decide, by decide, by decide, by decide⟩
  obtain ⟨hlist, hbindings⟩ := wrapping_changes_layout_only
  obtain ⟨hlines, hunwrapped⟩ := hlist "Größe" "(" ")" ["A", "B", "C"] 2 hfree
  obtain ⟨ds, es, -, -, hds, hes, hrewrapped, -⟩ := hbindings ⟨.own, .ilp32, {}⟩ 1
  rw [render_list_zero] at hunwrapped
  exact ⟨hfree, hlines.trans (by decide), hunwrapped.trans (by decide), ds, es, hds, hes,
    hrewrapped⟩

end Bindings.Source

end AbiBindings
