import AbiBindings.Proofs.WrittenValues
import AbiBindings.Toml.Document
import Mathlib.Data.List.Nodup

/-!
# Reading written documents

A document of sections, in whatever order they and their entries stand, is written with a statement
on each line. Every line is read as its statement, and carrying the statements out gives a table for
each section, with the entries in the order in which they are written.
-/

namespace AbiBindings.Toml

/-- A section has each key once. -/
structure Section where
  name : String
  entries : List (String × Atom)
  distinct : (entries.map Prod.fst).Nodup

/-- A document has each section once. -/
structure Document where
  sections : List Section
  distinct : (sections.map Section.name).Nodup

/-- That a section of the given name has a key with the given value. -/
def Document.Holds (d : Document) (name key : String) (value : Atom) : Prop :=
  ∃ s ∈ d.sections, s.name = name ∧ (key, value) ∈ s.entries

/-- The statement of an entry. -/
def entryStatement (entry : String × Atom) : Statement :=
  .pair ⟨[], entry.1⟩ entry.2.value

def Section.statements (s : Section) : List Statement :=
  .header ⟨[], s.name⟩ :: s.entries.map entryStatement

def Document.statements (d : Document) : List Statement :=
  d.sections.flatMap Section.statements

/-- The ways to write a statement on a line. -/
inductive WritesLine : Statement → List Char → Prop
  | header {name : String} {written : List Char} (h : WritesKey name written) :
    WritesLine (.header ⟨[], name⟩) ('[' :: (written ++ [']']))
  | pair {key : String} {atom : Atom} {left right : List Char} (hkey : WritesKey key left)
      (hvalue : WritesAtom atom right) :
    WritesLine (.pair ⟨[], key⟩ atom.value) (left ++ ' ' :: '=' :: ' ' :: right)

/-- The ways to write statements on lines, with empty lines between them. -/
inductive WritesLines : List Statement → List Char → Prop
  | nil : WritesLines [] []
  | empty {statements : List Statement} {text : List Char} (h : WritesLines statements text) :
    WritesLines statements ('\n' :: text)
  | line {statement : Statement} {statements : List Statement} {line text : List Char}
      (head : WritesLine statement line) (tail : WritesLines statements text) :
    WritesLines (statement :: statements) (line ++ '\n' :: text)

/-- That a text is a way to write a document. -/
def Document.Writes (d : Document) (text : String) : Prop :=
  WritesLines d.statements text.toList

/-- The line of an entry, with its end. -/
def writtenEntry (entry : String × Atom) : List Char :=
  writtenKey entry.1 ++ ' ' :: '=' :: ' ' :: entry.2.written ++ ['\n']

def Section.written (s : Section) : List Char :=
  '[' :: (writtenKey s.name ++ [']']) ++ '\n' :: s.entries.flatMap writtenEntry

/-- A document without empty lines, in which texts have as few marks and escapes as they can. -/
def Document.write (d : Document) : String :=
  String.ofList (d.sections.flatMap Section.written)

theorem WritesLines.append {front back : List Statement} {text more : List Char}
    (h : WritesLines front text) (hback : WritesLines back more) :
    WritesLines (front ++ back) (text ++ more) := by
  induction h with
  | nil => exact hback
  | empty _ ih => exact .empty ih
  | line head _ ih =>
    rw [List.append_assoc]
    exact .line head ih

theorem writesLines_entries (entries : List (String × Atom)) :
    WritesLines (entries.map entryStatement) (entries.flatMap writtenEntry) := by
  induction entries with
  | nil => exact .nil
  | cons entry rest ih =>
    rw [List.flatMap_cons, writtenEntry, List.append_assoc]
    exact .line (.pair (writesKey_writtenKey entry.1) entry.2.writesAtom_written) ih

/-- Every document has a text. -/
theorem Document.writes_write (d : Document) : d.Writes d.write := by
  rw [Writes, write, statements, String.toList_ofList]
  induction d.sections with
  | nil => exact .nil
  | cons s rest ih =>
    rw [List.flatMap_cons, List.flatMap_cons]
    exact .append (.line (.header (writesKey_writtenKey s.name)) (writesLines_entries s.entries)) ih

/-- What begins a line is neither left out of it nor the end of it. -/
theorem WritesLine.exists_eq_cons {statement : Statement} {line : List Char}
    (h : WritesLine statement line) :
    ∃ first rest, line = first :: rest ∧ (IsStart first ∨ first = '[') := by
  cases h with
  | header => exact ⟨'[', _, rfl, Or.inr rfl⟩
  | pair hkey _ =>
    obtain ⟨first, rest, rfl, hfirst⟩ := hkey.exists_eq_cons
    exact ⟨first, _, rfl, Or.inl hfirst⟩

theorem readTableHeader_writesKey {name : String} {written : List Char} (h : WritesKey name written)
    (rest : List Char) :
    readTableHeader (written ++ ']' :: rest) = some (.header ⟨[], name⟩, rest) := by
  have hend : ∀ c ∈ (']' :: rest).head?, isBareKeyChar c = false := by
    rintro c ⟨⟩
    rfl
  have hblanks : skipBlanks (']' :: rest) = ']' :: rest := skipBlanks_of_head rfl rest
  rw [readTableHeader, readPath_writesKey h hend (by simp [hblanks]), hblanks]
  rfl

theorem readPair_writes {key : String} {atom : Atom} {left right : List Char}
    (hkey : WritesKey key left) (hvalue : WritesAtom atom right) (depth : Nat)
    (rest : List Char) :
    readPair (readValue depth) (left ++ ' ' :: '=' :: ' ' :: (right ++ '\n' :: rest)) =
      some ((⟨[], key⟩, atom.value), '\n' :: rest) := by
  have hend : ∀ c ∈ (' ' :: '=' :: ' ' :: (right ++ '\n' :: rest)).head?,
      isBareKeyChar c = false := by
    rintro c ⟨⟩
    rfl
  have hline : ∀ c ∈ ('\n' :: rest).head?, isWordChar c = false ∧ c ≠ '"' := by
    rintro c ⟨⟩
    exact ⟨rfl, by decide⟩
  have hblanks : skipBlanks (' ' :: (right ++ '\n' :: rest)) = right ++ '\n' :: rest := by
    obtain ⟨start, tail, hright, hstart⟩ := hvalue.exists_eq_cons
    rw [hright]
    exact skipBlanks_of_head hstart.isBlank_eq_false _
  rw [readPair, readPath_writesKey hkey hend (by simp [skipBlanks, isBlank])]
  change (readValue depth (skipBlanks (' ' :: (right ++ '\n' :: rest)))).bind _ = _
  rw [hblanks, readValue_writesAtom hvalue depth hline]
  rfl

/-- A line is read as its statement, up to the line end. -/
theorem readStatement_writesLine {statement : Statement} {line : List Char}
    (h : WritesLine statement line) (rest : List Char) :
    readStatement (line ++ '\n' :: rest) = some (statement, '\n' :: rest) := by
  cases h with
  | @header name written h =>
    rw [List.cons_append, List.append_assoc, List.singleton_append, readStatement,
      readTableHeader_writesKey h]
    obtain ⟨first, others, hcons, hfirst⟩ := h.exists_eq_cons
    rw [hcons]
    exact fun _ hbracket => hfirst.ne (d := '[') rfl (by decide) (List.cons.inj hbracket).1
  | @pair key atom left right hkey hvalue =>
    obtain ⟨first, others, hcons, hfirst⟩ := hkey.exists_eq_cons
    have hbracket : first ≠ '[' := hfirst.ne rfl (by decide)
    rw [List.append_assoc, List.cons_append, List.cons_append, List.cons_append, readStatement,
      readPair_writes hkey hvalue]
    · rfl
    all_goals
      rw [hcons]
      exact fun _ hcons => hbracket (List.cons.inj hcons).1

/-- Where a line has a statement, there is no end of a line. -/
theorem finishLine?_of_start {first : Char} (h : IsStart first ∨ first = '[') (rest : List Char) :
    finishLine? (first :: rest) = none := by
  have hne : first ≠ '#' ∧ first ≠ '\n' ∧ first ≠ '\r' ∧ isBlank first = false := by
    rcases h with hstart | rfl
    · exact ⟨hstart.ne rfl (by decide), hstart.ne rfl (by decide), hstart.ne rfl (by decide),
        hstart.isBlank_eq_false⟩
    · exact ⟨by decide, by decide, by decide, rfl⟩
  obtain ⟨hcomment, hfeed, hreturn, hblank⟩ := hne
  have hskip : skipComment (first :: rest) = first :: rest := by
    rw [skipComment]
    exact fun _ hcons => hcomment (List.cons.inj hcons).1
  rw [finishLine?, skipBlanks_of_head hblank, hskip]
  change lineEnd? (first :: rest) = none
  unfold lineEnd?
  split
  · next hcons => exact absurd (List.cons.inj hcons).1 hfeed
  · next hcons => exact absurd (List.cons.inj hcons).1 hreturn
  · rfl

/-- The statements of a written text are read, if there are enough lines to spend. -/
theorem readStatements_writesLines {statements : List Statement} {text : List Char}
    (h : WritesLines statements text) {limit : Nat} (hlimit : text.length < limit) :
    readStatements limit text = some statements := by
  induction h generalizing limit with
  | nil =>
    obtain ⟨limit, rfl⟩ := Nat.exists_eq_add_one_of_ne_zero (Nat.ne_of_gt hlimit)
    rfl
  | @empty statements text h ih =>
    rw [List.length_cons] at hlimit
    obtain ⟨limit, rfl⟩ := Nat.exists_eq_add_one_of_ne_zero (show limit ≠ 0 by omega)
    have hskip : readStatements (limit + 1) ('\n' :: text) = readStatements limit text := rfl
    rw [hskip, ih (by omega)]
  | @line statement statements line text head tail ih =>
    rw [List.length_append, List.length_cons] at hlimit
    obtain ⟨limit, rfl⟩ := Nat.exists_eq_add_one_of_ne_zero (show limit ≠ 0 by omega)
    have hread := readStatement_writesLine head text
    have hrest := ih (show text.length < limit by omega)
    obtain ⟨first, others, rfl, hfirst⟩ := head.exists_eq_cons
    have hblank : isBlank first = false := by
      rcases hfirst with hstart | rfl
      · exact hstart.isBlank_eq_false
      · rfl
    rw [List.cons_append] at hread ⊢
    rw [readStatements, skipBlanks_of_head hblank]
    simp only [finishLine?_of_start hfirst, hread]
    change (readStatements limit text).bind _ = _
    rw [hrest]
    rfl

namespace Entries

theorem find?_eq_none {entries : Entries} {key : String} (h : key ∉ entries.map Prod.fst) :
    List.find? (fun entry => entry.1 == key) entries = none := by
  rw [List.find?_eq_none]
  intro entry hentry hkey
  exact h (beq_iff_eq.mp hkey ▸ List.mem_map_of_mem hentry)

theorem get?_eq_none {entries : Entries} {key : String} (h : key ∉ entries.map Prod.fst) :
    entries.get? key = none := by
  rw [get?, find?_eq_none h, Option.map_none]

theorem get?_append_cons {front : Entries} {key : String} (h : key ∉ front.map Prod.fst)
    (value : Value) (back : Entries) :
    get? (front ++ (key, value) :: back) key = some value := by
  have hkey : ((key, value).1 == key) = true := beq_self_eq_true key
  rw [get?, List.find?_append, find?_eq_none h, Option.none_or, List.find?_cons, hkey]
  rfl

/-- Where no key stands twice, the value of a key is the one it stands with. -/
theorem get?_of_mem {entries : Entries} (h : (entries.map Prod.fst).Nodup) {key : String}
    {value : Value} (hmem : (key, value) ∈ entries) : entries.get? key = some value := by
  obtain ⟨front, back, rfl⟩ := List.append_of_mem hmem
  rw [List.map_append, List.map_cons, List.nodup_append] at h
  refine get?_append_cons (fun hfront => ?_) value back
  exact h.2.2 key hfront key (List.mem_cons_self ..) rfl

theorem replace_concat {entries : Entries} {key : String} (h : key ∉ entries.map Prod.fst)
    (old new : Value) : replace (entries ++ [(key, old)]) key new = entries ++ [(key, new)] := by
  have hkey : ((key, old).1 == key) = true := beq_self_eq_true key
  rw [replace, List.map_append, List.map_singleton, if_pos hkey]
  congr 1
  refine List.map_congr_left (fun entry hentry => if_neg fun hsame => ?_) |>.trans (List.map_id _)
  exact h (beq_iff_eq.mp hsame ▸ List.mem_map_of_mem hentry)

end Entries

/-- The table that the entries of a section make. -/
def Section.table (s : Section) : Entries :=
  s.entries.map fun entry => (entry.1, entry.2.value)

/-- What is read of a document: a table for each section. -/
def Document.table (d : Document) : Entries :=
  d.sections.map fun s => (s.name, .table .header s.table)

theorem Section.map_fst_table (s : Section) : s.table.map Prod.fst = s.entries.map Prod.fst := by
  rw [table, List.map_map]
  rfl

theorem Document.map_fst_table (d : Document) :
    d.table.map Prod.fst = d.sections.map Section.name := by
  rw [table, List.map_map]
  rfl

theorem Section.get?_table_of_mem (s : Section) {key : String} {atom : Atom}
    (h : (key, atom) ∈ s.entries) : s.table.get? key = some atom.value := by
  have hdistinct : (s.table.map Prod.fst).Nodup := by
    rw [s.map_fst_table]
    exact s.distinct
  refine Entries.get?_of_mem hdistinct ?_
  rw [table]
  exact List.mem_map_of_mem h

theorem Document.get?_table_of_mem (d : Document) {s : Section} (h : s ∈ d.sections) :
    d.table.get? s.name = some (.table .header s.table) := by
  have hdistinct : (d.table.map Prod.fst).Nodup := by
    rw [d.map_fst_table]
    exact d.distinct
  refine Entries.get?_of_mem hdistinct ?_
  rw [table]
  exact List.mem_map_of_mem h

/-- There is only one section of a name to look into. -/
theorem Document.holds_iff_of_mem (d : Document) {s : Section} (h : s ∈ d.sections) {key : String}
    {atom : Atom} : d.Holds s.name key atom ↔ (key, atom) ∈ s.entries := by
  constructor
  · rintro ⟨other, hother, hname, hentry⟩
    rwa [List.inj_on_of_nodup_map d.distinct hother h hname] at hentry
  · exact fun hentry => ⟨s, h, rfl, hentry⟩

namespace Draft

theorem carryOut?_header {root : Entries} {name : String} (h : name ∉ root.map Prod.fst)
    (current : List String) :
    carryOut? ⟨root, current⟩ (.header ⟨[], name⟩) =
      some ⟨root ++ [(name, .table .header [])], [name]⟩ := by
  rw [carryOut?, Entries.changeAt?, Entries.openTable?, Entries.get?_eq_none h]
  rfl

theorem carryOut?_pair {front inner : Entries} {name key : String}
    (hname : name ∉ front.map Prod.fst) (hkey : key ∉ inner.map Prod.fst) (value : Value) :
    carryOut? ⟨front ++ [(name, .table .header inner)], [name]⟩ (.pair ⟨[], key⟩ value) =
      some ⟨front ++ [(name, .table .header (inner ++ [(key, value)]))], [name]⟩ := by
  have hinsert : Entries.insertDotted? key value [] inner = some (inner ++ [(key, value)]) := by
    rw [Entries.insertDotted?, Entries.add?, Entries.get?_eq_none hkey]
  have hchange : Entries.changeAt? (Entries.insertDotted? key value []) [name]
      (front ++ [(name, .table .header inner)]) =
      some (front ++ [(name, .table .header (inner ++ [(key, value)]))]) := by
    rw [Entries.changeAt?, Entries.get?_append_cons hname]
    change (Entries.changeAt? (Entries.insertDotted? key value []) [] inner).bind _ = _
    rw [Entries.changeAt?, hinsert, Option.bind_some, Entries.replace_concat hname]
    rfl
  rw [carryOut?, hchange]
  rfl

/-- Pairs with new keys go to the end of the table that was opened last. -/
theorem foldlM_pairs {front : Entries} {name : String} (hname : name ∉ front.map Prod.fst)
    (entries inner : Entries) (h : ((inner ++ entries).map Prod.fst).Nodup) :
    (entries.map fun entry => Statement.pair ⟨[], entry.1⟩ entry.2).foldlM carryOut?
        ⟨front ++ [(name, .table .header inner)], [name]⟩ =
      some ⟨front ++ [(name, .table .header (inner ++ entries))], [name]⟩ := by
  induction entries generalizing inner with
  | nil => rw [List.append_nil]; rfl
  | cons entry rest ih =>
    have hkey : entry.1 ∉ inner.map Prod.fst := by
      intro hmem
      rw [List.map_append, List.nodup_append] at h
      exact h.2.2 entry.1 hmem entry.1 (List.mem_cons_self ..) rfl
    rw [List.append_cons] at h
    rw [List.map_cons, List.foldlM_cons, carryOut?_pair hname hkey,
      List.append_cons inner entry rest]
    exact ih (inner ++ [entry]) h

/-- A section with a new name goes to the end of the document. -/
theorem foldlM_section {root : Entries} (s : Section) (h : s.name ∉ root.map Prod.fst)
    (current : List String) :
    s.statements.foldlM carryOut? ⟨root, current⟩ =
      some ⟨root ++ [(s.name, .table .header s.table)], [s.name]⟩ := by
  have hpairs : s.entries.map entryStatement =
      s.table.map fun entry => Statement.pair ⟨[], entry.1⟩ entry.2 := by
    rw [Section.table, List.map_map]
    rfl
  have hdistinct : (([] ++ s.table).map Prod.fst).Nodup := by
    rw [List.nil_append, s.map_fst_table]
    exact s.distinct
  rw [Section.statements, List.foldlM_cons, carryOut?_header h, hpairs]
  exact foldlM_pairs h s.table [] hdistinct

theorem foldlM_sections (sections : List Section) {root : Entries}
    (h : (root.map Prod.fst ++ sections.map Section.name).Nodup) (current : List String) :
    ∃ last, (sections.flatMap Section.statements).foldlM carryOut? ⟨root, current⟩ =
      some ⟨root ++ sections.map fun s => (s.name, .table .header s.table), last⟩ := by
  induction sections generalizing root current with
  | nil => exact ⟨current, by rw [List.map_nil, List.append_nil]; rfl⟩
  | cons s rest ih =>
    rw [List.map_cons] at h
    have hname : s.name ∉ root.map Prod.fst := fun hmem =>
      (List.nodup_append.mp h).2.2 s.name hmem s.name (List.mem_cons_self ..) rfl
    rw [List.append_cons] at h
    have hrest : ((root ++ [(s.name, Value.table .header s.table)]).map Prod.fst ++
        rest.map Section.name).Nodup := by
      rwa [List.map_append]
    obtain ⟨last, hlast⟩ := ih hrest [s.name]
    rw [List.append_assoc, List.singleton_append] at hlast
    refine ⟨last, ?_⟩
    rw [List.flatMap_cons, List.foldlM_append, foldlM_section s hname, List.map_cons]
    exact hlast

end Draft

theorem skipByteOrderMark_writesLines {statements : List Statement} {text : List Char}
    (h : WritesLines statements text) : skipByteOrderMark text = text := by
  have hhead : text.head? ≠ some '\ufeff' := by
    cases h with
    | nil => exact nofun
    | empty => exact (fun hhead => absurd (Option.some.inj hhead) (by decide))
    | line head _ =>
      obtain ⟨first, others, rfl, hfirst⟩ := head.exists_eq_cons
      intro hhead
      obtain rfl := Option.some.inj hhead
      rcases hfirst with hstart | hbracket
      · exact hstart.ne (d := '\ufeff') (by decide) (by decide) rfl
      · exact absurd hbracket (by decide)
  unfold skipByteOrderMark
  split
  · exact absurd rfl hhead
  · rfl

/-- However a document is written, it is read as its tables. -/
theorem read?_of_writes (d : Document) {text : String} (h : d.Writes text) :
    read? text = some d.table := by
  have hlength : text.toList.length < text.length + 1 := by
    rw [String.length_toList]
    exact Nat.lt_succ_self _
  have hdistinct : (([] : Entries).map Prod.fst ++ d.sections.map Section.name).Nodup := d.distinct
  obtain ⟨last, hfold⟩ := Draft.foldlM_sections d.sections hdistinct []
  rw [read?, skipByteOrderMark_writesLines h, readStatements_writesLines h hlength]
  change (List.foldlM Draft.carryOut? Draft.empty d.statements).bind _ = _
  rw [Document.statements, Draft.empty, hfold]
  rfl

end AbiBindings.Toml
