import AbiBindings.Proofs.Appending
import AbiBindings.Proofs.Contents
import Mathlib.Data.List.Chain

/-!
# The arrangement of the declarations

A docstring belongs to whatever comes after it, so every docstring must stand right before what it
documents: a constant that it names at its beginning, or the methods of the function that gives the
codes. Those methods stand together, the one that refuses other types at their end. Blank lines
separate the sections; there are never two of them in a row, nor one at either end of the file. All
of this holds across the seams between sections, also of those that have no items.
-/

namespace AbiBindings.Bindings.Source

open Julia Declaration

variable (s : Source)

/-- The docstring opens with the qualified name of the constant. -/
def Names (text : String) (d : Declaration) : Prop :=
  ∃ name rest pad value note,
    text = "`" ++ s.settings.library.juliaModule ++ "." ++ name ++ "`" ++ rest ∧
      d = .const name pad value note

/-- The second declaration may come right after the first. -/
def MayFollow : Declaration → Declaration → Prop
  | .blank, next => next ≠ .blank
  | .doc text, next => text = s.codeFunctionDoc ∨ s.Names text next
  | _, _ => True

/-- Anything may come after the declaration. -/
def isSettled : Declaration → Bool
  | .blank | .doc _ => false
  | _ => true

theorem mayFollow_of_isSettled {d : Declaration} (h : isSettled d = true) (next : Declaration) :
    s.MayFollow d next := by
  cases d with
  | blank => cases h
  | doc text => cases h
  | _ => exact trivial

theorem ne_blank_of_isSettled {d : Declaration} (h : isSettled d = true) : d ≠ .blank := by
  rintro rfl
  cases h

/-- Declarations that are in order among themselves and end so that others can follow. -/
structure InOrder (ds : List Declaration) : Prop where
  chain : ds.IsChain s.MayFollow
  ends : ∃ front last, ds = front ++ [last] ∧ isSettled last = true

namespace InOrder

variable {s} {ds es : List Declaration}

theorem append (hds : s.InOrder ds) (hes : s.InOrder es) : s.InOrder (ds ++ es) := by
  obtain ⟨front, last, hlast, hsettled⟩ := hds.ends
  obtain ⟨front', last', hlast', hsettled'⟩ := hes.ends
  constructor
  · refine List.isChain_append.mpr ⟨hds.chain, hes.chain, fun d hd next _ => ?_⟩
    have hd' : last = d := by simpa [hlast] using hd
    exact s.mayFollow_of_isSettled (hd' ▸ hsettled) next
  · exact ⟨ds ++ front', last', by rw [hlast', List.append_assoc], hsettled'⟩

/-- The seams between parts that are in order are in order too. -/
theorem flatten {parts : List (List Declaration)} (hne : parts ≠ [])
    (h : ∀ part ∈ parts, s.InOrder part) : s.InOrder parts.flatten := by
  induction parts with
  | nil => exact absurd rfl hne
  | cons part rest ih =>
    obtain ⟨hpart, hrest⟩ := List.forall_mem_cons.mp h
    cases rest with
    | nil => simpa using hpart
    | cons next rest => exact hpart.append (ih (List.cons_ne_nil next rest) hrest)

theorem singleton {d : Declaration} (h : isSettled d = true) : s.InOrder [d] :=
  ⟨List.isChain_singleton d, [], d, rfl, h⟩

theorem cons {d : Declaration} (h : ∀ next ∈ ds.head?, s.MayFollow d next) (hds : s.InOrder ds) :
    s.InOrder (d :: ds) := by
  obtain ⟨front, last, hlast, hsettled⟩ := hds.ends
  exact ⟨List.isChain_cons.mpr ⟨h, hds.chain⟩, d :: front, last, by rw [hlast]; rfl, hsettled⟩

theorem of_isSettled (hne : ds ≠ []) (h : ∀ d ∈ ds, isSettled d = true) : s.InOrder ds := by
  induction ds with
  | nil => exact absurd rfl hne
  | cons d rest ih =>
    obtain ⟨hd, hrest⟩ := List.forall_mem_cons.mp h
    cases rest with
    | nil => exact singleton hd
    | cons next rest =>
      exact cons (fun next _ => s.mayFollow_of_isSettled hd next)
        (ih (List.cons_ne_nil next rest) hrest)

/-- A blank line, then declarations that anything may follow. -/
theorem blank_cons (hne : ds ≠ []) (h : ∀ d ∈ ds, isSettled d = true) :
    s.InOrder (.blank :: ds) :=
  cons (fun next hnext => ne_blank_of_isSettled (h next (List.mem_of_mem_head? hnext)))
    (of_isSettled hne h)

/-- A blank line, then a docstring with what it documents. -/
theorem blank_doc_cons {text : String}
    (h : ∀ next ∈ ds.head?, text = s.codeFunctionDoc ∨ s.Names text next) (hds : s.InOrder ds) :
    s.InOrder (.blank :: .doc text :: ds) := by
  refine cons (fun next hnext => ?_) (cons h hds)
  obtain rfl : .doc text = next := Option.some.inj hnext
  intro hblank
  cases hblank

end InOrder

/-- A constant with its docstring, after a blank line. -/
theorem inOrder_documented (name text value : String) :
    s.InOrder [.blank, s.documented name text, .constant name value] := by
  refine .blank_doc_cons (fun next hnext => Or.inr ?_) (.singleton rfl)
  obtain rfl : .constant name value = next := Option.some.inj hnext
  refine ⟨name, " " ++ text, 0, value, none, ?_, rfl⟩
  simp only [String.append_assoc]
  rfl

theorem inOrder_sharedMemoryOf (type : String) : s.InOrder (s.sharedMemoryOf type) := by
  have htype : s.InOrder [.blank, .comment "Type used to store a shared memory identifier:",
      .constant "ShmId" type] :=
    .blank_cons (by simp) (by simp [isSettled, Declaration.constant])
  exact htype.append (s.inOrder_documented _ _ _)

theorem inOrder_symbolic (width : Nat) {cs : List Tao.SymbolicConstant} (hne : cs ≠ []) :
    s.InOrder (cs.flatMap (s.symbolic width)) := by
  rw [List.flatMap_def]
  refine .flatten (by simpa using hne) fun part hpart => ?_
  obtain ⟨c, -, rfl⟩ := List.mem_map.mp hpart
  exact s.inOrder_documented c.name c.doc _

theorem inOrder_elementDispatchOf (int : String) : s.InOrder (s.elementDispatchOf int) := by
  have hmethods : s.InOrder (s.types.entries.map (codeMethod int) ++ [.fallback codeFunction]) := by
    refine .of_isSettled (by simp) fun d hd => ?_
    rcases List.mem_append.mp hd with hmethod | hlast
    · obtain ⟨e, -, rfl⟩ := List.mem_map.mp hmethod
      rfl
    · obtain rfl := List.mem_singleton.mp hlast
      rfl
  exact .blank_doc_cons (fun next _ => Or.inl rfl) hmethods

theorem inOrder_timespecOf (layout : StructLayout) {types : List Declaration}
    (htypes : ∀ d ∈ types, isSettled d = true) : s.InOrder (timespecOf layout types) := by
  rw [timespecOf, List.append_assoc]
  refine .append (.blank_cons (by simp) ?_) (.blank_cons (by simp) ?_)
  · simpa [isSettled] using htypes
  · simp [isSettled, fieldOffset, Declaration.constant]

theorem inOrder_parts : ∀ part ∈ s.parts, s.InOrder part := by
  simp only [parts, List.forall_mem_cons]
  refine ⟨.of_isSettled (by simp [header]) (by simp [header, isSettled]),
    .blank_cons (by simp) (by simp [isSettled, Declaration.constant]),
    .blank_cons (by simp) (by simp [isSettled, statusConstant]),
    s.inOrder_sharedMemoryOf _,
    .blank_cons (by simp) (by simp [isSettled, Declaration.constant]),
    s.inOrder_symbolic _ (by simp [Tao.objectTypeTags]),
    s.inOrder_symbolic _ (by simp [Tao.capacityLimits]),
    .blank_cons (by simp) (by simp [isSettled]),
    .blank_cons (by simp) (by simp [isSettled]),
    s.inOrder_elementDispatchOf _,
    .blank_cons (by simp) (by simp [isSettled, elementConstant]),
    s.inOrder_timespecOf _ (by simp [isSettled, fieldTypeNamed, fieldTypeOf, Declaration.constant]),
    .blank_cons (by simp) (by simp [isSettled, cameraState]),
    fun part h => by cases h⟩

theorem inOrder_listing : s.InOrder s.listing :=
  .flatten (List.cons_ne_nil _ _) s.inOrder_parts

/-- The methods of the function that gives the codes, one for each element type. -/
def codeMethods : List Declaration :=
  s.types.entries.map (codeMethod (s.named .nativeCall s.platform.cInt))

/-- The methods stand together behind their docstring, and the one for other types ends them. -/
theorem exists_listing_eq :
    ∃ front back : List Declaration, s.listing =
      front ++ .doc s.codeFunctionDoc :: (s.codeMethods ++ .fallback codeFunction :: back) := by
  refine ⟨(s.parts.take 9).flatten ++ [.blank], (s.parts.drop 10).flatten, ?_⟩
  have hparts : s.parts = s.parts.take 9 ++
      s.elementDispatchOf (s.named .nativeCall s.platform.cInt) :: s.parts.drop 10 := rfl
  have hlisting := (congrArg List.flatten hparts).trans List.flatten_append
  rw [listing, hlisting, List.flatten_cons, elementDispatchOf, codeMethods]
  simp only [List.append_assoc, List.cons_append, List.nil_append]

section

variable {s} {front back : List Declaration}
  (h : s.listing =
    front ++ .doc s.codeFunctionDoc :: (s.codeMethods ++ .fallback codeFunction :: back))

include h

/-- All methods of the file are among those, as there are no more of them. -/
theorem function?_eq_none_around : ∀ d ∈ front ++ back, d.function? = none := by
  have hmethods : (s.codeMethods.filterMap function?).length = s.types.entries.length := by
    simp [codeMethods, function?, codeMethod, Function.comp_def]
  have hlength := congrArg (fun ds => (ds.filterMap function?).length) h
  simp only [functions_listing, List.length_replicate, List.filterMap_append,
    List.filterMap_cons, function?, List.length_append, List.length_cons, hmethods] at hlength
  have hnone : (front ++ back).filterMap function? = [] := by
    rw [← List.length_eq_zero_iff, List.filterMap_append, List.length_append]
    omega
  exact List.filterMap_eq_nil_iff.mp hnone

/-- No other docstring of the file begins with a blank. -/
theorem codeFunctionDoc_notMem :
    .doc s.codeFunctionDoc ∉ front ∧
      .doc s.codeFunctionDoc ∉ s.codeMethods ++ .fallback codeFunction :: back := by
  have hnone : (documentedTexts.map fun entry =>
      "`" ++ s.settings.library.juliaModule ++ "." ++ entry.1 ++ "` " ++ entry.2).count
        s.codeFunctionDoc = 0 := by
    rw [List.count_eq_zero]
    intro hmem
    obtain ⟨entry, -, hentry⟩ := List.mem_map.mp hmem
    have hfirst := congrArg (fun text => text.toList.head?) hentry
    simp [codeFunctionDoc] at hfirst
  have hcount := congrArg (fun ds => (ds.filterMap doc?).count s.codeFunctionDoc) h
  simp only [docs_listing, List.count_append, hnone, List.filterMap_append, List.filterMap_cons,
    doc?, List.count_cons_self, List.count_nil] at hcount
  constructor
  · rw [← mem_docs_iff, ← List.count_eq_zero]
    omega
  · rw [← mem_docs_iff, ← List.count_eq_zero, List.filterMap_append, List.count_append,
      List.filterMap_cons]
    simp only [doc?]
    omega

end

/-- What a docstring documents, given the declarations before it: the declaration right behind it.
That is a constant, or for one docstring the first method of the function that gives the codes. -/
inductive Documents (front : List Declaration) (text : String) : List Declaration → Prop
  | constant (next : Declaration) (rest : List Declaration) (h : s.Names text next) :
    Documents front text (next :: rest)
  | method (htext : text = s.codeFunctionDoc) (hfirst : ∀ d ∈ front, d.function? = none)
    (type value : String) (rest : List Declaration) :
    Documents front text (.dispatch codeFunction type value :: rest)
  | fallback (htext : text = s.codeFunctionDoc) (hfirst : ∀ d ∈ front, d.function? = none)
    (hnone : s.types.entries = []) (rest : List Declaration) :
    Documents front text (.fallback codeFunction :: rest)

theorem documents_methods {front back : List Declaration}
    (h : s.listing =
      front ++ .doc s.codeFunctionDoc :: (s.codeMethods ++ .fallback codeFunction :: back)) :
    s.Documents front s.codeFunctionDoc (s.codeMethods ++ .fallback codeFunction :: back) := by
  have hfirst : ∀ d ∈ front, d.function? = none := fun d hd =>
    function?_eq_none_around h d (List.mem_append_left back hd)
  unfold codeMethods
  cases hentries : s.types.entries with
  | nil => exact .fallback rfl hfirst hentries back
  | cons e rest => exact .method rfl hfirst _ _ _

theorem documents_listing {front back : List Declaration} {text : String}
    (h : s.listing = front ++ .doc text :: back) : s.Documents front text back := by
  obtain ⟨hchain, front', last, hlast, hsettled⟩ := s.inOrder_listing
  by_cases htext : text = s.codeFunctionDoc
  · -- There is only one place where this docstring can stand.
    subst htext
    obtain ⟨before, after, hsplit⟩ := s.exists_listing_eq
    obtain ⟨hbefore, hafter⟩ := codeFunctionDoc_notMem hsplit
    obtain ⟨rfl, -, rfl⟩ :=
      (List.append_cons_inj_of_notMem hbefore hafter).mp (hsplit.symm.trans h)
    exact s.documents_methods hsplit
  · cases back with
    | nil =>
      obtain rfl : last = .doc text := by
        have hends := congrArg List.getLast? (hlast.symm.trans h)
        simpa using hends
      cases hsettled
    | cons next rest =>
      rw [h] at hchain
      have hnext := (List.isChain_append_cons_cons.mp hchain).2.1
      exact .constant next rest (hnext.resolve_left htext)

/-- How the declarations of the bindings are arranged. -/
structure Arranged (ds : List Declaration) : Prop where
  /-- Every docstring stands right before what it documents. -/
  documents : ∀ front text back, ds = front ++ .doc text :: back → s.Documents front text back
  /-- The methods stand together behind their docstring, and there are no others. -/
  methods : ∃ front clauses back,
    ds = front ++ .doc s.codeFunctionDoc :: (clauses ++ .fallback codeFunction :: back) ∧
      clauses.length = s.types.size ∧
      (∀ d ∈ clauses, ∃ type value, d = .dispatch codeFunction type value) ∧
      ∀ d ∈ front ++ back, d.function? = none
  /-- No blank line comes right after another. -/
  separated : ∀ front back, ds ≠ front ++ .blank :: .blank :: back
  /-- The file neither begins nor ends with a blank line. -/
  ends : ∃ first middle last, ds = first :: (middle ++ [last]) ∧ first ≠ .blank ∧ last ≠ .blank

theorem arranged_listing : s.Arranged s.listing where
  documents _ _ _ h := s.documents_listing h
  methods := by
    obtain ⟨front, back, hsplit⟩ := s.exists_listing_eq
    refine ⟨front, s.codeMethods, back, hsplit, List.length_map _, fun d hd => ?_,
      function?_eq_none_around hsplit⟩
    obtain ⟨e, -, rfl⟩ := List.mem_map.mp hd
    exact ⟨e.juliaType, _, rfl⟩
  separated front back h := by
    have hchain := s.inOrder_listing.chain
    rw [h] at hchain
    exact (List.isChain_append_cons_cons.mp hchain).2.1 rfl
  ends := by
    have hrest : s.InOrder s.parts.tail.flatten :=
      .flatten (List.cons_ne_nil _ _) fun part hpart =>
        s.inOrder_parts part (List.mem_of_mem_tail hpart)
    obtain ⟨front, last, hlast, hsettled⟩ := hrest.ends
    have hfirst : s.listing = .comment "" :: (s.header.tail ++ s.parts.tail.flatten) := rfl
    refine ⟨.comment "", s.header.tail ++ front, last, ?_, ne_blank_of_isSettled rfl,
      ne_blank_of_isSettled hsettled⟩
    rw [hfirst, hlast, List.append_assoc]

/-- Emission always succeeds, and what it appends is arranged so that every docstring documents the
declaration after it and the sections are separated. -/
theorem emit_arranged :
    ∃ ds, s.declarations = .ok ds ∧ (∀ a, s.emit a = .ok (a.append ds)) ∧ s.Arranged ds :=
  ⟨s.listing, s.declarations_eq_listing, s.emit_eq_append, s.arranged_listing⟩

end AbiBindings.Bindings.Source
