import AbiBindings.Proofs.WrittenDocuments
import AbiBindings.Settings.Reader

/-!
# Reading settings back

What settings a document asks for is told by the values that it holds, whatever the order of its
sections and keys and whatever other keys there are. A value of the wrong type is the first thing
that is refused, then an empty name, then a name that is no identifier.
-/

namespace AbiBindings

/-- The names that a module or a constant may have. -/
def Julia.IsIdentifier (name : String) : Prop :=
  ∃ first rest, name.toList = first :: rest ∧ (Text.isAlphabetic first = true ∨ first = '_') ∧
    ∀ c ∈ rest, Text.isAlphabetic c = true ∨ Text.isNumeric c = true ∨ c = '_' ∨ c = '!'

theorem Julia.isIdentifier_iff (name : String) :
    Julia.isIdentifier name = true ↔ Julia.IsIdentifier name := by
  unfold isIdentifier IsIdentifier
  cases name.toList with
  | nil => exact iff_of_false nofun nofun
  | cons first rest =>
    simp [isIdentifierStart, isIdentifierPart, or_assoc, and_assoc]

namespace Toml

def Atom.text? : Atom → Option String
  | text value => some value
  | integer _ => none

def Atom.natural? : Atom → Option Nat
  | text _ => none
  | integer value => if 0 ≤ value.toInt then some value.toInt.toNat else none

/-- What a document gives for a key: the meaning of its value, or a default without a value. -/
inductive Document.Gives {α : Type} (d : Document) (meaning : Atom → Option α) (default : α)
    (name key : String) : α → Prop
  | present {atom : Atom} {value : α} (h : d.Holds name key atom)
      (hmeaning : meaning atom = some value) : Gives d meaning default name key value
  | absent (h : ∀ atom, ¬d.Holds name key atom) : Gives d meaning default name key default

theorem Document.exists_gives {α : Type} {d : Document} {meaning : Atom → Option α}
    {name key : String} (h : ∀ atom, d.Holds name key atom → meaning atom ≠ none)
    (default : α) : ∃ value, d.Gives meaning default name key value := by
  by_cases hpresent : ∃ atom, d.Holds name key atom
  · obtain ⟨atom, hatom⟩ := hpresent
    obtain ⟨value, hvalue⟩ := Option.ne_none_iff_exists'.mp (h atom hatom)
    exact ⟨value, .present hatom hvalue⟩
  · exact ⟨default, .absent (not_exists.mp hpresent)⟩

end Toml

namespace Settings

open Toml

/-- The keys of texts, with their sections. -/
def textKeys : List (String × String) :=
  [("library", "name"), ("library", "path"), ("library", "module"), ("library", "path_constant"),
    ("output", "file_name"), ("log", "level")]

/-- A value that a key cannot have. -/
inductive WrongType : (name key : String) → Atom → Prop
  | number {name key : String} (h : (name, key) ∈ textKeys) (value : Int64) :
    WrongType name key (.integer value)
  | text (value : String) : WrongType "output" "items_per_line" (.text value)
  | negative {value : Int64} (h : value.toInt < 0) :
    WrongType "output" "items_per_line" (.integer value)

def Mistyped (d : Document) : Prop :=
  ∃ name key atom, d.Holds name key atom ∧ WrongType name key atom

/-- The default settings, with those replaced that a document has values for. -/
structure Replaced (d : Document) (s : Settings) : Prop where
  name : d.Gives Atom.text? default.library.name "library" "name" s.library.name
  path : d.Gives Atom.text? default.library.path "library" "path" s.library.path
  juliaModule :
    d.Gives Atom.text? default.library.juliaModule "library" "module" s.library.juliaModule
  pathConstant :
    d.Gives Atom.text? default.library.pathConstant "library" "path_constant"
      s.library.pathConstant
  fileName : d.Gives Atom.text? default.output.fileName "output" "file_name" s.output.fileName
  itemsPerLine :
    d.Gives Atom.natural? default.output.itemsPerLine "output" "items_per_line"
      s.output.itemsPerLine
  level : d.Gives Atom.text? default.log.level "log" "level" s.log.level

/-- The key of the first text of the library that is empty. -/
inductive FirstEmpty (library : LibrarySettings) : String → Prop
  | name (h : library.name = "") : FirstEmpty library "library.name"
  | path (hname : library.name ≠ "") (h : library.path = "") : FirstEmpty library "library.path"
  | juliaModule (hname : library.name ≠ "") (hpath : library.path ≠ "")
      (h : library.juliaModule = "") : FirstEmpty library "library.module"
  | pathConstant (hname : library.name ≠ "") (hpath : library.path ≠ "")
      (hmodule : library.juliaModule ≠ "") (h : library.pathConstant = "") :
    FirstEmpty library "library.path_constant"

/-- How reading the settings of a document ends. -/
inductive Outcome (d : Document) : Except SettingsError Settings → Prop
  | malformed (h : Mistyped d) : Outcome d (.error .malformed)
  | emptyValue {s : Settings} {key : String} (htypes : ¬Mistyped d) (hreplaced : Replaced d s)
      (h : FirstEmpty s.library key) : Outcome d (.error (.emptyValue key))
  | notIdentifier {s : Settings} (htypes : ¬Mistyped d) (hreplaced : Replaced d s)
      (hfull : ∀ key, ¬FirstEmpty s.library key)
      (h : ¬(Julia.IsIdentifier s.library.juliaModule ∧
        Julia.IsIdentifier s.library.pathConstant)) :
    Outcome d (.error .notIdentifier)
  | accepted {s : Settings} (htypes : ¬Mistyped d) (hreplaced : Replaced d s)
      (hfull : ∀ key, ¬FirstEmpty s.library key)
      (h : Julia.IsIdentifier s.library.juliaModule ∧ Julia.IsIdentifier s.library.pathConstant) :
    Outcome d (.ok s)

/-- A section as it is looked into has the values that the document holds, at any positions. -/
structure Section.Reads (s : Section) (d : Document) (name : String) : Prop where
  present : ∀ position key atom, d.Holds name key atom → s.get? position key = some atom.value
  absent : ∀ position key, (∀ atom, ¬d.Holds name key atom) → s.get? position key = none

namespace Section

theorem exists_reads (d : Document) (name : String) :
    ∃ s, Section.ofDocument? d.table name = some s ∧ s.Reads d name := by
  by_cases hname : name ∈ d.sections.map Toml.Section.name
  · obtain ⟨t, ht, rfl⟩ := List.mem_map.mp hname
    refine ⟨keyed t.table, ?_, ?_, ?_⟩
    · rw [ofDocument?, d.get?_table_of_mem ht]
      rfl
    · intro position key atom hholds
      exact t.get?_table_of_mem ((d.holds_iff_of_mem ht).mp hholds)
    · intro position key habsent
      refine Entries.get?_eq_none ?_
      rw [t.map_fst_table]
      intro hkey
      obtain ⟨⟨_, atom⟩, hentry, rfl⟩ := List.mem_map.mp hkey
      exact habsent atom ((d.holds_iff_of_mem ht).mpr hentry)
  · rw [← d.map_fst_table] at hname
    refine ⟨keyed [], ?_, ?_, ?_⟩
    · rw [ofDocument?, Entries.get?_eq_none hname]
    · rintro _ _ _ ⟨other, hother, rfl, -⟩
      rw [d.map_fst_table] at hname
      exact absurd (List.mem_map_of_mem hother) hname
    · intro _ _ _
      rfl

namespace Reads

variable {d : Document} {s : Section} {name key : String} (h : s.Reads d name) (position : Nat)

include h

theorem text?_of_gives {default value : String}
    (hgives : d.Gives Atom.text? default name key value) :
    s.text? position key default = some value := by
  cases hgives with
  | @present atom _ hholds hmeaning =>
    rw [text?, h.present position key atom hholds]
    cases atom with
    | text text => exact hmeaning
    | integer number => cases hmeaning
  | absent habsent => rw [text?, h.absent position key habsent]

theorem text?_eq_none {number : Int64} (hholds : d.Holds name key (.integer number))
    (default : String) : s.text? position key default = none := by
  rw [text?, h.present position key _ hholds]
  rfl

theorem natural?_of_gives {default value : Nat}
    (hgives : d.Gives Atom.natural? default name key value) :
    s.natural? position key default = some value := by
  cases hgives with
  | @present atom _ hholds hmeaning =>
    rw [natural?, h.present position key atom hholds]
    cases atom with
    | text text => cases hmeaning
    | integer number => exact hmeaning
  | absent habsent => rw [natural?, h.absent position key habsent]

theorem natural?_eq_none {atom : Atom} (hholds : d.Holds name key atom)
    (hmeaning : atom.natural? = none) (default : Nat) :
    s.natural? position key default = none := by
  rw [natural?, h.present position key atom hholds]
  cases atom with
  | text text => rfl
  | integer number => exact hmeaning

end Reads

end Section

section Reading

variable {d : Document}

/-- Reading settings is reading the three sections, each of which must succeed. -/
theorem exists_ofDocument?_eq_bind (d : Document) :
    ∃ library output log : Section,
      library.Reads d "library" ∧ output.Reads d "output" ∧ log.Reads d "log" ∧
        ofDocument? d.table =
          (readLibrary? library).bind fun librarySettings =>
            (readOutput? output).bind fun outputSettings =>
              (readLog? log).bind fun logSettings =>
                some ⟨librarySettings, outputSettings, logSettings⟩ := by
  obtain ⟨library, hlibrary, hlibraryReads⟩ := Section.exists_reads d "library"
  obtain ⟨output, houtput, houtputReads⟩ := Section.exists_reads d "output"
  obtain ⟨log, hlog, hlogReads⟩ := Section.exists_reads d "log"
  refine ⟨library, output, log, hlibraryReads, houtputReads, hlogReads, ?_⟩
  rw [ofDocument?, hlibrary, houtput, hlog]
  rfl

theorem readLibrary?_eq_bind (s : Section) :
    readLibrary? s =
      (s.text? 0 "name" default.library.name).bind fun name =>
        (s.text? 1 "path" default.library.path).bind fun path =>
          (s.text? 2 "module" default.library.juliaModule).bind fun juliaModule =>
            (s.text? 3 "path_constant" default.library.pathConstant).bind fun pathConstant =>
              some ⟨name, path, juliaModule, pathConstant⟩ :=
  rfl

theorem readOutput?_eq_bind (s : Section) :
    readOutput? s =
      (s.text? 0 "file_name" default.output.fileName).bind fun fileName =>
        (s.natural? 1 "items_per_line" default.output.itemsPerLine).bind fun itemsPerLine =>
          some ⟨fileName, itemsPerLine⟩ :=
  rfl

theorem readLog?_eq_bind (s : Section) :
    readLog? s = (s.text? 0 "level" default.log.level).bind fun level => some ⟨level⟩ :=
  rfl

/-- The settings that a document gives are read of it. -/
theorem ofDocument?_of_replaced {s : Settings} (h : Replaced d s) :
    ofDocument? d.table = some s := by
  obtain ⟨library, output, log, hlibrary, houtput, hlog, hread⟩ := exists_ofDocument?_eq_bind d
  rw [hread, readLibrary?_eq_bind, hlibrary.text?_of_gives 0 h.name, Option.bind_some,
    hlibrary.text?_of_gives 1 h.path, Option.bind_some, hlibrary.text?_of_gives 2 h.juliaModule,
    Option.bind_some, hlibrary.text?_of_gives 3 h.pathConstant, Option.bind_some, Option.bind_some,
    readOutput?_eq_bind, houtput.text?_of_gives 0 h.fileName, Option.bind_some,
    houtput.natural?_of_gives 1 h.itemsPerLine, Option.bind_some, Option.bind_some,
    readLog?_eq_bind, hlog.text?_of_gives 0 h.level]
  rfl

/-- A single value of the wrong type, in whatever section, leaves nothing to be read. -/
theorem ofDocument?_of_mistyped (h : Mistyped d) : ofDocument? d.table = none := by
  obtain ⟨library, output, log, hlibrary, houtput, hlog, hread⟩ := exists_ofDocument?_eq_bind d
  rw [hread, readLibrary?_eq_bind, readOutput?_eq_bind, readLog?_eq_bind]
  obtain ⟨name, key, atom, hholds, htype⟩ := h
  cases htype with
  | number hkey value =>
    simp only [textKeys, List.mem_cons, Prod.mk.injEq, List.not_mem_nil, or_false] at hkey
    rcases hkey with ⟨rfl, rfl⟩ | ⟨rfl, rfl⟩ | ⟨rfl, rfl⟩ | ⟨rfl, rfl⟩ | ⟨rfl, rfl⟩ | ⟨rfl, rfl⟩
    · simp only [hlibrary.text?_eq_none 0 hholds, Option.bind_none]
    · simp only [hlibrary.text?_eq_none 1 hholds, Option.bind_none, Option.bind_fun_none]
    · simp only [hlibrary.text?_eq_none 2 hholds, Option.bind_none, Option.bind_fun_none]
    · simp only [hlibrary.text?_eq_none 3 hholds, Option.bind_none, Option.bind_fun_none]
    · simp only [houtput.text?_eq_none 0 hholds, Option.bind_none, Option.bind_fun_none]
    · simp only [hlog.text?_eq_none 0 hholds, Option.bind_none, Option.bind_fun_none]
  | text value =>
    simp only [houtput.natural?_eq_none _ hholds rfl, Option.bind_none, Option.bind_fun_none]
  | negative hnegative =>
    have hnone := houtput.natural?_eq_none 1 hholds (if_neg (Int.not_le.mpr hnegative))
    simp only [hnone, Option.bind_none, Option.bind_fun_none]

/-- A document without values of the wrong type gives every setting a value. -/
theorem exists_replaced (h : ¬Mistyped d) : ∃ s, Replaced d s := by
  have htext : ∀ name key, (name, key) ∈ textKeys → ∀ default,
      ∃ value, d.Gives Atom.text? default name key value := by
    intro name key hkey
    refine Document.exists_gives fun atom hholds => ?_
    cases atom with
    | text value => exact nofun
    | integer value => exact absurd ⟨name, key, _, hholds, .number hkey value⟩ h
  have hnatural : ∀ default,
      ∃ value, d.Gives Atom.natural? default "output" "items_per_line" value := by
    refine Document.exists_gives fun atom hholds => ?_
    cases atom with
    | text value => exact absurd ⟨_, _, _, hholds, .text value⟩ h
    | integer value =>
      by_cases hnegative : value.toInt < 0
      · exact absurd ⟨_, _, _, hholds, .negative hnegative⟩ h
      · rw [Atom.natural?, if_pos (Int.not_lt.mp hnegative)]
        exact nofun
  obtain ⟨name, hname⟩ := htext "library" "name" (by decide) default.library.name
  obtain ⟨path, hpath⟩ := htext "library" "path" (by decide) default.library.path
  obtain ⟨juliaModule, hmodule⟩ :=
    htext "library" "module" (by decide) default.library.juliaModule
  obtain ⟨pathConstant, hconstant⟩ :=
    htext "library" "path_constant" (by decide) default.library.pathConstant
  obtain ⟨fileName, hfile⟩ := htext "output" "file_name" (by decide) default.output.fileName
  obtain ⟨itemsPerLine, hitems⟩ := hnatural default.output.itemsPerLine
  obtain ⟨level, hlevel⟩ := htext "log" "level" (by decide) default.log.level
  exact ⟨⟨⟨name, path, juliaModule, pathConstant⟩, ⟨fileName, itemsPerLine⟩, ⟨level⟩⟩,
    hname, hpath, hmodule, hconstant, hfile, hitems, hlevel⟩

end Reading

theorem check_of_firstEmpty {s : Settings} {key : String} (h : FirstEmpty s.library key) :
    s.check = .error (.emptyValue key) := by
  have hfind : s.neededValues.find? (fun entry => entry.2 == "") = some (key, "") := by
    cases h with
    | name h => simp [neededValues, h]
    | path hname h => simp [neededValues, hname, h]
    | juliaModule hname hpath h => simp [neededValues, hname, hpath, h]
    | pathConstant hname hpath hmodule h => simp [neededValues, hname, hpath, hmodule, h]
  rw [check, hfind]

theorem check_of_not_firstEmpty {s : Settings} (h : ∀ key, ¬FirstEmpty s.library key) :
    s.check =
      if Julia.isIdentifier s.library.juliaModule && Julia.isIdentifier s.library.pathConstant then
        .ok ()
      else .error .notIdentifier := by
  have hname : s.library.name ≠ "" := fun hempty => h _ (.name hempty)
  have hpath : s.library.path ≠ "" := fun hempty => h _ (.path hname hempty)
  have hmodule : s.library.juliaModule ≠ "" := fun hempty => h _ (.juliaModule hname hpath hempty)
  have hconstant : s.library.pathConstant ≠ "" := fun hempty =>
    h _ (.pathConstant hname hpath hmodule hempty)
  have hfind : s.neededValues.find? (fun entry => entry.2 == "") = none := by
    simp [neededValues, hname, hpath, hmodule, hconstant]
  rw [check, hfind]

/-- A document has only one outcome, and it is what reading the document gives. -/
theorem parse_of_outcome {d : Document} {text : String} (h : d.Writes text)
    {result : Except SettingsError Settings} (houtcome : Outcome d result) :
    parse text = result := by
  rw [parse, read?_of_writes d h, Option.bind_some]
  cases houtcome with
  | malformed hmistyped => rw [ofDocument?_of_mistyped hmistyped]
  | emptyValue _ hreplaced hempty =>
    rw [ofDocument?_of_replaced hreplaced]
    simp only [check_of_firstEmpty hempty]
    rfl
  | notIdentifier _ hreplaced hfull hname =>
    rw [← Julia.isIdentifier_iff, ← Julia.isIdentifier_iff, ← Bool.and_eq_true] at hname
    rw [ofDocument?_of_replaced hreplaced]
    simp only [check_of_not_firstEmpty hfull, if_neg hname]
    rfl
  | accepted _ hreplaced hfull hname =>
    rw [← Julia.isIdentifier_iff, ← Julia.isIdentifier_iff, ← Bool.and_eq_true] at hname
    rw [ofDocument?_of_replaced hreplaced]
    simp only [check_of_not_firstEmpty hfull, if_pos hname]
    rfl

theorem exists_outcome (d : Document) : ∃ result, Outcome d result := by
  by_cases htypes : Mistyped d
  · exact ⟨_, .malformed htypes⟩
  obtain ⟨s, hs⟩ := exists_replaced htypes
  by_cases hempty : ∃ key, FirstEmpty s.library key
  · obtain ⟨key, hkey⟩ := hempty
    exact ⟨_, .emptyValue htypes hs hkey⟩
  have hfull := not_exists.mp hempty
  by_cases hname : Julia.IsIdentifier s.library.juliaModule ∧
      Julia.IsIdentifier s.library.pathConstant
  · exact ⟨_, .accepted htypes hs hfull hname⟩
  · exact ⟨_, .notIdentifier htypes hs hfull hname⟩

/-- However a document is written, reading settings from it ends with its outcome and with no other;
and the message of a refused text names the key, or says what the two names must be. -/
theorem parse_eq_iff_outcome (d : Document) {text : String} (h : d.Writes text) :
    (∀ result, parse text = result ↔ Outcome d result) ∧
      (∀ key, (SettingsError.emptyValue key).message =
        "invalid generator configuration: `" ++ key ++ "` must not be empty") ∧
      SettingsError.notIdentifier.message =
        "invalid generator configuration: " ++
          "`library.module` and `library.path_constant` must be Julia identifiers" := by
  refine ⟨fun result => ⟨?_, parse_of_outcome h⟩, fun _ => rfl, rfl⟩
  rintro rfl
  obtain ⟨result, houtcome⟩ := exists_outcome d
  rwa [parse_of_outcome h houtcome]

/-- Sections and keys in another order, with an unknown key, and characters that need escapes. -/
def shuffled : Document where
  sections :=
    [⟨"log", [("level", .text "\"\\")], by decide⟩,
      ⟨"library", [("unknown key", .integer (-9223372036854775808)), ("name", .text "T\n")],
        by decide⟩]
  distinct := by decide

/-- An empty name, and a number of types that is none. -/
def negativeCount : Document where
  sections :=
    [⟨"library", [("name", .text "")], by decide⟩,
      ⟨"output", [("items_per_line", .integer (-1))], by decide⟩]
  distinct := by decide

/-- The first document gives two settings a value; of the second, the number is what is refused. -/
theorem shuffled_accepted_and_negativeCount_refused :
    (shuffled.Writes shuffled.write ∧
        Outcome shuffled (.ok { library := { name := "T\n" }, log := { level := "\"\\" } })) ∧
      negativeCount.Writes negativeCount.write ∧
        parse negativeCount.write = .error .malformed := by
  have hmistyped : Mistyped negativeCount :=
    ⟨"output", "items_per_line", .integer (-1),
      ⟨⟨"output", [("items_per_line", .integer (-1))], by decide⟩,
        List.mem_cons_of_mem _ (List.mem_cons_self ..), rfl, List.mem_cons_self ..⟩,
      .negative (by decide)⟩
  exact ⟨⟨shuffled.writes_write,
      ((parse_eq_iff_outcome shuffled shuffled.writes_write).1 _).mp rfl⟩,
    negativeCount.writes_write,
    ((parse_eq_iff_outcome negativeCount negativeCount.writes_write).1 _).mpr
      (.malformed hmistyped)⟩

end Settings

end AbiBindings
