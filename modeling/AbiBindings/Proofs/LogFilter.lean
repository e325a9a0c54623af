import AbiBindings.Log.Filter
import AbiBindings.Proofs.Literals
import Mathlib.Data.List.Basic

/-!
# What the log shows

A level is recognised by its name in any case or by its rank. Both directives of the settings then
have that level; one of them is about every event of a run and the other about none. So an event is
shown exactly if its own level is enabled, and a less verbose level shows a part of the lines, in
the same order. The log itself tells the levels and the values of the events that it shows.
-/

namespace AbiBindings

namespace Log.Level

theorem chars_of_ofRank? {cs : List Char} {level : Level} (h : ofRank? cs = some level) :
    cs ≠ [] ∧ ∀ c ∈ cs, Text.isDecimalDigit c = true ∨ c = '+' := by
  obtain ⟨rank, hrank, -⟩ := Option.bind_eq_some_iff.mp h
  by_cases hsign : cs.head? = some '+'
  · obtain ⟨rest, rfl⟩ := List.head?_eq_some_iff.mp hsign
    rw [if_pos hsign, List.tail_cons] at hrank
    refine ⟨List.cons_ne_nil _ _, fun c hc => ?_⟩
    rcases List.mem_cons.mp hc with rfl | hrest
    · exact Or.inr rfl
    · exact Or.inl ((Text.isDecimalDigit_of_decimal? hrank).2 c hrest)
  · rw [if_neg hsign] at hrank
    obtain ⟨hne, hdigits⟩ := Text.isDecimalDigit_of_decimal? hrank
    exact ⟨hne, fun c hc => Or.inl (hdigits c hc)⟩

theorem map_toLower_of_ofName? {cs : List Char} {level : Level} (h : ofName? cs = some level) :
    cs.map Char.toLower = level.name.toList := by
  have hname := List.find?_some h
  exact (beq_iff_eq.mp hname).symm

/-- The text of a level is not empty and has no comma, so it does not end its directive. -/
theorem comma_notMem_of_ofText? {cs : List Char} {level : Level} (h : ofText? cs = some level) :
    cs ≠ [] ∧ ',' ∉ cs := by
  rcases Option.or_eq_some_iff.mp h with hrank | ⟨-, hname⟩
  · obtain ⟨hne, hchars⟩ := chars_of_ofRank? hrank
    refine ⟨hne, fun hcomma => ?_⟩
    rcases hchars ',' hcomma with hdigit | hplus
    · cases hdigit
    · cases hplus
  · have hchars := map_toLower_of_ofName? hname
    constructor
    · rintro rfl
      cases level <;> cases hchars
    · intro hcomma
      have hmem : ',' ∈ cs.map Char.toLower := List.mem_map.mpr ⟨',', hcomma, rfl⟩
      rw [hchars] at hmem
      revert hmem
      cases level <;> decide

/-- No name of a level is a number. -/
theorem ofRank?_eq_none {cs : List Char} {level : Level}
    (h : cs.map Char.toLower = level.name.toList) : ofRank? cs = none := by
  rw [Option.eq_none_iff_forall_ne_some]
  intro other hrank
  have hchars := (chars_of_ofRank? hrank).2
  have hsame : cs.map Char.toLower = cs := by
    refine (List.map_congr_left fun c hc => ?_).trans (List.map_id cs)
    rcases hchars c hc with hdigit | rfl
    · exact Text.toLower_of_isDecimalDigit hdigit
    · rfl
  have hall : (level.name.toList.all fun c => Text.isDecimalDigit c || c == '+') = true := by
    rw [← h, hsame, List.all_eq_true]
    intro c hc
    rw [Bool.or_eq_true, beq_iff_eq]
    exact hchars c hc
  cases level <;> exact absurd hall (by decide)

/-- Every level is recognised by its name in any case, and by its rank. -/
theorem ofText?_name {cs : List Char} {level : Level}
    (h : cs.map Char.toLower = level.name.toList) : ofText? cs = some level := by
  rw [ofText?, ofRank?_eq_none h, Option.none_or, ofName?, h]
  cases level <;> rfl

theorem ofText?_rank (level : Level) : ofText? (toString level.rank).toList = some level := by
  cases level <;> rfl

end Log.Level

namespace Log

/-- A directive of the form that the settings use. -/
theorem Directive.read?_assignment {source : List Char} {c : Char} (hhead : source.head? = some c)
    (hstart : isSourceStart c = true)
    (hplain : (source.all fun d => d != '=' && d != '[') = true)
    (level : List Char) :
    read? (source ++ '=' :: level) = (readLevel? level).map (⟨String.ofList source, none, ·⟩) := by
  have hword : ∀ d ∈ source, (d != '=' && d != '[') = true := List.all_eq_true.mp hplain
  have hend : ∀ d ∈ ('=' :: level).head?, (d != '=' && d != '[') = false := by
    rintro d ⟨⟩
    rfl
  obtain ⟨rest, rfl⟩ := List.head?_eq_some_iff.mp hhead
  have hbracket : c ≠ '[' := by
    rintro rfl
    cases hword '[' List.mem_cons_self
  have hread : read? (c :: rest ++ '=' :: level) = readWord? (c :: rest ++ '=' :: level) := by
    rw [List.cons_append, read?]
    · rw [if_pos hstart]
    · exact hbracket
  rw [hread]
  simp only [readWord?, Text.takeWhile_run hword hend, Text.dropWhile_run hword hend]

namespace Filter

/-- The directive that decides about the events of a run. -/
def runDirective (level : Level) : Directive :=
  ⟨"taodeps", none, level⟩

variable {s : Settings} {level : Level}

theorem ofSettings_eq (h : Level.ofText? s.log.level.toList = some level) :
    ofSettings s = [runDirective level, ⟨"gendeps", none, level⟩] := by
  obtain ⟨hne, hcomma⟩ := Level.comma_notMem_of_ofText? h
  have htext : s.logFilter.toList =
      ("taodeps".toList ++ '=' :: s.log.level.toList) ++
        ',' :: ("gendeps".toList ++ '=' :: s.log.level.toList) := by
    simp [Settings.logFilter]
  have hlevel : Directive.readLevel? s.log.level.toList = some level := by
    rw [Directive.readLevel?, if_neg (by simpa using hne), h]
  rw [ofSettings, ofText, htext, Text.split_append (by simpa using hcomma),
    Text.split_of_notMem (by simpa using hcomma)]
  simp only [List.filterMap_cons, List.filterMap_nil]
  rw [Directive.read?_assignment (c := 't') rfl (by decide +kernel) (by decide),
    Directive.read?_assignment (c := 'g') rfl (by decide +kernel) (by decide), hlevel]
  rfl

/-- Every event comes from the component that the directive is about. -/
theorem admits_runDirective (level : Level) (e : Event) :
    (runDirective level).admits e = true := by
  have hsource : "taodeps".toList.isPrefixOf e.source.toList = true := by
    cases e <;> simp only [Event.source] <;> decide
  rw [Directive.admits, Bool.and_eq_true]
  exact ⟨hsource, rfl⟩

theorem admits_programDirective (level : Level) (e : Event) :
    (Directive.mk "gendeps" none level).admits e = false := by
  have hsource : "gendeps".toList.isPrefixOf e.source.toList = false := by
    cases e <;> simp only [Event.source] <;> decide
  rw [Directive.admits, hsource, Bool.false_and]

theorem decisive?_ofSettings (h : Level.ofText? s.log.level.toList = some level) (e : Event) :
    (ofSettings s).decisive? e = some (runDirective level) := by
  rw [ofSettings_eq h]
  simp [decisive?, admits_runDirective, admits_programDirective]

/-- An event is shown exactly if its level is enabled. -/
theorem shows_ofSettings (h : Level.ofText? s.log.level.toList = some level) (e : Event) :
    (ofSettings s).shows e = level.shows e.level := by
  rw [shows, decisive?_ofSettings h]
  rfl

/-- The lines of the events that a level enables. -/
def enabledLines (level : Level) (events : List Event) : List String :=
  (events.filter fun e => level.shows e.level).map Event.line

theorem text_ofSettings (h : Level.ofText? s.log.level.toList = some level)
    (events : List Event) :
    (ofSettings s).text events = Text.joinLines (enabledLines level events) := by
  rw [text, enabledLines, funext (shows_ofSettings h)]

/-- A line of the log shows by itself that it is enabled. -/
theorem shows_of_mem_enabledLines {events : List Event} {line : String}
    (h : line ∈ enabledLines level events) :
    ∃ written, Event.readLevel? line = some written ∧ level.shows written = true := by
  obtain ⟨e, he, rfl⟩ := List.mem_map.mp h
  exact ⟨e.level, e.line_says.1, (List.mem_filter.mp he).2⟩

/-- Every value of an enabled event stands in the log with its name. -/
theorem exists_line_of_mem_values {events : List Event} {e : Event} (he : e ∈ events)
    (hlevel : level.shows e.level = true) {value : String × String} (hvalue : value ∈ e.values) :
    ∃ line ∈ enabledLines level events, (Event.valueText value).toList <:+: line.toList := by
  have hmem : e.line ∈ enabledLines level events :=
    List.mem_map_of_mem (List.mem_filter.mpr ⟨he, hlevel⟩)
  exact ⟨e.line, hmem, Event.valueText_infix_line hvalue⟩

/-- A less verbose level leaves lines out, and changes nothing else. -/
theorem enabledLines_sublist {low high : Level} (h : low.rank ≤ high.rank)
    (events : List Event) : (enabledLines low events).Sublist (enabledLines high events) := by
  refine List.Sublist.map _ (List.monotone_filter_right events fun e he => ?_)
  rw [Level.shows, decide_eq_true_iff] at he ⊢
  exact Nat.le_trans he h

end Filter

end Log

end AbiBindings
