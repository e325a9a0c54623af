import AbiBindings.Proofs.CommandLine
import AbiBindings.Proofs.DefinedNames
import AbiBindings.Proofs.LogFilter

/-!
# Running the program

Without an argument the program writes the bindings of the host. If the output takes them all, at most
a warning is given. Otherwise as much of them is there as the output has room for, and the error names
the cause. The exit code tells the two apart for every command line.
-/

namespace AbiBindings

namespace Log.Filter

theorem enabledLines_eq_nil {level : Level} (h : level.rank < Level.info.rank)
    (events : List Event) : enabledLines level events = [] := by
  have hquiet : ∀ e : Event, level.shows e.level = false := by
    intro e
    have hrank : Level.info.rank ≤ e.level.rank := by
      cases e <;> exact Nat.le_of_ble_eq_true rfl
    rw [Level.shows, decide_eq_false_iff_not]
    omega
  simp [enabledLines, hquiet]

/-- Nothing is logged with the default settings. -/
theorem text_default (events : List Event) : (ofSettings .default).text events = "" := by
  have hlevel : Level.ofText? Settings.default.log.level.toList = some .warn :=
    Level.ofText?_name rfl
  rw [text_ofSettings hlevel, enabledLines_eq_nil (by decide)]
  rfl

end Log.Filter

set_option maxRecDepth 100000 in
/-- The program's own settings are the defaults. -/
theorem Settings.builtIn_eq_default : builtIn = .ok default := by
  have hread : (Toml.read? builtInText).bind ofDocument? = some default := by
    -- The characters are taken from one line at a time, since decoding the text as a whole is slow.
    rw [Toml.read?, ← String.length_toList, builtInText, String.toList_join]
    decide +kernel
  have hcheck : check default = .ok () := by
    decide +kernel
  rw [builtIn, parse, hread]
  simp only [hcheck]
  rfl

namespace CommandLine

open Generation

/-- The bytes of the bindings of the host. -/
def hostBindings (settings : Settings) : List UInt8 :=
  Text.utf8 (file lp64 settings).render

/-- The output takes and flushes everything. -/
def TakesAll (sink : Sink) (bytes : List UInt8) : Prop :=
  sink.Fits bytes.length ∧ sink.flushes = true

section Generate

variable {settings : Settings} {sink : Sink}

theorem ofHost_of_takesAll (h : TakesAll sink (hostBindings settings)) :
    (ofHost settings sink).received = hostBindings settings ∧
      ∃ report, (ofHost settings sink).result = .ok report := by
  obtain ⟨hreceived, hresult⟩ := ofArtifact_of_fits h
    [.builtElementTypes Tao.ElementTypes.own.size, .widthsMatch lp64.cInt.size] settings
  simp only [ofHost, host_eq_lp64, ofPlatform_accepted acceptable_lp64]
  exact ⟨hreceived, _, hresult⟩

theorem ofHost_of_not_takesAll (h : ¬TakesAll sink (hostBindings settings)) :
    (ofHost settings sink).received = sink.upTo (hostBindings settings) ∧
      (ofHost settings sink).result = .error .writing := by
  simp only [ofHost, host_eq_lp64, ofPlatform_accepted acceptable_lp64]
  exact ofArtifact_of_not_fits h _ settings

end Generate

section Run

variable {arguments : List Argument} {sink : Sink}

theorem run_eq_generate (harguments : arguments.length ≤ 1) (coloured libraryFound : Bool) :
    run arguments coloured libraryFound sink =
      generate .default sink coloured libraryFound := by
  rw [run, (parse_eq_generate_iff arguments).mpr harguments, Settings.builtIn_eq_default]

/-- All bindings are written, with a warning if the library is not there. -/
theorem run_of_takesAll (harguments : arguments.length ≤ 1)
    (h : TakesAll sink (hostBindings .default)) (coloured libraryFound : Bool) :
    run arguments coloured libraryFound sink =
      ⟨0, hostBindings .default,
        if libraryFound then "" else (missingLibrary .default).render coloured⟩ := by
  obtain ⟨hreceived, report, hresult⟩ := ofHost_of_takesAll h
  rw [run_eq_generate harguments, generate]
  simp only [hresult, hreceived, Log.Filter.text_default, String.empty_append]
  rfl

/-- The bindings are cut off where the output gives out, and the error names the cause. -/
theorem run_of_not_takesAll (harguments : arguments.length ≤ 1)
    (h : ¬TakesAll sink (hostBindings .default)) (coloured libraryFound : Bool) :
    run arguments coloured libraryFound sink =
      ⟨1, sink.upTo (hostBindings .default), writingFailed sink.cause⟩ := by
  obtain ⟨hreceived, hresult⟩ := ofHost_of_not_takesAll h
  rw [run_eq_generate harguments, generate]
  simp only [hresult, hreceived, Log.Filter.text_default, String.empty_append]
  rfl

end Run

/-- The exit code is zero exactly if help was asked for, or if there was no argument and everything
could be written. -/
theorem code_run_eq_zero_iff (arguments : List Argument) (coloured libraryFound : Bool)
    (sink : Sink) :
    (run arguments coloured libraryFound sink).code = 0 ↔
      (∃ program argument, arguments = [program, argument] ∧ AsksHelp argument) ∨
        arguments.length ≤ 1 ∧ TakesAll sink (hostBindings .default) := by
  rw [← parse_eq_help_iff, ← parse_eq_generate_iff]
  cases hparse : parse arguments with
  | error refusal =>
    rw [run_of_refusal hparse]
    refine iff_of_false Nat.one_ne_zero ?_
    rintro (h | h)
    · cases h
    · cases h.1
  | ok request =>
    cases request with
    | help =>
      rw [run_of_help hparse]
      exact iff_of_true rfl (Or.inl rfl)
    | generate =>
      have harguments := (parse_eq_generate_iff arguments).mp hparse
      by_cases htakes : TakesAll sink (hostBindings .default)
      · rw [run_of_takesAll harguments htakes]
        exact iff_of_true rfl (Or.inr ⟨rfl, htakes⟩)
      · rw [run_of_not_takesAll harguments htakes]
        refine iff_of_false Nat.one_ne_zero ?_
        rintro (h | h)
        · cases h
        · exact htakes h.2

end CommandLine

end AbiBindings
