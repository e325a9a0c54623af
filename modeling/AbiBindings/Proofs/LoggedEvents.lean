import AbiBindings.Proofs.Appending
import AbiBindings.Proofs.Generation
import AbiBindings.Proofs.LogFilter

/-!
# What a run records

The events of a run follow from how it ends: a refused run has recorded the failed check, one that
could not write all has recorded the check alone, and only a run whose output is complete has recorded
what the sink received and that the bindings were generated. The level of the log selects among
these events; neither what is written nor the result depends on it. What a successful run has written
consists of lines, and its log tells how much that is.
-/

namespace AbiBindings

namespace Fingerprint

theorem utf8Size_of_mem_hexDigits {width value : Nat} {c : Char}
    (h : c ∈ Text.hexDigits width value) : c.utf8Size = 1 := by
  rw [Text.hexDigits, List.leftpad, List.mem_append] at h
  rcases h with hzero | hdigit
  · rw [(List.mem_replicate.mp hzero).2]
    rfl
  · obtain ⟨digit, hlt, rfl⟩ := Text.exists_digit_of_mem_toDigits (by decide) hdigit
    have hall : ∀ digit < 16, digit.digitChar.utf8Size = 1 := by decide
    exact hall digit hlt

theorem takeBytes?_of_utf8Size {cs : List Char} (h : ∀ c ∈ cs, c.utf8Size = 1) {count : Nat}
    (hcount : count ≤ cs.length) : Text.takeBytes? count cs = some (cs.take count) := by
  induction cs generalizing count with
  | nil =>
    obtain rfl : count = 0 := by simpa using hcount
    rfl
  | cons c rest ih =>
    obtain ⟨hc, hrest⟩ := List.forall_mem_cons.mp h
    cases count with
    | zero => rfl
    | succ count =>
      have hlength : count ≤ rest.length := Nat.le_of_succ_le_succ hcount
      rw [Text.takeBytes?, hc, if_pos (by omega), Nat.add_sub_cancel, ih hrest hlength]
      rfl

theorem length_le_of_hexDigits (width value : Nat) : width ≤ (Text.hexDigits width value).length := by
  rw [Text.hexDigits, List.length_leftpad]
  exact Nat.le_max_left _ _

/-- The short form of a fingerprint is its first sixteen digits. -/
theorem short_ofBytes (bytes : List UInt8) :
    short (ofBytes bytes) = String.ofList ((ofBytes bytes).toList.take 16) := by
  have hchars : ∀ c ∈ (ofBytes bytes).toList, c.utf8Size = 1 := by
    intro c hc
    rw [ofBytes, String.toList_ofList] at hc
    obtain ⟨w, -, hdigit⟩ := List.mem_flatMap.mp hc
    exact utf8Size_of_mem_hexDigits hdigit
  have hlength : 16 ≤ (ofBytes bytes).toList.length := by
    rw [ofBytes, String.toList_ofList]
    generalize absorb _ = state
    have hfirst := length_le_of_hexDigits 8 state.a.toNat
    have hsecond := length_le_of_hexDigits 8 state.b.toNat
    simp only [State.words, List.flatMap_cons, List.length_append]
    omega
  rw [short, takeBytes?_of_utf8Size hchars hlength]

end Fingerprint

namespace Generation

open Log

/-- The events of a run, by how it ended and what the sink received. -/
def trail (p : Platform) (settings : Settings) (run : Generation) : List Event :=
  match run.result with
  | .error (.violation v) => [.builtElementTypes 10, .widthsDiffer v]
  | .error .writing => [.builtElementTypes 10, .widthsMatch p.cInt.size]
  | .ok report =>
    [.builtElementTypes 10, .widthsMatch p.cInt.size,
      .rendered (String.ofList ((Fingerprint.ofBytes run.received).toList.take 16))
        run.received.length,
      .generated report.declarations settings.library.path]

/-- Everything that a run can be: refused, cut off or complete. -/
theorem ofPlatform_cases (p : Platform) (settings : Settings) (sink : Sink) :
    (∃ e : IntEnumeration, e.FirstDiffering p ∧
        ofPlatform p settings sink =
          stopped [.builtElementTypes 10, .widthsDiffer (.assertion e.assertion)]
            (.assertion e.assertion)) ∨
      (∃ received, ofPlatform p settings sink =
        ⟨[.builtElementTypes 10, .widthsMatch p.cInt.size], received, .error .writing⟩) ∨
      ∃ artifact, HasFile p settings artifact ∧
        ofPlatform p settings sink =
          ⟨[.builtElementTypes 10, .widthsMatch p.cInt.size,
              .rendered (Fingerprint.short (Fingerprint.ofBytes (Text.utf8 artifact.render)))
                (Text.utf8 artifact.render).length,
              .generated artifact.size settings.library.path],
            Text.utf8 artifact.render,
            .ok ⟨artifact.size, (Text.utf8 artifact.render).length,
              Fingerprint.ofBytes (Text.utf8 artifact.render)⟩⟩ := by
  rcases p.checkWidths_cases with hacceptable | ⟨e, hfirst, herror⟩
  · right
    rw [ofPlatform_accepted hacceptable]
    by_cases hfits :
        sink.Fits (Text.utf8 (file p settings).render).length ∧ sink.flushes = true
    · have hcomplete := (sink.complete_deliver_iff _).mpr hfits
      refine Or.inr ⟨file p settings, hasFile_file hacceptable settings, ?_⟩
      simp only [ofArtifact, hcomplete, if_true, Sink.received_deliver,
        Sink.upTo_eq_self hfits.1, Text.length_utf8, Fingerprint.ofText]
      rfl
    · have hcomplete := mt (sink.complete_deliver_iff _).mp hfits
      refine Or.inl ⟨sink.upTo (Text.utf8 (file p settings).render), ?_⟩
      simp only [ofArtifact, if_neg hcomplete, Sink.received_deliver]
      rfl
  · exact Or.inl ⟨e, hfirst, ofPlatform_refused herror settings sink⟩

theorem events_ofPlatform (p : Platform) (settings : Settings) (sink : Sink) :
    (ofPlatform p settings sink).events = trail p settings (ofPlatform p settings sink) := by
  rcases ofPlatform_cases p settings sink with ⟨e, -, hrun⟩ | ⟨received, hrun⟩ |
    ⟨artifact, -, hrun⟩
  · rw [hrun]
    rfl
  · rw [hrun]
    rfl
  · rw [hrun, trail, ← Fingerprint.short_ofBytes]

/-- The event says that the bindings were written. -/
def isSuccess : Event → Bool
  | .rendered .. | .generated .. => true
  | _ => false

/-- Success is recorded only by a run whose output is complete. -/
theorem output_complete_of_isSuccess {p : Platform} {settings : Settings} {sink : Sink}
    {e : Event} (he : e ∈ (ofPlatform p settings sink).events) (hsuccess : isSuccess e = true) :
    ∃ artifact, HasFile p settings artifact ∧
      (ofPlatform p settings sink).received = Text.utf8 artifact.render ∧
      (ofPlatform p settings sink).result = .ok
        { declarations := artifact.size, bytes := (ofPlatform p settings sink).received.length,
          fingerprint := Fingerprint.ofBytes (ofPlatform p settings sink).received } := by
  have hchecks : ∀ f : Event, isSuccess f = false →
      ¬e ∈ [.builtElementTypes 10, f] := by
    intro f hf hmem
    simp only [List.mem_cons, List.not_mem_nil, or_false] at hmem
    rcases hmem with rfl | rfl
    · cases hsuccess
    · rw [hf] at hsuccess
      cases hsuccess
  rcases ofPlatform_cases p settings sink with ⟨d, -, hrun⟩ | ⟨received, hrun⟩ |
    ⟨artifact, hfile, hrun⟩
  · rw [hrun] at he
    exact absurd he (hchecks _ rfl)
  · rw [hrun] at he
    exact absurd he (hchecks _ rfl)
  · rw [hrun]
    exact ⟨artifact, hfile, rfl, rfl⟩

/-- Only the check of the widths refuses a run. -/
theorem firstDiffering_of_refused {p : Platform} {settings : Settings} {sink : Sink}
    {v : Violation} (h : (ofPlatform p settings sink).result = .error (.violation v)) :
    ∃ e : IntEnumeration, e.FirstDiffering p ∧ v = .assertion e.assertion := by
  rcases ofPlatform_cases p settings sink with ⟨e, hfirst, hrun⟩ | ⟨received, hrun⟩ |
    ⟨artifact, -, hrun⟩
  · rw [hrun] at h
    cases h
    exact ⟨e, hfirst, rfl⟩
  · rw [hrun] at h
    cases h
  · rw [hrun] at h
    cases h

/-- What a successful run has written consists of lines, with one at least for each of the declarations
that it reports. -/
theorem exists_lines_of_ok {p : Platform} {settings : Settings} {sink : Sink} {report : Report}
    (h : (ofPlatform p settings sink).result = .ok report) :
    ∃ text lines, (ofPlatform p settings sink).received = Text.utf8 text ∧
      Text.endedLines? text = some lines ∧ report.declarations ≤ lines.length := by
  rcases ofPlatform_cases p settings sink with ⟨e, -, hrun⟩ | ⟨received, hrun⟩ |
    ⟨artifact, -, hrun⟩
  · rw [hrun] at h
    cases h
  · rw [hrun] at h
    cases h
  · rw [hrun] at h ⊢
    cases h
    exact ⟨artifact.render, _, rfl, artifact.endedLines?_render, artifact.size_le_length_lines⟩

/-- The log of a successful run tells the number of declarations, and at a level that shows all the
number of bytes that the sink has received. -/
theorem logged_of_ok {p : Platform} {settings : Settings} {sink : Sink} {report : Report}
    (h : (ofPlatform p settings sink).result = .ok report) (level : Level) :
    (level.shows .info = true →
        ∃ line ∈ Filter.enabledLines level (ofPlatform p settings sink).events,
          (Event.valueText ("declarations", toString report.declarations)).toList <:+:
            line.toList) ∧
      (level.shows .debug = true →
        ∃ line ∈ Filter.enabledLines level (ofPlatform p settings sink).events,
          (Event.valueText
            ("bytes", toString (ofPlatform p settings sink).received.length)).toList <:+:
              line.toList) := by
  have hevents := events_ofPlatform p settings sink
  simp only [trail, h] at hevents
  have hgenerated : Event.generated report.declarations settings.library.path ∈
      (ofPlatform p settings sink).events := by
    simp [hevents]
  obtain ⟨fingerprint, hrendered⟩ :
      ∃ fingerprint, Event.rendered fingerprint (ofPlatform p settings sink).received.length ∈
        (ofPlatform p settings sink).events := by
    simp [hevents]
  constructor
  · intro hlevel
    exact Filter.exists_line_of_mem_values hgenerated hlevel List.mem_cons_self
  · intro hlevel
    exact Filter.exists_line_of_mem_values hrendered hlevel
      (List.mem_cons_of_mem _ List.mem_cons_self)

/-- The level of the log plays no part in a run. -/
theorem ofPlatform_eq_of_log (p : Platform) (settings : Settings) (log : LogSettings)
    (sink : Sink) : ofPlatform p { settings with log } sink = ofPlatform p settings sink :=
  rfl

/-- What is recorded of a run and what is shown of that. -/
structure Recorded (p : Platform) (settings : Settings) (sink : Sink) (run : Generation) :
    Prop where
  events : run.events = trail p settings run
  /-- The violation of a refused run is the failed check. -/
  refused : ∀ v, run.result = .error (.violation v) →
    ∃ e : IntEnumeration, e.FirstDiffering p ∧ v = .assertion e.assertion
  /-- Success is recorded only if the sink has received the whole file and the run succeeded. -/
  success : ∀ e ∈ run.events, isSuccess e = true →
    ∃ artifact, HasFile p settings artifact ∧ run.received = Text.utf8 artifact.render ∧
      run.result = .ok
        { declarations := artifact.size, bytes := run.received.length,
          fingerprint := Fingerprint.ofBytes run.received }
  /-- At any recognised level the log consists of the lines of the events that it enables. -/
  shown : ∀ (text : String) (level : Level), Level.ofText? text.toList = some level →
    (Filter.ofSettings { settings with log := ⟨text⟩ }).text run.events =
      Text.joinLines (Filter.enabledLines level run.events)
  /-- A less verbose level shows some of the lines of a more verbose one, in the same order. -/
  fewer : ∀ low high : Level, low.rank ≤ high.rank →
    (Filter.enabledLines low run.events).Sublist (Filter.enabledLines high run.events)
  /-- The level changes neither what is written nor the result, nor even the events. -/
  unchanged : ∀ log : LogSettings, ofPlatform p { settings with log } sink = run

/-- Every run is recorded by how it ends, and the level only selects what is shown of it. -/
theorem ofPlatform_recorded (p : Platform) (settings : Settings) (sink : Sink) :
    Recorded p settings sink (ofPlatform p settings sink) where
  events := events_ofPlatform p settings sink
  refused _ h := firstDiffering_of_refused h
  success _ he hsuccess := output_complete_of_isSuccess he hsuccess
  shown text _ hlevel := Filter.text_ofSettings (s := { settings with log := ⟨text⟩ }) hlevel _
  fewer _ _ h := Filter.enabledLines_sublist h _
  unchanged log := ofPlatform_eq_of_log p settings log sink

/-- A run whose flush fails has recorded the check alone, all of which is shown at the level of
debugging; of a run that succeeds less is shown at the level of information. -/
theorem ilp32_recorded :
    (ofPlatform .ilp32 {} { flushes := false }).events =
        [.builtElementTypes 10, .widthsMatch 4] ∧
      (Filter.ofSettings { log := ⟨"Debug"⟩ }).text
          (ofPlatform .ilp32 {} { flushes := false }).events =
        Text.joinLines [(Event.builtElementTypes 10).line, (Event.widthsMatch 4).line] ∧
      (Filter.ofSettings { log := ⟨"3"⟩ }).text (ofPlatform .ilp32 {} {}).events =
        Text.joinLines [(Event.generated 99 "/usr/local/lib/libtao.so").line] := by
  have hacceptable : Platform.ilp32.Acceptable := (Platform.checkWidths_eq_ok_iff _).mp rfl
  have hcut := ofPlatform_recorded .ilp32 {} { flushes := false }
  have hfull := ofPlatform_recorded .ilp32 {} {}
  have hevents : (ofPlatform .ilp32 {} { flushes := false }).events =
      [.builtElementTypes 10, .widthsMatch 4] := by
    rw [hcut.events, trail, ofPlatform_accepted hacceptable,
      (ofArtifact_of_not_fits (by simp) _ _).2]
    rfl
  refine ⟨hevents, ?_, ?_⟩
  · rw [hcut.shown "Debug" .debug (Level.ofText?_name (by decide)), hevents]
    rfl
  · rw [hfull.shown "3" .info (Level.ofText?_rank .info), hfull.events, trail,
      ofPlatform_accepted hacceptable, (ofArtifact_of_fits (by simp [Sink.Fits]) _ _).2]
    have hsize : (file .ilp32 {}).size = 99 :=
      Bindings.Source.length_listing ⟨.own, .ilp32, {}⟩
    rw [← hsize]
    rfl

end Generation

end AbiBindings
