import AbiBindings.Generation
import AbiBindings.Proofs.Emission

/-!
# How a run ends

A run is refused for the first enumeration of the wrong width, or it writes the whole file and
reports on it, or the sink gives out before the end. Which of them happens is decided by the
platform, the capacity of the sink and its flush alone, however the sink divides what it is handed.
-/

namespace AbiBindings

namespace Sink

/-- The sink has room for that many bytes. -/
def Fits (sink : Sink) (size : Nat) : Prop :=
  ∀ capacity, sink.capacity = some capacity → size ≤ capacity

/-- The bytes that reach the capacity of the sink. -/
def upTo (sink : Sink) (bytes : List UInt8) : List UInt8 :=
  match sink.capacity with
  | none => bytes
  | some capacity => bytes.take capacity

theorem room_zero_eq_iff (sink : Sink) (size : Nat) : sink.room 0 size = size ↔ sink.Fits size := by
  unfold room Fits
  cases sink.capacity with
  | none => simp
  | some capacity => simp only [Option.some.injEq, forall_eq']; omega

theorem take_room_zero (sink : Sink) (bytes : List UInt8) :
    bytes.take (sink.room 0 bytes.length) = sink.upTo bytes := by
  unfold room upTo
  cases sink.capacity with
  | none => exact List.take_length
  | some capacity => simp only [Nat.sub_zero, List.take_eq_take_iff]; omega

theorem received_deliver (sink : Sink) (bytes : List UInt8) :
    (sink.deliver bytes).received = sink.upTo bytes := by
  rw [deliver_eq, take_room_zero]

theorem complete_deliver_iff (sink : Sink) (bytes : List UInt8) :
    (sink.deliver bytes).complete = true ↔ sink.Fits bytes.length ∧ sink.flushes = true := by
  rw [deliver_eq, Bool.and_eq_true, beq_iff_eq, room_zero_eq_iff]

theorem upTo_eq_self {sink : Sink} {bytes : List UInt8} (h : sink.Fits bytes.length) :
    sink.upTo bytes = bytes := by
  rw [← take_room_zero, (sink.room_zero_eq_iff bytes.length).mpr h, List.take_length]

end Sink

theorem IntEnumeration.FirstDiffering.unique {p : Platform} {d e : IntEnumeration}
    (hd : d.FirstDiffering p) (he : e.FirstDiffering p) : d = e := by
  rw [← find?_differsFromInt_iff] at hd he
  exact Option.some.inj (hd.symm.trans he)

namespace Generation

/-- The file for a platform, whose element types are the library's own. -/
def file (p : Platform) (settings : Settings) : Julia.Artifact :=
  ⟨Bindings.Source.listing ⟨.own, p, settings⟩⟩

theorem ofPlatform_refused {p : Platform} {v : Violation} (h : p.checkWidths = .error v)
    (settings : Settings) (sink : Sink) :
    ofPlatform p settings sink =
      stopped [.builtElementTypes Tao.ElementTypes.own.size, .widthsDiffer v] v := by
  simp only [ofPlatform, Tao.ElementTypes.tao_eq_own, checkEvents, h,
    Bindings.Source.artifact_eq_error ⟨.own, p, settings⟩ h]

theorem ofPlatform_accepted {p : Platform} (h : p.Acceptable) (settings : Settings)
    (sink : Sink) :
    ofPlatform p settings sink =
      ofArtifact [.builtElementTypes Tao.ElementTypes.own.size, .widthsMatch p.cInt.size] settings
        (file p settings) sink := by
  simp only [ofPlatform, Tao.ElementTypes.tao_eq_own, checkEvents,
    (p.checkWidths_eq_ok_iff).mpr h, file, Bindings.Source.artifact_eq_ok ⟨.own, p, settings⟩ h]

/-- The file that a platform and settings have by the definition of the bindings. -/
def HasFile (p : Platform) (settings : Settings) (artifact : Julia.Artifact) : Prop :=
  ∃ types, Tao.ElementTypes.tao = .ok types ∧
    Bindings.Source.artifact ⟨types, p, settings⟩ = .ok artifact

theorem hasFile_file {p : Platform} (h : p.Acceptable) (settings : Settings) :
    HasFile p settings (file p settings) :=
  ⟨.own, Tao.ElementTypes.tao_eq_own, Bindings.Source.artifact_eq_ok ⟨.own, p, settings⟩ h⟩

/-- The ways in which a run can end. -/
inductive Ending where
  | refused (e : IntEnumeration)
  | complete
  | cutOff
  deriving DecidableEq

/-- What an ending says about the platform, the sink, and what a run gave and wrote. -/
def EndsAs (p : Platform) (settings : Settings) (sink : Sink) (run : Generation) : Ending → Prop
  | .refused e =>
    e.FirstDiffering p ∧ run.result = .error (.violation (.assertion e.assertion)) ∧
      run.received = []
  | .complete =>
    p.Acceptable ∧ ∃ artifact, HasFile p settings artifact ∧
      (sink.Fits (Text.utf8 artifact.render).length ∧ sink.flushes = true) ∧
      run.received = Text.utf8 artifact.render ∧
      run.result = .ok
        { declarations := artifact.size, bytes := run.received.length,
          fingerprint := Fingerprint.ofBytes run.received }
  | .cutOff =>
    p.Acceptable ∧ ∃ artifact, HasFile p settings artifact ∧
      ¬(sink.Fits (Text.utf8 artifact.render).length ∧ sink.flushes = true) ∧
      run.received = sink.upTo (Text.utf8 artifact.render) ∧ run.result = .error .writing

theorem EndsAs.unique {p : Platform} {settings : Settings} {sink : Sink} {run : Generation}
    {x y : Ending} (hx : EndsAs p settings sink run x) (hy : EndsAs p settings sink run y) :
    x = y := by
  cases x with
  | refused d =>
    cases y with
    | refused e => exact congrArg Ending.refused (hx.1.unique hy.1)
    | complete => exact absurd (hy.1 d) hx.1.1
    | cutOff => exact absurd (hy.1 d) hx.1.1
  | complete =>
    obtain ⟨hacceptable, _, _, _, _, hok⟩ := hx
    cases y with
    | refused e => exact absurd (hacceptable e) hy.1.1
    | complete => rfl
    | cutOff =>
      obtain ⟨_, _, _, _, _, herror⟩ := hy
      cases hok.symm.trans herror
  | cutOff =>
    obtain ⟨hacceptable, _, _, _, _, herror⟩ := hx
    cases y with
    | refused e => exact absurd (hacceptable e) hy.1.1
    | complete =>
      obtain ⟨_, _, _, _, _, hok⟩ := hy
      cases hok.symm.trans herror
    | cutOff => rfl

theorem ofArtifact_of_fits {sink : Sink} {artifact : Julia.Artifact}
    (h : sink.Fits (Text.utf8 artifact.render).length ∧ sink.flushes = true)
    (events : List Log.Event) (settings : Settings) :
    (ofArtifact events settings artifact sink).received = Text.utf8 artifact.render ∧
      (ofArtifact events settings artifact sink).result = .ok
        { declarations := artifact.size, bytes := (Text.utf8 artifact.render).length,
          fingerprint := Fingerprint.ofBytes (Text.utf8 artifact.render) } := by
  have hcomplete := (sink.complete_deliver_iff (Text.utf8 artifact.render)).mpr h
  simp only [ofArtifact, hcomplete, if_true, Sink.received_deliver, Sink.upTo_eq_self h.1,
    Text.length_utf8, Fingerprint.ofText, and_self]

theorem ofArtifact_of_not_fits {sink : Sink} {artifact : Julia.Artifact}
    (h : ¬(sink.Fits (Text.utf8 artifact.render).length ∧ sink.flushes = true))
    (events : List Log.Event) (settings : Settings) :
    (ofArtifact events settings artifact sink).received = sink.upTo (Text.utf8 artifact.render) ∧
      (ofArtifact events settings artifact sink).result = .error .writing := by
  have hcomplete := mt (sink.complete_deliver_iff (Text.utf8 artifact.render)).mp h
  simp only [ofArtifact, if_neg hcomplete, Sink.received_deliver, and_self]

/-- Every run ends in exactly one of the three ways: refused before a byte was written, complete and
reported from what the sink has received, or cut off at the capacity of the sink or by its flush. -/
theorem ofPlatform_endsAs (p : Platform) (settings : Settings) (sink : Sink) :
    ∃ ending, EndsAs p settings sink (ofPlatform p settings sink) ending ∧
      ∀ other, EndsAs p settings sink (ofPlatform p settings sink) other → other = ending := by
  have hsome : ∃ ending, EndsAs p settings sink (ofPlatform p settings sink) ending := by
    rcases p.checkWidths_cases with hacceptable | ⟨e, hfirst, herror⟩
    · have hfile := hasFile_file hacceptable settings
      rw [ofPlatform_accepted hacceptable]
      by_cases hfits : sink.Fits (Text.utf8 (file p settings).render).length ∧ sink.flushes = true
      · obtain ⟨hreceived, hresult⟩ := ofArtifact_of_fits hfits _ settings
        refine ⟨.complete, hacceptable, file p settings, hfile, hfits, hreceived, ?_⟩
        rw [hresult, hreceived]
      · obtain ⟨hreceived, hresult⟩ := ofArtifact_of_not_fits hfits _ settings
        exact ⟨.cutOff, hacceptable, file p settings, hfile, hfits, hreceived, hresult⟩
    · rw [ofPlatform_refused herror]
      exact ⟨.refused e, hfirst, rfl, rfl⟩
  obtain ⟨ending, hends⟩ := hsome
  exact ⟨ending, hends, fun other hother => hother.unique hends⟩

end Generation

end AbiBindings
