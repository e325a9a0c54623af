import AbiBindings.Bindings.Sections
import AbiBindings.Fingerprint
import AbiBindings.Log.Event
import AbiBindings.Sink

/-!
# Generating the bindings

The text is complete before the first byte of it is written, and nothing is written for a platform
that is not acceptable. A run yields the events in their order, what the sink received, and either a
report or the reason of failure. Success is recorded only after the sink has taken and flushed all.
-/

namespace AbiBindings

inductive GenerationError where
  | violation (v : Violation)
  | writing
  deriving DecidableEq

/-- What went wrong. The cause of a failed write is left to the sink. -/
def GenerationError.message : GenerationError → String
  | violation v => v.message
  | writing => "failed to write bindings"

/-- What a successful run wrote. -/
structure Report where
  declarations : Nat
  bytes : Nat
  fingerprint : String
  deriving DecidableEq

structure Generation where
  events : List Log.Event
  received : List UInt8
  result : Except GenerationError Report

namespace Generation

/-- A run that stopped before anything was written. -/
def stopped (events : List Log.Event) (v : Violation) : Generation :=
  ⟨events, [], .error (.violation v)⟩

/-- The events of a check of the widths. -/
def checkEvents (p : Platform) : List Log.Event :=
  match p.checkWidths with
  | .ok () => [.widthsMatch p.cInt.size]
  | .error v => [.widthsDiffer v]

/-- Write a finished file and report on it. -/
def ofArtifact (events : List Log.Event) (settings : Settings) (artifact : Julia.Artifact)
    (sink : Sink) : Generation :=
  let text := artifact.render
  let delivery := sink.deliver (Text.utf8 text)
  if delivery.complete then
    let report : Report :=
      { declarations := artifact.size, bytes := text.utf8ByteSize,
        fingerprint := Fingerprint.ofText text }
    { events := events ++
        [.rendered (Fingerprint.short report.fingerprint) report.bytes,
          .generated report.declarations settings.library.path],
      received := delivery.received, result := .ok report }
  else { events, received := delivery.received, result := .error .writing }

/-- Generate the bindings of a measured platform. -/
def ofPlatform (p : Platform) (settings : Settings) (sink : Sink) : Generation :=
  match Tao.ElementTypes.tao with
  | .error v => stopped [] v
  | .ok types =>
    let events := .builtElementTypes types.size :: checkEvents p
    match Bindings.Source.artifact ⟨types, p, settings⟩ with
    | .error v => stopped events v
    | .ok artifact => ofArtifact events settings artifact sink

/-- The events of measuring a platform. -/
def measurementEvents (p : Platform) : List Log.Event :=
  p.timespec.fields.map .measuredField ++ [.measuredPlatform p]

/-- Measure the host and generate its bindings. -/
def ofHost (settings : Settings) (sink : Sink) : Generation :=
  match Platform.host with
  | .error v => stopped [] v
  | .ok p =>
    let run := ofPlatform p settings sink
    { run with events := measurementEvents p ++ run.events }

end Generation

end AbiBindings
