import AbiBindings.Proofs.Emission

/-!
# Emission only appends

A file is built from single declarations and whole bindings, in any order. No step of this fails,
and each leaves what is there as it is. What the bindings add is the same wherever they are added,
and how much that is depends on the number of element types and of members alone.
-/

namespace AbiBindings

open Julia

namespace Bindings

/-- Steps that each succeed by appending append everything, in order. -/
theorem foldlM_append {α : Type} {step : Artifact → α → Except Violation Artifact}
    {added : α → List Declaration} (h : ∀ a x, step a x = .ok (a.append (added x)))
    (xs : List α) (a : Artifact) : xs.foldlM step a = .ok (a.append (xs.flatMap added)) := by
  induction xs generalizing a with
  | nil => simp [Artifact.append, pure, Except.pure]
  | cons x rest ih =>
    rw [List.foldlM_cons, h, List.flatMap_cons, ← Artifact.append_append]
    exact ih (a.append (added x))

namespace Source

variable (s : Source)

theorem emit_eq_append (a : Artifact) : s.emit a = .ok (a.append s.listing) := by
  have hstep : ∀ (a : Artifact) (part : List Declaration),
      (Except.ok (ε := Violation) part).map a.append = .ok (a.append part) := fun _ _ => rfl
  rw [emit, sections_eq_parts, List.foldlM_map, foldlM_append hstep, List.flatMap_id']
  rfl

/-- The sections have fixed sizes, apart from an item for each element type or member. -/
theorem length_parts :
    s.parts.map List.length =
      [8, 3, 6, 6, 3, 21, 6, 3, 4, s.types.size + 3, s.types.size + 2,
        2 * s.platform.timespec.fields.length + 5, 9] := by
  have hdispatch : ∀ name, (s.elementDispatchOf name).length = s.types.size + 3 := by
    intro name
    simp only [elementDispatchOf, List.length_append, List.length_map, List.length_cons,
      List.length_nil, Tao.ElementTypes.size]
    omega
  have htable : s.elementTable.length = s.types.size + 2 := by
    simp only [elementTable, List.length_append, List.length_map, List.length_cons,
      List.length_nil, Tao.ElementTypes.size]
    omega
  have htimespec :
      (timespecOf s.platform.timespec
        (s.platform.timespec.fields.map s.fieldTypeNamed)).length =
        2 * s.platform.timespec.fields.length + 5 := by
    simp only [timespecOf, List.length_append, List.length_map, List.length_cons, List.length_nil]
    omega
  simp only [parts, List.map_cons, List.map_nil, hdispatch, htable, htimespec]
  rfl

theorem length_listing :
    s.listing.length = 79 + 2 * s.types.size + 2 * s.platform.timespec.fields.length := by
  rw [listing, List.length_flatten, length_parts]
  simp only [List.sum_cons, List.sum_nil]
  omega

end Source

/-- What a file is built by. -/
inductive Step where
  | push (d : Declaration)
  | emit (s : Source)

namespace Step

def apply (a : Artifact) : Step → Except Violation Artifact
  | push d => .ok (a.push d)
  | emit s => s.emit a

def added : Step → List Declaration
  | push d => [d]
  | emit s => s.listing

theorem apply_eq_append (a : Artifact) (step : Step) :
    step.apply a = .ok (a.append step.added) := by
  cases step with
  | push d => rfl
  | emit s => exact s.emit_eq_append a

/-- Build a file from nothing. -/
def build (steps : List Step) : Except Violation Artifact :=
  steps.foldlM (fun a step => step.apply a) .empty

theorem build_eq_append (steps : List Step) :
    build steps = .ok (Artifact.empty.append (steps.flatMap added)) :=
  foldlM_append apply_eq_append steps .empty

end Step

namespace Source

/-- Whatever a file was built by, emission succeeds and puts the declarations of the bindings, of
which there is a fixed number, behind those that are there; the text grows in the same way. -/
theorem emit_appends (s : Source) :
    ∃ ds, s.declarations = .ok ds ∧
      ds.length = 79 + 2 * s.types.size + 2 * s.platform.timespec.fields.length ∧
      ∀ steps, ∃ a b, Step.build steps = .ok a ∧ s.emit a = .ok b ∧
        b.declarations = a.declarations ++ ds ∧
        b.render = a.render ++ (Artifact.mk ds).render := by
  refine ⟨s.listing, s.declarations_eq_listing, s.length_listing, fun steps => ?_⟩
  exact ⟨_, _, Step.build_eq_append steps, s.emit_eq_append _, rfl,
    Artifact.render_append _ s.listing⟩

end Source

end Bindings

end AbiBindings
