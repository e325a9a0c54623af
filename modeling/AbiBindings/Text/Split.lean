/-!
# Splitting

A list is split at every occurrence of a separator, so that there is one part more than there are
separators.
-/

namespace AbiBindings.Text

/-- Put an element in front of the first part. -/
def consPart {α : Type} (a : α) : List (List α) → List (List α)
  | [] => [[a]]
  | part :: rest => (a :: part) :: rest

def split {α : Type} [DecidableEq α] (separator : α) : List α → List (List α)
  | [] => [[]]
  | a :: rest =>
    if a = separator then [] :: split separator rest else consPart a (split separator rest)

theorem split_of_notMem {α : Type} [DecidableEq α] {separator : α} {as : List α}
    (h : separator ∉ as) : split separator as = [as] := by
  induction as with
  | nil => rfl
  | cons a rest ih =>
    rw [List.mem_cons, not_or] at h
    rw [split, if_neg (Ne.symm h.1), ih h.2, consPart]

theorem split_append {α : Type} [DecidableEq α] {separator : α} {as : List α}
    (h : separator ∉ as) (bs : List α) :
    split separator (as ++ separator :: bs) = as :: split separator bs := by
  induction as with
  | nil => simp [split]
  | cons a rest ih =>
    rw [List.mem_cons, not_or] at h
    rw [List.cons_append, split, if_neg (Ne.symm h.1), ih h.2, consPart]

theorem consPart_append {α : Type} (a : α) {parts : List (List α)} (h : parts ≠ [])
    (others : List (List α)) : consPart a (parts ++ others) = consPart a parts ++ others := by
  cases parts with
  | nil => exact absurd rfl h
  | cons part rest => rfl

theorem split_ne_nil {α : Type} [DecidableEq α] (separator : α) (as : List α) :
    split separator as ≠ [] := by
  cases as with
  | nil => exact List.cons_ne_nil _ _
  | cons a rest =>
    rw [split]
    split
    · exact List.cons_ne_nil _ _
    · cases split separator rest <;> exact List.cons_ne_nil _ _

/-- A separator divides a list into parts that are split on their own. -/
theorem split_append_cons {α : Type} [DecidableEq α] (separator : α) (as bs : List α) :
    split separator (as ++ separator :: bs) = split separator as ++ split separator bs := by
  induction as with
  | nil => simp [split]
  | cons a rest ih =>
    rw [List.cons_append, split, split]
    split
    · rw [ih, List.cons_append]
    · rw [ih, consPart_append a (split_ne_nil separator rest)]

theorem notMem_of_mem_split {α : Type} [DecidableEq α] {separator : α} {as part : List α}
    (h : part ∈ split separator as) : separator ∉ part := by
  induction as generalizing part with
  | nil =>
    rw [split, List.mem_singleton] at h
    subst h
    exact List.not_mem_nil
  | cons a rest ih =>
    rw [split] at h
    split at h
    · rcases List.mem_cons.mp h with rfl | hrest
      · exact List.not_mem_nil
      · exact ih hrest
    · rename_i hne
      obtain ⟨first, others, hparts⟩ := List.exists_cons_of_ne_nil (split_ne_nil separator rest)
      rw [hparts] at h
      rcases List.mem_cons.mp h with rfl | hothers
      · rw [List.mem_cons, not_or]
        exact ⟨Ne.symm hne, ih (by simp [hparts])⟩
      · exact ih (by simp [hparts, hothers])

/-- A list consists of its parts, with a separator in front of all but the first. -/
theorem flatMap_split {α : Type} [DecidableEq α] (separator : α) (as : List α) :
    (split separator as).flatMap (separator :: ·) = separator :: as := by
  induction as with
  | nil => rfl
  | cons a rest ih =>
    obtain ⟨first, others, hparts⟩ := List.exists_cons_of_ne_nil (split_ne_nil separator rest)
    rw [split]
    split
    · rename_i heq
      subst heq
      rw [List.flatMap_cons, ih]
      rfl
    · rw [hparts, List.flatMap_cons, List.cons_append] at ih
      have hrest := (List.cons.inj ih).2
      rw [hparts, consPart, List.flatMap_cons, List.cons_append, List.cons_append, hrest]

end AbiBindings.Text
