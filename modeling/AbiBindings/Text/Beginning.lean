/-!
# How texts begin

One text begins with another and goes on with some rest. Two texts that differ at a place that both
have begin differently, whatever follows them. A run of characters of one kind at the beginning ends
where something else follows.
-/

namespace AbiBindings.Text

def startsWith (start text : String) : Bool :=
  start.toList.isPrefixOf text.toList

theorem startsWith_append (start rest : String) : startsWith start (start ++ rest) = true := by
  rw [startsWith, List.isPrefixOf_iff_prefix, String.toList_append]
  exact List.prefix_append _ _

/-- The texts differ at a place that both have. -/
def clash (a b : String) : Bool :=
  (a.toList.zip b.toList).any fun pair => pair.1 != pair.2

theorem startsWith_append_of_clash {start front : String} (h : clash start front = true)
    (rest : String) : startsWith start (front ++ rest) = false := by
  have hlists : ∀ as bs cs : List Char, ((as.zip bs).any fun pair => pair.1 != pair.2) = true →
      as.isPrefixOf (bs ++ cs) = false := by
    intro as
    induction as with
    | nil => simp
    | cons a as ih =>
      intro bs cs hany
      cases bs with
      | nil => simp at hany
      | cons b bs =>
        rw [List.zip_cons_cons, List.any_cons, Bool.or_eq_true] at hany
        rw [List.cons_append, List.isPrefixOf_cons_cons, Bool.and_eq_false_iff]
        rcases hany with hhead | htail
        · exact Or.inl (by simpa using hhead)
        · exact Or.inr (ih bs cs htail)
  rw [startsWith, String.toList_append]
  exact hlists _ _ _ h

theorem append_ne_append_of_clash {start front : String} (h : clash start front = true)
    (a b : String) : start ++ a ≠ front ++ b := by
  intro heq
  have hstart := startsWith_append start a
  rw [heq, startsWith_append_of_clash h] at hstart
  exact absurd hstart (by decide)

/-- What follows the given beginning of a text. -/
def after? (start text : String) : Option String :=
  if startsWith start text then some (String.ofList (text.toList.drop start.length)) else none

theorem after?_eq_some_iff {start text rest : String} :
    after? start text = some rest ↔ text = start ++ rest := by
  constructor
  · intro h
    simp only [after?, Option.ite_none_right_eq_some, Option.some.injEq] at h
    obtain ⟨hstart, rfl⟩ := h
    obtain ⟨others, hothers⟩ := List.isPrefixOf_iff_prefix.mp hstart
    rw [← String.toList_inj, String.toList_append, String.toList_ofList, ← hothers,
      ← String.length_toList, List.drop_left]
  · rintro rfl
    have hrest : (start ++ rest).toList.drop start.length = rest.toList := by
      rw [String.toList_append, ← String.length_toList, List.drop_left]
    rw [after?, if_pos (startsWith_append start rest), hrest, String.ofList_toList]

theorem after?_append (start rest : String) : after? start (start ++ rest) = some rest :=
  after?_eq_some_iff.mpr rfl

theorem after?_append_of_clash {start front : String} (h : clash start front = true)
    (rest : String) : after? start (front ++ rest) = none := by
  rw [after?, startsWith_append_of_clash h]
  rfl

/-- A run of characters of a kind ends where something else follows. -/
theorem takeWhile_run {isKind : Char → Bool} {run rest : List Char}
    (hrun : ∀ c ∈ run, isKind c = true) (hrest : ∀ c ∈ rest.head?, isKind c = false) :
    (run ++ rest).takeWhile isKind = run := by
  rw [List.takeWhile_append_of_pos hrun]
  cases rest with
  | nil => rw [List.takeWhile_nil, List.append_nil]
  | cons c rest => rw [List.takeWhile_cons_of_neg (by simp [hrest c rfl]), List.append_nil]

theorem dropWhile_run {isKind : Char → Bool} {run rest : List Char}
    (hrun : ∀ c ∈ run, isKind c = true) (hrest : ∀ c ∈ rest.head?, isKind c = false) :
    (run ++ rest).dropWhile isKind = rest := by
  rw [List.dropWhile_append_of_pos hrun]
  cases rest with
  | nil => rfl
  | cons c rest => exact List.dropWhile_cons_of_neg (by simp [hrest c rfl])

end AbiBindings.Text
