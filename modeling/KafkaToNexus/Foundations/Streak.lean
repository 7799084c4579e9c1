import Mathlib.Data.List.Infix

/-!
# The uninterrupted run at the end of a history

A history ends with a streak of a property when its last entries all have the
property and the entry before them, if there is one, does not.  The streak of
a history is unique; one more entry either extends it or begins a new one.
-/

namespace KafkaToNexus.Foundations.Streak

variable {Entry : Type*} {property : Entry → Prop}

/--
The history ends with the streak that begins with `first` and continues with
`rest`.
-/
structure EndsWithStreak
    (property : Entry → Prop) (history : List Entry)
    (first : Entry) (rest : List Entry) : Prop where
  splits :
    ∃ before, history = before ++ first :: rest ∧
      ∀ last, before.getLast? = some last → ¬ property last
  holds : ∀ entry ∈ first :: rest, property entry

/-- An entry with the property extends a streak. -/
theorem EndsWithStreak.extend
    {history : List Entry} {first : Entry} {rest : List Entry}
    (streak : EndsWithStreak property history first rest)
    {entry : Entry} (has : property entry) :
    EndsWithStreak property (history ++ [entry]) first (rest ++ [entry]) := by
  rcases streak.splits with ⟨before, equal, interrupted⟩
  constructor
  · exact ⟨before, by simp [equal], interrupted⟩
  · intro member belongs
    rw [← List.cons_append, List.mem_append, List.mem_singleton] at belongs
    rcases belongs with old | rfl
    · exact streak.holds member old
    · exact has

/-- An entry with the property begins a streak after one without it. -/
theorem endsWithStreak_begin
    {history : List Entry}
    (interrupted : ∀ last, history.getLast? = some last → ¬ property last)
    {entry : Entry} (has : property entry) :
    EndsWithStreak property (history ++ [entry]) entry [] := by
  constructor
  · exact ⟨history, rfl, interrupted⟩
  · intro member belongs
    rw [List.mem_singleton] at belongs
    subst belongs
    exact has

/-- No streak is a proper suffix of another one. -/
private theorem extra_eq_nil
    {history : List Entry} {first second : Entry}
    {firstRest secondRest extra : List Entry}
    (longer : EndsWithStreak property history first firstRest)
    (shorter : EndsWithStreak property history second secondRest)
    (suffixed : extra ++ second :: secondRest = first :: firstRest) :
    extra = [] := by
  rcases longer.splits with ⟨longBefore, longEqual, _⟩
  rcases shorter.splits with ⟨shortBefore, shortEqual, interrupted⟩
  have before : shortBefore = longBefore ++ extra := by
    apply List.append_cancel_right
    rw [← shortEqual, longEqual, List.append_assoc, suffixed]
  rcases List.eq_nil_or_concat extra with empty | ⟨front, last, equal⟩
  · exact empty
  · have member : last ∈ first :: firstRest := by
      rw [← suffixed, equal]
      simp
    have notLast := interrupted last (by simp [before, equal])
    exact absurd (longer.holds last member) notLast

/-- A history has at most one streak of a property at its end. -/
theorem EndsWithStreak.unique
    {history : List Entry} {first second : Entry}
    {firstRest secondRest : List Entry}
    (one : EndsWithStreak property history first firstRest)
    (other : EndsWithStreak property history second secondRest) :
    first = second ∧ firstRest = secondRest := by
  rcases one.splits with ⟨_, oneEqual, _⟩
  rcases other.splits with ⟨_, otherEqual, _⟩
  have oneSuffix : first :: firstRest <:+ history := ⟨_, oneEqual.symm⟩
  have otherSuffix : second :: secondRest <:+ history := ⟨_, otherEqual.symm⟩
  rcases List.suffix_or_suffix_of_suffix oneSuffix otherSuffix with
    ⟨extra, equal⟩ | ⟨extra, equal⟩
  · have none := extra_eq_nil other one equal
    subst none
    simpa using equal
  · have none := extra_eq_nil one other equal
    subst none
    have flipped : second = first ∧ secondRest = firstRest := by
      simpa using equal
    exact ⟨flipped.1.symm, flipped.2.symm⟩

end KafkaToNexus.Foundations.Streak
