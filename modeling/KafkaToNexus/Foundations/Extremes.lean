import Mathlib.Logic.Function.Basic
import Mathlib.Order.Bounds.Basic
import Mathlib.Order.MinMax

/-!
# Least and greatest elements that are found one after the other

A fold that keeps the smaller of two elements ends with the least one.  A value
that does not belong to the set, but took part, does no harm exactly when there
is an element beyond it.
-/

namespace KafkaToNexus.Foundations

section Folds

variable {α : Type*} [LinearOrder α]

theorem isLeast_foldl_min (start : α) (others : List α) :
    IsLeast {element | element ∈ start :: others}
      (others.foldl min start) :=
  List.min?_eq_some_iff.mp List.min?_cons'

theorem isGreatest_foldl_max (start : α) (others : List α) :
    IsGreatest {element | element ∈ start :: others}
      (others.foldl max start) :=
  List.max?_eq_some_iff.mp List.max?_cons'

end Folds

variable {α : Type*} [PartialOrder α] {elements : Set α}
  {stranger extreme : α}

/-- A least element with a stranger is one without it, if one is below it. -/
theorem isLeast_iff_of_insert
    (least : IsLeast (insert stranger elements) extreme) :
    IsLeast elements extreme ↔ ∃ element ∈ elements, element ≤ stranger := by
  constructor
  · intro own
    exact ⟨extreme, own.1, least.2 (Set.mem_insert stranger elements)⟩
  · rintro ⟨element, member, below⟩
    constructor
    · rcases least.1 with rfl | own
      · have above := least.2 (Set.mem_insert_of_mem extreme member)
        rw [← le_antisymm below above]
        exact member
      · exact own
    · intro other present
      exact least.2 (Set.mem_insert_of_mem stranger present)

theorem isGreatest_iff_of_insert
    (greatest : IsGreatest (insert stranger elements) extreme) :
    IsGreatest elements extreme ↔
      ∃ element ∈ elements, stranger ≤ element :=
  @isLeast_iff_of_insert αᵒᵈ _ elements stranger extreme greatest

/-! ## The extremes of a family of sets -/

/--
A list with the greatest element of each set of a family.  The sets that have no
place in it are empty.
-/
structure GreatestOfEach {α : Type*} [Preorder α] (extremes : List α)
    (sets : Nat → Set α) : Prop where
  greatest :
    ∀ index extreme, extremes[index]? = some extreme →
      IsGreatest (sets index) extreme
  empty : ∀ index, extremes.length ≤ index → sets index = ∅

namespace GreatestOfEach

variable {α : Type*} [LinearOrder α] {extremes : List α}
  {sets : Nat → Set α} {extreme : α}

/-- A set with an element has its greatest in the list. -/
theorem lt_length {index : Nat} {element : α}
    (greatest : GreatestOfEach extremes sets)
    (member : element ∈ sets index) :
    index < extremes.length := by
  by_contra beyond
  have nothing := greatest.empty index (not_lt.mp beyond)
  exact Set.eq_empty_iff_forall_notMem.mp nothing element member

/-- An element that joins a set may be greater than the ones before. -/
theorem set {index : Nat}
    (greatest : GreatestOfEach extremes sets)
    (there : extremes[index]? = some extreme) (element : α) :
    GreatestOfEach (extremes.set index (max element extreme))
      (Function.update sets index (insert element (sets index))) := by
  have inside : index < extremes.length :=
    (List.getElem?_eq_some_iff.mp there).1
  constructor
  · intro other found
    by_cases here : other = index
    · subst here
      rw [List.getElem?_set_self inside, Option.some.injEq]
      rintro rfl
      rw [Function.update_self]
      exact (greatest.greatest other extreme there).insert element
    · rw [List.getElem?_set_ne (Ne.symm here),
        Function.update_of_ne here]
      exact greatest.greatest other found
  · intro other beyond
    rw [List.length_set] at beyond
    rw [Function.update_of_ne (Nat.ne_of_gt (inside.trans_le beyond))]
    exact greatest.empty other beyond

/-- The first element of a set is its greatest. -/
theorem concat
    (greatest : GreatestOfEach extremes sets) (element : α) :
    GreatestOfEach (extremes ++ [element])
      (Function.update sets extremes.length
        (insert element (sets extremes.length))) := by
  constructor
  · intro index found
    by_cases here : index = extremes.length
    · subst here
      rw [List.getElem?_concat_length, Option.some.injEq]
      rintro rfl
      rw [Function.update_self, greatest.empty _ (Nat.le_refl _),
        insert_empty_eq]
      exact isGreatest_singleton
    · rw [Function.update_of_ne here]
      intro there
      have before : index < extremes.length := by
        have inside := (List.getElem?_eq_some_iff.mp there).1
        rw [List.length_append, List.length_singleton] at inside
        omega
      rw [List.getElem?_append_left before] at there
      exact greatest.greatest index found there
  · intro index beyond
    rw [List.length_append, List.length_singleton] at beyond
    rw [Function.update_of_ne (by omega)]
    exact greatest.empty index (by omega)

end GreatestOfEach

end KafkaToNexus.Foundations
