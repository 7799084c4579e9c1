import Mathlib.Data.Set.Basic
import Mathlib.Data.String.Basic

/-!
# Texts in a row

Two texts in a row are a key for the pair of them when there is only one way to
cut them apart again.  This is so when the first ones have the same size, or
when there is never a text between two ways to cut.
-/

namespace KafkaToNexus.Foundations.Concatenation

variable {first second front back : String}

/-- Of two ways to cut a text one cuts no later than the other. -/
theorem exists_between (same : first ++ second = front ++ back) :
    ∃ rest,
      front = first ++ rest ∧ second = rest ++ back ∨
        first = front ++ rest ∧ back = rest ++ second := by
  have characters := congrArg String.toList same
  rw [String.toList_append, String.toList_append,
    List.append_eq_append_iff] at characters
  rcases characters with ⟨rest, cut, other⟩ | ⟨rest, cut, other⟩
  · refine ⟨String.ofList rest, Or.inl ⟨?_, ?_⟩⟩
    · rw [← String.toList_inj, String.toList_append, String.toList_ofList, cut]
    · rw [← String.toList_inj, String.toList_append, String.toList_ofList,
        other]
  · refine ⟨String.ofList rest, Or.inr ⟨?_, ?_⟩⟩
    · rw [← String.toList_inj, String.toList_append, String.toList_ofList, cut]
    · rw [← String.toList_inj, String.toList_append, String.toList_ofList,
        other]

/-- A text that adds nothing to the size is empty. -/
theorem eq_empty_of_size {rest : String}
    (size : (first ++ rest).utf8ByteSize = first.utf8ByteSize) : rest = "" := by
  rw [String.utf8ByteSize_append] at size
  exact String.utf8ByteSize_eq_zero_iff.mp (by omega)

/-- Two ways to cut a text with nothing between them are the same. -/
theorem same_cut {rest : String}
    (empty : rest = "") (cut : front = first ++ rest)
    (other : second = rest ++ back) : first = front ∧ second = back := by
  rw [empty] at cut other
  exact ⟨(cut.trans String.append_empty).symm,
    other.trans String.empty_append⟩

/-- Texts whose first parts have the same size are told apart. -/
theorem append_inj_of_size
    (size : first.utf8ByteSize = front.utf8ByteSize)
    (same : first ++ second = front ++ back) :
    first = front ∧ second = back := by
  rcases exists_between same with ⟨rest, ⟨cut, other⟩ | ⟨cut, other⟩⟩
  · rw [cut] at size
    exact same_cut (eq_empty_of_size size.symm) cut other
  · rw [cut] at size
    exact (same_cut (eq_empty_of_size size) cut other).imp Eq.symm Eq.symm

/-- No text of the set is another one of it with something after it. -/
def PrefixFree (texts : Set String) : Prop :=
  ∀ first ∈ texts, ∀ rest, first ++ rest ∈ texts → rest = ""

end KafkaToNexus.Foundations.Concatenation
