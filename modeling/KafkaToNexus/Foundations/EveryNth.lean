import Mathlib.Algebra.Order.Group.Nat
import Mathlib.Data.List.Induction

/-!
# Every so many elements of a list

The elements of a list at the ends of its intervals, with their positions.
There is one for each full interval: the first is at the end of the first
interval, and each later one is an interval further.
-/

namespace KafkaToNexus.Foundations

variable {Element : Type*} {interval : Nat} {elements : List Element}

/-- The elements at the ends of the intervals, with their positions. -/
def everyNth (interval : Nat) (elements : List Element) :
    List (Element × Nat) :=
  elements.zipIdx.filter fun entry => decide (interval ∣ entry.2 + 1)

theorem everyNth_concat (element : Element) :
    everyNth interval (elements ++ [element]) =
      everyNth interval elements ++
        if interval ∣ elements.length + 1 then [(element, elements.length)]
        else [] := by
  rw [everyNth, List.zipIdx_append, List.filter_append, List.zipIdx_singleton,
    List.filter_cons, List.filter_nil, Nat.zero_add]
  simp only [decide_eq_true_eq]
  rfl

/-- There is one for each full interval. -/
theorem length_everyNth :
    (everyNth interval elements).length = elements.length / interval := by
  induction elements using List.reverseRecOn with
  | nil => exact (Nat.zero_div interval).symm
  | append_singleton elements element induction =>
      rw [everyNth_concat, List.length_append, induction, List.length_append,
        List.length_singleton, Nat.succ_div]
      split <;> rfl

/-- The next position is at an end when the rest makes a full interval. -/
theorem dvd_succ_iff (positive : 0 < interval) (count : Nat) :
    0 < (count + 1 - count / interval * interval) / interval ↔
      interval ∣ count + 1 := by
  have whole := Nat.div_add_mod' count interval
  have below := Nat.mod_lt count positive
  have rest :
      count + 1 - count / interval * interval = count % interval + 1 := by
    omega
  have split :
      count + 1 = count / interval * interval + (count % interval + 1) := by
    omega
  have same :
      interval ∣ count + 1 ↔ interval ∣ count % interval + 1 := by
    rw [split]
    exact Nat.dvd_add_right (Nat.dvd_mul_left interval _)
  rw [rest, same, Nat.div_pos_iff]
  constructor
  · rintro ⟨_, full⟩
    have last : count % interval + 1 = interval := Nat.le_antisymm below full
    exact ⟨1, by omega⟩
  · intro full
    exact ⟨positive, Nat.le_of_dvd (Nat.succ_pos _) full⟩

/-- The entry in a place is the element at the end of that interval. -/
theorem getElem?_everyNth (positive : 0 < interval) (place : Nat) :
    (everyNth interval elements)[place]? =
      elements[(place + 1) * interval - 1]?.map
        fun element => (element, (place + 1) * interval - 1) := by
  induction elements using List.reverseRecOn with
  | nil => rfl
  | append_singleton elements element induction =>
      have least : interval ≤ (place + 1) * interval :=
        Nat.le_mul_of_pos_left _ (Nat.succ_pos place)
      have count := @length_everyNth _ interval elements
      rw [everyNth_concat]
      rcases Nat.lt_trichotomy ((place + 1) * interval - 1) elements.length
        with before | here | after
      · have earlier : place < elements.length / interval := by
          rw [Nat.lt_iff_add_one_le, Nat.le_div_iff_mul_le positive]
          omega
        rw [List.getElem?_append_left (by rw [count]; exact earlier),
          induction, List.getElem?_append_left before]
      · have ends : (place + 1) * interval = elements.length + 1 := by omega
        have divides : interval ∣ elements.length + 1 := by
          rw [← ends]
          exact Nat.dvd_mul_left interval _
        have last : elements.length / interval = place := by
          have after := @Nat.succ_div elements.length interval
          rw [if_pos divides, ← ends, Nat.mul_div_cancel _ positive] at after
          exact (Nat.succ.inj after).symm
        rw [if_pos divides, here, List.getElem?_concat_length, ← last, ← count,
          List.getElem?_concat_length]
        rfl
      · have later :
            (everyNth interval elements ++
              if interval ∣ elements.length + 1 then
                [(element, elements.length)]
              else []).length ≤ place := by
          rw [← everyNth_concat, length_everyNth, List.length_append,
            List.length_singleton, ← Nat.lt_succ_iff,
            Nat.div_lt_iff_lt_mul positive]
          show elements.length + 1 < (place + 1) * interval
          omega
        have outside :
            (elements ++ [element]).length ≤ (place + 1) * interval - 1 := by
          rw [List.length_append, List.length_singleton]
          exact after
        rw [List.getElem?_eq_none later, List.getElem?_eq_none outside]
        rfl

end KafkaToNexus.Foundations
