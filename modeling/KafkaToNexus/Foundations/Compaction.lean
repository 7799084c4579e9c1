import Mathlib.Data.List.Pairwise
import Mathlib.Tactic.Push

/-!
# Removing elements from a vector of owning pointers

`std::remove_if` reads the elements of a vector one by one, asks a predicate
about each of them and moves those that are kept towards the front.  An owning
pointer that was moved from is null.  When the predicate throws, the vector
stays as it is at that point, with the elements in three parts: those that are
kept at the front, a gap of removed elements and of pointers that were moved
from, and the elements that were not looked at.
-/

namespace KafkaToNexus.Foundations.Compaction

variable {Element Failure : Type*}

/-- The pointers of a vector, where none is the null pointer. -/
abbrev Slots (Element : Type*) := List (Option Element)

/-- How the removal ends. -/
inductive Outcome (Element Failure : Type*) where
  /-- The elements before the result are kept. -/
  | returned (result : Nat) (slots : Slots Element)
  | threw (failure : Failure) (slots : Slots Element)
  /-- A null pointer was dereferenced. -/
  | undefined
deriving DecidableEq, Repr

/-- Move an element from one place to another one. -/
def moveTo
    (slots : Slots Element) (result index : Nat) (element : Element) :
    Slots Element :=
  (slots.set result (some element)).set index none

/-- The removal with some elements still to be looked at. -/
def removeIfFrom (predicate : Element → Except Failure Bool) :
    Nat → Nat → Nat → Slots Element → Outcome Element Failure
  | 0, result, _, slots => .returned result slots
  | remaining + 1, result, index, slots =>
      match slots[index]? with
      | some (some element) =>
          match predicate element with
          | .error failure => .threw failure slots
          | .ok true =>
              removeIfFrom predicate remaining result (index + 1) slots
          | .ok false =>
              removeIfFrom predicate remaining (result + 1) (index + 1)
                (if result = index then slots
                else moveTo slots result index element)
      | _ => .undefined

def removeIf
    (predicate : Element → Except Failure Bool) (slots : Slots Element) :
    Outcome Element Failure :=
  removeIfFrom predicate slots.length 0 0 slots

/-! ## The three parts of the vector -/

/-- The removal in terms of the three parts. -/
def compact (predicate : Element → Except Failure Bool)
    (kept gap : Slots Element) : List Element → Outcome Element Failure
  | [] => .returned kept.length (kept ++ gap)
  | element :: rest =>
      match predicate element with
      | .error failure =>
          .threw failure (kept ++ gap ++ some element :: rest.map some)
      | .ok true => compact predicate kept (gap ++ [some element]) rest
      | .ok false =>
          match gap with
          | [] => compact predicate (kept ++ [some element]) [] rest
          | _ :: others =>
              compact predicate (kept ++ [some element]) (others ++ [none])
                rest

section Parts

variable {predicate : Element → Except Failure Bool}
  {kept gap : Slots Element} {called later rest : List Element}
  {element thrower : Element} {failure : Failure}

theorem moveTo_gap (first : Option Element) (tail : Slots Element) :
    moveTo (kept ++ first :: gap ++ some element :: tail) kept.length
        (kept.length + (first :: gap).length) element =
      kept ++ [some element] ++ (gap ++ [none]) ++ tail := by
  rw [moveTo, List.append_assoc, List.set_append_right _ _ (Nat.le_refl _),
    Nat.sub_self, List.cons_append, List.set_cons_zero,
    List.set_append_right _ _ (Nat.le_add_right _ _), Nat.add_sub_cancel_left,
    List.length_cons, List.set_cons_succ,
    List.set_append_right _ _ (Nat.le_refl _), Nat.sub_self, List.set_cons_zero]
  simp

theorem compact_threw (answer : predicate element = .error failure) :
    compact predicate kept gap (element :: rest) =
      .threw failure (kept ++ gap ++ some element :: rest.map some) := by
  simp only [compact, answer]

theorem compact_removed (answer : predicate element = .ok true) :
    compact predicate kept gap (element :: rest) =
      compact predicate kept (gap ++ [some element]) rest := by
  simp only [compact, answer]

theorem compact_kept (answer : predicate element = .ok false) :
    compact predicate kept [] (element :: rest) =
      compact predicate (kept ++ [some element]) [] rest := by
  simp only [compact, answer]

theorem compact_moved
    (answer : predicate element = .ok false) (first : Option Element) :
    compact predicate kept (first :: gap) (element :: rest) =
      compact predicate (kept ++ [some element]) (gap ++ [none]) rest := by
  simp only [compact, answer]

section Loop

variable {slots : Slots Element} {remaining result index : Nat}
  (here : slots[index]? = some (some element))

include here

theorem removeIfFrom_threw (answer : predicate element = .error failure) :
    removeIfFrom predicate (remaining + 1) result index slots =
      .threw failure slots := by
  simp only [removeIfFrom, here, answer]

theorem removeIfFrom_removed (answer : predicate element = .ok true) :
    removeIfFrom predicate (remaining + 1) result index slots =
      removeIfFrom predicate remaining result (index + 1) slots := by
  simp only [removeIfFrom, here, answer]

theorem removeIfFrom_kept (answer : predicate element = .ok false) :
    removeIfFrom predicate (remaining + 1) result index slots =
      removeIfFrom predicate remaining (result + 1) (index + 1)
        (if result = index then slots
        else moveTo slots result index element) := by
  simp only [removeIfFrom, here, answer]

end Loop

/-- The loop over the indices works on the three parts. -/
theorem removeIfFrom_eq_compact :
    removeIfFrom predicate rest.length kept.length (kept.length + gap.length)
        (kept ++ gap ++ rest.map some) =
      compact predicate kept gap rest := by
  induction rest generalizing kept gap with
  | nil =>
      rw [List.map_nil, List.append_nil]
      rfl
  | cons element rest induction =>
      have here :
          (kept ++ gap ++ (element :: rest).map some)[
              kept.length + gap.length]? = some (some element) := by
        rw [← List.length_append, List.getElem?_append_right (Nat.le_refl _),
          Nat.sub_self, List.map_cons, List.getElem?_cons_zero]
      rw [List.length_cons]
      cases answer : predicate element with
      | error failure =>
          rw [removeIfFrom_threw here answer, compact_threw answer]
          rfl
      | ok done =>
          cases done with
          | true =>
              rw [removeIfFrom_removed here answer, compact_removed answer,
                ← induction]
              simp [Nat.add_assoc]
          | false =>
              rw [removeIfFrom_kept here answer]
              cases gap with
              | nil =>
                  rw [compact_kept answer, ← induction]
                  simp
              | cons first others =>
                  have apart :
                      kept.length ≠ kept.length + (first :: others).length := by
                    simp
                  rw [compact_moved answer, ← induction, List.map_cons,
                    if_neg apart, moveTo_gap]
                  congr 1
                  · simp
                  · simp
                    omega

theorem removeIf_eq_compact (elements : List Element) :
    removeIf predicate (elements.map some) =
      compact predicate [] [] elements := by
  rw [removeIf, List.length_map]
  exact @removeIfFrom_eq_compact _ _ predicate [] [] elements

/-! ## What is left -/

/-- The elements that the predicate does not report, up to an exception. -/
def unreported (predicate : Element → Except Failure Bool) :
    List Element → List Element
  | [] => []
  | element :: rest =>
      match predicate element with
      | .error _ => element :: rest
      | .ok true => unreported predicate rest
      | .ok false => element :: unreported predicate rest

/-- The predicate returns for all of the elements. -/
def AllReturn
    (predicate : Element → Except Failure Bool) (elements : List Element) :
    Prop :=
  ∀ element ∈ elements, ∃ answer, predicate element = .ok answer

/-- No element that is kept comes after one that is not. -/
def KeptFirst
    (predicate : Element → Except Failure Bool) (elements : List Element) :
    Prop :=
  elements.Pairwise fun first second =>
    predicate first = .ok true → predicate second = .ok true

theorem compact_of_allReturn (returns : AllReturn predicate rest) :
    ∃ result slots,
      compact predicate kept gap rest = .returned result slots ∧
        slots.take result = kept ++ (unreported predicate rest).map some := by
  induction rest generalizing kept gap with
  | nil =>
      refine ⟨kept.length, kept ++ gap, rfl, ?_⟩
      rw [List.take_left', unreported, List.map_nil, List.append_nil]
      rfl
  | cons element rest induction =>
      rcases List.forall_mem_cons.mp returns with ⟨⟨done, answer⟩, others⟩
      cases done with
      | true =>
          rw [compact_removed answer]
          simp only [unreported, answer]
          exact induction others
      | false =>
          have same :
              kept ++ (unreported predicate (element :: rest)).map some =
                kept ++ [some element] ++
                  (unreported predicate rest).map some := by
            simp [unreported, answer]
          rw [same]
          cases gap with
          | nil =>
              rw [compact_kept answer]
              exact induction others
          | cons first gap =>
              rw [compact_moved answer]
              exact induction others

/-- Elements that are removed only widen the gap. -/
theorem compact_of_removed
    (removed : ∀ element ∈ called, predicate element = .ok true)
    (throws : predicate thrower = .error failure) :
    compact predicate kept gap (called ++ thrower :: later) =
      .threw failure
        (kept ++ gap ++ (called ++ thrower :: later).map some) := by
  induction called generalizing gap with
  | nil => exact compact_threw throws
  | cons element called induction =>
      rcases List.forall_mem_cons.mp removed with ⟨answer, others⟩
      rw [List.cons_append, compact_removed answer, induction others]
      simp

/-- Where no kept element comes late, nothing has moved. -/
theorem compact_of_keptFirst
    (returns : AllReturn predicate called)
    (ordered : KeptFirst predicate called)
    (throws : predicate thrower = .error failure) :
    compact predicate kept [] (called ++ thrower :: later) =
      .threw failure (kept ++ (called ++ thrower :: later).map some) := by
  induction called generalizing kept with
  | nil =>
      rw [List.nil_append, compact_threw throws, List.append_nil]
      rfl
  | cons element called induction =>
      rcases List.forall_mem_cons.mp returns with ⟨⟨done, answer⟩, others⟩
      rcases List.pairwise_cons.mp ordered with ⟨first, rest⟩
      rw [List.cons_append]
      cases done with
      | true =>
          have removed : ∀ element ∈ called, predicate element = .ok true :=
            fun element member => first element member answer
          rw [compact_removed answer, compact_of_removed removed throws]
          simp
      | false =>
          rw [compact_kept answer, induction others rest]
          simp

/-- A null pointer in the gap stays there. -/
theorem compact_of_null
    (returns : AllReturn predicate called) (null : none ∈ gap)
    (throws : predicate thrower = .error failure) :
    ∃ slots,
      compact predicate kept gap (called ++ thrower :: later) =
          .threw failure slots ∧
        none ∈ slots := by
  induction called generalizing kept gap with
  | nil =>
      refine ⟨_, compact_threw throws, ?_⟩
      exact List.mem_append_left _ (List.mem_append_right _ null)
  | cons element called induction =>
      rcases List.forall_mem_cons.mp returns with ⟨⟨done, answer⟩, others⟩
      rw [List.cons_append]
      cases done with
      | true =>
          rw [compact_removed answer]
          exact induction others (List.mem_append_left _ null)
      | false =>
          cases gap with
          | nil => cases null
          | cons first gap =>
              rw [compact_moved answer]
              exact induction others
                (List.mem_append_right _ List.mem_cons_self)

/-- An element that is moved over the gap leaves a null pointer. -/
theorem compact_of_moved
    (returns : AllReturn predicate called) (wide : gap ≠ [])
    (moved : ∃ element ∈ called, predicate element ≠ .ok true)
    (throws : predicate thrower = .error failure) :
    ∃ slots,
      compact predicate kept gap (called ++ thrower :: later) =
          .threw failure slots ∧
        none ∈ slots := by
  induction called generalizing kept gap with
  | nil =>
      rcases moved with ⟨_, impossible, _⟩
      cases impossible
  | cons element called induction =>
      rcases List.forall_mem_cons.mp returns with ⟨⟨done, answer⟩, others⟩
      rw [List.cons_append]
      cases done with
      | true =>
          rw [compact_removed answer]
          apply induction others (List.append_ne_nil_of_left_ne_nil wide _)
          rcases moved with ⟨other, member, kept⟩
          rcases List.mem_cons.mp member with rfl | later
          · exact absurd answer kept
          · exact ⟨other, later, kept⟩
      | false =>
          cases gap with
          | nil => exact absurd rfl wide
          | cons first gap =>
              rw [compact_moved answer]
              exact compact_of_null others
                (List.mem_append_right _ List.mem_cons_self) throws

theorem compact_of_not_keptFirst
    (returns : AllReturn predicate called)
    (late : ¬KeptFirst predicate called)
    (throws : predicate thrower = .error failure) :
    ∃ slots,
      compact predicate kept [] (called ++ thrower :: later) =
          .threw failure slots ∧
        none ∈ slots := by
  induction called generalizing kept with
  | nil => exact absurd List.Pairwise.nil late
  | cons element called induction =>
      rcases List.forall_mem_cons.mp returns with ⟨⟨done, answer⟩, others⟩
      rw [KeptFirst, List.pairwise_cons, not_and_or] at late
      rw [List.cons_append]
      cases done with
      | true =>
          rw [compact_removed answer]
          apply compact_of_moved others (List.cons_ne_nil _ _) _ throws
          rcases late with first | rest
          · push Not at first
            rcases first with ⟨other, member, _, kept⟩
            exact ⟨other, member, kept⟩
          · by_contra none
            push Not at none
            apply rest
            exact List.pairwise_of_forall_mem_list fun _ _ other member _ =>
              none other member
      | false =>
          rw [compact_kept answer]
          rcases late with first | rest
          · exact absurd (fun _ _ done => by rw [answer] at done; cases done)
              first
          · exact induction others rest

end Parts

end KafkaToNexus.Foundations.Compaction
