import KafkaToNexus.Foundations.Extremes
import KafkaToNexus.HDFOperations.NestedArrays
import KafkaToNexus.MultiVector

/-!
# The dimensions of a JSON array

The arrays of a JSON value are visited from left to right.  Each one raises the
dimension of its depth to its length, and the first one that is reached at some
depth adds the dimension.
-/

namespace KafkaToNexus.HDFOperations

open Foundations

variable {Real : Type}

/-- What an array of some size does to the dimension of its level. -/
def raiseDimension (dimensions : Shape) (currentLevel size : Nat) :
    ArrayCode Shape := do
  let dimensions :=
    if dimensions.length < currentLevel + 1 then dimensions ++ [0]
    else dimensions
  let current ← atElement dimensions currentLevel
  pure
    (if current < size then dimensions.set currentLevel size else dimensions)

mutual

def findInnerSize (dimensions : Shape) (currentLevel : Nat) :
    JsonValue Real → ArrayCode Shape
  | .array items => do
      let dimensions ← raiseDimension dimensions currentLevel items.length
      findInnerSizes dimensions (currentLevel + 1) items
  | _ => pure dimensions

/-- The loop over the elements of an array. -/
def findInnerSizes (dimensions : Shape) (currentLevel : Nat) :
    List (JsonValue Real) → ArrayCode Shape
  | [] => pure dimensions
  | element :: elements => do
      let dimensions ← findInnerSize dimensions currentLevel element
      findInnerSizes dimensions currentLevel elements

end

def determineArrayDimensions (values : JsonValue Real) : ArrayCode Shape :=
  if values.isArray then findInnerSize [] 0 values else pure [1]

/-! ## What is found -/

variable {value : JsonValue Real} {items : List (JsonValue Real)}
  {dimensions : Shape} {lengths : Nat → Set Nat} {level : Nat}

/-- The dimension is the greatest length before or the new one. -/
theorem raiseDimension_eq
    (greatest : GreatestOfEach dimensions lengths)
    (reached : level ≤ dimensions.length) (size : Nat) :
    ∃ raised, raiseDimension dimensions level size = pure raised ∧
      level + 1 ≤ raised.length ∧
      GreatestOfEach raised
        (Function.update lengths level (insert size (lengths level))) := by
  by_cases present : level < dimensions.length
  · have there := List.getElem?_eq_getElem present
    have raised :
        (if dimensions[level] < size then dimensions.set level size
          else dimensions) =
            dimensions.set level (max size dimensions[level]) := by
      split_ifs with greater
      · rw [max_eq_left greater.le]
      · rw [max_eq_right (not_lt.mp greater), List.set_getElem_self]
    refine ⟨_, ?_, ?_, greatest.set there size⟩
    · rw [raiseDimension, if_neg (by omega)]
      simp only [atElement, there, pure_bind, raised]
    · rw [List.length_set]
      exact present
  · obtain rfl : level = dimensions.length :=
      Nat.le_antisymm reached (not_lt.mp present)
    have there : (dimensions ++ [0])[dimensions.length]? = some 0 :=
      List.getElem?_concat_length
    have raised :
        (if 0 < size then (dimensions ++ [0]).set dimensions.length size
          else dimensions ++ [0]) = dimensions ++ [size] := by
      split_ifs with some_
      · rw [List.set_append_right _ _ (Nat.le_refl _), Nat.sub_self]
        rfl
      · rw [Nat.eq_zero_of_not_pos some_]
    refine ⟨_, ?_, ?_, greatest.concat size⟩
    · rw [raiseDimension, if_pos (Nat.lt_succ_self _)]
      simp only [atElement, there, pure_bind, raised]
    · rw [List.length_append, List.length_singleton]

theorem findInnerSize_of_leaf
    (notArray : value.isArray = false) (dimensions : Shape) (level : Nat) :
    findInnerSize dimensions level value = pure dimensions := by
  cases value with
  | array items => cases notArray
  | _ => rfl

/-- The lengths of arrays at each depth below a level. -/
def lengthsBelow (level : Nat) (values : List (JsonValue Real))
    (depth : Nat) : Set Nat :=
  {length | level ≤ depth ∧
    ∃ value ∈ values, value.HasArray (depth - level) length}

/-- The length of an array comes to the lengths below it. -/
theorem lengthsBelow_array (items : List (JsonValue Real)) :
    (fun depth =>
      Function.update lengths level
          (insert items.length (lengths level)) depth ∪
        lengthsBelow (level + 1) items depth) =
      fun depth => lengths depth ∪ lengthsBelow level [.array items] depth := by
  funext depth
  ext length
  rcases Nat.lt_trichotomy depth level with before | rfl | behind
  · have above : ¬level ≤ depth := by omega
    have above' : ¬level + 1 ≤ depth := by omega
    simp [lengthsBelow, Function.update_of_ne before.ne, above, above']
  · have above : ¬depth + 1 ≤ depth := by omega
    simp [lengthsBelow, above, JsonValue.hasArray_zero_iff, eq_comm,
      or_comm]
  · obtain ⟨more, rfl⟩ : ∃ more, depth = level + 1 + more :=
      ⟨depth - (level + 1), by omega⟩
    have steps : level + 1 + more - level = more + 1 := by omega
    have within : level ≤ level + 1 + more := by omega
    simp [lengthsBelow, Function.update_of_ne behind.ne', within, steps,
      JsonValue.hasArray_succ_iff]

theorem lengthsBelow_cons (level : Nat) (value : JsonValue Real)
    (values : List (JsonValue Real)) (depth : Nat) :
    lengthsBelow level (value :: values) depth =
      lengthsBelow level [value] depth ∪ lengthsBelow level values depth := by
  ext length
  simp only [lengthsBelow, Set.mem_union, Set.mem_ofPred_eq, ← and_or_left,
    List.exists_mem_cons_iff, List.not_mem_nil, false_and, exists_false,
    or_false]

/-- A value raises every dimension to the lengths of its arrays. -/
def RaisesDimensions (value : JsonValue Real) : Prop :=
  ∀ (level : Nat) (dimensions : Shape) (lengths : Nat → Set Nat),
    GreatestOfEach dimensions lengths → level ≤ dimensions.length →
      ∃ found, findInnerSize dimensions level value = pure found ∧
        level ≤ found.length ∧
        GreatestOfEach found
          (fun depth => lengths depth ∪ lengthsBelow level [value] depth)

/-- The elements raise the dimensions one after the other. -/
theorem findInnerSizes_eq
    (each : ∀ item ∈ items, RaisesDimensions item)
    (greatest : GreatestOfEach dimensions lengths)
    (reached : level ≤ dimensions.length) :
    ∃ found, findInnerSizes dimensions level items = pure found ∧
      level ≤ found.length ∧
      GreatestOfEach found
        (fun depth => lengths depth ∪ lengthsBelow level items depth) := by
  induction items generalizing dimensions lengths with
  | nil =>
      refine ⟨dimensions, rfl, reached, ?_⟩
      have nothing (depth : Nat) :
          lengthsBelow level ([] : List (JsonValue Real)) depth = ∅ := by
        ext length
        simp [lengthsBelow]
      simp only [nothing, Set.union_empty]
      exact greatest
  | cons item items induction =>
      rw [List.forall_mem_cons] at each
      rcases each.1 level dimensions lengths greatest reached with
        ⟨next, computed, still, raised⟩
      rcases induction each.2 raised still with ⟨found, rest, long, all⟩
      refine ⟨found, ?_, long, ?_⟩
      · rw [findInnerSizes, computed, pure_bind, rest]
      · simp only [Set.union_assoc, ← lengthsBelow_cons] at all
        exact all

theorem raisesDimensions (value : JsonValue Real) :
    RaisesDimensions value := by
  induction value using JsonValue.arrayInduction with
  | leaf value notArray =>
      intro level dimensions lengths greatest reached
      refine
        ⟨dimensions, findInnerSize_of_leaf notArray dimensions level,
          reached, ?_⟩
      have nothing (depth : Nat) : lengthsBelow level [value] depth = ∅ := by
        ext length
        simp [lengthsBelow, JsonValue.not_hasArray_of_leaf notArray]
      simp only [nothing, Set.union_empty]
      exact greatest
  | array items induction =>
      intro level dimensions lengths greatest reached
      rcases raiseDimension_eq greatest reached items.length with
        ⟨raised, computed, deeper, longer⟩
      rcases findInnerSizes_eq induction longer deeper with
        ⟨found, rest, long, all⟩
      rw [lengthsBelow_array] at all
      refine ⟨found, ?_, (Nat.le_succ level).trans long, all⟩
      rw [findInnerSize, computed, pure_bind, rest]

/--
The dimensions of an array are the greatest lengths of the arrays at each depth,
as far as there are arrays.
-/
theorem determineArrayDimensions_eq (items : List (JsonValue Real)) :
    ∃ found, determineArrayDimensions (.array items) = pure found ∧
      GreatestOfEach found
        (fun depth =>
          {length | (JsonValue.array items).HasArray depth length}) := by
  have nothing :
      GreatestOfEach ([] : Shape) (fun _ => (∅ : Set Nat)) := by
    constructor
    · intro depth size there
      cases there
    · intro depth _
      rfl
  rcases
      raisesDimensions (.array items) 0 [] (fun _ => ∅) nothing
        (Nat.le_refl 0)
    with ⟨found, computed, _, greatest⟩
  refine ⟨found, computed, ?_⟩
  simp only [lengthsBelow, Nat.zero_le, true_and, List.mem_singleton,
    exists_eq_left, Nat.sub_zero, Set.empty_union] at greatest
  exact greatest

end KafkaToNexus.HDFOperations
