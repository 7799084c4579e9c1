import KafkaToNexus.HDFOperations.ArrayDimensions

/-!
# JSON arrays as arrays with several dimensions

The elements of a JSON array are put into a vector with the dimensions that were
found.  The position is passed on by value; in the arrays below, the index of
each level is counted up from zero.  Each leaf is thus stored at its path,
extended with zeros, and what is left over keeps the default.

A JSON element is converted to the type of the vector by a function that may
throw.
-/

namespace KafkaToNexus.HDFOperations

open Foundations

variable {Real T : Type}

/-- The elements that a loop over a JSON value visits. -/
def elementsOf : JsonValue Real → List (JsonValue Real)
  | .null => []
  | .array items => items
  | .object members => members.map Prod.snd
  | value => [value]

/-- The next index at some level. -/
def incrementAt (currentPosition : Shape) (currentLevel : Nat) :
    ArrayCode Shape :=
  if currentLevel < currentPosition.length then
    pure (currentPosition.modify currentLevel (· + 1))
  else Checked.undefined .outsideOfPosition

section Populate

variable (jsonElementConverter : JsonValue Real → Option T)

/-- The element is converted before its place is looked up. -/
def storeElement (targetVector : MultiVector T) (currentPosition : Shape)
    (element : JsonValue Real) : ArrayCode (MultiVector T) :=
  match jsonElementConverter element with
  | none => throw .conversion
  | some value => do
      let place ← targetVector.at_ currentPosition
      pure { targetVector with data := targetVector.data.set place value }

mutual

def populateElement (targetVector : MultiVector T) (currentPosition : Shape)
    (currentLevel : Nat) : JsonValue Real → ArrayCode (MultiVector T)
  | .array items =>
      populateMultiVector targetVector currentPosition (currentLevel + 1)
        items
  | element =>
      storeElement jsonElementConverter targetVector currentPosition element

def populateMultiVector (targetVector : MultiVector T)
    (currentPosition : Shape) (currentLevel : Nat) :
    List (JsonValue Real) → ArrayCode (MultiVector T)
  | [] => pure targetVector
  | element :: elements => do
      let targetVector ←
        populateElement targetVector currentPosition currentLevel element
      let currentPosition ← incrementAt currentPosition currentLevel
      populateMultiVector targetVector currentPosition currentLevel elements

end

def jsonArrayToMultiArray [Inhabited T] (valueJson : JsonValue Real) :
    ArrayCode (MultiVector T) := do
  let arraySize ← determineArrayDimensions valueJson
  let returnVector ← MultiVector.create arraySize
  populateMultiVector jsonElementConverter returnVector
    (List.replicate arraySize.length 0) 0 (elementsOf valueJson)

end Populate

/-! ## Every leaf is stored once -/

variable {jsonElementConverter : JsonValue Real → Option T}
  {items : List (JsonValue Real)} {value : JsonValue Real}
  {targetVector : MultiVector T} {rank : Nat} {path : List Nat}

/-- Store a leaf that is below a path. -/
def storeLeaf (jsonElementConverter : JsonValue Real → Option T)
    (rank : Nat) (path : List Nat) (targetVector : MultiVector T)
    (leaf : List Nat × JsonValue Real) : ArrayCode (MultiVector T) :=
  storeElement jsonElementConverter targetVector
    (JsonValue.extendPath rank (path ++ leaf.1)) leaf.2

theorem populateElement_of_leaf
    (notArray : value.isArray = false) (currentPosition : Shape)
    (level : Nat) :
    populateElement jsonElementConverter targetVector currentPosition level
        value =
      storeElement jsonElementConverter targetVector currentPosition
        value := by
  cases value with
  | array items => cases notArray
  | _ => rfl

theorem incrementAt_extendPath (index : Nat) :
    incrementAt (JsonValue.extendPath rank (path ++ [index])) path.length =
      pure (JsonValue.extendPath rank (path ++ [index + 1])) := by
  have long :
      path.length <
        (JsonValue.extendPath rank (path ++ [index])).length := by
    rw [JsonValue.extendPath, List.length_append, List.length_append,
      List.length_singleton]
    omega
  rw [incrementAt, if_pos long]
  apply congrArg
  rw [JsonValue.extendPath, JsonValue.extendPath, List.append_assoc,
    List.append_assoc, List.modify]
  have tail :=
    List.modifyTailIdx_add (List.modifyHead (· + 1)) 0 path
      ([index] ++ List.replicate (rank - (path ++ [index]).length) 0)
  rw [Nat.add_zero] at tail
  rw [tail, List.length_append, List.length_append]
  rfl

/-- The position of the first item is that of the array. -/
theorem extendPath_zero (inside : path.length < rank) :
    JsonValue.extendPath rank (path ++ [0]) =
      JsonValue.extendPath rank path := by
  obtain ⟨more, rfl⟩ : ∃ more, rank = path.length + 1 + more :=
    ⟨rank - (path.length + 1), by omega⟩
  have first : path.length + 1 + more - path.length = more + 1 := by omega
  rw [JsonValue.extendPath, JsonValue.extendPath, List.length_append,
    List.length_singleton, Nat.add_sub_cancel_left, first,
    List.append_assoc]
  rfl

/-- The arrays of a value that is at some depth have a level of their own. -/
def Fits (rank depth : Nat) (value : JsonValue Real) : Prop :=
  ∀ further length, value.HasArray further length → depth + further < rank

/-- The leaves of a value are stored one after the other. -/
def StoresLeaves (jsonElementConverter : JsonValue Real → Option T)
    (rank : Nat) (value : JsonValue Real) : Prop :=
  ∀ (path : List Nat) (level : Nat) (targetVector : MultiVector T),
    path.length = level + 1 → Fits rank path.length value →
      populateElement jsonElementConverter targetVector
          (JsonValue.extendPath rank path) level value =
        value.leaves.foldlM (storeLeaf jsonElementConverter rank path)
          targetVector

theorem populateMultiVector_eq
    (each : ∀ item ∈ items, StoresLeaves jsonElementConverter rank item)
    (fits : ∀ item ∈ items, Fits rank (path.length + 1) item)
    (index : Nat) (targetVector : MultiVector T) :
    populateMultiVector jsonElementConverter targetVector
        (JsonValue.extendPath rank (path ++ [index])) path.length items =
      (JsonValue.leavesFrom index items).foldlM
        (storeLeaf jsonElementConverter rank path) targetVector := by
  induction items generalizing index targetVector with
  | nil => rfl
  | cons item items induction =>
      rw [List.forall_mem_cons] at each fits
      have long : (path ++ [index]).length = path.length + 1 := by
        rw [List.length_append, List.length_singleton]
      have first :=
        each.1 (path ++ [index]) path.length targetVector long
          (long ▸ fits.1)
      have below (target : MultiVector T)
          (leaf : List Nat × JsonValue Real) :
          storeLeaf jsonElementConverter rank path target
              (index :: leaf.1, leaf.2) =
            storeLeaf jsonElementConverter rank (path ++ [index]) target
              leaf := by
        rw [storeLeaf, storeLeaf, List.append_assoc]
        rfl
      rw [populateMultiVector, first, JsonValue.leavesFrom,
        List.foldlM_append, List.foldlM_map]
      simp only [below, incrementAt_extendPath, pure_bind,
        induction each.2 fits.2]

theorem storesLeaves (value : JsonValue Real) :
    StoresLeaves jsonElementConverter rank value := by
  induction value using JsonValue.arrayInduction with
  | leaf value notArray =>
      intro path level targetVector _ _
      rw [populateElement_of_leaf notArray, JsonValue.leaves_of_leaf notArray,
        List.foldlM_cons, storeLeaf, List.append_nil]
      simp only [List.foldlM_nil, bind_pure]
  | array items induction =>
      intro path level targetVector deep fits
      have inside : path.length < rank :=
        fits 0 items.length (JsonValue.hasArray_zero_iff.mpr rfl)
      have deeper : ∀ item ∈ items, Fits rank (path.length + 1) item := by
        intro item member further length array
        have room :=
          fits (further + 1) length
            (JsonValue.hasArray_succ_iff.mpr ⟨item, member, array⟩)
        omega
      rw [populateElement, ← deep, ← extendPath_zero inside,
        populateMultiVector_eq induction deeper, JsonValue.leaves]

end KafkaToNexus.HDFOperations
