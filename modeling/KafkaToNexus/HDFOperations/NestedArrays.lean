import KafkaToNexus.Foundations.Boxes
import KafkaToNexus.JsonValue
import Mathlib.Tactic.TypeStar

/-!
# Arrays of arrays in a JSON value

An index path leads from a value into the arrays below it, and ends at an array
or at a leaf, which is any other value.  The leaves are listed from left to
right, each with its path.  A path is extended with zeros to the rank of an
array of numbers; no two leaves then get the same position.
-/

namespace KafkaToNexus.JsonValue

open Foundations

variable {Real : Type}

/-- Induction on how deep arrays are nested. -/
@[elab_as_elim]
theorem arrayInduction
    {motive : JsonValue Real → Prop}
    (leaf : ∀ value, value.isArray = false → motive value)
    (array :
      ∀ items, (∀ item ∈ items, motive item) → motive (.array items))
    (value : JsonValue Real) :
    motive value := by
  apply
    @JsonValue.rec Real motive (fun items => ∀ item ∈ items, motive item)
      (fun _ => True) (fun _ => True)
  case array => exact array
  case nil =>
    intro item member
    cases member
  case cons =>
    intro item items first others
    exact List.forall_mem_cons.mpr ⟨first, others⟩
  all_goals intros
  all_goals first | exact trivial | exact leaf _ rfl

/-! ## Paths -/

/-- The value that a path of indices leads to. -/
def valueAt : List Nat → JsonValue Real → Option (JsonValue Real)
  | [], value => some value
  | index :: path, value => value.items[index]?.bind (valueAt path)

/-- The path leads to a value that is not an array. -/
def IsLeaf (value : JsonValue Real) (path : List Nat)
    (leaf : JsonValue Real) : Prop :=
  value.valueAt path = some leaf ∧ leaf.isArray = false

/-- There is an array of some length at a depth. -/
def HasArray (value : JsonValue Real) (depth length : Nat) : Prop :=
  ∃ path items, path.length = depth ∧
    value.valueAt path = some (.array items) ∧ items.length = length

variable {value leaf item : JsonValue Real} {items : List (JsonValue Real)}
  {path : List Nat}

theorem valueAt_cons_of_leaf
    (notArray : value.isArray = false) (index : Nat) (path : List Nat) :
    value.valueAt (index :: path) = none := by
  cases value with
  | array items => cases notArray
  | _ => rfl

/-- A value that is not an array is its only leaf. -/
theorem isLeaf_of_leaf_iff (notArray : value.isArray = false) :
    IsLeaf value path leaf ↔ path = [] ∧ leaf = value := by
  constructor
  · rintro ⟨leads, _⟩
    cases path with
    | nil => exact ⟨rfl, (Option.some.inj leads).symm⟩
    | cons index path =>
        rw [valueAt_cons_of_leaf notArray] at leads
        cases leads
  · rintro ⟨rfl, rfl⟩
    exact ⟨rfl, notArray⟩

/-- A leaf of an array is a leaf of one of its items. -/
theorem isLeaf_array_iff :
    IsLeaf (.array items) path leaf ↔
      ∃ index rest item,
        path = index :: rest ∧ items[index]? = some item ∧
          IsLeaf item rest leaf := by
  constructor
  · rintro ⟨leads, notArray⟩
    cases path with
    | nil =>
        cases leads
        cases notArray
    | cons index rest =>
        rcases Option.bind_eq_some_iff.mp leads with ⟨item, there, leads⟩
        exact ⟨index, rest, item, rfl, there, leads, notArray⟩
  · rintro ⟨index, rest, item, rfl, there, leads, notArray⟩
    exact ⟨Option.bind_eq_some_iff.mpr ⟨item, there, leads⟩, notArray⟩

theorem not_hasArray_of_leaf
    (notArray : value.isArray = false) (depth length : Nat) :
    ¬HasArray value depth length := by
  rintro ⟨path, items, _, leads, _⟩
  cases path with
  | nil =>
      cases leads
      cases notArray
  | cons index path =>
      rw [valueAt_cons_of_leaf notArray] at leads
      cases leads

theorem hasArray_zero_iff {length : Nat} :
    HasArray (.array items) 0 length ↔ items.length = length := by
  constructor
  · rintro ⟨path, items, rank, leads, same⟩
    rw [List.length_eq_zero_iff] at rank
    subst rank
    cases leads
    exact same
  · intro same
    exact ⟨[], items, rfl, rfl, same⟩

theorem hasArray_succ_iff {depth length : Nat} :
    HasArray (.array items) (depth + 1) length ↔
      ∃ item ∈ items, HasArray item depth length := by
  constructor
  · rintro ⟨path, inner, rank, leads, same⟩
    cases path with
    | nil => cases rank
    | cons index path =>
        rcases Option.bind_eq_some_iff.mp leads with ⟨item, there, leads⟩
        exact
          ⟨item, List.mem_of_getElem? there, path, inner,
            Nat.succ.inj rank, leads, same⟩
  · rintro ⟨item, member, path, inner, rank, leads, same⟩
    rcases List.getElem?_of_mem member with ⟨index, there⟩
    refine ⟨index :: path, inner, congrArg Nat.succ rank, ?_, same⟩
    exact Option.bind_eq_some_iff.mpr ⟨item, there, leads⟩

/-! ## The leaves from left to right -/

mutual

def leaves : JsonValue Real → List (List Nat × JsonValue Real)
  | .array items => leavesFrom 0 items
  | value => [([], value)]

/-- The leaves of items, the first of which has this index. -/
def leavesFrom :
    Nat → List (JsonValue Real) → List (List Nat × JsonValue Real)
  | _, [] => []
  | index, item :: items =>
      item.leaves.map (fun leaf => (index :: leaf.1, leaf.2)) ++
        leavesFrom (index + 1) items

end

theorem leaves_of_leaf (notArray : value.isArray = false) :
    value.leaves = [([], value)] := by
  cases value with
  | array items => cases notArray
  | _ => rfl

theorem mem_leavesFrom_iff {start : Nat} :
    (path, leaf) ∈ leavesFrom start items ↔
      ∃ index rest item,
        path = (start + index) :: rest ∧ items[index]? = some item ∧
          (rest, leaf) ∈ item.leaves := by
  induction items generalizing start with
  | nil => simp [leavesFrom]
  | cons item items induction =>
      rw [leavesFrom, List.mem_append, List.mem_map, induction]
      constructor
      · rintro (⟨⟨rest, _⟩, member, same⟩ |
          ⟨index, rest, item, rfl, there, member⟩)
        · cases same
          exact ⟨0, rest, item, rfl, rfl, member⟩
        · refine ⟨index + 1, rest, item, ?_, there, member⟩
          rw [Nat.add_assoc, Nat.add_comm 1]
      · rintro ⟨index, rest, other, rfl, there, member⟩
        cases index with
        | zero =>
            cases there
            exact Or.inl ⟨(rest, leaf), member, rfl⟩
        | succ index =>
            refine Or.inr ⟨index, rest, other, ?_, there, member⟩
            rw [Nat.add_assoc, Nat.add_comm 1]

/-- All leaves are listed with their paths. -/
theorem mem_leaves_iff :
    (path, leaf) ∈ value.leaves ↔ IsLeaf value path leaf := by
  induction value using arrayInduction generalizing path with
  | leaf value notArray =>
      rw [leaves_of_leaf notArray, isLeaf_of_leaf_iff notArray,
        List.mem_singleton, Prod.mk.injEq]
  | array items induction =>
      rw [leaves, mem_leavesFrom_iff, isLeaf_array_iff]
      constructor
      · rintro ⟨index, rest, item, same, there, member⟩
        refine ⟨index, rest, item, ?_, there, ?_⟩
        · rw [same, Nat.zero_add]
        · exact (induction item (List.mem_of_getElem? there)).mp member
      · rintro ⟨index, rest, item, same, there, isLeaf⟩
        refine ⟨index, rest, item, ?_, there, ?_⟩
        · rw [same, Nat.zero_add]
        · exact (induction item (List.mem_of_getElem? there)).mpr isLeaf

/-! ## Positions of the leaves -/

/-- A path that is extended with zeros to the full rank. -/
def extendPath (rank : Nat) (path : List Nat) : List Nat :=
  path ++ List.replicate (rank - path.length) 0

theorem extendPath_cons (rank index : Nat) (path : List Nat) :
    extendPath (rank + 1) (index :: path) =
      index :: extendPath rank path := by
  rw [extendPath, extendPath, List.length_cons, Nat.add_sub_add_right]
  rfl

theorem extendPath_injective
    {other : List Nat} {otherLeaf : JsonValue Real} {rank : Nat}
    (isLeaf : IsLeaf value path leaf)
    (otherIsLeaf : IsLeaf value other otherLeaf)
    (short : path.length ≤ rank) (otherShort : other.length ≤ rank)
    (same : extendPath rank path = extendPath rank other) :
    path = other := by
  induction path generalizing value other rank with
  | nil =>
      rcases isLeaf with ⟨⟨⟩, notArray⟩
      exact ((isLeaf_of_leaf_iff notArray).mp otherIsLeaf).1.symm
  | cons index path induction =>
      cases other with
      | nil =>
          rcases otherIsLeaf with ⟨⟨⟩, notArray⟩
          exact ((isLeaf_of_leaf_iff notArray).mp isLeaf).1
      | cons otherIndex other =>
          rcases rank with _ | rank
          · cases short
          rw [extendPath_cons, extendPath_cons, List.cons.injEq] at same
          rcases same with ⟨rfl, same⟩
          rcases Option.bind_eq_some_iff.mp isLeaf.1 with
            ⟨item, there, leads⟩
          rcases Option.bind_eq_some_iff.mp otherIsLeaf.1 with
            ⟨otherItem, otherThere, otherLeads⟩
          obtain rfl : item = otherItem :=
            Option.some.inj (there.symm.trans otherThere)
          rw [induction ⟨leads, isLeaf.2⟩ ⟨otherLeads, otherIsLeaf.2⟩
            (Nat.le_of_succ_le_succ short)
            (Nat.le_of_succ_le_succ otherShort) same]

/-- No array is longer than the dimension of its depth. -/
def BoundedBy (dims : List Nat) (value : JsonValue Real) : Prop :=
  ∀ depth length, HasArray value depth length →
    ∃ size, dims[depth]? = some size ∧ length ≤ size

theorem BoundedBy.inner
    {size : Nat} {dims : List Nat}
    (bounded : BoundedBy (size :: dims) (.array items))
    (member : item ∈ items) :
    BoundedBy dims item := by
  intro depth length array
  exact bounded (depth + 1) length (hasArray_succ_iff.mpr ⟨item, member, array⟩)

theorem BoundedBy.length_le
    {size : Nat} {dims : List Nat}
    (bounded : BoundedBy (size :: dims) (.array items)) :
    items.length ≤ size := by
  rcases bounded 0 items.length (hasArray_zero_iff.mpr rfl) with
    ⟨_, ⟨⟩, fits⟩
  exact fits

theorem BoundedBy.ranked
    {dims : List Nat} (bounded : BoundedBy dims (.array items)) :
    ∃ size rest, dims = size :: rest := by
  rcases bounded 0 items.length (hasArray_zero_iff.mpr rfl) with
    ⟨size, there, _⟩
  cases dims with
  | nil => cases there
  | cons size rest => exact ⟨size, rest, rfl⟩

/-- A leaf is in the array, at its path extended with zeros. -/
theorem IsLeaf.position_isSome
    {dims : List Nat}
    (isLeaf : IsLeaf value path leaf) (bounded : BoundedBy dims value)
    (positive : ∀ size ∈ dims, 0 < size) :
    path.length ≤ dims.length ∧
      (Boxes.position (dims.map fun _ => 0) dims
        (extendPath dims.length path)).isSome := by
  induction path generalizing value dims with
  | nil =>
      refine ⟨Nat.zero_le _, ?_⟩
      clear bounded
      induction dims with
      | nil => rfl
      | cons size dims induction =>
          rw [List.forall_mem_cons] at positive
          exact
            Boxes.position_array_isSome_iff.mpr
              ⟨positive.1, induction positive.2⟩
  | cons index path induction =>
      cases value with
      | array items =>
          rcases isLeaf_array_iff.mp isLeaf with
            ⟨_, _, item, ⟨⟩, there, itemLeaf⟩
          rcases bounded.ranked with ⟨size, rest, rfl⟩
          rw [List.forall_mem_cons] at positive
          rcases
              induction itemLeaf (bounded.inner (List.mem_of_getElem? there))
                positive.2
            with ⟨short, inside⟩
          refine ⟨Nat.succ_le_succ short, ?_⟩
          rw [List.length_cons, extendPath_cons]
          refine Boxes.position_array_isSome_iff.mpr ⟨?_, inside⟩
          calc
            index < items.length := (List.getElem?_eq_some_iff.mp there).1
            _ ≤ size := bounded.length_le
      | _ => cases ((isLeaf_of_leaf_iff rfl).mp isLeaf).1

/-! ## Rectangular arrays -/

/--
All arrays of one depth have the same length, and the leaves are deeper than
every array.
-/
structure Rectangular (value : JsonValue Real) : Prop where
  lengths :
    ∀ depth length other, HasArray value depth length →
      HasArray value depth other → length = other
  depths :
    ∀ path leaf depth length, IsLeaf value path leaf →
      HasArray value depth length → depth < path.length

/-- The leaves of the rows take the positions of the rows. -/
theorem positions_leavesFrom
    {dims : List Nat} {rows start : Nat}
    (each :
      ∀ item ∈ items,
        item.leaves.map
            (fun leaf => Boxes.position (dims.map fun _ => 0) dims leaf.1) =
          (List.range dims.prod).map some)
    (inside : start + items.length ≤ rows) :
    (leavesFrom start items).map
        (fun leaf =>
          Boxes.position ((rows :: dims).map fun _ => 0) (rows :: dims)
            leaf.1) =
      (List.range' (start * dims.prod) (items.length * dims.prod)).map
        some := by
  induction items generalizing start with
  | nil =>
      rw [List.length_nil, Nat.zero_mul]
      rfl
  | cons item items induction =>
      rw [List.forall_mem_cons] at each
      rw [List.length_cons] at inside
      have below : start < rows := by omega
      have first :
          item.leaves.map
              (fun leaf =>
                Boxes.position ((rows :: dims).map fun _ => 0)
                  (rows :: dims) (start :: leaf.1)) =
            (List.range' (start * dims.prod) dims.prod).map some := by
        calc
          _ =
              (item.leaves.map
                (fun leaf =>
                  Boxes.position (dims.map fun _ => 0) dims leaf.1)).map
                (Option.map fun rest => start * dims.prod + rest) := by
            rw [List.map_map]
            exact
              List.map_congr_left
                (fun leaf _ => Boxes.position_array_cons below leaf.1)
          _ =
              ((List.range dims.prod).map
                (fun rest => start * dims.prod + rest)).map some := by
            rw [each.1, List.map_map, List.map_map]
            rfl
          _ = _ := by rw [List.range'_eq_map_range]
      have split :
          List.range' (start * dims.prod) ((items.length + 1) * dims.prod) =
            List.range' (start * dims.prod) dims.prod ++
              List.range' ((start + 1) * dims.prod)
                (items.length * dims.prod) := by
        rw [Nat.succ_mul, Nat.add_comm, Nat.succ_mul, List.range'_append_1]
      rw [leavesFrom, List.map_append, List.map_map,
        induction each.2 (by omega), List.length_cons, split,
        List.map_append, ← first]
      rfl

/-- The leaves of a rectangular array take all positions in order. -/
theorem positions_leaves
    {dims : List Nat}
    (arrays :
      ∀ depth length, HasArray value depth length →
        dims[depth]? = some length)
    (ranked : ∀ path leaf, IsLeaf value path leaf →
      path.length = dims.length) :
    value.leaves.map
        (fun leaf => Boxes.position (dims.map fun _ => 0) dims leaf.1) =
      (List.range dims.prod).map some := by
  induction dims generalizing value with
  | nil =>
      cases value with
      | array items =>
          have there := arrays 0 items.length (hasArray_zero_iff.mpr rfl)
          cases there
      | _ => rfl
  | cons rows dims induction =>
      cases value with
      | array items =>
          have rows_ : rows = items.length :=
            Option.some.inj
              (arrays 0 items.length (hasArray_zero_iff.mpr rfl))
          have each :
              ∀ item ∈ items,
                item.leaves.map
                    (fun leaf =>
                      Boxes.position (dims.map fun _ => 0) dims leaf.1) =
                  (List.range dims.prod).map some := by
            intro item member
            apply induction
            · intro depth length array
              exact
                arrays (depth + 1) length
                  (hasArray_succ_iff.mpr ⟨item, member, array⟩)
            · intro path leaf isLeaf
              rcases List.getElem?_of_mem member with ⟨index, there⟩
              have deep :=
                ranked (index :: path) leaf
                  (isLeaf_array_iff.mpr
                    ⟨index, path, item, rfl, there, isLeaf⟩)
              exact Nat.succ.inj deep
          rw [leaves, positions_leavesFrom each (by omega), Nat.zero_mul,
            ← List.range_eq_range', List.prod_cons, rows_]
      | _ => cases ranked [] _ ((isLeaf_of_leaf_iff rfl).mpr ⟨rfl, rfl⟩)

end KafkaToNexus.JsonValue
