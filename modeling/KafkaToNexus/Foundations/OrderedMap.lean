import Mathlib.Data.List.Perm.Basic
import Mathlib.Order.Basic
import Mathlib.Order.Lattice

/-!
# Maps as lists in the order of their keys

A map is the list of its entries, in the order of the keys, so that the entry
with the smallest key is the first one.
-/

namespace KafkaToNexus.Foundations

abbrev OrderedMap (Key Value : Type*) := List (Key × Value)

namespace OrderedMap

variable {Key Value : Type*} [LinearOrder Key]

def find (map : OrderedMap Key Value) (key : Key) : Option Value :=
  map.lookup key

/-- Insert a value under a new key. -/
def insert (key : Key) (value : Value) :
    OrderedMap Key Value → OrderedMap Key Value
  | [] => [(key, value)]
  | entry :: rest =>
      if key < entry.1 then (key, value) :: entry :: rest
      else entry :: insert key value rest

/-- Change the value under a key in its place. -/
def modify (map : OrderedMap Key Value) (key : Key) (change : Value → Value) :
    OrderedMap Key Value :=
  map.map fun entry =>
    if entry.1 = key then (entry.1, change entry.2) else entry

/-- Give a key a value, whether or not it has one already. -/
def assign (map : OrderedMap Key Value) (key : Key) (value : Value) :
    OrderedMap Key Value :=
  match map.find key with
  | none => insert key value map
  | some _ => map.modify key fun _ => value

/-- The keys increase along the list. -/
def Sorted (map : OrderedMap Key Value) : Prop :=
  map.Pairwise fun first second => first.1 < second.1

variable {map : OrderedMap Key Value} {key other : Key} {value : Value}

theorem find_cons {entry : Key × Value} :
    find (entry :: map) key =
      if key = entry.1 then some entry.2 else find map key := by
  rw [find, List.lookup_cons]
  split
  · rename_i same
    rw [if_pos (eq_of_beq same)]
  · rename_i differs
    rw [if_neg (beq_eq_false_iff_ne.mp differs)]
    rfl

theorem find_eq_none :
    map.find key = none ↔ ∀ entry ∈ map, entry.1 ≠ key := by
  induction map with
  | nil => simp [find]
  | cons entry rest induction =>
      rw [find_cons]
      split
      · rename_i same
        simp [same]
      · rename_i differs
        rw [induction, List.forall_mem_cons]
        constructor
        · intro others
          exact ⟨Ne.symm differs, others⟩
        · intro all
          exact all.2

theorem mem_of_find (found : map.find key = some value) :
    (key, value) ∈ map := by
  induction map with
  | nil => cases found
  | cons entry rest induction =>
      rw [find_cons] at found
      split at found
      · rename_i same
        cases found
        rw [same]
        exact List.mem_cons_self
      · exact List.mem_cons_of_mem _ (induction found)

/-! ## Insertion -/

theorem insert_perm :
    (insert key value map).Perm ((key, value) :: map) := by
  induction map with
  | nil => exact .refl _
  | cons entry rest induction =>
      rw [insert]
      split
      · exact .refl _
      · exact (induction.cons entry).trans (.swap _ _ _)

theorem mem_insert {entry : Key × Value} :
    entry ∈ insert key value map ↔ entry = (key, value) ∨ entry ∈ map := by
  rw [insert_perm.mem_iff, List.mem_cons]

theorem Sorted.insert
    (sorted : map.Sorted) (new : map.find key = none) :
    (insert key value map).Sorted := by
  induction map with
  | nil => exact List.pairwise_singleton _ _
  | cons entry rest induction =>
      rcases List.pairwise_cons.mp sorted with ⟨first, others⟩
      have differs := (find_eq_none.mp new) entry List.mem_cons_self
      have newInRest : find rest key = none :=
        find_eq_none.mpr fun other member =>
          find_eq_none.mp new other (List.mem_cons_of_mem _ member)
      rw [OrderedMap.insert]
      split
      · rename_i before
        rw [Sorted, List.pairwise_cons]
        refine ⟨?_, sorted⟩
        intro other member
        rcases List.mem_cons.mp member with rfl | later
        · exact before
        · exact lt_trans before (first other later)
      · rename_i behind
        rw [Sorted, List.pairwise_cons]
        refine ⟨?_, induction others newInRest⟩
        intro other member
        rcases mem_insert.mp member with rfl | later
        · exact lt_of_le_of_ne (not_lt.mp behind) differs
        · exact first other later

theorem find_insert_self (new : map.find key = none) :
    (insert key value map).find key = some value := by
  induction map with
  | nil => rw [insert, find_cons, if_pos rfl]
  | cons entry rest induction =>
      have differs := (find_eq_none.mp new) entry List.mem_cons_self
      have newInRest : find rest key = none :=
        find_eq_none.mpr fun other member =>
          find_eq_none.mp new other (List.mem_cons_of_mem _ member)
      rw [insert]
      split
      · rw [find_cons, if_pos rfl]
      · rw [find_cons, if_neg (Ne.symm differs), induction newInRest]

theorem find_insert_of_ne (differs : other ≠ key) :
    (insert key value map).find other = map.find other := by
  induction map with
  | nil => rw [insert, find_cons, if_neg differs]
  | cons entry rest induction =>
      rw [insert]
      split
      · rw [find_cons, if_neg differs]
      · rw [find_cons, find_cons, induction]

/-! ## Changes -/

theorem modify_cons {entry : Key × Value} (change : Value → Value) :
    modify (entry :: map) key change =
      (if entry.1 = key then (entry.1, change entry.2) else entry) ::
        modify map key change :=
  rfl

theorem find_modify_self (change : Value → Value) :
    (map.modify key change).find key = (map.find key).map change := by
  induction map with
  | nil => rfl
  | cons entry rest induction =>
      rw [modify_cons, find_cons, find_cons, induction]
      by_cases same : entry.1 = key
      · simp [same]
      · rw [if_neg same, if_neg (Ne.symm same), if_neg (Ne.symm same)]

theorem find_modify_of_ne (differs : other ≠ key) (change : Value → Value) :
    (map.modify key change).find other = map.find other := by
  induction map with
  | nil => rfl
  | cons entry rest induction =>
      rw [modify_cons, find_cons, find_cons, induction]
      by_cases same : entry.1 = key
      · rw [if_pos same]
        simp [same, differs]
      · rw [if_neg same]

/-- What does not depend on the changed part of the values is kept. -/
theorem map_modify {Result : Type*} (view : Key × Value → Result)
    (change : Value → Value)
    (same : ∀ entry ∈ map, entry.1 = key →
      view (entry.1, change entry.2) = view entry) :
    (map.modify key change).map view = map.map view := by
  rw [modify, List.map_map]
  apply List.map_congr_left
  intro entry member
  rw [Function.comp_apply]
  split
  · rename_i here
    exact same entry member here
  · rfl

/-- Two changes in a row are one change. -/
theorem modify_modify (first second : Value → Value) :
    (map.modify key first).modify key second =
      map.modify key fun value => second (first value) := by
  rw [modify, modify, modify, List.map_map]
  apply List.map_congr_left
  intro entry _
  rw [Function.comp_apply]
  by_cases here : entry.1 = key
  · simp [here]
  · simp [here]

/-- The entries of a changed map are the others and the changed one. -/
theorem mem_modify {entry : Key × Value} {change : Value → Value}
    (member : entry ∈ map.modify key change) :
    entry ∈ map ∧ entry.1 ≠ key ∨
      entry.1 = key ∧ ∃ old, (key, old) ∈ map ∧ entry.2 = change old := by
  rcases List.mem_map.mp member with ⟨old, present, same⟩
  split at same
  · rename_i here
    subst same
    refine Or.inr ⟨here, old.2, ?_, rfl⟩
    rw [← here]
    exact present
  · rename_i elsewhere
    subst same
    exact Or.inl ⟨present, elsewhere⟩

/-- In a sorted map an entry is what is found under its key. -/
theorem Sorted.find_of_mem
    (sorted : map.Sorted) (member : (key, value) ∈ map) :
    map.find key = some value := by
  induction map with
  | nil => cases member
  | cons entry rest induction =>
      rcases List.pairwise_cons.mp sorted with ⟨first, others⟩
      rw [find_cons]
      rcases List.mem_cons.mp member with same | later
      · rw [← same, if_pos rfl]
      · rw [if_neg (ne_of_gt (first _ later)), induction others later]

/-- Changes of the values leave the order of the keys as it is. -/
theorem Sorted.modify
    (sorted : map.Sorted) (change : Value → Value) :
    (map.modify key change).Sorted := by
  apply List.pairwise_map.mpr
  apply sorted.imp
  intro first second before
  split <;> split <;> exact before

/-! ## Assignments -/

theorem find_assign :
    (map.assign key value).find other =
      if other = key then some value else map.find other := by
  rw [assign]
  split
  · rename_i new
    split
    · rename_i same
      rw [same, find_insert_self new]
    · rename_i differs
      rw [find_insert_of_ne differs]
  · rename_i old found
    split
    · rename_i same
      rw [same, find_modify_self, found, Option.map_some]
    · rename_i differs
      rw [find_modify_of_ne differs]

theorem Sorted.assign (sorted : map.Sorted) :
    (map.assign key value).Sorted := by
  rw [OrderedMap.assign]
  split
  · rename_i new
    exact sorted.insert new
  · exact sorted.modify _

/-- In a sorted map the entries are those that are found. -/
theorem Sorted.mem_iff (sorted : map.Sorted) :
    (key, value) ∈ map ↔ map.find key = some value := by
  constructor
  · exact sorted.find_of_mem
  · exact mem_of_find

end OrderedMap

end KafkaToNexus.Foundations
