import Mathlib.Data.List.Nodup
import Mathlib.Data.List.Perm.Basic

/-!
# Objects with one owner

A heap hands out the addresses of its objects in order and never twice.  Using
an object that does not exist any longer, or freeing it again, is a fault.  A
program whose parts own the objects disjointly runs without faults when it
uses and frees what a part owns, and keeps exactly what is owned.
-/

namespace KafkaToNexus.Foundations.Ownership

abbrev Address := Nat

variable {Object : Type*}

/-- All objects that were allocated; those that were freed are `none`. -/
structure Heap (Object : Type*) where
  objects : List (Option Object) := []
  faulted : Bool := false
deriving DecidableEq, Repr

namespace Heap

def read? (heap : Heap Object) (address : Address) : Option Object :=
  heap.objects[address]?.join

/-- The address of the next object. -/
def fresh (heap : Heap Object) : Address := heap.objects.length

def alloc (heap : Heap Object) (object : Object) : Heap Object :=
  { heap with objects := heap.objects ++ [some object] }

/-- The object is looked at. -/
def use (heap : Heap Object) (address : Address) : Heap Object :=
  if (heap.read? address).isSome then heap else { heap with faulted := true }

def free (heap : Heap Object) (address : Address) : Heap Object :=
  if (heap.read? address).isSome then
    { heap with objects := heap.objects.set address none }
  else
    { heap with faulted := true }

theorem read?_alloc (heap : Heap Object) (object : Object) (address : Address) :
    (heap.alloc object).read? address =
      if address = heap.fresh then some object else heap.read? address := by
  rw [read?, alloc, read?, fresh]
  rcases Nat.lt_trichotomy address heap.objects.length with
    old | rfl | beyond
  · rw [List.getElem?_append_left old, if_neg (Nat.ne_of_lt old)]
  · simp
  · rw [if_neg (Nat.ne_of_gt beyond), List.getElem?_eq_none (by simp; omega),
      List.getElem?_eq_none (Nat.le_of_lt beyond)]

theorem read?_fresh (heap : Heap Object) : heap.read? heap.fresh = none := by
  rw [read?, fresh, List.getElem?_eq_none (Nat.le_refl _)]
  rfl

theorem read?_free
    {heap : Heap Object} {address : Address}
    (live : (heap.read? address).isSome) (other : Address) :
    (heap.free address).read? other =
      if other = address then none else heap.read? other := by
  rw [free, if_pos live, read?, read?, List.getElem?_set]
  by_cases same : address = other
  · subst same
    rw [if_pos rfl, if_pos rfl]
    split <;> rfl
  · rw [if_neg same, if_neg (Ne.symm same)]

end Heap

/-- The objects are owned disjointly, all of them, and nothing went wrong. -/
structure Owned (heap : Heap Object) (owners : List Address) : Prop where
  sound : heap.faulted = false
  distinct : owners.Nodup
  live : ∀ address, address ∈ owners ↔ (heap.read? address).isSome

/-- Nothing is owned in the beginning. -/
theorem owned_empty : Owned ({} : Heap Object) [] where
  sound := rfl
  distinct := List.nodup_nil
  live address := by simp [Heap.read?]

namespace Owned

variable {heap : Heap Object} {owners : List Address}

/-- It does not matter in which order the owners are listed. -/
theorem perm {other : List Address} (owned : Owned heap owners)
    (same : owners.Perm other) : Owned heap other where
  sound := owned.sound
  distinct := same.nodup_iff.mp owned.distinct
  live address := same.mem_iff.symm.trans (owned.live address)

theorem alloc (owned : Owned heap owners) (object : Object) :
    Owned (heap.alloc object) (heap.fresh :: owners) where
  sound := owned.sound
  distinct := by
    refine List.nodup_cons.mpr ⟨fun known => ?_, owned.distinct⟩
    have found := (owned.live _).mp known
    rw [heap.read?_fresh] at found
    cases found
  live address := by
    rw [heap.read?_alloc, List.mem_cons, owned.live]
    split
    · rename_i new
      exact iff_of_true (.inl new) rfl
    · rename_i old
      exact or_iff_right old

/-- Looking at an owned object changes nothing. -/
theorem use_eq {address : Address} (owned : Owned heap owners)
    (known : address ∈ owners) : heap.use address = heap :=
  if_pos ((owned.live address).mp known)

theorem free {address : Address} (owned : Owned heap (address :: owners)) :
    Owned (heap.free address) owners := by
  have live := (owned.live address).mp List.mem_cons_self
  rcases List.nodup_cons.mp owned.distinct with ⟨alone, distinct⟩
  refine ⟨?_, distinct, fun other => ?_⟩
  · rw [Heap.free, if_pos live]
    exact owned.sound
  · rw [Heap.read?_free live]
    split
    · rename_i same
      rw [same]
      exact iff_of_false alone Bool.false_ne_true
    · rename_i differ
      rw [← owned.live, List.mem_cons]
      exact (or_iff_right differ).symm

/-- What is read after an object was freed was there before. -/
theorem read?_of_free {address other : Address} {object : Object}
    (owned : Owned heap (address :: owners))
    (found : (heap.free address).read? other = some object) :
    heap.read? other = some object := by
  rw [Heap.read?_free ((owned.live address).mp List.mem_cons_self)] at found
  split at found
  · cases found
  · exact found

end Owned

/-! ## What one step does -/

/--
A step allocates an object, uses or frees an object that has an owner, or only
hands objects over.
-/
inductive Transfer (heap : Heap Object) (owners : List Address) :
    Option Object → Heap Object → List Address → Prop where
  | keeps {after : List Address} :
      owners.Perm after →
      Transfer heap owners none heap after
  | allocates {after : List Address} (object : Object) :
      after.Perm (heap.fresh :: owners) →
      Transfer heap owners (some object) (heap.alloc object) after
  | uses {after : List Address} {address : Address} :
      address ∈ owners →
      owners.Perm after →
      Transfer heap owners none (heap.use address) after
  | frees {after : List Address} {address : Address} :
      owners.Perm (address :: after) →
      Transfer heap owners none (heap.free address) after

/-- Every step keeps the objects owned. -/
theorem Owned.transfer
    {heap next : Heap Object} {owners after : List Address}
    {allocated : Option Object} (owned : Owned heap owners)
    (taken : Transfer heap owners allocated next after) :
    Owned next after := by
  cases taken with
  | keeps same => exact owned.perm same
  | allocates object new => exact (owned.alloc object).perm new.symm
  | uses known same =>
      rw [owned.use_eq known]
      exact owned.perm same
  | frees freed => exact (owned.perm freed).free

/-- What can be read behind a step was there before it or is new. -/
theorem Transfer.read?
    {heap next : Heap Object} {owners after : List Address}
    {allocated : Option Object} {address : Address} {object : Object}
    (taken : Transfer heap owners allocated next after)
    (owned : Owned heap owners) (found : next.read? address = some object) :
    heap.read? address = some object ∨ allocated = some object := by
  cases taken with
  | keeps _ => exact .inl found
  | allocates new _ =>
      rw [heap.read?_alloc] at found
      split at found
      · exact .inr found
      · exact .inl found
  | uses known _ =>
      rw [owned.use_eq known] at found
      exact .inl found
  | frees freed => exact .inl ((owned.perm freed).read?_of_free found)

end KafkaToNexus.Foundations.Ownership
