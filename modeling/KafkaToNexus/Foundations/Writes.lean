import Mathlib.Tactic.TypeStar

/-!
# Writes to the places of a list

Each write puts a value in a place.  A place that is written to with one value
only has that value in the end, and the other places keep theirs.
-/

namespace KafkaToNexus.Foundations.Writes

variable {Value : Type*}

/-- The writes are done one after the other. -/
def writeAll (writes : List (Nat × Value)) (data : List Value) : List Value :=
  writes.foldl (fun data write => data.set write.1 write.2) data

variable {writes : List (Nat × Value)} {data : List Value} {place : Nat}
  {value : Value}

theorem writeAll_cons (write : Nat × Value) :
    writeAll (write :: writes) data =
      writeAll writes (data.set write.1 write.2) :=
  rfl

@[simp]
theorem length_writeAll : (writeAll writes data).length = data.length := by
  induction writes generalizing data with
  | nil => rfl
  | cons write writes induction =>
      rw [writeAll_cons, induction, List.length_set]

theorem getElem?_writeAll_of_untouched
    (untouched : ∀ write ∈ writes, write.1 ≠ place) :
    (writeAll writes data)[place]? = data[place]? := by
  induction writes generalizing data with
  | nil => rfl
  | cons write writes induction =>
      rw [List.forall_mem_cons] at untouched
      rw [writeAll_cons, induction untouched.2,
        List.getElem?_set_ne untouched.1]

theorem getElem?_writeAll_of_touched
    (inside : place < data.length)
    (touched : ∃ write ∈ writes, write.1 = place)
    (agree : ∀ write ∈ writes, write.1 = place → write.2 = value) :
    (writeAll writes data)[place]? = some value := by
  induction writes generalizing data with
  | nil =>
      rcases touched with ⟨write, member, _⟩
      cases member
  | cons write writes induction =>
      rw [List.forall_mem_cons] at agree
      rw [writeAll_cons]
      by_cases later : ∃ write ∈ writes, write.1 = place
      · apply induction _ later agree.2
        rw [List.length_set]
        exact inside
      · have untouched : ∀ write ∈ writes, write.1 ≠ place :=
          fun other member same => later ⟨other, member, same⟩
        rcases touched with ⟨other, member, same⟩
        rcases List.mem_cons.mp member with rfl | there
        · rw [getElem?_writeAll_of_untouched untouched, same,
            List.getElem?_set_self inside, agree.1 same]
        · exact absurd same (untouched other there)

/-- Writes to every place in order replace the list. -/
theorem writeAll_of_range
    (inOrder : writes.map Prod.fst = List.range data.length) :
    writeAll writes data = writes.map Prod.snd := by
  have long : writes.length = data.length := by
    rw [← List.length_map Prod.fst, inOrder, List.length_range]
  have there (index : Nat) (inside : index < writes.length) :
      writes[index].1 = index := by
    have mapped : (writes.map Prod.fst)[index]? = some index := by
      rw [inOrder]
      exact List.getElem?_range (long ▸ inside)
    rw [List.getElem?_map, List.getElem?_eq_getElem inside] at mapped
    exact Option.some.inj mapped
  apply List.ext_getElem
  · rw [length_writeAll, List.length_map, long]
  · intro index inside insideWrites
    rw [List.length_map] at insideWrites
    rw [List.getElem_map]
    apply Option.some.inj
    rw [← List.getElem?_eq_getElem inside]
    apply getElem?_writeAll_of_touched
    · exact length_writeAll ▸ inside
    · exact
        ⟨writes[index], List.getElem_mem insideWrites,
          there index insideWrites⟩
    · intro write member same
      rcases List.getElem_of_mem member with ⟨other, insideOther, rfl⟩
      have here : other = index :=
        (there other insideOther).symm.trans same
      subst here
      rfl

end KafkaToNexus.Foundations.Writes
