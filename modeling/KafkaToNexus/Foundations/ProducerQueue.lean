import Mathlib.Data.List.Basic

/-!
# Queues that are first-in first-out for each producer

Several producers append to one queue.  A lock-free queue of this kind
promises no order between the items of different producers, but hands out the
items of each producer in the order in which they were enqueued.  `Dequeue` is
the relation between a queue, an entry that may be handed out next and the
entries that remain.
-/

namespace KafkaToNexus.Foundations.ProducerQueue

variable {Producer Item : Type*}

/-- An item with the producer that enqueued it. -/
structure Entry (Producer Item : Type*) where
  producer : Producer
  item : Item
deriving DecidableEq, Repr

/-- The entries of a queue, the oldest first. -/
abbrev Queue (Producer Item : Type*) := List (Entry Producer Item)

def enqueue
    (queue : Queue Producer Item) (producer : Producer) (item : Item) :
    Queue Producer Item :=
  queue ++ [⟨producer, item⟩]

/-- The entry may be handed out: its producer has no older one in the queue. -/
def Dequeue
    (queue : Queue Producer Item) (entry : Entry Producer Item)
    (rest : Queue Producer Item) : Prop :=
  ∃ before after, queue = before ++ entry :: after ∧
    (∀ older ∈ before, older.producer ≠ entry.producer) ∧
    rest = before ++ after

/-- The oldest entry may always be handed out. -/
theorem dequeue_head
    (entry : Entry Producer Item) (rest : Queue Producer Item) :
    Dequeue (entry :: rest) entry rest :=
  ⟨[], rest, rfl, by simp, rfl⟩

theorem Dequeue.mem
    {queue rest : Queue Producer Item} {entry : Entry Producer Item}
    (taken : Dequeue queue entry rest) :
    entry ∈ queue := by
  rcases taken with ⟨before, after, rfl, _, _⟩
  simp

theorem Dequeue.mem_of_rest
    {queue rest : Queue Producer Item} {entry other : Entry Producer Item}
    (taken : Dequeue queue entry rest) (member : other ∈ rest) :
    other ∈ queue := by
  rcases taken with ⟨before, after, rfl, _, rfl⟩
  rcases List.mem_append.mp member with old | new
  · exact List.mem_append_left _ old
  · exact List.mem_append_right _ (List.mem_cons_of_mem _ new)

/-! ## Selecting items -/

section Select

variable {Value : Type*}

/-- What a function selects from the items, the oldest first. -/
def selectItems
    (select : Item → Option Value) (queue : Queue Producer Item) :
    List Value :=
  queue.filterMap fun entry => select entry.item

/-- Every selected item was enqueued by one producer. -/
def SelectedFrom
    (select : Item → Option Value) (producer : Producer)
    (queue : Queue Producer Item) : Prop :=
  ∀ entry ∈ queue, (select entry.item).isSome = true →
    entry.producer = producer

@[simp]
theorem selectItems_enqueue
    (select : Item → Option Value) (queue : Queue Producer Item)
    (producer : Producer) (item : Item) :
    selectItems select (enqueue queue producer item) =
      selectItems select queue ++ (select item).toList := by
  simp only [selectItems, enqueue, List.filterMap_append]
  cases found : select item <;> simp [found]

theorem SelectedFrom.enqueue
    {select : Item → Option Value} {producer caller : Producer}
    {queue : Queue Producer Item} {item : Item}
    (selected : SelectedFrom select producer queue)
    (same : (select item).isSome = true → caller = producer) :
    SelectedFrom select producer (enqueue queue caller item) := by
  intro entry member found
  rcases List.mem_append.mp member with old | new
  · exact selected entry old found
  · rw [List.mem_singleton] at new
    subst new
    exact same found

theorem SelectedFrom.dequeue
    {select : Item → Option Value} {producer : Producer}
    {queue rest : Queue Producer Item} {entry : Entry Producer Item}
    (selected : SelectedFrom select producer queue)
    (taken : Dequeue queue entry rest) :
    SelectedFrom select producer rest :=
  fun other member => selected other (taken.mem_of_rest member)

/--
Where one producer enqueued all selected items, they are handed out in the
order in which they were enqueued.
-/
theorem SelectedFrom.selectItems
    {select : Item → Option Value} {producer : Producer}
    {queue rest : Queue Producer Item} {entry : Entry Producer Item}
    (selected : SelectedFrom select producer queue)
    (taken : Dequeue queue entry rest) :
    selectItems select queue =
      (select entry.item).toList ++ selectItems select rest := by
  rcases taken with ⟨before, after, rfl, older, rfl⟩
  cases found : select entry.item with
  | none => simp [ProducerQueue.selectItems, found]
  | some value =>
      have from_ : entry.producer = producer :=
        selected entry (by simp) (by simp [found])
      have none_ : ProducerQueue.selectItems select before = [] := by
        apply List.filterMap_eq_nil_iff.mpr
        intro other member
        by_contra present
        apply older other member
        rw [from_]
        exact selected other (List.mem_append_left _ member)
          (Option.isSome_iff_ne_none.mpr present)
      simp only [ProducerQueue.selectItems] at none_
      simp [ProducerQueue.selectItems, found, none_]

end Select

/-! ## Counting items -/

/-- The number of items with a property. -/
def countItems
    (property : Item → Bool) (queue : Queue Producer Item) : Nat :=
  queue.countP fun entry => property entry.item

@[simp]
theorem countItems_nil (property : Item → Bool) :
    countItems property ([] : Queue Producer Item) = 0 :=
  rfl

@[simp]
theorem countItems_enqueue
    (property : Item → Bool) (queue : Queue Producer Item)
    (producer : Producer) (item : Item) :
    countItems property (enqueue queue producer item) =
      countItems property queue + (property item).toNat := by
  simp only [countItems, enqueue, List.countP_append, List.countP_singleton]
  cases property item <;> rfl

theorem Dequeue.countItems
    {queue rest : Queue Producer Item} {entry : Entry Producer Item}
    (taken : Dequeue queue entry rest) (property : Item → Bool) :
    countItems property queue =
      countItems property rest + (property entry.item).toNat := by
  rcases taken with ⟨before, after, rfl, _, rfl⟩
  simp only [ProducerQueue.countItems, List.countP_append, List.countP_cons]
  cases property entry.item
  · simp
  · simp
    omega

/-! ## The items of one producer -/

section ItemsOf

variable [DecidableEq Producer]

/-- The item of an entry, if a given producer enqueued it. -/
def itemOf
    (producer : Producer) (entry : Entry Producer Item) : Option Item :=
  if entry.producer = producer then some entry.item else none

/-- The items that a producer enqueued, the oldest first. -/
def itemsOf
    (producer : Producer) (queue : Queue Producer Item) : List Item :=
  queue.filterMap (itemOf producer)

@[simp]
theorem itemsOf_nil (producer : Producer) :
    itemsOf producer ([] : Queue Producer Item) = [] :=
  rfl

theorem itemsOf_enqueue
    (producer : Producer) (queue : Queue Producer Item)
    (caller : Producer) (item : Item) :
    itemsOf producer (enqueue queue caller item) =
      itemsOf producer queue ++ (itemOf producer ⟨caller, item⟩).toList := by
  simp only [itemsOf, enqueue, List.filterMap_append]
  cases found : itemOf producer ⟨caller, item⟩ <;> simp [found]

/-- The items of each producer are handed out in their order. -/
theorem Dequeue.itemsOf
    {queue rest : Queue Producer Item} {entry : Entry Producer Item}
    (taken : Dequeue queue entry rest) (producer : Producer) :
    itemsOf producer queue =
      (itemOf producer entry).toList ++ itemsOf producer rest := by
  rcases taken with ⟨before, after, rfl, older, rfl⟩
  by_cases own : entry.producer = producer
  · have none_ : ProducerQueue.itemsOf producer before = [] := by
      apply List.filterMap_eq_nil_iff.mpr
      intro other member
      apply if_neg
      rw [← own]
      exact older other member
    simp only [ProducerQueue.itemsOf] at none_
    simp [ProducerQueue.itemsOf, itemOf, own, none_]
  · simp [ProducerQueue.itemsOf, itemOf, own]

end ItemsOf

/-! ## Selecting entries -/

section SelectEntries

variable {Value : Type*}

/-- An entry whose item is selected, with what is selected of it. -/
def selectEntry
    (select : Item → Option Value) (entry : Entry Producer Item) :
    Option (Entry Producer Value) :=
  (select entry.item).map fun value => ⟨entry.producer, value⟩

/-- The queue of the selected items. -/
def selectEntries
    (select : Item → Option Value) (queue : Queue Producer Item) :
    Queue Producer Value :=
  queue.filterMap (selectEntry select)

theorem selectEntries_enqueue
    (select : Item → Option Value) (queue : Queue Producer Item)
    (producer : Producer) (item : Item) :
    selectEntries select (enqueue queue producer item) =
      selectEntries select queue ++
        (selectEntry select ⟨producer, item⟩).toList := by
  simp only [selectEntries, enqueue, List.filterMap_append]
  cases found : selectEntry select ⟨producer, item⟩ <;> simp [found]

/-- A selected entry may be handed out by the queue of the selected items. -/
theorem Dequeue.selectEntries
    {select : Item → Option Value} {queue rest : Queue Producer Item}
    {entry : Entry Producer Item} {value : Value}
    (taken : Dequeue queue entry rest) (found : select entry.item = some value) :
    Dequeue (selectEntries select queue) ⟨entry.producer, value⟩
      (selectEntries select rest) := by
  rcases taken with ⟨before, after, rfl, older, rfl⟩
  refine
    ⟨ProducerQueue.selectEntries select before,
      ProducerQueue.selectEntries select after, ?_, ?_, ?_⟩
  · simp [ProducerQueue.selectEntries, selectEntry, found]
  · intro other member
    rcases List.mem_filterMap.mp member with ⟨source, old, selected⟩
    rcases Option.map_eq_some_iff.mp selected with ⟨_, _, rfl⟩
    exact older source old
  · simp [ProducerQueue.selectEntries]

/-- An entry that is not selected does not matter to the selected ones. -/
theorem Dequeue.selectEntries_none
    {select : Item → Option Value} {queue rest : Queue Producer Item}
    {entry : Entry Producer Item}
    (taken : Dequeue queue entry rest) (found : select entry.item = none) :
    ProducerQueue.selectEntries select rest =
      ProducerQueue.selectEntries select queue := by
  rcases taken with ⟨before, after, rfl, _, rfl⟩
  simp [ProducerQueue.selectEntries, selectEntry, found]

end SelectEntries

end KafkaToNexus.Foundations.ProducerQueue
