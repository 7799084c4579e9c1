import Mathlib.Data.List.Basic
import Mathlib.Order.Basic

/-!
# Selecting a window of a stream

A stream of items is reduced to what lies in a window: `early` items come
before it, `past` items after it.  Of consecutive early items only the last is
wanted, the items of the window are wanted, and the first item past it closes
the selection.

`window` states this for every stream.  When early items do not come after
items that are not early, the selection is the last early item followed by the
others up to the first one past the window; this is `window_of_ordered`.
-/

namespace KafkaToNexus.Foundations.Windowing

variable {Item Key : Type*}

/-! ## Dropping repeats -/

section Repeats

variable [DecidableEq Key]

/-- Drop every item whose key is that of its predecessor; `previous` is the
key of the predecessor of the first item. -/
def dropRepeatsAfter
    (key : Item → Key) : Key → List Item → List Item
  | _, [] => []
  | previous, item :: rest =>
      if key item = previous then
        dropRepeatsAfter key (key item) rest
      else
        item :: dropRepeatsAfter key (key item) rest

/-- Drop every item whose key is that of its predecessor. -/
def dropRepeats (key : Item → Key) : List Item → List Item
  | [] => []
  | item :: rest => item :: dropRepeatsAfter key (key item) rest

theorem dropRepeatsAfter_sublist
    (key : Item → Key) (previous : Key) (items : List Item) :
    List.Sublist (dropRepeatsAfter key previous items) items := by
  induction items generalizing previous with
  | nil => exact List.Sublist.slnil
  | cons item rest induction =>
      unfold dropRepeatsAfter
      split
      · exact (induction (key item)).cons item
      · exact (induction (key item)).cons_cons item

theorem dropRepeats_sublist (key : Item → Key) (items : List Item) :
    List.Sublist (dropRepeats key items) items := by
  cases items with
  | nil => exact List.Sublist.slnil
  | cons item rest =>
      exact (dropRepeatsAfter_sublist key (key item) rest).cons_cons item

theorem dropRepeatsAfter_map
    {Raw : Type*} (make : Raw → Item) (key : Item → Key) (previous : Key)
    (raw : List Raw) :
    dropRepeatsAfter key previous (raw.map make) =
      (dropRepeatsAfter (fun item => key (make item)) previous raw).map
        make := by
  induction raw generalizing previous with
  | nil => rfl
  | cons item rest induction =>
      rw [List.map_cons, dropRepeatsAfter, dropRepeatsAfter, induction]
      split
      · rfl
      · rfl

theorem dropRepeats_map
    {Raw : Type*} (make : Raw → Item) (key : Item → Key) (raw : List Raw) :
    dropRepeats key (raw.map make) =
      (dropRepeats (fun item => key (make item)) raw).map make := by
  cases raw with
  | nil => rfl
  | cons item rest =>
      rw [List.map_cons, dropRepeats, dropRepeats, dropRepeatsAfter_map,
        List.map_cons]

/-- A predecessor with a key that does not occur makes no difference. -/
theorem dropRepeatsAfter_eq_dropRepeats
    {key : Item → Key} {previous : Key} {items : List Item}
    (different : ∀ item ∈ items, key item ≠ previous) :
    dropRepeatsAfter key previous items = dropRepeats key items := by
  cases items with
  | nil => rfl
  | cons item rest =>
      have first := different item List.mem_cons_self
      simp [dropRepeatsAfter, dropRepeats, first]

section Ordered

variable [PartialOrder Key] {key : Item → Key}

/--
In items ordered by their keys, a key occurs in one stretch only.  Keeping the
items with certain keys therefore commutes with dropping repeats.
-/
theorem filter_dropRepeatsAfter
    {previous : Key} {items : List Item} (keep : Key → Bool)
    (above : ∀ item ∈ items, previous ≤ key item)
    (ordered : items.Pairwise fun item later => key item ≤ key later) :
    (dropRepeatsAfter key previous items).filter (fun item => keep (key item)) =
      dropRepeatsAfter key previous
        (items.filter fun item => keep (key item)) := by
  induction items generalizing previous with
  | nil => rfl
  | cons item rest induction =>
      rcases List.pairwise_cons.mp ordered with ⟨least, restOrdered⟩
      have later := induction least restOrdered
      cases kept : keep (key item) with
      | true =>
          rw [List.filter_cons_of_pos (by simpa using kept), dropRepeatsAfter,
            dropRepeatsAfter, ← later]
          split
          · rfl
          · rw [List.filter_cons_of_pos (by simpa using kept)]
      | false =>
          have differs :
              ∀ other ∈ rest.filter fun item => keep (key item),
                key other ≠ key item := by
            intro other member same
            rw [List.mem_filter, same, kept] at member
            exact Bool.noConfusion member.2
          rw [List.filter_cons_of_neg (by simpa using kept), dropRepeatsAfter]
          split
          · rename_i same
            rw [later, same]
          · rename_i new
            have absent :
                ∀ other ∈ rest.filter fun item => keep (key item),
                  key other ≠ previous := by
              intro other member same
              have low := least other (List.mem_filter.mp member).1
              rw [same] at low
              exact new (le_antisymm low (above item List.mem_cons_self))
            rw [List.filter_cons_of_neg (by simpa using kept), later,
              dropRepeatsAfter_eq_dropRepeats differs,
              dropRepeatsAfter_eq_dropRepeats absent]

/-- The same without a predecessor. -/
theorem filter_dropRepeats
    {items : List Item} (keep : Key → Bool)
    (ordered : items.Pairwise fun item later => key item ≤ key later) :
    (dropRepeats key items).filter (fun item => keep (key item)) =
      dropRepeats key (items.filter fun item => keep (key item)) := by
  cases items with
  | nil => rfl
  | cons item rest =>
      rcases List.pairwise_cons.mp ordered with ⟨least, restOrdered⟩
      have later := filter_dropRepeatsAfter keep least restOrdered
      cases kept : keep (key item) with
      | true =>
          rw [List.filter_cons_of_pos (by simpa using kept), dropRepeats,
            dropRepeats, ← later,
            List.filter_cons_of_pos (by simpa using kept)]
      | false =>
          have differs :
              ∀ other ∈ rest.filter fun item => keep (key item),
                key other ≠ key item := by
            intro other member same
            rw [List.mem_filter, same, kept] at member
            exact Bool.noConfusion member.2
          rw [List.filter_cons_of_neg (by simpa using kept), dropRepeats,
            List.filter_cons_of_neg (by simpa using kept), later,
            dropRepeatsAfter_eq_dropRepeats differs]

end Ordered

end Repeats

/-! ## The window -/

/-- The items up to and including the first one past the window. -/
def throughFirst (past : Item → Bool) : List Item → List Item
  | [] => []
  | item :: rest =>
      if past item then [item] else item :: throughFirst past rest

/--
The items of a window.  An early item is kept when no item follows it or the
one that follows is not early.
-/
def window (early past : Item → Bool) : List Item → List Item
  | [] => []
  | [item] => [item]
  | item :: next :: rest =>
      if early item then
        if early next then window early past (next :: rest)
        else item :: window early past (next :: rest)
      else if past item then [item]
      else item :: window early past (next :: rest)

@[simp]
theorem window_nil (early past : Item → Bool) :
    window early past [] = [] :=
  rfl

@[simp]
theorem window_singleton (early past : Item → Bool) (item : Item) :
    window early past [item] = [item] :=
  rfl

/-- An early item gives way to the early item after it. -/
theorem window_early_early
    {early past : Item → Bool} {item next : Item} (rest : List Item)
    (itemEarly : early item = true) (nextEarly : early next = true) :
    window early past (item :: next :: rest) =
      window early past (next :: rest) := by
  simp [window, itemEarly, nextEarly]

/-- An early item is kept in front of an item that is not early. -/
theorem window_early_onTime
    {early past : Item → Bool} {item next : Item} (rest : List Item)
    (itemEarly : early item = true) (nextOnTime : early next = false) :
    window early past (item :: next :: rest) =
      item :: window early past (next :: rest) := by
  simp [window, itemEarly, nextOnTime]

/-- An item that is not early is kept, and the last one if it is past. -/
theorem window_onTime
    {early past : Item → Bool} {item : Item} (rest : List Item)
    (onTime : early item = false) :
    window early past (item :: rest) =
      if past item then [item] else item :: window early past rest := by
  cases rest with
  | nil => simp
  | cons next rest => simp [window, onTime]

theorem window_map
    {Raw : Type*} (make : Raw → Item) (early past : Item → Bool)
    (raw : List Raw) :
    window early past (raw.map make) =
      (window (fun item => early (make item)) (fun item => past (make item))
        raw).map make := by
  induction raw with
  | nil => rfl
  | cons item rest induction =>
      cases rest with
      | nil => rfl
      | cons next rest =>
          rw [List.map_cons] at induction
          rw [List.map_cons, List.map_cons, window, window, induction]
          split
          · split
            · rfl
            · rfl
          · split
            · rfl
            · rfl

section Held

variable {early past : Item → Bool} {held : List Item} {item : Item}

/-- At most one held item stands in front of an item that is on time. -/
theorem window_held_onTime
    (rest : List Item) (single : held.length ≤ 1)
    (heldEarly : ∀ member ∈ held, early member = true)
    (onTime : early item = false) :
    window early past (held ++ item :: rest) =
      held ++ if past item then [item] else item :: window early past rest := by
  match held, single with
  | [], _ => exact window_onTime rest onTime
  | [first], _ =>
      have firstEarly := heldEarly first (List.mem_singleton_self first)
      calc
        window early past (first :: item :: rest)
            = first :: window early past (item :: rest) :=
              window_early_onTime rest firstEarly onTime
        _ = _ := congrArg (List.cons first) (window_onTime rest onTime)

/-- A held item gives way to an early item. -/
theorem window_held_early
    (rest : List Item) (single : held.length ≤ 1)
    (heldEarly : ∀ member ∈ held, early member = true)
    (itemEarly : early item = true) :
    window early past (held ++ item :: rest) =
      window early past (item :: rest) := by
  match held, single with
  | [], _ => rfl
  | [first], _ =>
      have firstEarly := heldEarly first (List.mem_singleton_self first)
      exact window_early_early rest firstEarly itemEarly

end Held

/--
In a stream whose past items all come last, the items up to the first past one
are the others and it.
-/
theorem throughFirst_of_ordered
    {past : Item → Bool} {items : List Item}
    (ordered :
      items.Pairwise fun item later =>
        past item = true → past later = true) :
    throughFirst past items =
      (items.filter fun item => !past item) ++
        (items.filter past).head?.toList := by
  induction items with
  | nil => rfl
  | cons item rest induction =>
      rcases List.pairwise_cons.mp ordered with ⟨first, restOrdered⟩
      rw [throughFirst]
      cases itemPast : past item with
      | false => simp [itemPast, induction restOrdered]
      | true =>
          have none : (rest.filter fun item => !past item) = [] := by
            rw [List.filter_eq_nil_iff]
            intro later member
            simp [first later member itemPast]
          simp [itemPast, none]

/-- With no early items the window is the stream up to the first past item. -/
theorem window_of_no_early
    {early past : Item → Bool} {items : List Item}
    (none : ∀ item ∈ items, early item = false) :
    window early past items = throughFirst past items := by
  induction items with
  | nil => rfl
  | cons item rest induction =>
      rw [window_onTime rest (none item List.mem_cons_self), throughFirst,
        induction fun member belongs =>
          none member (List.mem_cons_of_mem item belongs)]

/--
In a stream whose early items all come first, the window is the last early
item followed by the other items up to the first past one.
-/
theorem window_of_ordered
    {early past : Item → Bool} {items : List Item}
    (ordered :
      items.Pairwise fun item later =>
        early later = true → early item = true) :
    window early past items =
      (items.filter early).getLast?.toList ++
        throughFirst past (items.filter fun item => !early item) := by
  induction items with
  | nil => rfl
  | cons item rest induction =>
      rcases List.pairwise_cons.mp ordered with ⟨first, restOrdered⟩
      cases itemEarly : early item with
      | false =>
          have none : ∀ member ∈ item :: rest, early member = false := by
            intro member belongs
            rcases List.mem_cons.mp belongs with rfl | later
            · exact itemEarly
            · by_contra memberEarly
              have back := first member later (by simpa using memberEarly)
              rw [itemEarly] at back
              exact absurd back (by decide)
          have emptyFilter : (item :: rest).filter early = [] := by
            rw [List.filter_eq_nil_iff]
            intro member belongs
            simp [none member belongs]
          have fullFilter :
              ((item :: rest).filter fun member => !early member) =
                item :: rest := by
            rw [List.filter_eq_self]
            intro member belongs
            simp [none member belongs]
          rw [window_of_no_early none, emptyFilter, fullFilter]
          rfl
      | true =>
          cases rest with
          | nil => simp [itemEarly, throughFirst]
          | cons next rest =>
              have step := induction restOrdered
              cases nextEarly : early next with
              | true =>
                  rw [window_early_early rest itemEarly nextEarly, step]
                  simp [itemEarly, nextEarly]
              | false =>
                  rw [window_early_onTime rest itemEarly nextEarly, step]
                  have none : rest.filter early = [] := by
                    rw [List.filter_eq_nil_iff]
                    intro member belongs memberEarly
                    have back :=
                      (List.pairwise_cons.mp restOrdered).1 member belongs
                        memberEarly
                    rw [nextEarly] at back
                    exact absurd back (by decide)
                  simp [itemEarly, nextEarly, none]

/--
In a stream that comes to its window once and leaves it once, the selection
holds the items inside the window, at most one early item before them and at
most one past item after them.
-/
theorem window_around_inside
    {early past : Item → Bool} {items : List Item}
    (entersOnce :
      items.Pairwise fun item later =>
        early later = true → early item = true)
    (leavesOnce :
      items.Pairwise fun item later =>
        past item = true → past later = true) :
    ∃ before after,
      window early past items =
          before ++ (items.filter fun item => !early item && !past item) ++
            after ∧
        before.length ≤ 1 ∧ (∀ item ∈ before, early item = true) ∧
        after.length ≤ 1 ∧ ∀ item ∈ after, past item = true := by
  let onTime := items.filter fun item => !early item
  refine ⟨(items.filter early).getLast?.toList,
    (onTime.filter past).head?.toList, ?_, ?_, ?_, ?_, ?_⟩
  · rw [window_of_ordered entersOnce,
      throughFirst_of_ordered
        (leavesOnce.sublist List.filter_sublist),
      List.filter_filter, List.append_assoc]
    simp only [onTime, Bool.and_comm]
  · cases (items.filter early).getLast? <;> simp
  · intro item member
    have last := Option.mem_toList.mp member
    exact (List.mem_filter.mp (List.mem_of_getLast? last)).2
  · cases (onTime.filter past).head? <;> simp
  · intro item member
    have first := Option.mem_toList.mp member
    exact (List.mem_filter.mp (List.mem_of_head? first)).2

end KafkaToNexus.Foundations.Windowing
