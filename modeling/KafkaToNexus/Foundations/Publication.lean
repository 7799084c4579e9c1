import Mathlib.Tactic.TypeStar

/-!
# A flag and a value that one thread publishes

A thread announces a value to others in two stores: one to a flag, that can be
read at any time, and one to the value, that is guarded by a mutex.  A reader
loads the flag and, if it is set, locks the mutex and reads the value.  The
writer may set the flag first, or inside the guarded section after the value.

`Sound` is what holds in both orders.  A reader that has seen the flag reads a
value that was to be published, unless it comes between the first store to the
flag and the first store to the value.
-/

namespace KafkaToNexus.Foundations

/-- Where the thread that publishes is. -/
inductive PublisherPoint (Value : Type*) where
  | idle
  /-- The flag is set and the value is not yet stored. -/
  | flagged (value : Value)
  /-- In the guarded section, after the value and before the flag. -/
  | stored
  /-- In the guarded section, after both stores. -/
  | holding
deriving DecidableEq, Repr

structure Publication (Value : Type*) where
  flag : Bool := false
  value : Value
  point : PublisherPoint Value := .idle
  /-- The values that were to be published, a history variable. -/
  passed : List Value := []
  /-- A value was stored, a history variable. -/
  published : Bool := false
deriving DecidableEq, Repr

namespace Publication

variable {Value : Type*}

/-- Set the flag before the value is stored. -/
def raise (cell : Publication Value) (value : Value) : Publication Value :=
  { cell with
    flag := true
    point := .flagged value
    passed := cell.passed ++ [value] }

/-- Store the value after the flag. -/
def store (cell : Publication Value) (value : Value) : Publication Value :=
  { cell with value, point := .holding, published := true }

/-- Store the value before the flag. -/
def storeFirst (cell : Publication Value) (value : Value) :
    Publication Value :=
  { cell with
    value
    point := .stored
    passed := cell.passed ++ [value]
    published := true }

/-- Set the flag after the value was stored. -/
def raiseLast (cell : Publication Value) : Publication Value :=
  { cell with flag := true, point := .holding }

/-- Leave the guarded section. -/
def release (cell : Publication Value) : Publication Value :=
  { cell with point := .idle }

/-- The writer is in the guarded section. -/
def locked (cell : Publication Value) : Bool :=
  match cell.point with
  | .stored => true
  | .holding => true
  | _ => false

/-- The flag is set although no value was ever stored. -/
def Window (cell : Publication Value) : Prop :=
  cell.published = false ∧ ∃ value, cell.point = .flagged value

/-- What holds of a flag and a value at all times. -/
structure Sound (initial : Value) (cell : Publication Value) : Prop where
  unpublished : cell.published = false → cell.value = initial
  published : cell.published = true → cell.value ∈ cell.passed
  raised : cell.flag = true → cell.published = true ∨ cell.Window
  pending : ∀ value, cell.point = .flagged value → value ∈ cell.passed
  stored : cell.point = .stored → cell.published = true
  proper : initial ∉ cell.passed

variable {initial value : Value} {cell : Publication Value}

theorem sound_new (initial : Value) :
    Sound initial ({ value := initial } : Publication Value) := by
  constructor
  · intro _
    rfl
  · nofun
  · nofun
  · nofun
  · nofun
  · exact List.not_mem_nil

theorem not_mem_concat
    {values : List Value}
    (outside : initial ∉ values) (proper : value ≠ initial) :
    initial ∉ values ++ [value] := by
  intro member
  rcases List.mem_append.mp member with old | new
  · exact outside old
  · exact proper (List.mem_singleton.mp new).symm

theorem Sound.raise
    (sound : Sound initial cell) (proper : value ≠ initial) :
    Sound initial (cell.raise value) := by
  constructor
  · exact sound.unpublished
  · intro published
    exact List.mem_append_left _ (sound.published published)
  · intro _
    cases published : cell.published with
    | true => exact Or.inl published
    | false => exact Or.inr ⟨published, value, rfl⟩
  · rintro other ⟨⟩
    exact List.mem_append_right _ (List.mem_singleton_self value)
  · nofun
  · exact not_mem_concat sound.proper proper

theorem Sound.store
    (sound : Sound initial cell) (point : cell.point = .flagged value) :
    Sound initial (cell.store value) := by
  constructor
  · nofun
  · intro _
    exact sound.pending value point
  · intro _
    exact Or.inl rfl
  · nofun
  · nofun
  · exact sound.proper

theorem Sound.storeFirst
    (sound : Sound initial cell) (proper : value ≠ initial) :
    Sound initial (cell.storeFirst value) := by
  constructor
  · nofun
  · intro _
    exact List.mem_append_right _ (List.mem_singleton_self value)
  · intro _
    exact Or.inl rfl
  · nofun
  · intro _
    rfl
  · exact not_mem_concat sound.proper proper

theorem Sound.raiseLast
    (sound : Sound initial cell) (point : cell.point = .stored) :
    Sound initial cell.raiseLast := by
  constructor
  · exact sound.unpublished
  · exact sound.published
  · intro _
    exact Or.inl (sound.stored point)
  · nofun
  · nofun
  · exact sound.proper

theorem Sound.release
    (sound : Sound initial cell) (point : cell.point = .holding) :
    Sound initial cell.release := by
  constructor
  · exact sound.unpublished
  · exact sound.published
  · intro flag
    rcases sound.raised flag with published | ⟨_, other, flagged⟩
    · exact Or.inl published
    · rw [point] at flagged
      cases flagged
  · nofun
  · nofun
  · exact sound.proper

/-- A reader that has seen the flag reads a value, outside the window. -/
theorem Sound.read
    (sound : Sound initial cell)
    (flag : cell.flag = true) (timely : ¬ cell.Window) :
    cell.value ∈ cell.passed := by
  rcases sound.raised flag with published | window
  · exact sound.published published
  · exact absurd window timely

/-- A reader in the window reads the value from before the publication. -/
theorem Sound.read_window
    (sound : Sound initial cell) (window : cell.Window) :
    cell.value = initial :=
  sound.unpublished window.1

end Publication

end KafkaToNexus.Foundations
