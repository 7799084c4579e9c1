import KafkaToNexus.Foundations.Paths
import Mathlib.Data.List.Infix

/-!
# Links

A link to an object is made from the path of the object.  HDF5 opens an object
by its path from a group, or from the root if the path starts with a slash; it
follows links by their names and has no component for the parent of a group.
The steps up are therefore taken before: as long as there is `../` anywhere in
the path, the first three bytes are cut off and the group is replaced by
its parent.

A node is given by the names of the links on the way to it from the root.
Paths and names are strings of bytes, as in the source: a character outside of
ASCII counts as many times as it has bytes.
-/

namespace KafkaToNexus.HDFOperations

open Foundations.Paths

/-- A node, by the names of the links that lead to it. -/
abbrev HdfNodePath := List (List UInt8)

/-- The byte of the dot. -/
abbrev dotByte : UInt8 := 46

/-- The byte of the slash. -/
abbrev slashByte : UInt8 := 47

def dotDotSlash : List UInt8 := [dotByte, dotByte, slashByte]

/-- A component of a path in a file system. -/
def pathComponent (component : List UInt8) : Component (List UInt8) :=
  if component = [] ∨ component = [dotByte] then .stay
  else if component = [dotByte, dotByte] then .up
  else .name component

/-- A component of a path in HDF5. -/
def linkComponent (component : List UInt8) : Component (List UInt8) :=
  if component = [] ∨ component = [dotByte] then .stay
  else .name component

/-- A path with a slash in front starts at the root. -/
def startOf (group : HdfNodePath) (path : List UInt8) : HdfNodePath :=
  if path.head? = some slashByte then [] else group

/-- The usual resolution of a path from a group. -/
def resolvePath (group : HdfNodePath) (path : List UInt8) : HdfNodePath :=
  resolve (startOf group path) ((path.splitOn slashByte).map pathComponent)

/-- The node that HDF5 opens. -/
def openObject (group : HdfNodePath) (path : List UInt8) : HdfNodePath :=
  resolve (startOf group path) ((path.splitOn slashByte).map linkComponent)

/-- `substr` throws if the string is shorter. -/
def substr (text : List UInt8) (pos : Nat) : Option (List UInt8) :=
  if pos ≤ text.length then some (text.drop pos) else none

theorem length_of_substr {text rest : List UInt8}
    (found : dotDotSlash <:+: text) (cut : substr text 3 = some rest) :
    rest.length < text.length := by
  have three : 3 ≤ text.length := found.length_le
  rw [substr, if_pos three] at cut
  cases cut
  rw [List.length_drop]
  exact Nat.sub_lt (Nat.lt_of_lt_of_le (by decide) three) (by decide)

/-- The loop of `addLinkToNode`, unless `substr` throws. -/
def takeStepsUp (groupBase : HdfNodePath) (targetBase : List UInt8) :
    Option (HdfNodePath × List UInt8) :=
  if _found : dotDotSlash <:+: targetBase then
    match _cut : substr targetBase 3 with
    | none => none
    | some rest => takeStepsUp (parent groupBase) rest
  else
    some (groupBase, targetBase)
termination_by targetBase.length
decreasing_by exact length_of_substr _found _cut

/-! ## The loop -/

variable {group : HdfNodePath} {source before after : List UInt8}

theorem takeStepsUp_of_not_found (missing : ¬ dotDotSlash <:+: source) :
    takeStepsUp group source = some (group, source) := by
  rw [takeStepsUp, dif_neg missing]

/-- Three bytes are there to be cut off. -/
theorem takeStepsUp_of_found (found : dotDotSlash <:+: source) :
    takeStepsUp group source =
      takeStepsUp (parent group) (source.drop 3) := by
  have three : 3 ≤ source.length := found.length_le
  have cut : substr source 3 = some (source.drop 3) := by
    rw [substr, if_pos three]
  rw [takeStepsUp, dif_pos found]
  split
  · rename_i cannot
    rw [cut] at cannot
    cases cannot
  · rename_i rest also
    rw [cut] at also
    cases also
    rfl

/-- The last place at which the loop finds what it looks for. -/
theorem exists_last_dotDotSlash (found : dotDotSlash <:+: source) :
    ∃ before after, source = before ++ (dotDotSlash ++ after) ∧
      ¬ dotDotSlash <:+: after := by
  rcases found with ⟨before, after, rfl⟩
  induction length : after.length using Nat.strongRecOn
    generalizing before after with
  | ind _ induction =>
      by_cases again : dotDotSlash <:+: after
      · rcases again with ⟨between, rest, rfl⟩
        have shorter :
            rest.length < (between ++ dotDotSlash ++ rest).length := by
          rw [List.length_append, List.length_append]
          exact Nat.lt_add_of_pos_left (Nat.succ_pos _)
        rcases
            induction rest.length (length ▸ shorter)
              (before ++ dotDotSlash ++ between) rest rfl
          with ⟨front, back, same, last⟩
        refine ⟨front, back, ?_, last⟩
        rw [← same]
        simp only [List.append_assoc]
      · exact ⟨before, after, List.append_assoc _ _ _, again⟩

/-- What is left of the last step up and what comes after it. -/
def leftOver (before after : List UInt8) : List UInt8 :=
  (dotDotSlash ++ after).drop (3 - before.length % 3)

theorem leftOver_cases (before after : List UInt8) :
    before.length % 3 = 0 ∧ leftOver before after = after ∨
      before.length % 3 = 1 ∧ leftOver before after = slashByte :: after ∨
        before.length % 3 = 2 ∧
          leftOver before after = dotByte :: slashByte :: after := by
  have below : before.length % 3 < 3 := Nat.mod_lt _ (by decide)
  rw [leftOver]
  generalize before.length % 3 = place at below ⊢
  rcases place with _ | _ | _ | place
  · exact .inl ⟨rfl, rfl⟩
  · exact .inr (.inl ⟨rfl, rfl⟩)
  · exact .inr (.inr ⟨rfl, rfl⟩)
  · omega

theorem not_found_leftOver (last : ¬ dotDotSlash <:+: after) :
    ¬ dotDotSlash <:+: leftOver before after := by
  have slash : ¬ dotDotSlash <:+: slashByte :: after := by
    rw [List.infix_cons_iff, not_or]
    refine ⟨?_, last⟩
    intro starts
    cases (List.cons_prefix_cons.mp starts).1
  rcases leftOver_cases before after with
    ⟨_, same⟩ | ⟨_, same⟩ | ⟨_, same⟩
  · rwa [same]
  · rwa [same]
  · rw [same, List.infix_cons_iff, not_or]
    refine ⟨?_, slash⟩
    intro starts
    cases (List.cons_prefix_cons.mp
      (List.cons_prefix_cons.mp starts).2).1

/-- There are as many steps up as three bytes have to be cut off. -/
theorem takeStepsUp_eq (last : ¬ dotDotSlash <:+: after) :
    takeStepsUp group (before ++ (dotDotSlash ++ after)) =
      some (parent^[before.length / 3 + 1] group, leftOver before after) := by
  induction length : before.length using Nat.strongRecOn
    generalizing before group with
  | ind n induction =>
      have found : dotDotSlash <:+: before ++ (dotDotSlash ++ after) :=
        ⟨before, after, List.append_assoc _ _ _⟩
      rw [takeStepsUp_of_found found]
      by_cases short : n < 3
      · have cut :
            (before ++ (dotDotSlash ++ after)).drop 3 =
              leftOver before after := by
          rw [List.drop_append, leftOver, length,
            List.drop_eq_nil_of_le (by omega), List.nil_append,
            Nat.mod_eq_of_lt short]
        rw [cut, takeStepsUp_of_not_found (not_found_leftOver last),
          Nat.div_eq_of_lt short]
        rfl
      · have cut :
            (before ++ (dotDotSlash ++ after)).drop 3 =
              before.drop 3 ++ (dotDotSlash ++ after) :=
          List.drop_append_of_le_length (by omega)
        have fewer : (before.drop 3).length = n - 3 := by
          rw [List.length_drop, length]
        have same : leftOver (before.drop 3) after = leftOver before after := by
          rw [leftOver, leftOver, fewer, length,
            show (n - 3) % 3 = n % 3 by omega]
        have steps : n / 3 + 1 = (n - 3) / 3 + 1 + 1 := by omega
        rw [cut, induction (n - 3) (by omega) fewer, same, steps]
        rfl

/-- The loop ends, and no `substr` throws. -/
theorem exists_takeStepsUp (group : HdfNodePath) (source : List UInt8) :
    ∃ base, takeStepsUp group source = some base := by
  by_cases found : dotDotSlash <:+: source
  · rcases exists_last_dotDotSlash found with ⟨before, after, rfl, last⟩
    exact ⟨_, takeStepsUp_eq last⟩
  · exact ⟨_, takeStepsUp_of_not_found found⟩

end KafkaToNexus.HDFOperations
