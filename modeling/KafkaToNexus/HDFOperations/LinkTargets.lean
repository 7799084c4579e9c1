import KafkaToNexus.HDFOperations.Links
import Mathlib.Algebra.GroupWithZero.Nat

/-!
# Which links get the right target

The loop takes one step up for every three bytes of the text that it
cuts off, whatever these bytes are.  That is right for a path that begins
with its steps up, with nothing else between them than two more slashes or one
`./`.  A path in which a name stands in front of a step up gets another target,
unless it starts at the root and the loop happens to leave a slash in front of
what follows.
-/

namespace KafkaToNexus.HDFOperations

open Foundations.Paths

variable {group : HdfNodePath} {source before after : List UInt8}

/-- The components in front of what follows the last step up. -/
def stepsBefore (before : List UInt8) : List (Component (List UInt8)) :=
  ((before ++ [dotByte, dotByte]).splitOn slashByte).map pathComponent

/-- What the loop leaves is a path from the root. -/
def LeavesSlash (before after : List UInt8) : Prop :=
  before.length % 3 = 1 ∨
    before.length % 3 = 0 ∧ after.head? = some slashByte

instance (before after : List UInt8) : Decidable (LeavesSlash before after) :=
  inferInstanceAs (Decidable (_ ∨ _))

/-- For a path from the group: all components only go up, each by `../`. -/
def RightFromGroup (before after : List UInt8) : Prop :=
  (stepsBefore before).countP Component.isName = 0 ∧
    (stepsBefore before).countP Component.isUp = before.length / 3 + 1 ∧
      ¬ LeavesSlash before after

/-- For a path from the root: the loop leaves another path from there. -/
def RightFromRoot (before after : List UInt8) : Prop :=
  resolve [] (stepsBefore before) = [] ∧ LeavesSlash before after

/-- The sources whose target is right from every group. -/
def RightSource (source : List UInt8) : Prop :=
  (¬ dotDotSlash <:+: source ∧
      [dotByte, dotByte] ∉ source.splitOn slashByte) ∨
    ∃ before after, source = before ++ (dotDotSlash ++ after) ∧
      ¬ dotDotSlash <:+: after ∧
        [dotByte, dotByte] ∉ after.splitOn slashByte ∧
        if source.head? = some slashByte then RightFromRoot before after
        else RightFromGroup before after

/-- The loop ends without an exception and leaves the node it should. -/
def ResolvesLikePath (source : List UInt8) : Prop :=
  ∀ group, ∃ groupBase targetBase,
    takeStepsUp group source = some (groupBase, targetBase) ∧
      openObject groupBase targetBase = resolvePath group source

/-! ## Components -/

theorem splitOn_source :
    (before ++ (dotDotSlash ++ after)).splitOn slashByte =
      (before ++ [dotByte, dotByte]).splitOn slashByte ++
        after.splitOn slashByte := by
  rw [← List.splitOn_append_cons_self, List.append_assoc]
  rfl

/-- Without a way up both readings of a path are the same. -/
theorem map_linkComponent {path : List UInt8}
    (noUp : [dotByte, dotByte] ∉ path.splitOn slashByte) :
    (path.splitOn slashByte).map pathComponent =
      (path.splitOn slashByte).map linkComponent := by
  apply List.map_congr_left
  intro component member
  have differs : component ≠ [dotByte, dotByte] := by
    rintro rfl
    exact noUp member
  rw [pathComponent, linkComponent]
  split_ifs
  · rfl
  · rfl

theorem resolve_map_linkComponent (node : HdfNodePath) (path : List UInt8) :
    resolve node ((path.splitOn slashByte).map linkComponent) =
      node ++ ((path.splitOn slashByte).map linkComponent).filterMap
        Component.toName := by
  apply resolve_of_no_ups
  rw [List.countP_eq_zero]
  intro component member
  rcases List.mem_map.mp member with ⟨text, _, rfl⟩
  rw [linkComponent]
  split_ifs
  · exact Bool.false_ne_true
  · exact Bool.false_ne_true

/-- A link with the name of the parent is looked for, but never meant. -/
theorem openObject_ne_resolvePath
    {base : HdfNodePath} {path : List UInt8}
    (up : [dotByte, dotByte] ∈ path.splitOn slashByte) (other : List UInt8) :
    openObject base path ≠ resolvePath [] other := by
  intro same
  have opened : [dotByte, dotByte] ∈ openObject base path := by
    rw [openObject, resolve_map_linkComponent]
    apply List.mem_append_right
    rw [List.mem_filterMap]
    exact ⟨.name [dotByte, dotByte], List.mem_map.mpr ⟨_, up, rfl⟩, rfl⟩
  rw [same, resolvePath] at opened
  have start : startOf [] other = [] := by
    rw [startOf]
    split_ifs <;> rfl
  rw [start] at opened
  rcases mem_resolve opened with none_ | meant
  · cases none_
  · rcases List.mem_map.mp meant with ⟨component, _, name⟩
    rw [pathComponent] at name
    split_ifs at name with stays goesUp
    cases name
    exact goesUp rfl

/-! ## Steps up -/

/-- The bytes of a path are those of its components and the slashes. -/
theorem sum_splitOn (path : List UInt8) :
    ((path.splitOn slashByte).map fun component => component.length + 1).sum =
      path.length + 1 := by
  induction path with
  | nil => rfl
  | cons first path induction =>
      rw [List.splitOn_cons_eq_if_modifyHead]
      split
      · rw [List.map_cons, List.sum_cons, induction, List.length_cons,
          List.length_nil]
        omega
      · rcases List.exists_cons_of_ne_nil (List.splitOn_ne_nil slashByte path)
          with ⟨head, components, same⟩
        rw [same, List.map_cons, List.sum_cons] at induction
        rw [same, List.modifyHead_cons, List.map_cons, List.sum_cons,
          List.length_cons, List.length_cons]
        omega

/-- Each step up takes three bytes. -/
theorem three_mul_countP_isUp (components : List (List UInt8)) :
    3 * (components.map pathComponent).countP Component.isUp ≤
      (components.map fun component => component.length + 1).sum := by
  induction components with
  | nil => exact Nat.le_refl 0
  | cons component components induction =>
      rw [List.map_cons, List.countP_cons, List.map_cons, List.sum_cons]
      by_cases up : component = [dotByte, dotByte]
      · subst up
        have one : (pathComponent [dotByte, dotByte]).isUp = true := by decide
        rw [if_pos one]
        show _ ≤ 3 + _
        omega
      · have none_ : (pathComponent component).isUp = false := by
          rw [pathComponent]
          split_ifs
          · rfl
          · rfl
        rw [none_, if_neg Bool.false_ne_true]
        omega

theorem countP_isUp_le (before : List UInt8) :
    (stepsBefore before).countP Component.isUp ≤ before.length / 3 + 1 := by
  have three :=
    three_mul_countP_isUp
      ((before ++ [dotByte, dotByte]).splitOn slashByte)
  rw [sum_splitOn, List.length_append] at three
  have enough :
      3 * (stepsBefore before).countP Component.isUp ≤
        before.length + 3 := three
  omega

/-- The steps up are right from every group. -/
theorem iterate_parent_eq_iff (before : List UInt8) :
    (∀ group,
        parent^[before.length / 3 + 1] group =
          resolve group (stepsBefore before)) ↔
      (stepsBefore before).countP Component.isName = 0 ∧
        (stepsBefore before).countP Component.isUp =
          before.length / 3 + 1 := by
  constructor
  · intro same
    have fewer := countP_isUp_le before
    have long := congrArg List.length
      (same (List.replicate (before.length / 3 + 1) [120]))
    rw [length_iterate_parent, List.length_replicate] at long
    have depth :=
      @length_resolve _ (List.replicate (before.length / 3 + 1) [120])
        (stepsBefore before) (by rw [List.length_replicate]; exact fewer)
    rw [List.length_replicate, ← long] at depth
    omega
  · rintro ⟨none_, all⟩ group
    rw [resolve_of_no_names none_, all]

/-- From a group that is deep enough a path does not end at a fixed node. -/
theorem exists_group_longer (path : List (Component (List UInt8))) (n : Nat) :
    ∃ group, n < (resolve group path).length := by
  refine
    ⟨List.replicate (n + 1 + path.countP Component.isUp) [120], ?_⟩
  have depth :=
    @length_resolve _
      (List.replicate (n + 1 + path.countP Component.isUp) [120]) path
      (by rw [List.length_replicate]; omega)
  rw [List.length_replicate] at depth
  omega

/-! ## Targets -/

theorem openObject_leftOver (base : HdfNodePath) :
    openObject base (leftOver before after) =
      resolve (if LeavesSlash before after then [] else base)
        ((after.splitOn slashByte).map linkComponent) := by
  rcases leftOver_cases before after with
    ⟨place, same⟩ | ⟨place, same⟩ | ⟨place, same⟩
  · have slash :
        LeavesSlash before after ↔ after.head? = some slashByte := by
      rw [LeavesSlash, place]
      simp
    rw [same, openObject, startOf, if_congr slash rfl rfl]
  · have slash : LeavesSlash before after := .inl place
    rw [same, if_pos slash, openObject, startOf, if_pos List.head?_cons,
      List.splitOn_cons_eq_if_modifyHead]
    rfl
  · have slash : ¬ LeavesSlash before after := by
      rw [LeavesSlash, place]
      simp
    rw [same, if_neg slash, openObject, startOf, List.head?_cons,
      if_neg (by decide), List.splitOn_cons_eq_if_modifyHead,
      List.splitOn_cons_eq_if_modifyHead]
    rfl

theorem resolvePath_source :
    resolvePath group (before ++ (dotDotSlash ++ after)) =
      resolve
        (resolve (startOf group (before ++ (dotDotSlash ++ after)))
          (stepsBefore before))
        ((after.splitOn slashByte).map pathComponent) := by
  rw [resolvePath, splitOn_source, List.map_append, resolve_append,
    stepsBefore]

/-- What follows the last step up plays no part. -/
theorem resolvesLikePath_iff
    (last : ¬ dotDotSlash <:+: after)
    (noUp : [dotByte, dotByte] ∉ after.splitOn slashByte) :
    ResolvesLikePath (before ++ (dotDotSlash ++ after)) ↔
      ∀ group,
        (if LeavesSlash before after then []
          else parent^[before.length / 3 + 1] group) =
          resolve (startOf group (before ++ (dotDotSlash ++ after)))
            (stepsBefore before) := by
  apply forall_congr'
  intro group
  have targets :
      openObject (parent^[before.length / 3 + 1] group)
            (leftOver before after) =
          resolvePath group (before ++ (dotDotSlash ++ after)) ↔
        (if LeavesSlash before after then []
          else parent^[before.length / 3 + 1] group) =
          resolve (startOf group (before ++ (dotDotSlash ++ after)))
            (stepsBefore before) := by
    rw [openObject_leftOver, resolvePath_source, map_linkComponent noUp,
      resolve_map_linkComponent, resolve_map_linkComponent,
      List.append_left_inj]
  rw [← targets, takeStepsUp_eq last]
  constructor
  · rintro ⟨groupBase, targetBase, ended, same⟩
    cases ended
    exact same
  · intro same
    exact ⟨_, _, rfl, same⟩

theorem rightFromRoot_iff :
    (∀ group,
        (if LeavesSlash before after then []
          else parent^[before.length / 3 + 1] group) =
          resolve [] (stepsBefore before)) ↔
      RightFromRoot before after := by
  rw [RightFromRoot]
  by_cases slash : LeavesSlash before after
  · simp only [if_pos slash]
    rw [and_iff_left slash]
    exact ⟨fun same => (same []).symm, fun same _ => same.symm⟩
  · simp only [if_neg slash]
    refine iff_of_false ?_ (fun both => slash both.2)
    intro same
    have long := congrArg List.length
      (same
        (List.replicate
          (before.length / 3 + 1 +
            (resolve [] (stepsBefore before)).length + 1) [120]))
    rw [length_iterate_parent, List.length_replicate] at long
    omega

theorem rightFromGroup_iff :
    (∀ group,
        (if LeavesSlash before after then []
          else parent^[before.length / 3 + 1] group) =
          resolve group (stepsBefore before)) ↔
      RightFromGroup before after := by
  rw [RightFromGroup]
  by_cases slash : LeavesSlash before after
  · simp only [if_pos slash]
    refine iff_of_false ?_ (fun all => all.2.2 slash)
    intro same
    rcases exists_group_longer (stepsBefore before) 0 with ⟨group, long⟩
    rw [← same group] at long
    exact Nat.lt_irrefl 0 long
  · simp only [if_neg slash]
    rw [iterate_parent_eq_iff, and_iff_left slash]

theorem mem_splitOn_leftOver {component : List UInt8}
    (member : component ∈ after.splitOn slashByte) :
    component ∈ (leftOver before after).splitOn slashByte := by
  have slash : component ∈ (slashByte :: after).splitOn slashByte := by
    rw [List.splitOn_cons_eq_if_modifyHead]
    exact List.mem_cons_of_mem _ member
  rcases leftOver_cases before after with
    ⟨_, same⟩ | ⟨_, same⟩ | ⟨_, same⟩
  · rwa [same]
  · rwa [same]
  · have apart :
        dotByte :: slashByte :: after = [dotByte] ++ slashByte :: after := rfl
    rw [same, apart, List.splitOn_append_cons_self]
    exact List.mem_append_right _ member

/-- The path after the last step up, from the group that the loop ends at. -/
theorem resolvesLikePath_of_found
    (last : ¬ dotDotSlash <:+: after)
    (noUp : [dotByte, dotByte] ∉ after.splitOn slashByte) :
    ResolvesLikePath (before ++ (dotDotSlash ++ after)) ↔
      if (before ++ (dotDotSlash ++ after)).head? = some slashByte then
        RightFromRoot before after
      else RightFromGroup before after := by
  rw [resolvesLikePath_iff last noUp]
  by_cases root : (before ++ (dotDotSlash ++ after)).head? = some slashByte
  · simp only [startOf, if_pos root]
    exact rightFromRoot_iff
  · simp only [startOf, if_neg root]
    exact rightFromGroup_iff

theorem noUp_of_resolvesLikePath
    (last : ¬ dotDotSlash <:+: after)
    (right : ResolvesLikePath (before ++ (dotDotSlash ++ after))) :
    [dotByte, dotByte] ∉ after.splitOn slashByte := by
  intro up
  rcases right [] with ⟨groupBase, targetBase, ended, same⟩
  rw [takeStepsUp_eq last] at ended
  cases ended
  exact openObject_ne_resolvePath (mem_splitOn_leftOver up) _ same

theorem resolvesLikePath_of_not_found
    (missing : ¬ dotDotSlash <:+: source) :
    ResolvesLikePath source ↔
      [dotByte, dotByte] ∉ source.splitOn slashByte := by
  constructor
  · intro right up
    rcases right [] with ⟨groupBase, targetBase, ended, same⟩
    rw [takeStepsUp_of_not_found missing] at ended
    cases ended
    exact openObject_ne_resolvePath up _ same
  · intro noUp group
    refine ⟨_, _, takeStepsUp_of_not_found missing, ?_⟩
    rw [openObject, resolvePath, map_linkComponent noUp]

/--
A source has the right target from every group exactly if no step up comes
after a name, or from the root in the few cases in which nothing is lost.
-/
theorem resolvesLikePath_iff_rightSource (source : List UInt8) :
    ResolvesLikePath source ↔ RightSource source := by
  by_cases found : dotDotSlash <:+: source
  · constructor
    · intro right
      rcases exists_last_dotDotSlash found with ⟨before, after, rfl, last⟩
      have noUp := noUp_of_resolvesLikePath last right
      exact
        .inr ⟨before, after, rfl, last, noUp,
          (resolvesLikePath_of_found last noUp).mp right⟩
    · rintro (⟨missing, _⟩ | ⟨before, after, rfl, last, noUp, right⟩)
      · exact absurd found missing
      · exact (resolvesLikePath_of_found last noUp).mpr right
  · rw [resolvesLikePath_of_not_found found]
    constructor
    · intro noUp
      exact .inl ⟨found, noUp⟩
    · rintro (⟨_, noUp⟩ | ⟨before, after, rfl, _⟩)
      · exact noUp
      · exact absurd ⟨before, after, List.append_assoc _ _ _⟩ found

/-- The bytes of a text in ASCII. -/
def ascii (text : String) : List UInt8 :=
  text.toList.map fun character => .ofNat character.toNat

/-- Three bytes that are no step up are cut off. -/
theorem not_resolvesLikePath_inner_step :
    ¬ ResolvesLikePath (ascii "a/../b") := by
  intro right
  rcases right [ascii "g"] with ⟨groupBase, targetBase, ended, same⟩
  have last : ¬ dotDotSlash <:+: ascii "b" := by decide
  have parts :
      ascii "a/../b" = ascii "a/" ++ (dotDotSlash ++ ascii "b") := by decide
  have loop := @takeStepsUp_eq [ascii "g"] (ascii "a/") (ascii "b") last
  rw [parts, loop] at ended
  cases ended
  revert same
  decide

/-- In `/éé/../b` the loop takes three steps up, and the slash is lost. -/
example :
    takeStepsUp [ascii "g"]
        ([47, 195, 169, 195, 169, 47] ++ (dotDotSlash ++ ascii "b")) =
      some ([], ascii "b") := by
  rw [takeStepsUp_eq (by decide)]
  decide

end KafkaToNexus.HDFOperations
