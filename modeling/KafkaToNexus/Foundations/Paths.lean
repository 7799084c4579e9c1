import Mathlib.Data.List.Basic
import Mathlib.Logic.Function.Iterate

/-!
# Paths in a tree of names

A node is given by the names on the way to it from the root, which is its own
parent.  A path is followed one component after the other: a component stays at
the node, goes up to its parent or goes down by a name.  From a node that is
deep enough, how deep the path ends is told by the number of its steps up and
down.
-/

namespace KafkaToNexus.Foundations.Paths

inductive Component (Name : Type*) where
  | stay
  | up
  | name (name : Name)
deriving DecidableEq, Repr

variable {Name : Type*}

def parent (node : List Name) : List Name :=
  node.dropLast

def follow (node : List Name) : Component Name → List Name
  | .stay => node
  | .up => parent node
  | .name name => node ++ [name]

/-- The node that a path leads to. -/
def resolve (node : List Name) (path : List (Component Name)) : List Name :=
  path.foldl follow node

namespace Component

def isUp : Component Name → Bool
  | up => true
  | _ => false

def isName : Component Name → Bool
  | name _ => true
  | _ => false

/-- The name that a component goes down by. -/
def toName : Component Name → Option Name
  | name down => some down
  | _ => none

end Component

variable {node : List Name} {path more : List (Component Name)}

theorem resolve_append :
    resolve node (path ++ more) = resolve (resolve node path) more :=
  List.foldl_append

/-- The depth of the end of a path that does not leave the tree. -/
theorem length_resolve
    (deep : path.countP Component.isUp ≤ node.length) :
    (resolve node path).length + path.countP Component.isUp =
      node.length + path.countP Component.isName := by
  induction path generalizing node with
  | nil => rfl
  | cons component path induction =>
      rw [List.countP_cons] at deep
      rw [resolve, List.foldl_cons, List.countP_cons, List.countP_cons]
      cases component with
      | stay => exact induction deep
      | up =>
          have above : path.countP Component.isUp + 1 ≤ node.length := deep
          have shorter : (parent node).length = node.length - 1 :=
            List.length_dropLast
          have later :=
            @induction (parent node)
              (shorter ▸ Nat.le_sub_of_add_le above)
          rw [shorter] at later
          calc
            (resolve (parent node) path).length +
                  (path.countP Component.isUp + 1)
                = (node.length - 1 + path.countP Component.isName) + 1 :=
              congrArg (· + 1) later
            _ = node.length + path.countP Component.isName := by omega
      | name name =>
          have later :=
            @induction (node ++ [name])
              (by rw [List.length_append]; exact Nat.le_succ_of_le deep)
          rw [List.length_append] at later
          exact later.trans (Nat.add_right_comm _ _ _)

/-- Without names a path only goes up. -/
theorem resolve_of_no_names
    (none_ : path.countP Component.isName = 0) :
    resolve node path = parent^[path.countP Component.isUp] node := by
  induction path generalizing node with
  | nil => rfl
  | cons component path induction =>
      rw [List.countP_cons] at none_
      rw [resolve, List.foldl_cons, List.countP_cons]
      cases component with
      | stay => exact induction none_
      | up => exact induction none_
      | name name => cases none_

/-- Without steps up a path adds its names. -/
theorem resolve_of_no_ups
    (none_ : path.countP Component.isUp = 0) :
    resolve node path = node ++ path.filterMap Component.toName := by
  induction path generalizing node with
  | nil => exact (List.append_nil node).symm
  | cons component path induction =>
      rw [List.countP_cons] at none_
      rw [resolve, List.foldl_cons, List.filterMap_cons]
      cases component with
      | stay => exact induction none_
      | up => cases none_
      | name name =>
          exact (induction none_).trans (List.append_assoc node [name] _)

/-- A path ends at a node with names from where it starts and its own. -/
theorem mem_resolve {name : Name} (member : name ∈ resolve node path) :
    name ∈ node ∨ .name name ∈ path := by
  induction path generalizing node with
  | nil => exact .inl member
  | cons component path induction =>
      rcases induction member with before | later
      · cases component with
        | stay => exact .inl before
        | up => exact .inl (List.dropLast_subset _ before)
        | name other =>
            rcases List.mem_append.mp before with old | new
            · exact .inl old
            · rw [List.mem_singleton.mp new]
              exact .inr List.mem_cons_self
      · exact .inr (List.mem_cons_of_mem _ later)

theorem length_iterate_parent (steps : Nat) :
    (parent^[steps] node).length = node.length - steps := by
  induction steps generalizing node with
  | zero => rfl
  | succ steps induction =>
      rw [Function.iterate_succ_apply, induction, parent,
        List.length_dropLast, Nat.sub_sub, Nat.add_comm]

end KafkaToNexus.Foundations.Paths
