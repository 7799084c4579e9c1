import KafkaToNexus.JsonValue
import Mathlib.Tactic.TypeStar

/-!
# Trees of JSON objects

An object can have an array of further values under some key, which are its
children.  A function on such trees is given by what it does at a node with the
results for the children; it then satisfies the equation that one would write
down for it.
-/

namespace KafkaToNexus.JsonValue

variable {Real : Type} {Result : Type*}

/-- The children of a node, in the order of the array. -/
def childrenOf (key : String) : JsonValue Real → List (JsonValue Real)
  | object members => ((members.lookup key).map items).getD []
  | _ => []

section Fold

variable (key : String) (node : JsonValue Real → List Result → Result)

mutual

/-- The result for a node, from those for its children. -/
def foldNode : JsonValue Real → Result
  | object members => node (object members) (foldMembers members)
  | value => node value []

def foldMembers : List (String × JsonValue Real) → List Result
  | [] => []
  | (other, value) :: members =>
      if key = other then foldItems value else foldMembers members

def foldItems : JsonValue Real → List Result
  | array items => foldList items
  | _ => []

def foldList : List (JsonValue Real) → List Result
  | [] => []
  | item :: items => foldNode item :: foldList items

end

variable {key node}

theorem foldList_eq (items : List (JsonValue Real)) :
    foldList key node items = items.map (foldNode key node) := by
  induction items with
  | nil => rfl
  | cons item items induction =>
      rw [foldList, induction, List.map_cons]

theorem foldItems_eq (value : JsonValue Real) :
    foldItems key node value = value.items.map (foldNode key node) := by
  cases value with
  | array items => rw [foldItems, foldList_eq, JsonValue.items]
  | _ => rfl

/-- The equation of a function on trees. -/
theorem foldNode_eq (value : JsonValue Real) :
    foldNode key node value =
      node value ((value.childrenOf key).map (foldNode key node)) := by
  cases value with
  | object members =>
      rw [foldNode, childrenOf]
      congr 1
      induction members with
      | nil => rfl
      | cons member members induction =>
          rcases member with ⟨other, value⟩
          rw [foldMembers, List.lookup_cons]
          by_cases here : key = other
          · rw [if_pos here, foldItems_eq, beq_iff_eq.mpr here]
            rfl
          · rw [if_neg here, induction, beq_false_of_ne here]
  | _ => rfl

end Fold

/-- Induction on a tree: what holds for the children holds for the node. -/
@[elab_as_elim]
theorem nodeInduction (key : String)
    {motive : JsonValue Real → Prop}
    (node :
      ∀ value, (∀ child ∈ value.childrenOf key, motive child) →
        motive value)
    (value : JsonValue Real) :
    motive value := by
  have leaf (value : JsonValue Real) (none_ : value.items = [])
      (childless : value.childrenOf key = []) :
      motive value ∧ ∀ item ∈ value.items, motive item := by
    constructor
    · apply node
      rw [childless]
      exact List.forall_mem_nil _
    · rw [none_]
      exact List.forall_mem_nil _
  suffices both : motive value ∧ ∀ item ∈ value.items, motive item from
    both.1
  refine
    @JsonValue.rec Real
      (fun value => motive value ∧ ∀ item ∈ value.items, motive item)
      (fun items => ∀ item ∈ items, motive item)
      (fun members =>
        ∀ child ∈ ((members.lookup key).map items).getD [], motive child)
      (fun member => ∀ item ∈ member.2.items, motive item)
      (leaf _ rfl rfl) (fun _ => leaf _ rfl rfl) (fun _ => leaf _ rfl rfl)
      (fun _ => leaf _ rfl rfl) (fun _ => leaf _ rfl rfl)
      (fun _ => leaf _ rfl rfl) ?array ?object ?noItems ?moreItems
      ?noMembers ?moreMembers ?member value
  case array =>
    intro items all
    exact ⟨node _ (List.forall_mem_nil _), all⟩
  case object =>
    intro members children
    exact ⟨node _ children, List.forall_mem_nil _⟩
  case noItems => exact List.forall_mem_nil _
  case moreItems =>
    intro item items first others
    exact List.forall_mem_cons.mpr ⟨first.1, others⟩
  case noMembers => exact List.forall_mem_nil _
  case moreMembers =>
    rintro ⟨other, value⟩ members first others
    rw [List.lookup_cons]
    split
    · exact first
    · exact others
  case member =>
    intro other value both
    exact both.2

end KafkaToNexus.JsonValue
