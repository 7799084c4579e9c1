import KafkaToNexus.JsonConfig.ConfigFields
import KafkaToNexus.JsonTree
import Mathlib.Order.Lattice

/-!
# Nodes of the NeXus structure

A node is an object that is read into fields.  Whether it is a group or a
module is told by the key under which its type was given; if there are both
keys, `type` is the one that counts, as the greater of them.
-/

namespace KafkaToNexus.HDFOperations

open Foundations JsonConfig

variable {Real : Type}

/-- The fields of a node, in the order in which they are declared. -/
inductive NodeField where
  | name | type | config | children | attributes | target
  | value | stream | size | dataType | space | stringSize
deriving DecidableEq, Repr

namespace NodeField

/-- The fields follow one another in memory. -/
def address : NodeField → Nat
  | name => 0
  | type => 1
  | config => 2
  | children => 3
  | attributes => 4
  | target => 5
  | value => 6
  | stream => 7
  | size => 8
  | dataType => 9
  | space => 10
  | stringSize => 11

theorem address_injective : Function.Injective address := by
  intro first second same
  cases first <;> cases second <;> first | rfl | cases same

instance : LinearOrder NodeField :=
  LinearOrder.lift' address address_injective

def all : List NodeField :=
  [name, type, config, children, attributes, target,
    value, stream, size, dataType, space, stringSize]

end NodeField

/-- A field that keeps any JSON value as it is. -/
def jsonType : FieldType Real :=
  .other (JsonValue Real) .null .ok

def sizeType (truncate : Real → UInt64) : FieldType Real :=
  .other UInt64 0 fun value =>
    match value.toSize truncate with
    | some size => .ok size
    | none => .error .typeError

def nodeField (truncate : Real → UInt64) : NodeField → FieldBase Real
  | .name => .field .string ["name"] ""
  | .type => .requiredField .string ["type", "module"]
  | .config => .field jsonType ["config"] (.string "")
  | .children => .field jsonType ["children"] (.string "")
  | .attributes => .field jsonType ["attributes"] (.string "")
  | .target => .field .string ["target"] ""
  | .value => .obsoleteField jsonType ["value", "values"]
  | .stream => .obsoleteField jsonType ["stream"]
  | .size => .obsoleteField jsonType ["size"]
  | .dataType => .obsoleteField .string ["dtype"]
  | .space => .obsoleteField .string ["space"]
  | .stringSize => .obsoleteField (sizeType truncate) ["string_size"]

/-- What is used of a node. -/
structure JSONHdfNode (Real : Type) where
  name : String
  /-- The key under which the type was given. -/
  usedKey : String
  type : String
  config : JsonValue Real
  /-- What was given as children, if anything was. -/
  children : Option (JsonValue Real)

/-- What the library does and how keys are printed. -/
structure NodeReader (Real : Type) where
  library : JsonText Real
  truncate : Real → UInt64
  formatKeys : List String → String

namespace NodeReader

variable (reader : NodeReader Real)

def nodeOf (fields : Fields (nodeField reader.truncate)) :
    JSONHdfNode Real where
  name := (fields .name).fieldValue
  usedKey := (fields .type).usedKey
  type := (fields .type).fieldValue
  config := (fields .config).fieldValue
  children :=
    if (fields .children).gotDefault then none
    else some (fields .children).fieldValue

/-- The constructor of a node. -/
def read (value : JsonValue Real) :
    Except FieldException (JSONHdfNode Real) :=
  let field := nodeField reader.truncate
  match
    processConfigData field reader.library reader.formatKeys
      (registered field NodeField.all) value (initialFields field)
  with
  | (fields, none) => .ok (reader.nodeOf fields)
  | (_, some failure) => .error failure

end NodeReader

/-! ## Children -/

theorem getKeys_nodeField (truncate : Real → UInt64) (field : NodeField) :
    (nodeField truncate field).getKeys =
      (nodeField (fun _ : Unit => 0) field).getKeys := by
  cases field <;> rfl

/-- No two fields of a node share a key. -/
theorem disjointKeys_nodeField (truncate : Real → UInt64) :
    DisjointKeys (nodeField truncate) NodeField.all := by
  have closed :
      ∀ first ∈ NodeField.all, ∀ second ∈ NodeField.all,
        ∀ key ∈ (nodeField (fun _ : Unit => 0) first).getKeys,
          key ∈ (nodeField (fun _ : Unit => 0) second).getKeys →
            first = second := by
    decide +kernel
  intro first member second also key own shared
  rw [getKeys_nodeField] at own shared
  exact closed first member second also key own shared

variable {reader : NodeReader Real} {members : List (String × JsonValue Real)}
  {node : JSONHdfNode Real}

/-- What a field of JSON values with one key is given. -/
theorem children_of_settled
    {truncate : Real → UInt64} {library : JsonText Real}
    {initial final : FieldState (JsonValue Real)}
    (sorted : SortedMembers members)
    (settled :
      Settled library (nodeField truncate .children) members initial final)
    (fresh : initial.gotDefault = true) :
    (if final.gotDefault then none else some final.fieldValue) =
      members.lookup "children" := by
  rcases settled with
    ⟨nothing, rfl⟩ | ⟨key, value, newValue, greatest, present, taken, rfl⟩
  · rw [if_pos fresh, eq_comm]
    by_contra given
    rcases Option.ne_none_iff_exists'.mp given with ⟨value, found⟩
    have there : ("children", value) ∈ members :=
      OrderedMap.mem_of_find found
    have member :
        "children" ∈
          givenKeys library (nodeField truncate .children) members :=
      ⟨List.mem_singleton_self _, value, there, rfl⟩
    rw [nothing] at member
    exact member
  · cases List.mem_singleton.mp greatest.1.1
    cases taken
    exact (sorted.find_of_mem present).symm

/-- The way through text gives back what the node has as children. -/
theorem NodeReader.read_children
    (sorted : SortedMembers members)
    (faithful :
      FaithfulConversions reader.library (nodeField reader.truncate)
        NodeField.all members)
    (returned : reader.read (.object members) = .ok node) :
    node.children = members.lookup "children" := by
  have disjoint := disjointKeys_nodeField reader.truncate
  have settled :=
    @settled_foldl _ _ _ reader.library _ _ _
      (initialFields (nodeField reader.truncate)) .children disjoint
      (show NodeField.children ∈ NodeField.all by decide) sorted
  rw [NodeReader.read] at returned
  simp only [processConfigData_eq disjoint faithful] at returned
  generalize members.foldl _ _ = final at returned settled
  have same := @checkRequired_fields _ _ _ (nodeField reader.truncate) final
    reader.formatKeys (registered (nodeField reader.truncate) NodeField.all)
  rcases ran :
      checkRequired (nodeField reader.truncate) reader.formatKeys
        (registered (nodeField reader.truncate) NodeField.all) final
    with ⟨fields, _ | failure⟩
  · rw [ran] at returned same
    cases same
    cases returned
    exact children_of_settled sorted settled rfl
  · rw [ran] at returned
    cases returned

end KafkaToNexus.HDFOperations
