import KafkaToNexus.Foundations.OrderedMap
import KafkaToNexus.Foundations.Throwing
import KafkaToNexus.JsonConfig.Field
import Mathlib.Data.Finset.Sort
import Mathlib.Data.String.Basic

/-!
# The handler of the fields

A handler knows the fields by their keys.  It goes through the members of a
JSON object in the order of the keys and gives each value, as text, to the
field with that key; a value of the wrong type is only reported.  At the end it
looks for required fields that still have their default.

Fields are known by their addresses, which are ordered, as the set of the
missing fields is.
-/

namespace KafkaToNexus.JsonConfig

open Foundations

variable {Real Pointer : Type}

/-- What `processConfigData` throws. -/
inductive FieldException where
  | json (failure : JsonException)
  | runtimeError (what : String)
deriving DecidableEq, Repr

/-- The fields by their keys. -/
abbrev FieldMap (Pointer : Type) := OrderedMap String Pointer

/-- What has been stored in the fields. -/
abbrev Fields (field : Pointer → FieldBase Real) :=
  (pointer : Pointer) → FieldState (field pointer).type.Value

/-! ## Registration -/

section Registration

variable (field : Pointer → FieldBase Real)

/-- A key that is there already gets the new field. -/
def registerField (fieldMap : FieldMap Pointer) (pointer : Pointer) :
    FieldMap Pointer :=
  (field pointer).getKeys.foldl
    (fun fieldMap key => fieldMap.assign key pointer) fieldMap

/-- The keys after all fields have been constructed. -/
def registered (pointers : List Pointer) : FieldMap Pointer :=
  pointers.foldl (registerField field) []

end Registration

variable {field : Pointer → FieldBase Real} {fieldMap : FieldMap Pointer}
  {pointer : Pointer} {pointers : List Pointer} {key : String}

theorem find_registerField :
    (registerField field fieldMap pointer).find key =
      if key ∈ (field pointer).getKeys then some pointer
      else fieldMap.find key := by
  suffices all :
      ∀ keys : List String,
        OrderedMap.find
            (keys.foldl (fun fieldMap key => fieldMap.assign key pointer)
              fieldMap) key =
          if key ∈ keys then some pointer else fieldMap.find key from
    all _
  intro keys
  induction keys generalizing fieldMap with
  | nil => rw [List.foldl_nil, if_neg List.not_mem_nil]
  | cons first keys induction =>
      rw [List.foldl_cons, induction, OrderedMap.find_assign]
      by_cases later : key ∈ keys
      · rw [if_pos later, if_pos (List.mem_cons_of_mem first later)]
      · rw [if_neg later]
        by_cases here : key = first
        · rw [if_pos here, here, if_pos List.mem_cons_self]
        · rw [if_neg here, if_neg]
          rw [List.mem_cons, not_or]
          exact ⟨here, later⟩

theorem sorted_registerField (sorted : fieldMap.Sorted) :
    (registerField field fieldMap pointer).Sorted := by
  rw [registerField]
  generalize (field pointer).getKeys = keys
  induction keys generalizing fieldMap with
  | nil => exact sorted
  | cons key keys induction => exact induction sorted.assign

theorem sorted_registered : (registered field pointers).Sorted := by
  suffices all :
      ∀ fieldMap : FieldMap Pointer, fieldMap.Sorted →
        OrderedMap.Sorted (pointers.foldl (registerField field) fieldMap) from
    all [] List.Pairwise.nil
  induction pointers with
  | nil =>
      intro fieldMap sorted
      exact sorted
  | cons pointer pointers induction =>
      intro fieldMap sorted
      exact induction _ (sorted_registerField sorted)

/-- The keys of different fields are different. -/
def DisjointKeys
    (field : Pointer → FieldBase Real) (pointers : List Pointer) : Prop :=
  ∀ first ∈ pointers, ∀ second ∈ pointers, ∀ key,
    key ∈ (field first).getKeys → key ∈ (field second).getKeys →
      first = second

/-- Under its keys a field is found, and nothing under any other key. -/
theorem find_registered (disjoint : DisjointKeys field pointers) :
    (registered field pointers).find key = some pointer ↔
      pointer ∈ pointers ∧ key ∈ (field pointer).getKeys := by
  suffices all :
      ∀ fieldMap : FieldMap Pointer,
        OrderedMap.find (pointers.foldl (registerField field) fieldMap) key =
            some pointer ↔
          (pointer ∈ pointers ∧ key ∈ (field pointer).getKeys) ∨
            (∀ other ∈ pointers, key ∉ (field other).getKeys) ∧
              fieldMap.find key = some pointer by
    rw [registered, all, or_iff_left]
    rintro ⟨_, found⟩
    cases found
  induction pointers with
  | nil =>
      intro fieldMap
      simp
  | cons first pointers induction =>
      intro fieldMap
      have others : DisjointKeys field pointers :=
        fun first member second also =>
          disjoint first (List.mem_cons_of_mem _ member)
            second (List.mem_cons_of_mem _ also)
      rw [List.foldl_cons, induction others, find_registerField,
        List.forall_mem_cons, List.mem_cons]
      by_cases here : key ∈ (field first).getKeys
      · rw [if_pos here, Option.some.injEq]
        constructor
        · rintro (⟨member, there⟩ | ⟨_, rfl⟩)
          · exact .inl ⟨.inr member, there⟩
          · exact .inl ⟨.inl rfl, here⟩
        · rintro (⟨rfl | member, there⟩ | ⟨⟨none_, _⟩, _⟩)
          · by_cases later : pointer ∈ pointers
            · exact .inl ⟨later, there⟩
            · refine .inr ⟨?_, rfl⟩
              intro other member also
              have same :=
                disjoint pointer List.mem_cons_self other
                  (List.mem_cons_of_mem _ member) key there also
              exact later (same ▸ member)
          · exact .inl ⟨member, there⟩
          · exact absurd here none_
      · rw [if_neg here]
        constructor
        · rintro (⟨member, there⟩ | ⟨none_, found⟩)
          · exact .inl ⟨.inr member, there⟩
          · exact .inr ⟨⟨here, none_⟩, found⟩
        · rintro (⟨rfl | member, there⟩ | ⟨⟨_, none_⟩, found⟩)
          · exact absurd there here
          · exact .inl ⟨member, there⟩
          · exact .inr ⟨none_, found⟩

/-! ## The loop over a configuration -/

section Handler

variable (field : Pointer → FieldBase Real)

/-- The fields as they are constructed. -/
def initialFields : Fields field :=
  fun pointer => { fieldValue := (field pointer).defaultValue }

variable [LinearOrder Pointer] (library : JsonText Real)
  (formatKeys : List String → String) (fieldMap : FieldMap Pointer)

/-- Hand one member of the object to its field. -/
def setMember (member : String × JsonValue Real) :
    Throwing (Fields field) FieldException :=
  fun fields =>
    match fieldMap.find member.1 with
    | none => (fields, none)
    | some pointer =>
        let state := do
          let text ← library.dump member.2
          setValue library member.1 text (field pointer) (fields pointer)
        match state with
        | .ok state => (Function.update fields pointer state, none)
        | .error .typeError => (fields, none)
        | .error failure => (fields, some (.json failure))

/-- The required fields that still have their default. -/
def missingFields (fields : Fields field) : Finset Pointer :=
  ((fieldMap.map Prod.snd).filter fun pointer =>
    (field pointer).isRequired && (fields pointer).gotDefault).toFinset

/-- The keys of the fields with a number in front of those of each field. -/
def listOfKeys : List Pointer → String
  | [] => ""
  | first :: others =>
      (others.zipIdx 2).foldl
        (fun keys other =>
          keys ++ " " ++ toString other.2 ++ ". " ++
            formatKeys (field other.1).getKeys)
        ("1. " ++ formatKeys (field first).getKeys)

/-- Throw if a required field is missing. -/
def checkRequired : Throwing (Fields field) FieldException :=
  fun fields =>
    let missing := missingFields field fieldMap fields
    if missing = ∅ then (fields, none)
    else
      (fields, some (.runtimeError
        ("Missing (required) json config field(s) with key(s): " ++
          listOfKeys field formatKeys missing.sort)))

/-- What the loop over a JSON value does.  Only an object has keys. -/
def setMembers : JsonValue Real → List (Throwing (Fields field) FieldException)
  | .object members => members.map (setMember field library fieldMap)
  | .null => []
  | .array [] => []
  | _ => [fun fields => (fields, some (.json .invalidIterator))]

def processConfigData (jsonObj : JsonValue Real) :
    Throwing (Fields field) FieldException :=
  Throwing.inOrder
    (setMembers field library fieldMap jsonObj ++
      [checkRequired field formatKeys fieldMap])

end Handler

end KafkaToNexus.JsonConfig
