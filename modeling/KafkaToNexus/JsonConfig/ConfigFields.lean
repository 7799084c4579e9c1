import KafkaToNexus.JsonConfig.FieldHandler
import Mathlib.Order.Bounds.Basic

/-!
# What the fields of a configuration end with

The members of an object are handed over in the order of their keys.  What a
field has in the end is therefore what was given under the greatest of its
keys, among those with a value that the field accepts.  Required fields are
missing exactly where there is no such key.
-/

namespace KafkaToNexus.JsonConfig

open Foundations

variable {Real Pointer : Type}

/-- An object as the library keeps it: one member a key, in their order. -/
abbrev SortedMembers (members : List (String × JsonValue Real)) : Prop :=
  OrderedMap.Sorted members

/-- The keys under which a field is given a value that it accepts. -/
def givenKeys
    (library : JsonText Real) (field : FieldBase Real)
    (members : List (String × JsonValue Real)) : Set String :=
  {key | key ∈ field.getKeys ∧
    ∃ value, (key, value) ∈ members ∧
      (accepted library field value).isSome}

/-- The greatest of these keys decides. -/
def Settled
    (library : JsonText Real) (field : FieldBase Real)
    (members : List (String × JsonValue Real))
    (initial final : FieldState field.type.Value) : Prop :=
  givenKeys library field members = ∅ ∧ final = initial ∨
    ∃ key value newValue,
      IsGreatest (givenKeys library field members) key ∧
        (key, value) ∈ members ∧
          accepted library field value = some newValue ∧
            final =
              { gotDefault := false, usedKey := key, fieldValue := newValue }

/-- The value is of use to one of the fields. -/
def Effective
    (library : JsonText Real) (field : Pointer → FieldBase Real)
    (pointers : List Pointer) (member : String × JsonValue Real) : Prop :=
  ∃ pointer ∈ pointers, member.1 ∈ (field pointer).getKeys ∧
    (accepted library (field pointer) member.2).isSome

/--
The conversions do what they are documented to do: the values that reach a
field survive the way through text, and a value that is not converted is
reported as a type error.
-/
structure FaithfulConversions
    (library : JsonText Real) (field : Pointer → FieldBase Real)
    (pointers : List Pointer)
    (members : List (String × JsonValue Real)) : Prop where
  roundTrip :
    ∀ member ∈ members, ∀ pointer ∈ pointers,
      member.1 ∈ (field pointer).getKeys →
        ∃ text, library.dump member.2 = .ok text ∧
          library.parse text = .ok member.2
  typeErrors :
    ∀ pointer ∈ pointers, ∀ value failure,
      (field pointer).type.get value = .error failure → failure = .typeError

/-! ## The keys that are given -/

section Keys

variable {library : JsonText Real} {one : FieldBase Real}
  {members : List (String × JsonValue Real)}
  {member : String × JsonValue Real}

theorem givenKeys_concat :
    givenKeys library one (members ++ [member]) =
      givenKeys library one members ∪
        givenKeys library one [member] := by
  ext key
  constructor
  · rintro ⟨own, value, present, converts⟩
    rcases List.mem_append.mp present with before | last
    · exact .inl ⟨own, value, before, converts⟩
    · exact .inr ⟨own, value, last, converts⟩
  · rintro (⟨own, value, present, converts⟩ | ⟨own, value, present, converts⟩)
    · exact ⟨own, value, List.mem_append_left _ present, converts⟩
    · exact ⟨own, value, List.mem_append_right _ present, converts⟩

theorem mem_givenKeys_singleton {key : String} :
    key ∈ givenKeys library one [member] ↔
      key = member.1 ∧ member.1 ∈ one.getKeys ∧
        (accepted library one member.2).isSome := by
  constructor
  · rintro ⟨own, value, present, converts⟩
    cases List.mem_singleton.mp present
    exact ⟨rfl, own, converts⟩
  · rintro ⟨rfl, own, converts⟩
    exact ⟨own, member.2, List.mem_singleton_self _, converts⟩

end Keys

/-! ## One member -/

section Steps

variable [LinearOrder Pointer] {library : JsonText Real}
  {field : Pointer → FieldBase Real} {pointers : List Pointer}
  {members : List (String × JsonValue Real)}
  {member : String × JsonValue Real} {fields : Fields field}
  {pointer : Pointer}

/-- The fields after a member, where conversions only fail by type. -/
def takeMember
    (library : JsonText Real) (field : Pointer → FieldBase Real)
    (fieldMap : FieldMap Pointer) (fields : Fields field)
    (member : String × JsonValue Real) : Fields field :=
  match fieldMap.find member.1 with
  | none => fields
  | some pointer =>
      match accepted library (field pointer) member.2 with
      | none => fields
      | some newValue =>
          Function.update fields pointer
            (setValueInternal member.1 newValue)

theorem setMember_eq
    (disjoint : DisjointKeys field pointers)
    (faithful : FaithfulConversions library field pointers members)
    (present : member ∈ members) :
    setMember field library (registered field pointers) member fields =
      (takeMember library field (registered field pointers) fields member,
        none) := by
  rw [setMember, takeMember]
  cases found : (registered field pointers).find member.1 with
  | none => rfl
  | some pointer =>
      rcases (find_registered disjoint).mp found with ⟨known, key⟩
      rcases faithful.roundTrip member present pointer known key with
        ⟨text, dumped, parsed⟩
      have whole :
          (do
            let text ← library.dump member.2
            setValue library member.1 text (field pointer)
              (fields pointer)) =
            setValue library member.1 text (field pointer)
              (fields pointer) := by
        rw [dumped]
        rfl
      simp only [whole]
      cases taken : accepted library (field pointer) member.2 with
      | some newValue =>
          rw [setValue_of_accepted dumped parsed taken]
      | none =>
          have outcomes :
              setValue library member.1 text (field pointer)
                    (fields pointer) = .ok (fields pointer) ∨
                setValue library member.1 text (field pointer)
                    (fields pointer) = .error .typeError :=
            setValue_of_not_accepted dumped parsed
              (faithful.typeErrors pointer known member.2) taken
              (fields pointer)
          rcases outcomes with ignored | refused
          · rw [ignored]
            simp only [Function.update_eq_self]
          · rw [refused]

/-- A member changes the field with its key, if that accepts the value. -/
theorem takeMember_apply
    (disjoint : DisjointKeys field pointers) (known : pointer ∈ pointers) :
    takeMember library field (registered field pointers) fields member
        pointer =
      if member.1 ∈ (field pointer).getKeys then
        match accepted library (field pointer) member.2 with
        | none => fields pointer
        | some newValue => setValueInternal member.1 newValue
      else fields pointer := by
  rw [takeMember]
  split_ifs with key
  · rw [(find_registered disjoint).mpr ⟨known, key⟩]
    simp only
    cases accepted library (field pointer) member.2 with
    | none => rfl
    | some newValue => exact Function.update_self _ _ _
  · cases found : (registered field pointers).find member.1 with
    | none => rfl
    | some other =>
        have differs : pointer ≠ other := by
          rintro rfl
          exact key ((find_registered disjoint).mp found).2
        simp only
        cases accepted library (field other) member.2 with
        | none => rfl
        | some newValue => exact Function.update_of_ne differs _ _

/-- A member without effect leaves all fields as they are. -/
theorem takeMember_of_not_effective
    (disjoint : DisjointKeys field pointers)
    (useless : ¬ Effective library field pointers member) :
    takeMember library field (registered field pointers) fields member =
      fields := by
  rw [takeMember]
  cases found : (registered field pointers).find member.1 with
  | none => rfl
  | some pointer =>
      rcases (find_registered disjoint).mp found with ⟨known, key⟩
      simp only
      cases taken : accepted library (field pointer) member.2 with
      | none => rfl
      | some newValue =>
          refine absurd ⟨pointer, known, key, ?_⟩ useless
          exact Option.isSome_of_eq_some taken

/-! ## All members -/

section Settling

variable {one : FieldBase Real} {initial final : FieldState one.type.Value}

/-- A field is settled by an accepted value under a greater key. -/
theorem settled_of_accepted {newValue : one.type.Value}
    (last : ∀ key ∈ givenKeys library one members, key < member.1)
    (own : member.1 ∈ one.getKeys)
    (taken : accepted library one member.2 = some newValue) :
    Settled library one (members ++ [member]) initial
      (setValueInternal member.1 newValue) := by
  have converts : (accepted library one member.2).isSome :=
    Option.isSome_of_eq_some taken
  refine .inr ⟨member.1, member.2, newValue, ⟨?_, ?_⟩, ?_, taken, rfl⟩
  · rw [givenKeys_concat]
    exact .inr (mem_givenKeys_singleton.mpr ⟨rfl, own, converts⟩)
  · rw [givenKeys_concat]
    rintro key (given | given)
    · exact (last key given).le
    · exact (mem_givenKeys_singleton.mp given).1.le
  · exact List.mem_append_right _ (List.mem_singleton_self member)

/-- A member that is of no use to a field leaves it settled. -/
theorem Settled.of_ignored
    (settled : Settled library one members initial final)
    (useless :
      ¬(member.1 ∈ one.getKeys ∧ (accepted library one member.2).isSome)) :
    Settled library one (members ++ [member]) initial final := by
  have nothing : givenKeys library one [member] = ∅ := by
    ext key
    rw [mem_givenKeys_singleton]
    constructor
    · exact fun given => useless given.2
    · exact False.elim
  rw [Settled, givenKeys_concat, nothing, Set.union_empty]
  rcases settled with same | ⟨key, value, newValue, greatest, present, rest⟩
  · exact .inl same
  · refine .inr ⟨key, value, newValue, greatest, ?_, rest⟩
    exact List.mem_append_left _ present

end Settling

/-- A field is settled by the members that have been handed over. -/
theorem settled_foldl
    (disjoint : DisjointKeys field pointers) (known : pointer ∈ pointers)
    (sorted : SortedMembers members) :
    Settled library (field pointer) members (fields pointer)
      (members.foldl
        (takeMember library field (registered field pointers)) fields
        pointer) := by
  induction members using List.reverseRecOn with
  | nil =>
      refine .inl ⟨?_, rfl⟩
      ext key
      constructor
      · rintro ⟨_, value, present, _⟩
        cases present
      · exact False.elim
  | append_singleton members member induction =>
      rcases List.pairwise_append.mp sorted with ⟨before, _, smaller⟩
      have settled := induction before
      rw [List.foldl_append, List.foldl_cons, List.foldl_nil,
        takeMember_apply disjoint known]
      by_cases own : member.1 ∈ (field pointer).getKeys
      · rw [if_pos own]
        cases taken : accepted library (field pointer) member.2 with
        | none =>
            apply settled.of_ignored
            rintro ⟨_, converts⟩
            rw [taken] at converts
            cases converts
        | some newValue =>
            refine settled_of_accepted ?_ own taken
            rintro key ⟨_, value, present, _⟩
            exact smaller _ present member (List.mem_singleton_self member)
      · rw [if_neg own]
        exact settled.of_ignored fun useful => own useful.1

/-- The loop hands over every member and never throws. -/
theorem processConfigData_eq
    (disjoint : DisjointKeys field pointers)
    (faithful : FaithfulConversions library field pointers members)
    (formatKeys : List String → String) :
    processConfigData field library formatKeys (registered field pointers)
        (.object members) fields =
      checkRequired field formatKeys (registered field pointers)
        (members.foldl
          (takeMember library field (registered field pointers)) fields) := by
  have step (member : String × JsonValue Real) (present : member ∈ members)
      (fields : Fields field) :
      setMember field library (registered field pointers) member fields =
        (takeMember library field (registered field pointers) fields member,
          none) :=
    setMember_eq disjoint faithful present
  have quiet :
      ∀ piece ∈
          members.map (setMember field library (registered field pointers)),
        ∀ fields, (piece fields).2 = none := by
    intro piece some_ fields
    rcases List.mem_map.mp some_ with ⟨member, present, rfl⟩
    rw [step member present]
  have same :
      members.foldl
          (fun fields member =>
            (setMember field library (registered field pointers) member
              fields).1) fields =
        members.foldl
          (takeMember library field (registered field pointers)) fields := by
    apply List.foldl_ext
    intro fields member present
    rw [step member present]
  rw [processConfigData, setMembers,
    Throwing.inOrder_append_of_quiet quiet, List.foldl_map, same]
  generalize members.foldl _ fields = final
  rcases checked :
      checkRequired field formatKeys (registered field pointers) final
    with ⟨next, _ | failure⟩
  · rw [Throwing.inOrder_of_returned checked]
    rfl
  · rw [Throwing.inOrder_of_threw checked]

theorem mem_missingFields
    (disjoint : DisjointKeys field pointers) :
    pointer ∈ missingFields field (registered field pointers) fields ↔
      pointer ∈ pointers ∧ (field pointer).getKeys ≠ [] ∧
        (field pointer).isRequired ∧ (fields pointer).gotDefault := by
  have mapped :
      pointer ∈ (registered field pointers).map Prod.snd ↔
        pointer ∈ pointers ∧ (field pointer).getKeys ≠ [] := by
    rw [List.mem_map]
    constructor
    · rintro ⟨⟨key, _⟩, entry, rfl⟩
      rcases
          (find_registered disjoint).mp (sorted_registered.find_of_mem entry)
        with ⟨known, own⟩
      exact ⟨known, List.ne_nil_of_mem own⟩
    · rintro ⟨known, keyed⟩
      rcases List.exists_mem_of_ne_nil _ keyed with ⟨key, own⟩
      refine ⟨(key, pointer), ?_, rfl⟩
      exact sorted_registered.mem_iff.mpr
        ((find_registered disjoint).mpr ⟨known, own⟩)
  rw [missingFields, List.mem_toFinset, List.mem_filter, mapped,
    Bool.and_eq_true, and_assoc]

/-- The check throws exactly if there is a missing field. -/
theorem checkRequired_threw_iff {formatKeys : List String → String}
    {fieldMap : FieldMap Pointer} :
    (∃ what,
        (checkRequired field formatKeys fieldMap fields).2 =
          some (.runtimeError what)) ↔
      ∃ pointer, pointer ∈ missingFields field fieldMap fields := by
  rw [checkRequired, ← Finset.nonempty_def, Finset.nonempty_iff_ne_empty]
  split_ifs with complete
  · constructor
    · rintro ⟨what, ⟨⟩⟩
    · intro incomplete
      exact absurd complete incomplete
  · exact iff_of_true ⟨_, rfl⟩ complete

theorem checkRequired_fields {formatKeys : List String → String}
    {fieldMap : FieldMap Pointer} :
    (checkRequired field formatKeys fieldMap fields).1 = fields := by
  rw [checkRequired]
  split_ifs <;> rfl

theorem checkRequired_no_json {formatKeys : List String → String}
    {fieldMap : FieldMap Pointer} (failure : JsonException) :
    (checkRequired field formatKeys fieldMap fields).2 ≠
      some (.json failure) := by
  rw [checkRequired]
  split_ifs <;> nofun

omit [LinearOrder Pointer] in
/-- A field has its default exactly as long as nothing was given. -/
theorem Settled.gotDefault_iff
    {final : FieldState (field pointer).type.Value}
    (settled :
      Settled library (field pointer) members (initialFields field pointer)
        final) :
    final.gotDefault = true ↔
      givenKeys library (field pointer) members = ∅ := by
  rcases settled with ⟨nothing, same⟩ | ⟨key, _, _, greatest, _, _, same⟩
  · rw [same]
    exact iff_of_true rfl nothing
  · rw [same]
    apply iff_of_false Bool.false_ne_true
    intro nothing
    exact Set.eq_empty_iff_forall_notMem.mp nothing key greatest.1

end Steps

/-! ## A whole configuration -/

/-- What processing a JSON object comes to, for the fields of a handler. -/
structure FieldsProcessed
    [LinearOrder Pointer]
    (library : JsonText Real) (formatKeys : List String → String)
    (field : Pointer → FieldBase Real) (pointers : List Pointer)
    (members : List (String × JsonValue Real))
    (process :
      JsonValue Real → Throwing (Fields field) FieldException) : Prop where
  /-- An exception means that a required field received no value. -/
  throws :
    (∃ what,
        (process (.object members) (initialFields field)).2 =
          some (.runtimeError what)) ↔
      ∃ pointer ∈ pointers, (field pointer).isRequired ∧
        givenKeys library (field pointer) members = ∅
  /-- No exception of the JSON library gets out. -/
  noOther :
    ∀ failure,
      (process (.object members) (initialFields field)).2 ≠
        some (.json failure)
  /-- The greatest key with a value that converts decides. -/
  settled :
    ∀ pointer ∈ pointers, ¬ (field pointer).isObsolete →
      Settled library (field pointer) members (initialFields field pointer)
        ((process (.object members) (initialFields field)).1 pointer)
  /-- Without a member of no effect everything is the same. -/
  unaffected :
    ∀ before member after, members = before ++ member :: after →
      ¬ Effective library field pointers member →
        process (.object (before ++ after)) (initialFields field) =
          process (.object members) (initialFields field)

/--
For fields with keys of their own, the exceptions and the values that the
fields end with are told by the members that convert.
-/
theorem processConfigData_fields
    [LinearOrder Pointer] {library : JsonText Real}
    {field : Pointer → FieldBase Real} {pointers : List Pointer}
    {members : List (String × JsonValue Real)}
    (formatKeys : List String → String)
    (keyed : ∀ pointer ∈ pointers, (field pointer).getKeys ≠ [])
    (disjoint : DisjointKeys field pointers)
    (sorted : SortedMembers members)
    (faithful : FaithfulConversions library field pointers members) :
    FieldsProcessed library formatKeys field pointers members
      (processConfigData field library formatKeys
        (registered field pointers)) := by
  have settled (pointer : Pointer) (known : pointer ∈ pointers) :
      Settled library (field pointer) members (initialFields field pointer)
        (members.foldl (takeMember library field (registered field pointers))
          (initialFields field) pointer) :=
    settled_foldl disjoint known sorted
  constructor
  case throws =>
    rw [processConfigData_eq disjoint faithful, checkRequired_threw_iff]
    constructor
    · rintro ⟨pointer, missing⟩
      rcases (mem_missingFields disjoint).mp missing with
        ⟨known, _, required, default_⟩
      exact
        ⟨pointer, known, required,
          (settled pointer known).gotDefault_iff.mp default_⟩
    · rintro ⟨pointer, known, required, nothing⟩
      refine ⟨pointer, (mem_missingFields disjoint).mpr ?_⟩
      exact
        ⟨known, keyed pointer known, required,
          (settled pointer known).gotDefault_iff.mpr nothing⟩
  case noOther =>
    rw [processConfigData_eq disjoint faithful]
    exact checkRequired_no_json
  case settled =>
    intro pointer known _
    rw [processConfigData_eq disjoint faithful, checkRequired_fields]
    exact settled pointer known
  case unaffected =>
    rintro before member after rfl useless
    have fewer :
        FaithfulConversions library field pointers (before ++ after) := by
      constructor
      · intro other present
        apply faithful.roundTrip other
        rcases List.mem_append.mp present with early | late
        · exact List.mem_append_left _ early
        · exact List.mem_append_right _ (List.mem_cons_of_mem _ late)
      · exact faithful.typeErrors
    rw [processConfigData_eq disjoint faithful,
      processConfigData_eq disjoint fewer, List.foldl_append,
      List.foldl_append, List.foldl_cons,
      takeMember_of_not_effective disjoint useless]

/-- The text of the two values below. -/
def sampleText : JsonText Unit where
  dump
    | .string text => .ok ("\"" ++ text ++ "\"")
    | .unsigned value => .ok (toString value.toNat)
    | _ => .error .typeError
  parse text :=
    if text = "55" then .ok (.unsigned 55)
    else if text = "\"detector\"" then .ok (.string "detector")
    else .error .parseError

/-- A number with two keys and a required text. -/
def sampleField : Fin 2 → FieldBase Unit
  | 0 =>
      .field
        (.other UInt64 0 fun value =>
          match value with
          | .unsigned value => .ok value
          | _ => .error .typeError)
        ["chunk_size", "size"] 42
  | 1 => .requiredField .string ["name"]

theorem processConfigData_fields_sample :
    FieldsProcessed sampleText (fun _ => "") sampleField [0, 1]
      [("name", .string "detector"), ("size", .unsigned 55)]
      (processConfigData sampleField sampleText (fun _ => "")
        (registered sampleField [0, 1])) := by
  have pair {pointer : Fin 2} (known : pointer ∈ [0, 1]) :
      pointer = 0 ∨ pointer = 1 :=
    List.mem_pair.mp known
  apply processConfigData_fields
  · intro pointer known
    rcases pair known with rfl | rfl
    · exact List.cons_ne_nil _ _
    · exact List.cons_ne_nil _ _
  · have different (key : String)
        (number : key ∈ (sampleField 0).getKeys)
        (text : key ∈ (sampleField 1).getKeys) : False := by
      cases List.mem_singleton.mp text
      have either : "name" ∈ ["chunk_size", "size"] := number
      revert either
      decide
    intro first known second also key own shared
    rcases pair known with rfl | rfl
    · rcases pair also with rfl | rfl
      · rfl
      · exact (different key own shared).elim
    · rcases pair also with rfl | rfl
      · exact (different key shared own).elim
      · rfl
  · exact List.pairwise_pair.mpr (by decide)
  · constructor
    · intro member present pointer _ _
      rcases List.mem_pair.mp present with rfl | rfl
      · exact ⟨_, rfl, rfl⟩
      · exact ⟨_, rfl, rfl⟩
    · intro pointer known value failure refused
      rcases pair known with rfl | rfl
      · cases value with
        | unsigned value => cases refused
        | _ =>
            cases refused
            rfl
      · cases value with
        | string text => cases refused
        | _ =>
            cases refused
            rfl

end KafkaToNexus.JsonConfig
