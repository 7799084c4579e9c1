import KafkaToNexus.HDFOperations.Structures

/-!
# Which group a stream is attributed to

A node never makes the path shorter.  It leaves the path as it is where the
attributes of every created group in it are written, and each stream is then
attributed to the groups around it.  A group whose attributes are not written
leaves the path longer by a name, and nothing takes that name off again.
-/

namespace KafkaToNexus.HDFOperations

open Foundations JsonConfig

variable {Real : Type} {reader : NodeReader Real} {calls : HdfCalls}
  {value : JsonValue Real} {position : List Nat} {state : StructureState}

/-- A value with its place among the children of a node. -/
abbrev Numbered (Real : Type) := List (JsonValue Real × Nat)

/-! ## Equations -/

/-- The loop over the children of a node. -/
def visitNumbered
    (reader : NodeReader Real) (calls : HdfCalls) (position : List Nat)
    (children : Numbered Real) (state : StructureState) : StructureState :=
  children.foldl
    (fun state child =>
      createHDFStructures reader calls child.1 (position ++ [child.2]) state)
    state

theorem visitNumbered_cons
    (child : JsonValue Real × Nat) (children : Numbered Real) :
    visitNumbered reader calls position (child :: children) state =
      visitNumbered reader calls position children
        (createHDFStructures reader calls child.1 (position ++ [child.2])
          state) :=
  rfl

theorem visitChildren_map (children : List (JsonValue Real)) :
    visitChildren (children.map (createHDFStructures reader calls)) position
        state =
      visitNumbered reader calls position children.zipIdx state := by
  rw [visitChildren, List.zipIdx_map, List.foldl_map]
  rfl

theorem moduleEntries_of_none
    (none_ : createdGroup reader calls position value = none)
    (enclosing : List String) :
    moduleEntries reader calls value position enclosing =
      (moduleEntry reader enclosing value).toList := by
  rw [moduleEntries, JsonValue.foldNode_eq, none_]
  exact List.append_nil _

theorem moduleEntries_of_some
    {name : String}
    (created : createdGroup reader calls position value = some name)
    (enclosing : List String) :
    moduleEntries reader calls value position enclosing =
      (value.childrenOf "children").zipIdx.flatMap fun child =>
        moduleEntries reader calls child.1 (position ++ [child.2])
          (enclosing ++ [name]) := by
  rw [moduleEntries, JsonValue.foldNode_eq, created,
    moduleEntry_of_createdGroup created, List.zipIdx_map]
  show List.flatMap _ (List.map _ _) = _
  rw [List.flatMap_map]
  rfl

theorem attributesWritten_of_none
    (none_ : createdGroup reader calls position value = none) :
    attributesWritten reader calls value position = true := by
  rw [attributesWritten, JsonValue.foldNode_eq, none_]

theorem attributesWritten_of_some
    {name : String}
    (created : createdGroup reader calls position value = some name) :
    attributesWritten reader calls value position = true ↔
      attributesThrow calls position value = false ∧
        ∀ child ∈ (value.childrenOf "children").zipIdx,
          attributesWritten reader calls child.1 (position ++ [child.2]) =
            true := by
  rw [attributesWritten, JsonValue.foldNode_eq, created, List.zipIdx_map]
  simp only [List.all_map, Bool.and_eq_true, Bool.not_eq_true',
    List.all_eq_true, Function.comp_apply, Prod.map_fst, Prod.map_snd, id]

/-! ## Where all attributes are written -/

/-- Children that leave the path as it is are set up one after the other. -/
theorem visitNumbered_attributed {children : Numbered Real}
    (each :
      ∀ child ∈ children, ∀ state,
        StreamsAttributed reader calls child.1 (position ++ [child.2])
          state) :
    visitNumbered reader calls position children state =
      { path := state.path
        hdfStreamInfo :=
          state.hdfStreamInfo ++
            children.flatMap fun child =>
              moduleEntries reader calls child.1 (position ++ [child.2])
                state.path } := by
  induction children generalizing state with
  | nil =>
      rw [List.flatMap_nil, List.append_nil]
      rfl
  | cons child children induction =>
      rw [List.forall_mem_cons] at each
      have first := each.1 state
      rw [visitNumbered_cons, induction each.2, first.path, first.entries,
        List.flatMap_cons, List.append_assoc]

/-- Where the attributes are written, the streams get their own groups. -/
theorem streamsAttributed_of_written
    (written : attributesWritten reader calls value position = true) :
    StreamsAttributed reader calls value position state := by
  induction value using JsonValue.nodeInduction "children"
    generalizing position state with
  | node value induction =>
      cases created : createdGroup reader calls position value with
      | none =>
          constructor
          · rw [createHDFStructures_of_none created]
          · rw [createHDFStructures_of_none created,
              moduleEntries_of_none created]
      | some name =>
          rcases (attributesWritten_of_some created).mp written with
            ⟨quiet, below⟩
          have each :
              ∀ child ∈ (value.childrenOf "children").zipIdx, ∀ state,
                StreamsAttributed reader calls child.1
                  (position ++ [child.2]) state := by
            intro child member state
            exact
              induction child.1 (List.fst_mem_of_mem_zipIdx member)
                (below child member)
          have result :
              createHDFStructures reader calls value position state =
                { path := state.path
                  hdfStreamInfo :=
                    state.hdfStreamInfo ++
                      moduleEntries reader calls value position
                        state.path } := by
            rw [createHDFStructures_of_some created, quiet,
              if_neg Bool.false_ne_true, visitChildren_map,
              visitNumbered_attributed each, moduleEntries_of_some created,
              popPath, pushPath]
            simp only [List.dropLast_concat]
          constructor
          · rw [result]
          · rw [result]

/-! ## Where some attributes are not written -/

/-- The path gets no shorter, and longer if attributes are not written. -/
structure Grows
    (reader : NodeReader Real) (calls : HdfCalls) (value : JsonValue Real)
    (position : List Nat) (state : StructureState) : Prop where
  noShorter :
    state.path.length ≤
      (createHDFStructures reader calls value position state).path.length
  longer :
    attributesWritten reader calls value position = false →
      state.path.length <
        (createHDFStructures reader calls value position state).path.length

/-- Children make the path longer if one of them does. -/
theorem visitNumbered_grows {children : Numbered Real}
    (each :
      ∀ child ∈ children, ∀ state,
        Grows reader calls child.1 (position ++ [child.2]) state) :
    state.path.length ≤
        (visitNumbered reader calls position children state).path.length ∧
      ((∃ child ∈ children,
          attributesWritten reader calls child.1 (position ++ [child.2]) =
            false) →
        state.path.length <
          (visitNumbered reader calls position children
            state).path.length) := by
  induction children generalizing state with
  | nil =>
      refine ⟨Nat.le_refl _, ?_⟩
      rintro ⟨child, member, _⟩
      cases member
  | cons child children induction =>
      rw [List.forall_mem_cons] at each
      have first := each.1 state
      have others :=
        @induction
          (createHDFStructures reader calls child.1 (position ++ [child.2])
            state)
          each.2
      rw [visitNumbered_cons]
      constructor
      · exact first.noShorter.trans others.1
      · rintro ⟨failed, member, lost⟩
        rcases List.mem_cons.mp member with rfl | later
        · exact (first.longer lost).trans_le others.1
        · exact first.noShorter.trans_lt (others.2 ⟨failed, later, lost⟩)

theorem length_pushPath (name : String) :
    (pushPath name state).path.length = state.path.length + 1 :=
  List.length_append

/-- An attribute that throws leaves the name of the group on the path. -/
theorem grows_of_throws {name : String}
    (created : createdGroup reader calls position value = some name)
    (throws : attributesThrow calls position value = true) :
    Grows reader calls value position state := by
  have left :
      (createHDFStructures reader calls value position state).path.length =
        state.path.length + 1 := by
    rw [createHDFStructures_of_some created, throws, if_pos rfl,
      length_pushPath]
  constructor
  · rw [left]
    exact Nat.le_succ _
  · intro _
    rw [left]
    exact Nat.lt_succ_self _

/-- Otherwise the children of the group decide. -/
theorem grows_of_children {name : String}
    (created : createdGroup reader calls position value = some name)
    (quiet : attributesThrow calls position value = false)
    (each :
      ∀ child ∈ (value.childrenOf "children").zipIdx, ∀ state,
        Grows reader calls child.1 (position ++ [child.2]) state) :
    Grows reader calls value position state := by
  have below := @visitNumbered_grows _ _ _ _ (pushPath name state) _ each
  have left :
      (createHDFStructures reader calls value position state).path.length =
        (visitNumbered reader calls position
          (value.childrenOf "children").zipIdx
          (pushPath name state)).path.length - 1 := by
    rw [createHDFStructures_of_some created, quiet,
      if_neg Bool.false_ne_true, visitChildren_map]
    exact List.length_dropLast
  rw [length_pushPath] at below
  constructor
  · rw [left]
    exact Nat.le_sub_one_of_lt below.1
  · intro lost
    rw [left]
    rw [← Bool.not_eq_true, attributesWritten_of_some created,
      not_and] at lost
    have failed :
        ∃ child ∈ (value.childrenOf "children").zipIdx,
          attributesWritten reader calls child.1 (position ++ [child.2]) =
            false := by
      have some_ := lost quiet
      push Not at some_
      simpa only [Bool.not_eq_true, ne_eq] using some_
    exact Nat.lt_sub_of_add_lt (below.2 failed)

/-- A name that is left on the path is never taken off. -/
theorem createHDFStructures_grows :
    Grows reader calls value position state := by
  induction value using JsonValue.nodeInduction "children"
    generalizing position state with
  | node value induction =>
      cases created : createdGroup reader calls position value with
      | none =>
          constructor
          · rw [createHDFStructures_of_none created]
          · intro lost
            rw [attributesWritten_of_none created] at lost
            cases lost
      | some name =>
          cases throws : attributesThrow calls position value with
          | true => exact grows_of_throws created throws
          | false =>
              apply grows_of_children created throws
              intro child member state
              exact induction child.1 (List.fst_mem_of_mem_zipIdx member)

/-! ## The condition -/

/--
The path is restored and every stream gets its own group exactly if the
attributes of every group that is created are written.
-/
theorem streamsAttributed_iff
    (reader : NodeReader Real) (calls : HdfCalls) (value : JsonValue Real)
    (position : List Nat) (state : StructureState) :
    StreamsAttributed reader calls value position state ↔
      attributesWritten reader calls value position = true := by
  constructor
  · intro attributed
    by_contra lost
    rw [Bool.not_eq_true] at lost
    have longer :=
      (@createHDFStructures_grows _ reader calls value position state).longer
        lost
    rw [attributed.path] at longer
    exact Nat.lt_irrefl _ longer
  · exact streamsAttributed_of_written

/--
In a whole file the streams get their own groups, if the attributes of every
group that is created are written.
-/
theorem init_hdfStreamInfo
    {nexusStructure : JsonValue Real} {moduleHdfInfo : List ModuleHDFInfo}
    (written :
      ∀ child ∈ (nexusStructure.childrenOf "children").zipIdx,
        attributesWritten reader calls child.1 [child.2] = true) :
    init reader calls nexusStructure moduleHdfInfo =
      moduleHdfInfo ++
        (nexusStructure.childrenOf "children").zipIdx.flatMap fun child =>
          moduleEntries reader calls child.1 [child.2] [] := by
  have each :
      ∀ child ∈ (nexusStructure.childrenOf "children").zipIdx, ∀ state,
        StreamsAttributed reader calls child.1 ([] ++ [child.2]) state :=
    fun child member _ => streamsAttributed_of_written (written child member)
  rw [init, visitChildren_map, visitNumbered_attributed each]
  rfl

/-! ## A group whose attributes are not written -/

/-- A group with an attribute without a name, next to a stream. -/
def sampleItems : List (JsonValue Unit) :=
  [.object
      [("attributes", .object [("", .string "NXlog")]),
        ("name", .string "log"), ("type", .string "group")],
    .object [("config", .object []), ("module", .string "f142")]]

def sampleStructure : JsonValue Unit :=
  .object
    [("children", .array sampleItems), ("name", .string "entry"),
      ("type", .string "group")]

/-- The library on the values of the sample. -/
def sampleReader : NodeReader Unit where
  library :=
    { dump := fun value => .ok (value.compactText fun _ => "0.0")
      parse := fun text =>
        match
          [.array sampleItems, .string "entry", .string "group",
            .object [("", .string "NXlog")], .string "log",
            .object [], .string "f142"].find?
              fun value => (value.compactText fun _ => "0.0") == text
        with
        | some value => .ok value
        | none => .error .parseError }
  truncate := fun _ => 0
  formatKeys := fun _ => ""

/-- The attributes of the first child are not written. -/
def sampleCalls : HdfCalls where
  createGroup _ := false
  writeAttributes position := position == [0]
  writeDataset _ := false

/-- The stream is attributed to its sibling. -/
theorem not_streamsAttributed_sample :
    (createHDFStructures sampleReader sampleCalls sampleStructure []
        { path := [], hdfStreamInfo := [] }).hdfStreamInfo =
        [{ writerModule := "f142"
           hdfParentName := "/entry/log"
           configStream := "\x7b\x7d" }] ∧
      ¬ StreamsAttributed sampleReader sampleCalls sampleStructure []
          { path := [], hdfStreamInfo := [] } := by
  have result :
      createHDFStructures sampleReader sampleCalls sampleStructure []
          { path := [], hdfStreamInfo := [] } =
        { path := ["entry"]
          hdfStreamInfo :=
            [{ writerModule := "f142"
               hdfParentName := "/entry/log"
               configStream := "\x7b\x7d" }] } := by
    decide +kernel
  rw [result]
  refine ⟨rfl, ?_⟩
  intro attributed
  have same := attributed.path
  rw [result] at same
  cases same

end KafkaToNexus.HDFOperations
