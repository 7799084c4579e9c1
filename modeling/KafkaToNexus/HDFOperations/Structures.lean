import KafkaToNexus.Foundations.Throwing
import KafkaToNexus.HDFOperations.HDFNode

/-!
# The groups and the streams of the NeXus structure

The structure is gone through from the top.  One path is shared by the whole
recursion: a group is added to it when it has been created and taken off after
its children.  An exception in between is caught further up, and the name stays
on the path; the streams that come later are then attributed to a group that is
not theirs.

Which of the calls into HDF5 throw is told by the position of the node that
they are made for, so that every pattern of exceptions is covered.
-/

namespace KafkaToNexus.HDFOperations

open Foundations JsonConfig

variable {Real : Type}

structure ModuleHDFInfo where
  writerModule : String
  hdfParentName : String
  configStream : String
deriving DecidableEq, Repr

/-- The calls that throw, by the position of the node in the structure. -/
structure HdfCalls where
  createGroup : List Nat → Bool
  writeAttributes : List Nat → Bool
  writeDataset : List Nat → Bool

/-- What the recursion shares. -/
structure StructureState where
  path : List String
  hdfStreamInfo : List ModuleHDFInfo
deriving DecidableEq, Repr

/-- Any exception; the handlers do not tell them apart. -/
inductive StructureFailure where
  | exception
deriving DecidableEq, Repr

abbrev StructureCode := Throwing StructureState StructureFailure

def throwIf (fails : Bool) : StructureCode :=
  fun state => (state, if fails then some .exception else none)

def change (next : StructureState → StructureState) : StructureCode :=
  fun state => (next state, none)

def pushPath (name : String) (state : StructureState) : StructureState :=
  { state with path := state.path ++ [name] }

def popPath (state : StructureState) : StructureState :=
  { state with path := state.path.dropLast }

/-- The groups of a path, each with a separator in front. -/
def pathString (path : List String) : String :=
  path.foldl (fun pathstr x => pathstr ++ ("/" ++ x)) ""

/-- Only attributes in an object are written without a handler of their own. -/
def attributesThrow
    (calls : HdfCalls) (position : List Nat) (value : JsonValue Real) :
    Bool :=
  match value.memberAt "attributes" with
  | some (.object (_ :: _)) => calls.writeAttributes position
  | _ => false

/-- The position of a child, and what is done for it. -/
abbrev Visit := List Nat → StructureState → StructureState

def visitChildren
    (children : List Visit) (position : List Nat) (state : StructureState) :
    StructureState :=
  children.zipIdx.foldl
    (fun state child => child.1 (position ++ [child.2]) state) state

section Structures

variable (reader : NodeReader Real) (calls : HdfCalls)

/-- What is done for a group, in this order. -/
def groupSteps
    (value : JsonValue Real) (name : String) (children : List Visit)
    (position : List Nat) : List StructureCode :=
  [throwIf (calls.createGroup position),
    change (pushPath name),
    throwIf (attributesThrow calls position value),
    change (visitChildren children position),
    change popPath]

/-- What is done for a module, where a dataset brings its own attributes. -/
def moduleStep (node : JSONHdfNode Real) (position : List Nat) :
    StructureCode :=
  fun state =>
    if node.type = "dataset" then
      throwIf (calls.writeDataset position) state
    else
      match reader.library.dump node.config with
      | .error _ => (state, some .exception)
      | .ok configStream =>
          ({ state with
              hdfStreamInfo := state.hdfStreamInfo ++
                [{ writerModule := node.type
                   hdfParentName := pathString state.path
                   configStream }] }, none)

/-- The body of the function, with what the recursive calls do. -/
def structuresBody
    (value : JsonValue Real) (children : List Visit) (position : List Nat) :
    StructureCode :=
  fun state =>
    match reader.read value with
    | .error _ => (state, some .exception)
    | .ok node =>
        if node.usedKey = "type" then
          if node.type = "group" then
            if node.name = "" then (state, none)
            else
              ((Throwing.inOrder
                (groupSteps calls value node.name children position)
                state).1, none)
          else (state, none)
        else if node.usedKey = "module" then
          moduleStep reader calls node position state
        else (state, none)

/-- No exception gets out of the function. -/
def createHDFStructures : JsonValue Real → Visit :=
  JsonValue.foldNode "children" fun value children position state =>
    (structuresBody reader calls value children position state).1

/-- The streams of a file; its root is not on the path. -/
def init
    (nexusStructure : JsonValue Real) (moduleHdfInfo : List ModuleHDFInfo) :
    List ModuleHDFInfo :=
  (visitChildren
    ((nexusStructure.childrenOf "children").map
      (createHDFStructures reader calls))
    [] { path := [], hdfStreamInfo := moduleHdfInfo }).hdfStreamInfo

/-! ## What the streams should be attributed to -/

/-- The name of the group that is created for a node. -/
def createdGroup (position : List Nat) (value : JsonValue Real) :
    Option String :=
  match reader.read value with
  | .ok node =>
      if node.usedKey = "type" ∧ node.type = "group" ∧ node.name ≠ "" ∧
          calls.createGroup position = false then
        some node.name
      else none
  | .error _ => none

/-- The stream that is set up by a node inside of these groups. -/
def moduleEntry (enclosing : List String) (value : JsonValue Real) :
    Option ModuleHDFInfo :=
  match reader.read value with
  | .ok node =>
      if node.usedKey = "module" ∧ node.type ≠ "dataset" then
        (reader.library.dump node.config).toOption.map fun configStream =>
          { writerModule := node.type
            hdfParentName := pathString enclosing
            configStream }
      else none
  | .error _ => none

/--
The streams of a structure in the order of the document, each with the created
groups around it.
-/
def moduleEntries :
    JsonValue Real → List Nat → List String → List ModuleHDFInfo :=
  JsonValue.foldNode "children" fun value children position enclosing =>
    (moduleEntry reader enclosing value).toList ++
      match createdGroup reader calls position value with
      | none => []
      | some name =>
          children.zipIdx.flatMap fun child =>
            child.1 (position ++ [child.2]) (enclosing ++ [name])

/-- The attributes of every group that is created are written. -/
def attributesWritten : JsonValue Real → List Nat → Bool :=
  JsonValue.foldNode "children" fun value children position =>
    match createdGroup reader calls position value with
    | none => true
    | some _ =>
        !attributesThrow calls position value &&
          children.zipIdx.all fun child => child.1 (position ++ [child.2])

/-- Every stream is attributed to its own group. -/
structure StreamsAttributed
    (value : JsonValue Real) (position : List Nat) (state : StructureState) :
    Prop where
  path :
    (createHDFStructures reader calls value position state).path = state.path
  entries :
    (createHDFStructures reader calls value position state).hdfStreamInfo =
      state.hdfStreamInfo ++
        moduleEntries reader calls value position state.path

end Structures

/-! ## One node -/

section Results

variable {reader : NodeReader Real} {calls : HdfCalls}
  {value : JsonValue Real} {position : List Nat} {state : StructureState}

/-- The first exception ends the steps for a group. -/
theorem inOrder_groupSteps (name : String) (children : List Visit) :
    (Throwing.inOrder (groupSteps calls value name children position)
        state).1 =
      if calls.createGroup position then state
      else if attributesThrow calls position value then pushPath name state
      else popPath (visitChildren children position (pushPath name state)) := by
  rw [groupSteps]
  cases calls.createGroup position with
  | true => rfl
  | false =>
      cases attributesThrow calls position value with
      | true => rfl
      | false => rfl

theorem createHDFStructures_eq :
    createHDFStructures reader calls value position state =
      (structuresBody reader calls value
        ((value.childrenOf "children").map (createHDFStructures reader calls))
        position state).1 := by
  rw [createHDFStructures, JsonValue.foldNode_eq]

/-- The recursive calls are those for the children that the node has. -/
theorem createHDFStructures_object
    {members : List (String × JsonValue Real)} {node : JSONHdfNode Real}
    (sorted : SortedMembers members)
    (faithful :
      FaithfulConversions reader.library (nodeField reader.truncate)
        NodeField.all members)
    (returned : reader.read (.object members) = .ok node) :
    createHDFStructures reader calls (.object members) position state =
      (structuresBody reader calls (.object members)
        (((node.children.map JsonValue.items).getD []).map
          (createHDFStructures reader calls)) position state).1 := by
  rw [createHDFStructures_eq, JsonValue.childrenOf,
    NodeReader.read_children sorted faithful returned]

theorem moduleEntry_of_createdGroup
    {name : String} {enclosing : List String}
    (created : createdGroup reader calls position value = some name) :
    moduleEntry reader enclosing value = none := by
  rw [createdGroup] at created
  rw [moduleEntry]
  cases returned : reader.read value with
  | error failure => rfl
  | ok node =>
      simp only [returned] at created ⊢
      split_ifs at created with group
      rw [if_neg]
      rintro ⟨module_, _⟩
      rw [group.1] at module_
      revert module_
      decide

/-- A group that is not created, or no group at all. -/
theorem createHDFStructures_of_none
    (none_ : createdGroup reader calls position value = none) :
    createHDFStructures reader calls value position state =
      { state with
        hdfStreamInfo :=
          state.hdfStreamInfo ++
            (moduleEntry reader state.path value).toList } := by
  have unchanged :
      { state with hdfStreamInfo := state.hdfStreamInfo ++ [] } = state := by
    rw [List.append_nil]
  rw [createHDFStructures_eq, structuresBody, moduleEntry]
  rw [createdGroup] at none_
  cases returned : reader.read value with
  | error failure => exact unchanged.symm
  | ok node =>
      simp only [returned] at none_ ⊢
      by_cases key : node.usedKey = "type"
      · have other : ¬ (node.usedKey = "module" ∧ node.type ≠ "dataset") := by
          rintro ⟨module_, _⟩
          rw [key] at module_
          revert module_
          decide
        rw [if_pos key, if_neg other, Option.toList_none, unchanged]
        split_ifs with group unnamed
        · rfl
        · have fails : calls.createGroup position = true := by
            by_contra succeeds
            rw [Bool.not_eq_true] at succeeds
            rw [if_pos ⟨key, group, unnamed, succeeds⟩] at none_
            cases none_
          rw [inOrder_groupSteps, if_pos fails]
        · rfl
      · rw [if_neg key]
        by_cases module_ : node.usedKey = "module"
        · rw [if_pos module_, moduleStep]
          by_cases dataset : node.type = "dataset"
          · rw [if_pos dataset, if_neg (fun both => both.2 dataset),
              Option.toList_none, unchanged]
            rfl
          · rw [if_neg dataset, if_pos ⟨module_, dataset⟩]
            cases reader.library.dump node.config with
            | error failure => exact unchanged.symm
            | ok configStream => rfl
        · rw [if_neg module_, if_neg (fun both => module_ both.1),
            Option.toList_none, unchanged]

/-- A group that is created. -/
theorem createHDFStructures_of_some
    {name : String}
    (created : createdGroup reader calls position value = some name) :
    createHDFStructures reader calls value position state =
      if attributesThrow calls position value then pushPath name state
      else
        popPath
          (visitChildren
            ((value.childrenOf "children").map
              (createHDFStructures reader calls))
            position (pushPath name state)) := by
  rw [createHDFStructures_eq, structuresBody]
  rw [createdGroup] at created
  cases returned : reader.read value with
  | error failure =>
      simp only [returned] at created
      cases created
  | ok node =>
      simp only [returned] at created ⊢
      split_ifs at created with group
      rcases group with ⟨key, group, named, succeeds⟩
      cases created
      rw [if_pos key, if_pos group, if_neg named]
      show (Throwing.inOrder _ state).1 = _
      rw [inOrder_groupSteps, succeeds, if_neg Bool.false_ne_true]

end Results

end KafkaToNexus.HDFOperations
