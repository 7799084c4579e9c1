import KafkaToNexus.WriterModule.Hs00.Layout
import KafkaToNexus.WriterModule.Hs00.WriterTyped

/-!
# The configuration of the histogram writer

The writer is created from the names of three types and from the shape, and
creates the datasets of its group.  Later it is created again for the group,
from the same names and from the JSON that an attribute of the group keeps.
Each name is looked up in a table; there are three tables for the creation and
three for the reopening.
-/

namespace KafkaToNexus.WriterModule.Hs00

open KafkaToNexus.Foundations

inductive ElementType where
  | uint32
  | uint64
  | float
  | double
deriving DecidableEq, Repr

/-- What is used of the JSON library and of HDF5. -/
structure Libraries (Real Edge : Type) where
  parse : String → Option (JsonValue Real)
  dump : JsonValue Real → Option String
  /-- How the edges of a type are read. -/
  conversions : ElementType → Conversions Real Edge
  /-- HDF5 creates a dataspace with these extents. -/
  createsSpace : List UInt64 → Bool
  /-- HDF5 creates a dataset with these extents and chunks. -/
  createsDataset : List UInt64 → List UInt64 → Bool

/-- The group of a writer in the file. -/
structure Group where
  createdFromJson : Option String := none
  /-- The names of the datasets. -/
  datasets : List String := []
deriving DecidableEq, Repr

/-- A writer with its types, as it is configured. -/
structure WriterUntyped (Edge : Type) where
  dataType : ElementType
  edgeType : ElementType
  errorType : ElementType
  shape : Layout.Shape Edge
  createdFromJson : String
deriving DecidableEq, Repr

variable {Real Edge : Type}

namespace WriterUntyped

def create (libraries : Libraries Real Edge)
    (dataType edgeType errorType : ElementType) (json : JsonValue Real) :
    Except ConfigFailure (WriterUntyped Edge) :=
  if json.isObject then do
    let shapeJson ← Layout.readMember json "shape" some
    let shape ←
      Layout.Shape.createFromJson (libraries.conversions edgeType) shapeJson
    match libraries.dump json with
    | none => .error .jsonTypeError
    | some createdFromJson =>
        .ok { dataType, edgeType, errorType, shape, createdFromJson }
  else
    .error (.unexpectedJsonInput "UnexpectedJsonInput")

/-- Create a dataset, if there is none with its name. -/
def createDataset (libraries : Libraries Real Edge) (name : String)
    (extents chunk : List UInt64) (group : Group) :
    Except ConfigFailure Group :=
  if name ∉ group.datasets ∧ libraries.createsDataset extents chunk = true then
    .ok { group with datasets := group.datasets ++ [name] }
  else
    .error .hdf5

/-- The dataset of the latest histogram is created when it is not there. -/
def copyLatestToData (libraries : Libraries Real Edge)
    (sizes : List UInt64) (group : Group) : Except ConfigFailure Group :=
  if "data" ∈ group.datasets then .ok group
  else createDataset libraries "data" sizes [] group

/-- The loop over the dimensions, each with a dataset of its edges. -/
def createEdges (libraries : Libraries Real Edge) :
    List (Layout.Dimension Edge) → Group → Except ConfigFailure Group
  | [], group => .ok group
  | dimension :: rest, group => do
      let group ←
        createDataset libraries dimension.datasetName [dimension.size + 1] []
          group
      createEdges libraries rest group

def createHDFStructure (libraries : Libraries Real Edge)
    (writer : WriterUntyped Edge) (chunkSize : UInt64) (group : Group) :
    Except ConfigFailure Group :=
  if group.createdFromJson.isSome then
    .error .hdf5
  else if libraries.createsSpace (0 :: writer.shape.sizes) then do
    let sizes := writer.shape.sizes
    let chunk ← Layout.chunkElements chunkSize sizes
    let group ←
      createDataset libraries "histograms" (0 :: sizes) chunk
        { group with createdFromJson := some writer.createdFromJson }
    let group ← copyLatestToData libraries sizes group
    let group ← createDataset libraries "errors" (0 :: sizes) chunk group
    let group ←
      createDataset libraries "timestamps" [0, 2] [4 * 1024, 2] group
    let group ←
      createDataset libraries "info_timestamp" [0] [4 * 1024] group
    let group ← createDataset libraries "info" [0] [4 * 1024] group
    createEdges libraries writer.shape.dimensions group
  else
    .error .hdf5

/-- The datasets that are opened again. -/
def reOpenedDatasets : List String :=
  ["histograms", "errors", "timestamps", "info", "info_timestamp"]

def reOpen (libraries : Libraries Real Edge)
    (dataType edgeType errorType : ElementType) (group : Group) :
    Except ConfigFailure (WriterUntyped Edge) :=
  match group.createdFromJson with
  | none => .error .hdf5
  | some text =>
      match libraries.parse text with
      | none => .error .jsonParseError
      | some json => do
          let writer ← create libraries dataType edgeType errorType json
          if ∀ name ∈ reOpenedDatasets, name ∈ group.datasets then
            .ok writer
          else
            .error .hdf5

end WriterUntyped

/-! ## The names of the types -/

/-- The names of types in one of the maps. -/
abbrev TypeMap := List (String × ElementType)

/-- Look a type up; `field` is the name of the field it comes from. -/
def TypeMap.typeAt (map : TypeMap) (field name : String) :
    Except ConfigFailure ElementType :=
  match map.lookup name with
  | some type => .ok type
  | none => .error (.runtimeError ("unimplemented " ++ field ++ ": " ++ name))

def createDataTypeMap : TypeMap :=
  [("uint32", .uint32), ("uint64", .uint64), ("float", .float),
    ("double", .double)]

def createEdgeTypeMap : TypeMap :=
  [("uint32", .uint32), ("uint64", .uint64), ("float", .float),
    ("double", .double)]

def createErrorTypeMap : TypeMap :=
  [("uint32_t", .uint32), ("uint64_t", .uint64), ("float", .float),
    ("double", .double)]

def reOpenDataTypeMap : TypeMap :=
  [("uint32", .uint32), ("uint64", .uint64), ("float", .float),
    ("double", .double)]

def reOpenEdgeTypeMap : TypeMap :=
  [("uint32", .uint32), ("uint64", .uint64), ("float", .float),
    ("double", .double)]

def reOpenErrorTypeMap : TypeMap :=
  [("uint32", .uint32), ("uint64", .uint64), ("float", .float),
    ("double", .double)]

/-! ## The writer module -/

/-- The module with the values of its fields. -/
structure Hs00Writer (Edge : Type) where
  chunkSize : UInt64 := (1 : UInt64) <<< 20
  dataTypeField : String
  edgeTypeField : String
  errorTypeField : String
  shapeField : String
  theWriterUntyped : Option (WriterUntyped Edge) := none
deriving DecidableEq, Repr

namespace Hs00Writer

variable (libraries : Libraries Real Edge) (writer : Hs00Writer Edge)

def createFromErrorType (dataType edgeType : ElementType)
    (json : JsonValue Real) : Except ConfigFailure (WriterUntyped Edge) := do
  let errorType ←
    createErrorTypeMap.typeAt "error_type" writer.errorTypeField
  WriterUntyped.create libraries dataType edgeType errorType json

def createFromEdgeType (dataType : ElementType) (json : JsonValue Real) :
    Except ConfigFailure (WriterUntyped Edge) := do
  let edgeType ← createEdgeTypeMap.typeAt "edge_type" writer.edgeTypeField
  writer.createFromErrorType libraries dataType edgeType json

def createFromDataType (json : JsonValue Real) :
    Except ConfigFailure (WriterUntyped Edge) := do
  let dataType ← createDataTypeMap.typeAt "data_type" writer.dataTypeField
  writer.createFromEdgeType libraries dataType json

def reOpenFromErrorType (dataType edgeType : ElementType) (group : Group) :
    Except ConfigFailure (WriterUntyped Edge) := do
  let errorType ←
    reOpenErrorTypeMap.typeAt "error_type" writer.errorTypeField
  WriterUntyped.reOpen libraries dataType edgeType errorType group

def reOpenFromEdgeType (dataType : ElementType) (group : Group) :
    Except ConfigFailure (WriterUntyped Edge) := do
  let edgeType ← reOpenEdgeTypeMap.typeAt "edge_type" writer.edgeTypeField
  writer.reOpenFromErrorType libraries dataType edgeType group

def reOpenFromDataType (group : Group) :
    Except ConfigFailure (WriterUntyped Edge) := do
  let dataType ← reOpenDataTypeMap.typeAt "data_type" writer.dataTypeField
  writer.reOpenFromEdgeType libraries dataType group

/-- The text of the JSON object that the writer is created from. -/
def shapeObject : String :=
  "\x7b\"shape\":" ++ writer.shapeField ++ "\x7d"

def configPostProcessing : Except ConfigFailure (Hs00Writer Edge) :=
  match libraries.parse writer.shapeObject with
  | none => .error .jsonParseError
  | some json => do
      let created ← writer.createFromDataType libraries json
      .ok { writer with theWriterUntyped := some created }

def notInitialized : ConfigFailure :=
  .runtimeError
    ("TheWriterUntyped is not initialized. Make sure " ++
      "that you call parse_config() before.")

def initHdf (group : Group) : Except ConfigFailure Group :=
  match writer.theWriterUntyped with
  | none => .error notInitialized
  | some created =>
      created.createHDFStructure libraries writer.chunkSize group

def reopen (group : Group) : Except ConfigFailure (Hs00Writer Edge) :=
  match writer.theWriterUntyped with
  | none => .error notInitialized
  | some _ => do
      let opened ← writer.reOpenFromDataType libraries group
      .ok { writer with theWriterUntyped := some opened }

/-! ## What can be configured can be reopened -/

/-- Both ways accept a name, or neither does. -/
def SameAccepted (create reOpen : TypeMap) (name : String) : Prop :=
  (create.lookup name).isSome = (reOpen.lookup name).isSome

/--
A writer that can be configured, and whose group can be created, is the same
when the group is reopened; and the names that are accepted are the same.
-/
structure ReopensAsConfigured : Prop where
  reopens :
    ∀ configured group created,
      writer.configPostProcessing libraries = .ok configured →
      configured.initHdf libraries group = .ok created →
      ∃ typed, configured.theWriterUntyped = some typed ∧
        configured.reopen libraries created =
          .ok { configured with theWriterUntyped := some typed }
  dataTypes :
    SameAccepted createDataTypeMap reOpenDataTypeMap writer.dataTypeField
  edgeTypes :
    SameAccepted createEdgeTypeMap reOpenEdgeTypeMap writer.edgeTypeField
  errorTypes :
    SameAccepted createErrorTypeMap reOpenErrorTypeMap writer.errorTypeField

/-- The names that one of the maps of error types has and the other has not. -/
def disputedErrorTypes : List String :=
  ["uint32", "uint64", "uint32_t", "uint64_t"]

end Hs00Writer

/-! ## What a created group holds -/

namespace WriterUntyped

variable {libraries : Libraries Real Edge} {group next last : Group}

/-- The attribute is the same, and no dataset is lost. -/
structure Grows (group next : Group) : Prop where
  createdFromJson : next.createdFromJson = group.createdFromJson
  datasets : group.datasets ⊆ next.datasets

theorem Grows.refl : Grows group group :=
  ⟨rfl, List.Subset.refl _⟩

theorem Grows.trans (first : Grows group next) (second : Grows next last) :
    Grows group last :=
  ⟨second.createdFromJson.trans first.createdFromJson,
    List.Subset.trans first.datasets second.datasets⟩

theorem createDataset_ok
    {name : String} {extents chunk : List UInt64}
    (created : createDataset libraries name extents chunk group = .ok next) :
    Grows group next ∧ name ∈ next.datasets := by
  unfold createDataset at created
  split at created
  · cases created
    exact ⟨⟨rfl, List.subset_append_left _ _⟩,
      List.mem_append_right _ (List.mem_singleton_self name)⟩
  · cases created

theorem copyLatestToData_ok
    {sizes : List UInt64}
    (copied : copyLatestToData libraries sizes group = .ok next) :
    Grows group next := by
  unfold copyLatestToData at copied
  split at copied
  · cases copied
    exact .refl
  · exact (createDataset_ok copied).1

theorem createEdges_ok
    {dimensions : List (Layout.Dimension Edge)}
    (created : createEdges libraries dimensions group = .ok next) :
    Grows group next := by
  induction dimensions generalizing group with
  | nil =>
      cases created
      exact .refl
  | cons dimension rest induction =>
      rcases Fallible.bind_eq_ok.mp created with ⟨middle, first, later⟩
      exact (createDataset_ok first).1.trans (induction later)

/-- The attribute and the datasets that are opened again are there. -/
theorem createHDFStructure_ok
    {writer : WriterUntyped Edge} {chunkSize : UInt64}
    (created :
      writer.createHDFStructure libraries chunkSize group = .ok next) :
    next.createdFromJson = some writer.createdFromJson ∧
      ∀ name ∈ reOpenedDatasets, name ∈ next.datasets := by
  unfold createHDFStructure at created
  split at created
  case isTrue => cases created
  split at created
  case isFalse => cases created
  rcases Fallible.bind_eq_ok.mp created with ⟨chunk, _, created⟩
  rcases Fallible.bind_eq_ok.mp created with ⟨_, histograms, created⟩
  rcases Fallible.bind_eq_ok.mp created with ⟨_, copied, created⟩
  rcases Fallible.bind_eq_ok.mp created with ⟨_, errors, created⟩
  rcases Fallible.bind_eq_ok.mp created with ⟨_, timestamps, created⟩
  rcases Fallible.bind_eq_ok.mp created with ⟨_, infoTimestamp, created⟩
  rcases Fallible.bind_eq_ok.mp created with ⟨_, info, edges⟩
  rcases createDataset_ok histograms with ⟨first, hasHistograms⟩
  rcases createDataset_ok errors with ⟨third, hasErrors⟩
  rcases createDataset_ok timestamps with ⟨fourth, hasTimestamps⟩
  rcases createDataset_ok infoTimestamp with ⟨fifth, hasInfoTimestamp⟩
  rcases createDataset_ok info with ⟨sixth, hasInfo⟩
  have fromInfo := createEdges_ok edges
  have fromInfoTimestamp := sixth.trans fromInfo
  have fromTimestamps := fifth.trans fromInfoTimestamp
  have fromErrors := fourth.trans fromTimestamps
  have fromHistograms :=
    (copyLatestToData_ok copied).trans (third.trans fromErrors)
  constructor
  · exact (first.trans fromHistograms).createdFromJson
  · intro name member
    simp only [reOpenedDatasets, List.mem_cons, List.not_mem_nil, or_false]
      at member
    rcases member with rfl | rfl | rfl | rfl | rfl
    · exact fromHistograms.datasets hasHistograms
    · exact fromErrors.datasets hasErrors
    · exact fromTimestamps.datasets hasTimestamps
    · exact fromInfo.datasets hasInfo
    · exact fromInfoTimestamp.datasets hasInfoTimestamp

/--
The dimensions of a created group are those of a histogram, as HDF5 creates no
dataset with a chunk of `2 ^ 32` cells.
-/
theorem shape_of_createHDFStructure
    {writer : WriterUntyped Edge} {chunkSize : UInt64}
    (small :
      ∀ extents chunk, libraries.createsDataset extents chunk = true →
        (chunk.map UInt64.toNat).prod < 2 ^ 32)
    (created :
      writer.createHDFStructure libraries chunkSize group = .ok next) :
    ∃ shape : Shape, shape.sizes = writer.shape.sizes.map UInt64.toNat := by
  unfold createHDFStructure at created
  split at created
  case isTrue => cases created
  split at created
  case isFalse => cases created
  rcases Fallible.bind_eq_ok.mp created with ⟨chunk, divided, created⟩
  rcases Fallible.bind_eq_ok.mp created with ⟨_, histograms, _⟩
  have positive : 0 ∉ writer.shape.sizes := by
    intro zero
    rw [Layout.chunkElements, Layout.divideBy_of_zero zero] at divided
    cases divided
  have cells : (chunk.map UInt64.toNat).prod < 2 ^ 32 := by
    unfold createDataset at histograms
    split at histograms
    · rename_i accepted
      exact small _ chunk accepted.2
    · cases histograms
  rcases Fallible.map_eq_ok.mp divided with ⟨first, _, rfl⟩
  rw [List.map_cons, List.prod_cons, Layout.toNat_firstExtent] at cells
  refine ⟨⟨writer.shape.sizes.map UInt64.toNat, ?_, ?_⟩, rfl⟩
  · rw [List.forall_mem_map]
    intro size member
    apply Nat.pos_of_ne_zero
    intro zero
    have same : size = 0 := UInt64.toNat_inj.mp zero
    rw [same] at member
    exact positive member
  · exact Nat.lt_of_le_of_lt
      (Nat.le_mul_of_pos_left _ (Nat.le_max_left 1 first.toNat)) cells

theorem dump_of_create
    {dataType edgeType errorType : ElementType} {json : JsonValue Real}
    {writer : WriterUntyped Edge}
    (created :
      create libraries dataType edgeType errorType json = .ok writer) :
    libraries.dump json = some writer.createdFromJson := by
  unfold create at created
  split at created
  case isFalse => cases created
  rcases Fallible.bind_eq_ok.mp created with ⟨shapeJson, _, created⟩
  rcases Fallible.bind_eq_ok.mp created with ⟨shape, _, created⟩
  split at created
  · cases created
  · rename_i dumped
    cases created
    exact dumped

/-- A group that was created is reopened if its JSON can be read again. -/
theorem reOpen_of_created
    {dataType edgeType errorType : ElementType} {json : JsonValue Real}
    {writer : WriterUntyped Edge} {chunkSize : UInt64}
    (read : libraries.parse writer.createdFromJson = some json)
    (configured :
      create libraries dataType edgeType errorType json = .ok writer)
    (created :
      writer.createHDFStructure libraries chunkSize group = .ok next) :
    reOpen libraries dataType edgeType errorType next = .ok writer := by
  rcases createHDFStructure_ok created with ⟨kept, datasets⟩
  rw [reOpen, kept]
  dsimp only
  rw [read]
  dsimp only
  rw [configured]
  exact if_pos datasets

end WriterUntyped

namespace Hs00Writer

variable {libraries : Libraries Real Edge} {writer : Hs00Writer Edge}

theorem typeAt_ok
    {map : TypeMap} {field name : String} {type : ElementType} :
    map.typeAt field name = .ok type ↔ map.lookup name = some type := by
  unfold TypeMap.typeAt
  split
  · rename_i found
    rw [found, Except.ok.injEq, Option.some.injEq]
  · rename_i absent
    rw [absent]
    exact ⟨nofun, nofun⟩

/-- The types that the names of a configured writer stand for. -/
theorem createFromDataType_ok
    {json : JsonValue Real} {typed : WriterUntyped Edge} :
    writer.createFromDataType libraries json = .ok typed ↔
      ∃ dataType edgeType errorType,
        createDataTypeMap.lookup writer.dataTypeField = some dataType ∧
        createEdgeTypeMap.lookup writer.edgeTypeField = some edgeType ∧
        createErrorTypeMap.lookup writer.errorTypeField = some errorType ∧
        WriterUntyped.create libraries dataType edgeType errorType json =
          .ok typed := by
  simp only [createFromDataType, createFromEdgeType, createFromErrorType,
    Fallible.bind_eq_ok, typeAt_ok]
  constructor
  · rintro ⟨dataType, isData, edgeType, isEdge, errorType, isError, created⟩
    exact ⟨dataType, edgeType, errorType, isData, isEdge, isError, created⟩
  · rintro ⟨dataType, edgeType, errorType, isData, isEdge, isError, created⟩
    exact ⟨dataType, isData, edgeType, isEdge, errorType, isError, created⟩

theorem reOpenFromDataType_ok
    {group : Group} {typed : WriterUntyped Edge} :
    writer.reOpenFromDataType libraries group = .ok typed ↔
      ∃ dataType edgeType errorType,
        reOpenDataTypeMap.lookup writer.dataTypeField = some dataType ∧
        reOpenEdgeTypeMap.lookup writer.edgeTypeField = some edgeType ∧
        reOpenErrorTypeMap.lookup writer.errorTypeField = some errorType ∧
        WriterUntyped.reOpen libraries dataType edgeType errorType group =
          .ok typed := by
  simp only [reOpenFromDataType, reOpenFromEdgeType, reOpenFromErrorType,
    Fallible.bind_eq_ok, typeAt_ok]
  constructor
  · rintro ⟨dataType, isData, edgeType, isEdge, errorType, isError, opened⟩
    exact ⟨dataType, edgeType, errorType, isData, isEdge, isError, opened⟩
  · rintro ⟨dataType, edgeType, errorType, isData, isEdge, isError, opened⟩
    exact ⟨dataType, isData, edgeType, isEdge, errorType, isError, opened⟩

/-- The other names are the same in both maps of error types. -/
theorem lookup_errorType
    {name : String} (undisputed : name ∉ disputedErrorTypes) :
    createErrorTypeMap.lookup name = reOpenErrorTypeMap.lookup name := by
  simp only [disputedErrorTypes, List.mem_cons, List.not_mem_nil, or_false,
    not_or] at undisputed
  rcases undisputed with ⟨uint32, uint64, uint32Suffix, uint64Suffix⟩
  simp only [createErrorTypeMap, reOpenErrorTypeMap, List.lookup_cons,
    beq_false_of_ne uint32, beq_false_of_ne uint64,
    beq_false_of_ne uint32Suffix, beq_false_of_ne uint64Suffix]

/-- Each disputed name is accepted by one of the two maps only. -/
theorem not_sameAccepted_of_disputed
    {name : String} (disputed : name ∈ disputedErrorTypes) :
    ¬SameAccepted createErrorTypeMap reOpenErrorTypeMap name := by
  simp only [disputedErrorTypes, List.mem_cons, List.not_mem_nil, or_false]
    at disputed
  rcases disputed with rfl | rfl | rfl | rfl <;> exact nofun

/-- With names on which the maps agree the writer is the same again. -/
theorem reopen_of_initHdf
    {configured : Hs00Writer Edge} {group created : Group}
    (roundTrip :
      ∀ text json dumped, libraries.parse text = some json →
        libraries.dump json = some dumped →
        libraries.parse dumped = some json)
    (undisputed : writer.errorTypeField ∉ disputedErrorTypes)
    (configures : writer.configPostProcessing libraries = .ok configured)
    (initializes : configured.initHdf libraries group = .ok created) :
    ∃ typed, configured.theWriterUntyped = some typed ∧
      configured.reopen libraries created =
        .ok { configured with theWriterUntyped := some typed } := by
  unfold configPostProcessing at configures
  split at configures
  · cases configures
  rename_i json parsed
  rcases Fallible.bind_eq_ok.mp configures with ⟨typed, creates, same⟩
  cases same
  refine ⟨typed, rfl, ?_⟩
  rcases createFromDataType_ok.mp creates with
    ⟨dataType, edgeType, errorType, isData, isEdge, isError, typedCreated⟩
  have read : libraries.parse typed.createdFromJson = some json :=
    roundTrip _ json _ parsed (WriterUntyped.dump_of_create typedCreated)
  rw [lookup_errorType undisputed] at isError
  have opened :
      writer.reOpenFromDataType libraries created = .ok typed :=
    reOpenFromDataType_ok.mpr
      ⟨dataType, edgeType, errorType, isData, isEdge, isError,
        WriterUntyped.reOpen_of_created read typedCreated initializes⟩
  apply Fallible.bind_eq_ok.mpr
  exact ⟨typed, opened, rfl⟩

/--
If JSON that was parsed can be dumped and parsed again, a writer reopens as it
was configured exactly when its error type is none of the disputed names.
-/
theorem reopens_as_configured_iff
    (libraries : Libraries Real Edge) (writer : Hs00Writer Edge)
    (roundTrip :
      ∀ text json dumped, libraries.parse text = some json →
        libraries.dump json = some dumped →
        libraries.parse dumped = some json) :
    writer.ReopensAsConfigured libraries ↔
      writer.errorTypeField ∉ disputedErrorTypes := by
  constructor
  · intro reopens disputed
    exact not_sameAccepted_of_disputed disputed reopens.errorTypes
  · intro undisputed
    constructor
    · intro configured group created configures initializes
      exact reopen_of_initHdf roundTrip undisputed configures initializes
    · rfl
    · rfl
    · exact congrArg Option.isSome (lookup_errorType undisputed)

/-! ## Two configurations -/

/-- The JSON object with the shape of one dimension. -/
def oneDimension : JsonValue Nat :=
  .object [("shape", .array [.object [("dataset_name", .string "x"),
    ("edges", .array [.unsigned 0, .unsigned 1]), ("label", .string "x"),
    ("size", .unsigned 1), ("unit", .string "mm")]])]

def oneDimensionShape : String :=
  "[\x7b\"dataset_name\":\"x\",\"edges\":[0,1],\"label\":\"x\"," ++
    "\"size\":1,\"unit\":\"mm\"\x7d]"

def oneDimensionText : String :=
  "\x7b\"shape\":" ++ oneDimensionShape ++ "\x7d"

def parseOneDimension (text : String) : Option (JsonValue Nat) :=
  if text = oneDimensionText then some oneDimension else none

/-- Libraries as far as they are used for one dimension. -/
def oneDimensionLibraries : Libraries Nat Nat where
  parse := parseOneDimension
  dump _ := some oneDimensionText
  conversions _ := Layout.naturalNumbers
  createsSpace _ := true
  createsDataset _ _ := true

def oneDimensionWriter (errorType : String) : Hs00Writer Nat where
  dataTypeField := "uint32"
  edgeTypeField := "uint32"
  errorTypeField := errorType
  shapeField := oneDimensionShape

theorem double_reopens_as_configured :
    (oneDimensionWriter "double").ReopensAsConfigured
      oneDimensionLibraries := by
  apply (reopens_as_configured_iff oneDimensionLibraries
    (oneDimensionWriter "double") _).mpr (by decide)
  intro text json dumped parsed written
  cases written
  have here : parseOneDimension text = some json := parsed
  have same : json = oneDimension := by
    rw [parseOneDimension] at here
    split at here
    · exact (Option.some.inj here).symm
    · cases here
  rw [same]
  show parseOneDimension oneDimensionText = some oneDimension
  exact if_pos rfl

/-- The datasets are created, and then the name is not known any more. -/
theorem uint32_t_cannot_be_reopened :
    ¬(oneDimensionWriter "uint32_t").ReopensAsConfigured
        oneDimensionLibraries := by
  intro reopens
  let configured : Hs00Writer Nat :=
    { oneDimensionWriter "uint32_t" with
      theWriterUntyped :=
        some
          { dataType := .uint32
            edgeType := .uint32
            errorType := .uint32
            shape := ⟨[⟨1, "x", "mm", [0, 1], "x"⟩]⟩
            createdFromJson := oneDimensionText } }
  let created : Group :=
    { createdFromJson := some oneDimensionText
      datasets :=
        ["histograms", "data", "errors", "timestamps", "info_timestamp",
          "info", "x"] }
  have configures :
      (oneDimensionWriter "uint32_t").configPostProcessing
          oneDimensionLibraries =
        .ok configured := by
    decide +kernel
  have initializes :
      configured.initHdf oneDimensionLibraries {} = .ok created := by
    decide +kernel
  have threw :
      configured.reopen oneDimensionLibraries created =
        .error (.runtimeError "unimplemented error_type: uint32_t") := by
    decide +kernel
  rcases reopens.reopens _ _ _ configures initializes with ⟨_, _, opened⟩
  rw [threw] at opened
  cases opened

end Hs00Writer

end KafkaToNexus.WriterModule.Hs00
