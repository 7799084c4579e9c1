import KafkaToNexus.Foundations.Fallible
import KafkaToNexus.JsonValue
import Mathlib.Algebra.BigOperators.Group.List.Basic
import Mathlib.Algebra.Order.Group.Nat
import Mathlib.Data.UInt

/-!
# The layout of a histogram

The shape of a histogram is read from the configuration: each dimension has a
size and the edges of its bins, one more than there are bins.  The chunks of the
datasets span the dimensions, and their first extent is what the chunk size
leaves after it was divided by each dimension.
-/

namespace KafkaToNexus.WriterModule.Hs00

open KafkaToNexus.Foundations

/-- The exceptions of the configuration. -/
inductive ConfigFailure where
  | unexpectedJsonInput (what : String)
  | runtimeError (what : String)
  /-- A JSON value has not the type that is read from it. -/
  | jsonTypeError
  | jsonParseError
  | hdf5
  /-- An integer is divided by zero, which ends the process. -/
  | divisionByZero
deriving DecidableEq, Repr

/-- How numbers of the configuration are read. -/
structure Conversions (Real Edge : Type) where
  /-- The cast of a number with a fraction to `size_t`. -/
  truncate : Real → UInt64
  edge : JsonValue Real → Option Edge

namespace Layout

variable {Real Edge : Type}

structure Dimension (Edge : Type) where
  size : UInt64
  label : String
  unit : String
  edges : List Edge
  datasetName : String
deriving DecidableEq, Repr

structure Shape (Edge : Type) where
  dimensions : List (Dimension Edge)
deriving DecidableEq, Repr

/-- Read a member of an object that has to be there. -/
def readMember {Value : Type} (json : JsonValue Real) (key : String)
    (convert : JsonValue Real → Option Value) : Except ConfigFailure Value :=
  match json.memberAt key with
  | none => .error (.unexpectedJsonInput "UnexpectedJsonInput")
  | some value =>
      match convert value with
      | none => .error .jsonTypeError
      | some result => .ok result

/-- The loop over the edges. -/
def readEdges (conversions : Conversions Real Edge) :
    List (JsonValue Real) → Except ConfigFailure (List Edge)
  | [] => .ok []
  | value :: rest =>
      match conversions.edge value with
      | none => .error .jsonTypeError
      | some edge => (readEdges conversions rest).map (edge :: ·)

def Dimension.createFromJson (conversions : Conversions Real Edge)
    (json : JsonValue Real) : Except ConfigFailure (Dimension Edge) :=
  if json.isObject then do
    let size ← readMember json "size" (JsonValue.toSize conversions.truncate)
    let unit ← readMember json "unit" JsonValue.toText
    let label ← readMember json "label" JsonValue.toText
    let datasetName ← readMember json "dataset_name" JsonValue.toText
    let jsonEdges ← readMember json "edges" some
    if jsonEdges.isArray then
      if jsonEdges.items.length = 2 ^ 64 - 1 ∨
          jsonEdges.items.length ≠ (size + 1).toNat then
        .error (.unexpectedJsonInput "UnexpectedJsonInput")
      else do
        let edges ← readEdges conversions jsonEdges.items
        return { size, label, unit, edges, datasetName }
    else
      .error (.unexpectedJsonInput "\"edges\" is not an array.")
  else
    .error (.unexpectedJsonInput "\"shape\" value is not an object.")

/-- The loop over the dimensions. -/
def createDimensions (conversions : Conversions Real Edge) :
    List (JsonValue Real) → Except ConfigFailure (List (Dimension Edge))
  | [] => .ok []
  | json :: rest => do
      let dimension ← Dimension.createFromJson conversions json
      (createDimensions conversions rest).map (dimension :: ·)

def Shape.createFromJson (conversions : Conversions Real Edge)
    (json : JsonValue Real) : Except ConfigFailure (Shape Edge) :=
  if json.isArray then
    (createDimensions conversions json.items).map Shape.mk
  else
    .error (.unexpectedJsonInput "\"shape\" field is not an array.")

def Shape.sizes (shape : Shape Edge) : List UInt64 :=
  shape.dimensions.map Dimension.size

/-! ## The chunks -/

/-- Divide the chunk size by each dimension. -/
def divideBy (chunkSize : UInt64) :
    List UInt64 → Except ConfigFailure UInt64
  | [] => .ok chunkSize
  | dim :: dims =>
      if dim = 0 then .error .divisionByZero
      else divideBy (chunkSize / dim) dims

/-- The extents of the chunks of the histograms and of the errors. -/
def chunkElements (chunkSize : UInt64) (sizes : List UInt64) :
    Except ConfigFailure (List UInt64) :=
  (divideBy chunkSize sizes).map fun first =>
    (if first = 0 then 1 else first) :: sizes

/-! ## Shapes that can be laid out -/

/--
The dimensions have one edge more than bins, and the chunks are those of a
histogram: they span the dimensions, and hold no more cells than the chunk size
and the histogram.
-/
structure LaidOut (shape : Shape Edge) (chunkSize : UInt64) : Prop where
  edges :
    ∀ dimension ∈ shape.dimensions,
      dimension.edges.length = dimension.size.toNat + 1
  chunks :
    ∃ chunk, chunkElements chunkSize shape.sizes = .ok chunk ∧
      (∀ extent ∈ chunk, 1 ≤ extent.toNat) ∧
      chunk.tail = shape.sizes ∧
      (chunk.map UInt64.toNat).prod ≤
        max chunkSize.toNat (shape.sizes.map UInt64.toNat).prod

/-- The size of a JSON dimension. -/
def jsonSize (conversions : Conversions Real Edge) (json : JsonValue Real) :
    Option UInt64 :=
  (json.memberAt "size").bind (JsonValue.toSize conversions.truncate)

/-- The sizes of the dimensions in a JSON shape. -/
def sizesOf (conversions : Conversions Real Edge) (json : JsonValue Real) :
    List UInt64 :=
  json.items.filterMap (jsonSize conversions)

/-- The size is not zero, and one more is a number of 64 bits. -/
def Fitting (size : UInt64) : Prop :=
  0 < size.toNat ∧ size.toNat + 1 < 2 ^ 64

/-! ## What was read from a shape -/

section Reading

variable {conversions : Conversions Real Edge} {json : JsonValue Real}

theorem readMember_ok
    {Value : Type} {key : String} {convert : JsonValue Real → Option Value}
    {result : Value}
    (read : readMember json key convert = .ok result) :
    (json.memberAt key).bind convert = some result := by
  unfold readMember at read
  split at read
  · cases read
  rename_i value present
  split at read
  · cases read
  rename_i converted
  cases read
  rw [present]
  exact converted

theorem length_readEdges
    {values : List (JsonValue Real)} {edges : List Edge}
    (read : readEdges conversions values = .ok edges) :
    edges.length = values.length := by
  induction values generalizing edges with
  | nil =>
      cases read
      rfl
  | cons value rest induction =>
      rw [readEdges] at read
      split at read
      · cases read
      · rcases Fallible.map_eq_ok.mp read with ⟨others, later, rfl⟩
        exact congrArg (· + 1) (induction later)

/-- The size is that of the JSON object, and there is an edge more, mod 2⁶⁴. -/
theorem Dimension.createFromJson_ok
    {dimension : Dimension Edge}
    (created : Dimension.createFromJson conversions json = .ok dimension) :
    jsonSize conversions json = some dimension.size ∧
      dimension.edges.length = (dimension.size + 1).toNat := by
  unfold createFromJson at created
  split at created
  case isFalse => cases created
  rcases Fallible.bind_eq_ok.mp created with ⟨size, sized, created⟩
  rcases Fallible.bind_eq_ok.mp created with ⟨unit, _, created⟩
  rcases Fallible.bind_eq_ok.mp created with ⟨label, _, created⟩
  rcases Fallible.bind_eq_ok.mp created with ⟨datasetName, _, created⟩
  rcases Fallible.bind_eq_ok.mp created with ⟨jsonEdges, _, created⟩
  split at created
  case isFalse => cases created
  split at created
  case isTrue => cases created
  rename_i counted
  rcases Fallible.bind_eq_ok.mp created with ⟨edges, read, created⟩
  cases created
  refine ⟨readMember_ok sized, ?_⟩
  exact (length_readEdges read).trans (not_not.mp (not_or.mp counted).2)

theorem createDimensions_ok
    {values : List (JsonValue Real)} {dimensions : List (Dimension Edge)}
    (created : createDimensions conversions values = .ok dimensions) :
    values.filterMap (jsonSize conversions) =
        dimensions.map Dimension.size ∧
      ∀ dimension ∈ dimensions,
        dimension.edges.length = (dimension.size + 1).toNat := by
  induction values generalizing dimensions with
  | nil =>
      cases created
      exact ⟨rfl, fun _ => nofun⟩
  | cons value rest induction =>
      rcases Fallible.bind_eq_ok.mp created with ⟨first, own, others⟩
      rcases Fallible.map_eq_ok.mp others with ⟨later, loop, rfl⟩
      rcases Dimension.createFromJson_ok own with ⟨size, edges⟩
      rcases induction loop with ⟨sizes, restEdges⟩
      constructor
      · rw [List.filterMap_cons_some size, sizes, List.map_cons]
      · rw [List.forall_mem_cons]
        exact ⟨edges, restEdges⟩

theorem Shape.createFromJson_ok
    {shape : Shape Edge}
    (created : Shape.createFromJson conversions json = .ok shape) :
    sizesOf conversions json = shape.sizes ∧
      ∀ dimension ∈ shape.dimensions,
        dimension.edges.length = (dimension.size + 1).toNat := by
  unfold createFromJson at created
  split at created
  case isFalse => cases created
  rcases Fallible.map_eq_ok.mp created with ⟨dimensions, loop, rfl⟩
  exact createDimensions_ok loop

end Reading

/-! ## The division of the chunk size -/

section Chunks

variable {chunkSize : UInt64} {sizes : List UInt64}

theorem divideBy_of_zero (zero : 0 ∈ sizes) :
    divideBy chunkSize sizes = .error .divisionByZero := by
  induction sizes generalizing chunkSize with
  | nil => cases zero
  | cons size rest induction =>
      rw [divideBy]
      split
      · rfl
      · rename_i positive
        rcases List.mem_cons.mp zero with same | later
        · exact absurd same.symm positive
        · exact induction later

/-- The chunk size is divided by the product of the dimensions. -/
theorem divideBy_of_positive (positive : 0 ∉ sizes) :
    ∃ first, divideBy chunkSize sizes = .ok first ∧
      first.toNat =
        chunkSize.toNat / (sizes.map UInt64.toNat).prod := by
  induction sizes generalizing chunkSize with
  | nil => exact ⟨chunkSize, rfl, (Nat.div_one _).symm⟩
  | cons size rest induction =>
      rw [List.mem_cons, not_or] at positive
      rcases @induction (chunkSize / size) positive.2 with
        ⟨first, divided, value⟩
      refine ⟨first, ?_, ?_⟩
      · rw [divideBy, if_neg fun zero => positive.1 zero.symm]
        exact divided
      · rw [value, UInt64.toNat_div, List.map_cons, List.prod_cons,
          Nat.div_div_eq_div_mul]

/-- A chunk with one more layer than is left of its size is not too large. -/
theorem layers_mul_le (cells layer : Nat) :
    Max.max 1 (cells / layer) * layer ≤ Max.max cells layer := by
  rcases Nat.eq_zero_or_pos (cells / layer) with none | some_
  · rw [none, Nat.max_eq_left (Nat.zero_le 1), Nat.one_mul]
    exact Nat.le_max_right _ _
  · rw [Nat.max_eq_right some_]
    exact Nat.le_trans (Nat.div_mul_le_self _ _) (Nat.le_max_left _ _)

theorem toNat_firstExtent (first : UInt64) :
    (if first = 0 then (1 : UInt64) else first).toNat =
      Max.max 1 first.toNat := by
  split
  · rename_i zero
    rw [zero]
    rfl
  · rename_i positive
    have value : first.toNat ≠ 0 :=
      fun zero => positive (UInt64.toNat_inj.mp zero)
    omega

/-- Without an empty dimension the chunks are as they should be. -/
theorem chunks_of_positive (positive : 0 ∉ sizes) :
    ∃ chunk, chunkElements chunkSize sizes = .ok chunk ∧
      (∀ extent ∈ chunk, 1 ≤ extent.toNat) ∧
      chunk.tail = sizes ∧
      (chunk.map UInt64.toNat).prod ≤
        Max.max chunkSize.toNat (sizes.map UInt64.toNat).prod := by
  rcases @divideBy_of_positive chunkSize sizes positive with
    ⟨first, divided, value⟩
  refine ⟨(if first = 0 then 1 else first) :: sizes, ?_, ?_, rfl, ?_⟩
  · rw [chunkElements, divided]
    rfl
  · rw [List.forall_mem_cons, toNat_firstExtent]
    refine ⟨Nat.le_max_left _ _, fun size member => ?_⟩
    apply Nat.pos_of_ne_zero
    intro zero
    have same : size = 0 := UInt64.toNat_inj.mp zero
    rw [same] at member
    exact positive member
  · rw [List.map_cons, List.prod_cons, toNat_firstExtent, value]
    exact layers_mul_le _ _

end Chunks

/-! ## Accepted shapes -/

section Accepted

variable {conversions : Conversions Real Edge} {json : JsonValue Real}

/-- One more than a size does not wrap round when it fits in 64 bits. -/
theorem succ_eq_iff (size : UInt64) :
    (size + 1).toNat = size.toNat + 1 ↔ size.toNat + 1 < 2 ^ 64 := by
  have bound := size.toNat_lt
  rw [UInt64.toNat_add]
  show (size.toNat + 1) % 2 ^ 64 = size.toNat + 1 ↔ _
  omega

/-- A shape with the edges that were asked for is laid out if its sizes fit. -/
theorem Shape.laidOut_iff
    {shape : Shape Edge} {chunkSize : UInt64}
    (edges :
      ∀ dimension ∈ shape.dimensions,
        dimension.edges.length = (dimension.size + 1).toNat) :
    LaidOut shape chunkSize ↔ ∀ size ∈ shape.sizes, Fitting size := by
  constructor
  · intro laidOut
    rcases laidOut.chunks with ⟨chunk, divided, _⟩
    rw [Shape.sizes, List.forall_mem_map]
    intro dimension member
    constructor
    · apply Nat.pos_of_ne_zero
      intro zero
      have same : dimension.size = 0 := UInt64.toNat_inj.mp zero
      have present : 0 ∈ shape.sizes := by
        rw [← same]
        exact List.mem_map_of_mem member
      rw [chunkElements, divideBy_of_zero present] at divided
      cases divided
    · rw [← succ_eq_iff, ← edges dimension member]
      exact laidOut.edges dimension member
  · intro fitting
    constructor
    · intro dimension member
      rw [edges dimension member, succ_eq_iff]
      exact (fitting _ (List.mem_map_of_mem member)).2
    · apply chunks_of_positive
      exact fun zero => absurd (fitting 0 zero).1 (Nat.lt_irrefl 0)

/--
A JSON shape that is accepted is laid out exactly when each of its sizes is at
least one and below the largest number of 64 bits.
-/
theorem laid_out_iff
    (conversions : Conversions Real Edge) (json : JsonValue Real)
    (chunkSize : UInt64) :
    (∀ shape, Shape.createFromJson conversions json = .ok shape →
        LaidOut shape chunkSize) ↔
      ((Shape.createFromJson conversions json).isOk = true →
        ∀ size ∈ sizesOf conversions json, Fitting size) := by
  cases created : Shape.createFromJson conversions json with
  | error failure =>
      constructor
      · exact fun _ accepted => nomatch accepted
      · exact fun _ _ refused => nomatch refused
  | ok shape =>
      rcases Shape.createFromJson_ok created with ⟨sizes, edges⟩
      rw [sizes, ← Shape.laidOut_iff edges]
      constructor
      · exact fun laidOut _ => laidOut shape rfl
      · rintro laidOut other ⟨⟩
        exact laidOut rfl

/-- One dimension with the largest size and no edges. -/
def largestDimension : JsonValue Nat :=
  .array [.object [("size", .unsigned (2 ^ 64 - 1)), ("unit", .string "mm"),
    ("label", .string "x"), ("dataset_name", .string "x_edges"),
    ("edges", .array [])]]

def naturalNumbers : Conversions Nat Nat where
  truncate := UInt64.ofNat
  edge
    | .unsigned value => some value.toNat
    | _ => none

/-- The shape is accepted, and its dimension has no edges at all. -/
theorem largest_dimension_without_edges :
    ¬∀ shape, Shape.createFromJson naturalNumbers largestDimension =
        .ok shape →
      LaidOut shape 1024 := by
  intro laidOut
  have accepted :
      Shape.createFromJson naturalNumbers largestDimension =
        .ok ⟨[⟨2 ^ 64 - 1, "x", "mm", [], "x_edges"⟩]⟩ := by
    decide +kernel
  have edges := (laidOut _ accepted).edges _ List.mem_cons_self
  simp at edges

end Accepted

end Layout

end KafkaToNexus.WriterModule.Hs00
