import KafkaToNexus.NeXusDataset.ExtensibleDataset

/-!
# The chunks of a dataset of rows

A dataset is stored in chunks, whose shape is computed from the shape of a row
and from a list of chunk sizes.  A single size is divided by the elements of a
row.  Their number is multiplied up in an `int`, so that it is cut off from
`2 ^ 31` elements on, and a row with an extent of zero makes it zero.
-/

namespace KafkaToNexus.NeXusDataset

/-! ## The elements of a row -/

/-- A product of 64 bits that is put back into an `int`. -/
def multiplyInInt (product : Int32) (extent : UInt64) : Int32 :=
  (product.toInt64.toUInt64 * extent).toUInt32.toInt32

def elementsPerRow (shape : List UInt64) : Int32 :=
  shape.foldl multiplyInInt 1

/-- A negative `int` becomes a large number of 64 bits. -/
theorem toNat_signExtended (value : Int32) :
    value.toInt64.toUInt64.toNat =
      if value.toUInt32.toNat < 2 ^ 31 then value.toUInt32.toNat
      else 2 ^ 64 - 2 ^ 32 + value.toUInt32.toNat := by
  have extended :
      value.toInt64.toUInt64.toNat = (value.toBitVec.signExtend 64).toNat :=
    rfl
  have same : value.toBitVec.toNat = value.toUInt32.toNat := rfl
  have small := value.toUInt32.toNat_lt
  rw [extended, BitVec.toNat_signExtend, BitVec.msb_eq_decide,
    BitVec.toNat_setWidth, same]
  simp only [decide_eq_true_eq]
  split_ifs <;> omega

theorem toNat_multiplyInInt (product : Int32) (extent : UInt64) :
    (multiplyInInt product extent).toUInt32.toNat =
      product.toUInt32.toNat * extent.toNat % 2 ^ 32 := by
  have low :
      product.toInt64.toUInt64.toUInt32.toNat =
        product.toUInt32.toNat := by
    have small := product.toUInt32.toNat_lt
    rw [UInt64.toNat_toUInt32, toNat_signExtended]
    split_ifs <;> omega
  rw [multiplyInInt, UInt32.toUInt32_toInt32, UInt64.toUInt32_mul,
    UInt32.toNat_mul, low, UInt64.toNat_toUInt32, Nat.mul_mod_mod]

/-- The product is right modulo `2 ^ 32`. -/
theorem toNat_elementsPerRow (shape : List UInt64) :
    (elementsPerRow shape).toUInt32.toNat =
      (shape.map UInt64.toNat).prod % 2 ^ 32 := by
  suffices all :
      ∀ product : Int32,
        (shape.foldl multiplyInInt product).toUInt32.toNat =
          product.toUInt32.toNat * (shape.map UInt64.toNat).prod %
            2 ^ 32 by
    rw [elementsPerRow, all]
    exact congrArg (· % 2 ^ 32) (Nat.one_mul _)
  induction shape with
  | nil =>
      intro product
      rw [List.map_nil, List.prod_nil, Nat.mul_one,
        Nat.mod_eq_of_lt product.toUInt32.toNat_lt]
      rfl
  | cons extent shape induction =>
      intro product
      rw [List.foldl_cons, induction, toNat_multiplyInInt, List.map_cons,
        List.prod_cons, Nat.mod_mul_mod, Nat.mul_assoc]

/-! ## The shape of a chunk -/

/-- The rows of a chunk of some size; a division by zero has no result. -/
def rowsOfChunk (shape : List UInt64) (chunkSize : UInt64) : Option UInt64 :=
  if elementsPerRow shape = 0 then none
  else
    let nrOfRows := chunkSize / (elementsPerRow shape).toInt64.toUInt64
    some (if nrOfRows = 0 then 1 else nrOfRows)

/-- The shape of the chunks that the constructor hands to HDF5. -/
def vectorChunkSize (shape chunkSize : List UInt64) : Option (List UInt64) :=
  let chunkSize := if chunkSize = [] then [1024] else chunkSize
  if chunkSize.length = shape.length + 1 then some chunkSize
  else
    match chunkSize with
    | [size] =>
        if 0 < shape.length then
          (rowsOfChunk shape size).map fun rows => rows :: shape
        else
          some (1024 :: shape)
    | _ => some (1024 :: shape)

/--
No division by zero; a chunk has the rank of the dataset and elements; and if a
single size was given, it has no more elements than that, or a single row.
-/
def GoodChunks (shape chunkSize : List UInt64) : Prop :=
  ∃ chunk, vectorChunkSize shape chunkSize = some chunk ∧
    chunk.length = shape.length + 1 ∧
    (∀ extent ∈ chunk, 1 ≤ extent.toNat) ∧
    ∀ size, chunkSize = [size] → ∀ rows ∈ chunk.head?,
      rows.toNat * (shape.map UInt64.toNat).prod ≤
        max size.toNat (shape.map UInt64.toNat).prod

/-- The rows of a chunk of some size are few enough. -/
def FewRows (elements size : Nat) : Prop :=
  elements < 2 ^ 32 ∨ 2 ^ 31 ≤ elements % 2 ^ 32 ∨
    size < 2 * (elements % 2 ^ 32)

/--
A list of full rank has no zeros.  Otherwise the shape has none, and where the
elements of a row are a divisor, their number is not a multiple of `2 ^ 32`;
for a single size it is also not cut to less than half of the size.
-/
def SoundSizes (shape chunkSize : List UInt64) : Prop :=
  if chunkSize.length = shape.length + 1 then
    ∀ extent ∈ chunkSize, extent ≠ 0
  else
    (∀ extent ∈ shape, extent ≠ 0) ∧
      (chunkSize.length ≤ 1 →
        (shape.map UInt64.toNat).prod % 2 ^ 32 ≠ 0) ∧
      ∀ size, chunkSize = [size] →
        FewRows (shape.map UInt64.toNat).prod size.toNat

/-! ## When the chunks are good -/

/-- The divisor that stands for the elements of a row. -/
def divisor (elements : Nat) : Nat :=
  if elements % 2 ^ 32 < 2 ^ 31 then elements % 2 ^ 32
  else 2 ^ 64 - 2 ^ 32 + elements % 2 ^ 32

/-- The rows of a chunk that the divisor gives. -/
def quotientRows (elements size : Nat) : Nat :=
  if size / divisor elements = 0 then 1 else size / divisor elements

/-- One row is never too much. -/
theorem quotientRows_mul_le_of_single
    {elements size : Nat} (one : size / divisor elements ≤ 1) :
    quotientRows elements size * elements ≤ max size elements := by
  have row : quotientRows elements size = 1 := by
    rw [quotientRows]
    split_ifs with none_
    · rfl
    · exact Nat.le_antisymm one (Nat.one_le_iff_ne_zero.mpr none_)
  rw [row, Nat.one_mul]
  exact Nat.le_max_right _ _

/-- A divisor that is the number of elements is right. -/
theorem quotientRows_mul_le_of_exact
    {elements size : Nat} (whole : divisor elements = elements) :
    quotientRows elements size * elements ≤ max size elements := by
  rw [quotientRows, whole]
  split_ifs
  · rw [Nat.one_mul]
    exact Nat.le_max_right _ _
  · exact (Nat.div_mul_le_self size elements).trans (Nat.le_max_left _ _)

/-- With a divisor that is too small by half, two rows are too many. -/
theorem lt_quotientRows_mul_of_cut
    {elements size : Nat} (positive : 0 < divisor elements)
    (cut : 2 * divisor elements ≤ elements)
    (large : 2 * divisor elements ≤ size) :
    max size elements < quotientRows elements size * elements := by
  have twice : 2 ≤ size / divisor elements := by
    rw [Nat.le_div_iff_mul_le positive]
    exact large
  have rows : quotientRows elements size = size / divisor elements :=
    if_neg (by omega)
  have remainder := Nat.mod_lt size positive
  have split := Nat.div_add_mod size (divisor elements)
  have more :
      size / divisor elements * (2 * divisor elements) ≤
        size / divisor elements * elements :=
    Nat.mul_le_mul_left _ cut
  have double :
      2 * elements ≤ size / divisor elements * elements :=
    Nat.mul_le_mul_right _ twice
  have least :
      divisor elements ≤ size / divisor elements * divisor elements :=
    Nat.le_mul_of_pos_left _ (by omega)
  rw [Nat.mul_comm] at split
  rw [Nat.mul_left_comm] at more
  rw [rows]
  omega

theorem quotientRows_mul_le_iff
    {elements size : Nat} (positive : elements % 2 ^ 32 ≠ 0)
    (small : size < 2 ^ 64) :
    quotientRows elements size * elements ≤ max size elements ↔
      FewRows elements size := by
  by_cases narrow : elements % 2 ^ 32 < 2 ^ 31
  · have same : divisor elements = elements % 2 ^ 32 := if_pos narrow
    by_cases exact_ : elements < 2 ^ 32
    · apply iff_of_true _ (Or.inl exact_)
      exact
        quotientRows_mul_le_of_exact
          (same.trans (Nat.mod_eq_of_lt exact_))
    · have few :
          FewRows elements size ↔ size < 2 * (elements % 2 ^ 32) := by
        rw [FewRows]
        omega
      rw [few]
      constructor
      · intro fits
        by_contra large
        apply absurd fits
        rw [not_le]
        apply lt_quotientRows_mul_of_cut <;> omega
      · intro less
        apply quotientRows_mul_le_of_single
        rw [same]
        have below :=
          (Nat.div_lt_iff_lt_mul (Nat.pos_of_ne_zero positive)).mpr less
        omega
  · have wide : 2 ^ 31 ≤ elements % 2 ^ 32 := not_lt.mp narrow
    have large : divisor elements = 2 ^ 64 - 2 ^ 32 + elements % 2 ^ 32 :=
      if_neg narrow
    apply iff_of_true _ (Or.inr (Or.inl wide))
    apply quotientRows_mul_le_of_single
    have below : size / divisor elements < 2 := by
      rw [Nat.div_lt_iff_lt_mul (by omega)]
      omega
    omega

variable {shape chunkSize : List UInt64}

theorem elementsPerRow_eq_zero_iff :
    elementsPerRow shape = 0 ↔
      (shape.map UInt64.toNat).prod % 2 ^ 32 = 0 := by
  rw [← toNat_elementsPerRow]
  constructor
  · intro zero
    rw [zero]
    rfl
  · intro zero
    apply Int32.toBitVec_inj.mp
    exact BitVec.eq_of_toNat_eq zero

/-- The rows are the quotient, if it can be computed. -/
theorem rowsOfChunk_of_ne
    (some_ : (shape.map UInt64.toNat).prod % 2 ^ 32 ≠ 0) (size : UInt64) :
    ∃ rows, rowsOfChunk shape size = some rows ∧
      rows.toNat =
        quotientRows (shape.map UInt64.toNat).prod size.toNat := by
  have nonzero : elementsPerRow shape ≠ 0 :=
    mt elementsPerRow_eq_zero_iff.mp some_
  have quotient :
      (size / (elementsPerRow shape).toInt64.toUInt64).toNat =
        size.toNat / divisor (shape.map UInt64.toNat).prod := by
    rw [UInt64.toNat_div, toNat_signExtended, toNat_elementsPerRow]
    rfl
  refine ⟨_, if_neg nonzero, ?_⟩
  rw [quotientRows, ← quotient]
  by_cases none_ : size / (elementsPerRow shape).toInt64.toUInt64 = 0
  · rw [if_pos none_, none_]
    rfl
  · have nonzero_ :
        (size / (elementsPerRow shape).toInt64.toUInt64).toNat ≠ 0 :=
      fun zero => none_ (UInt64.toNat_inj.mp zero)
    rw [if_neg none_, if_neg nonzero_]

theorem quotientRows_pos (elements size : Nat) :
    1 ≤ quotientRows elements size := by
  rw [quotientRows]
  split_ifs with none_
  · exact Nat.le_refl 1
  · exact Nat.one_le_iff_ne_zero.mpr none_

theorem rowsOfChunk_of_eq
    (zero : (shape.map UInt64.toNat).prod % 2 ^ 32 = 0) (size : UInt64) :
    rowsOfChunk shape size = none :=
  if_pos (elementsPerRow_eq_zero_iff.mpr zero)

theorem one_le_toNat_iff {extent : UInt64} :
    1 ≤ extent.toNat ↔ extent ≠ 0 := by
  rw [Nat.one_le_iff_ne_zero]
  exact not_congr (@UInt64.toNat_inj extent 0)

/-- A list of full rank is the shape of the chunks. -/
theorem goodChunks_of_full_iff
    (full : chunkSize.length = shape.length + 1) :
    GoodChunks shape chunkSize ↔ ∀ extent ∈ chunkSize, extent ≠ 0 := by
  have given : chunkSize ≠ [] := List.ne_nil_of_length_eq_add_one full
  have chunk : vectorChunkSize shape chunkSize = some chunkSize := by
    simp only [vectorChunkSize, if_neg given, if_pos full]
  constructor
  · rintro ⟨other, computed, _, extents, _⟩ extent member
    rw [chunk] at computed
    cases computed
    exact one_le_toNat_iff.mp (extents extent member)
  · intro nonzero
    refine ⟨chunkSize, chunk, full, ?_, ?_⟩
    · exact fun extent member => one_le_toNat_iff.mpr (nonzero extent member)
    · rintro size rfl rows first
      have flat : shape = [] :=
        List.length_eq_zero_iff.mp (Nat.succ.inj full).symm
      cases first
      rw [flat, List.map_nil, List.prod_nil, Nat.mul_one]
      exact Nat.le_max_left _ _

/-- Where a size is divided by the elements of a row. -/
theorem goodChunks_of_divided_iff
    {size : UInt64}
    (divided :
      vectorChunkSize shape chunkSize =
        (rowsOfChunk shape size).map fun rows => rows :: shape) :
    GoodChunks shape chunkSize ↔
      (∀ extent ∈ shape, extent ≠ 0) ∧
        (shape.map UInt64.toNat).prod % 2 ^ 32 ≠ 0 ∧
        ∀ given, chunkSize = [given] →
          quotientRows (shape.map UInt64.toNat).prod size.toNat *
              (shape.map UInt64.toNat).prod ≤
            max given.toNat (shape.map UInt64.toNat).prod := by
  by_cases zero : (shape.map UInt64.toNat).prod % 2 ^ 32 = 0
  · apply iff_of_false
    · rintro ⟨chunk, computed, _⟩
      rw [divided, rowsOfChunk_of_eq zero] at computed
      cases computed
    · exact fun sound => sound.2.1 zero
  · rcases rowsOfChunk_of_ne zero size with ⟨rows, found, same⟩
    have chunk : vectorChunkSize shape chunkSize = some (rows :: shape) := by
      rw [divided, found, Option.map_some]
    constructor
    · rintro ⟨other, computed, _, extents, few⟩
      rw [chunk] at computed
      cases computed
      refine ⟨?_, zero, ?_⟩
      · intro extent member
        exact one_le_toNat_iff.mp
          (extents extent (List.mem_cons_of_mem _ member))
      · intro given single
        rw [← same]
        exact few given single rows rfl
    · rintro ⟨nonzero, _, few⟩
      refine ⟨rows :: shape, chunk, rfl, ?_, ?_⟩
      · intro extent member
        rcases List.mem_cons.mp member with rfl | other
        · rw [same]
          exact quotientRows_pos _ _
        · exact one_le_toNat_iff.mpr (nonzero extent other)
      · intro given single first head
        cases head
        rw [same]
        exact few given single

/-- Where the rows of a chunk are the default. -/
theorem goodChunks_of_default_iff
    (default_ : vectorChunkSize shape chunkSize = some (1024 :: shape))
    (several : ∀ size, chunkSize ≠ [size]) :
    GoodChunks shape chunkSize ↔ ∀ extent ∈ shape, extent ≠ 0 := by
  constructor
  · rintro ⟨other, computed, _, extents, _⟩ extent member
    rw [default_] at computed
    cases computed
    exact one_le_toNat_iff.mp (extents extent (List.mem_cons_of_mem _ member))
  · intro nonzero
    refine ⟨1024 :: shape, default_, rfl, ?_, ?_⟩
    · intro extent member
      rcases List.mem_cons.mp member with rfl | other
      · decide
      · exact one_le_toNat_iff.mpr (nonzero extent other)
    · intro size single
      exact absurd single (several size)

/-- Without a list the size is the default, and nothing bounds a chunk. -/
theorem goodChunks_nil_iff :
    GoodChunks shape [] ↔ SoundSizes shape [] := by
  have short : ([] : List UInt64).length ≠ shape.length + 1 :=
    (Nat.succ_ne_zero _).symm
  rw [SoundSizes, if_neg short]
  rcases shape with _ | ⟨extent, shape⟩
  · rw [goodChunks_of_default_iff rfl (fun size => by simp)]
    constructor
    · intro nonzero
      refine ⟨nonzero, fun _ => by decide, ?_⟩
      intro size single
      cases single
    · exact fun sound => sound.1
  · have divided :
        vectorChunkSize (extent :: shape) [] =
          (rowsOfChunk (extent :: shape) 1024).map fun rows =>
            rows :: extent :: shape := by
      simp [vectorChunkSize]
    rw [goodChunks_of_divided_iff divided]
    constructor
    · rintro ⟨nonzero, some_, _⟩
      refine ⟨nonzero, fun _ => some_, ?_⟩
      intro size single
      cases single
    · rintro ⟨nonzero, some_, _⟩
      refine ⟨nonzero, some_ (Nat.zero_le _), ?_⟩
      intro size single
      cases single

/-- A single size bounds a chunk of rows. -/
theorem goodChunks_singleton_iff
    {size : UInt64} (short : [size].length ≠ shape.length + 1) :
    GoodChunks shape [size] ↔ SoundSizes shape [size] := by
  have rank : 0 < shape.length := by
    rw [List.length_singleton] at short
    omega
  have divided :
      vectorChunkSize shape [size] =
        (rowsOfChunk shape size).map fun rows => rows :: shape := by
    simp only [vectorChunkSize, if_neg (List.cons_ne_nil size []),
      if_neg short, if_pos rank]
  rw [SoundSizes, if_neg short, goodChunks_of_divided_iff divided]
  constructor
  · rintro ⟨nonzero, some_, few⟩
    refine ⟨nonzero, fun _ => some_, ?_⟩
    intro given single
    cases single
    exact (quotientRows_mul_le_iff some_ size.toNat_lt).mp (few size rfl)
  · rintro ⟨nonzero, some_, few⟩
    refine ⟨nonzero, some_ (Nat.le_refl 1), ?_⟩
    intro given single
    cases single
    exact
      (quotientRows_mul_le_iff (some_ (Nat.le_refl 1))
        size.toNat_lt).mpr (few size rfl)

/-- Several sizes that do not fit are replaced by the default rows. -/
theorem goodChunks_several_iff
    {size next : UInt64} {rest : List UInt64}
    (short : (size :: next :: rest).length ≠ shape.length + 1) :
    GoodChunks shape (size :: next :: rest) ↔
      SoundSizes shape (size :: next :: rest) := by
  have default_ :
      vectorChunkSize shape (size :: next :: rest) =
        some (1024 :: shape) := by
    simp only [vectorChunkSize, if_neg (List.cons_ne_nil size _),
      if_neg short]
  rw [SoundSizes, if_neg short,
    goodChunks_of_default_iff default_ (fun other => by simp)]
  constructor
  · intro nonzero
    refine ⟨nonzero, ?_, ?_⟩
    · intro few
      rw [List.length_cons, List.length_cons] at few
      omega
    · intro other single
      cases single
  · exact fun sound => sound.1

/-- The chunks are good exactly when the sizes are sound. -/
theorem good_chunks_iff (shape chunkSize : List UInt64) :
    GoodChunks shape chunkSize ↔ SoundSizes shape chunkSize := by
  by_cases full : chunkSize.length = shape.length + 1
  · rw [SoundSizes, if_pos full]
    exact goodChunks_of_full_iff full
  · rcases chunkSize with _ | ⟨size, _ | ⟨next, rest⟩⟩
    · exact goodChunks_nil_iff
    · exact goodChunks_singleton_iff full
    · exact goodChunks_several_iff full

/-- The elements of a row make zero in an `int`. -/
theorem division_by_zero_elements :
    ¬GoodChunks [65536, 65536] [1048576] := by
  rintro ⟨chunk, computed, _⟩
  have nothing : vectorChunkSize [65536, 65536] [1048576] = none := by
    decide +kernel
  rw [nothing] at computed
  cases computed

end KafkaToNexus.NeXusDataset
