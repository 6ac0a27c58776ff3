import AppEfi.Lib.Alignment
import AppEfi.Lib.BoundedWalk
import AppEfi.Lib.Loop

/-!
# The walks over the SKU deltas of a PCD database

IsSkuPcd, CopySkuPcdData and the end of DumpPcdDatabase in PcdDump.c, over any bytes.  The
blocks follow the database at offsets that are aligned to 8; each gives its own Length, and
nothing checks it.  UINTN has 64 bits, so that no sum of these UINT32 fields wraps.
-/

set_option autoImplicit false

namespace AppEfi.PcdDump

open AppEfi.BoundedWalk
open AppEfi.LittleEndian
open AppEfi.Loop
open AppEfi.RecordWalk

/-- `PCD_DATA_DELTA`: Offset has the low 24 bits of a UINT32, Value the high 8. -/
structure PcdDataDelta where
  offset : Nat
  value : UInt8
  deriving DecidableEq

def pcdDataDelta (bits : Nat) : PcdDataDelta := ⟨bits % 2 ^ 24, UInt8.ofNat (bits / 2 ^ 24)⟩

def sizeofSkuDelta : Nat := 20

section Fields

variable (memory : Memory) (pcdDatabaseInit : Nat)

def databaseLength : Nat := memory.readLe (pcdDatabaseInit + 20) 4

def lengthForAllSkus : Nat := memory.readLe (pcdDatabaseInit + 32) 4

variable (offset : Nat)

def skuIdAt : Nat := memory.readLe (pcdDatabaseInit + offset) 8

def skuIdComparedAt : Nat := memory.readLe (pcdDatabaseInit + offset + 8) 8

def skuDeltaLength : Nat := memory.readLe (pcdDatabaseInit + offset + 16) 4

/-- The turns of `DeltaData` from SkuDelta + 1 while it is below SkuDelta + Length. -/
def deltaCount : Nat := (skuDeltaLength memory pcdDatabaseInit offset - sizeofSkuDelta + 3) / 4

def deltasAt : List PcdDataDelta :=
  readEntries (fun address => pcdDataDelta (memory.readLe address 4)) 4
    (pcdDatabaseInit + offset + sizeofSkuDelta) (deltaCount memory pcdDatabaseInit offset)

def firstSkuDelta : Nat := alignValue (databaseLength memory pcdDatabaseInit) 8

def nextSkuDelta : Nat := alignValue (offset + skuDeltaLength memory pcdDatabaseInit offset) 8

end Fields

section Walks

variable (memory : Memory) (pcdDatabaseInit : Nat)

/-- The two comparisons with DataPtr and DataPtr + DataSize. -/
def inData (dataPtr dataSize : Nat) (delta : PcdDataDelta) : Bool :=
  decide (dataPtr ≤ pcdDatabaseInit + delta.offset) &&
    decide (pcdDatabaseInit + delta.offset < dataPtr + dataSize)

def isSkuPcdTurn (dataPtr dataSize offset : Nat) : Control Nat Bool :=
  if offset < lengthForAllSkus memory pcdDatabaseInit then
    if (deltasAt memory pcdDatabaseInit offset).any (inData pcdDatabaseInit dataPtr dataSize) then
      .stop true
    else .next (nextSkuDelta memory pcdDatabaseInit offset)
  else .stop false

def isSkuPcd (fuel dataPtr dataSize : Nat) : Option Bool :=
  if lengthForAllSkus memory pcdDatabaseInit ≤ databaseLength memory pcdDatabaseInit then
    some false
  else loop (isSkuPcdTurn memory pcdDatabaseInit dataPtr dataSize) fuel
    (firstSkuDelta memory pcdDatabaseInit)

/-- The stores into DataBuffer, and Result. -/
structure CopiedSkuPcdData where
  stores : List (Nat × UInt8)
  result : Bool
  deriving DecidableEq

def copyDelta (dataPtr dataSize : Nat) (copied : CopiedSkuPcdData) (delta : PcdDataDelta) :
    CopiedSkuPcdData :=
  if inData pcdDatabaseInit dataPtr dataSize delta then
    { stores := copied.stores ++ [(pcdDatabaseInit + delta.offset - dataPtr, delta.value)]
      result := true }
  else copied

def copySkuDelta (skuId dataPtr dataSize : Nat) (copied : CopiedSkuPcdData) (offset : Nat) :
    CopiedSkuPcdData :=
  if skuIdAt memory pcdDatabaseInit offset = skuId then
    (deltasAt memory pcdDatabaseInit offset).foldl (copyDelta pcdDatabaseInit dataPtr dataSize)
      copied
  else copied

def copySkuPcdData (fuel skuId dataPtr dataSize : Nat) : Option CopiedSkuPcdData :=
  if lengthForAllSkus memory pcdDatabaseInit ≤ databaseLength memory pcdDatabaseInit then
    some ⟨[], false⟩
  else
    (whileLoop (fun offset => decide (offset < lengthForAllSkus memory pcdDatabaseInit))
      (nextSkuDelta memory pcdDatabaseInit)
      (copySkuDelta memory pcdDatabaseInit skuId dataPtr dataSize) fuel
      (firstSkuDelta memory pcdDatabaseInit) ⟨[], false⟩).map Prod.fst

/-- What DumpPcdDatabase prints of a block. -/
structure DumpedSkuDelta where
  skuId : Nat
  skuIdCompared : Nat
  length : Nat
  deltas : List PcdDataDelta

def dumpSkuDelta (dumped : List DumpedSkuDelta) (offset : Nat) : List DumpedSkuDelta :=
  dumped ++ [{ skuId := skuIdAt memory pcdDatabaseInit offset
               skuIdCompared := skuIdComparedAt memory pcdDatabaseInit offset
               length := skuDeltaLength memory pcdDatabaseInit offset
               deltas := deltasAt memory pcdDatabaseInit offset }]

/-- `PCD_DATABASE_SKU_DELTA:`, the last part of DumpPcdDatabase. -/
def dumpSkuDeltas (fuel : Nat) : Option (List DumpedSkuDelta) :=
  if lengthForAllSkus memory pcdDatabaseInit > databaseLength memory pcdDatabaseInit then
    (whileLoop (fun offset => decide (offset < lengthForAllSkus memory pcdDatabaseInit))
      (nextSkuDelta memory pcdDatabaseInit) (dumpSkuDelta memory pcdDatabaseInit) fuel
      (firstSkuDelta memory pcdDatabaseInit) []).map Prod.fst
  else some []

end Walks

/-! ## The blocks that the walks come to -/

section Blocks

variable (memory : Memory) (pcdDatabaseInit : Nat)

def paddedLength (offset : Nat) : Nat :=
  alignValue (skuDeltaLength memory pcdDatabaseInit offset) 8

/-- A block that a walk comes to when no turn before it returns. -/
def ComesTo (offset : Nat) : Prop :=
  Reached (paddedLength memory pcdDatabaseInit) (lengthForAllSkus memory pcdDatabaseInit)
    (firstSkuDelta memory pcdDatabaseInit) offset ∧
    offset < lengthForAllSkus memory pcdDatabaseInit

/-- Every block has a length. -/
def Linked : Prop :=
  ∀ offset, ComesTo memory pcdDatabaseInit offset →
    skuDeltaLength memory pcdDatabaseInit offset ≠ 0

def HasEntry (dataPtr dataSize offset : Nat) : Prop :=
  ∃ delta ∈ deltasAt memory pcdDatabaseInit offset,
    inData pcdDatabaseInit dataPtr dataSize delta = true

variable {memory} {pcdDatabaseInit}

theorem firstSkuDelta_mod : firstSkuDelta memory pcdDatabaseInit % 8 = 0 := alignValue_mod _ 8

theorem paddedLength_pos {offset : Nat} :
    0 < paddedLength memory pcdDatabaseInit offset ↔
      skuDeltaLength memory pcdDatabaseInit offset ≠ 0 := by
  have padded := @le_alignValue (skuDeltaLength memory pcdDatabaseInit offset) 8 (by decide)
  constructor
  · intro positive zero
    rw [paddedLength, zero] at positive
    exact absurd positive (by decide)
  · intro nonzero
    exact Nat.lt_of_lt_of_le (Nat.pos_of_ne_zero nonzero) padded

theorem nextSkuDelta_eq {limit start offset : Nat} (aligned : start % 8 = 0)
    (reached : Reached (paddedLength memory pcdDatabaseInit) limit start offset) :
    nextSkuDelta memory pcdDatabaseInit offset =
      offset + paddedLength memory pcdDatabaseInit offset := by
  refine alignValue_add ?_ (by decide)
  induction reached with
  | start => exact aligned
  | next _ _ ih =>
      rw [Nat.add_mod, ih, paddedLength, alignValue_mod]

/-- A database without deltas has no block to come to. -/
theorem not_comesTo
    (none : lengthForAllSkus memory pcdDatabaseInit ≤ databaseLength memory pcdDatabaseInit)
    (offset : Nat) : ¬ ComesTo memory pcdDatabaseInit offset := by
  rintro ⟨reached, inside⟩
  have first := reached.le
  have aligned := @le_alignValue (databaseLength memory pcdDatabaseInit) 8 (by decide)
  rw [firstSkuDelta] at first
  omega

theorem linked_iff_progress :
    Linked memory pcdDatabaseInit ↔
      ∀ offset, Reached (paddedLength memory pcdDatabaseInit)
          (lengthForAllSkus memory pcdDatabaseInit) (firstSkuDelta memory pcdDatabaseInit) offset →
        offset < lengthForAllSkus memory pcdDatabaseInit →
          0 < paddedLength memory pcdDatabaseInit offset := by
  simp only [Linked, ComesTo, paddedLength_pos, and_imp]

/-! ## Where the walks end -/

theorem exists_walk_iff {State : Type} (body : State → Nat → State) (state : State) :
    (∃ fuel result, (whileLoop
        (fun offset => decide (offset < lengthForAllSkus memory pcdDatabaseInit))
        (nextSkuDelta memory pcdDatabaseInit) body fuel (firstSkuDelta memory pcdDatabaseInit)
        state).map Prod.fst = some result) ↔
      Linked memory pcdDatabaseInit := by
  simp only [map_fst_whileLoop body fun _ => nextSkuDelta_eq firstSkuDelta_mod]
  rw [linked_iff_progress, ← exists_visited_iff]
  constructor
  · rintro ⟨fuel, result, run⟩
    obtain ⟨positions, walk, _⟩ := Option.map_eq_some_iff.mp run
    exact ⟨fuel, positions, walk⟩
  · rintro ⟨fuel, positions, walk⟩
    exact ⟨fuel, _, congrArg _ walk⟩

/-- The store of a delta in the range. -/
def deltaStore (pcdDatabaseInit dataPtr : Nat) (delta : PcdDataDelta) : Nat × UInt8 :=
  (pcdDatabaseInit + delta.offset - dataPtr, delta.value)

theorem foldl_copyDelta (dataPtr dataSize : Nat) (deltas : List PcdDataDelta)
    (copied : CopiedSkuPcdData) :
    deltas.foldl (copyDelta pcdDatabaseInit dataPtr dataSize) copied =
      ⟨copied.stores ++ (deltas.filter (inData pcdDatabaseInit dataPtr dataSize)).map
        (deltaStore pcdDatabaseInit dataPtr),
        copied.result || deltas.any (inData pcdDatabaseInit dataPtr dataSize)⟩ := by
  induction deltas generalizing copied with
  | nil => simp
  | cons delta rest ih =>
      rw [List.foldl_cons, ih, copyDelta]
      by_cases inside : inData pcdDatabaseInit dataPtr dataSize delta = true
      · simp [inside, deltaStore]
      · simp [inside]

/-- The deltas of the blocks for a SkuId. -/
def deltasOf (memory : Memory) (pcdDatabaseInit skuId : Nat) (positions : List Nat) :
    List PcdDataDelta :=
  (positions.filter fun offset => skuIdAt memory pcdDatabaseInit offset = skuId).flatMap
    (deltasAt memory pcdDatabaseInit)

theorem foldl_copySkuDelta (skuId dataPtr dataSize : Nat) (positions : List Nat)
    (copied : CopiedSkuPcdData) :
    positions.foldl (copySkuDelta memory pcdDatabaseInit skuId dataPtr dataSize) copied =
      (deltasOf memory pcdDatabaseInit skuId positions).foldl
        (copyDelta pcdDatabaseInit dataPtr dataSize) copied := by
  induction positions generalizing copied with
  | nil => rfl
  | cons offset rest ih =>
      rw [List.foldl_cons, ih, copySkuDelta]
      by_cases same : skuIdAt memory pcdDatabaseInit offset = skuId
      · simp [deltasOf, same]
      · simp [deltasOf, same]

theorem copySkuPcdData_eq
    (has : ¬ lengthForAllSkus memory pcdDatabaseInit ≤ databaseLength memory pcdDatabaseInit)
    (fuel skuId dataPtr dataSize : Nat) :
    copySkuPcdData memory pcdDatabaseInit fuel skuId dataPtr dataSize =
      (visited (paddedLength memory pcdDatabaseInit) (lengthForAllSkus memory pcdDatabaseInit)
        fuel (firstSkuDelta memory pcdDatabaseInit)).map fun positions =>
          let deltas := deltasOf memory pcdDatabaseInit skuId positions
          ⟨(deltas.filter (inData pcdDatabaseInit dataPtr dataSize)).map
            (deltaStore pcdDatabaseInit dataPtr),
            deltas.any (inData pcdDatabaseInit dataPtr dataSize)⟩ := by
  rw [copySkuPcdData, if_neg has,
    map_fst_whileLoop _ fun _ => nextSkuDelta_eq firstSkuDelta_mod]
  congr 1
  funext positions
  rw [foldl_copySkuDelta, foldl_copyDelta]
  rfl

theorem copySkuPcdData_ends_iff (skuId dataPtr dataSize : Nat) :
    (∃ fuel copied, copySkuPcdData memory pcdDatabaseInit fuel skuId dataPtr dataSize =
        some copied) ↔ Linked memory pcdDatabaseInit := by
  by_cases without :
      lengthForAllSkus memory pcdDatabaseInit ≤ databaseLength memory pcdDatabaseInit
  · simp only [copySkuPcdData, if_pos without, Option.some.injEq, exists_eq', exists_const,
      true_iff]
    exact fun offset comes => absurd comes (not_comesTo without offset)
  · simp only [copySkuPcdData, if_neg without]
    exact exists_walk_iff _ _

theorem dumpSkuDeltas_ends_iff :
    (∃ fuel dumped, dumpSkuDeltas memory pcdDatabaseInit fuel = some dumped) ↔
      Linked memory pcdDatabaseInit := by
  by_cases without :
      lengthForAllSkus memory pcdDatabaseInit ≤ databaseLength memory pcdDatabaseInit
  · simp only [dumpSkuDeltas, if_neg (Nat.not_lt.mpr without), Option.some.injEq, exists_eq',
      exists_const, true_iff]
    exact fun offset comes => absurd comes (not_comesTo without offset)
  · simp only [dumpSkuDeltas, if_pos (Nat.not_le.mp without)]
    exact exists_walk_iff _ _

theorem any_inData_iff {dataPtr dataSize offset : Nat} :
    (deltasAt memory pcdDatabaseInit offset).any (inData pcdDatabaseInit dataPtr dataSize) =
      true ↔ HasEntry memory pcdDatabaseInit dataPtr dataSize offset :=
  List.any_eq_true

theorem not_hasEntry_of_zero {dataPtr dataSize offset : Nat}
    (zero : skuDeltaLength memory pcdDatabaseInit offset = 0) :
    ¬ HasEntry memory pcdDatabaseInit dataPtr dataSize offset := by
  rintro ⟨delta, listed, _⟩
  rw [deltasAt, deltaCount, zero] at listed
  cases listed

/-- A block of length zero stands behind a block with an entry. -/
def EntryBeforeZero (memory : Memory) (pcdDatabaseInit dataPtr dataSize start : Nat) : Prop :=
  ∀ offset, Reached (paddedLength memory pcdDatabaseInit)
      (lengthForAllSkus memory pcdDatabaseInit) start offset →
    offset < lengthForAllSkus memory pcdDatabaseInit →
      skuDeltaLength memory pcdDatabaseInit offset = 0 →
        ∃ earlier, Reached (paddedLength memory pcdDatabaseInit)
            (lengthForAllSkus memory pcdDatabaseInit) start earlier ∧
          earlier < offset ∧ HasEntry memory pcdDatabaseInit dataPtr dataSize earlier

theorem entryBeforeZero_next {dataPtr dataSize start : Nat}
    (inside : start < lengthForAllSkus memory pcdDatabaseInit)
    (nonzero : skuDeltaLength memory pcdDatabaseInit start ≠ 0)
    (without : ¬ HasEntry memory pcdDatabaseInit dataPtr dataSize start) :
    EntryBeforeZero memory pcdDatabaseInit dataPtr dataSize start ↔
      EntryBeforeZero memory pcdDatabaseInit dataPtr dataSize
        (start + paddedLength memory pcdDatabaseInit start) := by
  constructor
  · intro before offset reached below zero
    obtain ⟨earlier, first, less, entry⟩ := before offset (reached.head inside) below zero
    rcases first.cases_head with same | ⟨_, later⟩
    · exact absurd (same ▸ entry) without
    · exact ⟨earlier, later, less, entry⟩
  · intro before offset reached below zero
    rcases reached.cases_head with same | ⟨_, later⟩
    · exact absurd (same ▸ zero) nonzero
    · obtain ⟨earlier, first, less, entry⟩ := before offset later below zero
      exact ⟨earlier, first.head inside, less, entry⟩

theorem nextSkuDelta_aligned {start : Nat} (aligned : start % 8 = 0) :
    nextSkuDelta memory pcdDatabaseInit start =
        start + paddedLength memory pcdDatabaseInit start ∧
      (start + paddedLength memory pcdDatabaseInit start) % 8 = 0 := by
  constructor
  · exact alignValue_add aligned (by decide)
  · rw [Nat.add_mod, aligned, paddedLength, alignValue_mod]

theorem isSkuPcdTurn_of_entry {dataPtr dataSize start : Nat}
    (inside : start < lengthForAllSkus memory pcdDatabaseInit)
    (entry : HasEntry memory pcdDatabaseInit dataPtr dataSize start) :
    isSkuPcdTurn memory pcdDatabaseInit dataPtr dataSize start = .stop true := by
  rw [isSkuPcdTurn, if_pos inside, if_pos (any_inData_iff.mpr entry)]

theorem isSkuPcdTurn_of_not_entry {dataPtr dataSize start : Nat} (aligned : start % 8 = 0)
    (inside : start < lengthForAllSkus memory pcdDatabaseInit)
    (entry : ¬ HasEntry memory pcdDatabaseInit dataPtr dataSize start) :
    isSkuPcdTurn memory pcdDatabaseInit dataPtr dataSize start =
      .next (start + paddedLength memory pcdDatabaseInit start) := by
  rw [isSkuPcdTurn, if_pos inside, if_neg (mt any_inData_iff.mp entry),
    (nextSkuDelta_aligned aligned).1]

theorem isSkuPcdTurn_stuck {dataPtr dataSize start : Nat}
    (inside : start < lengthForAllSkus memory pcdDatabaseInit) (aligned : start % 8 = 0)
    (zero : skuDeltaLength memory pcdDatabaseInit start = 0) (fuel : Nat) :
    loop (isSkuPcdTurn memory pcdDatabaseInit dataPtr dataSize) fuel start = none := by
  have stays : paddedLength memory pcdDatabaseInit start = 0 := by
    rw [paddedLength, zero]
    rfl
  induction fuel with
  | zero => rfl
  | succ fuel ih =>
      rw [loop, isSkuPcdTurn_of_not_entry aligned inside (not_hasEntry_of_zero zero), stays]
      exact ih

theorem entryBeforeZero_of_loop {dataPtr dataSize fuel start : Nat} {answer : Bool}
    (aligned : start % 8 = 0)
    (run : loop (isSkuPcdTurn memory pcdDatabaseInit dataPtr dataSize) fuel start =
      some answer) : EntryBeforeZero memory pcdDatabaseInit dataPtr dataSize start := by
  induction fuel generalizing start with
  | zero => cases run
  | succ fuel ih =>
      by_cases inside : start < lengthForAllSkus memory pcdDatabaseInit
      · by_cases zero : skuDeltaLength memory pcdDatabaseInit start = 0
        · rw [isSkuPcdTurn_stuck inside aligned zero] at run
          cases run
        · by_cases entry : HasEntry memory pcdDatabaseInit dataPtr dataSize start
          · intro offset reached _ none
            refine ⟨start, Reached.start, Nat.lt_of_le_of_ne reached.le ?_, entry⟩
            exact fun same => zero (same ▸ none)
          · rw [loop, isSkuPcdTurn_of_not_entry aligned inside entry] at run
            exact (entryBeforeZero_next inside zero entry).mpr
              (ih (nextSkuDelta_aligned aligned).2 run)
      · exact fun offset reached below _ =>
          absurd (Nat.lt_of_le_of_lt reached.le below) inside

/-- As many turns as LengthForAllSkus, and one, are enough. -/
theorem loop_of_entryBeforeZero {dataPtr dataSize fuel start : Nat} (aligned : start % 8 = 0)
    (before : EntryBeforeZero memory pcdDatabaseInit dataPtr dataSize start)
    (enough : lengthForAllSkus memory pcdDatabaseInit < start + fuel) (one : 0 < fuel) :
    ∃ answer, loop (isSkuPcdTurn memory pcdDatabaseInit dataPtr dataSize) fuel start =
      some answer := by
  induction fuel generalizing start with
  | zero => exact absurd one (Nat.lt_irrefl 0)
  | succ fuel ih =>
      by_cases inside : start < lengthForAllSkus memory pcdDatabaseInit
      · by_cases entry : HasEntry memory pcdDatabaseInit dataPtr dataSize start
        · exact ⟨true, by rw [loop, isSkuPcdTurn_of_entry inside entry]⟩
        · have nonzero : skuDeltaLength memory pcdDatabaseInit start ≠ 0 := by
            intro zero
            obtain ⟨earlier, reached, less, _⟩ := before start Reached.start inside zero
            exact absurd reached.le (Nat.not_le.mpr less)
          have forward := paddedLength_pos.mpr nonzero
          rw [entryBeforeZero_next inside nonzero entry] at before
          rw [loop, isSkuPcdTurn_of_not_entry aligned inside entry]
          exact ih (nextSkuDelta_aligned aligned).2 before (by omega) (by omega)
      · exact ⟨false, by rw [loop, isSkuPcdTurn, if_neg inside]⟩

/-- IsSkuPcd returns at the first block with an entry. -/
theorem loop_isSkuPcdTurn_iff (dataPtr dataSize : Nat) {start : Nat} (aligned : start % 8 = 0) :
    (∃ fuel answer,
        loop (isSkuPcdTurn memory pcdDatabaseInit dataPtr dataSize) fuel start = some answer) ↔
      EntryBeforeZero memory pcdDatabaseInit dataPtr dataSize start := by
  constructor
  · rintro ⟨fuel, answer, run⟩
    exact entryBeforeZero_of_loop aligned run
  · intro before
    exact ⟨lengthForAllSkus memory pcdDatabaseInit + 1,
      loop_of_entryBeforeZero aligned before (by omega) (Nat.succ_pos _)⟩

theorem isSkuPcd_ends_iff (dataPtr dataSize : Nat) :
    (∃ fuel answer, isSkuPcd memory pcdDatabaseInit fuel dataPtr dataSize = some answer) ↔
      EntryBeforeZero memory pcdDatabaseInit dataPtr dataSize
        (firstSkuDelta memory pcdDatabaseInit) := by
  by_cases without :
      lengthForAllSkus memory pcdDatabaseInit ≤ databaseLength memory pcdDatabaseInit
  · simp only [isSkuPcd, if_pos without, Option.some.injEq, exists_eq', exists_const, true_iff]
    exact fun offset reached below => absurd ⟨reached, below⟩ (not_comesTo without offset)
  · simp only [isSkuPcd, if_neg without]
    exact loop_isSkuPcdTurn_iff dataPtr dataSize firstSkuDelta_mod

end Blocks

/-- Each walk ends exactly when no block that it comes to has the length zero. -/
theorem skuDeltaWalks_end_iff (memory : Memory)
    (pcdDatabaseInit skuId dataPtr dataSize : Nat) :
    ((∃ fuel copied, copySkuPcdData memory pcdDatabaseInit fuel skuId dataPtr dataSize =
        some copied) ↔ Linked memory pcdDatabaseInit) ∧
      ((∃ fuel dumped, dumpSkuDeltas memory pcdDatabaseInit fuel = some dumped) ↔
        Linked memory pcdDatabaseInit) ∧
      ((∃ fuel answer, isSkuPcd memory pcdDatabaseInit fuel dataPtr dataSize = some answer) ↔
        EntryBeforeZero memory pcdDatabaseInit dataPtr dataSize
          (firstSkuDelta memory pcdDatabaseInit)) :=
  ⟨copySkuPcdData_ends_iff skuId dataPtr dataSize, dumpSkuDeltas_ends_iff,
    isSkuPcd_ends_iff dataPtr dataSize⟩

/-- A database of 80 bytes, and a block of length zero behind it. -/
def zeroLengthBlock : Memory := Memory.ofBytesAt 0x1000
  (List.replicate 20 0 ++ toBytes 4 80 ++ List.replicate 8 0 ++ toBytes 4 104 ++
    List.replicate 68 0)

theorem skuDeltaWalks_zeroLength :
    (∀ fuel, copySkuPcdData zeroLengthBlock 0x1000 fuel 0 0x1000 80 = none) ∧
      (∀ fuel, dumpSkuDeltas zeroLengthBlock 0x1000 fuel = none) ∧
      ∀ fuel, isSkuPcd zeroLengthBlock 0x1000 fuel 0x1000 80 = none := by
  have length : databaseLength zeroLengthBlock 0x1000 = 80 := by decide
  have all : lengthForAllSkus zeroLengthBlock 0x1000 = 104 := by decide
  have zero : skuDeltaLength zeroLengthBlock 0x1000 80 = 0 := by decide
  have first : firstSkuDelta zeroLengthBlock 0x1000 = 80 := by
    rw [firstSkuDelta, length]
    rfl
  have stays : nextSkuDelta zeroLengthBlock 0x1000 80 = 80 := by
    rw [nextSkuDelta, zero]
    rfl
  refine ⟨fun fuel => ?_, fun fuel => ?_, fun fuel => ?_⟩
  · rw [copySkuPcdData, all, length, if_neg (by decide), first,
      whileLoop_stuck _ _ _ 80 fuel _ (by decide) stays]
    rfl
  · rw [dumpSkuDeltas, all, length, if_pos (by decide), first,
      whileLoop_stuck _ _ _ 80 fuel _ (by decide) stays]
    rfl
  · rw [isSkuPcd, all, length, if_neg (by decide), first]
    exact isSkuPcdTurn_stuck (by rw [all]; decide) rfl zero fuel

end AppEfi.PcdDump
