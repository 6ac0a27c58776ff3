import AppEfi.Lib.Stores
import AppEfi.PcdDump.DumpNvStore
import AppEfi.PcdDump.SkuDelta

/-!
# A predicate and an action for each pair of walks

HasSkuData and DumpAllSkuData of PcdDump.c walk the records of deltas of an NV-store
default buffer, as IsSkuPcd and CopySkuPcdData walk the SKU deltas of a database: one of
each pair asks whether a delta lies in a range, the other uses these deltas.
-/

set_option autoImplicit false

namespace AppEfi.PcdDump

open AppEfi.BoundedWalk
open AppEfi.LittleEndian
open AppEfi.Loop
open AppEfi.RecordWalk
open AppEfi.Stores

section Functions

variable (guids : VariableGuids) (memory : Memory) (nvStoreDefaultBuffer : Nat)

/-- The turns of `DeltaData` below PcdDefaultData + DataSize. -/
def recordDeltasAt (offset : Nat) : List PcdDataDelta :=
  let deltaData := alignValue (offset + 4 + headerSizeAt memory nvStoreDefaultBuffer offset) 4
  let finish := offset + dataSizeAt memory nvStoreDefaultBuffer offset
  readEntries (fun address => pcdDataDelta (memory.readLe address 4)) 4
    (nvStoreDefaultBuffer + deltaData) ((finish - deltaData + 3) / 4)

def hasSkuDataTurn (variableStoreHeader dataPtr dataSize : Nat) (result : Bool) (offset : Nat) :
    Bool :=
  (recordDeltasAt memory nvStoreDefaultBuffer offset).foldl
    (fun result delta =>
      if inData variableStoreHeader dataPtr dataSize delta then true else result) result

/-- A turn moves forward, so that Length is fuel enough. -/
def hasSkuData (dataPtr dataSize : Nat) : Option Bool :=
  (getSkuDataFromNvStore guids memory nvStoreDefaultBuffer).bind fun
    | none => some false
    | some pcdDefaultData =>
        let variableStoreHeader :=
          (getVariableStoreHeaderFromNvStore memory nvStoreDefaultBuffer).getD 0
        let length := bufferLength memory nvStoreDefaultBuffer
        (whileLoop (fun offset => decide (offset < length))
          (nextRecord memory nvStoreDefaultBuffer)
          (hasSkuDataTurn memory nvStoreDefaultBuffer variableStoreHeader dataPtr dataSize) length
          (pcdDefaultData - nvStoreDefaultBuffer) false).map Prod.fst

/-- `DefaultInfo->SkuId` and `DefaultInfo->DefaultId`. -/
def defaultInfoAt (defaultInfo : Nat) : Nat × Nat :=
  (memory.readLe defaultInfo 8, memory.readLe (defaultInfo + 8) 2)

/-- A line of DumpAllSkuData, with the record that its turn is about. -/
structure PrintedSkuData where
  record : Nat
  data : List UInt8
  defaultInfo : Nat × Nat
  deriving DecidableEq

/-- TempData and Result behind the loop over the deltas. -/
def overriddenData (variableStoreHeader dataPtr dataSize offset : Nat) : List UInt8 × Bool :=
  let copied := (recordDeltasAt memory nvStoreDefaultBuffer offset).foldl
    (copyDelta variableStoreHeader dataPtr dataSize) ⟨[], false⟩
  let tempData := applyStores (fun index => memory (dataPtr + index)) copied.stores
  ((List.range dataSize).map tempData, copied.result)

variable (allocateCopyPool : Nat → Bool)

/-- `allocateCopyPool` tells whether TempData can be allocated in the turn of a record. -/
def dumpAllSkuDataTurn (variableStoreHeader dataPtr dataSize : Nat)
    (state : Nat × List PrintedSkuData) :
    Control (Nat × List PrintedSkuData) (List PrintedSkuData) :=
  let (offset, printed) := state
  if offset < bufferLength memory nvStoreDefaultBuffer then
    if allocateCopyPool offset then
      let (data, result) := overriddenData memory nvStoreDefaultBuffer variableStoreHeader dataPtr
        dataSize offset
      let lines := if result then
          [⟨offset, data, defaultInfoAt memory (nvStoreDefaultBuffer + offset + 8)⟩]
        else []
      .next (nextRecord memory nvStoreDefaultBuffer offset, printed ++ lines)
    else .stop printed
  else .stop printed

def dumpAllSkuData (dataPtr dataSize : Nat) : Option (List PrintedSkuData) :=
  (getSkuDataFromNvStore guids memory nvStoreDefaultBuffer).bind fun
    | none => some []
    | some pcdDefaultData =>
        let variableStoreHeader :=
          (getVariableStoreHeaderFromNvStore memory nvStoreDefaultBuffer).getD 0
        loop (dumpAllSkuDataTurn memory nvStoreDefaultBuffer allocateCopyPool variableStoreHeader
            dataPtr dataSize)
          (bufferLength memory nvStoreDefaultBuffer + 1)
          (pcdDefaultData - nvStoreDefaultBuffer, [])

end Functions

/-! ## The records that the walks come to -/

section Records

variable {guids : VariableGuids} {memory : Memory} {buffer : Nat}

theorem nextRecord_gt (offset : Nat) : offset < nextRecord memory buffer offset := by
  have deltaData := @le_alignValue (offset + 4 + headerSizeAt memory buffer offset) 4 (by decide)
  refine Nat.lt_of_lt_of_le ?_ (le_alignValue (by decide))
  omega

variable (memory buffer)

/-- The size of a turn. -/
def recordStep (offset : Nat) : Nat := nextRecord memory buffer offset - offset

variable {memory buffer}

theorem nextRecord_eq (offset : Nat) :
    nextRecord memory buffer offset = offset + recordStep memory buffer offset := by
  have forward := @nextRecord_gt memory buffer offset
  rw [recordStep]
  omega

theorem exists_records (start : Nat) :
    ∃ positions, visited (recordStep memory buffer) (bufferLength memory buffer)
      (bufferLength memory buffer) start = some positions := by
  refine visited_of_progress (fun offset _ _ => ?_) (Nat.le_add_left _ _)
  have forward := @nextRecord_gt memory buffer offset
  rw [recordStep]
  omega

theorem nextVariable_gt (format : VariableFormat) (offset : Nat) :
    offset < nextVariable memory buffer format offset := by
  have header := format.headerSize_le
  refine Nat.lt_of_lt_of_le ?_ (le_alignValue (by decide))
  omega

theorem forEachVariable_returns {State : Type} (body : State → Nat → State)
    (variableStoreHeader offset : Nat) (state : State) :
    ∃ result, forEachVariable guids memory buffer body variableStoreHeader offset state =
      some result := by
  rw [forEachVariable]
  cases variableFormat guids memory variableStoreHeader with
  | none => exact ⟨_, rfl⟩
  | some format =>
      exact whileLoop_terminates _ (nextVariable memory buffer format) body _ offset _ state
        (fun current running => ⟨nextVariable_gt format current, of_decide_eq_true running⟩)
        (Nat.sub_le (dataSizeAt memory buffer sizeofBufferHeader) offset)

/-- The search for the end of the variables ends on any bytes. -/
theorem getSkuDataFromNvStore_returns :
    ∃ found, getSkuDataFromNvStore guids memory buffer = some found := by
  rw [getSkuDataFromNvStore]
  cases getVariableStoreHeaderFromNvStore memory buffer with
  | none => exact ⟨none, rfl⟩
  | some variableStoreHeader =>
      obtain ⟨result, run⟩ := @forEachVariable_returns guids memory buffer Unit (fun _ _ => ())
        variableStoreHeader
        (alignValue (variableStoreHeader - buffer + sizeofVariableStoreHeader) 4) ()
      exact ⟨_, congrArg (Option.map _) run⟩

/-! ## What the loops find -/

theorem hasSkuDataTurn_eq (variableStoreHeader dataPtr dataSize : Nat) (result : Bool)
    (offset : Nat) :
    hasSkuDataTurn memory buffer variableStoreHeader dataPtr dataSize result offset =
      (result || (recordDeltasAt memory buffer offset).any
        (inData variableStoreHeader dataPtr dataSize)) := by
  rw [hasSkuDataTurn]
  induction recordDeltasAt memory buffer offset generalizing result with
  | nil => simp
  | cons delta rest ih =>
      rw [List.foldl_cons, ih, List.any_cons]
      by_cases inside : inData variableStoreHeader dataPtr dataSize delta = true
      · simp [inside]
      · simp [inside]

theorem foldl_hasSkuDataTurn (variableStoreHeader dataPtr dataSize : Nat) (positions : List Nat)
    (result : Bool) :
    positions.foldl (hasSkuDataTurn memory buffer variableStoreHeader dataPtr dataSize) result =
      (result || positions.any fun offset => (recordDeltasAt memory buffer offset).any
        (inData variableStoreHeader dataPtr dataSize)) := by
  induction positions generalizing result with
  | nil => simp
  | cons offset rest ih => rw [List.foldl_cons, ih, hasSkuDataTurn_eq, List.any_cons, Bool.or_assoc]

theorem whileLoop_hasSkuDataTurn (variableStoreHeader dataPtr dataSize : Nat) {fuel start : Nat}
    {positions : List Nat}
    (walk : visited (recordStep memory buffer) (bufferLength memory buffer) fuel start =
      some positions) :
    (whileLoop (fun offset => decide (offset < bufferLength memory buffer))
        (nextRecord memory buffer)
        (hasSkuDataTurn memory buffer variableStoreHeader dataPtr dataSize) fuel start
        false).map Prod.fst =
      some (positions.any fun offset => (recordDeltasAt memory buffer offset).any
        (inData variableStoreHeader dataPtr dataSize)) := by
  have follows : ∀ offset, Reached (recordStep memory buffer) (bufferLength memory buffer) start
      offset → nextRecord memory buffer offset = offset + recordStep memory buffer offset :=
    fun offset _ => nextRecord_eq offset
  rw [map_fst_whileLoop _ follows, walk, Option.map_some, foldl_hasSkuDataTurn, Bool.false_or]

theorem overriddenData_result (variableStoreHeader dataPtr dataSize offset : Nat) :
    (overriddenData memory buffer variableStoreHeader dataPtr dataSize offset).2 =
      (recordDeltasAt memory buffer offset).any (inData variableStoreHeader dataPtr dataSize) := by
  rw [overriddenData, foldl_copyDelta, Bool.false_or]

/-- The lines of a record's turn. -/
def skuDataLines (memory : Memory) (buffer variableStoreHeader dataPtr dataSize offset : Nat) :
    List PrintedSkuData :=
  let (data, result) := overriddenData memory buffer variableStoreHeader dataPtr dataSize offset
  if result then [⟨offset, data, defaultInfoAt memory (buffer + offset + 8)⟩] else []

theorem loop_dumpAllSkuDataTurn {allocateCopyPool : Nat → Bool}
    (allocated : ∀ offset, allocateCopyPool offset = true)
    (variableStoreHeader dataPtr dataSize : Nat) {fuel start : Nat} {positions : List Nat}
    (walk : visited (recordStep memory buffer) (bufferLength memory buffer) fuel start =
      some positions) (printed : List PrintedSkuData) :
    loop (dumpAllSkuDataTurn memory buffer allocateCopyPool variableStoreHeader dataPtr dataSize)
        (fuel + 1) (start, printed) =
      some (printed ++ positions.flatMap
        (skuDataLines memory buffer variableStoreHeader dataPtr dataSize)) := by
  refine visited_induction (motive := fun fuel start positions => ∀ printed,
    loop (dumpAllSkuDataTurn memory buffer allocateCopyPool variableStoreHeader dataPtr dataSize)
        (fuel + 1) (start, printed) =
      some (printed ++ positions.flatMap
        (skuDataLines memory buffer variableStoreHeader dataPtr dataSize))) ?_ ?_ walk printed
  · intro fuel start outside printed
    rw [loop, dumpAllSkuDataTurn, if_neg (Nat.not_lt.mpr outside), List.flatMap_nil,
      List.append_nil]
  · intro fuel start rest inside ih printed
    rw [loop, dumpAllSkuDataTurn, if_pos inside, if_pos (allocated start), nextRecord_eq,
      List.flatMap_cons, ← List.append_assoc]
    exact ih _

theorem mem_skuDataLines {variableStoreHeader dataPtr dataSize offset : Nat}
    {line : PrintedSkuData} :
    line ∈ skuDataLines memory buffer variableStoreHeader dataPtr dataSize offset ↔
      (recordDeltasAt memory buffer offset).any (inData variableStoreHeader dataPtr dataSize) =
          true ∧
        line = ⟨offset, (overriddenData memory buffer variableStoreHeader dataPtr dataSize
          offset).1, defaultInfoAt memory (buffer + offset + 8)⟩ := by
  rw [← overriddenData_result]
  unfold skuDataLines
  cases overriddenData memory buffer variableStoreHeader dataPtr dataSize offset with
  | mk data result =>
      cases result with
      | false => simp
      | true => simp

/-- HasSkuData asks whether DumpAllSkuData prints a line. -/
theorem hasSkuData_iff_printed {allocateCopyPool : Nat → Bool}
    (allocated : ∀ offset, allocateCopyPool offset = true) (dataPtr dataSize : Nat) :
    ∃ answer printed, hasSkuData guids memory buffer dataPtr dataSize = some answer ∧
      dumpAllSkuData guids memory buffer allocateCopyPool dataPtr dataSize = some printed ∧
      (answer = true ↔ printed ≠ []) := by
  obtain ⟨found, search⟩ := @getSkuDataFromNvStore_returns guids memory buffer
  simp only [hasSkuData, dumpAllSkuData, search, Option.bind_some]
  cases found with
  | none => exact ⟨false, [], rfl, rfl, by simp⟩
  | some pcdDefaultData =>
      obtain ⟨positions, walk⟩ :=
        @exists_records memory buffer (pcdDefaultData - buffer)
      refine ⟨positions.any fun offset => (recordDeltasAt memory buffer offset).any
        (inData ((getVariableStoreHeaderFromNvStore memory buffer).getD 0) dataPtr dataSize), _,
        whileLoop_hasSkuDataTurn _ dataPtr dataSize walk,
        loop_dumpAllSkuDataTurn allocated _ dataPtr dataSize walk [], ?_⟩
      rw [List.nil_append, List.any_eq_true]
      constructor
      · rintro ⟨offset, listed, inside⟩
        exact List.ne_nil_of_mem (List.mem_flatMap.mpr
          ⟨offset, listed, mem_skuDataLines.mpr ⟨inside, rfl⟩⟩)
      · intro printed
        obtain ⟨line, member⟩ := List.exists_mem_of_ne_nil _ printed
        obtain ⟨offset, listed, own⟩ := List.mem_flatMap.mp member
        exact ⟨offset, listed, (mem_skuDataLines.mp own).1⟩

end Records

/-! ## The walks over a database -/

section Database

variable {memory : Memory} {pcdDatabaseInit : Nat}

theorem loop_isSkuPcdTurn (dataPtr dataSize : Nat) {fuel start : Nat} {positions : List Nat}
    (aligned : start % 8 = 0)
    (walk : visited (paddedLength memory pcdDatabaseInit)
      (lengthForAllSkus memory pcdDatabaseInit) fuel start = some positions) :
    loop (isSkuPcdTurn memory pcdDatabaseInit dataPtr dataSize) (fuel + 1) start =
      some (positions.any fun offset => (deltasAt memory pcdDatabaseInit offset).any
        (inData pcdDatabaseInit dataPtr dataSize)) := by
  refine visited_induction (motive := fun fuel start positions => start % 8 = 0 →
    loop (isSkuPcdTurn memory pcdDatabaseInit dataPtr dataSize) (fuel + 1) start =
      some (positions.any fun offset => (deltasAt memory pcdDatabaseInit offset).any
        (inData pcdDatabaseInit dataPtr dataSize))) ?_ ?_ walk aligned
  · intro fuel start outside _
    rw [loop, isSkuPcdTurn, if_neg (Nat.not_lt.mpr outside), List.any_nil]
  · intro fuel start rest inside ih aligned
    obtain ⟨next, alignedNext⟩ := @nextSkuDelta_aligned memory pcdDatabaseInit start aligned
    rw [loop, isSkuPcdTurn, if_pos inside, next, List.any_cons]
    by_cases entry : (deltasAt memory pcdDatabaseInit start).any
        (inData pcdDatabaseInit dataPtr dataSize) = true
    · rw [if_pos entry, entry, Bool.true_or]
    · rw [if_neg entry, Bool.eq_false_of_not_eq_true entry, Bool.false_or]
      exact ih alignedNext

theorem mem_deltasOf {skuId : Nat} {positions : List Nat} {delta : PcdDataDelta} :
    delta ∈ deltasOf memory pcdDatabaseInit skuId positions ↔
      ∃ offset ∈ positions, skuIdAt memory pcdDatabaseInit offset = skuId ∧
        delta ∈ deltasAt memory pcdDatabaseInit offset := by
  simp [deltasOf, and_assoc]

/-- IsSkuPcd asks whether CopySkuPcdData makes a store for a SkuId of the area. -/
theorem isSkuPcd_iff_copied (linked : Linked memory pcdDatabaseInit)
    (dataPtr dataSize more : Nat) :
    ∃ answer, isSkuPcd memory pcdDatabaseInit
        (lengthForAllSkus memory pcdDatabaseInit + more + 1) dataPtr dataSize = some answer ∧
      (answer = true ↔ ∃ offset copied, ComesTo memory pcdDatabaseInit offset ∧
        copySkuPcdData memory pcdDatabaseInit (lengthForAllSkus memory pcdDatabaseInit + more)
            (skuIdAt memory pcdDatabaseInit offset) dataPtr dataSize = some copied ∧
          copied.result = true) := by
  by_cases without :
      lengthForAllSkus memory pcdDatabaseInit ≤ databaseLength memory pcdDatabaseInit
  · refine ⟨false, by rw [isSkuPcd, if_pos without], ?_⟩
    simp only [Bool.false_eq_true, false_iff]
    rintro ⟨offset, copied, comes, _⟩
    exact not_comesTo without offset comes
  · obtain ⟨positions, walk⟩ := visited_of_progress (linked_iff_progress.mp linked)
      (Nat.le_trans (Nat.le_add_right _ more) (Nat.le_add_left _ _))
    refine ⟨positions.any fun offset => (deltasAt memory pcdDatabaseInit offset).any
      (inData pcdDatabaseInit dataPtr dataSize), ?_, ?_⟩
    · rw [isSkuPcd, if_neg without]
      exact loop_isSkuPcdTurn dataPtr dataSize firstSkuDelta_mod walk
    · simp only [copySkuPcdData_eq without, walk, Option.map_some, Option.some.injEq,
        List.any_eq_true]
      constructor
      · rintro ⟨offset, listed, delta, member, inside⟩
        exact ⟨offset, _, (mem_visited walk).mp listed, rfl,
          List.any_eq_true.mpr ⟨delta, mem_deltasOf.mpr ⟨offset, listed, rfl, member⟩, inside⟩⟩
      · rintro ⟨offset, copied, comes, rfl, result⟩
        obtain ⟨delta, member, inside⟩ := List.any_eq_true.mp result
        obtain ⟨other, listed, _, there⟩ := mem_deltasOf.mp member
        exact ⟨other, listed, delta, there, inside⟩

end Database

/-- Both predicates, for a database whose blocks have lengths and for any buffer when
AllocateCopyPool succeeds. -/
theorem predicates_iff_actions {memory : Memory} {pcdDatabaseInit : Nat}
    {allocateCopyPool : Nat → Bool} (linked : Linked memory pcdDatabaseInit)
    (allocated : ∀ offset, allocateCopyPool offset = true) (guids : VariableGuids)
    (buffer dataPtr dataSize more : Nat) :
    (∃ answer, isSkuPcd memory pcdDatabaseInit
        (lengthForAllSkus memory pcdDatabaseInit + more + 1) dataPtr dataSize = some answer ∧
      (answer = true ↔ ∃ offset copied, ComesTo memory pcdDatabaseInit offset ∧
        copySkuPcdData memory pcdDatabaseInit (lengthForAllSkus memory pcdDatabaseInit + more)
            (skuIdAt memory pcdDatabaseInit offset) dataPtr dataSize = some copied ∧
          copied.result = true)) ∧
      ∃ answer printed, hasSkuData guids memory buffer dataPtr dataSize = some answer ∧
        dumpAllSkuData guids memory buffer allocateCopyPool dataPtr dataSize = some printed ∧
        (answer = true ↔ printed ≠ []) :=
  ⟨isSkuPcd_iff_copied linked dataPtr dataSize more,
    hasSkuData_iff_printed allocated dataPtr dataSize⟩

/-! ## A database and a buffer -/

/-- A block with a delta at 0x48, and what stands behind it. -/
def oneBlock (lengthForAllSkus : Nat) : Memory := Memory.ofBytesAt 0x1000
  (List.replicate 20 0 ++ toBytes 4 80 ++ List.replicate 8 0 ++ toBytes 4 lengthForAllSkus ++
    List.replicate 44 0 ++ toBytes 8 1 ++ toBytes 8 0 ++ toBytes 4 24 ++ toBytes 4 0x05000048 ++
    List.replicate 24 0)

/-- A variable at 0x40 of its store, and a record that overrides its first byte for two SKUs. -/
def twoSkus : NvStore where
  length := 160
  maxLength := 0x1000
  reserved := 0
  dataSize := 91
  infos := [⟨List.replicate 16 0, SmmCore.length_zeroGuid⟩]
  format := .normal
  storeFields := List.replicate 12 0
  entries := [{ fixedFields := List.replicate 8 0xAA
                vendorGuid := ⟨List.replicate 16 1, SmmCore.length_onesGuid⟩
                name := [0x41, 0, 0, 0]
                data := [1, 2, 3]
                padding := [0xFF]
                fixedFields_length := variableA_fixedFields
                name_length := variableA_name
                data_length := variableA_data
                padded := variableA_padded }]
  padding := [0, 0, 0, 0]
  records := [{ infos := [⟨toBytes 8 1 ++ List.replicate 8 0, rfl⟩,
                  ⟨toBytes 8 2 ++ List.replicate 8 0, rfl⟩]
                deltas := [0x05000040]
                dataSize := 44
                padding := [0, 0, 0, 0]
                infos_length := by decide
                padded := by decide
                dataSize_above := by decide
                dataSize_below := by decide }]
  infos_length := oneInfo_length
  storeFields_length := zeroFields_length

def twoSkusMemory : Memory := Memory.ofBytesAt 0x1000 (twoSkus.encode variableGuids)

theorem twoSkus_overridden :
    hasSkuData variableGuids twoSkusMemory 0x1000 0x1068 3 = some true := by decide

/-- The database with one block, and the buffer behind it. -/
def blockAndBuffer : Memory := (oneBlock 104).write 0x2000 (twoSkus.encode variableGuids)

theorem blockAndBuffer_linked : Linked blockAndBuffer 0x1000 :=
  linked_iff_progress.mpr ((exists_visited_iff _).mp ⟨1, [80], by decide⟩)

/-- A SKU has the PCD at 0x1048, and the record of the buffer prints the variable's data. -/
theorem predicates_iff_actions_oneBlock :
    (∃ offset copied, ComesTo blockAndBuffer 0x1000 offset ∧
        copySkuPcdData blockAndBuffer 0x1000 (lengthForAllSkus blockAndBuffer 0x1000)
            (skuIdAt blockAndBuffer 0x1000 offset) 0x1048 4 = some copied ∧
          copied.result = true) ∧
      ∃ printed, dumpAllSkuData variableGuids blockAndBuffer 0x2000 (fun _ => true) 0x2068 3 =
        some printed ∧ printed ≠ [] := by
  have yes : isSkuPcd blockAndBuffer 0x1000
      (lengthForAllSkus blockAndBuffer 0x1000 + 0 + 1) 0x1048 4 = some true := by decide
  have overridden : hasSkuData variableGuids blockAndBuffer 0x2000 0x2068 3 = some true := by
    decide
  obtain ⟨⟨answer, returns, copies⟩, _⟩ :=
    predicates_iff_actions blockAndBuffer_linked (fun _ => rfl) variableGuids 0x2000 0x1048 4 0
  obtain ⟨_, asked, printed, has, dumps, prints⟩ :=
    predicates_iff_actions blockAndBuffer_linked (fun _ => rfl) variableGuids 0x2000 0x2068 3 0
  rw [yes, Option.some.injEq] at returns
  rw [overridden, Option.some.injEq] at has
  exact ⟨copies.mp returns.symm, printed, dumps, prints.mp has.symm⟩

/-- A block of length zero behind the one with the delta, and no memory for TempData. -/
theorem predicates_without_actions :
    (isSkuPcd (oneBlock 128) 0x1000 1 0x1048 4 = some true ∧
        ∀ fuel skuId, copySkuPcdData (oneBlock 128) 0x1000 fuel skuId 0x1048 4 = none) ∧
      hasSkuData variableGuids twoSkusMemory 0x1000 0x1068 3 = some true ∧
      dumpAllSkuData variableGuids twoSkusMemory 0x1000 (fun _ => false) 0x1068 3 = some [] := by
  refine ⟨⟨by decide, fun fuel skuId => ?_⟩, twoSkus_overridden, by decide⟩
  have length : databaseLength (oneBlock 128) 0x1000 = 80 := by decide
  have all : lengthForAllSkus (oneBlock 128) 0x1000 = 128 := by decide
  have first : firstSkuDelta (oneBlock 128) 0x1000 = 80 := by decide
  have next : nextSkuDelta (oneBlock 128) 0x1000 80 = 104 := by decide
  have stays : nextSkuDelta (oneBlock 128) 0x1000 104 = 104 := by decide
  rw [copySkuPcdData, all, length, if_neg (by decide), first]
  cases fuel with
  | zero => rfl
  | succ fuel =>
      rw [whileLoop, if_pos (by decide), next, whileLoop_stuck _ _ _ 104 fuel _ (by decide) stays]
      rfl

end AppEfi.PcdDump
