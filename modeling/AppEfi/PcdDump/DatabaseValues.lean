import AppEfi.PcdDump.DumpPcdDatabase
import Mathlib.Data.List.Range

/-!
# What the dump of a PCD database ends with

The values that the functions of the dump read, as functions of the memory, and which of
their loops end: a text needs a zero, a walk over the SKU deltas needs lengths.
-/

set_option autoImplicit false

namespace AppEfi.PcdDump

open AppEfi.BoundedWalk
open AppEfi.Loop
open AppEfi.Reading
open AppEfi.RecordWalk

/-! ## Sizes and addresses -/

section Values

variable (settings : DumpSettings) (memory : Memory) (pcdDatabaseInit : Nat)

def localTokenAt (index : Nat) : Nat :=
  memory.readLe (pcdDatabaseInit + localTokenNumberTableOffset memory pcdDatabaseInit + 4 * index)
    4

def isPointerAt (index : Nat) : Bool :=
  decide (datumType (localTokenAt memory pcdDatabaseInit index) = .pointer)

/-- Two entries of the size table for each pointer before the token. -/
def sizeTableIndex (index : Nat) : Nat :=
  2 * (List.range index).countP (isPointerAt memory pcdDatabaseInit)

def sizeInfoAt (index : Nat) : Nat :=
  memory.readLe (pcdDatabaseInit + sizeTableOffset memory pcdDatabaseInit + 2 * index) 2

def ptrTypeSizeAt (index : Nat) : PtrTypeSize :=
  let maxSize := sizeInfoAt memory pcdDatabaseInit (sizeTableIndex memory pcdDatabaseInit index)
  if isVpd (localTokenAt memory pcdDatabaseInit index) then ⟨maxSize, maxSize⟩
  else ⟨sizeInfoAt memory pcdDatabaseInit (sizeTableIndex memory pcdDatabaseInit index + 1),
    maxSize⟩

def dataSizeOf (index localTokenNumber : Nat) : Nat :=
  match datumType localTokenNumber with
  | .pointer => (ptrTypeSizeAt memory pcdDatabaseInit index).size
  | .uint width => width
  | .unknown => 0

def rawDataOf (index localTokenNumber data : Nat) : DumpedData :=
  if isUninitialized memory pcdDatabaseInit data then ⟨0, 0⟩
  else ⟨data, dataSizeOf memory pcdDatabaseInit index localTokenNumber⟩

/-- The offset in a token. -/
def tokenOffset (localTokenNumber : Nat) : Nat :=
  localTokenNumber &&& settings.pcdDatabaseOffsetMask

/-- The address in the string table of the index at an offset. -/
def stringAt (offset : Nat) : Nat :=
  pcdDatabaseInit + stringTableOffset memory pcdDatabaseInit +
    memory.readLe (pcdDatabaseInit + offset) 4

def defaultValueOffsetAt (offset : Nat) : Nat := memory.readLe (pcdDatabaseInit + offset + 4) 4

def guidTableIndexAt (offset : Nat) : Nat := memory.readLe (pcdDatabaseInit + offset + 8) 2

def dataAddress (localTokenNumber : Nat) : Nat :=
  let offset := tokenOffset settings localTokenNumber
  match pcdType localTokenNumber with
  | .data => pcdDatabaseInit + offset
  | .string => stringAt memory pcdDatabaseInit offset
  | .hii => pcdDatabaseInit + defaultValueOffsetAt memory pcdDatabaseInit offset
  | .hiiString =>
      stringAt memory pcdDatabaseInit (defaultValueOffsetAt memory pcdDatabaseInit offset)
  | .vpd =>
      (settings.pcdVpdBaseAddress + memory.readLe (pcdDatabaseInit + offset) 4) % 2 ^ 32
  | .unknown => 0

def dumpedDataOf (index localTokenNumber : Nat) : DumpedData :=
  let data := dataAddress settings memory pcdDatabaseInit localTokenNumber
  if data ≠ 0 then rawDataOf memory pcdDatabaseInit index localTokenNumber data else ⟨0, 0⟩

/-- DataPtr and DataSize of the token with this index. -/
def dumpedDataAt (index : Nat) : DumpedData :=
  dumpedDataOf settings memory pcdDatabaseInit index (localTokenAt memory pcdDatabaseInit index)

/-- The name of a variable has an end. -/
def VariableNameEnds (localTokenNumber : Nat) : Prop :=
  pcdType localTokenNumber = .hii ∨ pcdType localTokenNumber = .hiiString →
    TextEnds memory 2 (stringAt memory pcdDatabaseInit (tokenOffset settings localTokenNumber))

end Values

section Ends

variable {settings : DumpSettings} {memory : Memory} {pcdDatabaseInit : Nat}

@[simp] theorem ends_readLocalToken {index value : Nat} :
    Ends (readLocalToken memory pcdDatabaseInit index) value ↔
      value = localTokenAt memory pcdDatabaseInit index := ends_read

theorem ends_getSizeTableIndex {count index sizeTableIdx value : Nat} :
    Ends (getSizeTableIndex memory pcdDatabaseInit count index sizeTableIdx) value ↔
      value = sizeTableIdx +
        2 * (List.range' index count).countP (isPointerAt memory pcdDatabaseInit) := by
  induction count generalizing index sizeTableIdx with
  | zero => simp [getSizeTableIndex]
  | succ count ih =>
      rw [getSizeTableIndex, ends_bind]
      simp only [ends_readLocalToken, exists_eq_left, ih, List.range'_succ, List.countP_cons,
        isPointerAt, decide_eq_true_eq]
      by_cases pointer : datumType (localTokenAt memory pcdDatabaseInit index) = .pointer
      · simp only [pointer, if_true]
        omega
      · simp only [pointer, if_false]
        omega

@[simp] theorem ends_getSizeTableIndex_zero {index value : Nat} :
    Ends (getSizeTableIndex memory pcdDatabaseInit index 0 0) value ↔
      value = sizeTableIndex memory pcdDatabaseInit index := by
  rw [ends_getSizeTableIndex, sizeTableIndex, List.range_eq_range', Nat.zero_add]

@[simp] theorem ends_getPtrTypeSize {index : Nat} {value : PtrTypeSize} :
    Ends (getPtrTypeSize memory pcdDatabaseInit index) value ↔
      value = ptrTypeSizeAt memory pcdDatabaseInit index := by
  rw [getPtrTypeSize, ptrTypeSizeAt]
  by_cases vpd : isVpd (localTokenAt memory pcdDatabaseInit index) = true
  · simp [vpd, sizeInfoAt]
  · simp [vpd, sizeInfoAt]

@[simp] theorem ends_dumpPcdRawData {index localTokenNumber data : Nat} {value : DumpedData} :
    Ends (dumpPcdRawData memory pcdDatabaseInit index localTokenNumber data) value ↔
      value = rawDataOf memory pcdDatabaseInit index localTokenNumber data := by
  rw [dumpPcdRawData, rawDataOf, dataSizeOf]
  by_cases uninitialized : isUninitialized memory pcdDatabaseInit data = true
  · cases datumType localTokenNumber <;> simp [uninitialized]
  · cases datumType localTokenNumber <;> simp [uninitialized]

@[simp] theorem ends_dumpVariableHead {offset value : Nat} :
    Ends (dumpVariableHead memory pcdDatabaseInit (pcdDatabaseInit + offset)) value ↔
      TextEnds memory 2 (stringAt memory pcdDatabaseInit offset) ∧
        value = defaultValueOffsetAt memory pcdDatabaseInit offset := by
  simp [dumpVariableHead, stringAt, defaultValueOffsetAt]

@[simp] theorem ends_readStringHead {offset value : Nat} :
    Ends (readStringHead memory pcdDatabaseInit (pcdDatabaseInit + offset)) value ↔
      value = stringAt memory pcdDatabaseInit offset := by
  simp [readStringHead, stringAt]

@[simp] theorem ends_locateData {localTokenNumber value : Nat} :
    Ends (locateData settings memory pcdDatabaseInit localTokenNumber) value ↔
      VariableNameEnds settings memory pcdDatabaseInit localTokenNumber ∧
        value = dataAddress settings memory pcdDatabaseInit localTokenNumber := by
  rw [locateData, VariableNameEnds, dataAddress]
  cases pcdType localTokenNumber <;> simp [tokenOffset]

@[simp] theorem ends_dumpPcdData {index localTokenNumber : Nat} {value : DumpedData} :
    Ends (dumpPcdData settings memory pcdDatabaseInit index localTokenNumber) value ↔
      VariableNameEnds settings memory pcdDatabaseInit localTokenNumber ∧
        value = dumpedDataOf settings memory pcdDatabaseInit index localTokenNumber := by
  rw [dumpPcdData, dumpedDataOf]
  by_cases null : dataAddress settings memory pcdDatabaseInit localTokenNumber = 0
  · simp [null, and_assoc]
  · simp [null, and_assoc]

end Ends

/-! ## The walks over the SKU deltas -/

section Walks

variable {memory : Memory} {pcdDatabaseInit : Nat}

theorem ends_readDeltas {returns : PcdDataDelta → Bool} {count deltaData : Nat} {value : Bool} :
    Ends (readDeltas memory returns count deltaData) value ↔
      value = (readEntries (fun address => pcdDataDelta (memory.readLe address 4)) 4 deltaData
        count).any returns := by
  induction count generalizing deltaData with
  | zero => simp [readDeltas, readEntries]
  | succ count ih =>
      rw [readDeltas, ends_bind, readEntries_succ]
      simp only [ends_read, exists_eq_left, ends_ite, ih, ends_pure, List.any_cons]
      cases returns (pcdDataDelta (memory.readLe deltaData 4)) <;> simp

@[simp] theorem ends_readBlock {returns : PcdDataDelta → Bool} {offset : Nat} {value : Bool} :
    Ends (readBlock memory pcdDatabaseInit returns offset) value ↔
      value = (deltasAt memory pcdDatabaseInit offset).any returns := by
  simp [readBlock, ends_readDeltas, deltasAt]

theorem isSkuPcdTurn_follows (dataPtr dataSize offset : Nat) :
    Ends (isSkuPcdTurnReads memory pcdDatabaseInit dataPtr dataSize offset)
      (isSkuPcdTurn memory pcdDatabaseInit dataPtr dataSize offset) := by
  rw [isSkuPcdTurnReads, isSkuPcdTurn]
  by_cases inside : offset < lengthForAllSkus memory pcdDatabaseInit
  · simp [inside]
  · simp [inside]

/-- The program that reads refines the walk. -/
@[simp] theorem ends_isSkuPcdReads {dataPtr dataSize : Nat} {answer : Bool} :
    Ends (isSkuPcdReads memory pcdDatabaseInit dataPtr dataSize) answer ↔
      ∃ fuel, isSkuPcd memory pcdDatabaseInit fuel dataPtr dataSize = some answer := by
  by_cases without :
      lengthForAllSkus memory pcdDatabaseInit ≤ databaseLength memory pcdDatabaseInit
  · simp [isSkuPcdReads, isSkuPcd, without, eq_comm]
  · simp only [isSkuPcdReads, isSkuPcd, if_neg without]
    exact ends_repeatTurns (isSkuPcdTurn_follows dataPtr dataSize)

variable (memory pcdDatabaseInit) in
def walkTurn (offset : Nat) : Control Nat Unit :=
  if offset < lengthForAllSkus memory pcdDatabaseInit then
    .next (nextSkuDelta memory pcdDatabaseInit offset)
  else .stop ()

theorem walkTurn_follows {block : Nat → Reading Unit} (ends : ∀ offset, Ends (block offset) ())
    (offset : Nat) :
    Ends (if offset < lengthForAllSkus memory pcdDatabaseInit then do
        block offset
        pure (.next (nextSkuDelta memory pcdDatabaseInit offset))
      else pure (.stop ())) (walkTurn memory pcdDatabaseInit offset) := by
  have here := ends offset
  rw [walkTurn]
  by_cases inside : offset < lengthForAllSkus memory pcdDatabaseInit
  · simpa [inside] using ⟨(), here⟩
  · simp [inside]

theorem loop_walkTurn (fuel offset : Nat) :
    loop (walkTurn memory pcdDatabaseInit) (fuel + 1) offset =
      (whileLoop (fun offset => decide (offset < lengthForAllSkus memory pcdDatabaseInit))
        (nextSkuDelta memory pcdDatabaseInit) (fun done _ => done) fuel offset ()).map
        Prod.fst := by
  induction fuel generalizing offset with
  | zero =>
      rw [loop, walkTurn, whileLoop]
      by_cases inside : offset < lengthForAllSkus memory pcdDatabaseInit
      · simp [inside, loop]
      · simp [inside]
  | succ fuel ih =>
      rw [loop, walkTurn, whileLoop]
      by_cases inside : offset < lengthForAllSkus memory pcdDatabaseInit
      · simp [inside, ih]
      · simp [inside]

theorem exists_loop_walkTurn_iff :
    (∃ fuel, loop (walkTurn memory pcdDatabaseInit) fuel (firstSkuDelta memory pcdDatabaseInit) =
        some ()) ↔ Linked memory pcdDatabaseInit := by
  rw [← exists_walk_iff (fun done _ => done) ()]
  constructor
  · rintro ⟨fuel, run⟩
    cases fuel with
    | zero => cases run
    | succ fuel => exact ⟨fuel, (), loop_walkTurn fuel _ ▸ run⟩
  · rintro ⟨fuel, _, run⟩
    exact ⟨fuel + 1, loop_walkTurn fuel _ ▸ run⟩

theorem ends_walkSkuDeltas {block : Nat → Reading Unit} (ends : ∀ offset, Ends (block offset) ())
    {done : Unit} :
    Ends (walkSkuDeltas memory pcdDatabaseInit block) done ↔ Linked memory pcdDatabaseInit := by
  by_cases without :
      lengthForAllSkus memory pcdDatabaseInit ≤ databaseLength memory pcdDatabaseInit
  · rw [walkSkuDeltas, if_pos without, ends_pure]
    exact iff_of_true rfl fun offset comes => absurd comes (not_comesTo without offset)
  · rw [walkSkuDeltas, if_neg without, ends_repeatTurns (walkTurn_follows ends)]
    exact exists_loop_walkTurn_iff

theorem ends_copySkuDeltaReads (skuId offset : Nat) :
    Ends (copySkuDeltaReads memory pcdDatabaseInit skuId offset) () := by
  simp [copySkuDeltaReads]

theorem ends_dumpSkuDeltaReads (offset : Nat) :
    Ends (dumpSkuDeltaReads memory pcdDatabaseInit offset) () := by
  simp [dumpSkuDeltaReads]

@[simp] theorem ends_copySkuPcdDataReads {skuId : Nat} {done : Unit} :
    Ends (copySkuPcdDataReads memory pcdDatabaseInit skuId) done ↔
      Linked memory pcdDatabaseInit := ends_walkSkuDeltas (ends_copySkuDeltaReads skuId)

end Walks

/-! ## Tokens -/

section Tokens

variable (settings : DumpSettings) (memory : Memory) (pcdDatabaseInit : Nat)

def skuIdTableEntry (index : Nat) : Nat :=
  memory.readLe (pcdDatabaseInit + skuIdTableOffset memory pcdDatabaseInit + 8 * index) 8

/-- `ExMapTable[Index].ExGuidIndex`. -/
def exGuidIndexAt (index : Nat) : Nat :=
  memory.readLe (pcdDatabaseInit + exMapTableOffset memory pcdDatabaseInit + 8 * index + 6) 2

/-- DumpSkuPcdData calls CopySkuPcdData for a place in SkuIdTable. -/
def CopiesSku (localTokenNumberTableIdx localTokenNumber index : Nat) : Prop :=
  match datumType localTokenNumber with
  | .pointer => settings.allocateCopyPool localTokenNumberTableIdx index = true
  | .uint _ => True
  | .unknown => False

def NamesEnd (index : Nat) : Prop :=
  let pcdName := pcdNameTableOffset memory pcdDatabaseInit + 8 * index
  pcdNameTableOffset memory pcdDatabaseInit ≠ 0 →
    TextEnds memory 1 (stringAt memory pcdDatabaseInit pcdName) ∧
      TextEnds memory 1 (stringAt memory pcdDatabaseInit (pcdName + 4))

/-- IsSkuPcd returns TRUE for a token. -/
def IsSku (index : Nat) : Prop :=
  let data := dumpedDataAt settings memory pcdDatabaseInit index
  ∃ fuel, isSkuPcd memory pcdDatabaseInit fuel data.dataPtr data.dataSize = some true

/-- The turn of a token ends: its texts have an end, and so have the walks over the SKU
deltas that it makes. -/
structure TokenEnds (index : Nat) : Prop where
  names : NamesEnd memory pcdDatabaseInit index
  variableName : VariableNameEnds settings memory pcdDatabaseInit
    (localTokenAt memory pcdDatabaseInit index)
  isSkuPcd : EntryBeforeZero memory pcdDatabaseInit
    (dumpedDataAt settings memory pcdDatabaseInit index).dataPtr
    (dumpedDataAt settings memory pcdDatabaseInit index).dataSize
    (firstSkuDelta memory pcdDatabaseInit)
  copies : IsSku settings memory pcdDatabaseInit index →
    ∀ place < skuIdTableEntry memory pcdDatabaseInit 0,
      CopiesSku settings index (localTokenAt memory pcdDatabaseInit index) (1 + place) →
        Linked memory pcdDatabaseInit

variable {settings memory pcdDatabaseInit}

@[simp] theorem ends_readSkuId {index value : Nat} :
    Ends (readSkuId memory pcdDatabaseInit index) value ↔
      value = skuIdTableEntry memory pcdDatabaseInit index := ends_read

@[simp] theorem ends_dumpSkuPcdData {index skuId localTokenNumberTableIdx localTokenNumber : Nat}
    {data : DumpedData} {done : Unit} :
    Ends (dumpSkuPcdData settings memory pcdDatabaseInit index skuId localTokenNumberTableIdx
        localTokenNumber data) done ↔
      (CopiesSku settings localTokenNumberTableIdx localTokenNumber index →
        Linked memory pcdDatabaseInit) := by
  rw [dumpSkuPcdData, CopiesSku]
  cases datumType localTokenNumber <;> simp

@[simp] theorem ends_dumpAllSkuPcdData {localTokenNumberTableIdx localTokenNumber : Nat}
    {data : DumpedData} {done : Unit} :
    Ends (dumpAllSkuPcdData settings memory pcdDatabaseInit localTokenNumberTableIdx
        localTokenNumber data) done ↔
      ∀ place < skuIdTableEntry memory pcdDatabaseInit 0,
        CopiesSku settings localTokenNumberTableIdx localTokenNumber (1 + place) →
          Linked memory pcdDatabaseInit := by
  simp [dumpAllSkuPcdData]

@[simp] theorem ends_dumpPcdNames {index : Nat} {done : Unit} :
    Ends (dumpPcdNames memory pcdDatabaseInit index) done ↔
      NamesEnd memory pcdDatabaseInit index := by
  rw [dumpPcdNames, NamesEnd]
  by_cases absent : pcdNameTableOffset memory pcdDatabaseInit = 0
  · simp [absent]
  · simp [absent, dumpName]

theorem ends_dumpLocalToken {index : Nat} {done : Unit} :
    Ends (dumpLocalToken settings memory pcdDatabaseInit index) done ↔
      TokenEnds settings memory pcdDatabaseInit index := by
  simp only [dumpLocalToken, ends_bind, ends_readLocalToken, exists_eq_left, ends_dumpPcdNames,
    ends_dumpPcdData, ends_ite, ends_pure, ends_dumpAllSkuPcdData]
  constructor
  · rintro ⟨_, names, _, ⟨variableName, rfl⟩, answer, walk, copies⟩
    obtain ⟨fuel, run⟩ := ends_isSkuPcdReads.mp walk
    refine ⟨names, variableName, (isSkuPcd_ends_iff _ _).mp ⟨fuel, answer, run⟩, ?_⟩
    intro isSku
    rwa [walk.unique (ends_isSkuPcdReads.mpr isSku), if_pos rfl] at copies
  · rintro ⟨names, variableName, walk, copies⟩
    obtain ⟨fuel, answer, run⟩ := (isSkuPcd_ends_iff _ _).mpr walk
    refine ⟨(), names, _, ⟨variableName, rfl⟩, answer, ends_isSkuPcdReads.mpr ⟨fuel, run⟩, ?_⟩
    split
    · rename_i found
      exact copies ⟨fuel, found ▸ run⟩
    · trivial

@[simp] theorem ends_dumpExToken {index : Nat} {done : Unit} :
    Ends (dumpExToken memory pcdDatabaseInit index) done := by
  simp [dumpExToken]

end Tokens

end AppEfi.PcdDump
