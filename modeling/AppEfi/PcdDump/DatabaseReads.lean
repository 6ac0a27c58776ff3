import AppEfi.PcdDump.DatabaseValues

/-!
# Where a PCD database dump reads

Nothing checks the offsets and counts of a database against the size of its file.  The dump
stays inside the file exactly when what it comes to lies there: the header and the tables,
the texts up to their zero, the data of each token and the blocks of the SKU deltas.
-/

set_option autoImplicit false

namespace AppEfi.PcdDump

open AppEfi.BoundedWalk
open AppEfi.LittleEndian
open AppEfi.Loop
open AppEfi.Reading
open AppEfi.RecordWalk

section Inside

variable (settings : DumpSettings) (memory : Memory) (pcdDatabaseInit size : Nat)

/-- The entries of the size table for a token. -/
def PtrTypeSizeInside (index : Nat) : Prop :=
  sizeTableOffset memory pcdDatabaseInit + 2 * sizeTableIndex memory pcdDatabaseInit index +
    (if isVpd (localTokenAt memory pcdDatabaseInit index) then 2 else 4) ≤ size

/-- The data of a token at an address, with the sizes of a pointer. -/
def DataInside (index localTokenNumber data : Nat) : Prop :=
  match datumType localTokenNumber with
  | .pointer =>
      PtrTypeSizeInside memory pcdDatabaseInit size index ∧
        (isUninitialized memory pcdDatabaseInit data = false →
          ∀ offset < (ptrTypeSizeAt memory pcdDatabaseInit index).size,
            Range.Inside ⟨data + offset, 1⟩ ⟨pcdDatabaseInit, size⟩)
  | .uint width =>
      isUninitialized memory pcdDatabaseInit data = false →
        Range.Inside ⟨data, width⟩ ⟨pcdDatabaseInit, size⟩
  | .unknown => True

/-- A VARIABLE_HEAD with its name and its GUID. -/
structure VariableInside (offset : Nat) : Prop where
  head : offset + 18 ≤ size
  name : TextInside memory ⟨pcdDatabaseInit, size⟩ 2 (stringAt memory pcdDatabaseInit offset)
  guid : guidTableOffset memory pcdDatabaseInit +
    16 * guidTableIndexAt memory pcdDatabaseInit offset + 16 ≤ size

/-- What is read of the head of a value for the address of its data. -/
def ValueInside (localTokenNumber : Nat) : Prop :=
  let offset := tokenOffset settings localTokenNumber
  match pcdType localTokenNumber with
  | .data => True
  | .string => offset + 4 ≤ size
  | .hii => VariableInside memory pcdDatabaseInit size offset
  | .hiiString =>
      VariableInside memory pcdDatabaseInit size offset ∧
        defaultValueOffsetAt memory pcdDatabaseInit offset + 4 ≤ size
  | .vpd => offset + 4 ≤ size
  | .unknown => True

def NamesInside (index : Nat) : Prop :=
  let pcdName := pcdNameTableOffset memory pcdDatabaseInit + 8 * index
  pcdNameTableOffset memory pcdDatabaseInit ≠ 0 →
    pcdName + 8 ≤ size ∧
      TextInside memory ⟨pcdDatabaseInit, size⟩ 1 (stringAt memory pcdDatabaseInit pcdName) ∧
      TextInside memory ⟨pcdDatabaseInit, size⟩ 1
        (stringAt memory pcdDatabaseInit (pcdName + 4))

/-- The deltas of a block up to the first at which the function returns. -/
def DeltasInside (returns : PcdDataDelta → Bool) (offset : Nat) : Prop :=
  ∀ index < deltaCount memory pcdDatabaseInit offset,
    (∀ earlier < index, returns (pcdDataDelta (memory.readLe
      (pcdDatabaseInit + offset + sizeofSkuDelta + earlier * 4) 4)) = false) →
      offset + sizeofSkuDelta + index * 4 + 4 ≤ size

structure BlockInside (returns : PcdDataDelta → Bool) (offset : Nat) : Prop where
  head : offset + sizeofSkuDelta ≤ size
  deltas : DeltasInside memory pcdDatabaseInit size returns offset

/-- The blocks that IsSkuPcd comes to before it returns. -/
def IsSkuPcdInside (data : DumpedData) : Prop :=
  ∀ offset, Comes (isSkuPcdTurn memory pcdDatabaseInit data.dataPtr data.dataSize)
      (firstSkuDelta memory pcdDatabaseInit) offset →
    offset < lengthForAllSkus memory pcdDatabaseInit →
      BlockInside memory pcdDatabaseInit size
        (inData pcdDatabaseInit data.dataPtr data.dataSize) offset

/-- CopySkuPcdData reads the deltas of the blocks for its SkuId. -/
def CopyInside (skuId : Nat) : Prop :=
  ∀ offset, ComesTo memory pcdDatabaseInit offset →
    offset + sizeofSkuDelta ≤ size ∧
      (skuIdAt memory pcdDatabaseInit offset = skuId →
        DeltasInside memory pcdDatabaseInit size (fun _ => false) offset)

/-- The calls of CopySkuPcdData for a token; one that does not end is the last. -/
def CopiesInside (index localTokenNumber : Nat) : Prop :=
  ∀ place < skuIdTableEntry memory pcdDatabaseInit 0,
    (∀ earlier < place, CopiesSku settings index localTokenNumber (1 + earlier) →
      Linked memory pcdDatabaseInit) →
      CopiesSku settings index localTokenNumber (1 + place) →
        CopyInside memory pcdDatabaseInit size
          (skuIdTableEntry memory pcdDatabaseInit (1 + place))

structure TokenInside (index : Nat) : Prop where
  entry : localTokenNumberTableOffset memory pcdDatabaseInit + 4 * index + 4 ≤ size
  names : NamesInside memory pcdDatabaseInit size index
  value : ValueInside settings memory pcdDatabaseInit size
    (localTokenAt memory pcdDatabaseInit index)
  data : dataAddress settings memory pcdDatabaseInit (localTokenAt memory pcdDatabaseInit index)
      ≠ 0 →
    DataInside memory pcdDatabaseInit size index (localTokenAt memory pcdDatabaseInit index)
      (dataAddress settings memory pcdDatabaseInit (localTokenAt memory pcdDatabaseInit index))
  isSkuPcd : IsSkuPcdInside memory pcdDatabaseInit size
    (dumpedDataAt settings memory pcdDatabaseInit index)
  copies : IsSku settings memory pcdDatabaseInit index →
    CopiesInside settings memory pcdDatabaseInit size index
      (localTokenAt memory pcdDatabaseInit index)

structure ExTokenInside (index : Nat) : Prop where
  entry : exMapTableOffset memory pcdDatabaseInit + 8 * index + 8 ≤ size
  guid : guidTableOffset memory pcdDatabaseInit + 16 * exGuidIndexAt memory pcdDatabaseInit index +
    16 ≤ size

def TokensEnd : Prop :=
  ∀ index < localTokenCount memory pcdDatabaseInit,
    TokenEnds settings memory pcdDatabaseInit index

/-- What follows the signature. -/
structure ContentsInside : Prop where
  header : 74 ≤ size
  skuIds : skuIdTableOffset memory pcdDatabaseInit +
    8 * (skuIdTableEntry memory pcdDatabaseInit 0 + 1) ≤ size
  tokens : ∀ index < localTokenCount memory pcdDatabaseInit,
    (∀ earlier < index, TokenEnds settings memory pcdDatabaseInit earlier) →
      TokenInside settings memory pcdDatabaseInit size index
  exTokens : TokensEnd settings memory pcdDatabaseInit →
    ∀ index < exTokenCount memory pcdDatabaseInit, ExTokenInside memory pcdDatabaseInit size index
  deltas : TokensEnd settings memory pcdDatabaseInit →
    ∀ offset, ComesTo memory pcdDatabaseInit offset →
      BlockInside memory pcdDatabaseInit size (fun _ => false) offset

structure DatabaseInside : Prop where
  signature : 16 ≤ size
  contents : memory.readLe pcdDatabaseInit 16 = settings.gPcdDataBaseSignatureGuid →
    ContentsInside settings memory pcdDatabaseInit size

end Inside

/-! ## The data of a token -/

section Data

variable {settings : DumpSettings} {memory : Memory} {pcdDatabaseInit size : Nat}

@[simp] theorem readsInside_readLocalToken {index : Nat} :
    ReadsInside ⟨pcdDatabaseInit, size⟩ (readLocalToken memory pcdDatabaseInit index) ↔
      localTokenNumberTableOffset memory pcdDatabaseInit + 4 * index + 4 ≤ size := by
  rw [ReadsInside, readLocalToken, allReads_read, Range.inside_entry]

/-- GetSizeTableIndex reads the tokens that it counts, and nothing else. -/
theorem allReads_getSizeTableIndex {Good : Range → Prop} {count index sizeTableIdx : Nat}
    (entries : ∀ offset < count, Good
      ⟨pcdDatabaseInit + localTokenNumberTableOffset memory pcdDatabaseInit +
        4 * (index + offset), 4⟩) :
    AllReads Good (getSizeTableIndex memory pcdDatabaseInit count index sizeTableIdx) := by
  induction count generalizing index sizeTableIdx with
  | zero => exact allReads_pure _
  | succ count ih =>
      rw [getSizeTableIndex, allReads_bind]
      refine ⟨allReads_read.mpr (entries 0 (Nat.succ_pos _)), fun value _ => ?_⟩
      refine ih fun offset inside => ?_
      have entry := entries (offset + 1) (Nat.succ_lt_succ inside)
      rwa [← Nat.add_assoc, Nat.add_right_comm index] at entry

theorem readsInside_getPtrTypeSize {index : Nat}
    (entry : localTokenNumberTableOffset memory pcdDatabaseInit + 4 * index + 4 ≤ size) :
    ReadsInside ⟨pcdDatabaseInit, size⟩ (getPtrTypeSize memory pcdDatabaseInit index) ↔
      PtrTypeSizeInside memory pcdDatabaseInit size index := by
  have tokens : ReadsInside ⟨pcdDatabaseInit, size⟩
      (getSizeTableIndex memory pcdDatabaseInit index 0 0) :=
    allReads_getSizeTableIndex fun offset inside => Range.inside_entry.mpr (by omega)
  rw [getPtrTypeSize, PtrTypeSizeInside]
  cases vpd : isVpd (localTokenAt memory pcdDatabaseInit index) with
  | true => simp [tokens, entry, vpd, Range.inside_entry]
  | false =>
      simp [tokens, entry, vpd, Range.inside_entry]
      omega

theorem readsInside_dumpPcdRawData {index localTokenNumber data : Nat}
    (entry : localTokenNumberTableOffset memory pcdDatabaseInit + 4 * index + 4 ≤ size) :
    ReadsInside ⟨pcdDatabaseInit, size⟩
        (dumpPcdRawData memory pcdDatabaseInit index localTokenNumber data) ↔
      DataInside memory pcdDatabaseInit size index localTokenNumber data := by
  rw [dumpPcdRawData, DataInside]
  have sizes := readsInside_getPtrTypeSize entry
  cases datumType localTokenNumber with
  | pointer =>
      cases isUninitialized memory pcdDatabaseInit data with
      | true => simp [sizes]
      | false => simp [sizes]
  | uint width =>
      cases isUninitialized memory pcdDatabaseInit data with
      | true => simp
      | false => simp
  | unknown => simp

theorem readsInside_stringText {width offset : Nat} (positive : 0 < width) :
    ReadsInside ⟨pcdDatabaseInit, size⟩
        (readText memory width (stringAt memory pcdDatabaseInit offset)) ↔
      TextInside memory ⟨pcdDatabaseInit, size⟩ width (stringAt memory pcdDatabaseInit offset) := by
  refine readsInside_readText positive ?_
  rw [stringAt, Nat.add_assoc]
  exact Nat.le_add_right _ _

theorem readsInside_dumpVariableHead {offset : Nat} :
    ReadsInside ⟨pcdDatabaseInit, size⟩
        (dumpVariableHead memory pcdDatabaseInit (pcdDatabaseInit + offset)) ↔
      VariableInside memory pcdDatabaseInit size offset := by
  have name := @readsInside_stringText memory pcdDatabaseInit size 2 offset (by decide)
  rw [stringAt] at name
  simp only [dumpVariableHead, ReadsInside, allReads_bind, allReads_read, allReads_look, ends_read,
    ends_look, ends_readText, forall_eq, Range.inside_offset, Range.inside_entry]
  constructor
  · rintro ⟨_, _, text, rest⟩
    have inside := name.mp text
    obtain ⟨guid, behind⟩ := rest () inside.ends
    obtain ⟨_, property⟩ := behind () trivial
    exact ⟨(property () trivial).1, inside, guid⟩
  · rintro ⟨head, inside, guid⟩
    refine ⟨by omega, by omega, name.mpr inside, fun _ _ => ⟨guid, fun _ _ => ?_⟩⟩
    exact ⟨by omega, fun _ _ => ⟨head, fun _ _ => by omega⟩⟩

theorem readsInside_readStringHead {offset : Nat} :
    ReadsInside ⟨pcdDatabaseInit, size⟩
        (readStringHead memory pcdDatabaseInit (pcdDatabaseInit + offset)) ↔
      offset + 4 ≤ size := by
  simp [readStringHead, Range.inside_offset]

theorem readsInside_locateData {localTokenNumber : Nat} :
    ReadsInside ⟨pcdDatabaseInit, size⟩
        (locateData settings memory pcdDatabaseInit localTokenNumber) ↔
      ValueInside settings memory pcdDatabaseInit size localTokenNumber := by
  have head := @readsInside_dumpVariableHead memory pcdDatabaseInit size
    (tokenOffset settings localTokenNumber)
  rw [tokenOffset] at head
  rw [locateData, ValueInside, tokenOffset]
  cases pcdType localTokenNumber with
  | data => simp
  | string => exact readsInside_readStringHead
  | hii => simp [head]
  | hiiString =>
      simp only [ReadsInside, allReads_bind, ends_dumpVariableHead, head]
      refine and_congr_right fun variableHead => ?_
      constructor
      · intro all
        exact readsInside_readStringHead.mp (all _ ⟨variableHead.name.ends, rfl⟩)
      · rintro inside value ⟨_, rfl⟩
        exact readsInside_readStringHead.mpr inside
  | vpd => simp [Range.inside_offset]
  | unknown => simp

theorem ValueInside.variableNameEnds {localTokenNumber : Nat}
    (inside : ValueInside settings memory pcdDatabaseInit size localTokenNumber) :
    VariableNameEnds settings memory pcdDatabaseInit localTokenNumber := by
  rintro (hii | hiiString)
  · rw [ValueInside, hii] at inside
    exact inside.name.ends
  · rw [ValueInside, hiiString] at inside
    exact inside.1.name.ends

theorem readsInside_dumpPcdData {index localTokenNumber : Nat}
    (entry : localTokenNumberTableOffset memory pcdDatabaseInit + 4 * index + 4 ≤ size) :
    ReadsInside ⟨pcdDatabaseInit, size⟩
        (dumpPcdData settings memory pcdDatabaseInit index localTokenNumber) ↔
      ValueInside settings memory pcdDatabaseInit size localTokenNumber ∧
        (dataAddress settings memory pcdDatabaseInit localTokenNumber ≠ 0 →
          DataInside memory pcdDatabaseInit size index localTokenNumber
            (dataAddress settings memory pcdDatabaseInit localTokenNumber)) := by
  simp only [dumpPcdData, ReadsInside, allReads_bind, ends_locateData, readsInside_locateData]
  refine and_congr_right fun value => ?_
  have raw := @readsInside_dumpPcdRawData memory pcdDatabaseInit size index localTokenNumber
    (dataAddress settings memory pcdDatabaseInit localTokenNumber) entry
  constructor
  · intro all present
    have here := all _ ⟨value.variableNameEnds, rfl⟩
    rw [if_pos present] at here
    exact raw.mp here
  · rintro inside _ ⟨_, rfl⟩
    by_cases present : dataAddress settings memory pcdDatabaseInit localTokenNumber ≠ 0
    · rw [if_pos present]
      exact raw.mpr (inside present)
    · rw [if_neg present]
      exact allReads_pure _

end Data

/-! ## The blocks of the SKU deltas -/

section Blocks

variable {memory : Memory} {pcdDatabaseInit size : Nat}

theorem readsInside_readDeltas {outer : Range} {returns : PcdDataDelta → Bool}
    {count deltaData : Nat} :
    ReadsInside outer (readDeltas memory returns count deltaData) ↔
      ∀ index < count,
        (∀ earlier < index,
          returns (pcdDataDelta (memory.readLe (deltaData + earlier * 4) 4)) = false) →
          Range.Inside ⟨deltaData + index * 4, 4⟩ outer := by
  induction count generalizing deltaData with
  | zero => simp [readDeltas]
  | succ count ih =>
      have next : ∀ index, deltaData + 4 + index * 4 = deltaData + (index + 1) * 4 :=
        fun index => by omega
      simp only [readDeltas, ReadsInside, allReads_bind, allReads_read, ends_read, forall_eq,
        allReads_ite, allReads_pure, ih, next, Nat.forall_lt_succ_left, Nat.zero_mul, Nat.add_zero]
      cases returns (pcdDataDelta (memory.readLe deltaData 4)) <;> simp

theorem readsInside_readBlock {returns : PcdDataDelta → Bool} {offset : Nat} :
    ReadsInside ⟨pcdDatabaseInit, size⟩ (readBlock memory pcdDatabaseInit returns offset) ↔
      BlockInside memory pcdDatabaseInit size returns offset := by
  have deltas : ReadsInside ⟨pcdDatabaseInit, size⟩
      (readDeltas memory returns (deltaCount memory pcdDatabaseInit offset)
        (pcdDatabaseInit + offset + sizeofSkuDelta)) ↔
      DeltasInside memory pcdDatabaseInit size returns offset := by
    simp only [readsInside_readDeltas, DeltasInside, Nat.add_assoc, Range.inside_offset]
  simp only [readBlock, ReadsInside, allReads_bind, allReads_look, ends_look, forall_const, deltas,
    Range.inside_entry]
  constructor
  · rintro ⟨head, inside⟩
    exact ⟨head, inside⟩
  · rintro ⟨head, inside⟩
    exact ⟨head, inside⟩

theorem readsInside_isSkuPcdReads {data : DumpedData} :
    ReadsInside ⟨pcdDatabaseInit, size⟩
        (isSkuPcdReads memory pcdDatabaseInit data.dataPtr data.dataSize) ↔
      IsSkuPcdInside memory pcdDatabaseInit size data := by
  by_cases without :
      lengthForAllSkus memory pcdDatabaseInit ≤ databaseLength memory pcdDatabaseInit
  · rw [isSkuPcdReads, if_pos without]
    refine iff_of_true (allReads_pure _) fun offset comes inside => ?_
    have outside :
        ¬ firstSkuDelta memory pcdDatabaseInit < lengthForAllSkus memory pcdDatabaseInit :=
      fun below => not_comesTo without _ ⟨Reached.start, below⟩
    have stops : isSkuPcdTurn memory pcdDatabaseInit data.dataPtr data.dataSize
        (firstSkuDelta memory pcdDatabaseInit) = .stop false := if_neg outside
    exact absurd (comes.eq_of_stop stops ▸ inside) outside
  · rw [isSkuPcdReads, if_neg without, ReadsInside,
      allReads_repeatTurns (isSkuPcdTurn_follows data.dataPtr data.dataSize)]
    refine forall₂_congr fun offset _ => ?_
    rw [isSkuPcdTurnReads, allReads_ite]
    by_cases inside : offset < lengthForAllSkus memory pcdDatabaseInit
    · simp [inside, readsInside_readBlock]
    · simp [inside]

theorem comes_walkTurn_iff {offset : Nat} :
    Comes (walkTurn memory pcdDatabaseInit) (firstSkuDelta memory pcdDatabaseInit) offset ↔
      Reached (paddedLength memory pcdDatabaseInit) (lengthForAllSkus memory pcdDatabaseInit)
        (firstSkuDelta memory pcdDatabaseInit) offset := by
  constructor
  · intro comes
    induction comes with
    | start => exact Reached.start
    | next _ turn ih =>
        rw [walkTurn] at turn
        split at turn
        · rename_i inside
          rw [← Control.next.inj turn, nextSkuDelta_eq firstSkuDelta_mod ih]
          exact ih.next inside
        · cases turn
  · intro reached
    induction reached with
    | start => exact Comes.start
    | next reached inside ih =>
        refine ih.next ?_
        rw [walkTurn, if_pos inside, nextSkuDelta_eq firstSkuDelta_mod reached]

theorem allReads_walkSkuDeltas {Good : Range → Prop} {block : Nat → Reading Unit}
    (ends : ∀ offset, Ends (block offset) ()) :
    AllReads Good (walkSkuDeltas memory pcdDatabaseInit block) ↔
      ∀ offset, ComesTo memory pcdDatabaseInit offset → AllReads Good (block offset) := by
  by_cases without :
      lengthForAllSkus memory pcdDatabaseInit ≤ databaseLength memory pcdDatabaseInit
  · rw [walkSkuDeltas, if_pos without]
    exact iff_of_true (allReads_pure _) fun offset comes =>
      absurd comes (not_comesTo without offset)
  · rw [walkSkuDeltas, if_neg without, allReads_repeatTurns (walkTurn_follows ends)]
    simp only [comes_walkTurn_iff, ComesTo, and_imp]
    refine forall₂_congr fun offset _ => ?_
    by_cases inside : offset < lengthForAllSkus memory pcdDatabaseInit
    · simp [inside]
    · simp [inside]

@[simp] theorem readsInside_copySkuPcdDataReads {skuId : Nat} :
    ReadsInside ⟨pcdDatabaseInit, size⟩ (copySkuPcdDataReads memory pcdDatabaseInit skuId) ↔
      CopyInside memory pcdDatabaseInit size skuId := by
  rw [copySkuPcdDataReads, ReadsInside, allReads_walkSkuDeltas (ends_copySkuDeltaReads skuId),
    CopyInside]
  refine forall₂_congr fun offset _ => ?_
  rw [copySkuDeltaReads, skuIdAt]
  have fixed : sizeofSkuDelta = 20 := rfl
  simp only [allReads_bind, allReads_read, ends_read, forall_eq, allReads_ite, allReads_look,
    allReads_pure, readsInside_readBlock, Range.inside_offset, Range.inside_entry]
  by_cases own : memory.readLe (pcdDatabaseInit + offset) 8 = skuId
  · simp only [own, if_true, true_imp_iff]
    constructor
    · rintro ⟨_, ⟨head, deltas⟩, _⟩
      exact ⟨head, deltas⟩
    · rintro ⟨head, deltas⟩
      exact ⟨by omega, ⟨head, deltas⟩, fun _ _ => trivial⟩
  · simp only [own, if_false, false_imp_iff, and_true]
    omega

theorem readsInside_dumpSkuDeltaReads {offset : Nat} :
    ReadsInside ⟨pcdDatabaseInit, size⟩ (dumpSkuDeltaReads memory pcdDatabaseInit offset) ↔
      BlockInside memory pcdDatabaseInit size (fun _ => false) offset := by
  have fixed : sizeofSkuDelta = 20 := rfl
  simp only [dumpSkuDeltaReads, ReadsInside, allReads_bind, allReads_look, ends_look, forall_const,
    readsInside_readBlock, allReads_pure, Range.inside_offset, Range.inside_entry]
  constructor
  · rintro ⟨_, _, inside, _⟩
    exact inside
  · intro inside
    have head := inside.head
    exact ⟨by omega, by omega, inside, fun _ _ => trivial⟩

end Blocks

/-! ## Tokens -/

section Tokens

variable {settings : DumpSettings} {memory : Memory} {pcdDatabaseInit size : Nat}

@[simp] theorem readsInside_readSkuId {index : Nat} :
    ReadsInside ⟨pcdDatabaseInit, size⟩ (readSkuId memory pcdDatabaseInit index) ↔
      skuIdTableOffset memory pcdDatabaseInit + 8 * index + 8 ≤ size := by
  rw [ReadsInside, readSkuId, allReads_read, Range.inside_entry]

theorem readsInside_dumpSkuPcdData {index skuId localTokenNumberTableIdx localTokenNumber : Nat}
    {data : DumpedData}
    (inside : Range.Inside ⟨data.dataPtr, data.dataSize⟩ ⟨pcdDatabaseInit, size⟩)
    (widths : ∀ width, datumType localTokenNumber = .uint width → width = data.dataSize) :
    ReadsInside ⟨pcdDatabaseInit, size⟩
        (dumpSkuPcdData settings memory pcdDatabaseInit index skuId localTokenNumberTableIdx
          localTokenNumber data) ↔
      (CopiesSku settings localTokenNumberTableIdx localTokenNumber index →
        CopyInside memory pcdDatabaseInit size skuId) := by
  rw [dumpSkuPcdData, CopiesSku]
  cases type : datumType localTokenNumber with
  | pointer =>
      cases settings.allocateCopyPool localTokenNumberTableIdx index with
      | true => simp [inside]
      | false => simp
  | uint width =>
      obtain rfl := widths width type
      simp [inside]
  | unknown => simp

theorem readsInside_dumpAllSkuPcdData {localTokenNumberTableIdx localTokenNumber : Nat}
    {data : DumpedData}
    (skuIds : skuIdTableOffset memory pcdDatabaseInit +
      8 * (skuIdTableEntry memory pcdDatabaseInit 0 + 1) ≤ size)
    (inside : Range.Inside ⟨data.dataPtr, data.dataSize⟩ ⟨pcdDatabaseInit, size⟩)
    (widths : ∀ width, datumType localTokenNumber = .uint width → width = data.dataSize) :
    ReadsInside ⟨pcdDatabaseInit, size⟩
        (dumpAllSkuPcdData settings memory pcdDatabaseInit localTokenNumberTableIdx
          localTokenNumber data) ↔
      CopiesInside settings memory pcdDatabaseInit size localTokenNumberTableIdx
        localTokenNumber := by
  have first : ReadsInside ⟨pcdDatabaseInit, size⟩ (readSkuId memory pcdDatabaseInit 0) :=
    readsInside_readSkuId.mpr (by omega)
  simp only [dumpAllSkuPcdData, ReadsInside, allReads_bind, first, ends_readSkuId, forall_eq,
    true_and, allReads_forIndexes, ends_bind, exists_eq_left, ends_dumpSkuPcdData,
    readsInside_dumpSkuPcdData inside widths]
  refine forall₂_congr fun place below => forall_congr' fun _ => and_iff_right ?_
  exact readsInside_readSkuId.mpr (by omega)

theorem exists_entry_of_loop {dataPtr dataSize fuel start : Nat}
    (run : loop (isSkuPcdTurn memory pcdDatabaseInit dataPtr dataSize) fuel start = some true) :
    ∃ offset, HasEntry memory pcdDatabaseInit dataPtr dataSize offset := by
  induction fuel generalizing start with
  | zero => cases run
  | succ fuel ih =>
      rw [loop, isSkuPcdTurn] at run
      split at run
      · rename_i outcome next
        exact ih run
      · rename_i outcome stops
        split at stops
        · split at stops
          · rename_i entry
            exact ⟨start, any_inData_iff.mp entry⟩
          · cases stops
        · rw [← Control.stop.inj stops] at run
          cases run

/-- IsSkuPcd returns TRUE for data with a size only. -/
theorem dataSize_pos_of_isSku {index : Nat} (isSku : IsSku settings memory pcdDatabaseInit index) :
    0 < (dumpedDataAt settings memory pcdDatabaseInit index).dataSize := by
  obtain ⟨fuel, run⟩ := isSku
  rw [isSkuPcd] at run
  split at run
  · cases run
  · obtain ⟨offset, delta, _, inside⟩ := exists_entry_of_loop run
    rw [inData, Bool.and_eq_true, decide_eq_true_eq, decide_eq_true_eq] at inside
    omega

theorem dumpedDataAt_eq {index : Nat}
    (positive : 0 < (dumpedDataAt settings memory pcdDatabaseInit index).dataSize) :
    let localTokenNumber := localTokenAt memory pcdDatabaseInit index
    let data := dataAddress settings memory pcdDatabaseInit localTokenNumber
    data ≠ 0 ∧ isUninitialized memory pcdDatabaseInit data = false ∧
      dumpedDataAt settings memory pcdDatabaseInit index =
        ⟨data, dataSizeOf memory pcdDatabaseInit index localTokenNumber⟩ := by
  intro localTokenNumber data
  rw [dumpedDataAt, dumpedDataOf] at positive ⊢
  by_cases null : data = 0
  · rw [if_neg (not_not_intro null)] at positive
    exact absurd positive (Nat.lt_irrefl 0)
  · rw [if_pos null, rawDataOf] at positive ⊢
    cases uninitialized : isUninitialized memory pcdDatabaseInit data with
    | true =>
        rw [if_pos uninitialized] at positive
        exact absurd positive (Nat.lt_irrefl 0)
    | false => exact ⟨null, rfl, if_neg Bool.false_ne_true⟩

/-- The data that is copied for a SkuId is the data that was printed. -/
theorem DataInside.dumpedData {index : Nat}
    (positive : 0 < (dumpedDataAt settings memory pcdDatabaseInit index).dataSize)
    (inside : let localTokenNumber := localTokenAt memory pcdDatabaseInit index
      let data := dataAddress settings memory pcdDatabaseInit localTokenNumber
      data ≠ 0 → DataInside memory pcdDatabaseInit size index localTokenNumber data) :
    let data := dumpedDataAt settings memory pcdDatabaseInit index
    Range.Inside ⟨data.dataPtr, data.dataSize⟩ ⟨pcdDatabaseInit, size⟩ ∧
      ∀ width, datumType (localTokenAt memory pcdDatabaseInit index) = .uint width →
        width = data.dataSize := by
  intro data
  obtain ⟨present, initialized, dataEq⟩ := dumpedDataAt_eq positive
  have here := inside present
  rw [show data = _ from dataEq]
  rw [dataEq] at positive
  rw [DataInside] at here
  dsimp only [dataSizeOf] at positive ⊢
  cases type : datumType (localTokenAt memory pcdDatabaseInit index) with
  | pointer =>
      rw [type] at here positive
      have bytes := here.2 initialized
      have last := bytes _ (Nat.sub_one_lt (Nat.ne_of_gt positive))
      refine ⟨⟨(bytes 0 positive).1, ?_⟩, nofun⟩
      have below := last.2
      dsimp only at below positive ⊢
      omega
  | uint width =>
      rw [type] at here
      exact ⟨here initialized, fun _ same => (DatumType.uint.inj same).symm⟩
  | unknown =>
      rw [type] at positive
      exact absurd positive (Nat.lt_irrefl 0)

theorem readsInside_dumpName {offset : Nat} :
    ReadsInside ⟨pcdDatabaseInit, size⟩ (dumpName memory pcdDatabaseInit offset) ↔
      offset + 4 ≤ size ∧
        TextInside memory ⟨pcdDatabaseInit, size⟩ 1 (stringAt memory pcdDatabaseInit offset) := by
  simp only [dumpName, ReadsInside, allReads_bind, readsInside_readStringHead, ends_readStringHead,
    forall_eq, readsInside_stringText Nat.one_pos]

theorem readsInside_dumpPcdNames {index : Nat} :
    ReadsInside ⟨pcdDatabaseInit, size⟩ (dumpPcdNames memory pcdDatabaseInit index) ↔
      NamesInside memory pcdDatabaseInit size index := by
  rw [dumpPcdNames, NamesInside, ReadsInside, allReads_ite]
  by_cases absent : pcdNameTableOffset memory pcdDatabaseInit = 0
  · simp [absent]
  · simp only [ne_eq, absent, not_false_eq_true, if_true, true_imp_iff, allReads_bind,
      readsInside_dumpName]
    constructor
    · rintro ⟨⟨_, first⟩, later⟩
      obtain ⟨below, second⟩ := later () (by simpa [dumpName] using first.ends)
      exact ⟨below, first, second⟩
    · rintro ⟨below, first, second⟩
      exact ⟨⟨by omega, first⟩, fun _ _ => ⟨below, second⟩⟩

theorem NamesInside.ends {index : Nat}
    (inside : NamesInside memory pcdDatabaseInit size index) :
    NamesEnd memory pcdDatabaseInit index := by
  intro present
  obtain ⟨_, first, second⟩ := inside present
  exact ⟨first.ends, second.ends⟩

theorem readsInside_dumpLocalToken {index : Nat}
    (skuIds : skuIdTableOffset memory pcdDatabaseInit +
      8 * (skuIdTableEntry memory pcdDatabaseInit 0 + 1) ≤ size) :
    ReadsInside ⟨pcdDatabaseInit, size⟩ (dumpLocalToken settings memory pcdDatabaseInit index) ↔
      TokenInside settings memory pcdDatabaseInit size index := by
  simp only [dumpLocalToken, ReadsInside, allReads_bind, ends_readLocalToken, forall_eq,
    readsInside_readLocalToken, readsInside_dumpPcdNames, ends_dumpPcdNames, ends_dumpPcdData,
    ends_isSkuPcdReads, allReads_ite, allReads_pure, readsInside_isSkuPcdReads]
  constructor
  · rintro ⟨entry, names, rest⟩
    obtain ⟨dumped, rest⟩ := rest () names.ends
    obtain ⟨value, data⟩ := (readsInside_dumpPcdData entry).mp dumped
    obtain ⟨walk, copies⟩ := rest _ ⟨value.variableNameEnds, rfl⟩
    refine ⟨entry, names, value, data, walk, fun isSku => ?_⟩
    obtain ⟨inside, widths⟩ := DataInside.dumpedData (dataSize_pos_of_isSku isSku) data
    have copied := copies true isSku
    rw [if_pos rfl] at copied
    exact (readsInside_dumpAllSkuPcdData skuIds inside widths).mp copied
  · rintro ⟨entry, names, value, data, walk, copies⟩
    refine ⟨entry, names, fun _ _ => ⟨(readsInside_dumpPcdData entry).mpr ⟨value, data⟩, ?_⟩⟩
    rintro _ ⟨_, rfl⟩
    refine ⟨walk, fun answer run => ?_⟩
    cases answer with
    | true =>
        have isSku : IsSku settings memory pcdDatabaseInit index := run
        obtain ⟨inside, widths⟩ := DataInside.dumpedData (dataSize_pos_of_isSku isSku) data
        rw [if_pos rfl]
        exact (readsInside_dumpAllSkuPcdData skuIds inside widths).mpr (copies isSku)
    | false => exact trivial

theorem readsInside_dumpExToken {index : Nat} :
    ReadsInside ⟨pcdDatabaseInit, size⟩ (dumpExToken memory pcdDatabaseInit index) ↔
      ExTokenInside memory pcdDatabaseInit size index := by
  simp only [dumpExToken, ReadsInside, allReads_bind, allReads_look, allReads_read, ends_look,
    ends_read, forall_const, forall_eq, Nat.add_assoc, Range.inside_offset]
  constructor
  · rintro ⟨_, _, entry, guid⟩
    exact ⟨by omega, by simpa only [exGuidIndexAt, Nat.add_assoc] using guid⟩
  · rintro ⟨entry, guid⟩
    refine ⟨by omega, by omega, by omega, ?_⟩
    simpa only [exGuidIndexAt, Nat.add_assoc] using guid

end Tokens

/-! ## The database -/

section Database

variable {settings : DumpSettings} {memory : Memory} {pcdDatabaseInit size : Nat}

theorem readsInside_readHeader {fields : List (Nat × Nat)} :
    ReadsInside ⟨pcdDatabaseInit, size⟩ (readHeader memory pcdDatabaseInit fields) ↔
      ∀ field ∈ fields, field.1 + field.2 ≤ size := by
  induction fields with
  | nil => simp [readHeader]
  | cons field fields ih =>
      obtain ⟨offset, width⟩ := field
      simp only [readHeader, ReadsInside, allReads_bind, allReads_look, ends_look, forall_const,
        List.forall_mem_cons, Range.inside_offset, ih]

theorem ends_readHeader {fields : List (Nat × Nat)} (done : Unit) :
    Ends (readHeader memory pcdDatabaseInit fields) done := by
  induction fields with
  | nil => exact ends_pure.mpr rfl
  | cons field fields ih =>
      obtain ⟨offset, width⟩ := field
      exact ends_bind.mpr ⟨(), ends_look (), ih⟩

/-- The last field of the header is the one that ends last. -/
theorem headerFields_inside : (∀ field ∈ headerFields, field.1 + field.2 ≤ size) ↔ 74 ≤ size := by
  simp only [headerFields, List.forall_mem_cons, List.not_mem_nil, false_imp_iff, implies_true,
    and_true]
  omega

theorem readsInside_skuIdTable :
    (ReadsInside ⟨pcdDatabaseInit, size⟩ (readSkuId memory pcdDatabaseInit 0) ∧
      ∀ offset < skuIdTableEntry memory pcdDatabaseInit 0,
        ReadsInside ⟨pcdDatabaseInit, size⟩ (readSkuId memory pcdDatabaseInit (1 + offset))) ↔
      skuIdTableOffset memory pcdDatabaseInit +
        8 * (skuIdTableEntry memory pcdDatabaseInit 0 + 1) ≤ size := by
  simp only [readsInside_readSkuId]
  constructor
  · rintro ⟨first, later⟩
    by_cases none : skuIdTableEntry memory pcdDatabaseInit 0 = 0
    · omega
    · have last := later (skuIdTableEntry memory pcdDatabaseInit 0 - 1) (by omega)
      omega
  · intro inside
    exact ⟨by omega, fun offset below => by omega⟩

theorem readsInside_dumpPcdDatabase :
    ReadsInside ⟨pcdDatabaseInit, size⟩ (dumpPcdDatabase settings memory pcdDatabaseInit) ↔
      DatabaseInside settings memory pcdDatabaseInit size := by
  simp only [dumpPcdDatabase, ReadsInside, allReads_bind, allReads_read, ends_read, forall_eq,
    allReads_ite, allReads_pure, if_true_right, readsInside_readHeader, headerFields_inside,
    ends_readHeader,
    forall_const, ends_readSkuId, allReads_forIndexes, ends_forIndexes, ends_bind, ends_pure,
    exists_eq, implies_true, and_true, Nat.zero_add, ends_dumpLocalToken, ends_dumpExToken,
    readsInside_dumpExToken, allReads_walkSkuDeltas ends_dumpSkuDeltaReads,
    readsInside_dumpSkuDeltaReads]
  have whole : (⟨pcdDatabaseInit, 16⟩ : Range).Inside ⟨pcdDatabaseInit, size⟩ ↔ 16 ≤ size := by
    simp [Range.Inside]
  rw [whole]
  constructor
  · rintro ⟨signature, rest⟩
    refine ⟨signature, fun same => ?_⟩
    obtain ⟨header, first, later, rest⟩ := rest same
    have skuIds := readsInside_skuIdTable.mp ⟨first, later⟩
    obtain ⟨tokens, behind⟩ := rest
    refine ⟨header, skuIds, fun index below ended => ?_, fun ended => ?_, fun ended => ?_⟩
    · exact (readsInside_dumpLocalToken skuIds).mp (tokens index below ended)
    · exact (behind ended).1
    · exact (behind ended).2
  · rintro ⟨signature, contents⟩
    refine ⟨signature, fun same => ?_⟩
    obtain ⟨header, skuIds, tokens, exTokens, deltas⟩ := contents same
    obtain ⟨first, later⟩ := readsInside_skuIdTable.mpr skuIds
    refine ⟨header, first, later, fun index below ended => ?_, fun ended => ?_⟩
    · exact (readsInside_dumpLocalToken skuIds).mpr (tokens index below ended)
    · exact ⟨exTokens ended, deltas ended⟩

end Database

/-- DumpPcdBinary reads inside its file exactly when what it comes to lies there. -/
theorem dumpPcdBinary_inside_iff (settings : DumpSettings) (memory : Memory)
    (file : Option Range) :
    (∀ buffer ∈ file, ReadsInside buffer (dumpPcdBinary settings memory file)) ↔
      ∀ buffer ∈ file, DatabaseInside settings memory buffer.start buffer.length := by
  refine forall₂_congr fun buffer same => ?_
  rw [Option.mem_def.mp same]
  exact readsInside_dumpPcdDatabase

def signatureSettings : DumpSettings where
  pcdDatabaseOffsetMask := 0xEFFFFF
  pcdVpdBaseAddress := 0
  gPcdDataBaseSignatureGuid := 0x7E434FEA2D558FA64C14682C3C7D193C
  allocateCopyPool _ _ := true

/-- A header alone, with its token table behind the file. -/
def headerAlone (localTokenCount : Nat) : List UInt8 :=
  toBytes 16 signatureSettings.gPcdDataBaseSignatureGuid ++ toBytes 4 7 ++ toBytes 4 80 ++
    toBytes 8 0 ++ toBytes 4 80 ++ toBytes 4 0 ++ toBytes 4 0x10000 ++ toBytes 4 80 ++
    toBytes 4 80 ++ toBytes 4 80 ++ toBytes 4 80 ++ toBytes 4 24 ++ toBytes 4 0 ++
    toBytes 2 localTokenCount ++ toBytes 2 0 ++ toBytes 2 0 ++ List.replicate 6 0

def headerMemory (localTokenCount : Nat) : Memory :=
  Memory.ofBytesAt 0x1000 (headerAlone localTokenCount)

/-- Without a token the table is not read. -/
example : DatabaseInside signatureSettings (headerMemory 0) 0x1000 80 := by
  have count : localTokenCount (headerMemory 0) 0x1000 = 0 := by decide
  have exCount : exTokenCount (headerMemory 0) 0x1000 = 0 := by decide
  refine ⟨by decide, fun _ => ⟨by decide, by decide, ?_, ?_, ?_⟩⟩
  · rw [count]
    exact fun index below => absurd below (Nat.not_lt_zero index)
  · rw [exCount]
    exact fun _ index below => absurd below (Nat.not_lt_zero index)
  · exact fun _ offset comes => absurd comes (not_comesTo (by decide) offset)

theorem dumpPcdBinary_farTokenTable :
    ¬ ReadsInside ⟨0x1000, 80⟩
      (dumpPcdBinary signatureSettings (headerMemory 1) (some ⟨0x1000, 80⟩)) := by
  intro inside
  have database := readsInside_dumpPcdDatabase.mp inside
  have count : localTokenCount (headerMemory 1) 0x1000 = 1 := by decide
  have table : localTokenNumberTableOffset (headerMemory 1) 0x1000 = 0x10000 := by decide
  have contents := database.contents (by decide)
  have token := contents.tokens 0 (by rw [count]; exact Nat.one_pos)
    fun earlier less => absurd less (Nat.not_lt_zero earlier)
  have entry := token.entry
  rw [table] at entry
  omega

end AppEfi.PcdDump
