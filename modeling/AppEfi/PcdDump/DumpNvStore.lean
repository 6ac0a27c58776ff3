import AppEfi.PcdDump.NvStoreLayout

/-!
# The walks over an NV-store default buffer

`GetSkuDataFromNvStore` and `DumpNvStore` of PcdDump.c.  Both look for the end of
the variable store and for the records of deltas behind it.  Offsets count from
the start of the buffer; what is printed of a variable or of a delta is left out.
-/

set_option autoImplicit false

namespace AppEfi.PcdDump

open AppEfi.LittleEndian
open AppEfi.RecordWalk

section Walks

variable (guids : VariableGuids) (memory : Memory) (nvStoreDefaultBuffer : Nat)

def dataSizeAt (offset : Nat) : Nat := memory.readLe (nvStoreDefaultBuffer + offset) 4

def headerSizeAt (offset : Nat) : Nat := memory.readLe (nvStoreDefaultBuffer + offset + 4) 4

def bufferLength : Nat := memory.readLe (nvStoreDefaultBuffer + 4) 4

def getVariableStoreHeaderFromNvStore : Option Nat :=
  if memory.readLe nvStoreDefaultBuffer 4 ≠ pcdNvStoreDefaultBufferSignature then none
  else
    let offset := sizeofBufferHeader + headerSizeAt memory nvStoreDefaultBuffer sizeofBufferHeader
    some (nvStoreDefaultBuffer + alignValue offset 8)

/-- The two comparisons with the signature of the variable store. -/
def variableFormat (variableStoreHeader : Nat) : Option VariableFormat :=
  if memory.bytesAt variableStoreHeader 16 = guids.normal.val then some .normal
  else if memory.bytesAt variableStoreHeader 16 = guids.authenticated.val then
    some .authenticated
  else none

def nextVariable (format : VariableFormat) (offset : Nat) : Nat :=
  let variableHeader := nvStoreDefaultBuffer + offset
  let nameSize := memory.readLe (variableHeader + format.nameSizeOffset) 4
  let dataSize := memory.readLe (variableHeader + format.nameSizeOffset + 4) 4
  alignValue (offset + format.headerSize + nameSize + dataSize) 4

/-- `while (Offset < PcdDefaultData->DataSize)`, for the format of the store.  A
turn moves forward by a header, so that DataSize is fuel enough. -/
def forEachVariable {State : Type} (body : State → Nat → State) (variableStoreHeader offset : Nat)
    (state : State) : Option (State × Nat) :=
  match variableFormat guids memory variableStoreHeader with
  | none => some (state, offset)
  | some format =>
      let dataSize := dataSizeAt memory nvStoreDefaultBuffer sizeofBufferHeader
      whileLoop (fun current => decide (current < dataSize))
        (nextVariable memory nvStoreDefaultBuffer format) body dataSize offset state

/-- The outer `none` is a loop that does not end, the inner one is `NULL`. -/
def getSkuDataFromNvStore : Option (Option Nat) :=
  match getVariableStoreHeaderFromNvStore memory nvStoreDefaultBuffer with
  | none => some none
  | some variableStoreHeader =>
      let offset := variableStoreHeader - nvStoreDefaultBuffer
      let offset := alignValue (offset + sizeofVariableStoreHeader) 4
      (forEachVariable guids memory nvStoreDefaultBuffer (fun _ _ => ()) variableStoreHeader
        offset ()).map fun (_, offset) =>
          let offset := alignValue offset 8
          if offset < bufferLength memory nvStoreDefaultBuffer then
            some (nvStoreDefaultBuffer + offset)
          else none

/-- The offset behind the record of deltas at an offset; the deltas end at or
behind the record's DataSize. -/
def nextRecord (offset : Nat) : Nat :=
  let deltaData := alignValue (offset + 4 + headerSizeAt memory nvStoreDefaultBuffer offset) 4
  let finish := offset + dataSizeAt memory nvStoreDefaultBuffer offset
  alignValue (deltaData + (finish - deltaData + 3) / 4 * 4) 8

/-- What `DumpNvStore` visits: the headers of variables and the records of deltas. -/
structure DumpedNvStore where
  visitedVariables : List Nat
  visitedRecords : List Nat
  deriving DecidableEq

def dumpNvStore : Option DumpedNvStore :=
  if memory.readLe nvStoreDefaultBuffer 4 ≠ pcdNvStoreDefaultBufferSignature then
    some { visitedVariables := [], visitedRecords := [] }
  else
    let offset := sizeofBufferHeader + headerSizeAt memory nvStoreDefaultBuffer sizeofBufferHeader
    let offset := alignValue offset 8
    let variableStoreHeader := nvStoreDefaultBuffer + offset
    let offset := alignValue (offset + sizeofVariableStoreHeader) 4
    (forEachVariable guids memory nvStoreDefaultBuffer visit variableStoreHeader offset []).bind
      fun (visitedVariables, offset) =>
        let length := bufferLength memory nvStoreDefaultBuffer
        (whileLoop (fun current => decide (current < length))
          (nextRecord memory nvStoreDefaultBuffer) visit length (alignValue offset 8) []).map
            fun (visitedRecords, _) =>
              { visitedVariables := visitedVariables, visitedRecords := visitedRecords }

end Walks

/-! ## A buffer in memory -/

section Stored

variable {guids : VariableGuids} {store : NvStore} {memory : Memory} {buffer : Nat}

theorem NvStore.holds_parts (loaded : memory.Holds buffer (store.encode guids)) :
    memory.Holds buffer (toBytes 4 pcdNvStoreDefaultBufferSignature) ∧
      memory.Holds (buffer + 4) (toBytes 4 store.length.toNat) ∧
      memory.Holds (buffer + 16) (toBytes 4 store.dataSize.toNat) ∧
      memory.Holds (buffer + 20) (toBytes 4 (4 + store.infos.length * 16)) ∧
      memory.Holds (buffer + store.storeOffset) (guids.signature store.format).val ∧
      memory.Holds (buffer + store.variablesOffset)
        (store.entries.flatMap Variable.encode) ∧
      (store.firstSize + store.padding.length = alignValue store.firstSize 8 →
        memory.Holds (buffer + store.recordsOffset)
          (store.records.flatMap DeltaRecord.encode)) := by
  have guidLength := (guids.signature store.format).property
  simp only [NvStore.encode, Memory.holds_append, List.length_append, length_toBytes,
    length_encodeInfos, length_flatMap_encode Variable.encode, guidLength,
    store.storeFields_length] at loaded
  obtain ⟨⟨⟨⟨⟨⟨⟨⟨⟨⟨⟨signature, length⟩, _⟩, _⟩, dataSize⟩, headerSize⟩, _⟩, guid⟩, _⟩,
    entries⟩, _⟩, records⟩ := loaded
  refine ⟨signature, length, dataSize, headerSize, ?_, ?_, ?_⟩
  · have start : buffer + store.storeOffset =
        buffer + (4 + 4 + 4 + 4 + 4 + 4 + store.infos.length * 16) := by
      simp only [NvStore.storeOffset, sizeofBufferHeader]
    rw [start]
    exact guid
  · have start : buffer + store.variablesOffset =
        buffer + (4 + 4 + 4 + 4 + 4 + 4 + store.infos.length * 16 + 16 + 12) := by
      simp only [NvStore.variablesOffset, NvStore.storeOffset, sizeofBufferHeader,
        sizeofVariableStoreHeader]
    rw [start]
    exact entries
  · intro padded
    have start : buffer + store.recordsOffset =
        buffer + (4 + 4 + 4 + 4 + 4 + 4 + store.infos.length * 16 + 16 + 12 +
          total (fun entry => (Variable.encode entry).length) store.entries +
          store.padding.length) := by
      rw [NvStore.recordsOffset, ← padded]
      simp only [NvStore.firstSize, sizeofBufferHeader, sizeofVariableStoreHeader]
      omega
    rw [start]
    exact records

theorem Variable.sizes_stored {format : VariableFormat} {entry : Variable format}
    {address : Nat} (stored : memory.Holds address entry.encode) :
    memory.readLe (address + format.nameSizeOffset) 4 = entry.name.length ∧
      memory.readLe (address + format.nameSizeOffset + 4) 4 = entry.data.length := by
  simp only [Variable.encode, Memory.holds_append, List.length_append, length_toBytes,
    entry.fixedFields_length] at stored
  obtain ⟨⟨⟨⟨⟨⟨_, nameSize⟩, dataSize⟩, _⟩, _⟩, _⟩, _⟩ := stored
  constructor
  · exact nameSize.readLe_eq entry.name_length
  · exact dataSize.readLe_eq entry.data_length

theorem nextVariable_stored {format : VariableFormat} {entry : Variable format} {offset : Nat}
    (stored : memory.Holds (buffer + offset) entry.encode) (aligned : offset % 4 = 0) :
    nextVariable memory buffer format offset = offset + entry.encode.length := by
  obtain ⟨nameSize, dataSize⟩ := Variable.sizes_stored stored
  rw [nextVariable, nameSize, dataSize, entry.length_encode, Nat.add_assoc, Nat.add_assoc,
    Nat.add_assoc, alignValue_add aligned (by decide)]

theorem DeltaRecord.sizes_stored {record : DeltaRecord} {offset : Nat}
    (stored : memory.Holds (buffer + offset) record.encode) :
    dataSizeAt memory buffer offset = record.dataSize.toNat ∧
      headerSizeAt memory buffer offset = 4 + record.infos.length * 16 := by
  simp only [DeltaRecord.encode, Memory.holds_append, List.length_append,
    length_toBytes] at stored
  obtain ⟨⟨⟨⟨dataSize, headerSize⟩, _⟩, _⟩, _⟩ := stored
  constructor
  · exact dataSize.readLe_eq record.dataSize.toNat_lt
  · exact headerSize.readLe_eq record.infos_length

theorem nextRecord_stored {record : DeltaRecord} {offset : Nat}
    (stored : memory.Holds (buffer + offset) record.encode) (aligned : offset % 8 = 0) :
    nextRecord memory buffer offset = offset + record.encode.length := by
  obtain ⟨dataSize, headerSize⟩ := DeltaRecord.sizes_stored stored
  have above := record.dataSize_above
  have below := record.dataSize_below
  have padded := alignValue_mod (8 + record.infos.length * 16 + record.deltas.length * 4) 8
  have deltaData : alignValue (offset + 4 + (4 + record.infos.length * 16)) 4 =
      offset + (8 + record.infos.length * 16) := by
    rw [alignValue_of_mod (by omega) (by decide)]
    omega
  rw [nextRecord, dataSize, headerSize, deltaData, record.length_encode, Nat.add_assoc,
    alignValue_add aligned (by decide)]
  congr 1
  apply alignValue_between (by decide)
  · omega
  · omega

theorem variableFormat_stored {header : Nat} {format : VariableFormat}
    (stored : memory.Holds header (guids.signature format).val) :
    variableFormat guids memory header = some format := by
  have bytes : memory.bytesAt header 16 = (guids.signature format).val :=
    stored.bytesAt_eq (guids.signature format).property
  cases format with
  | normal =>
      rw [variableFormat, bytes]
      exact if_pos rfl
  | authenticated =>
      have different : (guids.signature .authenticated).val ≠ guids.normal.val :=
        fun same => guids.different (Subtype.ext same.symm)
      rw [variableFormat, bytes, if_neg different]
      exact if_pos rfl

def NvStore.variableStarts (store : NvStore) : List Nat :=
  starts (fun entry => (Variable.encode entry).length) store.variablesOffset store.entries

def NvStore.recordStarts (store : NvStore) : List Nat :=
  starts (fun record => (DeltaRecord.encode record).length) store.recordsOffset store.records

/-- The loop over the variables runs once at each of them.  `DataSize` does not
count the buffer's own header, but no variable is as short as that header and no
padding as long. -/
theorem forEachVariable_stored (loaded : memory.Holds buffer (store.encode guids))
    (wellFormed : store.WellFormed) {State : Type} (body : State → Nat → State) (state : State) :
    forEachVariable guids memory buffer body (buffer + store.storeOffset) store.variablesOffset
        state =
      some (store.variableStarts.foldl body state, sizeofBufferHeader + store.firstSize) := by
  obtain ⟨_, _, dataSize, _, guid, entries, _⟩ := NvStore.holds_parts loaded
  have sizeRead : dataSizeAt memory buffer sizeofBufferHeader = store.dataSize.toNat :=
    dataSize.readLe_eq store.dataSize.toNat_lt
  have above := wellFormed.dataSize_above
  have below := wellFormed.dataSize_below
  have padded := @alignValue_lt store.firstSize 8 (by decide)
  have few := length_le_total (fun entry => (Variable.encode entry).length) store.entries
    fun entry _ => by have := entry.length_encode_bounds; omega
  have first : store.firstSize = 8 + store.infos.length * 16 + sizeofVariableStoreHeader +
      total (fun entry => (Variable.encode entry).length) store.entries := rfl
  have offset : store.variablesOffset =
      sizeofBufferHeader + (8 + store.infos.length * 16 + sizeofVariableStoreHeader) := by
    simp only [NvStore.variablesOffset, NvStore.storeOffset]
    omega
  have header : sizeofBufferHeader = 16 := rfl
  have storeHeader : sizeofVariableStoreHeader = 28 := rfl
  simp only [forEachVariable, variableFormat_stored guid, sizeRead]
  rw [whileLoop_records _ _ _ (fun entry => (Variable.encode entry).length) store.entries]
  · have finish : store.variablesOffset +
        total (fun entry => (Variable.encode entry).length) store.entries =
          sizeofBufferHeader + store.firstSize := by omega
    rw [finish]
    rfl
  · intro entry member
    have within := placed_bounds member
    have length := entry.2.length_encode_bounds
    have aligned : entry.1 % 4 = 0 := by
      apply placed_mod (fun other _ => other.length_encode_bounds.2) _ _ entry member
      omega
    have held := holds_of_mem_placed entries (mem_placed_add buffer member)
    refine ⟨?_, nextVariable_stored held aligned⟩
    apply decide_eq_true
    omega
  · apply decide_eq_false
    omega
  · omega

theorem forEachRecord_stored (loaded : memory.Holds buffer (store.encode guids))
    (wellFormed : store.WellFormed) :
    ∃ finish,
      whileLoop (fun current => decide (current < bufferLength memory buffer))
          (nextRecord memory buffer) visit (bufferLength memory buffer) store.recordsOffset [] =
        some (store.recordStarts, finish) := by
  obtain ⟨_, length, _, _, _, _, records⟩ := NvStore.holds_parts loaded
  have records := records wellFormed.padded
  have lengthRead : bufferLength memory buffer = store.length.toNat :=
    length.readLe_eq store.length.toNat_lt
  have above := wellFormed.length_above
  have below := wellFormed.length_below
  have few := length_le_total (fun record => (DeltaRecord.encode record).length) store.records
    fun record _ => by have := record.length_encode_bounds; omega
  have size : store.size = store.recordsOffset +
      total (fun record => (DeltaRecord.encode record).length) store.records := rfl
  have offset : store.recordsOffset = sizeofBufferHeader + alignValue store.firstSize 8 := rfl
  have header : sizeofBufferHeader = 16 := rfl
  have firstAligned := alignValue_mod store.firstSize 8
  rw [lengthRead, whileLoop_records _ _ _ (fun record => (DeltaRecord.encode record).length)
    store.records]
  · rw [foldl_visit, List.nil_append]
    exact ⟨_, rfl⟩
  · intro entry member
    have within := placed_bounds member
    have bounds := entry.2.length_encode_bounds
    have aligned : entry.1 % 8 = 0 := by
      apply placed_mod (fun other _ => other.length_encode_bounds.2) _ _ entry member
      omega
    have held := holds_of_mem_placed records (mem_placed_add buffer member)
    refine ⟨?_, nextRecord_stored held aligned⟩
    apply decide_eq_true
    omega
  · apply decide_eq_false
    omega
  · omega

/-- The offsets up to the first variable, as both functions compute them. -/
theorem NvStore.offsets_stored (loaded : memory.Holds buffer (store.encode guids)) :
    memory.readLe buffer 4 = pcdNvStoreDefaultBufferSignature ∧
      alignValue (sizeofBufferHeader + headerSizeAt memory buffer sizeofBufferHeader) 8 =
        store.storeOffset ∧
      alignValue (store.storeOffset + sizeofVariableStoreHeader) 4 = store.variablesOffset ∧
      alignValue (sizeofBufferHeader + store.firstSize) 8 = store.recordsOffset := by
  obtain ⟨signature, _, _, headerSize, _, _, _⟩ := NvStore.holds_parts loaded
  have headerRead : headerSizeAt memory buffer sizeofBufferHeader =
      4 + store.infos.length * 16 := headerSize.readLe_eq store.infos_length
  refine ⟨signature.readLe_eq (by decide), ?_, ?_, alignValue_add rfl (by decide)⟩
  · rw [headerRead]
    simp only [alignValue, NvStore.storeOffset, sizeofBufferHeader]
    omega
  · apply alignValue_of_mod _ (by decide)
    simp only [NvStore.storeOffset, sizeofBufferHeader, sizeofVariableStoreHeader]
    omega

theorem dumpNvStore_stored (wellFormed : store.WellFormed)
    (loaded : memory.Holds buffer (store.encode guids)) :
    dumpNvStore guids memory buffer = some ⟨store.variableStarts, store.recordStarts⟩ := by
  obtain ⟨signatureRead, storeStart, variablesStart, recordsStart⟩ :=
    NvStore.offsets_stored loaded
  have visited := forEachVariable_stored loaded wellFormed visit []
  obtain ⟨finish, records⟩ := forEachRecord_stored loaded wellFormed
  rw [foldl_visit, List.nil_append] at visited
  simp only [dumpNvStore, signatureRead, ne_eq, not_true_eq_false, if_false, storeStart,
    variablesStart, visited, Option.bind_some, recordsStart, records, Option.map_some]

theorem getVariableStoreHeaderFromNvStore_stored
    (loaded : memory.Holds buffer (store.encode guids)) :
    getVariableStoreHeaderFromNvStore memory buffer = some (buffer + store.storeOffset) := by
  obtain ⟨signatureRead, storeStart, _, _⟩ := NvStore.offsets_stored loaded
  simp only [getVariableStoreHeaderFromNvStore, signatureRead, ne_eq, not_true_eq_false,
    if_false, storeStart]

theorem getSkuDataFromNvStore_stored (wellFormed : store.WellFormed)
    (loaded : memory.Holds buffer (store.encode guids)) :
    getSkuDataFromNvStore guids memory buffer =
      some (store.recordStarts.head?.map fun offset => buffer + offset) := by
  obtain ⟨_, length, _, _, _, _, _⟩ := NvStore.holds_parts loaded
  obtain ⟨_, _, variablesStart, recordsStart⟩ := NvStore.offsets_stored loaded
  have lengthRead : bufferLength memory buffer = store.length.toNat :=
    length.readLe_eq store.length.toNat_lt
  have skipped := forEachVariable_stored loaded wellFormed (fun _ _ => ()) ()
  have above := wellFormed.length_above
  have below := wellFormed.length_below
  simp only [getSkuDataFromNvStore, getVariableStoreHeaderFromNvStore_stored loaded,
    Nat.add_sub_cancel_left, variablesStart, skipped, Option.map_some, recordsStart, lengthRead]
  cases listed : store.records with
  | nil =>
      have behind : ¬ store.recordsOffset < store.length.toNat := by
        simp only [NvStore.size, listed, total_nil] at below
        omega
      rw [if_neg behind, NvStore.recordStarts, listed]
      rfl
  | cons record rest =>
      have bounds := record.length_encode_bounds
      have inside : store.recordsOffset < store.length.toNat := by
        simp only [NvStore.size, listed, total_cons] at above
        omega
      rw [if_pos inside, NvStore.recordStarts, listed]
      rfl

/-- On a well-formed buffer `DumpNvStore` reads the header of each variable of
the first record once and of nothing else, and then the records of deltas from
where `GetSkuDataFromNvStore` says that they start. -/
theorem getSkuDataFromNvStore_eq_deltaWalk (wellFormed : store.WellFormed)
    (loaded : memory.Holds buffer (store.encode guids)) :
    ∃ dumped, dumpNvStore guids memory buffer = some dumped ∧
      dumped.visitedVariables = store.variableStarts ∧
      dumped.visitedRecords = store.recordStarts ∧
      getSkuDataFromNvStore guids memory buffer =
        some (dumped.visitedRecords.head?.map fun offset => buffer + offset) :=
  ⟨_, dumpNvStore_stored wellFormed loaded, rfl, rfl,
    getSkuDataFromNvStore_stored wellFormed loaded⟩

end Stored

/-! ## A buffer with one variable and one record of deltas -/

/-- `gEfiVariableGuid` and `gEfiAuthenticatedVariableGuid`. -/
def variableGuids : VariableGuids where
  normal := ⟨[0x16, 0x36, 0xCF, 0xDD, 0x75, 0x32, 0x64, 0x41,
    0x98, 0xB6, 0xFE, 0x85, 0x70, 0x7F, 0xFE, 0x7D], rfl⟩
  authenticated := ⟨[0x78, 0x2C, 0xF3, 0xAA, 0x7B, 0x94, 0x9A, 0x43,
    0xA1, 0x80, 0x2E, 0x14, 0x4E, 0xC3, 0x77, 0x92], rfl⟩
  different := by decide

theorem variableA_fixedFields :
    (List.replicate 8 (0xAA : UInt8)).length = VariableFormat.normal.nameSizeOffset := rfl

theorem variableA_name : ([0x41, 0, 0, 0] : List UInt8).length < 2 ^ 32 := by decide

theorem variableA_data : ([1, 2, 3] : List UInt8).length < 2 ^ 32 := by decide

theorem variableA_padded :
    VariableFormat.normal.headerSize + ([0x41, 0, 0, 0] : List UInt8).length +
        ([1, 2, 3] : List UInt8).length + ([0xFF] : List UInt8).length =
      alignValue (VariableFormat.normal.headerSize + ([0x41, 0, 0, 0] : List UInt8).length +
        ([1, 2, 3] : List UInt8).length) 4 := by decide

theorem oneInfo_length :
    4 + ([⟨List.replicate 16 0, SmmCore.length_zeroGuid⟩] : List DefaultInfo).length * 16 <
      2 ^ 32 := by decide

theorem zeroFields_length : (List.replicate 12 (0 : UInt8)).length = 12 := rfl

/-- A variable of 39 bytes, and a DataSize that does not count its padding. -/
def oneVariable : NvStore where
  length := 144
  maxLength := 0x1000
  reserved := 0
  dataSize := 91
  infos := [⟨List.replicate 16 0, SmmCore.length_zeroGuid⟩]
  format := .normal
  storeFields := List.replicate 12 0
  entries := [{ fixedFields := List.replicate 8 0xAA
                vendorGuid := ⟨List.replicate 16 1, SmmCore.length_onesGuid⟩
                name := [0x41, 0, 0, 0]
                data := [1, 2, 3]
                padding := [0xFF]
                fixedFields_length := variableA_fixedFields
                name_length := variableA_name
                data_length := variableA_data
                padded := variableA_padded }]
  padding := [0, 0, 0, 0]
  records := [{ infos := [⟨List.replicate 16 1, SmmCore.length_onesGuid⟩]
                deltas := [0x05000048]
                dataSize := 28
                padding := [0, 0, 0, 0]
                infos_length := by decide
                padded := by decide
                dataSize_above := by decide
                dataSize_below := by decide }]
  infos_length := oneInfo_length
  storeFields_length := zeroFields_length

theorem getSkuDataFromNvStore_eq_deltaWalk_oneVariable :
    ∃ dumped,
      dumpNvStore variableGuids
        (Memory.ofBytesAt 0x1000 (oneVariable.encode variableGuids)) 0x1000 = some dumped ∧
      dumped.visitedVariables = [68] ∧ dumped.visitedRecords = [112] ∧
      getSkuDataFromNvStore variableGuids
        (Memory.ofBytesAt 0x1000 (oneVariable.encode variableGuids)) 0x1000 =
          some (some 0x1070) := by
  obtain ⟨dumped, run, entries, records, skuData⟩ :=
    @getSkuDataFromNvStore_eq_deltaWalk variableGuids oneVariable _ _
      ⟨by decide, by decide, by decide, by decide, by decide⟩
      (Memory.holds_ofBytesAt 0x1000 (oneVariable.encode variableGuids))
  have recordStarts : dumped.visitedRecords = [112] := records.trans (by decide)
  refine ⟨dumped, run, entries.trans (by decide), recordStarts, ?_⟩
  rw [skuData, recordStarts]
  rfl

end AppEfi.PcdDump
