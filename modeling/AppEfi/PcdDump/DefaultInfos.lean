import AppEfi.PcdDump.HasSkuData

/-!
# The pairs of SkuId and DefaultId that are reported

The header of a PCD_DEFAULT_DATA lists pairs.  DumpNvStore prints one for each, and
DumpAllSkuData one for each record that overrides; both read it through `DefaultInfo`,
which stays at the first pair.
-/

set_option autoImplicit false

namespace AppEfi.PcdDump

open AppEfi.BoundedWalk
open AppEfi.LittleEndian
open AppEfi.RecordWalk

section Functions

variable (guids : VariableGuids) (memory : Memory) (nvStoreDefaultBuffer : Nat)

/-- The loop over `Count` pairs.  `Count` is a difference of UINTNs. -/
def dumpDefaultInfos (offset : Nat) : List (Nat × Nat) :=
  let headerSize := headerSizeAt memory nvStoreDefaultBuffer offset
  let count := (headerSize + 2 ^ 64 - 4) % 2 ^ 64 / 16
  (List.range count).map fun _ => defaultInfoAt memory (nvStoreDefaultBuffer + offset + 8)

/-- What DumpNvStore prints of the pairs, record by record. -/
def dumpNvStoreInfos : Option (List (List (Nat × Nat))) :=
  if memory.readLe nvStoreDefaultBuffer 4 ≠ pcdNvStoreDefaultBufferSignature then some []
  else
    (dumpNvStore guids memory nvStoreDefaultBuffer).map fun dumped =>
      (sizeofBufferHeader :: dumped.visitedRecords).map
        (dumpDefaultInfos memory nvStoreDefaultBuffer)

end Functions

def DefaultInfo.pair (info : DefaultInfo) : Nat × Nat :=
  (ofBytes (info.val.take 8), ofBytes ((info.val.drop 8).take 2))

/-- All pairs of a record are the same one. -/
def OnePair (infos : List DefaultInfo) : Prop :=
  ∀ info ∈ infos, ∀ other ∈ infos, DefaultInfo.pair info = DefaultInfo.pair other

theorem onePair_singleton (info : DefaultInfo) : OnePair [info] := by
  intro first listed other there
  rw [List.mem_singleton.mp listed, List.mem_singleton.mp there]

section Infos

variable {memory : Memory} {buffer offset : Nat} {infos : List DefaultInfo}

theorem defaultInfoAt_stored {address : Nat} {info : DefaultInfo}
    (held : memory.Holds address info.val) :
    defaultInfoAt memory address = DefaultInfo.pair info := by
  have skuId := held.bytesAt_slice 0 8 (by rw [info.property]; decide)
  have defaultId := held.bytesAt_slice 8 2 (by rw [info.property]; decide)
  rw [defaultInfoAt, DefaultInfo.pair, Memory.readLe, Memory.readLe, defaultId]
  rw [Nat.add_zero, List.drop_zero] at skuId
  rw [skuId]

/-- The first pair for each of the pairs. -/
theorem dumpDefaultInfos_stored
    (headerSize : headerSizeAt memory buffer offset = 4 + infos.length * 16)
    (fits : 4 + infos.length * 16 < 2 ^ 32)
    (held : memory.Holds (buffer + offset + 8) (encodeInfos infos)) :
    dumpDefaultInfos memory buffer offset = infos.map DefaultInfo.pair ↔ OnePair infos := by
  have count : (4 + infos.length * 16 + 2 ^ 64 - 4) % 2 ^ 64 / 16 = infos.length := by omega
  rw [dumpDefaultInfos, headerSize]
  simp only [count]
  cases infos with
  | nil => exact iff_of_true rfl fun info listed => absurd listed List.not_mem_nil
  | cons first rest =>
      rw [encodeInfos, List.flatMap_cons, Memory.holds_append] at held
      rw [defaultInfoAt_stored held.1, List.map_const', List.length_range, eq_comm,
        List.eq_replicate_iff, List.length_map]
      simp only [true_and, List.forall_mem_map]
      constructor
      · intro same info listed other there
        rw [same info listed, same other there]
      · intro one info listed
        exact one info listed first List.mem_cons_self

/-- A record's pairs are all the first. -/
theorem OnePair.defaultInfoAt_eq (one : OnePair infos)
    (held : memory.Holds (buffer + offset + 8) (encodeInfos infos)) {info : DefaultInfo}
    (listed : info ∈ infos) :
    defaultInfoAt memory (buffer + offset + 8) = DefaultInfo.pair info := by
  cases infos with
  | nil => cases listed
  | cons first rest =>
      rw [encodeInfos, List.flatMap_cons, Memory.holds_append] at held
      rw [defaultInfoAt_stored held.1]
      exact one first List.mem_cons_self info listed

end Infos

section Stored

variable {guids : VariableGuids} {store : NvStore} {memory : Memory} {buffer : Nat}

theorem NvStore.infos_stored (loaded : memory.Holds buffer (store.encode guids)) :
    headerSizeAt memory buffer sizeofBufferHeader = 4 + store.infos.length * 16 ∧
      memory.Holds (buffer + sizeofBufferHeader + 8) (encodeInfos store.infos) := by
  obtain ⟨_, _, _, headerSize, _, _, _⟩ := NvStore.holds_parts loaded
  refine ⟨headerSize.readLe_eq store.infos_length, ?_⟩
  simp only [NvStore.encode, Memory.holds_append, List.length_append, length_toBytes] at loaded
  obtain ⟨⟨⟨⟨⟨⟨_, infos⟩, _⟩, _⟩, _⟩, _⟩, _⟩ := loaded
  exact infos

theorem DeltaRecord.infos_stored {record : DeltaRecord} {offset : Nat}
    (stored : memory.Holds (buffer + offset) record.encode) :
    headerSizeAt memory buffer offset = 4 + record.infos.length * 16 ∧
      memory.Holds (buffer + offset + 8) (encodeInfos record.infos) := by
  refine ⟨(DeltaRecord.sizes_stored stored).2, ?_⟩
  simp only [DeltaRecord.encode, Memory.holds_append, List.length_append,
    length_toBytes] at stored
  obtain ⟨⟨⟨_, infos⟩, _⟩, _⟩ := stored
  exact infos

theorem NvStore.record_stored (wellFormed : store.WellFormed)
    (loaded : memory.Holds buffer (store.encode guids)) {entry : Nat × DeltaRecord}
    (member : entry ∈ placed (fun record => (DeltaRecord.encode record).length)
      store.recordsOffset store.records) :
    memory.Holds (buffer + entry.1) entry.2.encode := by
  obtain ⟨_, _, _, _, _, _, records⟩ := NvStore.holds_parts loaded
  exact holds_of_mem_placed (records wellFormed.padded) (mem_placed_add buffer member)

/-- DumpAllSkuData goes over the records of the buffer. -/
theorem dumpAllSkuData_stored (wellFormed : store.WellFormed)
    (loaded : memory.Holds buffer (store.encode guids)) {allocateCopyPool : Nat → Bool}
    (allocated : ∀ offset, allocateCopyPool offset = true) (dataPtr dataSize : Nat) :
    dumpAllSkuData guids memory buffer allocateCopyPool dataPtr dataSize =
      some (store.recordStarts.flatMap
        (skuDataLines memory buffer (buffer + store.storeOffset) dataPtr dataSize)) := by
  rw [dumpAllSkuData, getSkuDataFromNvStore_stored wellFormed loaded,
    getVariableStoreHeaderFromNvStore_stored loaded, Option.bind_some]
  cases listed : store.records with
  | nil =>
      rw [NvStore.recordStarts, listed]
      rfl
  | cons record rest =>
      obtain ⟨finish, records⟩ := forEachRecord_stored loaded wellFormed
      have follows : ∀ offset, Reached (recordStep memory buffer) (bufferLength memory buffer)
          store.recordsOffset offset →
            nextRecord memory buffer offset = offset + recordStep memory buffer offset :=
        fun offset _ => nextRecord_eq offset
      have walk := map_fst_whileLoop visit follows (bufferLength memory buffer) []
      rw [records, Option.map_some] at walk
      simp only [foldl_visit, List.nil_append, Option.map_id'] at walk
      have first : store.recordStarts.head? = some store.recordsOffset := by
        rw [NvStore.recordStarts, listed]
        rfl
      simp only [first, Option.map_some, Nat.add_sub_cancel_left, Option.getD_some]
      exact loop_dumpAllSkuDataTurn allocated _ dataPtr dataSize walk.symm []

variable (guids) (store) (memory) (buffer)

/-- What is asked of both functions: each record's pairs in order, and every pair of a record
that overrides a range beside the data that it makes of it. -/
structure ReportsPairs : Prop where
  reported : dumpNvStoreInfos guids memory buffer =
    some (store.infos.map DefaultInfo.pair ::
      store.records.map fun record => record.infos.map DefaultInfo.pair)
  attributed : ∀ allocateCopyPool : Nat → Bool, (∀ offset, allocateCopyPool offset = true) →
    ∀ dataPtr dataSize, ∃ printed,
      dumpAllSkuData guids memory buffer allocateCopyPool dataPtr dataSize = some printed ∧
      ∀ entry ∈ placed (fun record => (DeltaRecord.encode record).length) store.recordsOffset
          store.records,
        let (data, result) := overriddenData memory buffer (buffer + store.storeOffset) dataPtr
          dataSize entry.1
        result = true → ∀ info ∈ entry.2.infos,
          ⟨entry.1, data, DefaultInfo.pair info⟩ ∈ printed

variable {guids} {store} {memory} {buffer}

theorem dumpNvStoreInfos_stored (wellFormed : store.WellFormed)
    (loaded : memory.Holds buffer (store.encode guids)) :
    dumpNvStoreInfos guids memory buffer =
        some (store.infos.map DefaultInfo.pair ::
          store.records.map fun record => record.infos.map DefaultInfo.pair) ↔
      OnePair store.infos ∧ ∀ record ∈ store.records, OnePair record.infos := by
  obtain ⟨signatureRead, _, _, _⟩ := NvStore.offsets_stored loaded
  obtain ⟨headerSize, infos⟩ := NvStore.infos_stored loaded
  have first := dumpDefaultInfos_stored headerSize store.infos_length infos
  have records := map_snd_placed (fun record => (DeltaRecord.encode record).length)
    store.recordsOffset store.records
  simp only [dumpNvStoreInfos, signatureRead, ne_eq, not_true_eq_false, if_false,
    dumpNvStore_stored wellFormed loaded, Option.map_some, Option.some.injEq, List.map_cons,
    List.cons.injEq, first]
  refine and_congr_right fun _ => ?_
  rw [NvStore.recordStarts, map_starts_eq_iff]
  have each : ∀ entry ∈ placed (fun record => (DeltaRecord.encode record).length)
      store.recordsOffset store.records,
      (dumpDefaultInfos memory buffer entry.1 = entry.2.infos.map DefaultInfo.pair ↔
        OnePair entry.2.infos) := by
    intro entry member
    obtain ⟨size, held⟩ :=
      DeltaRecord.infos_stored (NvStore.record_stored wellFormed loaded member)
    exact dumpDefaultInfos_stored size entry.2.infos_length held
  rw [forall₂_congr each]
  exact ⟨fun one record listed => by
    rw [← records, List.mem_map] at listed
    obtain ⟨entry, member, rfl⟩ := listed
    exact one entry member, fun one entry member => one _ (mem_of_mem_placed member)⟩

/-- Both report every pair exactly when no record has two. -/
theorem reportsPairs_iff (wellFormed : store.WellFormed)
    (loaded : memory.Holds buffer (store.encode guids)) :
    ReportsPairs guids store memory buffer ↔
      OnePair store.infos ∧ ∀ record ∈ store.records, OnePair record.infos := by
  constructor
  · intro reports
    exact (dumpNvStoreInfos_stored wellFormed loaded).mp reports.reported
  · intro one
    refine ⟨(dumpNvStoreInfos_stored wellFormed loaded).mpr one, ?_⟩
    intro allocateCopyPool allocated dataPtr dataSize
    refine ⟨_, dumpAllSkuData_stored wellFormed loaded allocated dataPtr dataSize, ?_⟩
    intro entry member overrides info listed
    obtain ⟨_, held⟩ := DeltaRecord.infos_stored (NvStore.record_stored wellFormed loaded member)
    have pair := (one.2 _ (mem_of_mem_placed member)).defaultInfoAt_eq held listed
    rw [← pair]
    refine List.mem_flatMap.mpr ⟨entry.1, List.mem_map_of_mem member, mem_skuDataLines.mpr ?_⟩
    rw [← overriddenData_result]
    exact ⟨overrides, rfl⟩

end Stored

theorem reportsPairs_iff_oneVariable :
    ReportsPairs variableGuids oneVariable
      (Memory.ofBytesAt 0x1000 (oneVariable.encode variableGuids)) 0x1000 :=
  (reportsPairs_iff ⟨by decide, by decide, by decide, by decide, by decide⟩
    (Memory.holds_ofBytesAt 0x1000 (oneVariable.encode variableGuids))).mpr
    ⟨onePair_singleton _, List.forall_mem_singleton.mpr (onePair_singleton _)⟩

/-- The second of the two SKUs is not reported. -/
theorem reportsPairs_twoSkus :
    twoSkus.WellFormed ∧
      dumpNvStoreInfos variableGuids twoSkusMemory 0x1000 = some [[(0, 0)], [(1, 0), (1, 0)]] ∧
      dumpAllSkuData variableGuids twoSkusMemory 0x1000 (fun _ => true) 0x1068 3 =
        some [⟨112, [5, 2, 3], (1, 0)⟩] ∧
      ¬ ReportsPairs variableGuids twoSkus twoSkusMemory 0x1000 := by
  have infos : dumpNvStoreInfos variableGuids twoSkusMemory 0x1000 =
      some [[(0, 0)], [(1, 0), (1, 0)]] := by decide
  refine ⟨⟨by decide, by decide, by decide, by decide, by decide⟩, infos, by decide +kernel, ?_⟩
  intro reports
  have reported := reports.reported
  rw [infos] at reported
  exact absurd reported (by decide)

end AppEfi.PcdDump
