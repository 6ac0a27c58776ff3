import AppEfi.Lib.Stores
import AppEfi.PcdDump.NvStoreLayout
import AppEfi.PcdDump.SkuDelta

/-!
# The SKU delta area as a format

PCD_DATABASE_SKU_DELTA blocks of deltas behind a database, each padded to 8 bytes.
LengthForAllSkus may or may not count the padding of the last one.
-/

set_option autoImplicit false

namespace AppEfi.PcdDump

open AppEfi.BoundedWalk
open AppEfi.LittleEndian
open AppEfi.RecordWalk
open AppEfi.Stores

/-- A PCD_DATABASE_SKU_DELTA with its deltas and its padding. -/
structure SkuDelta where
  skuId : UInt64
  skuIdCompared : UInt64
  deltas : List UInt32
  padding : List UInt8
  length_lt : sizeofSkuDelta + deltas.length * 4 < 2 ^ 32
  padded : sizeofSkuDelta + deltas.length * 4 + padding.length =
    alignValue (sizeofSkuDelta + deltas.length * 4) 8

def SkuDelta.encode (block : SkuDelta) : List UInt8 :=
  toBytes 8 block.skuId.toNat ++ toBytes 8 block.skuIdCompared.toNat ++
    toBytes 4 (sizeofSkuDelta + block.deltas.length * 4) ++
    block.deltas.flatMap (fun delta => toBytes 4 delta.toNat) ++ block.padding

def SkuDelta.dataDeltas (block : SkuDelta) : List PcdDataDelta :=
  block.deltas.map fun delta => pcdDataDelta delta.toNat

/-- The lengths in the header of a database, and the blocks behind it. -/
structure SkuDeltaArea where
  length : UInt32
  lengthForAllSkus : UInt32
  blocks : List SkuDelta

namespace SkuDeltaArea

variable (area : SkuDeltaArea)

def start : Nat := alignValue area.length.toNat 8

def size : Nat := area.start + total (fun block => (SkuDelta.encode block).length) area.blocks

/-- The database at an address has this area. -/
structure Stored (memory : Memory) (pcdDatabaseInit : Nat) : Prop where
  length : databaseLength memory pcdDatabaseInit = area.length.toNat
  lengthForAllSkus :
    PcdDump.lengthForAllSkus memory pcdDatabaseInit = area.lengthForAllSkus.toNat
  blocks : memory.Holds (pcdDatabaseInit + area.start) (area.blocks.flatMap SkuDelta.encode)
  above : area.size < area.lengthForAllSkus.toNat + 8
  below : area.lengthForAllSkus.toNat ≤ area.size

/-- The deltas for a SkuId in order. -/
def deltasFor (skuId : UInt64) : List PcdDataDelta :=
  (area.blocks.filter fun block => block.skuId = skuId).flatMap SkuDelta.dataDeltas

/-- The value of the last delta for a SkuId at an offset of the database. -/
def lastDelta (skuId : UInt64) (offset : Nat) : Option UInt8 :=
  ((area.deltasFor skuId).reverse.find? fun delta => delta.offset = offset).map
    PcdDataDelta.value

end SkuDeltaArea

theorem SkuDelta.length_encode (block : SkuDelta) :
    block.encode.length = alignValue (sizeofSkuDelta + block.deltas.length * 4) 8 := by
  have deltas : (block.deltas.flatMap fun delta => toBytes 4 delta.toNat).length =
      block.deltas.length * 4 := by
    simp [List.length_flatMap, List.map_const']
  rw [← block.padded]
  simp only [SkuDelta.encode, List.length_append, length_toBytes, deltas, sizeofSkuDelta]

theorem SkuDelta.length_encode_bounds (block : SkuDelta) :
    8 ≤ block.encode.length ∧ block.encode.length % 8 = 0 := by
  rw [block.length_encode]
  refine ⟨?_, alignValue_mod _ 8⟩
  have padded := @le_alignValue (sizeofSkuDelta + block.deltas.length * 4) 8 (by decide)
  have fixed : sizeofSkuDelta = 20 := rfl
  omega

section Stored

variable {memory : Memory} {pcdDatabaseInit offset : Nat} {block : SkuDelta}
variable {area : SkuDeltaArea}

/-- The fields that the walks read of a block. -/
theorem SkuDelta.fields_stored (stored : memory.Holds (pcdDatabaseInit + offset) block.encode) :
    skuIdAt memory pcdDatabaseInit offset = block.skuId.toNat ∧
      skuDeltaLength memory pcdDatabaseInit offset = sizeofSkuDelta + block.deltas.length * 4 ∧
      deltasAt memory pcdDatabaseInit offset = block.dataDeltas := by
  simp only [SkuDelta.encode, Memory.holds_append, List.length_append, length_toBytes] at stored
  obtain ⟨⟨⟨⟨skuId, _⟩, length⟩, deltas⟩, _⟩ := stored
  have lengthRead : skuDeltaLength memory pcdDatabaseInit offset =
      sizeofSkuDelta + block.deltas.length * 4 := length.readLe_eq block.length_lt
  refine ⟨skuId.readLe_eq block.skuId.toNat_lt, lengthRead, ?_⟩
  have count : deltaCount memory pcdDatabaseInit offset = block.deltas.length := by
    rw [deltaCount, lengthRead]
    omega
  have bits : readEntries (fun address => UInt32.ofNat (memory.readLe address 4)) 4
      (pcdDatabaseInit + offset + sizeofSkuDelta) block.deltas.length = block.deltas := by
    refine readEntries_of_holds (fun _ => length_toBytes _ _) ?_ block.deltas _ deltas
    intro address delta held
    rw [Memory.Holds.readLe_eq held delta.toNat_lt, UInt32.ofNat_toNat]
  have reads : ∀ address,
      (UInt32.ofNat (memory.readLe address 4)).toNat = memory.readLe address 4 :=
    fun address => UInt32.toNat_ofNat_of_lt' (memory.readLe_lt address 4)
  rw [SkuDelta.dataDeltas, ← bits, deltasAt, count, readEntries, readEntries, List.map_map]
  simp only [Function.comp_def, reads]

theorem SkuDeltaArea.Stored.fields (stored : area.Stored memory pcdDatabaseInit)
    {entry : Nat × SkuDelta}
    (member : entry ∈ placed (fun block => (SkuDelta.encode block).length) area.start
      area.blocks) :
    skuIdAt memory pcdDatabaseInit entry.1 = entry.2.skuId.toNat ∧
      paddedLength memory pcdDatabaseInit entry.1 = entry.2.encode.length ∧
      deltasAt memory pcdDatabaseInit entry.1 = entry.2.dataDeltas := by
  have held := holds_of_mem_placed stored.blocks (mem_placed_add pcdDatabaseInit member)
  obtain ⟨skuId, length, deltas⟩ := SkuDelta.fields_stored held
  exact ⟨skuId, by rw [paddedLength, length, entry.2.length_encode], deltas⟩

/-- The walk comes to the blocks of the area. -/
theorem SkuDeltaArea.Stored.visited_eq (stored : area.Stored memory pcdDatabaseInit)
    {fuel : Nat} (enough : area.blocks.length ≤ fuel) :
    visited (paddedLength memory pcdDatabaseInit)
        (PcdDump.lengthForAllSkus memory pcdDatabaseInit) fuel
        (firstSkuDelta memory pcdDatabaseInit) =
      some (starts (fun block => (SkuDelta.encode block).length) area.start area.blocks) := by
  have first : firstSkuDelta memory pcdDatabaseInit = area.start := by
    rw [firstSkuDelta, stored.length, SkuDeltaArea.start]
  have above := stored.above
  have size : area.size = area.start +
      total (fun block => (SkuDelta.encode block).length) area.blocks := rfl
  rw [first, stored.lengthForAllSkus]
  refine visited_records _ area.blocks ?_ (size ▸ stored.below) enough
  intro entry member
  have within := placed_bounds member
  have bounds := entry.2.length_encode_bounds
  exact ⟨by omega, (stored.fields member).2.1⟩

theorem deltasOf_map_fst {skuId : UInt64} {entries : List (Nat × SkuDelta)}
    (reads : ∀ entry ∈ entries, skuIdAt memory pcdDatabaseInit entry.1 = entry.2.skuId.toNat ∧
      deltasAt memory pcdDatabaseInit entry.1 = entry.2.dataDeltas) :
    deltasOf memory pcdDatabaseInit skuId.toNat (entries.map Prod.fst) =
      ((entries.map Prod.snd).filter fun block => block.skuId = skuId).flatMap
        SkuDelta.dataDeltas := by
  induction entries with
  | nil => rfl
  | cons entry rest ih =>
      rw [List.forall_mem_cons] at reads
      obtain ⟨⟨skuIdRead, deltas⟩, others⟩ := reads
      have later := ih others
      rw [deltasOf] at later ⊢
      by_cases same : entry.2.skuId = skuId
      · simp [skuIdRead, same, deltas, later]
      · simp [skuIdRead, same, UInt64.toNat_inj, later]

/-- The deltas that the walk finds for a SkuId. -/
theorem SkuDeltaArea.Stored.deltasOf_eq (stored : area.Stored memory pcdDatabaseInit)
    (skuId : UInt64) :
    deltasOf memory pcdDatabaseInit skuId.toNat
        (starts (fun block => (SkuDelta.encode block).length) area.start area.blocks) =
      area.deltasFor skuId := by
  rw [starts, deltasOf_map_fst fun entry member =>
    ⟨(stored.fields member).1, (stored.fields member).2.2⟩, map_snd_placed,
    SkuDeltaArea.deltasFor]

end Stored

/-! ## What CopySkuPcdData replaces -/

section Copied

variable {pcdDatabaseInit offset dataSize : Nat} {deltas : List PcdDataDelta}

theorem inData_iff {delta : PcdDataDelta} :
    inData pcdDatabaseInit (pcdDatabaseInit + offset) dataSize delta = true ↔
      offset ≤ delta.offset ∧ delta.offset < offset + dataSize := by
  rw [inData, Bool.and_eq_true, decide_eq_true_iff, decide_eq_true_iff, Nat.add_assoc,
    Nat.add_le_add_iff_left, Nat.add_lt_add_iff_left]

/-- The last store to a byte is that of the last delta at its offset. -/
theorem lastStore_deltas {index : Nat} (inside : index < dataSize) :
    lastStore ((deltas.filter (inData pcdDatabaseInit (pcdDatabaseInit + offset) dataSize)).map
        (deltaStore pcdDatabaseInit (pcdDatabaseInit + offset))) index =
      (deltas.reverse.find? fun delta => delta.offset = offset + index).map
        PcdDataDelta.value := by
  have value : Prod.snd ∘ deltaStore pcdDatabaseInit (pcdDatabaseInit + offset) =
      PcdDataDelta.value := rfl
  rw [lastStore, ← List.map_reverse, ← List.filter_reverse, List.find?_map, List.find?_filter,
    Option.map_map, value]
  congr 2
  funext delta
  rw [decide_eq_decide, inData_iff, Function.comp, decide_eq_true_iff, deltaStore]
  omega

theorem any_inData_iff_find :
    deltas.any (inData pcdDatabaseInit (pcdDatabaseInit + offset) dataSize) = true ↔
      ∃ index < dataSize, ((deltas.reverse.find? fun delta =>
        delta.offset = offset + index).map PcdDataDelta.value).isSome = true := by
  simp only [List.any_eq_true, inData_iff, Option.isSome_map, List.find?_isSome,
    List.mem_reverse, decide_eq_true_iff]
  constructor
  · rintro ⟨delta, listed, low, high⟩
    exact ⟨delta.offset - offset, by omega, delta, listed, by omega⟩
  · rintro ⟨index, inside, delta, listed, place⟩
    exact ⟨delta, listed, by omega, by omega⟩

/-- Without an area there is no block. -/
theorem SkuDeltaArea.Stored.blocks_eq_nil {area : SkuDeltaArea} {memory : Memory}
    (stored : area.Stored memory pcdDatabaseInit)
    (without : PcdDump.lengthForAllSkus memory pcdDatabaseInit ≤
      databaseLength memory pcdDatabaseInit) : area.blocks = [] := by
  cases listed : area.blocks with
  | nil => rfl
  | cons block rest =>
      have above := stored.above
      have bounds := block.length_encode_bounds
      have padded := @le_alignValue area.length.toNat 8 (by decide)
      rw [stored.lengthForAllSkus, stored.length] at without
      rw [SkuDeltaArea.size, SkuDeltaArea.start, listed, total_cons] at above
      omega

end Copied

/-- CopySkuPcdData replaces the bytes that have a delta by the last one, and no others. -/
theorem copySkuPcdData_replaces {area : SkuDeltaArea} {memory : Memory} {pcdDatabaseInit : Nat}
    (stored : area.Stored memory pcdDatabaseInit) (skuId : UInt64) (offset dataSize more : Nat)
    (dataBuffer : Nat → UInt8) :
    ∃ copied, copySkuPcdData memory pcdDatabaseInit (area.blocks.length + more) skuId.toNat
        (pcdDatabaseInit + offset) dataSize = some copied ∧
      (∀ store ∈ copied.stores, store.1 < dataSize) ∧
      (∀ index < dataSize, applyStores dataBuffer copied.stores index =
        (area.lastDelta skuId (offset + index)).getD (dataBuffer index)) ∧
      (copied.result = true ↔
        ∃ index < dataSize, (area.lastDelta skuId (offset + index)).isSome = true) := by
  have copied : copySkuPcdData memory pcdDatabaseInit (area.blocks.length + more) skuId.toNat
      (pcdDatabaseInit + offset) dataSize =
        some ⟨((area.deltasFor skuId).filter (inData pcdDatabaseInit (pcdDatabaseInit + offset)
          dataSize)).map (deltaStore pcdDatabaseInit (pcdDatabaseInit + offset)),
          (area.deltasFor skuId).any (inData pcdDatabaseInit (pcdDatabaseInit + offset)
            dataSize)⟩ := by
    by_cases without :
        lengthForAllSkus memory pcdDatabaseInit ≤ databaseLength memory pcdDatabaseInit
    · rw [copySkuPcdData, if_pos without, SkuDeltaArea.deltasFor, stored.blocks_eq_nil without]
      rfl
    · rw [copySkuPcdData_eq without, stored.visited_eq (Nat.le_add_right _ _), Option.map_some,
        stored.deltasOf_eq]
  refine ⟨_, copied, ?_, ?_, any_inData_iff_find⟩
  · intro store listed
    obtain ⟨delta, member, rfl⟩ := List.mem_map.mp listed
    have inside := inData_iff.mp (List.mem_filter.mp member).2
    rw [deltaStore]
    omega
  · intro index inside
    rw [applyStores_apply, lastStore_deltas inside, SkuDeltaArea.lastDelta]

/-- Two deltas at one offset. -/
def twoDeltas : SkuDeltaArea where
  length := 80
  lengthForAllSkus := 112
  blocks := [{ skuId := 1
               skuIdCompared := 0
               deltas := [0x05000048, 0x07000048]
               padding := [0, 0, 0, 0]
               length_lt := by decide
               padded := by decide }]

def twoDeltasMemory : Memory := Memory.ofBytesAt 0x1000
  (List.replicate 20 0 ++ toBytes 4 80 ++ List.replicate 8 0 ++ toBytes 4 112 ++
    List.replicate 44 0 ++ twoDeltas.blocks.flatMap SkuDelta.encode)

theorem twoDeltas_stored : twoDeltas.Stored twoDeltasMemory 0x1000 where
  length := by decide
  lengthForAllSkus := by decide
  blocks := by
    have held := Memory.holds_ofBytesAt 0x1000
      (List.replicate 20 0 ++ toBytes 4 80 ++ List.replicate 8 0 ++ toBytes 4 112 ++
        List.replicate 44 0 ++ twoDeltas.blocks.flatMap SkuDelta.encode)
    exact ((Memory.holds_append ..).mp held).2
  above := by decide
  below := by decide

theorem copySkuPcdData_replaces_twoDeltas :
    ∃ copied, copySkuPcdData twoDeltasMemory 0x1000 1 1 0x1048 4 = some copied ∧
      (∀ store ∈ copied.stores, store.1 < 4) ∧
      applyStores (fun _ => 0) copied.stores 0 = 7 ∧
      applyStores (fun _ => 0) copied.stores 1 = 0 ∧ copied.result = true := by
  obtain ⟨copied, run, inside, replaced, result⟩ :=
    copySkuPcdData_replaces twoDeltas_stored 1 0x48 4 0 fun _ => 0
  exact ⟨copied, run, inside, (replaced 0 (by decide)).trans (by decide),
    (replaced 1 (by decide)).trans (by decide), result.mpr ⟨0, by decide, by decide⟩⟩

end AppEfi.PcdDump
