import AppEfi.PeiCore.PeiCoreDumpApp

/-!
# The walkers on the HOB that was built

A layout of records in a buffer that may be longer: what the walkers find in it, and
what they find in the data of the HOB of `BuildPeiCoreDatabase`, wherever the later
phase has it.
-/

set_option autoImplicit false

namespace AppEfi.PeiCore

open AppEfi.LittleEndian
open AppEfi.RecordWalk
open AppEfi.SmmCore (Uintn ImageRecord ImageStruct hasSignature readGuid walkDatabase
  sizeofImageRecord)

/-! ## Walks over a layout -/

section Layout

variable {memory : Memory} {database size fuel : Nat} {records : List DatabaseRecord}

def recordsLength (records : List DatabaseRecord) : Nat :=
  total (fun record => record.encode.length) records

def recordStarts (database : Nat) (records : List DatabaseRecord) : List Nat :=
  starts (fun record : DatabaseRecord => record.encode.length) database records

theorem follows_of_holds (held : memory.Holds database (records.flatMap DatabaseRecord.encode))
    (short : ∀ record ∈ records, record.size < 2 ^ 32)
    {entry : Nat × DatabaseRecord}
    (member : entry ∈ placed (fun record => record.encode.length) database records) :
    entry.1 < database + recordsLength records ∧
      entry.1 + memory.readLe (entry.1 + 4) 4 = entry.1 + entry.2.encode.length := by
  have bounds := placed_bounds member
  have positive := entry.2.size_pos
  have length := (DatabaseRecord.holds_header (holds_of_mem_placed held member)).2.readLe_eq
    (short entry.2 (mem_of_mem_placed member))
  rw [entry.2.length_encode] at bounds
  constructor
  · unfold recordsLength
    omega
  · rw [length, entry.2.length_encode]

/-- A buffer that ends with the records: every record is visited, then the walk stops. -/
theorem dumpPeiLoadedImage_of_holds
    (held : memory.Holds database (records.flatMap DatabaseRecord.encode))
    (short : ∀ record ∈ records, record.size < 2 ^ 32) (enough : records.length ≤ fuel) :
    dumpPeiLoadedImage memory database (recordsLength records) fuel =
      some ((recordStarts database records, records.flatMap DatabaseRecord.imageLines),
        database + recordsLength records) := by
  rw [dumpPeiLoadedImage, walkDatabase,
    whileLoop_records _ _ _ (fun record => record.encode.length) records]
  · rw [foldl_visit_prod (fun printed position => printed ++
        if hasSignature memory imageSignature position then
          if readGuid memory (position + 12) ≠ zeroGuid then [printImage memory position]
          else []
        else []),
      foldl_starts _ _ (fun printed record => printed ++ record.imageLines),
      ← List.flatMap_eq_foldl, List.nil_append]
    · rfl
    · intro entry member printed
      have there := holds_of_mem_placed held member
      rw [hasSignature_of_holds there]
      cases kind : entry.2 with
      | image record =>
          rw [kind] at there
          obtain ⟨guidRead, imageRead⟩ := printImage_of_holds there
          rw [guidRead, imageRead]
          rfl
      | ppi record => rfl
      | memoryInfo record => rfl
  · intro entry member
    obtain ⟨inside, follows⟩ := follows_of_holds held short member
    exact ⟨decide_eq_true inside, follows⟩
  · exact decide_eq_false (Nat.lt_irrefl _)
  · exact enough

/-- A search stops at the first record of its kind, whatever is behind it. -/
theorem findRecord_of_holds {before : List DatabaseRecord} {target : DatabaseRecord}
    {signature : Nat}
    (held : memory.Holds database ((before ++ [target]).flatMap DatabaseRecord.encode))
    (short : ∀ record ∈ before ++ [target], record.size < 2 ^ 32)
    (others : ∀ record ∈ before, record.signature ≠ signature)
    (same : target.signature = signature)
    (inside : database + recordsLength (before ++ [target]) ≤ database + size)
    (enough : before.length ≤ fuel) :
    findRecord memory signature database size fuel =
      some (recordStarts database (before ++ [target]),
        some (database + recordsLength before)) := by
  have positive : 0 < target.encode.length := by
    rw [target.length_encode]
    exact target.size_pos
  have lengths : recordsLength (before ++ [target]) =
      recordsLength before + target.encode.length := by
    rw [recordsLength, total_append, total_cons, total_nil, Nat.add_zero]
    rfl
  rw [List.flatMap_append, List.flatMap_singleton, Memory.holds_append,
    length_flatMap_encode] at held
  have targetSignature := hasSignature_of_holds held.2 signature
  rw [decide_eq_true same] at targetSignature
  rw [findRecord, whileLoop_records _ _ _ (fun record => record.encode.length) before]
  · rw [foldl_visit, Option.map_some, List.nil_append]
    have reached : database + recordsLength before < database + size := by omega
    have extended : visit (recordStarts database before) (database + recordsLength before) =
        recordStarts database (before ++ [target]) := by
      rw [recordStarts, recordStarts, starts_append]
      rfl
    rw [← recordsLength, if_pos reached, ← recordStarts, extended]
  · intro entry member
    obtain ⟨early, follows⟩ := follows_of_holds held.1
      (fun record member => short record (List.mem_append_left _ member)) member
    have other := others entry.2 (mem_of_mem_placed member)
    refine ⟨?_, follows⟩
    rw [hasSignature_of_holds (holds_of_mem_placed held.1 member), decide_eq_false other,
      Bool.not_false, Bool.and_true]
    exact decide_eq_true (by omega)
  · have stopped : hasSignature memory signature (database + recordsLength before) = true :=
      targetSignature
    rw [← recordsLength, stopped, Bool.not_true, Bool.and_false]
  · exact enough

theorem dumpPpiDatabase_of_holds {before : List DatabaseRecord} {record : PpiRecord}
    (held : memory.Holds database
      ((before ++ [DatabaseRecord.ppi record]).flatMap DatabaseRecord.encode))
    (short : ∀ other ∈ before ++ [DatabaseRecord.ppi record], other.size < 2 ^ 32)
    (others : ∀ other ∈ before, other.signature ≠ ppiSignature)
    (inside : recordsLength (before ++ [DatabaseRecord.ppi record]) ≤ size) :
    dumpPpiDatabase memory database size before.length =
      some (recordStarts database (before ++ [DatabaseRecord.ppi record]),
        some record.printed) := by
  have found := findRecord_of_holds held short others rfl (Nat.add_le_add_left inside _)
    (Nat.le_refl _)
  rw [List.flatMap_append, List.flatMap_singleton, Memory.holds_append,
    length_flatMap_encode] at held
  have printed := printPpiDatabase_of_holds
    (short (DatabaseRecord.ppi record) (by simp)) held.2
  rw [dumpPpiDatabase, found, Option.map_some, Option.map_some, recordsLength, printed]

theorem dumpMemoryInfo_of_holds {before : List DatabaseRecord} {record : MemoryInfoRecord}
    (held : memory.Holds database
      ((before ++ [DatabaseRecord.memoryInfo record]).flatMap DatabaseRecord.encode))
    (short : ∀ other ∈ before ++ [DatabaseRecord.memoryInfo record], other.size < 2 ^ 32)
    (others : ∀ other ∈ before, other.signature ≠ memoryInfoSignature)
    (inside : recordsLength (before ++ [DatabaseRecord.memoryInfo record]) ≤ size) :
    dumpMemoryInfo memory database size before.length =
      some (recordStarts database (before ++ [DatabaseRecord.memoryInfo record]),
        some record) := by
  have found := findRecord_of_holds held short others rfl (Nat.add_le_add_left inside _)
    (Nat.le_refl _)
  rw [List.flatMap_append, List.flatMap_singleton, Memory.holds_append,
    length_flatMap_encode] at held
  have printed := printMemoryInfo_of_holds held.2
  rw [dumpMemoryInfo, found, Option.map_some, Option.map_some, recordsLength, printed]

/-- Behind the records the walk goes on: its end is never theirs. -/
theorem dumpPeiLoadedImage_ne_of_padding {padding : Nat} (padded : 0 < padding)
    {found : List Nat × List PrintedImage} {stop : Nat}
    (walked : dumpPeiLoadedImage memory database (recordsLength records + padding) fuel =
      some (found, stop)) :
    stop ≠ database + recordsLength records := by
  intro same
  have ended := whileLoop_stops _ _ _ fuel _ _ _ walked
  rw [same] at ended
  have beyond := of_decide_eq_false ended
  omega

end Layout

/-! ## The database in the HOB -/

section Built

variable {width : Nat} (services : PeiServices width) (privateData : CoreInstance width)

def writtenImages : List (ImageRecord 8) :=
  buildImageDatabaseData privateData (dumpImageData services privateData)

def writtenPpi : PpiRecord :=
  buildPpiDatabaseData services privateData (dumpImageData services privateData)

def writtenRecords : List DatabaseRecord :=
  (writtenImages services privateData).map DatabaseRecord.image ++
    [.ppi (writtenPpi services privateData), .memoryInfo (buildMemoryInfoData privateData)]

theorem encode_writtenRecords :
    (writtenRecords services privateData).flatMap DatabaseRecord.encode =
      (writtenImages services privateData).flatMap encodeImageRecord ++
        (writtenPpi services privateData).encode ++
          (buildMemoryInfoData privateData).encode := by
  rw [writtenRecords, List.flatMap_append, List.flatMap_map, List.append_assoc]
  congr 1

theorem recordsLength_written :
    sizeofHobGuidType + recordsLength (writtenRecords services privateData) =
      databaseSize privateData := by
  rw [recordsLength, ← length_flatMap_encode, encode_writtenRecords, List.length_append,
    List.length_append, writtenImages, writtenPpi, length_imageBytes, length_ppiBytes,
    MemoryInfoRecord.length_encode, databaseSize]
  omega

/-- The three fill passes write one run of records behind the HOB header. -/
theorem holds_buildPeiCoreDatabase (wide : 2 ≤ width)
    (fits : databaseSize privateData < 2 ^ 16) {service : HobService} {memory after : Memory}
    {hob : Nat}
    (built : buildPeiCoreDatabase services privateData service memory = some (hob, after)) :
    after.Holds (hob + sizeofHobGuidType)
        ((writtenRecords services privateData).flatMap DatabaseRecord.encode) ∧
      after.readLe (hob + 2) 2 = alignValue (databaseSize privateData) 8 := by
  obtain ⟨imageSize, ppiSize, requested⟩ := sizes_of_lt privateData wide fits
  unfold buildPeiCoreDatabase at built
  obtain ⟨⟨found, fresh⟩, created, result⟩ := Option.map_eq_some_iff.mp built
  obtain ⟨rfl, rfl⟩ := Prod.mk.inj result
  have length := service.created _ _ _ _ created
  rw [requested] at length
  have second : found + (sizeofHobGuidType + imageDatabaseSize privateData) =
      found + sizeofHobGuidType + ((writtenImages services privateData).flatMap
        encodeImageRecord).length := by
    rw [writtenImages, length_imageBytes, imageSize, Nat.add_assoc]
  have third : found + (sizeofHobGuidType + imageDatabaseSize privateData +
        ppiDatabaseSize privateData) =
      found + sizeofHobGuidType + ((writtenImages services privateData).flatMap
        encodeImageRecord ++ (writtenPpi services privateData).encode).length := by
    rw [List.length_append, writtenImages, writtenPpi, length_imageBytes, length_ppiBytes,
      imageSize, ppiSize, Nat.add_assoc, Nat.add_assoc]
  have stores : (databaseWrites services privateData).foldl
      (fun memory store => memory.write (found + store.1) store.2) fresh =
      (fresh.write (found + 8) peiCoreDumpGuid.val).write (found + sizeofHobGuidType)
        ((writtenRecords services privateData).flatMap DatabaseRecord.encode) := by
    rw [encode_writtenRecords, Memory.write_append, Memory.write_append, ← third, ← second]
    rfl
  rw [stores]
  constructor
  · exact Memory.holds_write _ _ _
  · have aside : found + 2 + 2 ≤ found + sizeofHobGuidType := by
      unfold sizeofHobGuidType
      omega
    rw [Memory.readLe_write_of_disjoint _ _ _ _ _ (Or.inl aside),
      Memory.readLe_write_of_disjoint _ _ _ _ _ (Or.inl (by omega)), length]

/-- What the walkers are to find at `database`: every record written in order, and
nothing behind the last. -/
structure WalksWritten (app : Memory) (database size : Nat) : Prop where
  images : ∃ fuel, dumpPeiLoadedImage app database size fuel =
    some ((recordStarts database (writtenRecords services privateData),
      (writtenRecords services privateData).flatMap DatabaseRecord.imageLines),
      database + recordsLength (writtenRecords services privateData))
  ppis : ∃ fuel, dumpPpiDatabase app database size fuel =
    some (recordStarts database ((writtenImages services privateData).map DatabaseRecord.image ++
      [.ppi (writtenPpi services privateData)]),
      some (PpiRecord.printed (writtenPpi services privateData)))
  memoryInfo : ∃ fuel, dumpMemoryInfo app database size fuel =
    some (recordStarts database (writtenRecords services privateData),
      some (buildMemoryInfoData privateData))

theorem size_writtenRecords (fits : databaseSize privateData < 2 ^ 16) :
    ∀ record ∈ writtenRecords services privateData, record.size < 2 ^ 32 := by
  intro record member
  obtain ⟨before, behind, split⟩ := List.append_of_mem member
  have length := recordsLength_written services privateData
  rw [split, recordsLength, total_append, total_cons, record.length_encode] at length
  omega

theorem signature_writtenImages {record : DatabaseRecord}
    (member : record ∈ (writtenImages services privateData).map DatabaseRecord.image) :
    record.signature = imageSignature := by
  obtain ⟨image, -, rfl⟩ := List.mem_map.mp member
  rfl

variable {services privateData}

theorem writtenRecords_split :
    writtenRecords services privateData =
      ((writtenImages services privateData).map DatabaseRecord.image ++
        [DatabaseRecord.ppi (writtenPpi services privateData)]) ++
          [DatabaseRecord.memoryInfo (buildMemoryInfoData privateData)] := by
  rw [List.append_assoc]
  rfl

theorem dumpPpiDatabase_written {app : Memory} {database size : Nat}
    (held : app.Holds database
      ((writtenRecords services privateData).flatMap DatabaseRecord.encode))
    (fits : databaseSize privateData < 2 ^ 16)
    (inside : recordsLength (writtenRecords services privateData) ≤ size) :
    ∃ fuel, dumpPpiDatabase app database size fuel =
      some (recordStarts database ((writtenImages services privateData).map
        DatabaseRecord.image ++ [.ppi (writtenPpi services privateData)]),
        some (PpiRecord.printed (writtenPpi services privateData))) := by
  have short := size_writtenRecords services privateData fits
  rw [writtenRecords_split] at held short inside
  rw [List.flatMap_append, Memory.holds_append] at held
  rw [recordsLength, total_append] at inside
  refine ⟨_, dumpPpiDatabase_of_holds held.1 ?_ ?_ (Nat.le_of_add_right_le inside)⟩
  · intro record member
    exact short record (List.mem_append_left _ member)
  · intro record member
    rw [signature_writtenImages services privateData member]
    decide

theorem dumpMemoryInfo_written {app : Memory} {database size : Nat}
    (held : app.Holds database
      ((writtenRecords services privateData).flatMap DatabaseRecord.encode))
    (fits : databaseSize privateData < 2 ^ 16)
    (inside : recordsLength (writtenRecords services privateData) ≤ size) :
    ∃ fuel, dumpMemoryInfo app database size fuel =
      some (recordStarts database (writtenRecords services privateData),
        some (buildMemoryInfoData privateData)) := by
  have short := size_writtenRecords services privateData fits
  rw [writtenRecords_split] at held short inside ⊢
  refine ⟨_, dumpMemoryInfo_of_holds held short ?_ inside⟩
  intro record member
  rcases List.mem_append.mp member with image | ppi
  · rw [signature_writtenImages services privateData image]
    decide
  · rw [List.mem_singleton.mp ppi]
    exact (by decide : ppiSignature ≠ memoryInfoSignature)

/-- Every record but that of an image has a length that is a multiple of 8 with its
neighbours; an image record is 4 bytes off. -/
theorem databaseSize_mod (privateData : CoreInstance width) :
    databaseSize privateData % 8 = 4 * (calcTotalPeimCount privateData % 2) := by
  have imageSize : sizeofImageRecord 8 = 132 := rfl
  unfold databaseSize sizeofHobGuidType sizeofPpiRecord sizeofPpiStruct sizeofMemoryInfoRecord
  rw [imageSize]
  omega

theorem data_of_kept {after app : Memory} {hob base : Nat}
    (kept : app.bytesAt base (after.readLe (hob + 2) 2) =
      after.bytesAt hob (after.readLe (hob + 2) 2))
    (proper : sizeofHobGuidType ≤ after.readLe (hob + 2) 2) :
    getGuidHobDataSize app base = after.readLe (hob + 2) 2 - sizeofHobGuidType := by
  have field := Memory.holds_readLe after (hob + 2) 2
  have bits := after.readLe_lt (hob + 2) 2
  have room : 2 + 2 ≤ after.readLe (hob + 2) 2 := Nat.le_trans (by decide) proper
  have found : app.readLe (base + 2) 2 = after.readLe (hob + 2) 2 :=
    (Memory.holds_of_bytesAt_eq kept (by rwa [length_toBytes]) field).readLe_eq bits
  rw [getGuidHobDataSize, found]
  unfold sizeofHobGuidType at proper ⊢
  omega

/-- Wherever the HOB is found, the walkers find the written records and stop behind the
last exactly when the number of PEIMs is even: then the HOB has no padding. -/
theorem peiCoreDumpApp_walksWritten_iff (services : PeiServices width)
    (privateData : CoreInstance width) (wide : 2 ≤ width)
    (fits : databaseSize privateData < 2 ^ 16) (service : HobService) {memory after : Memory}
    {hob : Nat}
    (built : buildPeiCoreDatabase services privateData service memory = some (hob, after))
    {app : Memory} {base : Nat}
    (kept : app.bytesAt base (after.readLe (hob + 2) 2) =
      after.bytesAt hob (after.readLe (hob + 2) 2)) :
    WalksWritten services privateData app (base + sizeofHobGuidType)
        (getGuidHobDataSize app base) ↔
      calcTotalPeimCount privateData % 2 = 0 := by
  obtain ⟨written, hobLength⟩ := holds_buildPeiCoreDatabase services privateData wide fits built
  have records := recordsLength_written services privateData
  have aligned := alignValue_mod (databaseSize privateData) 8
  have room : databaseSize privateData ≤ alignValue (databaseSize privateData) 8 :=
    le_alignValue (Nat.succ_pos 7)
  have remainder := databaseSize_mod privateData
  have dataSize := data_of_kept kept (by rw [hobLength]; omega)
  rw [hobLength] at dataSize kept
  constructor
  · intro walks
    by_contra odd
    obtain ⟨fuel, walked⟩ := walks.images
    have longer : getGuidHobDataSize app base =
        recordsLength (writtenRecords services privateData) +
          (alignValue (databaseSize privateData) 8 - databaseSize privateData) := by
      omega
    rw [longer] at walked
    exact dumpPeiLoadedImage_ne_of_padding (by omega) walked rfl
  · intro even
    rw [even, Nat.mul_zero] at remainder
    have exact8 : alignValue (databaseSize privateData) 8 = databaseSize privateData :=
      alignValue_of_mod remainder (Nat.succ_pos 7)
    have size : getGuidHobDataSize app base =
        recordsLength (writtenRecords services privateData) := by
      omega
    have held : app.Holds (base + sizeofHobGuidType)
        ((writtenRecords services privateData).flatMap DatabaseRecord.encode) := by
      apply Memory.holds_of_bytesAt_eq kept _ written
      rw [length_flatMap_encode, ← recordsLength, records, exact8]
    rw [size]
    constructor
    · exact ⟨_, dumpPeiLoadedImage_of_holds held
        (size_writtenRecords services privateData fits) (Nat.le_refl _)⟩
    · exact dumpPpiDatabase_written held fits (Nat.le_refl _)
    · exact dumpMemoryInfo_written held fits (Nat.le_refl _)

end Built

/-! ## Two PEIMs and one -/

theorem peiCoreDumpApp_walksWritten_iff_twoPeims :
    ∃ after,
      buildPeiCoreDatabase sampleServices (instanceWith 2) (hobServiceAt 0x1000) (fun _ => 0) =
        some (0x1000, after) ∧
      WalksWritten sampleServices (instanceWith 2) after (0x1000 + sizeofHobGuidType)
        (getGuidHobDataSize after 0x1000) := by
  refine ⟨_, rfl, ?_⟩
  exact (peiCoreDumpApp_walksWritten_iff sampleServices (instanceWith 2) (by decide)
    (by rw [databaseSize_instanceWith]; decide) (hobServiceAt 0x1000) rfl rfl).mpr rfl

/-- Zero but for the end of the HOB list, behind a HOB of 312 bytes at 0x1000. -/
def hobListEnd : Memory :=
  Memory.write (fun _ => 0) 0x1138 (toBytes 2 0xFFFF ++ toBytes 2 8 ++ toBytes 4 0)

/-- One PEIM: the walk of the images takes the 4 bytes of padding at 0x1134 for a record,
and the header of the next HOB for its length. -/
theorem peiCoreDumpApp_walksPadding :
    ∃ after,
      buildPeiCoreDatabase sampleServices (instanceWith 1) (hobServiceAt 0x1000) hobListEnd =
        some (0x1000, after) ∧
      recordStarts 0x1018 (writtenRecords sampleServices (instanceWith 1)) =
        [0x1018, 0x109C, 0x1110] ∧
      (dumpPeiLoadedImage after 0x1018 (getGuidHobDataSize after 0x1000) 10).map
          (fun walked => (walked.1.1, walked.2)) =
        some ([0x1018, 0x109C, 0x1110, 0x1134], 0x91133) ∧
      ¬ WalksWritten sampleServices (instanceWith 1) after 0x1018
        (getGuidHobDataSize after 0x1000) := by
  refine ⟨_, rfl, by decide +kernel, by decide +kernel, ?_⟩
  have records := recordsLength_written sampleServices (instanceWith 1)
  rw [databaseSize_instanceWith] at records
  have longer : 288 = recordsLength (writtenRecords sampleServices (instanceWith 1)) + 4 := by
    unfold sizeofHobGuidType at records
    omega
  have unfound : ∀ app size, size = 288 →
      ¬ WalksWritten sampleServices (instanceWith 1) app 0x1018 size := by
    intro app size sizeEq walks
    obtain ⟨fuel, walked⟩ := walks.images
    rw [sizeEq, longer] at walked
    exact dumpPeiLoadedImage_ne_of_padding (Nat.succ_pos 3) walked rfl
  exact unfound _ _ (by decide +kernel)

end AppEfi.PeiCore
