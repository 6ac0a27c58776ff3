import AppEfi.Vtd.DumpExceptionRecord
import AppEfi.Vtd.DumpSecondLevelPagingEntry
import AppEfi.Vtd.ExistInRmrr
import AppEfi.Vtd.ParsedEngines

/-!
# The verdict of VtdDump

`VtdDumpEntrypoint` collects the mappings, the engines, the reserved regions and the exceptions,
walks the tables of every engine and prints PASS or FAIL.  Two pointers may still be NULL when
they are used: gMaps and mVtdUnitInformation.
-/

set_option autoImplicit false

namespace AppEfi.Vtd

open RecordWalk
open Runs

/-- `R_RTADDR_REG`. -/
def rtaddrReg : Nat := 0x20

section Translation

variable (memory : Memory)

def rtaddr (engine : Engine) : UInt64 := readU64 memory (engine.registerBaseAddress + rtaddrReg)

/-- `Address & ~0xFFF`. -/
def rootEntryTableAddress (engine : Engine) : Nat :=
  (rtaddr memory engine &&& ~~~0xFFF).toNat

/-- `(Address & BIT11) != 0`. -/
def usesExtRootEntry (engine : Engine) : Bool := rtaddr memory engine &&& 0x800 != 0

/-- The calls of `DumpSecondLevelPagingEntry` for an engine. -/
def engineCalls (engine : Engine) : List (PciLocation × Nat) :=
  let segment := engine.segmentNumber.toNat
  let root := rootEntryTableAddress memory engine
  secondLevelCalls
    (if usesExtRootEntry memory engine then dumpDmarExtContextEntryTable memory segment root
    else dumpDmarContextEntryTable memory segment root)

def dumpEngine (records : DmaRecords) (engine : Engine) (state : CheckState) : CheckState :=
  (engineCalls memory engine).foldl
    (fun state call => dumpSecondLevelPagingEntry memory records call.1 call.2 state) state

def dumpVtdTranslation (records : DmaRecords) (units : VtdUnits) (mVtdUnitNumber : Nat)
    (state : CheckState) : CheckState :=
  (List.range mVtdUnitNumber).foldl
    (fun state index => dumpEngine memory records (units index).engine state) state

/-- `CheckPtEntry` comes to `ExistInIoMmuMap`, for a large entry with its first page. -/
def asksIoMmuMap (records : DmaRecords) (location : PciLocation) (ptEntry : PtEntry) : Bool :=
  ptEntry.present && !existInExceptionList records location &&
    !existInRmrr records location ptEntry.address

def engineAsksIoMmuMap (records : DmaRecords) (engine : Engine) : Bool :=
  (engineCalls memory engine).any fun call =>
    (leafChecks (dumpLvl4 memory call.2)).any fun check =>
      asksIoMmuMap records call.1 check.2.1

end Translation

/-- What `DumpIoMmuMap` makes of gMaps. -/
inductive IoMmuMaps where
  /-- No protocol, or no buffer or mapping from it: gMaps stays NULL. -/
  | notMapped
  /-- No entry of the list has another signature: `DumpIoMmuMapList` goes through NULL. -/
  | noHead
  | located (maps : List MapInfo)

/-- What the application finds.  The registers of the engines are in the memory. -/
structure Platform where
  config : Memory
  memory : Memory
  /-- What GetDmarAcpiTable finds. -/
  mAcpiDmarTable : Option Nat
  ioMmuMaps : IoMmuMaps
  /-- DeviceInfoCount and DeviceInfo, if the platform has a policy. -/
  exceptionDeviceList : Option (Nat × Nat)
  /-- The allocation of mVtdUnitInformation, and those in RegisterPciDevice, ProcessRmrr and
  DumpExceptionRecord. -/
  allocatesUnits : Bool
  allocatesPciData : Nat → Bool
  allocatesRmrr : Nat → Bool
  allocatesException : Nat → Bool

/-- The variables behind DumpVtdAcpi; mVtdUnitInformation may be NULL. -/
structure VtdAcpi where
  mVtdUnitNumber : Nat
  mVtdUnitInformation : Option VtdUnits
  gRmrrRecord : List RmrrRecord

def dumpVtdAcpi (fuel : Nat) (platform : Platform) : Option VtdAcpi :=
  match platform.mAcpiDmarTable with
  | none => some ⟨0, none, []⟩
  | some table => do
      let mVtdUnitNumber ← getVtdEngineNumber platform.memory
        (table + tableLength platform.memory table) fuel (table + sizeofDmarHeader)
      let drhd ← parseDmarAcpiTableDrhd platform.config platform.memory platform.allocatesPciData
        platform.allocatesUnits fuel table
      let rmrr ← parseDmarAcpiTableRmrr platform.config platform.memory platform.allocatesRmrr
        fuel table ⟨[], 0⟩
      let allocated := decide (mVtdUnitNumber ≠ 0) && platform.allocatesUnits
      some ⟨mVtdUnitNumber, if allocated then some drhd.1.units else none, rmrr.1.records⟩

def exceptionRecords (platform : Platform) (units : VtdUnits) (mVtdUnitNumber : Nat) :
    List ExceptionRecord :=
  match platform.exceptionDeviceList with
  | none => []
  | some (deviceInfoCount, deviceInfo) =>
      (dumpExceptionRecord platform.allocatesException platform.memory units mVtdUnitNumber
        deviceInfoCount deviceInfo ⟨[], 0⟩).records

/-- How a run ends. -/
inductive Verdict where
  /-- A read through NULL. -/
  | nullPointer
  /-- "Check FAIL!!!" is printed if the error flag is set, and "Check PASS!!!" if not. -/
  | checked (state : CheckState)

/-- `DumpVtdTranslation` with gMaps as it is. -/
def checkTranslation (platform : Platform) (gMaps : Option (List MapInfo)) (units : VtdUnits)
    (mVtdUnitNumber : Nat) (gRmrrRecord : List RmrrRecord) : Verdict :=
  let exceptions := exceptionRecords platform units mVtdUnitNumber
  let records : DmaRecords := ⟨exceptions, gRmrrRecord, gMaps.getD []⟩
  if gMaps.isNone && (List.range mVtdUnitNumber).any fun index =>
      engineAsksIoMmuMap platform.memory records (units index).engine then .nullPointer
  else .checked (dumpVtdTranslation platform.memory records units mVtdUnitNumber ⟨false, []⟩)

/-- Behind DumpIoMmuMap.  Engines of which there is no information are looked for at NULL. -/
def checkAcpi (platform : Platform) (gMaps : Option (List MapInfo)) (acpi : VtdAcpi) : Verdict :=
  match acpi.mVtdUnitInformation with
  | none => if acpi.mVtdUnitNumber = 0 then .checked ⟨false, []⟩ else .nullPointer
  | some units => checkTranslation platform gMaps units acpi.mVtdUnitNumber acpi.gRmrrRecord

def vtdDumpEntrypoint (fuel : Nat) (platform : Platform) : Option Verdict :=
  match platform.ioMmuMaps with
  | .noHead => some .nullPointer
  | .notMapped => (dumpVtdAcpi fuel platform).map (checkAcpi platform none)
  | .located maps => (dumpVtdAcpi fuel platform).map (checkAcpi platform (some maps))

/-! ## What is checked -/

section Pages

variable (memory : Memory)

/-- An entry of a table that the walk does not pass over. -/
def EntryOf (table : Nat) (ptEntry : PtEntry) : Prop :=
  ptEntry.uint64 ≠ 0 ∧ ∃ index < ptEntryNumber, ptEntryAt memory (table + index * 8) = ptEntry

/-- The 4KB entries behind a level 4 table. -/
def PageOf (lvl4Table : Nat) (page : PtEntry) : Prop :=
  ∃ lvl4PtEntry lvl3PtEntry lvl2PtEntry,
    EntryOf memory lvl4Table lvl4PtEntry ∧
    EntryOf memory lvl4PtEntry.address.toNat lvl3PtEntry ∧
    EntryOf memory lvl3PtEntry.address.toNat lvl2PtEntry ∧
    lvl2PtEntry.pageSize = false ∧
    EntryOf memory lvl2PtEntry.address.toNat page

/-- The level 4 tables that are walked for an engine.  Of extended tables those of devices 16 to
31 are not. -/
def TableFor (engine : Engine) (location : PciLocation) (lvl4Table : Nat) : Prop :=
  ∃ bus < vtdRootEntryNumber, ∃ devfn < vtdContextEntryNumber,
    location = deviceLocation engine.segmentNumber.toNat bus devfn ∧
      if usesExtRootEntry memory engine then
        devfn < vtdContextEntryNumber / 2 ∧
          extendedAssignment memory (rootEntryTableAddress memory engine) bus devfn =
            some lvl4Table
      else
        legacyAssignment memory (rootEntryTableAddress memory engine) bus devfn = some lvl4Table

end Pages

section Verdict

variable {memory : Memory}

/-- A walk that checks a page. -/
def Checks (items : List WalkItem) (page : PtEntry) : Prop :=
  ∃ pointer, .checkPtEntry pointer page size4Kb ∈ items

theorem checks_dumpTable {level table : Nat} {body : Nat → PtEntry → List WalkItem}
    {page : PtEntry} {follows : PtEntry → Prop}
    (checks : ∀ pointer ptEntry, Checks (body pointer ptEntry) page ↔ follows ptEntry) :
    Checks (dumpTable memory level body table) page ↔
      ∃ ptEntry, EntryOf memory table ptEntry ∧ follows ptEntry := by
  constructor
  · rintro ⟨pointer, listed⟩
    rw [dumpTable, List.mem_cons] at listed
    rcases listed with title | listed
    · cases title
    obtain ⟨index, bound, listed⟩ := List.mem_flatMap.mp listed
    dsimp only at listed
    split at listed
    · cases listed
    · next used =>
        rcases List.mem_cons.mp listed with entry | listed
        · cases entry
        have own := (checks _ _).mp ⟨pointer, listed⟩
        exact ⟨_, ⟨used, index, List.mem_range.mp bound, rfl⟩, own⟩
  · rintro ⟨_, ⟨used, index, bound, rfl⟩, own⟩
    obtain ⟨pointer, listed⟩ := (checks (table + index * 8) _).mpr own
    refine ⟨pointer, List.mem_cons_of_mem _ ?_⟩
    refine List.mem_flatMap.mpr ⟨index, List.mem_range.mpr bound, ?_⟩
    dsimp only
    rw [if_neg used]
    exact List.mem_cons_of_mem _ listed

theorem checks_dumpLvl1 {table : Nat} {page : PtEntry} :
    Checks (dumpLvl1 memory table) page ↔ EntryOf memory table page := by
  have own (pointer : Nat) (ptEntry : PtEntry) :
      Checks [.checkPtEntry pointer ptEntry size4Kb] page ↔ page = ptEntry := by
    simp [Checks]
  rw [dumpLvl1, checks_dumpTable own, exists_eq_right']

theorem checks_dumpLvl2 {table : Nat} {page : PtEntry} :
    Checks (dumpLvl2 memory table) page ↔ ∃ lvl2PtEntry, EntryOf memory table lvl2PtEntry ∧
      lvl2PtEntry.pageSize = false ∧ EntryOf memory lvl2PtEntry.address.toNat page := by
  refine checks_dumpTable fun pointer lvl2PtEntry => ?_
  cases large : lvl2PtEntry.pageSize with
  | true =>
      have other : size4Kb ≠ size2Mb := by decide
      simp [Checks, other]
  | false => simp [checks_dumpLvl1]

theorem checks_dumpLvl3 {table : Nat} {page : PtEntry} :
    Checks (dumpLvl3 memory table) page ↔
      ∃ lvl3PtEntry, EntryOf memory table lvl3PtEntry ∧
        ∃ lvl2PtEntry, EntryOf memory lvl3PtEntry.address.toNat lvl2PtEntry ∧
          lvl2PtEntry.pageSize = false ∧ EntryOf memory lvl2PtEntry.address.toNat page :=
  checks_dumpTable fun _ _ => checks_dumpLvl2

theorem checks_dumpLvl4 {lvl4Table : Nat} {page : PtEntry} :
    Checks (dumpLvl4 memory lvl4Table) page ↔ PageOf memory lvl4Table page := by
  have walked := @checks_dumpTable memory 4 lvl4Table
    (fun _ lvl4PtEntry => dumpLvl3 memory lvl4PtEntry.address.toNat) page _
    fun _ _ => checks_dumpLvl3
  rw [dumpLvl4, walked, PageOf]
  simp only [exists_and_left]

/-! ## The error flag -/

/-- A page of the device that no list explains. -/
def Unexplained (records : DmaRecords) (location : PciLocation) (page : PtEntry) : Prop :=
  page.present = true ∧ existInExceptionList records location = false ∧
    ¬ Explained records location page.ioMmuAccess page.address

theorem hasError_checkPtEntry (records : DmaRecords) (location : PciLocation) (page : PtEntry)
    (size : UInt64) (state : CheckState) :
    (checkPtEntry records location page size state).hasError = true ↔
      state.hasError = true ∨ size = size4Kb ∧ Unexplained records location page := by
  by_cases small : size = size4Kb
  · subst small
    rw [hasError_checkPtEntry_small, Unexplained, PtEntry.present, Bool.or_eq_true]
    simp only [true_and]
  · have same : (checkPtEntry records location page size state).hasError = state.hasError := by
      by_cases large : size = size2Mb
      · rw [large, hasError_checkPtEntry_large]
      · unfold checkPtEntry
        rw [if_neg small, if_neg large]
        split <;> rfl
    rw [same]
    simp only [small, false_and, or_false]

theorem mem_leafChecks {items : List WalkItem} {pointer : Nat} {page : PtEntry} {size : UInt64} :
    (pointer, page, size) ∈ leafChecks items ↔
      .checkPtEntry pointer page size ∈ items ∧ page.present = true := by
  rw [leafChecks, List.mem_filterMap]
  constructor
  · rintro ⟨item, listed, known⟩
    cases item with
    | table level address => cases known
    | entry level index ptEntry => cases known
    | checkPtEntry place ptEntry own =>
        obtain ⟨present, same⟩ := Option.ite_none_right_eq_some.mp known
        cases same
        exact ⟨listed, present⟩
  · rintro ⟨listed, present⟩
    exact ⟨_, listed, if_pos present⟩

theorem hasError_dumpSecondLevelPagingEntry (records : DmaRecords) (location : PciLocation)
    (lvl4Table : Nat) (state : CheckState) :
    (dumpSecondLevelPagingEntry memory records location lvl4Table state).hasError = true ↔
      state.hasError = true ∨
        ∃ page, PageOf memory lvl4Table page ∧ Unexplained records location page := by
  have each (state : CheckState) (check : Nat × PtEntry × UInt64) :=
    hasError_checkPtEntry records location check.2.1 check.2.2 state
  rw [dumpSecondLevelPagingEntry_eq,
    @foldl_iff _ _ _ (fun state : CheckState => state.hasError = true) _ each]
  apply or_congr_right
  constructor
  · rintro ⟨⟨pointer, page, size⟩, listed, rfl, unexplained⟩
    exact ⟨page, checks_dumpLvl4.mp ⟨pointer, (mem_leafChecks.mp listed).1⟩, unexplained⟩
  · rintro ⟨page, behind, unexplained⟩
    obtain ⟨pointer, listed⟩ := checks_dumpLvl4.mpr behind
    exact ⟨_, mem_leafChecks.mpr ⟨listed, unexplained.1⟩, rfl, unexplained⟩

theorem mem_engineCalls_iff {engine : Engine} {call : PciLocation × Nat} :
    call ∈ engineCalls memory engine ↔ TableFor memory engine call.1 call.2 := by
  rw [TableFor, engineCalls]
  split
  · rw [mem_dumpDmarExtContextEntryTable]
    apply exists_congr
    intro bus
    apply and_congr_right
    intro _
    apply exists_congr
    intro devfn
    have lower : devfn < vtdContextEntryNumber / 2 → devfn < vtdContextEntryNumber := by
      unfold vtdContextEntryNumber
      omega
    constructor
    · rintro ⟨bound, same, assigned⟩
      exact ⟨lower bound, same, bound, assigned⟩
    · rintro ⟨_, same, bound, assigned⟩
      exact ⟨bound, same, assigned⟩
  · exact mem_dumpDmarContextEntryTable

theorem hasError_dumpEngine (records : DmaRecords) (engine : Engine) (state : CheckState) :
    (dumpEngine memory records engine state).hasError = true ↔
      state.hasError = true ∨ ∃ location lvl4Table page,
        TableFor memory engine location lvl4Table ∧ PageOf memory lvl4Table page ∧
          Unexplained records location page := by
  have each (state : CheckState) (call : PciLocation × Nat) :=
    @hasError_dumpSecondLevelPagingEntry memory records call.1 call.2 state
  rw [dumpEngine, @foldl_iff _ _ _ (fun state : CheckState => state.hasError = true) _ each]
  apply or_congr_right
  constructor
  · rintro ⟨call, listed, page, behind, unexplained⟩
    exact ⟨_, _, page, mem_engineCalls_iff.mp listed, behind, unexplained⟩
  · rintro ⟨location, lvl4Table, page, assigned, behind, unexplained⟩
    exact ⟨(location, lvl4Table), mem_engineCalls_iff.mpr assigned, page, behind, unexplained⟩

theorem hasError_dumpVtdTranslation (records : DmaRecords) (units : VtdUnits)
    (mVtdUnitNumber : Nat) :
    (dumpVtdTranslation memory records units mVtdUnitNumber ⟨false, []⟩).hasError = true ↔
      ∃ index < mVtdUnitNumber, ∃ location lvl4Table page,
        TableFor memory (units index).engine location lvl4Table ∧
          PageOf memory lvl4Table page ∧ Unexplained records location page := by
  have each (state : CheckState) (index : Nat) :=
    @hasError_dumpEngine memory records (units index).engine state
  rw [dumpVtdTranslation,
    @foldl_iff _ _ _ (fun state : CheckState => state.hasError = true) _ each]
  simp only [Bool.false_eq_true, false_or, List.mem_range]

end Verdict

/-! ## From the table to the verdict -/

/-- A device that the policy excepts. -/
def Excepted (platform : Platform) (units : VtdUnits) (mVtdUnitNumber : Nat)
    (location : PciLocation) : Prop :=
  ∃ policy, platform.exceptionDeviceList = some policy ∧
    ∃ thisDeviceInfo ∈ deviceInfos platform.memory policy.1 policy.2,
      Excepts platform.memory units mVtdUnitNumber thisDeviceInfo location

/-- The page of the device is in no gap of a list: the device has a reserved region, or a mapping
with the page's access. -/
def Excused (config : Memory) (maps : List MapInfo) (reservations : List Reservation)
    (location : PciLocation) (page : PtEntry) : Prop :=
  (∃ reservation ∈ reservations, (reservation.record config).location = location ∧
      ¬ InGap page.address reservation.baseAddress
        (reservation.limitAddress + 1 - reservation.baseAddress)) ∨
    ∃ mapping ∈ maps,
      (∃ info ∈ mapping.handleList,
        info.ioMmuAccess = page.ioMmuAccess ∧ info.handle.MayBe location) ∧
      ¬ InGap page.address mapping.deviceAddress (efiPagesToSize mapping.numberOfPages)

theorem mem_exceptionRecords_iff (platform : Platform)
    (allocates : ∀ call, platform.allocatesException call = true) (units : VtdUnits)
    (mVtdUnitNumber : Nat) (location : PciLocation) :
    ⟨location⟩ ∈ exceptionRecords platform units mVtdUnitNumber ↔
      Excepted platform units mVtdUnitNumber location := by
  rw [exceptionRecords, Excepted]
  cases platform.exceptionDeviceList with
  | none => simp
  | some policy =>
      have listed := @mem_dumpExceptionRecord_iff platform.allocatesException platform.memory
        units mVtdUnitNumber location allocates policy.1 policy.2 ⟨[], 0⟩
      simpa using listed

theorem unexplained_iff {config : Memory} {maps : List MapInfo} {exceptions : List ExceptionRecord}
    {excepted : PciLocation → Prop}
    (listed : ∀ location, ⟨location⟩ ∈ exceptions ↔ excepted location)
    (reservations : List Reservation) (location : PciLocation) (page : PtEntry) :
    Unexplained ⟨exceptions, reservations.map (Reservation.record config), maps⟩ location page ↔
      page.present = true ∧ ¬ excepted location ∧
        ¬ Excused config maps reservations location page := by
  have known : existInExceptionList ⟨exceptions, reservations.map (Reservation.record config),
      maps⟩ location = true ↔ excepted location := by
    rw [← listed, existInExceptionList, List.any_eq_true]
    constructor
    · rintro ⟨record, member, same⟩
      rw [← beq_iff_eq.mp same]
      exact List.mem_reverse.mp member
    · intro member
      exact ⟨_, List.mem_reverse.mpr member, beq_self_eq_true location⟩
  rw [Unexplained, Excused, Explained, existInRmrr_iff, existInIoMmuMap_iff, ← known,
    Bool.not_eq_true]
  simp only [List.mem_map, exists_exists_and_eq_and]
  rfl

/-- Where the DRHD structures are processed without an error and all regions are reserved for
devices with a path, the dump fails exactly when a table of an engine has a page of a device
that is no exception and that nothing excuses. -/
theorem vtdDumpEntrypoint_fails_iff (platform : Platform) (table : DmarTable)
    (memory : platform.memory = table.memory)
    (found : platform.mAcpiDmarTable = some table.address) (names : table.NamesDevices)
    (maps : List MapInfo) (located : platform.ioMmuMaps = .located maps)
    (allocatesUnits : platform.allocatesUnits = true)
    (allocatesRmrr : ∀ call, platform.allocatesRmrr call = true)
    (allocatesException : ∀ call, platform.allocatesException call = true) (fuel : Nat)
    (enough : total DmarStructure.length table.structures ≤ fuel)
    (parsed : VtdState) (status : EfiStatus)
    (drhd : parseDmarAcpiTableDrhd platform.config table.memory platform.allocatesPciData true fuel
      table.address = some (parsed, status))
    (processed : table.engines ≠ [] → status = .success) :
    ∃ state, vtdDumpEntrypoint fuel platform = some (.checked state) ∧
      (state.hasError = true ↔ ∃ engine ∈ table.engines, ∃ location lvl4Table page,
        TableFor table.memory engine location lvl4Table ∧
          PageOf table.memory lvl4Table page ∧ page.present = true ∧
          ¬ Excepted platform parsed.units table.engines.length location ∧
          ¬ Excused platform.config maps (table.reservations.takeWhile Reservation.isEndpoint)
            location page) := by
  have number := table.getVtdEngineNumber_eq enough
  have rmrr := table.parseDmarAcpiTableRmrr_eq names platform.config platform.allocatesRmrr
    ⟨[], 0⟩ fuel enough
  have records := DmarTable.records_foldl_insert allocatesRmrr platform.config
    (table.reservations.takeWhile Reservation.isEndpoint) ⟨[], 0⟩
  rw [List.nil_append] at records
  rw [← memory] at number rmrr drhd
  have acpi : dumpVtdAcpi fuel platform = some ⟨table.engines.length,
      if table.engines = [] then none else some parsed.units,
      (table.reservations.takeWhile Reservation.isEndpoint).map
        (Reservation.record platform.config)⟩ := by
    rw [dumpVtdAcpi, found]
    simp only [Option.bind_eq_bind, number, allocatesUnits, drhd, rmrr, Option.bind_some, records]
    simp
  rw [vtdDumpEntrypoint, located]
  dsimp only
  rw [acpi, Option.map_some, checkAcpi]
  by_cases none : table.engines = []
  · rw [if_pos none, none]
    refine ⟨⟨false, []⟩, rfl, ?_⟩
    simp
  · have engines := table.parseDmarAcpiTableDrhd_engines enough
      (by rw [← memory, ← processed none]; exact drhd)
    rw [if_neg none]
    refine ⟨_, rfl, ?_⟩
    rw [hasError_dumpVtdTranslation, memory, Option.getD_some]
    simp only [unexplained_iff (mem_exceptionRecords_iff platform allocatesException parsed.units
      table.engines.length)]
    constructor
    · rintro ⟨index, below, checked⟩
      have listed := List.getElem?_eq_getElem below
      rw [engines index _ listed] at checked
      exact ⟨_, List.getElem_mem below, checked⟩
    · rintro ⟨engine, listed, checked⟩
      obtain ⟨index, below, same⟩ := List.getElem_of_mem listed
      refine ⟨index, below, ?_⟩
      rw [engines index engine (by rw [← same]; exact List.getElem?_eq_getElem below)]
      exact checked

def threeRegionsPlatform : Platform where
  config _ := 0xFF
  memory := threeRegions.memory
  mAcpiDmarTable := some threeRegions.address
  ioMmuMaps := .located [⟨0x8000, 2, [⟨.pci ⟨0, 0, 2, 0⟩, edkiiIoMmuAccessRead⟩]⟩]
  exceptionDeviceList := some (1, 0x10C0)
  allocatesUnits := true
  allocatesPciData _ := true
  allocatesRmrr _ := true
  allocatesException _ := true

theorem vtdDumpEntrypoint_threeRegions :
    ∃ parsed, parseDmarAcpiTableDrhd threeRegionsPlatform.config threeRegions.memory
        threeRegionsPlatform.allocatesPciData true 144 threeRegions.address =
          some (parsed, .success) ∧
      ∃ state, vtdDumpEntrypoint 144 threeRegionsPlatform = some (.checked state) ∧
        (state.hasError = true ↔ ∃ engine ∈ threeRegions.engines, ∃ location lvl4Table page,
          TableFor threeRegions.memory engine location lvl4Table ∧
            PageOf threeRegions.memory lvl4Table page ∧ page.present = true ∧
            ¬ Excepted threeRegionsPlatform parsed.units threeRegions.engines.length location ∧
            ¬ Excused threeRegionsPlatform.config
              [⟨0x8000, 2, [⟨.pci ⟨0, 0, 2, 0⟩, edkiiIoMmuAccessRead⟩]⟩]
              (threeRegions.reservations.takeWhile Reservation.isEndpoint) location page) := by
  have ends : ((parseDmarAcpiTableDrhd threeRegionsPlatform.config threeRegions.memory
      threeRegionsPlatform.allocatesPciData true 144 threeRegions.address).map Prod.snd) =
        some .success := by decide +kernel
  obtain ⟨⟨parsed, status⟩, drhd, success⟩ := Option.map_eq_some_iff.mp ends
  dsimp only at success
  subst success
  exact ⟨parsed, drhd, vtdDumpEntrypoint_fails_iff threeRegionsPlatform threeRegions rfl rfl
    namesDevices_threeRegions _ rfl rfl (fun _ => rfl) (fun _ => rfl) 144 (by decide) parsed
    .success drhd fun _ => rfl⟩

end AppEfi.Vtd
