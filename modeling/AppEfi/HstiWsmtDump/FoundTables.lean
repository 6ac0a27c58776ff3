import AppEfi.HstiWsmtDump.FindAcpiTable

/-!
# The tables that the searches find

HstiWsmtDump's search gives the first table of the listed ones with the signature, the XSDT's in
front of the RSDT's and those of the ACPI 2.0 RSDP in front of those of the 1.0 one.  VtdDump's
search gives the same table but where only the 1.0 RSDP lists one.
-/

set_option autoImplicit false

namespace AppEfi.AcpiSearch

open AppEfi.DumpAcpi
open AppEfi.Reading

/-- A read that is not through NULL. -/
def NotNull (range : Range) : Prop := range.start ≠ 0

section Scans

variable {width : Nat} {memory : Memory} {signature entrySize sdt : Nat}

theorem ends_readAddress (field size : Nat) :
    Ends (readAddress width memory field size) (tableAddress width memory field size) := by
  simp [readAddress, tableAddress]

theorem allReads_readAddress {Good : Range → Prop} {field size : Nat} :
    AllReads Good (readAddress width memory field size) ↔ Good ⟨field, size⟩ := by
  simp [readAddress]

/-- What is made of an entry. -/
def examined (memory : Memory) (testsNull : Bool) (signature table : Nat) : Option Nat :=
  if testsNull = true ∧ table = 0 then none else carries memory signature table

theorem ends_examineEntry (testsNull : Bool) (index : Nat) :
    Ends (examineEntry width memory testsNull signature entrySize sdt index)
      (examined memory testsNull signature (tableAddress width memory
        (sdt + descriptionHeaderSize + entrySize * index) entrySize)) := by
  rw [examineEntry, ends_bind]
  refine ⟨_, ends_readAddress _ _, ?_⟩
  rw [ends_ite, examined]
  split
  · exact ends_pure.mpr rfl
  · rw [ends_bind]
    exact ⟨_, ends_read.mpr rfl, ends_pure.mpr rfl⟩

/-- An entry is read through NULL where it is not tested. -/
theorem allReads_examineEntry (present : sdt ≠ 0) (testsNull : Bool) (index : Nat) :
    AllReads NotNull (examineEntry width memory testsNull signature entrySize sdt index) ↔
      (testsNull = false → tableAddress width memory
        (sdt + descriptionHeaderSize + entrySize * index) entrySize ≠ 0) := by
  have entry : NotNull ⟨sdt + descriptionHeaderSize + entrySize * index, entrySize⟩ := by
    change sdt + descriptionHeaderSize + entrySize * index ≠ 0
    omega
  rw [examineEntry, allReads_bind, allReads_readAddress]
  have own := @ends_readAddress width memory
    (sdt + descriptionHeaderSize + entrySize * index) entrySize
  constructor
  · rintro ⟨_, all⟩ untested null
    have here := all _ own
    rw [null, untested, allReads_ite, if_neg nofun, allReads_bind, allReads_read] at here
    exact here.1 rfl
  · intro tested
    refine ⟨entry, fun table ends => ?_⟩
    obtain rfl := ends.unique own
    rw [allReads_ite]
    split
    · exact allReads_pure _
    · next reads =>
        rw [allReads_bind, allReads_read]
        refine ⟨fun null => ?_, fun _ _ => allReads_pure _⟩
        cases testsNull with
        | false => exact tested rfl null
        | true => exact reads ⟨rfl, null⟩

theorem length_listed (present : sdt ≠ 0) :
    (listed width memory entrySize sdt).length =
      entryCount width memory sdt entrySize % 2 ^ 32 := by
  rw [listed, if_neg present, List.length_map, List.length_range]

theorem listed_getElem? (present : sdt ≠ 0) {offset table : Nat}
    (at_offset : (listed width memory entrySize sdt)[offset]? = some table) :
    tableAddress width memory (sdt + descriptionHeaderSize + entrySize * (0 + offset)) entrySize =
      table := by
  rw [listed, if_neg present, List.getElem?_map, Option.map_eq_some_iff] at at_offset
  obtain ⟨index, found, rfl⟩ := at_offset
  obtain ⟨_, rfl⟩ := List.getElem?_eq_some_iff.mp found
  rw [List.getElem_range, Nat.zero_add]

/-- The scan behind the load of the length. -/
theorem ends_search_listed (present : sdt ≠ 0) (testsNull : Bool) :
    Ends (search (examineEntry width memory testsNull signature entrySize sdt)
      (listed width memory entrySize sdt).length 0)
      ((listed width memory entrySize sdt).findSome? (examined memory testsNull signature)) := by
  refine ends_search fun offset table at_offset => ?_
  have ends := @ends_examineEntry width memory signature entrySize sdt testsNull (0 + offset)
  rwa [listed_getElem? present at_offset] at ends

theorem ends_scanTable (present : sdt ≠ 0) (testsNull : Bool) :
    Ends (scanTable width memory testsNull signature entrySize sdt)
      (((listed width memory entrySize sdt).findSome?
        (examined memory testsNull signature)).bind nonNull) := by
  have found := @ends_search_listed width memory signature entrySize sdt present testsNull
  rw [length_listed present] at found
  rw [scanTable, ends_bind]
  refine ⟨_, ends_read.mpr rfl, ?_⟩
  rw [ends_bind]
  exact ⟨_, found, ends_pure.mpr rfl⟩

theorem allReads_scanTable (present : sdt ≠ 0) (testsNull : Bool) :
    AllReads NotNull (scanTable width memory testsNull signature entrySize sdt) ↔
      ∀ table ∈ upToFound (examined memory testsNull signature)
        (listed width memory entrySize sdt), testsNull = false → table ≠ 0 := by
  have reads := @allReads_search Nat Nat NotNull _ _ (listed width memory entrySize sdt) 0
    (fun offset table at_offset => by
      have ends := @ends_examineEntry width memory signature entrySize sdt testsNull (0 + offset)
      rwa [listed_getElem? present at_offset] at ends)
    (fun table => testsNull = false → table ≠ 0)
    (fun offset table at_offset => by
      rw [← listed_getElem? present at_offset]
      exact allReads_examineEntry present testsNull (0 + offset))
  rw [← reads, length_listed present, scanTable, allReads_bind, allReads_read]
  constructor
  · rintro ⟨_, all⟩
    exact (allReads_bind.mp (all _ (ends_read.mpr rfl))).1
  · intro all
    refine ⟨Nat.ne_of_gt (Nat.lt_add_left sdt (by decide)), fun length ends => ?_⟩
    obtain rfl := ends_read.mp ends
    exact allReads_bind.mpr ⟨all, fun _ _ => allReads_pure _⟩

theorem listed_zero : listed width memory entrySize 0 = [] := if_pos rfl

theorem ends_scanUnlessNull (testsNull : Bool) (sdt : Nat) :
    Ends (scanUnlessNull width memory testsNull signature entrySize sdt)
      (((listed width memory entrySize sdt).findSome?
        (examined memory testsNull signature)).bind nonNull) := by
  rw [scanUnlessNull, ends_ite]
  split
  · next absent =>
      subst absent
      rw [listed_zero]
      exact ends_pure.mpr rfl
  · next present => exact ends_scanTable present testsNull

theorem allReads_scanUnlessNull (testsNull : Bool) (sdt : Nat) :
    AllReads NotNull (scanUnlessNull width memory testsNull signature entrySize sdt) ↔
      ∀ table ∈ upToFound (examined memory testsNull signature)
        (listed width memory entrySize sdt), testsNull = false → table ≠ 0 := by
  rw [scanUnlessNull, allReads_ite]
  split
  · next absent =>
      subst absent
      rw [listed_zero]
      exact iff_of_true (allReads_pure _) fun _ member => absurd member List.not_mem_nil
  · next present => exact allReads_scanTable present testsNull

/-! ### With a test for NULL and without -/

theorem examined_false : examined memory false signature = carries memory signature := by
  funext table
  exact if_neg fun both => nomatch both.1

/-- What a search that tests for NULL goes through. -/
def withoutNull (tables : List Nat) : List Nat := tables.filter fun table => table ≠ 0

theorem findSome?_examined_true (tables : List Nat) :
    tables.findSome? (examined memory true signature) =
      (withoutNull tables).findSome? (carries memory signature) := by
  induction tables with
  | nil => rfl
  | cons table rest ih =>
      rw [withoutNull, List.filter_cons, List.findSome?_cons]
      by_cases null : table = 0
      · rw [examined, if_pos ⟨rfl, null⟩, if_neg (by simpa using null)]
        exact ih
      · rw [examined, if_neg fun both => null both.2, if_pos (by simpa using null),
          List.findSome?_cons, ih]
        rfl

theorem ends_scan (sdt : Nat) :
    Ends (scanUnlessNull width memory false signature entrySize sdt)
      (firstTable memory signature (listed width memory entrySize sdt)) := by
  rw [firstTable, ← examined_false]
  exact ends_scanUnlessNull false sdt

theorem allReads_scan (sdt : Nat) :
    AllReads NotNull (scanUnlessNull width memory false signature entrySize sdt) ↔
      0 ∉ upToFound (carries memory signature) (listed width memory entrySize sdt) := by
  rw [allReads_scanUnlessNull, examined_false]
  constructor
  · intro all member
    exact all 0 member rfl rfl
  · intro free table member _ null
    exact free (null ▸ member)

theorem ends_scan_tested (sdt : Nat) :
    Ends (scanUnlessNull width memory true signature entrySize sdt)
      (firstTable memory signature (withoutNull (listed width memory entrySize sdt))) := by
  rw [firstTable, ← findSome?_examined_true]
  exact ends_scanUnlessNull true sdt

theorem allReads_scan_tested (sdt : Nat) :
    AllReads NotNull (scanUnlessNull width memory true signature entrySize sdt) :=
  (allReads_scanUnlessNull true sdt).mpr nofun

end Scans

/-! ## HstiWsmtDump -/

section HstiWsmtDump

variable {width : Nat} {memory : Memory} {rsdp signature : Nat}

theorem ends_searchXsdt :
    Ends (searchXsdt width memory rsdp signature)
      (firstTable memory signature (listedXsdt width memory rsdp)) := by
  rw [searchXsdt, ends_bind]
  refine ⟨_, ends_read.mpr rfl, ?_⟩
  rw [ends_ite, listedXsdt]
  split
  · exact ends_pure.mpr rfl
  · exact ends_bind.mpr ⟨_, ends_readAddress _ _, ends_scan _⟩

theorem ends_searchRsdt :
    Ends (searchRsdt width memory rsdp signature)
      (firstTable memory signature (listedRsdt width memory rsdp)) :=
  ends_bind.mpr ⟨_, ends_readAddress _ _, ends_scan _⟩

theorem notNull_of_offset (offset size : Nat) (present : rsdp ≠ 0) :
    NotNull ⟨rsdp + offset, size⟩ := by
  change rsdp + offset ≠ 0
  omega

/-- A load of an address and a scan behind it. -/
theorem allReads_scan_address {field size sdt : Nat} (present : NotNull ⟨field, size⟩)
    (loads : tableAddress width memory field size = sdt) :
    AllReads NotNull (do
      let address ← readAddress width memory field size
      scanUnlessNull width memory false signature size address) ↔
      0 ∉ upToFound (carries memory signature) (listed width memory size sdt) := by
  subst loads
  rw [allReads_bind, allReads_readAddress, and_iff_right present]
  constructor
  · intro all
    exact (allReads_scan _).mp (all _ (ends_readAddress _ _))
  · intro free address ends
    rw [ends.unique (ends_readAddress _ _)]
    exact (allReads_scan _).mpr free

theorem allReads_searchXsdt (present : rsdp ≠ 0) :
    AllReads NotNull (searchXsdt width memory rsdp signature) ↔
      0 ∉ upToFound (carries memory signature) (listedXsdt width memory rsdp) := by
  rw [searchXsdt, allReads_bind, allReads_read,
    and_iff_right (notNull_of_offset 15 1 present)]
  simp only [ends_read, forall_eq, allReads_ite, listedXsdt]
  by_cases early : memory.readLe (rsdp + 15) 1 < 2
  · rw [if_pos early, if_pos early]
    exact iff_of_true (allReads_pure _) List.not_mem_nil
  · rw [if_neg early, if_neg early]
    exact allReads_scan_address (notNull_of_offset 24 8 present) rfl

theorem allReads_searchRsdt (present : rsdp ≠ 0) :
    AllReads NotNull (searchRsdt width memory rsdp signature) ↔
      0 ∉ upToFound (carries memory signature) (listedRsdt width memory rsdp) :=
  allReads_scan_address (notNull_of_offset 16 4 present) rfl

theorem ends_orElse_search :
    Ends (orElse (searchXsdt width memory rsdp signature) (searchRsdt width memory rsdp signature))
      (tableOf width memory rsdp signature) :=
  ends_searchXsdt.orElse ends_searchRsdt

theorem allReads_orElse_search (present : rsdp ≠ 0) :
    AllReads NotNull (orElse (searchXsdt width memory rsdp signature)
      (searchRsdt width memory rsdp signature)) ↔ 0 ∉ triedOf width memory rsdp signature := by
  rw [allReads_orElse ends_searchXsdt, allReads_searchXsdt present, allReads_searchRsdt present,
    triedOf, List.mem_append, not_or]
  refine and_congr_right fun _ => ?_
  split
  · next nothing => exact ⟨fun all => all nothing, fun free _ => free⟩
  · next found => exact iff_of_true (fun nothing => absurd nothing found) List.not_mem_nil

end HstiWsmtDump

section Systems

variable {width : Nat} {system : SystemTable} {guid : VendorGuid} {signature : Nat}

theorem find_ne_zero {rsdp : Nat} (found : system.find guid = some rsdp) : rsdp ≠ 0 := by
  obtain ⟨table, first, rfl⟩ := Option.map_eq_some_iff.mp found
  exact system.installed table (List.mem_of_find?_eq_some first)

theorem ends_findAcpiTableByAcpiGuid :
    Ends (findAcpiTableByAcpiGuid width system guid signature)
      (tableByGuid width system guid signature) := by
  rw [findAcpiTableByAcpiGuid, tableByGuid]
  cases system.find guid with
  | none => exact ends_pure.mpr rfl
  | some rsdp => exact ends_orElse_search

theorem allReads_findAcpiTableByAcpiGuid :
    AllReads NotNull (findAcpiTableByAcpiGuid width system guid signature) ↔
      0 ∉ triedByGuid width system guid signature := by
  rw [findAcpiTableByAcpiGuid, triedByGuid]
  cases found : system.find guid with
  | none => exact iff_of_true (allReads_pure _) List.not_mem_nil
  | some rsdp => exact allReads_orElse_search (find_ne_zero found)

/-- The search always ends, and gives the table that the ACPI 2.0 RSDP lists or, if it lists none,
that of the 1.0 RSDP.  It reads through NULL just if NULL is among the entries that it comes to. -/
theorem findAcpiTable_run (width : Nat) (system : SystemTable) (signature : Nat) :
    Ends (findAcpiTable width system signature)
        ((tableByGuid width system .acpi20Table signature).or
          (tableByGuid width system .acpiTable signature)) ∧
      (AllReads NotNull (findAcpiTable width system signature) ↔
        0 ∉ tried width system signature) := by
  refine ⟨ends_findAcpiTableByAcpiGuid.orElse ends_findAcpiTableByAcpiGuid, ?_⟩
  rw [findAcpiTable, allReads_orElse ends_findAcpiTableByAcpiGuid,
    allReads_findAcpiTableByAcpiGuid, allReads_findAcpiTableByAcpiGuid, tried, List.mem_append,
    not_or]
  refine and_congr_right fun _ => ?_
  split
  · next nothing => exact ⟨fun all => all nothing, fun free _ => free⟩
  · next found => exact iff_of_true (fun nothing => absurd nothing found) List.not_mem_nil

end Systems

/-! ## VtdDump -/

section VtdDump

variable {width : Nat} {memory : Memory} {rsdp signature : Nat}

/-- No entry is NULL, and the address of the XSDT is one that VtdDump takes. -/
structure Plain (width : Nat) (memory : Memory) (rsdp : Nat) : Prop where
  address : 2 ≤ memory.readLe (rsdp + 15) 1 → memory.readLe (rsdp + 24) 8 < 256 ^ width - 1
  xsdt : 0 ∉ listedXsdt width memory rsdp
  rsdt : 0 ∉ listedRsdt width memory rsdp

/-- The address of the XSDT as VtdDump takes it. -/
def takenXsdt (width : Nat) (memory : Memory) (rsdp : Nat) : Nat :=
  if memory.readLe (rsdp + 15) 1 < 2 then 0
  else if memory.readLe (rsdp + 24) 8 < 256 ^ width - 1 then memory.readLe (rsdp + 24) 8 else 0

theorem ends_xsdtOfRsdp : Ends (xsdtOfRsdp width memory rsdp) (takenXsdt width memory rsdp) := by
  rw [xsdtOfRsdp, ends_bind]
  refine ⟨_, ends_read.mpr rfl, ?_⟩
  rw [ends_ite, takenXsdt]
  split
  · exact ends_pure.mpr rfl
  · exact ends_bind.mpr ⟨_, ends_read.mpr rfl, ends_pure.mpr rfl⟩

theorem listed_takenXsdt (plain : Plain width memory rsdp) :
    listed width memory 8 (takenXsdt width memory rsdp) = listedXsdt width memory rsdp := by
  rw [takenXsdt, listedXsdt]
  split
  · exact listed_zero
  · next later =>
      have small := plain.address (Nat.not_lt.mp later)
      rw [if_pos small, scanAcpiXSDT, tableAddress, Nat.mod_eq_of_lt (by omega)]

theorem withoutNull_eq {tables : List Nat} (free : 0 ∉ tables) : withoutNull tables = tables := by
  refine List.filter_eq_self.mpr fun table member => ?_
  have present : table ≠ 0 := fun null => free (null ▸ member)
  simpa using present

theorem ends_findAcpiPtr (plain : Plain width memory rsdp) :
    Ends (findAcpiPtr width memory rsdp signature) (tableOf width memory rsdp signature) := by
  have xsdt := @ends_scan_tested width memory signature 8 (takenXsdt width memory rsdp)
  have rsdt := @ends_scan_tested width memory signature 4 (scanAcpiRSDT width memory rsdp)
  rw [listed_takenXsdt plain, withoutNull_eq plain.xsdt] at xsdt
  rw [← listedRsdt, withoutNull_eq plain.rsdt] at rsdt
  rw [findAcpiPtr, ends_bind]
  refine ⟨_, ends_readAddress _ _, ?_⟩
  rw [ends_bind]
  exact ⟨_, ends_xsdtOfRsdp, xsdt.orElse rsdt⟩

theorem allReads_findAcpiPtr (present : rsdp ≠ 0) :
    AllReads NotNull (findAcpiPtr width memory rsdp signature) := by
  have offset := fun offset size => @notNull_of_offset rsdp offset size present
  rw [findAcpiPtr, allReads_bind]
  refine ⟨allReads_readAddress.mpr (offset 16 4), fun rsdt _ => ?_⟩
  rw [allReads_bind]
  constructor
  · rw [xsdtOfRsdp, allReads_bind]
    refine ⟨allReads_read.mpr (offset 15 1), fun revision _ => ?_⟩
    rw [allReads_ite]
    split
    · exact allReads_pure _
    · exact allReads_bind.mpr ⟨allReads_read.mpr (offset 24 8), fun _ _ => allReads_pure _⟩
  · intro xsdt _
    rw [allReads_orElse (ends_scan_tested xsdt)]
    exact ⟨allReads_scan_tested xsdt, fun _ => allReads_scan_tested rsdt⟩

end VtdDump

theorem ends_getDmarAcpiTable {width : Nat} {system : SystemTable}
    (plain : ∀ rsdp, rsdpOf system = some rsdp → Plain width system.memory rsdp) :
    Ends (getDmarAcpiTable width system)
      ((rsdpOf system).bind fun rsdp => tableOf width system.memory rsdp dmarSignature) := by
  rw [getDmarAcpiTable]
  cases found : rsdpOf system with
  | none => exact ends_pure.mpr rfl
  | some rsdp => exact ends_findAcpiPtr (plain rsdp found)

theorem allReads_getDmarAcpiTable (width : Nat) (system : SystemTable) :
    AllReads NotNull (getDmarAcpiTable width system) := by
  rw [getDmarAcpiTable]
  cases found : rsdpOf system with
  | none => exact allReads_pure _
  | some rsdp =>
      rw [rsdpOf, Option.or_eq_some_iff] at found
      refine allReads_findAcpiPtr ?_
      rcases found with acpi20 | ⟨_, acpi10⟩
      · exact find_ne_zero acpi20
      · exact find_ne_zero acpi10

/-- VtdDump never reads through NULL.  Without NULL entries it finds the DMAR table that
HstiWsmtDump's search would find, but where the tables of the ACPI 2.0 RSDP have none and those
of the 1.0 one have. -/
theorem getDmarAcpiTable_findAcpiTable (width : Nat) (system : SystemTable) :
    AllReads NotNull (getDmarAcpiTable width system) ∧
      ((∀ rsdp, rsdpOf system = some rsdp → Plain width system.memory rsdp) →
        ∃ dmar found, Ends (getDmarAcpiTable width system) dmar ∧
          Ends (findAcpiTable width system dmarSignature) found ∧
          (dmar ≠ found ↔ system.find .acpi20Table ≠ none ∧
            tableByGuid width system .acpi20Table dmarSignature = none ∧
            tableByGuid width system .acpiTable dmarSignature ≠ none)) := by
  refine ⟨allReads_getDmarAcpiTable width system, fun plain => ⟨_, _, ends_getDmarAcpiTable plain,
    ends_findAcpiTableByAcpiGuid.orElse ends_findAcpiTableByAcpiGuid, ?_⟩⟩
  simp only [tableByGuid, rsdpOf]
  cases acpi20 : system.find .acpi20Table with
  | none => simp
  | some rsdp =>
      rw [Option.some_or, Option.bind_some]
      cases tableOf width system.memory rsdp dmarSignature with
      | none => simp [eq_comm]
      | some table => simp

/-- An ACPI 2.0 RSDP at 0x100 whose XSDT lists one table, and a 1.0 RSDP at 0x180 whose RSDT
lists the DMAR table at 0x340. -/
def splitMemory : Memory
  | 0x10F => 2
  | 0x119 => 2
  | 0x204 => 44
  | 0x225 => 3
  | 0x190 => 0x40
  | 0x191 => 2
  | 0x244 => 40
  | 0x264 => 0x40
  | 0x265 => 3
  | 0x340 => 0x44
  | 0x341 => 0x4D
  | 0x342 => 0x41
  | 0x343 => 0x52
  | _ => 0

def splitSystem : SystemTable where
  memory := splitMemory
  configurationTable := [⟨.acpi20Table, 0x100⟩, ⟨.acpiTable, 0x180⟩]
  installed := by decide

theorem splitSystem_plain (rsdp : Nat) (found : rsdpOf splitSystem = some rsdp) :
    Plain 8 splitSystem.memory rsdp := by
  cases found
  exact ⟨by decide, by decide +kernel, by decide +kernel⟩

theorem getDmarAcpiTable_splitSystem :
    AllReads NotNull (getDmarAcpiTable 8 splitSystem) ∧
      ∃ dmar found, Ends (getDmarAcpiTable 8 splitSystem) dmar ∧
        Ends (findAcpiTable 8 splitSystem dmarSignature) found ∧ dmar ≠ found := by
  obtain ⟨reads, finds⟩ := getDmarAcpiTable_findAcpiTable 8 splitSystem
  obtain ⟨dmar, found, own, other, differ⟩ := finds splitSystem_plain
  exact ⟨reads, dmar, found, own, other, differ.mpr (by decide +kernel)⟩

end AppEfi.AcpiSearch
