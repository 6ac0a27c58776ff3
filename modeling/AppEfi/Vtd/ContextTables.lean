import AppEfi.Lib.Memory
import AppEfi.Vtd.CheckPtEntry

/-!
# Root and context tables

`DumpDmarContextEntryTable` and `DumpDmarExtContextEntryTable` of VtdDump.c over
the tables in memory.  The legacy walk reaches the second-level table of every
device; the extended walk those of devices 0 to 15 only, since its loop over the
upper context table only prints.
-/

set_option autoImplicit false

namespace AppEfi.Vtd

def vtdRootEntryNumber : Nat := 256

def vtdContextEntryNumber : Nat := 256

def readU64 (memory : Memory) (address : Nat) : UInt64 :=
  UInt64.ofNat (memory.readLe address 8)

def presentBit (word : UInt64) : Bool := bitField word 0 1 != 0

def tablePointer (word : UInt64) : Nat :=
  (vtd64BitsAddress (bitField word 12 20) (bitField word 32 32)).toNat

inductive TableItem where
  | rootEntry (index : Nat) (words : List UInt64)
  | contextEntry (index : Nat) (words : List UInt64)
  | extRootEntry (index : Nat) (words : List UInt64)
  | extContextEntryLower (index : Nat) (words : List UInt64)
  | extContextEntryUpper (index : Nat) (words : List UInt64)
  | dumpSecondLevelPagingEntry (location : PciLocation) (secondLevelPagingEntry : Nat)
  deriving DecidableEq, Repr

/-- An entry is listed when one of its words is not zero. -/
def listEntry (item : List UInt64 → TableItem) (words : List UInt64) : List TableItem :=
  if words.any (· != 0) then [item words] else []

section Walks

variable (memory : Memory) (segment : Nat)

def entryWords (count entry : Nat) : List UInt64 :=
  (List.range count).map fun index => readU64 memory (entry + index * 8)

/-- The device of a context entry: bus, `Index2 >> 3` and `Index2 & 0x7`. -/
def deviceLocation (bus devfn : Nat) : PciLocation :=
  ⟨segment, bus, devfn >>> 3, devfn &&& 0x7⟩

/-- The call for a present context entry whose first word is `word`. -/
def dumpContextEntry (bus devfn : Nat) (word : UInt64) : List TableItem :=
  if presentBit word then
    [.dumpSecondLevelPagingEntry (deviceLocation segment bus devfn) (tablePointer word)]
  else []

def dumpDmarContextEntryTable (rootEntry : Nat) : List TableItem :=
  (List.range vtdRootEntryNumber).flatMap fun index =>
    let root := rootEntry + index * 16
    listEntry (.rootEntry index) (entryWords memory 2 root) ++
      if presentBit (readU64 memory root) then
        let contextEntry := tablePointer (readU64 memory root)
        (List.range vtdContextEntryNumber).flatMap fun index2 =>
          let entry := contextEntry + index2 * 16
          listEntry (.contextEntry index2) (entryWords memory 2 entry) ++
            dumpContextEntry segment index index2 (readU64 memory entry)
      else []

def dumpDmarExtContextEntryTable (extRootEntry : Nat) : List TableItem :=
  (List.range vtdRootEntryNumber).flatMap fun index =>
    let root := extRootEntry + index * 16
    listEntry (.extRootEntry index) (entryWords memory 2 root) ++
      if presentBit (readU64 memory root) then
        let lowerTable := tablePointer (readU64 memory root)
        ((List.range (vtdContextEntryNumber / 2)).flatMap fun index2 =>
          let entry := lowerTable + index2 * 32
          listEntry (.extContextEntryLower index2) (entryWords memory 4 entry) ++
            dumpContextEntry segment index index2 (readU64 memory entry)) ++
          if presentBit (readU64 memory (root + 8)) then
            let upperTable := tablePointer (readU64 memory (root + 8))
            -- No DumpSecondLevelPagingEntry call behind the present test here.
            (List.range (vtdContextEntryNumber / 2)).flatMap fun index2 =>
              listEntry (.extContextEntryUpper index2)
                (entryWords memory 4 (upperTable + index2 * 32))
          else []
      else []

end Walks

/-! ## What the tables assign -/

def secondLevelTable (word : UInt64) : Option Nat :=
  if presentBit word then some (tablePointer word) else none

/-- The second-level table that a legacy structure gives a device. -/
def legacyAssignment (memory : Memory) (rootEntry bus devfn : Nat) : Option Nat :=
  let root := readU64 memory (rootEntry + bus * 16)
  if presentBit root then
    secondLevelTable (readU64 memory (tablePointer root + devfn * 16))
  else none

/-- The second-level table that an extended structure gives a device: entries 0 to 127
of a bus are in its lower table, the others in its upper table. -/
def extendedAssignment (memory : Memory) (extRootEntry bus devfn : Nat) : Option Nat :=
  let half := devfn / 128
  let root := readU64 memory (extRootEntry + bus * 16 + half * 8)
  if presentBit root then
    secondLevelTable (readU64 memory (tablePointer root + devfn % 128 * 32))
  else none

/-- Both structures assign the same tables to all devices. -/
def SameAssignment (memory extMemory : Memory) (rootEntry extRootEntry : Nat) : Prop :=
  ∀ bus < vtdRootEntryNumber, ∀ devfn < vtdContextEntryNumber,
    legacyAssignment memory rootEntry bus devfn =
      extendedAssignment extMemory extRootEntry bus devfn

def secondLevelCalls (items : List TableItem) : List (PciLocation × Nat) :=
  items.filterMap fun item =>
    match item with
    | .dumpSecondLevelPagingEntry location secondLevelPagingEntry =>
        some (location, secondLevelPagingEntry)
    | _ => none

/-! ## The calls of the walks -/

section Calls

variable {memory : Memory} {segment : Nat}

@[simp] theorem secondLevelCalls_append (first second : List TableItem) :
    secondLevelCalls (first ++ second) = secondLevelCalls first ++ secondLevelCalls second :=
  List.filterMap_append

theorem secondLevelCalls_flatMap {Index : Type} (indexes : List Index)
    (items : Index → List TableItem) :
    secondLevelCalls (indexes.flatMap items) =
      indexes.flatMap fun index => secondLevelCalls (items index) := by
  induction indexes with
  | nil => rfl
  | cons index rest ih =>
      rw [List.flatMap_cons, List.flatMap_cons, secondLevelCalls_append, ih]

theorem secondLevelCalls_listEntry {item : List UInt64 → TableItem}
    (silent : ∀ words, secondLevelCalls [item words] = []) (words : List UInt64) :
    secondLevelCalls (listEntry item words) = [] := by
  unfold listEntry
  split
  · exact silent words
  · rfl

theorem mem_secondLevelCalls_dumpContextEntry {bus devfn : Nat} {word : UInt64}
    {call : PciLocation × Nat} :
    call ∈ secondLevelCalls (dumpContextEntry segment bus devfn word) ↔
      call.1 = deviceLocation segment bus devfn ∧ secondLevelTable word = some call.2 := by
  unfold dumpContextEntry secondLevelTable
  split
  · simp only [secondLevelCalls, List.filterMap_cons, List.filterMap_nil,
      List.mem_singleton, Prod.ext_iff, Option.some.injEq, eq_comm (a := tablePointer word)]
  · simp [secondLevelCalls]

/-- The legacy walk calls for each device with a table, and only for these. -/
theorem mem_dumpDmarContextEntryTable {rootEntry : Nat} {call : PciLocation × Nat} :
    call ∈ secondLevelCalls (dumpDmarContextEntryTable memory segment rootEntry) ↔
      ∃ bus < vtdRootEntryNumber, ∃ devfn < vtdContextEntryNumber,
        call.1 = deviceLocation segment bus devfn ∧
          legacyAssignment memory rootEntry bus devfn = some call.2 := by
  simp only [dumpDmarContextEntryTable, secondLevelCalls_flatMap, List.mem_flatMap,
    List.mem_range, secondLevelCalls_append, legacyAssignment]
  apply exists_congr
  intro bus
  apply and_congr_right
  intro _
  rw [secondLevelCalls_listEntry (fun _ => rfl), List.nil_append]
  have silent : ∀ index words,
      secondLevelCalls (listEntry (.contextEntry index) words) = [] :=
    fun _ => secondLevelCalls_listEntry fun _ => rfl
  by_cases present : presentBit (readU64 memory (rootEntry + bus * 16)) = true
  · simp only [present, if_true, secondLevelCalls_flatMap, List.mem_flatMap, List.mem_range,
      secondLevelCalls_append, silent, List.nil_append,
      mem_secondLevelCalls_dumpContextEntry]
  · simp [present, secondLevelCalls]

/-- The extended walk calls for the devices of the lower tables only. -/
theorem mem_dumpDmarExtContextEntryTable {extRootEntry : Nat} {call : PciLocation × Nat} :
    call ∈ secondLevelCalls (dumpDmarExtContextEntryTable memory segment extRootEntry) ↔
      ∃ bus < vtdRootEntryNumber, ∃ devfn < vtdContextEntryNumber / 2,
        call.1 = deviceLocation segment bus devfn ∧
          extendedAssignment memory extRootEntry bus devfn = some call.2 := by
  simp only [dumpDmarExtContextEntryTable, secondLevelCalls_flatMap, List.mem_flatMap,
    List.mem_range, secondLevelCalls_append, extendedAssignment]
  apply exists_congr
  intro bus
  apply and_congr_right
  intro _
  rw [secondLevelCalls_listEntry (fun _ => rfl), List.nil_append]
  have upperSilent : secondLevelCalls
      (if presentBit (readU64 memory (extRootEntry + bus * 16 + 8)) then
        (List.range (vtdContextEntryNumber / 2)).flatMap fun index2 =>
          listEntry (.extContextEntryUpper index2) (entryWords memory 4
            (tablePointer (readU64 memory (extRootEntry + bus * 16 + 8)) + index2 * 32))
      else []) = [] := by
    split
    · rw [secondLevelCalls_flatMap]
      exact List.flatMap_eq_nil_iff.mpr fun _ _ => secondLevelCalls_listEntry (fun _ => rfl) _
    · rfl
  have silent : ∀ index words,
      secondLevelCalls (listEntry (.extContextEntryLower index) words) = [] :=
    fun _ => secondLevelCalls_listEntry fun _ => rfl
  have lowerHalf : ∀ devfn < vtdContextEntryNumber / 2,
      devfn / 128 = 0 ∧ devfn % 128 = devfn := by
    intro devfn bound
    unfold vtdContextEntryNumber at bound
    omega
  by_cases present : presentBit (readU64 memory (extRootEntry + bus * 16)) = true
  · simp only [present, if_true, secondLevelCalls_append, upperSilent, List.append_nil,
      secondLevelCalls_flatMap, List.mem_flatMap, List.mem_range,
      silent, List.nil_append, mem_secondLevelCalls_dumpContextEntry]
    apply exists_congr
    intro devfn
    apply and_congr_right
    intro bound
    obtain ⟨half, entry⟩ := lowerHalf devfn bound
    simp only [half, entry, Nat.zero_mul, Nat.add_zero, present, if_true]
  · simp only [present, if_false, secondLevelCalls, List.filterMap_nil, List.not_mem_nil,
      false_iff, Bool.false_eq_true]
    rintro ⟨devfn, bound, _, assigned⟩
    obtain ⟨half, entry⟩ := lowerHalf devfn bound
    simp [half, present] at assigned

end Calls

theorem deviceLocation_inj {segment bus devfn otherBus other : Nat}
    (same : deviceLocation segment bus devfn = deviceLocation segment otherBus other) :
    bus = otherBus ∧ devfn / 8 = other / 8 := by
  simp only [deviceLocation, PciLocation.mk.injEq, Nat.shiftRight_eq_div_pow] at same
  omega

/-- On structures with the same assignment, both walks make the same calls exactly when
no device from 16 to 31 has a table. -/
theorem dumpDmarExtContextEntryTable_calls_iff (memory extMemory : Memory)
    (segment rootEntry extRootEntry : Nat)
    (same : SameAssignment memory extMemory rootEntry extRootEntry) :
    (∀ call, call ∈ secondLevelCalls
          (dumpDmarExtContextEntryTable extMemory segment extRootEntry) ↔
        call ∈ secondLevelCalls (dumpDmarContextEntryTable memory segment rootEntry)) ↔
      ∀ bus < vtdRootEntryNumber, ∀ devfn < vtdContextEntryNumber, 16 ≤ devfn / 8 →
        legacyAssignment memory rootEntry bus devfn = none := by
  constructor
  · intro calls bus busBound devfn devfnBound upper
    cases assigned : legacyAssignment memory rootEntry bus devfn with
    | none => rfl
    | some table =>
        have legacy : (deviceLocation segment bus devfn, table) ∈
            secondLevelCalls (dumpDmarContextEntryTable memory segment rootEntry) :=
          mem_dumpDmarContextEntryTable.mpr
            ⟨bus, busBound, devfn, devfnBound, rfl, assigned⟩
        obtain ⟨otherBus, _, other, otherBound, located, _⟩ :=
          mem_dumpDmarExtContextEntryTable.mp ((calls _).mpr legacy)
        have device := (deviceLocation_inj located).2
        unfold vtdContextEntryNumber at otherBound
        omega
  · intro unassigned call
    rw [mem_dumpDmarExtContextEntryTable, mem_dumpDmarContextEntryTable]
    constructor
    · rintro ⟨bus, busBound, devfn, devfnBound, located, assigned⟩
      have whole : devfn < vtdContextEntryNumber := by
        unfold vtdContextEntryNumber at devfnBound ⊢
        omega
      rw [← same bus busBound devfn whole] at assigned
      exact ⟨bus, busBound, devfn, whole, located, assigned⟩
    · rintro ⟨bus, busBound, devfn, devfnBound, located, assigned⟩
      have lower : devfn < vtdContextEntryNumber / 2 := by
        by_contra high
        have none := unassigned bus busBound devfn devfnBound
          (by unfold vtdContextEntryNumber at high; omega)
        rw [none] at assigned
        cases assigned
      rw [same bus busBound devfn devfnBound] at assigned
      exact ⟨bus, busBound, devfn, lower, located, assigned⟩

/-- A legacy structure at 0x1000 with a table for device 16 of bus 0. -/
def legacyDevice16 : Memory := fun address =>
  if address = 0x1000 ∨ address = 0x2800 then 0x01
  else if address = 0x1001 then 0x20
  else if address = 0x2801 then 0x50
  else 0

/-- The extended structure for the same device: an upper table and no lower one. -/
def extendedDevice16 : Memory := fun address =>
  if address = 0x1008 ∨ address = 0x3000 then 0x01
  else if address = 0x1009 then 0x30
  else if address = 0x3001 then 0x50
  else 0

theorem presentBit_of_zero {memory : Memory} {address : Nat}
    (zero : memory address = 0) : presentBit (readU64 memory address) = false := by
  have word : (readU64 memory address).toNat % 2 = 0 := by
    simp only [readU64, UInt64.toNat_ofNat', Memory.readLe, Memory.bytesAt,
      LittleEndian.ofBytes_cons, zero, UInt8.toNat_zero]
    omega
  simp [presentBit, bitField, word]

theorem legacyAssignment_device16 (bus devfn : Nat) (busBound : bus < vtdRootEntryNumber)
    (bound : devfn < vtdContextEntryNumber) :
    legacyAssignment legacyDevice16 0x1000 bus devfn =
      if bus = 0 ∧ devfn = 128 then some 0x5000 else none := by
  unfold vtdRootEntryNumber at busBound
  unfold vtdContextEntryNumber at bound
  by_cases bus0 : bus = 0
  · subst bus0
    have root : readU64 legacyDevice16 (0x1000 + 0 * 16) = 0x2001 := by decide +kernel
    have table : tablePointer 0x2001 = 0x2000 := by decide +kernel
    by_cases device16 : devfn = 128
    · subst device16
      decide +kernel
    · have zero : legacyDevice16 (0x2000 + devfn * 16) = 0 := by
        rw [legacyDevice16, if_neg (by omega), if_neg (by omega), if_neg (by omega)]
      simp [legacyAssignment, root, table, secondLevelTable, presentBit_of_zero zero, device16]
  · have zero : legacyDevice16 (0x1000 + bus * 16) = 0 := by
      rw [legacyDevice16, if_neg (by omega), if_neg (by omega), if_neg (by omega)]
    simp [legacyAssignment, presentBit_of_zero zero, bus0]

theorem extendedAssignment_device16 (bus devfn : Nat) (busBound : bus < vtdRootEntryNumber)
    (bound : devfn < vtdContextEntryNumber) :
    extendedAssignment extendedDevice16 0x1000 bus devfn =
      if bus = 0 ∧ devfn = 128 then some 0x5000 else none := by
  unfold vtdRootEntryNumber at busBound
  unfold vtdContextEntryNumber at bound
  by_cases upper : bus = 0 ∧ 128 ≤ devfn
  · obtain ⟨rfl, high⟩ := upper
    have half : devfn / 128 = 1 := by omega
    have root : readU64 extendedDevice16 (0x1000 + 0 * 16 + 1 * 8) = 0x3001 := by
      decide +kernel
    have table : tablePointer 0x3001 = 0x3000 := by decide +kernel
    by_cases device16 : devfn = 128
    · subst device16
      decide +kernel
    · have zero : extendedDevice16 (0x3000 + devfn % 128 * 32) = 0 := by
        rw [extendedDevice16, if_neg (by omega), if_neg (by omega), if_neg (by omega)]
      simp [extendedAssignment, half, root, table, secondLevelTable,
        presentBit_of_zero zero, device16]
  · have zero : extendedDevice16 (0x1000 + bus * 16 + devfn / 128 * 8) = 0 := by
      rw [extendedDevice16, if_neg (by omega), if_neg (by omega), if_neg (by omega)]
    have other : ¬ (bus = 0 ∧ devfn = 128) := by omega
    simp [extendedAssignment, presentBit_of_zero zero, if_neg other]

theorem sameAssignment_device16 :
    SameAssignment legacyDevice16 extendedDevice16 0x1000 0x1000 := by
  intro bus busBound devfn bound
  rw [legacyAssignment_device16 bus devfn busBound bound,
    extendedAssignment_device16 bus devfn busBound bound]

theorem dumpDmarExtContextEntryTable_calls_iff_device16 :
    (∀ call, call ∈ secondLevelCalls
          (dumpDmarExtContextEntryTable extendedDevice16 0 0x1000) ↔
        call ∈ secondLevelCalls (dumpDmarContextEntryTable legacyDevice16 0 0x1000)) ↔
      ∀ bus < vtdRootEntryNumber, ∀ devfn < vtdContextEntryNumber, 16 ≤ devfn / 8 →
        legacyAssignment legacyDevice16 0x1000 bus devfn = none :=
  dumpDmarExtContextEntryTable_calls_iff legacyDevice16 extendedDevice16 0 0x1000 0x1000
    sameAssignment_device16

/-- The legacy walk dumps the table of device 16, the extended walk does not. -/
theorem dumpDmarExtContextEntryTable_device16 :
    SameAssignment legacyDevice16 extendedDevice16 0x1000 0x1000 ∧
      (⟨0, 0, 16, 0⟩, 0x5000) ∈
        secondLevelCalls (dumpDmarContextEntryTable legacyDevice16 0 0x1000) ∧
      (⟨0, 0, 16, 0⟩, 0x5000) ∉
        secondLevelCalls (dumpDmarExtContextEntryTable extendedDevice16 0 0x1000) := by
  refine ⟨sameAssignment_device16, ?_, ?_⟩
  · exact mem_dumpDmarContextEntryTable.mpr
      ⟨0, by decide, 128, by decide, by decide, by decide +kernel⟩
  · intro visited
    obtain ⟨bus, _, devfn, bound, located, _⟩ := mem_dumpDmarExtContextEntryTable.mp visited
    have same : deviceLocation 0 0 128 = deviceLocation 0 bus devfn := located
    have device := (deviceLocation_inj same).2
    unfold vtdContextEntryNumber at bound
    omega

end AppEfi.Vtd
