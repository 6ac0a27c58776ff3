import Mathlib.Data.List.Flatten
import AppEfi.Vtd.ContextTables

/-!
# Second-level paging entries

`DumpSecondLevelPagingEntry` of VtdDump.c over the tables in memory.  Where the
hardware follows an entry that permits reading or writing, the code follows every
entry that is not zero, and at level 3 it does not look at PageSize.
-/

set_option autoImplicit false

namespace AppEfi.Vtd

/-- `SIZE_4KB/sizeof(VTD_SECOND_LEVEL_PAGING_ENTRY)`. -/
def ptEntryNumber : Nat := 512

def size1Gb : UInt64 := 0x40000000

def PtEntry.pageSize (entry : PtEntry) : Bool := bitField entry.uint64 7 1 != 0

def PtEntry.present (entry : PtEntry) : Bool := entry.read || entry.write

inductive WalkItem where
  /-- The entries of the page at `address` are read as a table. -/
  | table (level address : Nat)
  /-- The printed line of an entry. -/
  | entry (level index : Nat) (ptEntry : PtEntry)
  | checkPtEntry (pointer : Nat) (ptEntry : PtEntry) (size : UInt64)
  deriving DecidableEq, Repr

section Walk

variable (memory : Memory)

def ptEntryAt (pointer : Nat) : PtEntry := ⟨readU64 memory pointer⟩

/-- One of the four loops; `body` is what it does for an entry that is not zero. -/
def dumpTable (level : Nat) (body : Nat → PtEntry → List WalkItem) (table : Nat) :
    List WalkItem :=
  .table level table :: (List.range ptEntryNumber).flatMap fun index =>
    let pointer := table + index * 8
    let ptEntry := ptEntryAt memory pointer
    if ptEntry.uint64 = 0 then []
    else .entry level index ptEntry :: body pointer ptEntry

def dumpLvl1 : Nat → List WalkItem :=
  dumpTable memory 1 fun pointer lvl1PtEntry => [.checkPtEntry pointer lvl1PtEntry size4Kb]

def dumpLvl2 : Nat → List WalkItem :=
  dumpTable memory 2 fun pointer lvl2PtEntry =>
    if lvl2PtEntry.pageSize then [.checkPtEntry pointer lvl2PtEntry size2Mb]
    else dumpLvl1 memory lvl2PtEntry.address.toNat

def dumpLvl3 : Nat → List WalkItem :=
  dumpTable memory 3 fun _ lvl3PtEntry => dumpLvl2 memory lvl3PtEntry.address.toNat

def dumpLvl4 : Nat → List WalkItem :=
  dumpTable memory 4 fun _ lvl4PtEntry => dumpLvl3 memory lvl4PtEntry.address.toNat

/-- The checks of the walk, one after the other. -/
def dumpSecondLevelPagingEntry (records : DmaRecords) (location : PciLocation)
    (secondLevelPagingEntry : Nat) (state : CheckState) : CheckState :=
  (dumpLvl4 memory secondLevelPagingEntry).foldl
    (fun state item =>
      match item with
      | .checkPtEntry _ ptEntry size => checkPtEntry records location ptEntry size state
      | .table _ _ => state
      | .entry _ _ _ => state)
    state

/-! ## The walk of the hardware -/

/-- The present entries of a table. -/
def presentTable (level : Nat) (body : Nat → PtEntry → List WalkItem) (table : Nat) :
    List WalkItem :=
  .table level table :: (List.range ptEntryNumber).flatMap fun index =>
    let pointer := table + index * 8
    if (ptEntryAt memory pointer).present then body pointer (ptEntryAt memory pointer) else []

def presentLvl1 : Nat → List WalkItem :=
  presentTable memory 1 fun pointer lvl1PtEntry => [.checkPtEntry pointer lvl1PtEntry size4Kb]

def presentLvl2 : Nat → List WalkItem :=
  presentTable memory 2 fun pointer lvl2PtEntry =>
    if lvl2PtEntry.pageSize then [.checkPtEntry pointer lvl2PtEntry size2Mb]
    else presentLvl1 memory lvl2PtEntry.address.toNat

def presentLvl3 : Nat → List WalkItem :=
  presentTable memory 3 fun pointer lvl3PtEntry =>
    if lvl3PtEntry.pageSize then [.checkPtEntry pointer lvl3PtEntry size1Gb]
    else presentLvl2 memory lvl3PtEntry.address.toNat

def presentLvl4 : Nat → List WalkItem :=
  presentTable memory 4 fun _ lvl4PtEntry => presentLvl3 memory lvl4PtEntry.address.toNat

end Walk

/-- The tables that a walk reads, with their levels. -/
def tables (items : List WalkItem) : List (Nat × Nat) :=
  items.filterMap fun item =>
    match item with
    | .table level address => some (level, address)
    | .entry _ _ _ => none
    | .checkPtEntry _ _ _ => none

/-- The checks of present entries: the entry's place, the entry, whose address
`CheckPtEntry` checks, and the size. -/
def leafChecks (items : List WalkItem) : List (Nat × PtEntry × UInt64) :=
  items.filterMap fun item =>
    match item with
    | .table _ _ => none
    | .entry _ _ _ => none
    | .checkPtEntry pointer ptEntry size =>
        if ptEntry.present then some (pointer, ptEntry, size) else none

theorem checkPtEntry_of_absent (records : DmaRecords) (location : PciLocation)
    {ptEntry : PtEntry} (absent : ptEntry.present = false) (size : UInt64)
    (state : CheckState) : checkPtEntry records location ptEntry size state = state := by
  rw [PtEntry.present, Bool.or_eq_false_iff] at absent
  simp [checkPtEntry, absent.1, absent.2]

/-- The calls for entries that are not present have no effect. -/
theorem dumpSecondLevelPagingEntry_eq (memory : Memory) (records : DmaRecords)
    (location : PciLocation) (secondLevelPagingEntry : Nat) (state : CheckState) :
    dumpSecondLevelPagingEntry memory records location secondLevelPagingEntry state =
      (leafChecks (dumpLvl4 memory secondLevelPagingEntry)).foldl
        (fun state check => checkPtEntry records location check.2.1 check.2.2 state) state := by
  unfold dumpSecondLevelPagingEntry leafChecks
  rw [List.foldl_filterMap]
  congr 1
  funext state item
  cases item with
  | table level address => rfl
  | entry level index ptEntry => rfl
  | checkPtEntry pointer ptEntry size =>
      cases present : ptEntry.present with
      | true => simp [present]
      | false => simp [present, checkPtEntry_of_absent]

section Conditions

variable (memory : Memory)

/-- Every entry of the table that is not zero has the property. -/
def EntriesAre (property : PtEntry → Prop) (table : Nat) : Prop :=
  ∀ index < ptEntryNumber, (ptEntryAt memory (table + index * 8)).uint64 ≠ 0 →
    property (ptEntryAt memory (table + index * 8))

def Lvl2Regular : Nat → Prop :=
  EntriesAre memory fun lvl2PtEntry => lvl2PtEntry.present = true ∨ lvl2PtEntry.pageSize = true

def Lvl3Regular : Nat → Prop :=
  EntriesAre memory fun lvl3PtEntry =>
    lvl3PtEntry.present = true ∧ lvl3PtEntry.pageSize = false ∧
      Lvl2Regular memory lvl3PtEntry.address.toNat

def Lvl4Regular : Nat → Prop :=
  EntriesAre memory fun lvl4PtEntry =>
    lvl4PtEntry.present = true ∧ Lvl3Regular memory lvl4PtEntry.address.toNat

end Conditions

/-! ## The two walks side by side -/

theorem flatMap_eq_iff_of_sublist {Item Part : Type} {items : List Item}
    {first second : Item → List Part}
    (sublist : ∀ item ∈ items, (first item).Sublist (second item)) :
    items.flatMap first = items.flatMap second ↔ ∀ item ∈ items, first item = second item := by
  induction items with
  | nil => simp
  | cons item rest ih =>
      have head := sublist item (List.mem_cons_self ..)
      have tail : ∀ item ∈ rest, (first item).Sublist (second item) :=
        fun item listed => sublist item (List.mem_cons_of_mem _ listed)
      rw [List.flatMap_cons, List.flatMap_cons, List.forall_mem_cons, ← ih tail]
      constructor
      · intro same
        -- Both parts can only get longer, so neither does.
        have lengths := congrArg List.length same
        rw [List.length_append, List.length_append] at lengths
        have headLength := head.length_le
        have tailLength := (List.Sublist.flatMap_right rest tail).length_le
        exact List.append_inj same (by omega)
      · rintro ⟨sameHead, sameTail⟩
        rw [sameHead, sameTail]

@[simp] theorem tables_table (level address : Nat) (rest : List WalkItem) :
    tables (.table level address :: rest) = (level, address) :: tables rest := rfl

@[simp] theorem tables_entry (level index : Nat) (ptEntry : PtEntry) (rest : List WalkItem) :
    tables (.entry level index ptEntry :: rest) = tables rest := rfl

@[simp] theorem tables_checkPtEntry (pointer : Nat) (ptEntry : PtEntry) (size : UInt64)
    (rest : List WalkItem) :
    tables (.checkPtEntry pointer ptEntry size :: rest) = tables rest := rfl

@[simp] theorem tables_nil : tables [] = [] := rfl

theorem PtEntry.uint64_ne_zero {ptEntry : PtEntry} (present : ptEntry.present = true) :
    ptEntry.uint64 ≠ 0 := by
  intro zero
  simp [PtEntry.present, PtEntry.read, PtEntry.write, bitField, zero] at present

/-- The walk reads the tables of the right walk and maybe others, and no others exactly
where `regular` holds. -/
structure Tracks (right walk : Nat → List WalkItem) (regular : Nat → Prop) : Prop where
  sublist : ∀ table, (tables (right table)).Sublist (tables (walk table))
  eq_iff : ∀ table, tables (right table) = tables (walk table) ↔ regular table

section Compare

variable {memory : Memory} {level : Nat} {body right : Nat → PtEntry → List WalkItem}

theorem tables_dumpTable (table : Nat) :
    tables (dumpTable memory level body table) =
      (level, table) :: (List.range ptEntryNumber).flatMap fun index =>
        if (ptEntryAt memory (table + index * 8)).uint64 = 0 then []
        else tables (body (table + index * 8) (ptEntryAt memory (table + index * 8))) := by
  rw [dumpTable, tables_table, tables, List.filterMap_flatMap]
  refine congrArg (List.cons (level, table)) (List.flatMap_congr ?_)
  intro index _
  rw [← tables]
  dsimp only
  split <;> rfl

theorem tables_presentTable (table : Nat) :
    tables (presentTable memory level right table) =
      (level, table) :: (List.range ptEntryNumber).flatMap fun index =>
        if (ptEntryAt memory (table + index * 8)).present then
          tables (right (table + index * 8) (ptEntryAt memory (table + index * 8)))
        else [] := by
  rw [presentTable, tables_table, tables, List.filterMap_flatMap]
  refine congrArg (List.cons (level, table)) (List.flatMap_congr ?_)
  intro index _
  rw [← tables]
  dsimp only
  split <;> rfl

theorem tables_dumpTable_ne_nil (table : Nat) :
    tables (dumpTable memory level body table) ≠ [] := by
  rw [tables_dumpTable]
  exact List.cons_ne_nil _ _

theorem tracks_table {property : PtEntry → Prop}
    (sublist : ∀ pointer ptEntry,
      (tables (right pointer ptEntry)).Sublist (tables (body pointer ptEntry)))
    (followed : ∀ pointer ptEntry, property ptEntry ↔
      (if ptEntry.present then tables (right pointer ptEntry) else []) =
        tables (body pointer ptEntry)) :
    Tracks (presentTable memory level right) (dumpTable memory level body)
      (EntriesAre memory property) := by
  have entries : ∀ table, ∀ index ∈ List.range ptEntryNumber,
      (if (ptEntryAt memory (table + index * 8)).present then
          tables (right (table + index * 8) (ptEntryAt memory (table + index * 8)))
        else []).Sublist
      (if (ptEntryAt memory (table + index * 8)).uint64 = 0 then []
        else tables (body (table + index * 8) (ptEntryAt memory (table + index * 8)))) := by
    intro table index _
    split
    · rename_i present
      rw [if_neg (PtEntry.uint64_ne_zero present)]
      exact sublist _ _
    · exact List.nil_sublist _
  refine ⟨fun table => ?_, fun table => ?_⟩
  · rw [tables_presentTable, tables_dumpTable]
    exact (List.Sublist.flatMap_right _ (entries table)).cons_cons _
  · rw [tables_presentTable, tables_dumpTable, List.cons_inj_right,
      flatMap_eq_iff_of_sublist (entries table), EntriesAre]
    simp only [List.mem_range]
    apply forall₂_congr
    intro index bound
    by_cases zero : (ptEntryAt memory (table + index * 8)).uint64 = 0
    · have absent : ¬ (ptEntryAt memory (table + index * 8)).present = true :=
        fun present => PtEntry.uint64_ne_zero present zero
      simp [zero, absent]
    · rw [if_neg zero, ← followed]
      simp only [ne_eq, zero, not_false_eq_true, forall_true_left]

end Compare

section Levels

variable (memory : Memory)

theorem tables_presentLvl1 (table : Nat) :
    tables (presentLvl1 memory table) = tables (dumpLvl1 memory table) := by
  have tracks : Tracks (presentLvl1 memory) (dumpLvl1 memory)
      (EntriesAre memory fun _ => True) :=
    tracks_table (fun _ _ => List.Sublist.refl _) (fun _ ptEntry => by simp)
  exact (tracks.eq_iff table).mpr fun _ _ _ => trivial

theorem tracks_lvl2 : Tracks (presentLvl2 memory) (dumpLvl2 memory) (Lvl2Regular memory) := by
  refine tracks_table (fun pointer ptEntry => ?_) (fun pointer ptEntry => ?_)
  · split
    · exact List.Sublist.refl _
    · rw [tables_presentLvl1]
  · have read : tables (dumpLvl1 memory ptEntry.address.toNat) ≠ [] :=
      tables_dumpTable_ne_nil _
    cases present : ptEntry.present with
    | true =>
        cases pageSize : ptEntry.pageSize with
        | true => simp
        | false => simp [tables_presentLvl1]
    | false =>
        cases pageSize : ptEntry.pageSize with
        | true => simp
        | false => simpa using read.symm

theorem tracks_lvl3 : Tracks (presentLvl3 memory) (dumpLvl3 memory) (Lvl3Regular memory) := by
  refine tracks_table (fun pointer ptEntry => ?_) (fun pointer ptEntry => ?_)
  · split
    · exact List.nil_sublist _
    · exact (tracks_lvl2 memory).sublist _
  · have read : tables (dumpLvl2 memory ptEntry.address.toNat) ≠ [] :=
      tables_dumpTable_ne_nil _
    cases present : ptEntry.present with
    | true =>
        cases pageSize : ptEntry.pageSize with
        | true => simpa using read.symm
        | false => simpa using ((tracks_lvl2 memory).eq_iff _).symm
    | false => simpa using read.symm

theorem tracks_lvl4 : Tracks (presentLvl4 memory) (dumpLvl4 memory) (Lvl4Regular memory) := by
  refine tracks_table (fun pointer ptEntry => (tracks_lvl3 memory).sublist _)
    (fun pointer ptEntry => ?_)
  have read : tables (dumpLvl3 memory ptEntry.address.toNat) ≠ [] :=
    tables_dumpTable_ne_nil _
  cases present : ptEntry.present with
  | true => simpa using ((tracks_lvl3 memory).eq_iff _).symm
  | false => simpa using read.symm

end Levels

/-! ## The leaves of regular tables -/

section Leaves

variable {memory : Memory}

theorem leafChecks_table {level : Nat} {body right : Nat → PtEntry → List WalkItem}
    {property : PtEntry → Prop} {table : Nat} (regular : EntriesAre memory property table)
    (followed : ∀ pointer ptEntry, property ptEntry →
      leafChecks (body pointer ptEntry) =
        if ptEntry.present then leafChecks (right pointer ptEntry) else []) :
    leafChecks (dumpTable memory level body table) =
      leafChecks (presentTable memory level right table) := by
  rw [dumpTable, presentTable, leafChecks, leafChecks, List.filterMap_cons_none rfl,
    List.filterMap_cons_none rfl, List.filterMap_flatMap, List.filterMap_flatMap]
  apply List.flatMap_congr
  intro index listed
  dsimp only
  by_cases zero : (ptEntryAt memory (table + index * 8)).uint64 = 0
  · have absent : ¬ (ptEntryAt memory (table + index * 8)).present = true :=
      fun present => PtEntry.uint64_ne_zero present zero
    rw [if_pos zero, if_neg absent]
  · have same := followed (table + index * 8) _ (regular index (List.mem_range.mp listed) zero)
    rw [if_neg zero, List.filterMap_cons_none rfl, ← leafChecks, same]
    split <;> rfl

theorem leafChecks_dumpLvl1 (table : Nat) :
    leafChecks (dumpLvl1 memory table) = leafChecks (presentLvl1 memory table) := by
  have regular : EntriesAre memory (fun _ => True) table := fun _ _ _ => trivial
  refine leafChecks_table regular ?_
  intro pointer ptEntry _
  cases present : ptEntry.present with
  | true => simp
  | false => simp [leafChecks, present]

theorem leafChecks_dumpLvl2 {table : Nat} (regular : Lvl2Regular memory table) :
    leafChecks (dumpLvl2 memory table) = leafChecks (presentLvl2 memory table) := by
  refine leafChecks_table regular ?_
  rintro pointer ptEntry (present | pageSize)
  · cases pageSize : ptEntry.pageSize with
    | true => simp [present]
    | false => simp [present, leafChecks_dumpLvl1]
  · cases present : ptEntry.present with
    | true => simp [pageSize]
    | false => simp [leafChecks, pageSize, present]

theorem leafChecks_dumpLvl3 {table : Nat} (regular : Lvl3Regular memory table) :
    leafChecks (dumpLvl3 memory table) = leafChecks (presentLvl3 memory table) := by
  refine leafChecks_table regular ?_
  rintro pointer ptEntry ⟨present, pageSize, below⟩
  rw [if_pos present, leafChecks_dumpLvl2 below]
  simp [pageSize]

theorem leafChecks_dumpLvl4 {table : Nat} (regular : Lvl4Regular memory table) :
    leafChecks (dumpLvl4 memory table) = leafChecks (presentLvl4 memory table) := by
  refine leafChecks_table regular ?_
  rintro pointer ptEntry ⟨present, below⟩
  rw [if_pos present, leafChecks_dumpLvl3 below]

end Leaves

theorem lvl4Regular_of_perm {memory : Memory} {table : Nat}
    (same : (tables (dumpLvl4 memory table)).Perm (tables (presentLvl4 memory table))) :
    Lvl4Regular memory table := by
  have tracks := tracks_lvl4 memory
  exact (tracks.eq_iff table).mp ((tracks.sublist table).eq_of_length same.length_eq.symm)

/-- The walk checks the present leaves, each once, and reads the root table and the
targets of the present entries that are no leaves, exactly when it meets nothing but
such entries: it takes for granted that an entry that is not zero is present at levels 4
and 3, that PageSize is clear at level 3, and that an entry at level 2 with PageSize
clear is present. -/
theorem dumpLvl4_perm_iff (memory : Memory) (secondLevelPagingEntry : Nat) :
    (leafChecks (dumpLvl4 memory secondLevelPagingEntry)).Perm
          (leafChecks (presentLvl4 memory secondLevelPagingEntry)) ∧
        (tables (dumpLvl4 memory secondLevelPagingEntry)).Perm
          (tables (presentLvl4 memory secondLevelPagingEntry)) ↔
      Lvl4Regular memory secondLevelPagingEntry := by
  constructor
  · rintro ⟨-, same⟩
    exact lvl4Regular_of_perm same
  · intro regular
    rw [leafChecks_dumpLvl4 regular, ((tracks_lvl4 memory).eq_iff _).mpr regular]
    exact ⟨List.Perm.refl _, List.Perm.refl _⟩

/-- A table at 0x1000 that leads to one leaf, of 1GB. -/
def leafOf1Gb : Memory := fun address =>
  if address = 0x1000 then 0x03
  else if address = 0x1001 then 0x20
  else if address = 0x2000 then 0x83
  else if address = 0x2003 then 0x40
  else 0

/-- The page that the leaf maps is read as a level 2 table. -/
theorem dumpLvl4_leafOf1Gb :
    (2, 0x40000000) ∈ tables (dumpLvl4 leafOf1Gb 0x1000) ∧
      ¬ ((leafChecks (dumpLvl4 leafOf1Gb 0x1000)).Perm
            (leafChecks (presentLvl4 leafOf1Gb 0x1000)) ∧
          (tables (dumpLvl4 leafOf1Gb 0x1000)).Perm
            (tables (presentLvl4 leafOf1Gb 0x1000))) := by
  have lvl4 : ptEntryAt leafOf1Gb (0x1000 + 0 * 8) = ⟨0x2003⟩ := by decide +kernel
  have lvl3 : ptEntryAt leafOf1Gb (0x2000 + 0 * 8) = ⟨0x40000083⟩ := by decide +kernel
  have lvl3Table : (PtEntry.mk 0x2003).address.toNat = 0x2000 := by decide +kernel
  have page : (PtEntry.mk 0x40000083).address.toNat = 0x40000000 := by decide +kernel
  have first : 0 ∈ List.range ptEntryNumber := List.mem_range.mpr (by decide)
  constructor
  · rw [dumpLvl4, tables_dumpTable]
    refine List.mem_cons_of_mem _ (List.mem_flatMap.mpr ⟨0, first, ?_⟩)
    rw [lvl4, if_neg (by decide), lvl3Table, dumpLvl3, tables_dumpTable]
    refine List.mem_cons_of_mem _ (List.mem_flatMap.mpr ⟨0, first, ?_⟩)
    rw [lvl3, if_neg (by decide), page, dumpLvl2, tables_dumpTable]
    exact List.mem_cons_self ..
  · rintro ⟨-, same⟩
    have regular := lvl4Regular_of_perm same
    have below := (regular 0 (by decide) (by rw [lvl4]; decide)).2
    rw [lvl4, lvl3Table] at below
    have leaf := (below 0 (by decide) (by rw [lvl3]; decide)).2.1
    rw [lvl3] at leaf
    revert leaf
    decide +kernel

end AppEfi.Vtd
