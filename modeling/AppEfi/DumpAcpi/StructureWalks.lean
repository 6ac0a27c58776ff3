import AppEfi.DumpAcpi.DumpAcpiMADT

/-!
# Where the walks over structures end

DumpAcpiNFIT, DumpAcpiFPDT and DumpAcpiASFT where verbose output is on, beside DumpAcpiMADT.
None of them checks a Length: the first two go on until the table's Length is used up, and
DumpAcpiASFT does until a record calls itself the last one.  A UINTN has 8 bytes.
-/

set_option autoImplicit false

namespace AppEfi.DumpAcpi

open AppEfi.BoundedWalk

structure AcpiTable where
  memory : Memory
  address : Nat
  notNull : address ≠ 0

namespace AcpiTable

variable (table : AcpiTable)

def place : Range := ⟨table.address, tableLength table.memory table.address⟩

def finish : Nat := table.address + tableLength table.memory table.address

end AcpiTable

def DumpedStruct.HeaderInside {Kind : Type} (headerSize : Nat) (outer : Range)
    (dumped : DumpedStruct Kind) : Prop :=
  Range.Inside ⟨dumped.place.start, headerSize⟩ outer

/-- The Lengths lead from header to header inside the table and past its end. -/
def LengthsLead (length : Nat → Nat) (headerSize start limit : Nat) : Prop :=
  ∀ position, Reached length limit start position → position < limit →
    0 < length position ∧ position + headerSize ≤ limit

/-! ## DumpAcpiNFIT -/

inductive NfitKind where
  | systemPhysicalAddressRange
  | memoryDeviceToSystemPhysicalAddressRangeMapping
  | interleave
  | smbiosManagementInformation
  | nvdimmControlRegion
  | nvdimmBlockDataWindowRegion
  | flushHintAddress
  deriving DecidableEq, Repr

def nfitKind : Nat → Option NfitKind
  | 0 => some .systemPhysicalAddressRange
  | 1 => some .memoryDeviceToSystemPhysicalAddressRangeMapping
  | 2 => some .interleave
  | 3 => some .smbiosManagementInformation
  | 4 => some .nvdimmControlRegion
  | 5 => some .nvdimmBlockDataWindowRegion
  | 6 => some .flushHintAddress
  | _ => none

def sizeofNfit : Nat := 40

def nfitHeaderSize : Nat := 4

/-! ## DumpAcpiFPDT -/

inductive FpdtKind where
  | bootPerformanceTablePointer
  | s3PerformanceTablePointer
  | basicBoot
  | s3Resume
  | s3Suspend
  deriving DecidableEq, Repr

/-- The switches of DumpAcpiFPDT, of DumpFpdtBasicBootTable and of DumpFpdtS3BootTable. -/
def fpdtKind : Nat → Option FpdtKind
  | 0 => some .bootPerformanceTablePointer
  | 1 => some .s3PerformanceTablePointer
  | _ => none

def basicBootKind : Nat → Option FpdtKind
  | 2 => some .basicBoot
  | _ => none

def s3BootKind : Nat → Option FpdtKind
  | 0 => some .s3Resume
  | 1 => some .s3Suspend
  | _ => none

/-- A record with the table that holds it. -/
structure FpdtRecord where
  holder : Range
  dumped : DumpedStruct FpdtKind
  deriving DecidableEq, Repr

def sizeofFpdt : Nat := 36

def sizeofFpdtRecordTable : Nat := 8

def fpdtHeaderSize : Nat := 4

/-! ## DumpAcpiASFT -/

inductive AsfKind where
  | info
  | alert
  | rctl
  | rmcp
  | addr
  deriving DecidableEq, Repr

def asfKind : Nat → Option AsfKind
  | 0x0 => some .info
  | 0x1 => some .alert
  | 0x2 => some .rctl
  | 0x3 => some .rmcp
  | 0x4 => some .addr
  | _ => none

def sizeofAsft : Nat := 36

def asfHeaderSize : Nat := 4

section Dump

variable (memory : Memory)

def nfitType (position : Nat) : Nat := memory.readLe position 2

def nfitLength (position : Nat) : Nat := memory.readLe (position + 2) 2

def dumpNfitStruct (position : Nat) : DumpedStruct NfitKind where
  kind := nfitKind (nfitType memory position)
  place := ⟨position, nfitLength memory position⟩

def dumpAcpiNFIT (fuel nfit : Nat) : Option (List (DumpedStruct NfitKind)) :=
  if nfit = 0 then some []
  else
    CountedWalk.walkItems (nfitLength memory) (fun _ => nfitLength memory)
      (fun position => some [dumpNfitStruct memory position]) fuel (nfit + sizeofNfit)
      ((tableLength memory nfit : Int) - sizeofNfit) 0

def fpdtType (position : Nat) : Nat := memory.readLe position 2

def fpdtLength (position : Nat) : Nat := memory.readLe (position + 2) 1

/-- `BootPerformanceTablePointer` and `S3PerformanceTablePointer`. -/
def performanceTablePointer (position : Nat) : Nat := memory.readLe (position + 8) 8

def IsPointerRecord (position : Nat) : Prop :=
  fpdtType memory position = 0 ∨ fpdtType memory position = 1

def fpdtRecord (kindOf : Nat → Option FpdtKind) (table position : Nat) : FpdtRecord where
  holder := ⟨table, tableLength memory table⟩
  dumped := ⟨kindOf (fpdtType memory position), ⟨position, fpdtLength memory position⟩⟩

/-- The tables that the pointer records name. -/
def dumpFpdtRecordTable (kindOf : Nat → Option FpdtKind) (fuel table : Nat) :
    Option (List FpdtRecord) :=
  if table = 0 then some []
  else
    CountedWalk.walkItems (fpdtLength memory) (fun _ => fpdtLength memory)
      (fun position => some [fpdtRecord memory kindOf table position]) fuel
      (table + sizeofFpdtRecordTable) ((tableLength memory table : Int) - sizeofFpdtRecordTable) 0

def dumpFpdtBasicBootTable : Nat → Nat → Option (List FpdtRecord) :=
  dumpFpdtRecordTable memory basicBootKind

def dumpFpdtS3BootTable : Nat → Nat → Option (List FpdtRecord) :=
  dumpFpdtRecordTable memory s3BootKind

/-- A turn of DumpAcpiFPDT: the record, and the table behind a pointer. -/
def dumpFpdtTurn (fpdt fuel position : Nat) : Option (List FpdtRecord) :=
  match fpdtType memory position with
  | 0 =>
      (dumpFpdtBasicBootTable memory fuel (performanceTablePointer memory position)).map
        (fpdtRecord memory fpdtKind fpdt position :: ·)
  | 1 =>
      (dumpFpdtS3BootTable memory fuel (performanceTablePointer memory position)).map
        (fpdtRecord memory fpdtKind fpdt position :: ·)
  | _ => some [fpdtRecord memory fpdtKind fpdt position]

def dumpAcpiFPDT (tableFuel fuel fpdt : Nat) : Option (List FpdtRecord) :=
  if fpdt = 0 then some []
  else
    CountedWalk.walkItems (fpdtLength memory) (fun _ => fpdtLength memory)
      (dumpFpdtTurn memory fpdt tableFuel) fuel (fpdt + sizeofFpdt)
      ((tableLength memory fpdt : Int) - sizeofFpdt) 0

def asfType (position : Nat) : Nat := memory.readLe position 1

def asfRecordLength (position : Nat) : Nat := memory.readLe (position + 2) 2

def isLastRecord (position : Nat) : Bool := asfType memory position &&& 0x80 == 0x80

def dumpAsfRecord (position : Nat) : DumpedStruct AsfKind where
  kind := asfKind (asfType memory position &&& 0x7F)
  place := ⟨position, asfRecordLength memory position⟩

def dumpAcpiASFT (fuel asft : Nat) : Option (List (DumpedStruct AsfKind)) :=
  if asft = 0 then some []
  else
    itemsToLast (asfRecordLength memory) (isLastRecord memory) (dumpAsfRecord memory) fuel
      (asft + sizeofAsft)

end Dump

/-! ## When the walks end inside the table -/

/-- The table at `pointed`, if there is one. -/
def RecordTableLeads (memory : Memory) (pointed : Nat) : Prop :=
  pointed ≠ 0 → LengthsLead (fpdtLength memory) fpdtHeaderSize (pointed + sizeofFpdtRecordTable)
    (pointed + tableLength memory pointed)

namespace AcpiTable

variable (table : AcpiTable)

/-- The walk over the structures ends, and every header that it reads lies in the table. -/
def EndsInside {Kind : Type} (headerSize : Nat)
    (dump : Memory → Nat → Nat → Option (List (DumpedStruct Kind))) : Prop :=
  ∃ fuel structs, dump table.memory fuel table.address = some structs ∧
    ∀ dumped ∈ structs, dumped.HeaderInside headerSize table.place

/-- Of the records of a table behind a pointer, each header lies in that table. -/
def FpdtEndsInside : Prop :=
  ∃ tableFuel fuel records, dumpAcpiFPDT table.memory tableFuel fuel table.address = some records ∧
    ∀ record ∈ records, record.dumped.HeaderInside fpdtHeaderSize record.holder

def NfitLengthsLead : Prop :=
  LengthsLead (nfitLength table.memory) nfitHeaderSize (table.address + sizeofNfit) table.finish

def FpdtLengthsLead : Prop :=
  LengthsLead (fpdtLength table.memory) fpdtHeaderSize (table.address + sizeofFpdt) table.finish

/-- The same of a table behind a pointer record that DumpAcpiFPDT comes to. -/
def PointedLengthsLead : Prop :=
  ∀ position, Reached (fpdtLength table.memory) table.finish (table.address + sizeofFpdt) position →
    position < table.finish → IsPointerRecord table.memory position →
      RecordTableLeads table.memory (performanceTablePointer table.memory position)

/-- The RecordLengths lead to a last record, with each header up to it in the table. -/
def LeadsToLast : Prop :=
  ∃ last, isLastRecord table.memory
      (positionAt (asfRecordLength table.memory) (table.address + sizeofAsft) last) = true ∧
    ∀ index ≤ last,
      positionAt (asfRecordLength table.memory) (table.address + sizeofAsft) index +
        asfHeaderSize ≤ table.finish

theorem headerInside_iff {Kind : Type} {headerSize : Nat} {dumped : DumpedStruct Kind}
    (behind : table.address ≤ dumped.place.start) :
    dumped.HeaderInside headerSize table.place ↔
      dumped.place.start + headerSize ≤ table.finish := by
  simp only [DumpedStruct.HeaderInside, Range.Inside, place, finish]
  omega

end AcpiTable

section Ends

variable {table : AcpiTable}

theorem walk_ends_iff {Item : Type} {length : Nat → Nat} {headerSize start limit : Nat}
    {remaining : Int} {item : Nat → Item} {Good : Item → Prop}
    (left : remaining + start = limit)
    (good : ∀ position, start ≤ position → (Good (item position) ↔ position + headerSize ≤ limit)) :
    (∃ fuel items, CountedWalk.walkItems length (fun _ => length)
        (fun position => some [item position]) fuel start remaining 0 = some items ∧
        ∀ item ∈ items, Good item) ↔
      LengthsLead length headerSize start limit := by
  have bounded := @CountedWalk.walkItems_eq_bounded Item length (fun _ => length) _ _ _
    (fun position => some [item position]) (fun _ _ _ _ => rfl) left
  simp only [bounded]
  rw [exists_walkItems_iff_of_body, LengthsLead]
  refine forall₃_congr fun position reached below => and_congr_right fun _ => ?_
  simp only [Option.some.injEq, exists_eq_left', List.forall_mem_singleton]
  exact good position reached.le

theorem endsInside_nfit_iff : table.EndsInside nfitHeaderSize dumpAcpiNFIT ↔
    table.NfitLengthsLead := by
  simp only [AcpiTable.EndsInside, dumpAcpiNFIT, if_neg table.notNull]
  refine walk_ends_iff ?_ fun position behind => table.headerInside_iff ?_
  · rw [AcpiTable.finish]
    omega
  · exact Nat.le_trans (Nat.le_add_right _ _) behind

theorem dumpFpdtRecordTable_ends_iff (kindOf : Nat → Option FpdtKind) {memory : Memory}
    {pointed : Nat} :
    (∃ fuel records, dumpFpdtRecordTable memory kindOf fuel pointed = some records ∧
        ∀ record ∈ records, record.dumped.HeaderInside fpdtHeaderSize record.holder) ↔
      RecordTableLeads memory pointed := by
  rw [RecordTableLeads]
  by_cases null : pointed = 0
  · simp [dumpFpdtRecordTable, null]
  · simp only [dumpFpdtRecordTable, ne_eq, null, not_false_eq_true, forall_const, if_false]
    refine walk_ends_iff (by omega) fun position behind => ?_
    simp only [fpdtRecord, DumpedStruct.HeaderInside, Range.Inside]
    omega

theorem dumpFpdtRecordTable_mono {kindOf : Nat → Option FpdtKind} {memory : Memory}
    {fuel more pointed : Nat} {records : List FpdtRecord} (le : fuel ≤ more)
    (run : dumpFpdtRecordTable memory kindOf fuel pointed = some records) :
    dumpFpdtRecordTable memory kindOf more pointed = some records := by
  rw [dumpFpdtRecordTable] at run ⊢
  by_cases null : pointed = 0
  · rwa [if_pos null] at run ⊢
  · rw [if_neg null] at run ⊢
    exact CountedWalk.walkItems_mono (fun _ _ same => same) le run

theorem dumpFpdtTurn_mono {memory : Memory} {fpdt fuel more position : Nat}
    {records : List FpdtRecord} (le : fuel ≤ more)
    (run : dumpFpdtTurn memory fpdt fuel position = some records) :
    dumpFpdtTurn memory fpdt more position = some records := by
  rw [dumpFpdtTurn] at run ⊢
  split at run
  · exact CountedWalk.map_goesOn (fun _ => dumpFpdtRecordTable_mono le) run
  · exact CountedWalk.map_goesOn (fun _ => dumpFpdtRecordTable_mono le) run
  · exact run

/-- A turn at a pointer record ends well with its own header and with the table behind it. -/
theorem pointer_ends_iff {dump : Nat → Option (List FpdtRecord)} {own : FpdtRecord}
    {Good : FpdtRecord → Prop} :
    (∃ fuel records, (dump fuel).map (own :: ·) = some records ∧ ∀ record ∈ records, Good record) ↔
      Good own ∧ ∃ fuel records, dump fuel = some records ∧ ∀ record ∈ records, Good record := by
  constructor
  · rintro ⟨fuel, records, run, good⟩
    obtain ⟨rest, behind, rfl⟩ := Option.map_eq_some_iff.mp run
    rw [List.forall_mem_cons] at good
    exact ⟨good.1, fuel, rest, behind, good.2⟩
  · rintro ⟨own, fuel, rest, run, good⟩
    exact ⟨fuel, _ :: rest, by rw [run, Option.map_some], List.forall_mem_cons.mpr ⟨own, good⟩⟩

theorem dumpFpdtTurn_ends_iff {position : Nat} (behind : table.address ≤ position) :
    (∃ fuel records, dumpFpdtTurn table.memory table.address fuel position = some records ∧
        ∀ record ∈ records, record.dumped.HeaderInside fpdtHeaderSize record.holder) ↔
      position + fpdtHeaderSize ≤ table.finish ∧
        (IsPointerRecord table.memory position →
          RecordTableLeads table.memory (performanceTablePointer table.memory position)) := by
  have own : (fpdtRecord table.memory fpdtKind table.address position).dumped.HeaderInside
      fpdtHeaderSize (fpdtRecord table.memory fpdtKind table.address position).holder ↔
        position + fpdtHeaderSize ≤ table.finish := table.headerInside_iff behind
  rw [← own]
  simp only [dumpFpdtTurn, IsPointerRecord]
  rcases fpdtType table.memory position with _ | _ | type
  · simp only [true_or, forall_const, dumpFpdtBasicBootTable]
    rw [pointer_ends_iff, dumpFpdtRecordTable_ends_iff]
  · simp only [Nat.zero_add, or_true, forall_const, dumpFpdtS3BootTable]
    rw [pointer_ends_iff, dumpFpdtRecordTable_ends_iff]
  · simp

theorem fpdtEndsInside_iff : table.FpdtEndsInside ↔
    table.FpdtLengthsLead ∧ table.PointedLengthsLead := by
  have left : (tableLength table.memory table.address : Int) - sizeofFpdt +
      (table.address + sizeofFpdt : Nat) = (table.finish : Nat) := by
    rw [AcpiTable.finish]
    omega
  have bounded := fun tableFuel => @CountedWalk.walkItems_eq_bounded FpdtRecord
    (fpdtLength table.memory) (fun _ => fpdtLength table.memory) _ _ _
    (dumpFpdtTurn table.memory table.address tableFuel) (fun _ _ _ _ => rfl) left
  have walk := @exists_walkItems_iff FpdtRecord (fpdtLength table.memory) table.finish
    (dumpFpdtTurn table.memory table.address)
    (fun record => record.dumped.HeaderInside fpdtHeaderSize record.holder) dumpFpdtTurn_mono
  simp only [AcpiTable.FpdtEndsInside, dumpAcpiFPDT, if_neg table.notNull, bounded]
  rw [walk, AcpiTable.FpdtLengthsLead, LengthsLead, AcpiTable.PointedLengthsLead]
  constructor
  · intro all
    refine ⟨fun position reached below => ?_, fun position reached below => ?_⟩
    · obtain ⟨progress, ends⟩ := all position reached below
      have behind := Nat.le_trans (Nat.le_add_right _ _) reached.le
      exact ⟨progress, ((dumpFpdtTurn_ends_iff behind).mp ends).1⟩
    · obtain ⟨progress, ends⟩ := all position reached below
      have behind := Nat.le_trans (Nat.le_add_right _ _) reached.le
      exact ((dumpFpdtTurn_ends_iff behind).mp ends).2
  · rintro ⟨own, pointed⟩ position reached below
    obtain ⟨progress, header⟩ := own position reached below
    have behind := Nat.le_trans (Nat.le_add_right _ _) reached.le
    exact ⟨progress, (dumpFpdtTurn_ends_iff behind).mpr ⟨header, pointed position reached below⟩⟩

theorem start_le_positionAt (length : Nat → Nat) (start index : Nat) :
    start ≤ positionAt length start index := by
  induction index generalizing start with
  | zero => exact Nat.le_refl _
  | succ index ih => exact Nat.le_trans (Nat.le_add_right _ _) (ih _)

theorem endsInside_asft_iff : table.EndsInside asfHeaderSize dumpAcpiASFT ↔
    table.LeadsToLast := by
  simp only [AcpiTable.EndsInside, dumpAcpiASFT, if_neg table.notNull]
  rw [exists_itemsToLast_iff, AcpiTable.LeadsToLast]
  refine exists_congr fun last => and_congr_right fun _ => forall₂_congr fun index _ => ?_
  have behind := start_le_positionAt (asfRecordLength table.memory)
    (table.address + sizeofAsft) index
  exact table.headerInside_iff (Nat.le_trans (Nat.le_add_right _ _) behind)

end Ends

/-- A MADT whose structures are of known types and as long as the dumper counts them. -/
structure CountedMadt extends AcpiTable where
  counted : ∀ position,
    Reached (structLength memory) toAcpiTable.finish (address + madtDumper.headerSize) position →
      position < toAcpiTable.finish → ∃ kind, apicKind (structType memory position) = some kind ∧
        kind.tableLen (structLength memory position) = structLength memory position

def CountedMadt.LengthsLead (madt : CountedMadt) : Prop :=
  DumpAcpi.LengthsLead (structLength madt.memory) structHeaderSize
    (madt.address + madtDumper.headerSize) madt.finish

theorem endsInside_madt_iff {madt : CountedMadt} :
    madt.EndsInside structHeaderSize dumpAcpiMADT ↔ madt.LengthsLead := by
  have left : structsLen madtDumper madt.memory madt.address +
      (madt.address + madtDumper.headerSize : Nat) = (madt.finish : Nat) := by
    rw [structsLen, AcpiTable.finish]
    omega
  have charged : ∀ position,
      Reached (structLength madt.memory) madt.finish (madt.address + madtDumper.headerSize)
        position → position < madt.finish → ∀ previous,
          countedLen madtDumper madt.memory previous position =
            structLength madt.memory position := by
    intro position reached below previous
    obtain ⟨kind, known, size⟩ := madt.counted position reached below
    rw [countedLen, show madtDumper.kindOf _ = some kind from known]
    exact size
  have bounded := CountedWalk.walkItems_eq_bounded
    (fun position => some [dumpStruct madtDumper madt.memory position]) charged left
  simp only [AcpiTable.EndsInside, dumpAcpiMADT, dumpStructs, if_neg madt.notNull, bounded]
  rw [exists_walkItems_iff_of_body, CountedMadt.LengthsLead, LengthsLead]
  refine forall₃_congr fun position reached below => and_congr_right fun _ => ?_
  simp only [Option.some.injEq, exists_eq_left', List.forall_mem_singleton]
  exact madt.headerInside_iff (Nat.le_trans (Nat.le_add_right _ _) reached.le)

/-- Each dump ends with its headers in the table exactly when the Lengths lead it there. -/
theorem structureWalks_endInside_iff (nfit fpdt asft : AcpiTable) (madt : CountedMadt) :
    (nfit.EndsInside nfitHeaderSize dumpAcpiNFIT ↔ nfit.NfitLengthsLead) ∧
      (fpdt.FpdtEndsInside ↔ fpdt.FpdtLengthsLead ∧ fpdt.PointedLengthsLead) ∧
      (asft.EndsInside asfHeaderSize dumpAcpiASFT ↔ asft.LeadsToLast) ∧
      (madt.EndsInside structHeaderSize dumpAcpiMADT ↔ madt.LengthsLead) :=
  ⟨endsInside_nfit_iff, fpdtEndsInside_iff, endsInside_asft_iff, endsInside_madt_iff⟩

/-- One local APIC structure. -/
def localApicMadt : CountedMadt where
  memory := Memory.ofBytesAt 0x1004 ([52, 0, 0, 0] ++ List.replicate 36 0 ++ [0, 8])
  address := 0x1000
  notNull := Memory.secondPage_ne_null
  counted := by
    rw [forall_reached_iff (by decide)]
    refine ⟨⟨.processorLocalApic, by decide, by decide⟩, fun position reached below => ?_⟩
    exact absurd reached.le (Nat.not_le.mpr (Nat.lt_of_lt_of_le below (by decide)))

example : dumpAcpiMADT localApicMadt.memory 1 localApicMadt.address =
    some [⟨some .processorLocalApic, ⟨0x102C, 8⟩⟩] := by decide

/-- A table of 44 bytes whose only structure has the Length 0. -/
def zeroLengthNfit : AcpiTable where
  memory := Memory.ofBytesAt 0x1004 [44, 0, 0, 0]
  address := 0x1000
  notNull := Memory.secondPage_ne_null

/-- A table of 40 bytes whose only record does not call itself the last one. -/
def endlessAsft : AcpiTable where
  memory := Memory.ofBytesAt 0x1004 ([40, 0, 0, 0] ++ List.replicate 28 0 ++ [0, 0, 4, 0])
  address := 0x1000
  notNull := Memory.secondPage_ne_null

theorem not_endsInside_zeroLength_endless :
    ¬ zeroLengthNfit.EndsInside nfitHeaderSize dumpAcpiNFIT ∧
      ¬ endlessAsft.EndsInside asfHeaderSize dumpAcpiASFT := by
  constructor
  · intro ends
    have leads := endsInside_nfit_iff.mp ends
    exact absurd (leads _ .start (by decide)).1 (by decide)
  · intro ends
    obtain ⟨last, flagged, upTo⟩ := endsInside_asft_iff.mp ends
    cases last with
    | zero => exact absurd flagged (by decide)
    | succ last => exact absurd (upTo 1 (Nat.le_add_left 1 last)) (by decide)

end AppEfi.DumpAcpi
