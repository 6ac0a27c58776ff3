import AppEfi.DumpAcpi.DumpSelectAcpiTable
import AppEfi.Lib.Ranges
import AppEfi.Lib.RecordWalk

/-!
# Error sources of the HEST

DumpAcpiHEST where verbose output is on.  The loop computes the size of each error source by
its type, while the dump functions walk the machine check banks on their own.  The sizes of
the structures are those of the header that declares them.
-/

set_option autoImplicit false

namespace AppEfi.DumpAcpi

open AppEfi.RecordWalk

inductive ErrorSourceKind where
  | ia32MachineCheckException
  | ia32CorrectedMachineCheck
  | ia32NmiError
  | pcieRootPortAer
  | pcieDeviceAer
  | pcieBridgeAer
  | genericHardwareError
  deriving DecidableEq, Repr

namespace ErrorSourceKind

def type : ErrorSourceKind → Nat
  | .ia32MachineCheckException => 0
  | .ia32CorrectedMachineCheck => 1
  | .ia32NmiError => 2
  | .pcieRootPortAer => 6
  | .pcieDeviceAer => 7
  | .pcieBridgeAer => 8
  | .genericHardwareError => 9

def HasBanks (kind : ErrorSourceKind) : Prop :=
  kind = .ia32MachineCheckException ∨ kind = .ia32CorrectedMachineCheck

instance (kind : ErrorSourceKind) : Decidable kind.HasBanks := inferInstanceAs (Decidable (_ ∨ _))

end ErrorSourceKind

/-- `switch (ErrorSourceHead->Type)`. -/
def errorSourceKind : Nat → Option ErrorSourceKind
  | 0 => some .ia32MachineCheckException
  | 1 => some .ia32CorrectedMachineCheck
  | 2 => some .ia32NmiError
  | 6 => some .pcieRootPortAer
  | 7 => some .pcieDeviceAer
  | 8 => some .pcieBridgeAer
  | 9 => some .genericHardwareError
  | _ => none

/-- The `sizeof` of the structures, and where a machine check structure has its
NumberOfHardwareBanks. -/
structure HestSizes where
  errorSource : ErrorSourceKind → Nat
  machineCheckErrorBank : Nat
  banksOffset : ErrorSourceKind → Nat
  inside : ∀ kind : ErrorSourceKind, kind.HasBanks → banksOffset kind < errorSource kind

inductive HestReport where
  | errorSource (kind : ErrorSourceKind) (place : Range)
  | machineCheckErrorBank (place : Range)
  | unknownType (type : Nat)
  deriving DecidableEq, Repr

/-- The bytes that a report is about. -/
def HestReport.place? : HestReport → Option Range
  | .errorSource _ place => some place
  | .machineCheckErrorBank place => some place
  | .unknownType _ => none

/-- A turn of the loop: where it was, what it reported and how far it went on. -/
structure SourceTurn where
  position : Nat
  reports : List HestReport
  step : Nat
  deriving DecidableEq, Repr

def hestHeaderSize : Nat := 40

section Dump

variable (sizes : HestSizes) (memory : Memory)

def errorSourceCount (hest : Nat) : Nat := memory.readLe (hest + 36) 4

def errorSourceType (errorSource : Nat) : Nat := memory.readLe errorSource 2

def numberOfHardwareBanks (kind : ErrorSourceKind) (errorSource : Nat) : Nat :=
  memory.readLe (errorSource + sizes.banksOffset kind) 1

def dumpHestMachineCheckErrorBank (bank : Nat) : List HestReport :=
  if bank = 0 then [] else [.machineCheckErrorBank ⟨bank, sizes.machineCheckErrorBank⟩]

/-- The loop over the banks with `count` to go. -/
def dumpBanks : Nat → Nat → List HestReport
  | 0, _ => []
  | count + 1, bank =>
      dumpHestMachineCheckErrorBank sizes bank ++
        dumpBanks count (bank + sizes.machineCheckErrorBank)

/-- The dump of a structure with banks behind it. -/
def dumpHestMachineCheck (kind : ErrorSourceKind) (errorSource : Nat) : List HestReport :=
  if errorSource = 0 then []
  else
    .errorSource kind ⟨errorSource, sizes.errorSource kind⟩ ::
      dumpBanks sizes (numberOfHardwareBanks sizes memory kind errorSource)
        (errorSource + sizes.errorSource kind)

/-- The dump of a structure with nothing behind it. -/
def dumpHestSingle (kind : ErrorSourceKind) (errorSource : Nat) : List HestReport :=
  if errorSource = 0 then [] else [.errorSource kind ⟨errorSource, sizes.errorSource kind⟩]

def dumpHestIa32MachineCheckException : Nat → List HestReport :=
  dumpHestMachineCheck sizes memory .ia32MachineCheckException

def dumpHestIa32CorrectedMachineCheck : Nat → List HestReport :=
  dumpHestMachineCheck sizes memory .ia32CorrectedMachineCheck

def dumpHestIa32NmiError : Nat → List HestReport := dumpHestSingle sizes .ia32NmiError

def dumpHestPcieRootPortAer : Nat → List HestReport := dumpHestSingle sizes .pcieRootPortAer

def dumpHestPcieDeviceAer : Nat → List HestReport := dumpHestSingle sizes .pcieDeviceAer

def dumpHestPcieBridgeAer : Nat → List HestReport := dumpHestSingle sizes .pcieBridgeAer

def dumpHestGenericHardwareError : Nat → List HestReport :=
  dumpHestSingle sizes .genericHardwareError

/-- The cases of the switch: `ErrorSourceLength` and the dump function. -/
def errorSourceLength (kind : ErrorSourceKind) (errorSource : Nat) : Nat :=
  match kind with
  | .ia32MachineCheckException =>
      sizes.errorSource .ia32MachineCheckException +
        numberOfHardwareBanks sizes memory .ia32MachineCheckException errorSource *
          sizes.machineCheckErrorBank
  | .ia32CorrectedMachineCheck =>
      sizes.errorSource .ia32CorrectedMachineCheck +
        numberOfHardwareBanks sizes memory .ia32CorrectedMachineCheck errorSource *
          sizes.machineCheckErrorBank
  | .ia32NmiError => sizes.errorSource .ia32NmiError
  | .pcieRootPortAer => sizes.errorSource .pcieRootPortAer
  | .pcieDeviceAer => sizes.errorSource .pcieDeviceAer
  | .pcieBridgeAer => sizes.errorSource .pcieBridgeAer
  | .genericHardwareError => sizes.errorSource .genericHardwareError

def dumpErrorSource (kind : ErrorSourceKind) (errorSource : Nat) : List HestReport :=
  match kind with
  | .ia32MachineCheckException => dumpHestIa32MachineCheckException sizes memory errorSource
  | .ia32CorrectedMachineCheck => dumpHestIa32CorrectedMachineCheck sizes memory errorSource
  | .ia32NmiError => dumpHestIa32NmiError sizes errorSource
  | .pcieRootPortAer => dumpHestPcieRootPortAer sizes errorSource
  | .pcieDeviceAer => dumpHestPcieDeviceAer sizes errorSource
  | .pcieBridgeAer => dumpHestPcieBridgeAer sizes errorSource
  | .genericHardwareError => dumpHestGenericHardwareError sizes errorSource

/-- The loop with `count` error sources to go.  An unknown type ends it. -/
def dumpErrorSources : Nat → Nat → List SourceTurn
  | 0, _ => []
  | count + 1, errorSource =>
      match errorSourceKind (errorSourceType memory errorSource) with
      | none => [⟨errorSource, [.unknownType (errorSourceType memory errorSource)], 0⟩]
      | some kind =>
          ⟨errorSource, dumpErrorSource sizes memory kind errorSource,
              errorSourceLength sizes memory kind errorSource⟩ ::
            dumpErrorSources count (errorSource + errorSourceLength sizes memory kind errorSource)

/-- Without `GetAcpiDumpPropertyDumpVerb ()` the function goes to Done behind the hex dump. -/
def dumpAcpiHEST (dumpVerb : Bool) (hest : Nat) : List SourceTurn :=
  if hest = 0 then []
  else if dumpVerb = false then []
  else dumpErrorSources sizes memory (errorSourceCount memory hest) (hest + hestHeaderSize)

end Dump

/-! ## Tables -/

/-- What a table is built from.  Only machine check structures have banks. -/
structure ErrorSource where
  kind : ErrorSourceKind
  banks : UInt8
  deriving DecidableEq, Repr

namespace ErrorSource

variable (sizes : HestSizes)

def bankCount (source : ErrorSource) : Nat :=
  if source.kind.HasBanks then source.banks.toNat else 0

def length (source : ErrorSource) : Nat :=
  sizes.errorSource source.kind + source.bankCount * sizes.machineCheckErrorBank

def StoredAt (memory : Memory) (position : Nat) (source : ErrorSource) : Prop :=
  errorSourceType memory position = source.kind.type ∧
    (source.kind.HasBanks →
      numberOfHardwareBanks sizes memory source.kind position = source.banks.toNat)

/-- The structure and its banks, each where it lies. -/
def contents (position : Nat) (source : ErrorSource) : List HestReport :=
  .errorSource source.kind ⟨position, sizes.errorSource source.kind⟩ ::
    (List.range source.bankCount).map fun index =>
      .machineCheckErrorBank ⟨position + sizes.errorSource source.kind +
        index * sizes.machineCheckErrorBank, sizes.machineCheckErrorBank⟩

end ErrorSource

structure HestTable (sizes : HestSizes) where
  memory : Memory
  address : Nat
  notNull : address ≠ 0
  sources : List ErrorSource
  count : errorSourceCount memory address = sources.length
  stored : ∀ entry ∈ placed (ErrorSource.length sizes) (address + hestHeaderSize) sources,
    entry.2.StoredAt sizes memory entry.1

section Turns

variable {sizes : HestSizes} {memory : Memory} {position : Nat} {source : ErrorSource}

theorem errorSourceKind_type (kind : ErrorSourceKind) : errorSourceKind kind.type = some kind := by
  cases kind <;> rfl

theorem dumpBanks_eq {bank : Nat} (notNull : bank ≠ 0) (count : Nat) :
    dumpBanks sizes count bank = (List.range count).map fun index =>
      .machineCheckErrorBank
        ⟨bank + index * sizes.machineCheckErrorBank, sizes.machineCheckErrorBank⟩ := by
  induction count generalizing bank with
  | zero => rfl
  | succ count ih =>
      rw [dumpBanks, dumpHestMachineCheckErrorBank, if_neg notNull, ih (by omega),
        List.range_succ_eq_map, List.map_cons, List.map_map, Nat.zero_mul, Nat.add_zero,
        List.singleton_append]
      congr 1
      refine List.map_congr_left fun index _ => ?_
      rw [Function.comp_apply, Nat.succ_mul, Nat.add_assoc,
        Nat.add_comm sizes.machineCheckErrorBank]

theorem errorSourceLength_eq (stored : source.StoredAt sizes memory position) :
    errorSourceLength sizes memory source.kind position = source.length sizes := by
  obtain ⟨kind, banks⟩ := source
  obtain ⟨_, count⟩ := stored
  cases kind with
  | ia32MachineCheckException =>
      rw [errorSourceLength, count (Or.inl rfl)]
      rfl
  | ia32CorrectedMachineCheck =>
      rw [errorSourceLength, count (Or.inr rfl)]
      rfl
  | _ => simp [errorSourceLength, ErrorSource.length, ErrorSource.bankCount,
      ErrorSourceKind.HasBanks]

theorem dumpErrorSource_eq (notNull : position ≠ 0)
    (stored : source.StoredAt sizes memory position) :
    dumpErrorSource sizes memory source.kind position = source.contents sizes position := by
  obtain ⟨kind, banks⟩ := source
  obtain ⟨_, count⟩ := stored
  cases kind with
  | ia32MachineCheckException =>
      rw [dumpErrorSource, dumpHestIa32MachineCheckException, dumpHestMachineCheck,
        if_neg notNull, count (Or.inl rfl), dumpBanks_eq (by omega)]
      rfl
  | ia32CorrectedMachineCheck =>
      rw [dumpErrorSource, dumpHestIa32CorrectedMachineCheck, dumpHestMachineCheck,
        if_neg notNull, count (Or.inr rfl), dumpBanks_eq (by omega)]
      rfl
  | ia32NmiError => exact if_neg notNull
  | pcieRootPortAer => exact if_neg notNull
  | pcieDeviceAer => exact if_neg notNull
  | pcieBridgeAer => exact if_neg notNull
  | genericHardwareError => exact if_neg notNull

/-- A structure and its banks leave no gap and reach to the next source. -/
theorem tiles_contents (position : Nat) (source : ErrorSource) :
    Range.Tiles position (position + source.length sizes)
      ((source.contents sizes position).filterMap HestReport.place?) := by
  have banks : ∀ count start : Nat, Range.Tiles start (start + count * sizes.machineCheckErrorBank)
      (((List.range count).map fun index => HestReport.machineCheckErrorBank
        ⟨start + index * sizes.machineCheckErrorBank, sizes.machineCheckErrorBank⟩).filterMap
          HestReport.place?) := by
    intro count start
    induction count with
    | zero =>
        rw [Nat.zero_mul]
        exact (Nat.add_zero start).symm
    | succ count ih =>
        rw [List.range_succ, List.map_append, List.filterMap_append, Nat.succ_mul, ← Nat.add_assoc]
        exact ih.snoc sizes.machineCheckErrorBank
  refine ⟨rfl, ?_⟩
  rw [ErrorSource.length, ← Nat.add_assoc]
  exact banks source.bankCount (position + sizes.errorSource source.kind)

end Turns

/-- The turn that a source deserves. -/
def ErrorSource.turn (sizes : HestSizes) (entry : Nat × ErrorSource) : SourceTurn :=
  ⟨entry.1, entry.2.contents sizes entry.1, entry.2.length sizes⟩

theorem dumpErrorSources_eq {sizes : HestSizes} {memory : Memory} {position : Nat}
    (notNull : position ≠ 0) (sources : List ErrorSource)
    (stored : ∀ entry ∈ placed (ErrorSource.length sizes) position sources,
      entry.2.StoredAt sizes memory entry.1) :
    dumpErrorSources sizes memory sources.length position =
      (placed (ErrorSource.length sizes) position sources).map (ErrorSource.turn sizes) := by
  induction sources generalizing position with
  | nil => rfl
  | cons source rest ih =>
      rw [placed, List.forall_mem_cons] at stored
      obtain ⟨here, later⟩ := stored
      have step := errorSourceLength_eq here
      have dump := dumpErrorSource_eq notNull here
      dsimp only at here step dump
      rw [List.length_cons, dumpErrorSources, here.1, errorSourceKind_type]
      dsimp only
      rw [step, dump, ih (by omega) later, placed, List.map_cons, ErrorSource.turn]

/-- One turn for each of ErrorSourceCount sources, at its start and in order, which reports
the source and its banks and goes on by the bytes that it covered. -/
structure VisitsEach {sizes : HestSizes} (table : HestTable sizes) (turns : List SourceTurn) :
    Prop where
  count : turns.length = errorSourceCount table.memory table.address
  starts : turns.map SourceTurn.position =
    starts (ErrorSource.length sizes) (table.address + hestHeaderSize) table.sources
  contents : turns.map SourceTurn.reports =
    (placed (ErrorSource.length sizes) (table.address + hestHeaderSize) table.sources).map
      fun entry => entry.2.contents sizes entry.1
  steps : ∀ turn ∈ turns, Range.Tiles turn.position (turn.position + turn.step)
    (turn.reports.filterMap HestReport.place?)

/-- With verbose output on each source is visited, and without it none. -/
theorem dumpAcpiHEST_visitsEach (sizes : HestSizes) (table : HestTable sizes) :
    VisitsEach table (dumpAcpiHEST sizes table.memory true table.address) ∧
      dumpAcpiHEST sizes table.memory false table.address = [] := by
  have notNull := table.notNull
  rw [dumpAcpiHEST, dumpAcpiHEST, if_neg notNull, if_neg notNull, if_neg (by decide),
    if_pos rfl, table.count, dumpErrorSources_eq (by omega) table.sources table.stored]
  refine ⟨⟨?_, ?_, ?_, ?_⟩, rfl⟩
  · rw [List.length_map, table.count, ← List.length_map (f := Prod.snd), map_snd_placed]
  · rw [List.map_map]
    rfl
  · rw [List.map_map]
    rfl
  · rw [List.forall_mem_map]
    exact fun entry _ => tiles_contents entry.1 entry.2

/-! ## The sizes of the ACPI 4.0 header -/

def acpi40Sizes : HestSizes where
  errorSource
    | .ia32MachineCheckException => 40
    | .ia32CorrectedMachineCheck => 48
    | .ia32NmiError => 18
    | .pcieRootPortAer => 48
    | .pcieDeviceAer => 44
    | .pcieBridgeAer => 56
    | .genericHardwareError => 64
  machineCheckErrorBank := 28
  banksOffset
    | .ia32MachineCheckException => 32
    | _ => 44
  inside := by
    rintro kind (rfl | rfl)
    · decide
    · decide

/-- A corrected machine check with one bank in front of an NMI error. -/
def bankedHest : HestTable acpi40Sizes where
  memory := Memory.ofBytesAt 0x1024
    ([2, 0, 0, 0, 1, 0] ++ List.replicate 42 0 ++ [1, 0, 0, 0] ++ List.replicate 28 0 ++ [2, 0])
  address := 0x1000
  notNull := Memory.secondPage_ne_null
  sources := [⟨.ia32CorrectedMachineCheck, 1⟩, ⟨.ia32NmiError, 0⟩]
  count := by decide
  stored := by
    simp only [placed, List.forall_mem_cons, ErrorSource.StoredAt]
    decide

/-- `DumpACPI -d` visits neither of the two. -/
theorem dumpAcpiHEST_dumpData :
    ¬ ∀ dumpVerb, VisitsEach bankedHest
      (dumpAcpiHEST acpi40Sizes bankedHest.memory dumpVerb bankedHest.address) := by
  intro visits
  exact absurd (visits false).count (by decide)

example :
    dumpAcpiHEST acpi40Sizes bankedHest.memory true bankedHest.address =
      [⟨0x1028, [.errorSource .ia32CorrectedMachineCheck ⟨0x1028, 48⟩,
          .machineCheckErrorBank ⟨0x1058, 28⟩], 76⟩,
        ⟨0x1074, [.errorSource .ia32NmiError ⟨0x1074, 18⟩], 18⟩] := by decide

end AppEfi.DumpAcpi
