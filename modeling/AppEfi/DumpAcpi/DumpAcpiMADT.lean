import AppEfi.DumpAcpi.DumpSelectAcpiTable
import AppEfi.Lib.CountedWalk

/-!
# The structures of the MADT and of the SRAT

DumpAcpiMADT and DumpAcpiSRAT where verbose output is on.  The loops go on by the Length of a
structure, but count the `sizeof` of its type; for a type that the switch does not have they
count what they counted before.  A UINTN has 8 bytes.
-/

set_option autoImplicit false

namespace AppEfi.DumpAcpi

open AppEfi.CountedWalk

section Fields

variable (memory : Memory)

/-- `Type` of APIC_STRUCT_HEADER and of AFFINITY_STRUCT_HEADER. -/
def structType (position : Nat) : Nat := memory.readLe position 1

def structLength (position : Nat) : Nat := memory.readLe (position + 1) 1

end Fields

def structHeaderSize : Nat := 2

/-- A switch over structure types: how long the table's header is, what the switch takes a
type for, and what it counts for a structure of the given Length. -/
structure StructDumper (Kind : Type) where
  headerSize : Nat
  kindOf : Nat → Option Kind
  tableLen : Kind → Nat → Nat

/-- A structure that the loop comes to.  Without a kind nothing is printed. -/
structure DumpedStruct (Kind : Type) where
  kind : Option Kind
  place : Range
  deriving DecidableEq, Repr

section Dump

variable {Kind : Type} (dumper : StructDumper Kind) (memory : Memory)

def dumpStruct (position : Nat) : DumpedStruct Kind where
  kind := dumper.kindOf (structType memory position)
  place := ⟨position, structLength memory position⟩

/-- `TableLen` behind the switch. -/
def countedLen (previous position : Nat) : Nat :=
  match dumper.kindOf (structType memory position) with
  | some kind => dumper.tableLen kind (structLength memory position)
  | none => previous

def structsLen (table : Nat) : Int := (tableLength memory table : Int) - dumper.headerSize

def dumpStructs (fuel table : Nat) : Option (List (DumpedStruct Kind)) :=
  if table = 0 then some []
  else
    walkItems (structLength memory) (countedLen dumper memory)
      (fun position => some [dumpStruct dumper memory position]) fuel
      (table + dumper.headerSize) (structsLen dumper memory table) 0

end Dump

/-! ## DumpAcpiMADT -/

inductive ApicKind where
  | processorLocalApic
  | ioApic
  | interruptSourceOverride
  | nonMaskableInterruptSource
  | localApicNMI
  | localApicAddressOverride
  | ioSapic
  | processorLocalSapic
  | platformInterruptSource
  | processorLocalX2Apic
  | localX2ApicNmi
  | gic
  | gicDistributor
  | gicMsiFrame
  | gicRedistributor
  deriving DecidableEq, Repr

def apicKind : Nat → Option ApicKind
  | 0x0 => some .processorLocalApic
  | 0x1 => some .ioApic
  | 0x2 => some .interruptSourceOverride
  | 0x3 => some .nonMaskableInterruptSource
  | 0x4 => some .localApicNMI
  | 0x5 => some .localApicAddressOverride
  | 0x6 => some .ioSapic
  | 0x7 => some .processorLocalSapic
  | 0x8 => some .platformInterruptSource
  | 0x9 => some .processorLocalX2Apic
  | 0xA => some .localX2ApicNmi
  | 0xB => some .gic
  | 0xC => some .gicDistributor
  | 0xD => some .gicMsiFrame
  | 0xE => some .gicRedistributor
  | _ => none

def ApicKind.tableLen : ApicKind → Nat → Nat
  | .processorLocalApic, _ => 8
  | .ioApic, _ => 12
  | .interruptSourceOverride, _ => 10
  | .nonMaskableInterruptSource, _ => 8
  | .localApicNMI, _ => 6
  | .localApicAddressOverride, _ => 12
  | .ioSapic, _ => 16
  -- the structure of ACPI 2.0, without the UID string that later ones end with
  | .processorLocalSapic, _ => 12
  | .platformInterruptSource, _ => 16
  | .processorLocalX2Apic, _ => 16
  | .localX2ApicNmi, _ => 12
  | .gic, length => length
  | .gicDistributor, length => length
  | .gicMsiFrame, length => length
  | .gicRedistributor, length => length

def madtDumper : StructDumper ApicKind where
  headerSize := 44
  kindOf := apicKind
  tableLen := ApicKind.tableLen

def dumpAcpiMADT (memory : Memory) (fuel madt : Nat) : Option (List (DumpedStruct ApicKind)) :=
  dumpStructs madtDumper memory fuel madt

/-! ## DumpAcpiSRAT -/

inductive AffinityKind where
  | processorLocalApicSapicAffinity
  | memoryAffinity
  deriving DecidableEq, Repr

def affinityKind : Nat → Option AffinityKind
  | 0x0 => some .processorLocalApicSapicAffinity
  | 0x1 => some .memoryAffinity
  | _ => none

def AffinityKind.tableLen : AffinityKind → Nat → Nat
  | .processorLocalApicSapicAffinity, _ => 16
  | .memoryAffinity, _ => 40

def sratDumper : StructDumper AffinityKind where
  headerSize := 48
  kindOf := affinityKind
  tableLen := AffinityKind.tableLen

def dumpAcpiSRAT (memory : Memory) (fuel srat : Nat) :
    Option (List (DumpedStruct AffinityKind)) :=
  dumpStructs sratDumper memory fuel srat

/-! ## Well-formed tables -/

/-- A table whose structures lie back to back from its header to its end. -/
structure StructTable {Kind : Type} (dumper : StructDumper Kind) where
  memory : Memory
  address : Nat
  notNull : address ≠ 0
  structs : List Range
  laidOut : LaidOut (structLength memory) structHeaderSize (address + dumper.headerSize)
    (address + tableLength memory address) structs

namespace StructTable

variable {Kind : Type} {dumper : StructDumper Kind} (table : StructTable dumper)

def expected : List (DumpedStruct Kind) :=
  table.structs.map fun place => ⟨dumper.kindOf (structType table.memory place.start), place⟩

/-- The dump ends and came to each structure once, in order.  The places reach to the table's
end, and so the walk stops there. -/
def ReachesEach (dump : Memory → Nat → Nat → Option (List (DumpedStruct Kind))) : Prop :=
  ∃ fuel, dump table.memory fuel table.address = some table.expected

/-- The counted sizes reach the length of all structures with the last one and not before. -/
def SizesCountOut : Prop :=
  CountsOut (countedLen dumper table.memory) (structsLen dumper table.memory table.address) 0
    (table.structs.map Range.start)

instance : Decidable table.SizesCountOut := inferInstanceAs (Decidable (CountsOut _ _ _ _))

theorem expected_eq :
    table.expected = (table.structs.map Range.start).map (dumpStruct dumper table.memory) := by
  rw [expected, List.map_map]
  apply List.map_congr_left
  intro place listed
  have length := table.laidOut.lengths place listed
  rw [Function.comp_apply, dumpStruct, length]

theorem dumpStruct_injective (memory : Memory) :
    Function.Injective (dumpStruct dumper memory) := by
  intro first second same
  exact congrArg (fun dumped : DumpedStruct Kind => dumped.place.start) same

theorem reachesEach_dumpStructs :
    table.ReachesEach (dumpStructs dumper) ↔ table.SizesCountOut := by
  rw [ReachesEach, expected_eq]
  simp only [dumpStructs, if_neg table.notNull]
  exact exists_walkItems_single_iff table.laidOut _ 0 (dumpStruct_injective table.memory)

/-- Structures of known types that are as long as the dumper counts them are all reached. -/
theorem reachesEach_of_sized
    (sized : ∀ place ∈ table.structs, ∃ kind,
      dumper.kindOf (structType table.memory place.start) = some kind ∧
        dumper.tableLen kind place.length = place.length) :
    table.ReachesEach (dumpStructs dumper) := by
  rw [reachesEach_dumpStructs]
  refine table.laidOut.countsOut (by decide) ?_ ?_ 0
  · intro place listed previous
    obtain ⟨kind, known, size⟩ := sized place listed
    rw [countedLen, known, table.laidOut.lengths place listed]
    exact size
  · rw [structsLen]
    omega

end StructTable

/-- Both dumps come to every structure exactly when the counted sizes count out. -/
theorem madt_srat_reachEach_iff (madt : StructTable madtDumper) (srat : StructTable sratDumper) :
    (madt.ReachesEach dumpAcpiMADT ↔ madt.SizesCountOut) ∧
      (srat.ReachesEach dumpAcpiSRAT ↔ srat.SizesCountOut) :=
  ⟨madt.reachesEach_dumpStructs, srat.reachesEach_dumpStructs⟩

/-! ## Tables that are not counted out -/

/-- A local SAPIC structure of ACPI 3.0: 20 bytes, with its UID string. -/
def localSapicMadt : StructTable madtDumper where
  memory := Memory.ofBytesAt 0x1004 ([64, 0, 0, 0] ++ List.replicate 36 0 ++ [7, 20])
  address := 0x1000
  notNull := Memory.secondPage_ne_null
  structs := [⟨0x102C, 20⟩]
  laidOut :=
    { tiles := by decide
      lengths := by decide
      long := by decide }

/-- A local x2APIC affinity structure, which the dumper does not know. -/
def x2ApicAffinitySrat : StructTable sratDumper where
  memory := Memory.ofBytesAt 0x1004 ([72, 0, 0, 0] ++ List.replicate 40 0 ++ [2, 24])
  address := 0x1000
  notNull := Memory.secondPage_ne_null
  structs := [⟨0x1030, 24⟩]
  laidOut :=
    { tiles := by decide
      lengths := by decide
      long := by decide }

theorem not_reachEach_longStruct_unknownStruct :
    ¬ localSapicMadt.ReachesEach dumpAcpiMADT ∧
      ¬ x2ApicAffinitySrat.ReachesEach dumpAcpiSRAT := by
  have longer : ¬ localSapicMadt.SizesCountOut := by decide
  have unknown : ¬ x2ApicAffinitySrat.SizesCountOut := by decide
  exact ⟨fun reaches => longer (localSapicMadt.reachesEach_dumpStructs.mp reaches),
    fun reaches => unknown (x2ApicAffinitySrat.reachesEach_dumpStructs.mp reaches)⟩

end AppEfi.DumpAcpi
