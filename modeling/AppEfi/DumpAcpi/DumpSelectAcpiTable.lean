import AppEfi.SmmCore.Records

/-!
# The tables that DumpACPI finds and how it dumps one

The root tables, the fields of a table header and of the FADT as they lie in
memory, and the registry that chooses the dump function by signature.  A UINTN
has `width` bytes.
-/

set_option autoImplicit false

namespace AppEfi.DumpAcpi

open AppEfi.SmmCore (signature32)

/-! ## Signatures -/

def rsdpSignDefinition : Nat := signature32 'R' 'S' 'D' 'P'

def rsdtSignature : Nat := signature32 'R' 'S' 'D' 'T'

def xsdtSignature : Nat := signature32 'X' 'S' 'D' 'T'

def fadtSignature : Nat := signature32 'F' 'A' 'C' 'P'

def facsSignature : Nat := signature32 'F' 'A' 'C' 'S'

def dsdtSignature : Nat := signature32 'D' 'S' 'D' 'T'

def ssdtSignature : Nat := signature32 'S' 'S' 'D' 'T'

def psdtSignature : Nat := signature32 'P' 'S' 'D' 'T'

/-! ## Fields -/

section Fields

variable (width : Nat) (memory : Memory)

/-- A table address, converted to UINTN; 0 is NULL. -/
def tableAddress (field size : Nat) : Nat :=
  memory.readLe field size % 256 ^ width

def tableSignature (table : Nat) : Nat := memory.readLe table 4

def tableLength (table : Nat) : Nat := memory.readLe (table + 4) 4

def tableRevision (table : Nat) : Nat := memory.readLe (table + 8) 1

def descriptionHeaderSize : Nat := 36

/-- The difference is a UINTN: a table shorter than its header has very many entries. -/
def entryCount (table entrySize : Nat) : Nat :=
  (tableLength memory table + (256 ^ width - descriptionHeaderSize)) % 256 ^ width / entrySize

def entries (table entrySize : Nat) : List Nat :=
  (List.range (entryCount width memory table entrySize)).map fun index =>
    tableAddress width memory (table + descriptionHeaderSize + entrySize * index) entrySize

def scanAcpiRSDT (rsdp : Nat) : Nat := tableAddress width memory (rsdp + 16) 4

def scanAcpiXSDT (rsdp : Nat) : Nat := tableAddress width memory (rsdp + 24) 8

/-- `EFI_ACPI_2_0_FIXED_ACPI_DESCRIPTION_TABLE_REVISION`. -/
def extendedFadtRevision : Nat := 3

def scanAcpiFADT (fadt : Nat) : Nat × Nat :=
  let extended := extendedFadtRevision ≤ tableRevision memory fadt
  let firmwareCtrl := tableAddress width memory (fadt + 36) 4
  let xFirmwareCtrl := tableAddress width memory (fadt + 132) 8
  let dsdt := tableAddress width memory (fadt + 40) 4
  let xDsdt := tableAddress width memory (fadt + 140) 8
  (if ¬ extended then firmwareCtrl
   else if xFirmwareCtrl = 0 then firmwareCtrl else xFirmwareCtrl,
   if ¬ extended then dsdt
   else if xDsdt = 0 then dsdt else xDsdt)

end Fields

/-! ## The root pointer -/

inductive VendorGuid where
  | acpiTable
  | acpi20Table
  | other
  deriving DecidableEq

structure ConfigurationTable where
  vendorGuid : VendorGuid
  vendorTable : Nat

/-- The memory and the configuration tables that the application starts with.
Firmware removes a table by installing NULL for it. -/
structure SystemTable where
  memory : Memory
  configurationTable : List ConfigurationTable
  installed : ∀ table ∈ configurationTable, table.vendorTable ≠ 0

def SystemTable.find (system : SystemTable) (guid : VendorGuid) : Option Nat :=
  (system.configurationTable.find? fun table => table.vendorGuid = guid).map
    ConfigurationTable.vendorTable

/-- The RSDP and `mIsAcpi20`. -/
def scanAcpiRSDP (system : SystemTable) : Nat × Bool :=
  match system.find .acpi20Table with
  | some rsdp => (rsdp, decide (2 ≤ system.memory.readLe (rsdp + 15) 1))
  | none => ((system.find .acpiTable).getD 0, false)

/-! ## Dump functions -/

/-- `library` is the function that a plug-in library registers for its signature. -/
inductive DumpFunc where
  | dumpAcpiRSDP
  | dumpAcpiRSDT
  | dumpAcpiXSDT
  | dumpAcpiTables
  | dumpAcpiFADT
  | dumpAcpiFACS
  | dumpAcpiDSDT
  | dumpAcpiSSDT
  | dumpAcpiPSDT
  | library (signature : Nat)
  deriving DecidableEq

structure Dump where
  func : DumpFunc
  table : Nat
  deriving DecidableEq

/-- The signature a table is dumped under: the root tables, the FACS and the DSDT
are what their dump function says. -/
def Dump.signature (memory : Memory) (dump : Dump) : Nat :=
  match dump.func with
  | .dumpAcpiRSDP => rsdpSignDefinition
  | .dumpAcpiRSDT => rsdtSignature
  | .dumpAcpiXSDT => xsdtSignature
  | .dumpAcpiFACS => facsSignature
  | .dumpAcpiDSDT => dsdtSignature
  | _ => tableSignature memory dump.table

/-- Every dump function returns at once on NULL. -/
def dumpWith (func : DumpFunc) (table : Nat) : List Dump :=
  if table = 0 then [] else [⟨func, table⟩]

abbrev Registry := List (Nat × DumpFunc)

def dumpAcpiTableFuncMaxNumber : Nat := 0x100

def getDumpAcpiTableFunc (registry : Registry) (signature : Nat) : Option DumpFunc :=
  (registry.find? fun entry => entry.1 = signature).map Prod.snd

def registerDumpAcpiTable (registry : Registry) (signature : Nat) (func : DumpFunc) : Registry :=
  if (getDumpAcpiTableFunc registry signature).isSome then registry
  else if dumpAcpiTableFuncMaxNumber ≤ registry.length then registry
  else registry ++ [(signature, func)]

/-- What the constructors of the libraries that the application is built with register. -/
def librarySignatures : List Nat :=
  [signature32 'B' 'E' 'R' 'T', signature32 'B' 'G' 'R' 'T', signature32 'C' 'P' 'E' 'P',
   signature32 'E' 'C' 'D' 'T', signature32 'E' 'I' 'N' 'J', signature32 'E' 'R' 'S' 'T',
   signature32 'F' 'P' 'D' 'T', signature32 'G' 'T' 'D' 'T', signature32 'H' 'E' 'S' 'T',
   signature32 'A' 'P' 'I' 'C', signature32 'M' 'P' 'S' 'T', signature32 'M' 'S' 'C' 'T',
   signature32 'N' 'F' 'I' 'T', signature32 'P' 'M' 'T' 'T', signature32 'R' 'A' 'S' 'F',
   signature32 'S' 'B' 'S' 'T', signature32 'S' 'R' 'A' 'T', signature32 'S' 'L' 'I' 'T',
   signature32 'B' 'O' 'O' 'T', signature32 'C' 'S' 'R' 'T', signature32 'D' 'B' 'G' 'P',
   signature32 'D' 'B' 'G' '2', signature32 'D' 'M' 'A' 'R', signature32 'E' 'T' 'D' 'T',
   signature32 'H' 'P' 'E' 'T', signature32 'I' 'B' 'F' 'T', signature32 'I' 'V' 'R' 'S',
   signature32 'L' 'P' 'I' 'T', signature32 'M' 'C' 'F' 'G', signature32 'M' 'C' 'H' 'I',
   signature32 'M' 'S' 'D' 'M', signature32 'S' 'L' 'I' 'C', signature32 'S' 'P' 'C' 'R',
   signature32 'S' 'P' 'M' 'I', signature32 'T' 'C' 'P' 'A', signature32 'T' 'P' 'M' '2',
   signature32 'U' 'E' 'F' 'I', signature32 'W' 'A' 'E' 'T', signature32 'W' 'D' 'A' 'T',
   signature32 'W' 'D' 'R' 'T', signature32 'W' 'P' 'B' 'T', signature32 'W' 'S' 'P' 'T',
   signature32 'A' 'S' 'F' '!', signature32 'W' 'D' 'D' 'T']

def libraryRegistry : Registry :=
  librarySignatures.foldl
    (fun registry signature => registerDumpAcpiTable registry signature (.library signature)) []

/-- The registrations of `DumpACPIEntryPoint`, behind those of the libraries. -/
def registry : Registry :=
  [(fadtSignature, DumpFunc.dumpAcpiFADT), (facsSignature, .dumpAcpiFACS),
   (dsdtSignature, .dumpAcpiDSDT), (ssdtSignature, .dumpAcpiSSDT),
   (psdtSignature, .dumpAcpiPSDT)].foldl
    (fun registry entry => registerDumpAcpiTable registry entry.1 entry.2) libraryRegistry

def selectedFunc (signature : Nat) : DumpFunc :=
  (getDumpAcpiTableFunc registry signature).getD .dumpAcpiTables

def dumpSelectAcpiTable (memory : Memory) (table : Nat) : List Dump :=
  dumpWith (selectedFunc (tableSignature memory table)) table

/-! ## The registry -/

theorem getDumpAcpiTableFunc_eq_some {registry : Registry} {signature : Nat} {func : DumpFunc}
    (found : getDumpAcpiTableFunc registry signature = some func) :
    (signature, func) ∈ registry := by
  unfold getDumpAcpiTableFunc at found
  obtain ⟨entry, entryFound, entryFunc⟩ := Option.map_eq_some_iff.mp found
  have member := List.mem_of_find?_eq_some entryFound
  have same := List.find?_some entryFound
  have signatureEq : entry.1 = signature := of_decide_eq_true same
  rw [← signatureEq, ← entryFunc]
  exact member

@[simp] theorem selectedFunc_facs : selectedFunc facsSignature = .dumpAcpiFACS := by
  decide +kernel

@[simp] theorem selectedFunc_dsdt : selectedFunc dsdtSignature = .dumpAcpiDSDT := by
  decide +kernel

/-- A function with a signature of its own is registered for that signature only. -/
theorem registry_ownSignature (memory : Memory) (table : Nat) :
    ∀ entry ∈ registry, tableSignature memory table = entry.1 →
      Dump.signature memory ⟨entry.2, table⟩ = entry.1 := by
  have own : ∀ entry ∈ registry, entry.2 ≠ .dumpAcpiRSDP ∧ entry.2 ≠ .dumpAcpiRSDT ∧
      entry.2 ≠ .dumpAcpiXSDT ∧ (entry.2 = .dumpAcpiFACS → entry.1 = facsSignature) ∧
      (entry.2 = .dumpAcpiDSDT → entry.1 = dsdtSignature) := by
    decide +kernel
  intro entry member same
  obtain ⟨notRsdp, notRsdt, notXsdt, facs, dsdt⟩ := own entry member
  unfold Dump.signature
  cases func : entry.2 with
  | dumpAcpiRSDP => exact absurd func notRsdp
  | dumpAcpiRSDT => exact absurd func notRsdt
  | dumpAcpiXSDT => exact absurd func notXsdt
  | dumpAcpiFACS => exact (facs func).symm
  | dumpAcpiDSDT => exact (dsdt func).symm
  | _ => exact same

theorem signature_selectedFunc (memory : Memory) (table : Nat) :
    Dump.signature memory ⟨selectedFunc (tableSignature memory table), table⟩ =
      tableSignature memory table := by
  unfold selectedFunc
  cases found : getDumpAcpiTableFunc registry (tableSignature memory table) with
  | none => rfl
  | some func =>
      exact registry_ownSignature memory table _ (getDumpAcpiTableFunc_eq_some found) rfl

theorem dumpSelectAcpiTable_of_ne (memory : Memory) {table : Nat} (proper : table ≠ 0) :
    dumpSelectAcpiTable memory table =
      [⟨selectedFunc (tableSignature memory table), table⟩] := by
  rw [dumpSelectAcpiTable, dumpWith, if_neg proper]

end AppEfi.DumpAcpi
