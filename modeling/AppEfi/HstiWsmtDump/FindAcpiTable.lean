import AppEfi.DumpAcpi.DumpSelectAcpiTable
import AppEfi.Lib.Search

/-!
# Searches for an ACPI table

HstiWsmtDump and VtdDump search the tables of an RSDP each in its own way.  VtdDump passes over
NULL entries and HstiWsmtDump does not test for them.  A UINTN has `width` bytes, and a pointer
that a search gives back is `none` if it is NULL.
-/

set_option autoImplicit false

namespace AppEfi.AcpiSearch

open AppEfi.DumpAcpi
open AppEfi.Reading

def nonNull (pointer : Nat) : Option Nat := if pointer = 0 then none else some pointer

section Scans

variable (width : Nat) (memory : Memory)

def readAddress (field size : Nat) : Reading Nat := do
  let address ← read memory field size
  pure (address % 256 ^ width)

/-- One entry of a root table, which is tested for NULL or not. -/
def examineEntry (testsNull : Bool) (signature entrySize sdt index : Nat) :
    Reading (Option Nat) := do
  let table ← readAddress width memory (sdt + descriptionHeaderSize + entrySize * index) entrySize
  if testsNull = true ∧ table = 0 then pure none
  else do
    let found ← read memory table 4
    pure (if found = signature then some table else none)

/-- EntryCount is a UINT32. -/
def scanTable (testsNull : Bool) (signature entrySize sdt : Nat) : Reading (Option Nat) := do
  let length ← read memory (sdt + 4) 4
  let entryCount :=
    (length + (256 ^ width - descriptionHeaderSize)) % 256 ^ width / entrySize % 2 ^ 32
  let found ← search (examineEntry width memory testsNull signature entrySize sdt) entryCount 0
  pure (found.bind nonNull)

def scanUnlessNull (testsNull : Bool) (signature entrySize sdt : Nat) : Reading (Option Nat) :=
  if sdt = 0 then pure none else scanTable width memory testsNull signature entrySize sdt

end Scans

/-! ## HstiWsmtDump -/

section HstiWsmtDump

variable (width : Nat) (memory : Memory)

def scanTableInRSDT (rsdt signature : Nat) : Reading (Option Nat) :=
  scanUnlessNull width memory false signature 4 rsdt

def scanTableInXSDT (xsdt signature : Nat) : Reading (Option Nat) :=
  scanUnlessNull width memory false signature 8 xsdt

/-- The XSDT, of which an RSDP before ACPI 2.0 has none. -/
def searchXsdt (rsdp signature : Nat) : Reading (Option Nat) := do
  let revision ← read memory (rsdp + 15) 1
  if revision < 2 then pure none
  else do
    let xsdt ← readAddress width memory (rsdp + 24) 8
    scanTableInXSDT width memory xsdt signature

def searchRsdt (rsdp signature : Nat) : Reading (Option Nat) := do
  let rsdt ← readAddress width memory (rsdp + 16) 4
  scanTableInRSDT width memory rsdt signature

end HstiWsmtDump

def findAcpiTableByAcpiGuid (width : Nat) (system : SystemTable) (acpiTableGuid : VendorGuid)
    (signature : Nat) : Reading (Option Nat) :=
  match system.find acpiTableGuid with
  | none => pure none
  | some rsdp =>
      orElse (searchXsdt width system.memory rsdp signature)
        (searchRsdt width system.memory rsdp signature)

def findAcpiTable (width : Nat) (system : SystemTable) (signature : Nat) :
    Reading (Option Nat) :=
  orElse (findAcpiTableByAcpiGuid width system .acpi20Table signature)
    (findAcpiTableByAcpiGuid width system .acpiTable signature)

/-! ## VtdDump -/

section VtdDump

variable (width : Nat) (memory : Memory)

/-- The address of the XSDT, or 0 if it is none that a UINTN can hold. -/
def xsdtOfRsdp (rsdp : Nat) : Reading Nat := do
  let revision ← read memory (rsdp + 15) 1
  if revision < 2 then pure 0
  else do
    let xsdtAddress ← read memory (rsdp + 24) 8
    pure (if xsdtAddress < 256 ^ width - 1 then xsdtAddress else 0)

def findAcpiPtr (rsdp signature : Nat) : Reading (Option Nat) := do
  let rsdt ← readAddress width memory (rsdp + 16) 4
  let xsdt ← xsdtOfRsdp width memory rsdp
  orElse (scanUnlessNull width memory true signature 8 xsdt)
    (scanUnlessNull width memory true signature 4 rsdt)

end VtdDump

def dmarSignature : Nat := SmmCore.signature32 'D' 'M' 'A' 'R'

/-- The RSDP that EfiGetSystemConfigurationTable finds for one GUID or for the other. -/
def rsdpOf (system : SystemTable) : Option Nat :=
  (system.find .acpi20Table).or (system.find .acpiTable)

/-- `none` is EFI_NOT_FOUND. -/
def getDmarAcpiTable (width : Nat) (system : SystemTable) : Reading (Option Nat) :=
  match rsdpOf system with
  | none => pure none
  | some rsdp => findAcpiPtr width system.memory rsdp dmarSignature

/-! ## What is listed -/

section Listed

variable (width : Nat) (memory : Memory)

/-- The entries of a root table; one that is not there has none. -/
def listed (entrySize sdt : Nat) : List Nat :=
  if sdt = 0 then []
  else (List.range (entryCount width memory sdt entrySize % 2 ^ 32)).map fun index =>
    tableAddress width memory (sdt + descriptionHeaderSize + entrySize * index) entrySize

def listedXsdt (rsdp : Nat) : List Nat :=
  if memory.readLe (rsdp + 15) 1 < 2 then []
  else listed width memory 8 (scanAcpiXSDT width memory rsdp)

def listedRsdt (rsdp : Nat) : List Nat :=
  listed width memory 4 (scanAcpiRSDT width memory rsdp)

/-- A table with the signature. -/
def carries (signature table : Nat) : Option Nat :=
  if tableSignature memory table = signature then some table else none

/-- The first of the tables with the signature, unless it is NULL. -/
def firstTable (signature : Nat) (tables : List Nat) : Option Nat :=
  (tables.findSome? (carries memory signature)).bind nonNull

/-- The table of an RSDP. -/
def tableOf (rsdp signature : Nat) : Option Nat :=
  (firstTable memory signature (listedXsdt width memory rsdp)).or
    (firstTable memory signature (listedRsdt width memory rsdp))

/-- The entries of an RSDP that are read through before a table is found. -/
def triedOf (rsdp signature : Nat) : List Nat :=
  upToFound (carries memory signature) (listedXsdt width memory rsdp) ++
    if firstTable memory signature (listedXsdt width memory rsdp) = none then
      upToFound (carries memory signature) (listedRsdt width memory rsdp)
    else []

end Listed

def tableByGuid (width : Nat) (system : SystemTable) (guid : VendorGuid) (signature : Nat) :
    Option Nat :=
  (system.find guid).bind fun rsdp => tableOf width system.memory rsdp signature

def triedByGuid (width : Nat) (system : SystemTable) (guid : VendorGuid) (signature : Nat) :
    List Nat :=
  (system.find guid).elim [] fun rsdp => triedOf width system.memory rsdp signature

/-- The entries that HstiWsmtDump reads through. -/
def tried (width : Nat) (system : SystemTable) (signature : Nat) : List Nat :=
  triedByGuid width system .acpi20Table signature ++
    if tableByGuid width system .acpi20Table signature = none then
      triedByGuid width system .acpiTable signature
    else []

end AppEfi.AcpiSearch
