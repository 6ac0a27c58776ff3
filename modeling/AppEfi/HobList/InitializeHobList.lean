import AppEfi.Lib.Fields
import AppEfi.Lib.RecordWalk

/-!
# HOB lists

InitializeHobList shows a HOB list in one section for each type of HOB, every section by a loop
of its own over the whole list.  The ASSERT that the first HOB is the PHIT is left out.  A GUID
is the number of its 16 bytes, and those that the code compares with come from the headers of
the platform.
-/

set_option autoImplicit false

namespace AppEfi.HobList

open AppEfi.Fields
open AppEfi.RecordWalk

/-! ## The list in memory -/

def typeHandoff : Nat := 1
def typeMemoryAllocation : Nat := 2
def typeResourceDescriptor : Nat := 3
def typeFv : Nat := 5
def typeCpu : Nat := 6
def typeFv2 : Nat := 9
def typeUefiCapsule : Nat := 0xB
def typeEndOfHobList : Nat := 0xFFFF

section Walk

variable (memory : Memory)

def hobTypeAt (hob : Nat) : Nat := memory.readLe hob 2

def hobLengthAt (hob : Nat) : Nat := memory.readLe (hob + 2) 2

def endOfHobList (hob : Nat) : Bool := hobTypeAt memory hob == typeEndOfHobList

def getNextHob (hob : Nat) : Nat := hob + hobLengthAt memory hob

/-- `for (Hob.Raw = HobList; !END_OF_HOB_LIST (Hob); Hob.Raw = GET_NEXT_HOB (Hob))` with what is
printed of the HOBs of a type. -/
def listHobs {Line : Type} (hobType : Nat) (lines : Nat → List Line) (fuel hobList : Nat) :
    Option (List Line) :=
  (whileLoop (fun hob => !endOfHobList memory hob) (getNextHob memory)
    (fun printed hob => printed ++ if hobTypeAt memory hob = hobType then lines hob else [])
    fuel hobList []).map (·.1)

end Walk

/-! ## The sections -/

/-- gEfiHobMemoryAllocStackGuid, gEfiHobMemoryAllocBspStoreGuid and
gEfiHobMemoryAllocModuleGuid. -/
structure AllocationGuids where
  stack : Nat
  bspStore : Nat
  allocModule : Nat

/-- A name of a table, or the number in hexadecimal. -/
inductive ShortName where
  | name (text : String)
  | number (value : Nat)
  deriving DecidableEq

inductive Owner where
  | nobody
  | stack
  | bspStore
  | loaded (moduleName entryPoint : Nat)
  | other (name : Nat)
  deriving DecidableEq

structure Phit where
  bootMode : Nat
  efiMemoryTop : Nat
  efiMemoryBottom : Nat
  efiFreeMemoryTop : Nat
  efiFreeMemoryBottom : Nat
  efiEndOfHobList : Nat
  deriving DecidableEq

inductive Line where
  | notFound
  | phit (address : Nat) (phit : Phit)
  | title (text : String)
  | cpu (sizeOfMemorySpace sizeOfIoSpace : Nat)
  | resource (physicalStart resourceLength resourceAttribute : Nat) (resourceType : ShortName)
      (memoryState : Option String)
  | range (baseAddress length : Nat)
  | firmwareVolume2 (baseAddress length fvName fileName : Nat)
  | allocation (memoryBaseAddress memoryLength : Nat) (memoryType : ShortName) (owner : Owner)
  deriving DecidableEq

def shortName (names : List String) (value : Nat) : ShortName :=
  (names[value]?).elim (.number value) .name

def shortNameOfMemoryType : Nat → ShortName :=
  shortName ["Reserved", "LoaderCode", "LoaderData", "BS_Code", "BS_Data", "RT_Code", "RT_Data",
    "Available", "Unusable", "ACPI_Recl", "ACPI_NVS", "MMIO", "MMIO_Port", "PalCode", "Persistent"]

def shortNameOfResourceType : Nat → ShortName :=
  shortName ["Mem", "MMIO", "I/O", "FD", "MM Port I/O", "Reserved Mem", "Reserved I/O"]

/-- MEMORY_ATTRIBUTE_MASK. -/
def memoryAttributeMask : Nat := 0x1C007

/-- What is printed behind the name of system memory. -/
def memoryState (resourceAttribute : Nat) : String :=
  if resourceAttribute &&& 0x00800000 ≠ 0 then "Persistent"
  else if resourceAttribute &&& 0x02000000 ≠ 0 then "MoreReliable"
  else if resourceAttribute &&& memoryAttributeMask = 0x7 then "Tested"
  else if resourceAttribute &&& memoryAttributeMask = 0x3 then "Init"
  else if resourceAttribute &&& memoryAttributeMask = 0x1 then "Present"
  else "Unknown"

def resourceLine (resourceType resourceAttribute physicalStart resourceLength : Nat) : Line :=
  .resource physicalStart resourceLength resourceAttribute (shortNameOfResourceType resourceType)
    (if resourceType = 0 then some (memoryState resourceAttribute) else none)

section Sections

variable (memory : Memory)

def phitAt (hob : Nat) : Phit where
  bootMode := memory.readLe (hob + 12) 4
  efiMemoryTop := memory.readLe (hob + 16) 8
  efiMemoryBottom := memory.readLe (hob + 24) 8
  efiFreeMemoryTop := memory.readLe (hob + 32) 8
  efiFreeMemoryBottom := memory.readLe (hob + 40) 8
  efiEndOfHobList := memory.readLe (hob + 48) 8

def cpuLines (hob : Nat) : List Line :=
  [.cpu (memory.readLe (hob + 8) 1) (memory.readLe (hob + 9) 1)]

def resourceLines (hob : Nat) : List Line :=
  [resourceLine (memory.readLe (hob + 24) 4) (memory.readLe (hob + 28) 4)
    (memory.readLe (hob + 32) 8) (memory.readLe (hob + 40) 8)]

/-- Of EFI_HOB_FIRMWARE_VOLUME and of EFI_HOB_UEFI_CAPSULE. -/
def rangeLines (hob : Nat) : List Line :=
  [.range (memory.readLe (hob + 8) 8) (memory.readLe (hob + 16) 8)]

def firmwareVolume2Lines (hob : Nat) : List Line :=
  [.firmwareVolume2 (memory.readLe (hob + 8) 8) (memory.readLe (hob + 16) 8)
    (memory.readLe (hob + 24) 16) (memory.readLe (hob + 40) 16)]

def ownerAt (guids : AllocationGuids) (hob : Nat) : Owner :=
  let name := memory.readLe (hob + 8) 16
  if name = 0 then .nobody
  else if name = guids.stack then .stack
  else if name = guids.bspStore then .bspStore
  else if name = guids.allocModule then
    .loaded (memory.readLe (hob + 48) 16) (memory.readLe (hob + 64) 8)
  else .other name

def allocationLines (guids : AllocationGuids) (hob : Nat) : List Line :=
  [.allocation (memory.readLe (hob + 24) 8) (memory.readLe (hob + 32) 8)
    (shortNameOfMemoryType (memory.readLe (hob + 40) 4)) (ownerAt memory guids hob)]

/-- `none` for the list means that the system has no HOB list, and for the result that a loop
does not end within `fuel`. -/
def initializeHobList (guids : AllocationGuids) (fuel : Nat) :
    Option Nat → Option (List Line)
  | none => some [.notFound]
  | some hobList => do
      let cpus ← listHobs memory typeCpu (cpuLines memory) fuel hobList
      let resources ← listHobs memory typeResourceDescriptor (resourceLines memory) fuel hobList
      let firmwareVolumes ← listHobs memory typeFv (rangeLines memory) fuel hobList
      let firmwareVolume2s ← listHobs memory typeFv2 (firmwareVolume2Lines memory) fuel hobList
      let allocations ←
        listHobs memory typeMemoryAllocation (allocationLines memory guids) fuel hobList
      let capsules ← listHobs memory typeUefiCapsule (rangeLines memory) fuel hobList
      pure (.title "PHIT HOB" :: .phit hobList (phitAt memory hobList) ::
        .title "CPU HOBs" :: cpus ++
        .title "Resource Descriptor HOBs" :: resources ++
        .title "FV HOBs" :: firmwareVolumes ++
        .title "FV2 HOBs" :: firmwareVolume2s ++
        .title "Memory Allocation HOBs" :: allocations ++
        .title "Capsule HOBs" :: capsules)

end Sections

/-! ## The format -/

inductive Body where
  | handoff (version : Nat) (phit : Phit)
  | cpu (sizeOfMemorySpace sizeOfIoSpace : Nat)
  | resourceDescriptor (owner resourceType resourceAttribute physicalStart resourceLength : Nat)
  | firmwareVolume (baseAddress length : Nat)
  | firmwareVolume2 (baseAddress length fvName fileName : Nat)
  | memoryAllocation (name memoryBaseAddress memoryLength memoryType : Nat)
  | memoryAllocationModule (name memoryBaseAddress memoryLength memoryType moduleName
      entryPoint : Nat)
  | uefiCapsule (baseAddress length : Nat)
  /-- A type that the code knows nothing of. -/
  | other (hobType : Nat)

namespace Body

def hobType : Body → Nat
  | handoff .. => typeHandoff
  | cpu .. => typeCpu
  | resourceDescriptor .. => typeResourceDescriptor
  | firmwareVolume .. => typeFv
  | firmwareVolume2 .. => typeFv2
  | memoryAllocation .. => typeMemoryAllocation
  | memoryAllocationModule .. => typeMemoryAllocation
  | uefiCapsule .. => typeUefiCapsule
  | other hobType => hobType

def allocationFields (name memoryBaseAddress memoryLength memoryType : Nat) : List Field :=
  [⟨16, name⟩, ⟨8, memoryBaseAddress⟩, ⟨8, memoryLength⟩, ⟨4, memoryType⟩, ⟨4, 0⟩]

/-- The fields behind the header. -/
def fields : Body → List Field
  | handoff version phit =>
      [⟨4, version⟩, ⟨4, phit.bootMode⟩, ⟨8, phit.efiMemoryTop⟩, ⟨8, phit.efiMemoryBottom⟩,
        ⟨8, phit.efiFreeMemoryTop⟩, ⟨8, phit.efiFreeMemoryBottom⟩, ⟨8, phit.efiEndOfHobList⟩]
  | cpu sizeOfMemorySpace sizeOfIoSpace =>
      [⟨1, sizeOfMemorySpace⟩, ⟨1, sizeOfIoSpace⟩, ⟨6, 0⟩]
  | resourceDescriptor owner resourceType resourceAttribute physicalStart resourceLength =>
      [⟨16, owner⟩, ⟨4, resourceType⟩, ⟨4, resourceAttribute⟩, ⟨8, physicalStart⟩,
        ⟨8, resourceLength⟩]
  | firmwareVolume baseAddress length => [⟨8, baseAddress⟩, ⟨8, length⟩]
  | firmwareVolume2 baseAddress length fvName fileName =>
      [⟨8, baseAddress⟩, ⟨8, length⟩, ⟨16, fvName⟩, ⟨16, fileName⟩]
  | memoryAllocation name memoryBaseAddress memoryLength memoryType =>
      allocationFields name memoryBaseAddress memoryLength memoryType
  | memoryAllocationModule name memoryBaseAddress memoryLength memoryType moduleName entryPoint =>
      allocationFields name memoryBaseAddress memoryLength memoryType ++
        [⟨16, moduleName⟩, ⟨8, entryPoint⟩]
  | uefiCapsule baseAddress length => [⟨8, baseAddress⟩, ⟨8, length⟩]
  | other _ => []

end Body

/-- Who owns an allocation that is not a module's. -/
def ownerOf (guids : AllocationGuids) (name : Nat) : Owner :=
  if name = 0 then .nobody
  else if name = guids.stack then .stack
  else if name = guids.bspStore then .bspStore
  else .other name

/-- The name by which an allocation is a module's and none of those that are tested for before. -/
def NamesModule (guids : AllocationGuids) (name : Nat) : Prop :=
  name ≠ 0 ∧ name ≠ guids.stack ∧ name ≠ guids.bspStore ∧ name = guids.allocModule

instance decidableNamesModule (guids : AllocationGuids) (name : Nat) :
    Decidable (NamesModule guids name) := inferInstanceAs (Decidable (_ ∧ _ ∧ _ ∧ _))

/-- An allocation's fields go with its name, and a type that the code does not know is none of
those that it does. -/
def Body.Valid (guids : AllocationGuids) : Body → Prop
  | .memoryAllocation name .. => ¬ NamesModule guids name
  | .memoryAllocationModule name .. => NamesModule guids name
  | .other hobType =>
      hobType ∉ [typeMemoryAllocation, typeResourceDescriptor, typeFv, typeCpu, typeFv2,
        typeUefiCapsule, typeEndOfHobList]
  | _ => True

/-- What is to be shown of a HOB. -/
def Body.line (guids : AllocationGuids) : Body → Option Line
  | .cpu sizeOfMemorySpace sizeOfIoSpace => some (.cpu sizeOfMemorySpace sizeOfIoSpace)
  | .resourceDescriptor _ resourceType resourceAttribute physicalStart resourceLength =>
      some (resourceLine resourceType resourceAttribute physicalStart resourceLength)
  | .firmwareVolume baseAddress length => some (.range baseAddress length)
  | .firmwareVolume2 baseAddress length fvName fileName =>
      some (.firmwareVolume2 baseAddress length fvName fileName)
  | .memoryAllocation name memoryBaseAddress memoryLength memoryType =>
      some (.allocation memoryBaseAddress memoryLength (shortNameOfMemoryType memoryType)
        (ownerOf guids name))
  | .memoryAllocationModule _ memoryBaseAddress memoryLength memoryType moduleName entryPoint =>
      some (.allocation memoryBaseAddress memoryLength (shortNameOfMemoryType memoryType)
        (.loaded moduleName entryPoint))
  | .uefiCapsule baseAddress length => some (.range baseAddress length)
  | .handoff .. | .other _ => none

/-- A HOB, which may be longer than its structure. -/
structure Hob where
  body : Body
  behind : List UInt8

namespace Hob

def length (hob : Hob) : Nat := 8 + size hob.body.fields + hob.behind.length

def allFields (hob : Hob) : List Field :=
  [⟨2, hob.body.hobType⟩, ⟨2, hob.length⟩, ⟨4, 0⟩] ++ hob.body.fields

def encode (hob : Hob) : List UInt8 := Fields.encode hob.allFields ++ hob.behind

structure Valid (guids : AllocationGuids) (hob : Hob) : Prop where
  fits : ∀ field ∈ hob.allFields, field.Fits
  body : hob.body.Valid guids

end Hob

/-- The HOBs lie one behind the other, and then the end of the list. -/
structure Stored (guids : AllocationGuids) (memory : Memory) (hobList : Nat) (hobs : List Hob) :
    Prop where
  held : memory.Holds hobList (hobs.flatMap Hob.encode)
  valid : ∀ hob ∈ hobs, hob.Valid guids
  ends : hobTypeAt memory (hobList + total Hob.length hobs) = typeEndOfHobList

/-- The HOBs of a type in the order of the list. -/
def sectionOf (guids : AllocationGuids) (hobType : Nat) (hobs : List Hob) : List Line :=
  (hobs.filter (·.body.hobType = hobType)).filterMap (·.body.line guids)

end AppEfi.HobList
