import AppEfi.Lib.Ranges
import AppEfi.Vtd.DumpAcpiDmar

/-!
# What the DMAR dumps recover

DumpAcpiDMAR of DumpAcpiDMARLib and of VtdDump.c with what they print.  Their loops are those
of `dumpAcpiDmar`, and they differ in the flags of the table that they name.  A line that only
spells out a value printed before it is left out.
-/

set_option autoImplicit false

namespace AppEfi.Vtd

open BoundedWalk
open RecordWalk

/-! ## The table as a format -/

structure PciPath where
  device : UInt8
  function : UInt8
  deriving DecidableEq, Repr

structure DeviceScope where
  type : UInt8
  enumerationId : UInt8
  startBusNumber : UInt8
  path : List PciPath
  deriving DecidableEq, Repr

inductive DmarStructure where
  | drhd (flags : UInt8) (segmentNumber : UInt16) (registerBaseAddress : UInt64)
      (scopes : List DeviceScope)
  | rmrr (segmentNumber : UInt16) (baseAddress limitAddress : UInt64) (scopes : List DeviceScope)
  | atsr (flags : UInt8) (segmentNumber : UInt16) (scopes : List DeviceScope)
  | rhsa (registerBaseAddress : UInt64) (proximityDomain : UInt32)
  | andd (acpiDeviceNumber : UInt8) (acpiObjectName : List UInt8)
  /-- A structure of another type, with the number of bytes behind its Length. -/
  | unknown (type : UInt16) (size : Nat)
  deriving DecidableEq, Repr

def dmarTypeRhsa : Nat := 3

def dmarTypeAndd : Nat := 4

def PciPath.encode (hop : PciPath) : List UInt8 := [hop.device, hop.function]

namespace DeviceScope

def length (scope : DeviceScope) : Nat := 6 + 2 * scope.path.length

structure StoredAt (memory : Memory) (address : Nat) (scope : DeviceScope) : Prop where
  fits : scope.length < 2 ^ 8
  type : memory address = scope.type
  length : memory (address + 1) = UInt8.ofNat scope.length
  enumerationId : memory (address + 4) = scope.enumerationId
  startBusNumber : memory (address + 5) = scope.startBusNumber
  path : memory.Holds (address + 6) (scope.path.flatMap PciPath.encode)

end DeviceScope

def ScopesAt (memory : Memory) (address : Nat) (scopes : List DeviceScope) : Prop :=
  ∀ entry ∈ placed DeviceScope.length address scopes, entry.2.StoredAt memory entry.1

namespace DmarStructure

def type : DmarStructure → Nat
  | drhd .. => 0
  | rmrr .. => 1
  | atsr .. => 2
  | rhsa .. => 3
  | andd .. => 4
  | unknown type _ => type.toNat

def length : DmarStructure → Nat
  | drhd _ _ _ scopes => 16 + total DeviceScope.length scopes
  | rmrr _ _ _ scopes => 24 + total DeviceScope.length scopes
  | atsr _ _ scopes => 8 + total DeviceScope.length scopes
  | rhsa .. => 20
  | andd _ acpiObjectName => 8 + acpiObjectName.length + 1
  | unknown _ size => 4 + size

def isKnown : DmarStructure → Bool
  | unknown .. => false
  | _ => true

/-- The fields behind type and Length. -/
def FieldsAt (memory : Memory) (address : Nat) : DmarStructure → Prop
  | drhd flags segmentNumber registerBaseAddress scopes =>
      memory (address + 4) = flags ∧ memory.readLe (address + 6) 2 = segmentNumber.toNat ∧
        memory.readLe (address + 8) 8 = registerBaseAddress.toNat ∧
        ScopesAt memory (address + 16) scopes
  | rmrr segmentNumber baseAddress limitAddress scopes =>
      memory.readLe (address + 6) 2 = segmentNumber.toNat ∧
        memory.readLe (address + 8) 8 = baseAddress.toNat ∧
        memory.readLe (address + 16) 8 = limitAddress.toNat ∧
        ScopesAt memory (address + 24) scopes
  | atsr flags segmentNumber scopes =>
      memory (address + 4) = flags ∧ memory.readLe (address + 6) 2 = segmentNumber.toNat ∧
        ScopesAt memory (address + 8) scopes
  | rhsa registerBaseAddress proximityDomain =>
      memory.readLe (address + 8) 8 = registerBaseAddress.toNat ∧
        memory.readLe (address + 16) 4 = proximityDomain.toNat
  | andd acpiDeviceNumber acpiObjectName =>
      memory (address + 7) = acpiDeviceNumber ∧ 0 ∉ acpiObjectName ∧
        memory.Holds (address + 8) (acpiObjectName ++ [0])
  | unknown type _ => 4 < type.toNat

structure StoredAt (memory : Memory) (address : Nat) (entry : DmarStructure) : Prop where
  fits : entry.length < 2 ^ 16
  type : memory.readLe address 2 = entry.type
  length : memory.readLe (address + 2) 2 = entry.length
  fields : entry.FieldsAt memory address

end DmarStructure

/-- A table whose structures fill its Length. -/
structure DmarTable where
  memory : Memory
  address : Nat
  notNull : address ≠ 0
  structures : List DmarStructure
  length : memory.readLe (address + 4) 4 = 48 + total DmarStructure.length structures
  stored : ∀ entry ∈ placed DmarStructure.length (address + 48) structures,
    entry.2.StoredAt memory entry.1

/-! ## The dumps -/

inductive DmarReport where
  | table (address : Nat) (hostAddressWidth flags : UInt8) (flagLines : List (String × UInt8))
  | drhd (address : Nat) (length : UInt16) (flags : UInt8) (segmentNumber : UInt16)
      (registerBaseAddress : UInt64)
  | rmrr (address : Nat) (length segmentNumber : UInt16) (baseAddress limitAddress : UInt64)
  | atsr (address : Nat) (length : UInt16) (flags : UInt8) (segmentNumber : UInt16)
  | rhsa (address : Nat) (length : UInt16) (registerBaseAddress : UInt64)
      (proximityDomain : UInt32)
  | andd (address : Nat) (length : UInt16) (acpiDeviceNumber : UInt8) (acpiObjectName : List UInt8)
  | deviceScope (address : Nat) (type length enumerationId startBusNumber : UInt8)
  | pciPath (hop : PciPath)
  deriving DecidableEq, Repr

/-- The structures that the loop came to, and what was printed. -/
structure DmarDump where
  places : List Range
  reports : List DmarReport
  deriving DecidableEq, Repr

section Dump

variable (memory : Memory)

/-- The text of `%a`. -/
def asciiAt : Nat → Nat → Option (List UInt8)
  | 0, _ => none
  | fuel + 1, address =>
      if memory address = 0 then some []
      else (asciiAt fuel (address + 1)).map (memory address :: ·)

def read16 (address : Nat) : UInt16 := UInt16.ofNat (memory.readLe address 2)

def read32 (address : Nat) : UInt32 := UInt32.ofNat (memory.readLe address 4)

def read64 (address : Nat) : UInt64 := UInt64.ofNat (memory.readLe address 8)

def printStructure (textFuel type dmarHeader : Nat) : Option (List DmarReport) :=
  if type = dmarTypeDrhd then
    some [.drhd dmarHeader (read16 memory (dmarHeader + 2)) (memory (dmarHeader + 4))
      (read16 memory (dmarHeader + 6)) (read64 memory (dmarHeader + 8))]
  else if type = dmarTypeRmrr then
    some [.rmrr dmarHeader (read16 memory (dmarHeader + 2)) (read16 memory (dmarHeader + 6))
      (read64 memory (dmarHeader + 8)) (read64 memory (dmarHeader + 16))]
  else if type = dmarTypeAtsr then
    some [.atsr dmarHeader (read16 memory (dmarHeader + 2)) (memory (dmarHeader + 4))
      (read16 memory (dmarHeader + 6))]
  else if type = dmarTypeRhsa then
    some [.rhsa dmarHeader (read16 memory (dmarHeader + 2)) (read64 memory (dmarHeader + 8))
      (read32 memory (dmarHeader + 16))]
  else if type = dmarTypeAndd then do
    let acpiObjectName ← asciiAt memory textFuel (dmarHeader + 8)
    some [.andd dmarHeader (read16 memory (dmarHeader + 2)) (memory (dmarHeader + 7))
      acpiObjectName]
  else some []

def pciPathAt (place : Nat) : PciPath := ⟨memory place, memory (place + 1)⟩

/-- The hops are printed in a loop over their number. -/
def printDeviceScope (entry pciPathNumber : Nat) : List DmarReport :=
  .deviceScope entry (memory entry) (memory (entry + 1)) (memory (entry + 4))
      (memory (entry + 5)) ::
    (List.range pciPathNumber).map fun index => .pciPath (pciPathAt memory (hopAt entry index))

def DmarItem.print (textFuel : Nat) : DmarItem → Option (List DmarReport)
  | .structure type dmarHeader => printStructure memory textFuel type dmarHeader
  | .deviceScope entry pciPathNumber => some (printDeviceScope memory entry pciPathNumber)

def printItems (textFuel : Nat) : List DmarItem → Option (List DmarReport)
  | [] => some []
  | item :: rest => do
      let own ← item.print memory textFuel
      let behind ← printItems textFuel rest
      some (own ++ behind)

def DmarItem.place? : DmarItem → Option Range
  | .structure _ dmarHeader => some ⟨dmarHeader, structureLength memory dmarHeader⟩
  | .deviceScope .. => none

end Dump

/-- The flags of the table that a dump names. -/
abbrev FlagLines := List (String × UInt8)

def reportTable (flagLines : FlagLines) (memory : Memory) (dmar : Nat) : DmarReport :=
  .table dmar (memory (dmar + 36)) (memory (dmar + 37))
    (flagLines.map fun line => (line.1, memory (dmar + 37) &&& line.2))

def dumpDmarTable (flagLines : FlagLines) (memory : Memory) (fuel dmar : Nat) :
    Option DmarDump :=
  if dmar = 0 then some ⟨[], []⟩
  else do
    let items ← dumpAcpiDmar memory fuel fuel dmar
    let reports ← printItems memory fuel items
    some ⟨items.filterMap (DmarItem.place? memory), reportTable flagLines memory dmar :: reports⟩

def DumpAcpiDMARLib.flagLines : FlagLines :=
  [("INTR_REMAP", 0x01), ("X2APIC_OPT_OUT_SET", 0x02)]

/-- Without `GetAcpiDumpPropertyDumpVerb ()` the function goes to Done behind the hex dump. -/
def DumpAcpiDMARLib.dumpAcpiDMAR (dumpVerb : Bool) (memory : Memory) (fuel dmar : Nat) :
    Option DmarDump :=
  if dumpVerb = false then some ⟨[], []⟩
  else dumpDmarTable DumpAcpiDMARLib.flagLines memory fuel dmar

def VtdDump.flagLines : FlagLines :=
  [("INTR_REMAP", 0x01), ("X2APIC_OPT_OUT_SET", 0x02), ("DMA_CTRL_PLATFORM_OPT_IN_FLAG", 0x04)]

def VtdDump.dumpAcpiDMAR : Memory → Nat → Nat → Option DmarDump :=
  dumpDmarTable VtdDump.flagLines

/-! ## Reading the structures back -/

/-- What is known behind the reports read so far, from the last one. -/
structure Recovered where
  path : List PciPath
  scopes : List DeviceScope
  structures : List DmarStructure

def Recovered.add (behind : Recovered) (entry : DmarStructure) : Recovered :=
  ⟨[], [], entry :: behind.structures⟩

def recoverReport (report : DmarReport) (behind : Recovered) : Recovered :=
  match report with
  | .table .. => behind
  | .drhd _ _ flags segmentNumber registerBaseAddress =>
      behind.add (.drhd flags segmentNumber registerBaseAddress behind.scopes)
  | .rmrr _ _ segmentNumber baseAddress limitAddress =>
      behind.add (.rmrr segmentNumber baseAddress limitAddress behind.scopes)
  | .atsr _ _ flags segmentNumber => behind.add (.atsr flags segmentNumber behind.scopes)
  | .rhsa _ _ registerBaseAddress proximityDomain =>
      behind.add (.rhsa registerBaseAddress proximityDomain)
  | .andd _ _ acpiDeviceNumber acpiObjectName =>
      behind.add (.andd acpiDeviceNumber acpiObjectName)
  | .deviceScope _ type _ enumerationId startBusNumber =>
      { behind with
        path := []
        scopes := ⟨type, enumerationId, startBusNumber, behind.path⟩ :: behind.scopes }
  | .pciPath hop => { behind with path := hop :: behind.path }

def recover (reports : List DmarReport) : List DmarStructure :=
  (reports.foldr recoverReport ⟨[], [], []⟩).structures

/-! ## What a table deserves -/

namespace DeviceScope

def reports (entry : Nat × DeviceScope) : List DmarReport :=
  .deviceScope entry.1 entry.2.type (UInt8.ofNat entry.2.length) entry.2.enumerationId
      entry.2.startBusNumber ::
    entry.2.path.map .pciPath

end DeviceScope

namespace DmarStructure

def scopes : DmarStructure → List DeviceScope
  | drhd _ _ _ scopes => scopes
  | rmrr _ _ _ scopes => scopes
  | atsr _ _ scopes => scopes
  | _ => []

/-- Where the device scopes are. -/
def scopesOffset : DmarStructure → Nat
  | drhd .. => 16
  | rmrr .. => 24
  | _ => 8

def placedScopes (entry : Nat × DmarStructure) : List (Nat × DeviceScope) :=
  placed DeviceScope.length (entry.1 + entry.2.scopesOffset) entry.2.scopes

def ownReports (address : Nat) : DmarStructure → List DmarReport
  | drhd flags segmentNumber registerBaseAddress scopes =>
      [.drhd address (UInt16.ofNat (drhd flags segmentNumber registerBaseAddress scopes).length)
        flags segmentNumber registerBaseAddress]
  | rmrr segmentNumber baseAddress limitAddress scopes =>
      [.rmrr address (UInt16.ofNat (rmrr segmentNumber baseAddress limitAddress scopes).length)
        segmentNumber baseAddress limitAddress]
  | atsr flags segmentNumber scopes =>
      [.atsr address (UInt16.ofNat (atsr flags segmentNumber scopes).length) flags segmentNumber]
  | rhsa registerBaseAddress proximityDomain =>
      [.rhsa address 20 registerBaseAddress proximityDomain]
  | andd acpiDeviceNumber acpiObjectName =>
      [.andd address (UInt16.ofNat (andd acpiDeviceNumber acpiObjectName).length)
        acpiDeviceNumber acpiObjectName]
  | unknown .. => []

def reports (entry : Nat × DmarStructure) : List DmarReport :=
  ownReports entry.1 entry.2 ++ (placedScopes entry).flatMap DeviceScope.reports

def items (entry : Nat × DmarStructure) : List DmarItem :=
  .structure entry.2.type entry.1 ::
    (placedScopes entry).map fun scope => .deviceScope scope.1 scope.2.path.length

end DmarStructure

/-! ## Scopes -/

section Scopes

variable {memory : Memory} {address fuel : Nat} {scope : DeviceScope}

namespace DeviceScope

theorem scopeLength_eq (stored : scope.StoredAt memory address) :
    scopeLength memory address = scope.length := by
  rw [scopeLength, stored.length, UInt8.toNat_ofNat', Nat.mod_eq_of_lt stored.fits]

theorem pciPathNumber_eq (stored : scope.StoredAt memory address) :
    pciPathNumber memory address = scope.path.length := by
  have fits := stored.fits
  rw [length] at fits
  rw [pciPathNumber, scopeLength_eq stored, length, sizeofDeviceScopeHeader]
  omega

theorem pciPathAt_eq (place : Nat) (hop : PciPath) (held : memory.Holds place hop.encode) :
    pciPathAt memory place = hop := by
  have device := held.apply 0 (by simp [PciPath.encode])
  have function := held.apply 1 (by simp [PciPath.encode])
  simp only [PciPath.encode, Nat.add_zero] at device function
  rw [pciPathAt, device, function]
  rfl

theorem printDeviceScope_eq (stored : scope.StoredAt memory address) :
    printDeviceScope memory address scope.path.length = reports (address, scope) := by
  have hops := @readEntries_of_holds PciPath memory PciPath.encode (pciPathAt memory) 2
    (fun _ => rfl) pciPathAt_eq scope.path (address + 6) stored.path
  have printed : (List.range scope.path.length).map (fun index =>
      DmarReport.pciPath (pciPathAt memory (hopAt address index))) =
        scope.path.map .pciPath := by
    refine Eq.trans ?_ (congrArg (List.map DmarReport.pciPath) hops)
    rw [readEntries, List.map_map]
    refine List.map_congr_left fun index _ => ?_
    rw [Function.comp_apply, hopAt, sizeofDeviceScopeHeader, Nat.mul_comm]
  rw [printDeviceScope, printed, stored.type, stored.length, stored.enumerationId,
    stored.startBusNumber]
  rfl

theorem length_pos (scope : DeviceScope) : 0 < scope.length :=
  Nat.lt_of_lt_of_le (Nat.succ_pos 5) (Nat.le_add_right 6 _)

end DeviceScope

/-- The loop over stored scopes that fill the structure. -/
theorem dumpStructureScopes_stored {sizeofHeader : Nat} {scopes : List DeviceScope}
    (stored : ScopesAt memory (address + sizeofHeader) scopes)
    (filled : structureLength memory address = sizeofHeader + total DeviceScope.length scopes)
    (enough : scopes.length ≤ fuel) :
    dumpStructureScopes memory sizeofHeader fuel address =
      some ((placed DeviceScope.length (address + sizeofHeader) scopes).map fun scope =>
        .deviceScope scope.1 scope.2.path.length) := by
  rw [dumpStructureScopes_eq, List.map_eq_flatMap]
  refine walkItems_records DeviceScope.length scopes ?_ (by omega) enough
  intro entry listed
  have bounds := placed_bounds listed
  have positive := entry.2.length_pos
  have here := stored entry listed
  refine ⟨⟨by omega, DeviceScope.scopeLength_eq here⟩, ?_⟩
  rw [DeviceScope.pciPathNumber_eq here]

end Scopes

/-! ## Structures -/

section Structures

variable {memory : Memory} {address fuel : Nat} {entry : DmarStructure}

/-- A text with its NUL is printed up to the NUL. -/
theorem asciiAt_eq {text : List UInt8} (held : memory.Holds address (text ++ [0]))
    (noNul : 0 ∉ text) (enough : text.length < fuel) : asciiAt memory fuel address = some text := by
  induction text generalizing address fuel with
  | nil =>
      obtain ⟨fuel, rfl⟩ := Nat.exists_eq_add_of_le' (Nat.succ_le_of_lt enough)
      have nul : memory address = 0 := held.apply 0 (by simp)
      exact if_pos nul
  | cons character rest ih =>
      obtain ⟨fuel, rfl⟩ := Nat.exists_eq_add_of_le' (Nat.lt_of_le_of_lt (Nat.zero_le _) enough)
      rw [List.mem_cons, not_or] at noNul
      rw [List.cons_append, ← List.singleton_append, Memory.holds_append] at held
      have here : memory address = character := held.1.apply 0 (by simp)
      have behind := ih held.2 noNul.2 (Nat.lt_of_succ_lt_succ enough)
      rw [List.length_singleton] at behind
      rw [asciiAt, here, if_neg (Ne.symm noNul.1), behind, Option.map_some]

namespace DmarStructure

theorem structureType_eq (stored : entry.StoredAt memory address) :
    structureType memory address = entry.type := stored.type

theorem structureLength_eq (stored : entry.StoredAt memory address) :
    structureLength memory address = entry.length := stored.length

theorem read16_length (stored : entry.StoredAt memory address) :
    read16 memory (address + 2) = UInt16.ofNat entry.length := by
  rw [read16, stored.length]

theorem read16_eq {value : UInt16} (field : memory.readLe address 2 = value.toNat) :
    read16 memory address = value := by
  rw [read16, field, UInt16.ofNat_toNat]

theorem read32_eq {value : UInt32} (field : memory.readLe address 4 = value.toNat) :
    read32 memory address = value := by
  rw [read32, field, UInt32.ofNat_toNat]

theorem read64_eq {value : UInt64} (field : memory.readLe address 8 = value.toNat) :
    read64 memory address = value := by
  rw [read64, field, UInt64.ofNat_toNat]

theorem printStructure_eq (stored : entry.StoredAt memory address) (enough : entry.length ≤ fuel) :
    printStructure memory fuel entry.type address = some (entry.ownReports address) := by
  have own := read16_length stored
  have fields := stored.fields
  simp only [printStructure, dmarTypeDrhd, dmarTypeRmrr, dmarTypeAtsr, dmarTypeRhsa, dmarTypeAndd,
    own]
  cases entry with
  | drhd flags segmentNumber registerBaseAddress scopes =>
      obtain ⟨flags, segment, base, _⟩ := fields
      rw [flags, read16_eq segment, read64_eq base]
      rfl
  | rmrr segmentNumber baseAddress limitAddress scopes =>
      obtain ⟨segment, base, limit, _⟩ := fields
      rw [read16_eq segment, read64_eq base, read64_eq limit]
      rfl
  | atsr flags segmentNumber scopes =>
      obtain ⟨flags, segment, _⟩ := fields
      rw [flags, read16_eq segment]
      rfl
  | rhsa registerBaseAddress proximityDomain =>
      obtain ⟨base, domain⟩ := fields
      rw [read64_eq base, read32_eq domain]
      rfl
  | andd acpiDeviceNumber acpiObjectName =>
      obtain ⟨number, noNul, held⟩ := fields
      rw [length] at enough
      have name := asciiAt_eq held noNul (Nat.lt_of_lt_of_le (by omega) enough)
      rw [number, name]
      rfl
  | unknown type size =>
      have other : 4 < type.toNat := fields
      rw [DmarStructure.type, if_neg (by omega), if_neg (by omega), if_neg (by omega),
        if_neg (by omega), if_neg (by omega)]
      rfl

theorem length_ge (entry : DmarStructure) :
    entry.scopesOffset + total DeviceScope.length entry.scopes ≤ entry.length ∨
      entry.scopes = [] := by
  cases entry with
  | drhd => exact Or.inl (Nat.le_refl _)
  | rmrr => exact Or.inl (Nat.le_refl _)
  | atsr => exact Or.inl (Nat.le_refl _)
  | _ => exact Or.inr rfl

theorem length_scopes_le (entry : DmarStructure) : entry.scopes.length ≤ entry.length := by
  rcases entry.length_ge with room | none
  · have count := length_le_total DeviceScope.length entry.scopes
      fun scope _ => scope.length_pos
    omega
  · rw [none]
    exact Nat.zero_le _

theorem length_pos (entry : DmarStructure) : 0 < entry.length := by
  cases entry <;> simp only [length] <;> omega

/-- Only the first three types are dumped with scopes. -/
theorem dumpDmarByType_stored (stored : entry.StoredAt memory address)
    (enough : entry.length ≤ fuel) :
    dumpDmarByType memory fuel address =
      some ((placedScopes (address, entry)).map fun scope =>
        .deviceScope scope.1 scope.2.path.length) := by
  have filled := structureLength_eq stored
  have count := Nat.le_trans entry.length_scopes_le enough
  have fields := stored.fields
  rw [dumpDmarByType, structureType_eq stored]
  cases entry with
  | drhd flags segmentNumber registerBaseAddress scopes =>
      exact dumpStructureScopes_stored fields.2.2.2 filled count
  | rmrr segmentNumber baseAddress limitAddress scopes =>
      exact dumpStructureScopes_stored fields.2.2.2 filled count
  | atsr flags segmentNumber scopes =>
      exact dumpStructureScopes_stored fields.2.2 filled count
  | rhsa registerBaseAddress proximityDomain => rfl
  | andd acpiDeviceNumber acpiObjectName => rfl
  | unknown type size =>
      have other : 4 < type.toNat := fields
      rw [DmarStructure.type, dmarTypeDrhd, dmarTypeRmrr, dmarTypeAtsr, if_neg (by omega),
        if_neg (by omega), if_neg (by omega)]
      rfl

theorem dumpDmarStructure_stored (stored : entry.StoredAt memory address)
    (enough : entry.length ≤ fuel) :
    dumpDmarStructure memory fuel address = some (items (address, entry)) := by
  rw [dumpDmarStructure, dumpDmarByType_stored stored enough, structureType_eq stored]
  rfl

theorem scopes_stored (stored : entry.StoredAt memory address) :
    ∀ scope ∈ placedScopes (address, entry), scope.2.StoredAt memory scope.1 := by
  have fields := stored.fields
  cases entry with
  | drhd => exact fields.2.2.2
  | rmrr => exact fields.2.2.2
  | atsr => exact fields.2.2
  | _ => exact List.forall_mem_nil _

end DmarStructure

theorem printItems_append {first second : List DmarItem} {own behind : List DmarReport}
    (front : printItems memory fuel first = some own)
    (back : printItems memory fuel second = some behind) :
    printItems memory fuel (first ++ second) = some (own ++ behind) := by
  induction first generalizing own with
  | nil =>
      cases front
      exact back
  | cons item rest ih =>
      simp only [printItems, Option.bind_eq_bind, Option.bind_eq_some_iff] at front
      obtain ⟨here, prints, later, goesOn, same⟩ := front
      cases same
      rw [List.cons_append, printItems, prints, ih goesOn, List.append_assoc]
      rfl

theorem printItems_flatMap {Place : Type} {items : Place → List DmarItem}
    {reports : Place → List DmarReport} {places : List Place}
    (each : ∀ place ∈ places, printItems memory fuel (items place) = some (reports place)) :
    printItems memory fuel (places.flatMap items) = some (places.flatMap reports) := by
  induction places with
  | nil => rfl
  | cons place rest ih =>
      rw [List.forall_mem_cons] at each
      exact printItems_append each.1 (ih each.2)

theorem printItems_stored (stored : entry.StoredAt memory address)
    (enough : entry.length ≤ fuel) :
    printItems memory fuel (DmarStructure.items (address, entry)) =
      some (DmarStructure.reports (address, entry)) := by
  have own : printItems memory fuel [.structure entry.type address] =
      some (entry.ownReports address) := by
    simp only [printItems, DmarItem.print, DmarStructure.printStructure_eq stored enough]
    exact congrArg some (List.append_nil _)
  refine printItems_append own ?_
  rw [List.map_eq_flatMap]
  refine printItems_flatMap fun scope listed => ?_
  have here := DmarStructure.scopes_stored stored scope listed
  simp only [printItems, DmarItem.print, DeviceScope.printDeviceScope_eq here]
  exact congrArg some (List.append_nil _)

end Structures

/-! ## Reading back -/

section Recover

theorem foldr_path (path : List PciPath) (behind : Recovered) :
    (path.map DmarReport.pciPath).foldr recoverReport behind =
      { behind with path := path ++ behind.path } := by
  induction path with
  | nil => rfl
  | cons hop rest ih => rw [List.map_cons, List.foldr_cons, ih, recoverReport, List.cons_append]

theorem foldr_scopes (scopes : List (Nat × DeviceScope)) (structures : List DmarStructure) :
    (scopes.flatMap DeviceScope.reports).foldr recoverReport ⟨[], [], structures⟩ =
      ⟨[], scopes.map Prod.snd, structures⟩ := by
  induction scopes with
  | nil => rfl
  | cons scope rest ih =>
      rw [List.flatMap_cons, List.foldr_append, ih, DeviceScope.reports, List.foldr_cons,
        foldr_path, recoverReport]
      simp

theorem foldr_structure (address : Nat) (entry : DmarStructure) (structures : List DmarStructure) :
    (DmarStructure.reports (address, entry)).foldr recoverReport ⟨[], [], structures⟩ =
      ⟨[], [], [entry].filter DmarStructure.isKnown ++ structures⟩ := by
  rw [DmarStructure.reports, List.foldr_append, foldr_scopes, DmarStructure.placedScopes,
    map_snd_placed]
  cases entry <;> rfl

theorem recover_reports (entries : List (Nat × DmarStructure)) :
    recover (entries.flatMap DmarStructure.reports) =
      (entries.map Prod.snd).filter DmarStructure.isKnown := by
  have all : (entries.flatMap DmarStructure.reports).foldr recoverReport ⟨[], [], []⟩ =
      ⟨[], [], (entries.map Prod.snd).filter DmarStructure.isKnown⟩ := by
    induction entries with
    | nil => rfl
    | cons entry rest ih =>
        obtain ⟨address, entry⟩ := entry
        rw [List.flatMap_cons, List.foldr_append, ih, foldr_structure, ← List.filter_append]
        rfl
  rw [recover, all]

theorem isKnown_of_mem_recover (reports : List DmarReport) :
    ∀ entry ∈ recover reports, entry.isKnown = true := by
  rw [recover]
  induction reports with
  | nil => exact List.forall_mem_nil _
  | cons report rest ih =>
      cases report with
      | table => exact ih
      | deviceScope => exact ih
      | pciPath => exact ih
      | _ => exact List.forall_mem_cons.mpr ⟨rfl, ih⟩

end Recover

namespace DmarTable

variable (table : DmarTable)

def placedStructures : List (Nat × DmarStructure) :=
  placed DmarStructure.length (table.address + 48) table.structures

def finish : Nat := table.address + tableLength table.memory table.address

/-- The dump came to all structures, back to back up to the table's end, and printed the
header and the reports of each structure in order, from which `reported` can be read back. -/
structure Recovers (flagLines : FlagLines) (reported : List DmarStructure) (dump : DmarDump) :
    Prop where
  places : dump.places = table.placedStructures.map fun entry => ⟨entry.1, entry.2.length⟩
  tiles : Range.Tiles (table.address + sizeofDmarHeader) table.finish dump.places
  reports : dump.reports = reportTable flagLines table.memory table.address ::
    table.placedStructures.flatMap DmarStructure.reports
  structures : recover dump.reports = reported

def known : List DmarStructure := table.structures.filter DmarStructure.isKnown

theorem finish_eq :
    table.finish =
      table.address + sizeofDmarHeader + total DmarStructure.length table.structures := by
  rw [finish, tableLength, table.length, sizeofDmarHeader, Nat.add_assoc]

theorem length_le_total {entry : Nat × DmarStructure} (listed : entry ∈ table.placedStructures) :
    entry.2.length ≤ total DmarStructure.length table.structures := by
  have bounds := placed_bounds listed
  omega

theorem dumpAcpiDmar_stored :
    dumpAcpiDmar table.memory (total DmarStructure.length table.structures)
        (total DmarStructure.length table.structures) table.address =
      some (table.placedStructures.flatMap DmarStructure.items) := by
  have finish := table.finish_eq
  rw [DmarTable.finish] at finish
  rw [dumpAcpiDmar_eq]
  refine walkItems_records DmarStructure.length table.structures ?_ (by omega) ?_
  · intro entry listed
    have bounds := placed_bounds listed
    have positive := entry.2.length_pos
    have stored := table.stored entry listed
    refine ⟨⟨by omega, DmarStructure.structureLength_eq stored⟩, ?_⟩
    exact DmarStructure.dumpDmarStructure_stored stored (table.length_le_total listed)
  · exact RecordWalk.length_le_total _ _ fun entry _ => entry.length_pos

theorem places_items (entries : List (Nat × DmarStructure))
    (stored : ∀ entry ∈ entries, entry.2.StoredAt table.memory entry.1) :
    (entries.flatMap DmarStructure.items).filterMap (DmarItem.place? table.memory) =
      entries.map fun entry => ⟨entry.1, entry.2.length⟩ := by
  induction entries with
  | nil => rfl
  | cons entry rest ih =>
      rw [List.forall_mem_cons] at stored
      have none : ∀ scopes : List (Nat × DeviceScope),
          (scopes.map fun scope => DmarItem.deviceScope scope.1 scope.2.path.length).filterMap
            (DmarItem.place? table.memory) = [] := by
        intro scopes
        rw [List.filterMap_map, List.filterMap_eq_nil_iff]
        exact fun _ _ => rfl
      have length := DmarStructure.structureLength_eq stored.1
      rw [List.flatMap_cons, List.filterMap_append, ih stored.2, DmarStructure.items,
        List.filterMap_cons, none, DmarItem.place?, length]
      rfl

def expected (flagLines : FlagLines) : DmarDump where
  places := table.placedStructures.map fun entry => ⟨entry.1, entry.2.length⟩
  reports := reportTable flagLines table.memory table.address ::
    table.placedStructures.flatMap DmarStructure.reports

theorem dumpDmarTable_eq (flagLines : FlagLines) :
    dumpDmarTable flagLines table.memory (total DmarStructure.length table.structures)
      table.address = some (table.expected flagLines) := by
  have each : ∀ entry ∈ table.placedStructures,
      printItems table.memory (total DmarStructure.length table.structures)
        (DmarStructure.items entry) = some (DmarStructure.reports entry) := fun entry listed =>
    printItems_stored (table.stored entry listed) (table.length_le_total listed)
  have places := table.places_items table.placedStructures table.stored
  rw [dumpDmarTable, if_neg table.notNull, table.dumpAcpiDmar_stored]
  simp only [Option.bind_eq_bind, Option.bind_some, printItems_flatMap each, places]
  rfl

theorem tiles_expected (flagLines : FlagLines) :
    Range.Tiles (table.address + sizeofDmarHeader) table.finish
      (table.expected flagLines).places := by
  have tiles : ∀ (entries : List DmarStructure) (start : Nat),
      Range.Tiles start (start + total DmarStructure.length entries)
        ((placed DmarStructure.length start entries).map fun entry =>
          ⟨entry.1, entry.2.length⟩) := by
    intro entries
    induction entries with
    | nil => exact fun start => (Nat.add_zero start).symm
    | cons entry rest ih =>
        intro start
        rw [total_cons, ← Nat.add_assoc]
        exact ⟨rfl, ih _⟩
  rw [finish_eq]
  exact tiles _ _

theorem recovers_expected (flagLines : FlagLines) :
    table.Recovers flagLines table.known (table.expected flagLines) where
  places := rfl
  tiles := table.tiles_expected flagLines
  reports := rfl
  structures := by
    have read := recover_reports table.placedStructures
    rw [placedStructures, map_snd_placed] at read
    exact read

end DmarTable

/-- Both dumps end at the table's end and recover the structures of the known types, the one
of the library with verbose output on.  Without it that one reports nothing. -/
theorem dumpAcpiDMAR_recovers (table : DmarTable) :
    (∃ fuel dump,
        DumpAcpiDMARLib.dumpAcpiDMAR true table.memory fuel table.address = some dump ∧
          table.Recovers DumpAcpiDMARLib.flagLines table.known dump) ∧
      (∀ fuel, DumpAcpiDMARLib.dumpAcpiDMAR false table.memory fuel table.address =
        some ⟨[], []⟩) ∧
      ∃ fuel dump, VtdDump.dumpAcpiDMAR table.memory fuel table.address = some dump ∧
        table.Recovers VtdDump.flagLines table.known dump :=
  ⟨⟨_, _, table.dumpDmarTable_eq _, table.recovers_expected _⟩, fun _ => rfl,
    ⟨_, _, table.dumpDmarTable_eq _, table.recovers_expected _⟩⟩

/-- A SoC Integrated Address Translation Cache structure, of type 5. -/
def satcTable : DmarTable where
  memory := Memory.ofBytesAt 0x1004
    ([56, 0, 0, 0] ++ List.replicate 40 0 ++ [5, 0, 8, 0, 1, 0, 0, 0])
  address := 0x1000
  notNull := Memory.secondPage_ne_null
  structures := [.unknown 5 4]
  length := by decide
  stored := by
    rw [placed, placed, List.forall_mem_singleton]
    exact
      { fits := by decide
        type := by decide
        length := by decide
        fields := (by decide : 4 < (5 : UInt16).toNat) }

/-- Of a structure with an unknown type nothing is reported. -/
theorem dumpAcpiDMAR_satc :
    DumpAcpiDMARLib.dumpAcpiDMAR true satcTable.memory 8 satcTable.address =
        some ⟨[⟨0x1030, 8⟩],
          [.table 0x1000 0 0 [("INTR_REMAP", 0), ("X2APIC_OPT_OUT_SET", 0)]]⟩ ∧
      ¬ ∃ fuel dump,
        DumpAcpiDMARLib.dumpAcpiDMAR true satcTable.memory fuel satcTable.address = some dump ∧
          satcTable.Recovers DumpAcpiDMARLib.flagLines satcTable.structures dump := by
  constructor
  · decide +kernel
  · rintro ⟨_, dump, _, recovers⟩
    have known := isKnown_of_mem_recover dump.reports
    rw [recovers.structures] at known
    exact absurd (known (.unknown 5 4) List.mem_cons_self) (by decide)

end AppEfi.Vtd
