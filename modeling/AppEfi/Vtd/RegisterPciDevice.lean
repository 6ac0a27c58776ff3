import AppEfi.Lib.Memory
import Mathlib.Logic.Function.Basic
import Mathlib.Data.List.Nodup

/-!
# The device table of a VT-d unit

`GetPciDataIndex` and `RegisterPciDevice` of VtdDump.c.  The table is a buffer
of PciDeviceDataMaxNumber entries that is replaced by a larger one when it is
full.  A unit with INCLUDE_PCI_ALL does not register a device that a unit before
it has; no other unit looks at its neighbours.
-/

set_option autoImplicit false

namespace AppEfi.Vtd

structure SourceId where
  bus : BitVec 8
  device : BitVec 5
  function : BitVec 3
  deriving DecidableEq, Repr

/-- `EDKII_PLATFORM_VTD_PCI_DEVICE_ID`. -/
structure PciDeviceId where
  vendorId : UInt16
  deviceId : UInt16
  revisionId : UInt8
  subsystemVendorId : UInt16
  subsystemDeviceId : UInt16
  deriving DecidableEq, Repr

structure PciDeviceData where
  deviceType : UInt8
  pciSourceId : SourceId
  pciDeviceId : PciDeviceId
  deriving DecidableEq, Repr

def zeroPciDeviceData : PciDeviceData := ⟨0, ⟨0, 0, 0⟩, ⟨0, 0, 0, 0, 0⟩⟩

/-- `PCI_DEVICE_INFORMATION`; the buffer is empty for a `NULL` pointer. -/
structure PciDeviceInformation where
  includeAllFlag : Bool
  pciDeviceDataNumber : Nat
  pciDeviceDataMaxNumber : Nat
  pciDeviceData : List PciDeviceData
  deriving DecidableEq, Repr

structure VtdUnitInformation where
  vtdUnitBaseAddress : Nat
  segment : UInt16
  pciDeviceInfo : PciDeviceInformation
  deriving DecidableEq, Repr

abbrev VtdUnits := Nat → VtdUnitInformation

def pciSegmentLibAddress (segment : UInt16) (bus device function register : Nat) : Nat :=
  register % 2 ^ 12 + function % 2 ^ 3 * 2 ^ 12 + device % 2 ^ 5 * 2 ^ 15 +
    bus % 2 ^ 8 * 2 ^ 20 + segment.toNat * 2 ^ 32

def pciVendorIdOffset : Nat := 0x00
def pciDeviceIdOffset : Nat := 0x02
def pciRevisionIdOffset : Nat := 0x08
def pciSubsystemVendorIdOffset : Nat := 0x2C
def pciSubsystemIdOffset : Nat := 0x2E

def scopePciEndpoint : UInt8 := 1
def scopePciBridge : UInt8 := 2

def maxVtdPciDataNumber : Nat := 0x100

inductive EfiStatus where
  | success
  | outOfResources
  | alreadyStarted
  | deviceError
  deriving DecidableEq, Repr

def PciDeviceInformation.entries (info : PciDeviceInformation) : List PciDeviceData :=
  info.pciDeviceData.take info.pciDeviceDataNumber

/-- The index of a registered device, `none` for `(UINTN)-1`. -/
def getPciDataIndex (units : VtdUnits) (vtdIndex : Nat) (segment : UInt16)
    (sourceId : SourceId) : Option Nat :=
  if segment ≠ (units vtdIndex).segment then none
  else (units vtdIndex).pciDeviceInfo.entries.findIdx? fun data =>
    data.pciSourceId == sourceId

/-- `AllocateZeroPool` for a larger buffer, with the copy of the entries. -/
def reallocate (allocates : Bool) (info : PciDeviceInformation) : Option PciDeviceInformation :=
  if allocates then
    some { info with
      pciDeviceDataMaxNumber := info.pciDeviceDataMaxNumber + maxVtdPciDataNumber
      pciDeviceData := info.pciDeviceData.take info.pciDeviceDataNumber ++
        List.replicate
          (info.pciDeviceDataMaxNumber + maxVtdPciDataNumber - info.pciDeviceDataNumber)
          zeroPciDeviceData }
  else none

section Register

variable (config : Memory)

/-- PciDeviceId of a new entry: read for endpoints and bridges, else left as it is. -/
def readPciDeviceId (segment : UInt16) (sourceId : SourceId) (deviceType : UInt8)
    (old : PciDeviceId) : PciDeviceId :=
  let address := pciSegmentLibAddress segment sourceId.bus.toNat sourceId.device.toNat
    sourceId.function.toNat
  let read16 := fun offset => UInt16.ofNat (config.readLe (address offset) 2)
  if deviceType = scopePciEndpoint ∨ deviceType = scopePciBridge then
    let pciDeviceId := { old with
      vendorId := read16 pciVendorIdOffset
      deviceId := read16 pciDeviceIdOffset
      revisionId := config (address pciRevisionIdOffset) }
    if deviceType = scopePciEndpoint then
      { pciDeviceId with
        subsystemVendorId := read16 pciSubsystemVendorIdOffset
        subsystemDeviceId := read16 pciSubsystemIdOffset }
    else pciDeviceId
  else old

/-- The new entry at index PciDeviceDataNumber. -/
def addPciDeviceData (info : PciDeviceInformation) (segment : UInt16) (sourceId : SourceId)
    (deviceType : UInt8) : PciDeviceInformation :=
  let slot := info.pciDeviceData.getD info.pciDeviceDataNumber zeroPciDeviceData
  { info with
    pciDeviceData := info.pciDeviceData.set info.pciDeviceDataNumber
      { deviceType := deviceType
        pciSourceId := sourceId
        pciDeviceId := readPciDeviceId config segment sourceId deviceType slot.pciDeviceId }
    pciDeviceDataNumber := info.pciDeviceDataNumber + 1 }

/-- The loop over the units before VtdIndex. -/
def registeredByOther (units : VtdUnits) (vtdIndex : Nat) (segment : UInt16)
    (sourceId : SourceId) : Bool :=
  (List.range vtdIndex).any fun index =>
    (getPciDataIndex units index segment sourceId).isSome

/-- `allocates` is the outcome of `AllocateZeroPool` if the call needs it. -/
def registerPciDevice (units : VtdUnits) (allocates : Bool) (vtdIndex : Nat)
    (segment : UInt16) (sourceId : SourceId) (deviceType : UInt8) (checkExist : Bool) :
    VtdUnits × EfiStatus :=
  let vtdUnit := units vtdIndex
  let pciDeviceInfo := vtdUnit.pciDeviceInfo
  if pciDeviceInfo.includeAllFlag && registeredByOther units vtdIndex segment sourceId then
    (units, .success)
  else
    match getPciDataIndex units vtdIndex segment sourceId with
    | some _ => (units, if checkExist then .alreadyStarted else .success)
    | none =>
        let room :=
          if pciDeviceInfo.pciDeviceDataNumber ≥ pciDeviceInfo.pciDeviceDataMaxNumber then
            reallocate allocates pciDeviceInfo
          else some pciDeviceInfo
        match room with
        | none => (units, .outOfResources)
        | some info =>
            (Function.update units vtdIndex
              { vtdUnit with
                pciDeviceInfo := addPciDeviceData config info segment sourceId deviceType },
              .success)

end Register

/-! ## What one call can do -/

/-- The table is a buffer of PciDeviceDataMaxNumber entries, of which the first
PciDeviceDataNumber are different devices. -/
structure PciDeviceInformation.WellFormed (info : PciDeviceInformation) : Prop where
  length : info.pciDeviceData.length = info.pciDeviceDataMaxNumber
  number_le : info.pciDeviceDataNumber ≤ info.pciDeviceDataMaxNumber
  distinct : (info.entries.map PciDeviceData.pciSourceId).Nodup

def Registered (units : VtdUnits) (vtdIndex : Nat) (sourceId : SourceId) : Prop :=
  sourceId ∈ (units vtdIndex).pciDeviceInfo.entries.map PciDeviceData.pciSourceId

theorem getPciDataIndex_isSome {units : VtdUnits} {vtdIndex : Nat} {segment : UInt16}
    {sourceId : SourceId} :
    (getPciDataIndex units vtdIndex segment sourceId).isSome = true ↔
      segment = (units vtdIndex).segment ∧ Registered units vtdIndex sourceId := by
  unfold getPciDataIndex Registered
  by_cases same : segment = (units vtdIndex).segment
  · simp [same, List.mem_map]
  · simp [same]

theorem registeredByOther_iff {units : VtdUnits} {vtdIndex : Nat} {segment : UInt16}
    {sourceId : SourceId} :
    registeredByOther units vtdIndex segment sourceId = true ↔
      ∃ index < vtdIndex, segment = (units index).segment ∧
        Registered units index sourceId := by
  simp only [registeredByOther, List.any_eq_true, List.mem_range, getPciDataIndex_isSome]

theorem reallocate_spec {info larger : PciDeviceInformation} {allocates : Bool}
    (wellFormed : info.WellFormed) (run : reallocate allocates info = some larger) :
    larger.WellFormed ∧ larger.entries = info.entries ∧
      larger.includeAllFlag = info.includeAllFlag ∧
      larger.pciDeviceDataNumber < larger.pciDeviceDataMaxNumber := by
  unfold reallocate at run
  split at run
  · cases run
    have taken : (info.pciDeviceData.take info.pciDeviceDataNumber).length =
        info.pciDeviceDataNumber := by
      rw [List.length_take, wellFormed.length]
      exact Nat.min_eq_left wellFormed.number_le
    have kept : (info.pciDeviceData.take info.pciDeviceDataNumber ++ List.replicate
        (info.pciDeviceDataMaxNumber + maxVtdPciDataNumber - info.pciDeviceDataNumber)
        zeroPciDeviceData).take info.pciDeviceDataNumber = info.entries :=
      List.take_left' taken
    have room := wellFormed.number_le
    refine ⟨⟨?_, ?_, ?_⟩, kept, rfl, ?_⟩
    · dsimp only
      rw [List.length_append, taken, List.length_replicate]
      omega
    · dsimp only
      omega
    · rw [PciDeviceInformation.entries, kept]
      exact wellFormed.distinct
    · dsimp only [maxVtdPciDataNumber]
      omega
  · cases run

theorem addPciDeviceData_spec (config : Memory) {info : PciDeviceInformation}
    (wellFormed : info.WellFormed)
    (room : info.pciDeviceDataNumber < info.pciDeviceDataMaxNumber) (segment : UInt16)
    {sourceId : SourceId} (deviceType : UInt8)
    (fresh : sourceId ∉ info.entries.map PciDeviceData.pciSourceId) :
    (addPciDeviceData config info segment sourceId deviceType).WellFormed ∧
      (addPciDeviceData config info segment sourceId deviceType).includeAllFlag =
        info.includeAllFlag ∧
      ∃ data, data.pciSourceId = sourceId ∧
        (addPciDeviceData config info segment sourceId deviceType).entries =
          info.entries ++ [data] := by
  set data : PciDeviceData :=
    { deviceType := deviceType
      pciSourceId := sourceId
      pciDeviceId := readPciDeviceId config segment sourceId deviceType
        (info.pciDeviceData.getD info.pciDeviceDataNumber zeroPciDeviceData).pciDeviceId }
    with dataEq
  have entries : (addPciDeviceData config info segment sourceId deviceType).entries =
      info.entries ++ [data] := by
    have inside : info.pciDeviceDataNumber < info.pciDeviceData.length := by
      rw [wellFormed.length]
      exact room
    simp only [PciDeviceInformation.entries, addPciDeviceData, ← dataEq]
    rw [List.take_succ_eq_append_getElem (by simpa using inside),
      List.take_set_of_le (Nat.le_refl _)]
    simp
  refine ⟨⟨?_, room, ?_⟩, rfl, data, rfl, entries⟩
  · simp [addPciDeviceData, wellFormed.length]
  · rw [entries, List.map_append, List.nodup_append]
    refine ⟨wellFormed.distinct, by simp, ?_⟩
    intro old member new isNew
    simp only [List.map_cons, List.map_nil, List.mem_singleton] at isNew
    subst isNew
    intro same
    exact fresh (same ▸ member)

/-- A unit's table with one more device, everything else as before. -/
structure Added (units after : VtdUnits) (vtdIndex : Nat) (sourceId : SourceId) : Prop where
  others : ∀ index, index ≠ vtdIndex → after index = units index
  segment : (after vtdIndex).segment = (units vtdIndex).segment
  includeAllFlag : (after vtdIndex).pciDeviceInfo.includeAllFlag =
    (units vtdIndex).pciDeviceInfo.includeAllFlag
  wellFormed : (after vtdIndex).pciDeviceInfo.WellFormed
  entries : ∃ data, data.pciSourceId = sourceId ∧
    (after vtdIndex).pciDeviceInfo.entries = (units vtdIndex).pciDeviceInfo.entries ++ [data]

/-- The table in which a new entry is written. -/
theorem room_spec {allocates : Bool} {info grown : PciDeviceInformation}
    (wellFormed : info.WellFormed)
    (room : (if info.pciDeviceDataNumber ≥ info.pciDeviceDataMaxNumber then
      reallocate allocates info else some info) = some grown) :
    grown.WellFormed ∧ grown.entries = info.entries ∧
      grown.includeAllFlag = info.includeAllFlag ∧
      grown.pciDeviceDataNumber < grown.pciDeviceDataMaxNumber := by
  split at room
  · exact reallocate_spec wellFormed room
  · cases room
    exact ⟨wellFormed, rfl, rfl, by omega⟩

/-- A call whose Segment is the unit's either changes nothing, for one of three
reasons, or adds the device. -/
theorem registerPciDevice_cases (config : Memory) {units : VtdUnits} {vtdIndex : Nat}
    (wellFormed : (units vtdIndex).pciDeviceInfo.WellFormed) (allocates : Bool)
    (sourceId : SourceId) (deviceType : UInt8) (checkExist : Bool) {after : VtdUnits}
    {status : EfiStatus}
    (run : registerPciDevice config units allocates vtdIndex (units vtdIndex).segment sourceId
      deviceType checkExist = (after, status)) :
    (after = units ∧ status = .success ∧
      (units vtdIndex).pciDeviceInfo.includeAllFlag = true ∧
      registeredByOther units vtdIndex (units vtdIndex).segment sourceId = true) ∨
    (after = units ∧ Registered units vtdIndex sourceId ∧
      status = if checkExist then .alreadyStarted else .success) ∨
    (after = units ∧ status = .outOfResources) ∨
    (status = .success ∧ ¬ Registered units vtdIndex sourceId ∧
      ((units vtdIndex).pciDeviceInfo.includeAllFlag = true →
        registeredByOther units vtdIndex (units vtdIndex).segment sourceId = false) ∧
      Added units after vtdIndex sourceId) := by
  simp only [registerPciDevice] at run
  by_cases skipped : ((units vtdIndex).pciDeviceInfo.includeAllFlag &&
      registeredByOther units vtdIndex (units vtdIndex).segment sourceId) = true
  · rw [if_pos skipped, Prod.mk.injEq] at run
    obtain ⟨rfl, rfl⟩ := run
    obtain ⟨all, other⟩ := (Bool.and_eq_true _ _).mp skipped
    exact Or.inl ⟨rfl, rfl, all, other⟩
  rw [if_neg skipped] at run
  right
  cases search : getPciDataIndex units vtdIndex (units vtdIndex).segment sourceId with
  | some index =>
      rw [search, Prod.mk.injEq] at run
      obtain ⟨rfl, rfl⟩ := run
      have present := getPciDataIndex_isSome.mp (Option.isSome_of_eq_some search)
      exact Or.inl ⟨rfl, present.2, rfl⟩
  | none =>
      right
      rw [search] at run
      dsimp only at run
      have fresh : ¬ Registered units vtdIndex sourceId := by
        intro present
        have found := getPciDataIndex_isSome.mpr ⟨rfl, present⟩
        rw [search] at found
        cases found
      split at run
      · rw [Prod.mk.injEq] at run
        exact Or.inl ⟨run.1.symm, run.2.symm⟩
      · rename_i info room
        obtain ⟨infoWellFormed, sameEntries, sameFlag, space⟩ := room_spec wellFormed room
        rw [Prod.mk.injEq] at run
        obtain ⟨rfl, rfl⟩ := run
        have absent : sourceId ∉ info.entries.map PciDeviceData.pciSourceId := by
          rw [sameEntries]
          exact fresh
        obtain ⟨added, flag, data, source, entries⟩ := addPciDeviceData_spec config
          infoWellFormed space (units vtdIndex).segment deviceType absent
        refine Or.inr ⟨rfl, fresh, ?_, ?_⟩
        · intro all
          simpa [all] using skipped
        · refine ⟨fun index other => Function.update_of_ne other _ _, ?_, ?_, ?_, data,
            source, ?_⟩
          · rw [Function.update_self]
          · rw [Function.update_self]
            exact flag.trans sameFlag
          · rw [Function.update_self]
            exact added
          · rw [Function.update_self, ← sameEntries]
            exact entries

theorem Added.registered {units after : VtdUnits} {vtdIndex : Nat} {sourceId : SourceId}
    (added : Added units after vtdIndex sourceId) : Registered after vtdIndex sourceId := by
  obtain ⟨data, source, entries⟩ := added.entries
  rw [Registered, entries, List.map_append, List.mem_append]
  exact Or.inr (by simp [source])

/-! ## Sequences of calls -/

structure RegisterCall where
  allocates : Bool
  vtdIndex : Nat
  segment : UInt16
  sourceId : SourceId
  deviceType : UInt8
  checkExist : Bool

def RegisterCall.run (config : Memory) (units : VtdUnits) (call : RegisterCall) :
    VtdUnits × EfiStatus :=
  registerPciDevice config units call.allocates call.vtdIndex call.segment call.sourceId
    call.deviceType call.checkExist

/-- No table was allocated yet; ProcessDhrd has set flags and segments as it likes. -/
def Fresh (units : VtdUnits) : Prop :=
  ∀ index, (units index).pciDeviceInfo.pciDeviceDataNumber = 0 ∧
    (units index).pciDeviceInfo.pciDeviceDataMaxNumber = 0 ∧
    (units index).pciDeviceInfo.pciDeviceData = []

/-- The states of the units over all sequences of calls whose Segment is the unit's. -/
inductive Reachable (config : Memory) : VtdUnits → Prop
  | fresh {units : VtdUnits} (fresh : Fresh units) : Reachable config units
  | register {units : VtdUnits} (call : RegisterCall) (reachable : Reachable config units)
      (ownSegment : call.segment = (units call.vtdIndex).segment) :
      Reachable config (call.run config units).1

theorem Fresh.wellFormed {units : VtdUnits} (fresh : Fresh units) (index : Nat) :
    (units index).pciDeviceInfo.WellFormed := by
  obtain ⟨number, max, data⟩ := fresh index
  exact ⟨by rw [data, max]; rfl, by omega, by simp [PciDeviceInformation.entries, data]⟩

theorem RegisterCall.wellFormed_run (config : Memory) {units : VtdUnits}
    (wellFormed : ∀ index, (units index).pciDeviceInfo.WellFormed) (call : RegisterCall)
    (ownSegment : call.segment = (units call.vtdIndex).segment) (index : Nat) :
    ((call.run config units).1 index).pciDeviceInfo.WellFormed := by
  cases run : call.run config units with
  | mk after status =>
      rw [RegisterCall.run, ownSegment] at run
      rcases registerPciDevice_cases config (wellFormed call.vtdIndex) _ _ _ _ run with
        ⟨rfl, _⟩ | ⟨rfl, _⟩ | ⟨rfl, _⟩ | ⟨_, _, _, added⟩
      · exact wellFormed index
      · exact wellFormed index
      · exact wellFormed index
      · by_cases own : index = call.vtdIndex
        · subst own
          exact added.wellFormed
        · dsimp only
          rw [added.others index own]
          exact wellFormed index

theorem Reachable.wellFormed {config : Memory} {units : VtdUnits}
    (reachable : Reachable config units) (index : Nat) :
    (units index).pciDeviceInfo.WellFormed := by
  induction reachable generalizing index with
  | fresh fresh => exact fresh.wellFormed index
  | register call _ ownSegment ih => exact call.wellFormed_run config ih ownSegment index

/-- Over every sequence of calls: the devices of a unit are distinct and fit the buffer;
a call keeps the entries there are; after success the unit has the device, or it is an
include-all unit, a unit before it has the device and nothing changed; an error changes
nothing. -/
theorem registerPciDevice_invariants (config : Memory) (units : VtdUnits)
    (reachable : Reachable config units) :
    (∀ index, ((units index).pciDeviceInfo.entries.map PciDeviceData.pciSourceId).Nodup ∧
      (units index).pciDeviceInfo.pciDeviceDataNumber ≤
        (units index).pciDeviceInfo.pciDeviceDataMaxNumber) ∧
    ∀ call : RegisterCall, call.segment = (units call.vtdIndex).segment →
      (∀ index, ∃ added, ((call.run config units).1 index).pciDeviceInfo.entries =
        (units index).pciDeviceInfo.entries ++ added) ∧
      ((call.run config units).2 = .success →
        (getPciDataIndex (call.run config units).1 call.vtdIndex call.segment
          call.sourceId).isSome = true ∨
        (units call.vtdIndex).pciDeviceInfo.includeAllFlag = true ∧
          (call.run config units).1 = units ∧
          ∃ earlier < call.vtdIndex,
            (getPciDataIndex units earlier call.segment call.sourceId).isSome = true) ∧
      ((call.run config units).2 ≠ .success → (call.run config units).1 = units) := by
  refine ⟨fun index => ⟨(reachable.wellFormed index).distinct,
    (reachable.wellFormed index).number_le⟩, ?_⟩
  intro call ownSegment
  cases run : call.run config units with
  | mk after status =>
      rw [RegisterCall.run, ownSegment] at run
      dsimp only
      rcases registerPciDevice_cases config (reachable.wellFormed call.vtdIndex) _ _ _ _ run
        with ⟨rfl, rfl, all, other⟩ | ⟨rfl, present, rfl⟩ | ⟨rfl, rfl⟩ |
          ⟨rfl, _, _, added⟩
      · refine ⟨fun index => ⟨[], (List.append_nil _).symm⟩, fun _ => Or.inr ?_, fun _ => rfl⟩
        obtain ⟨earlier, before, segment, registered⟩ := registeredByOther_iff.mp other
        exact ⟨all, rfl, earlier, before,
          getPciDataIndex_isSome.mpr ⟨ownSegment.trans segment, registered⟩⟩
      · refine ⟨fun index => ⟨[], (List.append_nil _).symm⟩, fun _ => Or.inl ?_, fun _ => rfl⟩
        exact getPciDataIndex_isSome.mpr ⟨ownSegment, present⟩
      · refine ⟨fun index => ⟨[], (List.append_nil _).symm⟩, ?_, fun _ => rfl⟩
        intro success
        cases success
      · refine ⟨fun index => ?_, fun _ => Or.inl ?_, fun failure => absurd rfl failure⟩
        · by_cases own : index = call.vtdIndex
          · subst own
            obtain ⟨data, _, entries⟩ := added.entries
            exact ⟨[data], entries⟩
          · exact ⟨[], by rw [added.others index own, List.append_nil]⟩
        · exact getPciDataIndex_isSome.mpr
            ⟨ownSegment.trans added.segment.symm, added.registered⟩

/-- Units of segment 0 without tables, of which unit 1 has INCLUDE_PCI_ALL. -/
def secondIncludesAll : VtdUnits := fun index => ⟨0, 0, ⟨index == 1, 0, 0, []⟩⟩

def registerDevice2 (vtdIndex : Nat) : RegisterCall :=
  ⟨true, vtdIndex, 0, ⟨0, 2, 0⟩, scopePciEndpoint, false⟩

/-- The units after unit 0 has registered device 2. -/
def device2First : VtdUnits := ((registerDevice2 0).run (fun _ => 0) secondIncludesAll).1

theorem device2First_reachable : Reachable (fun _ => 0) device2First :=
  .register (registerDevice2 0) (.fresh fun _ => ⟨rfl, rfl, rfl⟩) rfl

/-- Unit 1 succeeds and leaves device 2 to unit 0; with CheckExist, unit 0 answers with an
error and keeps its table. -/
theorem registerPciDevice_invariants_device2 :
    (∀ index, ((device2First index).pciDeviceInfo.entries.map
        PciDeviceData.pciSourceId).Nodup ∧
      (device2First index).pciDeviceInfo.pciDeviceDataNumber ≤
        (device2First index).pciDeviceInfo.pciDeviceDataMaxNumber) ∧
    (∀ index, ∃ added, (((registerDevice2 1).run (fun _ => 0) device2First).1
        index).pciDeviceInfo.entries = (device2First index).pciDeviceInfo.entries ++ added) ∧
    ((getPciDataIndex ((registerDevice2 1).run (fun _ => 0) device2First).1 1 0
        ⟨0, 2, 0⟩).isSome = true ∨
      (device2First 1).pciDeviceInfo.includeAllFlag = true ∧
        ((registerDevice2 1).run (fun _ => 0) device2First).1 = device2First ∧
        ∃ earlier < 1, (getPciDataIndex device2First earlier 0 ⟨0, 2, 0⟩).isSome = true) ∧
    (RegisterCall.run (fun _ => 0) device2First
      { registerDevice2 0 with checkExist := true }).1 = device2First :=
  have invariants := registerPciDevice_invariants (fun _ => 0) device2First
    device2First_reachable
  ⟨invariants.1, (invariants.2 (registerDevice2 1) rfl).1,
    (invariants.2 (registerDevice2 1) rfl).2.1 (by decide +kernel),
    (invariants.2 { registerDevice2 0 with checkExist := true } rfl).2.2 (by decide +kernel)⟩

/-- The include-all unit reports success for a device of the unit before it and does not
have the device. -/
theorem registerPciDevice_includeAll :
    Reachable (fun _ => 0) device2First ∧
      ((registerDevice2 1).run (fun _ => 0) device2First).2 = .success ∧
      getPciDataIndex ((registerDevice2 1).run (fun _ => 0) device2First).1 1 0 ⟨0, 2, 0⟩ =
        none := by
  refine ⟨device2First_reachable, ?_, ?_⟩
  · decide +kernel
  · decide +kernel

end AppEfi.Vtd
