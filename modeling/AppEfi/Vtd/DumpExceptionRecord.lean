import AppEfi.Lib.Runs
import AppEfi.Vtd.CheckPtEntry
import AppEfi.Vtd.DeviceScopePath
import AppEfi.Vtd.ScanPciBus

/-!
# Exception records

`DumpExceptionRecord` and `AddExceptionDevice` of VtdDump.c over the list that the
platform policy returns.  A device scope in the list is taken as StartBusNumber with
its first hop, so a device behind a bridge gets a record under the bridge.
-/

set_option autoImplicit false

namespace AppEfi.Vtd

open Runs

def deviceInfoTypeEnd : UInt8 := 0
def deviceInfoTypeDeviceScope : UInt8 := 1
def deviceInfoTypePciDeviceId : UInt8 := 2

/-- The exception list and the number of `AllocatePool` calls so far. -/
structure ExceptionState where
  records : List ExceptionRecord
  allocations : Nat

section Dump

variable (allocatePool : Nat → Bool) (memory : Memory)

/-- `InsertTailList` of a new record, if there is memory for it. -/
def ExceptionState.insert (state : ExceptionState) (location : PciLocation) : ExceptionState where
  records :=
    if allocatePool state.allocations then state.records ++ [⟨location⟩] else state.records
  allocations := state.allocations + 1

/-- The tests for a wildcard or the value of the device. -/
def matchesPciDeviceId (wanted found : PciDeviceId) : Bool :=
  (wanted.vendorId == 0xFFFF || wanted.vendorId == found.vendorId) &&
    (wanted.deviceId == 0xFFFF || wanted.deviceId == found.deviceId) &&
    (wanted.revisionId == 0xFF || wanted.revisionId == found.revisionId) &&
    (wanted.subsystemVendorId == 0xFFFF ||
      wanted.subsystemVendorId == found.subsystemVendorId) &&
    (wanted.subsystemDeviceId == 0xFFFF ||
      wanted.subsystemDeviceId == found.subsystemDeviceId)

def sourceLocation (segment : UInt16) (sourceId : SourceId) : PciLocation :=
  ⟨segment.toNat, sourceId.bus.toNat, sourceId.device.toNat, sourceId.function.toNat⟩

def addExceptionDevice (units : VtdUnits) (mVtdUnitNumber : Nat) (pciDeviceId : PciDeviceId)
    (state : ExceptionState) : ExceptionState :=
  (List.range mVtdUnitNumber).foldl
    (fun state index =>
      (units index).pciDeviceInfo.entries.foldl
        (fun state data =>
          if matchesPciDeviceId pciDeviceId data.pciDeviceId then
            state.insert allocatePool (sourceLocation (units index).segment data.pciSourceId)
          else state)
        state)
    state

/-- `EDKII_PLATFORM_VTD_PCI_DEVICE_ID`, a byte of padding behind RevisionId. -/
def readPolicyPciDeviceId (pciDeviceId : Nat) : PciDeviceId where
  vendorId := UInt16.ofNat (memory.readLe pciDeviceId 2)
  deviceId := UInt16.ofNat (memory.readLe (pciDeviceId + 2) 2)
  revisionId := memory (pciDeviceId + 4)
  subsystemVendorId := UInt16.ofNat (memory.readLe (pciDeviceId + 6) 2)
  subsystemDeviceId := UInt16.ofNat (memory.readLe (pciDeviceId + 8) 2)

def deviceScopeSegment (deviceScope : Nat) : UInt16 :=
  UInt16.ofNat (memory.readLe deviceScope 2)

/-- The device of an `EDKII_PLATFORM_VTD_DEVICE_SCOPE`: the segment number, the device
scope structure and its path. -/
def deviceScopeLocation (deviceScope : Nat) : PciLocation :=
  let pciPath := deviceScope + 2 + sizeofDeviceScopeHeader
  ⟨(deviceScopeSegment memory deviceScope).toNat, (memory (deviceScope + 2 + 5)).toNat,
    (memory pciPath).toNat, (memory (pciPath + 1)).toNat⟩

variable (units : VtdUnits) (mVtdUnitNumber : Nat)

/-- The switch of the loop body. -/
def dumpDeviceInfo (thisDeviceInfo : Nat) (state : ExceptionState) : ExceptionState :=
  if memory thisDeviceInfo = deviceInfoTypeDeviceScope then
    state.insert allocatePool (deviceScopeLocation memory (thisDeviceInfo + 2))
  else if memory thisDeviceInfo = deviceInfoTypePciDeviceId then
    addExceptionDevice allocatePool units mVtdUnitNumber
      (readPolicyPciDeviceId memory (thisDeviceInfo + 2)) state
  else state

/-- The loop of `DumpExceptionRecord` with at most `count` entries to go. -/
def dumpExceptionRecord : Nat → Nat → ExceptionState → ExceptionState
  | 0, _, state => state
  | count + 1, thisDeviceInfo, state =>
      if memory thisDeviceInfo = deviceInfoTypeEnd then state
      else
        dumpExceptionRecord count (thisDeviceInfo + (memory (thisDeviceInfo + 1)).toNat)
          (dumpDeviceInfo allocatePool memory units mVtdUnitNumber thisDeviceInfo state)

end Dump

/-! ## What a list excepts -/

section Listed

variable (memory : Memory)

/-- The entries that the loop comes to. -/
def deviceInfos : Nat → Nat → List Nat
  | 0, _ => []
  | count + 1, thisDeviceInfo =>
      if memory thisDeviceInfo = deviceInfoTypeEnd then []
      else thisDeviceInfo ::
        deviceInfos count (thisDeviceInfo + (memory (thisDeviceInfo + 1)).toNat)

/-- A device that an engine has, with an id that the entry wants. -/
def MatchesDevice (units : VtdUnits) (mVtdUnitNumber : Nat) (pciDeviceId : PciDeviceId)
    (location : PciLocation) : Prop :=
  ∃ index < mVtdUnitNumber, ∃ data ∈ (units index).pciDeviceInfo.entries,
    matchesPciDeviceId pciDeviceId data.pciDeviceId = true ∧
      location = sourceLocation (units index).segment data.pciSourceId

/-- An entry makes an exception of the device. -/
def Excepts (units : VtdUnits) (mVtdUnitNumber thisDeviceInfo : Nat) (location : PciLocation) :
    Prop :=
  memory thisDeviceInfo = deviceInfoTypeDeviceScope ∧
      location = deviceScopeLocation memory (thisDeviceInfo + 2) ∨
    memory thisDeviceInfo = deviceInfoTypePciDeviceId ∧
      MatchesDevice units mVtdUnitNumber (readPolicyPciDeviceId memory (thisDeviceInfo + 2))
        location

end Listed

section Records

variable {allocatePool : Nat → Bool} {memory : Memory} {units : VtdUnits}
variable {mVtdUnitNumber : Nat} {location : PciLocation}

theorem dumpDeviceInfo_deviceScope {thisDeviceInfo : Nat} {state : ExceptionState}
    (type : memory thisDeviceInfo = deviceInfoTypeDeviceScope)
    (allocated : allocatePool state.allocations = true) :
    (dumpDeviceInfo allocatePool memory units mVtdUnitNumber thisDeviceInfo state).records =
      state.records ++ [⟨deviceScopeLocation memory (thisDeviceInfo + 2)⟩] := by
  rw [dumpDeviceInfo, if_pos type, ExceptionState.insert]
  exact if_pos allocated

variable (allocates : ∀ call, allocatePool call = true)
include allocates

theorem mem_insert_iff (state : ExceptionState) (other : PciLocation) :
    ⟨location⟩ ∈ (state.insert allocatePool other).records ↔
      ⟨location⟩ ∈ state.records ∨ location = other := by
  rw [ExceptionState.insert, if_pos (allocates _), List.mem_append, List.mem_singleton,
    ExceptionRecord.mk.injEq]

theorem mem_addExceptionDevice_iff (pciDeviceId : PciDeviceId) (state : ExceptionState) :
    ⟨location⟩ ∈
        (addExceptionDevice allocatePool units mVtdUnitNumber pciDeviceId state).records ↔
      ⟨location⟩ ∈ state.records ∨
        MatchesDevice units mVtdUnitNumber pciDeviceId location := by
  have device (segment : UInt16) (state : ExceptionState) (data : PciDeviceData) :
      ⟨location⟩ ∈ (if matchesPciDeviceId pciDeviceId data.pciDeviceId then
          state.insert allocatePool (sourceLocation segment data.pciSourceId)
        else state).records ↔
      ⟨location⟩ ∈ state.records ∨ (matchesPciDeviceId pciDeviceId data.pciDeviceId = true ∧
        location = sourceLocation segment data.pciSourceId) := by
    split
    · next wanted => rw [mem_insert_iff allocates, wanted, eq_self, true_and]
    · next other => simp only [other, Bool.false_eq_true, false_and, or_false]
  have engine (state : ExceptionState) (index : Nat) :=
    @foldl_iff _ _ _ (fun state : ExceptionState => ⟨location⟩ ∈ state.records) _
      (device (units index).segment) (units index).pciDeviceInfo.entries state
  have all := @foldl_iff _ _ _ (fun state : ExceptionState => ⟨location⟩ ∈ state.records) _
    engine (List.range mVtdUnitNumber) state
  rw [addExceptionDevice, MatchesDevice]
  simpa only [List.mem_range] using all

theorem mem_dumpDeviceInfo_iff (thisDeviceInfo : Nat) (state : ExceptionState) :
    ⟨location⟩ ∈ (dumpDeviceInfo allocatePool memory units mVtdUnitNumber thisDeviceInfo
        state).records ↔
      ⟨location⟩ ∈ state.records ∨
        Excepts memory units mVtdUnitNumber thisDeviceInfo location := by
  rw [dumpDeviceInfo, Excepts]
  have other : deviceInfoTypeDeviceScope ≠ deviceInfoTypePciDeviceId := by decide
  split
  · next scope =>
      rw [mem_insert_iff allocates, scope]
      simp only [true_and, other, false_and, or_false]
  · next noScope =>
      split
      · next id =>
          rw [mem_addExceptionDevice_iff allocates, id]
          simp only [other.symm, true_and, false_and, false_or]
      · next noId => simp only [noScope, noId, false_and, or_false]

/-- With memory for every record, the exceptions are those of the entries in front of the
end. -/
theorem mem_dumpExceptionRecord_iff (count thisDeviceInfo : Nat) (state : ExceptionState) :
    ⟨location⟩ ∈ (dumpExceptionRecord allocatePool memory units mVtdUnitNumber count
        thisDeviceInfo state).records ↔
      ⟨location⟩ ∈ state.records ∨ ∃ place ∈ deviceInfos memory count thisDeviceInfo,
        Excepts memory units mVtdUnitNumber place location := by
  induction count generalizing thisDeviceInfo state with
  | zero => simp [dumpExceptionRecord, deviceInfos]
  | succ count ih =>
      rw [dumpExceptionRecord, deviceInfos]
      split
      · simp
      · rw [ih, mem_dumpDeviceInfo_iff allocates, or_assoc]
        simp only [List.mem_cons, exists_eq_or_imp]

end Records

/-! ## The device of a scope -/

/-- The device that `GetPciBusDeviceFunction` finds for the structure in the scope. -/
def resolvedLocation (config memory : Memory) (deviceScope : Nat) : PciLocation :=
  let segment := deviceScopeSegment memory deviceScope
  let (bus, device, function) :=
    getPciBusDeviceFunction config memory segment (deviceScope + 2)
  ⟨segment.toNat, bus.toNat, device.toNat, function.toNat⟩

section Resolve

variable {config memory : Memory} {deviceScope : Nat}

theorem deviceScopeLocation_eq_resolved_iff :
    deviceScopeLocation memory deviceScope = resolvedLocation config memory deviceScope ↔
      pathDevice config memory (deviceScopeSegment memory deviceScope) (deviceScope + 2) 0 =
        getPciBusDeviceFunction config memory (deviceScopeSegment memory deviceScope)
          (deviceScope + 2) := by
  simp only [resolvedLocation, deviceScopeLocation, pathDevice, busBehind, List.range_zero,
    List.map_nil, List.foldl_nil, pathHop, hopAt, PciLocation.mk.injEq, Prod.ext_iff,
    UInt8.toNat_inj, true_and, Nat.mul_zero, Nat.add_zero]

theorem pathDevice_zero_eq_iff (segment : UInt16) (dmarDevScopeEntry : Nat) :
    pathDevice config memory segment dmarDevScopeEntry 0 =
        getPciBusDeviceFunction config memory segment dmarDevScopeEntry ↔
      ¬ (memory dmarDevScopeEntry = scopePciEndpoint ∨
          memory dmarDevScopeEntry = scopePciBridge) ∨
        scopeLength memory dmarDevScopeEntry ≤ 8 ∨
        pathDevice config memory segment dmarDevScopeEntry
            ((scopeLength memory dmarDevScopeEntry - 7) / 2) =
          pathDevice config memory segment dmarDevScopeEntry 0 := by
  rw [getPciBusDeviceFunction_eq, followedCount]
  by_cases pci : memory dmarDevScopeEntry = scopePciEndpoint ∨
      memory dmarDevScopeEntry = scopePciBridge
  · rw [if_pos pci]
    by_cases short : scopeLength memory dmarDevScopeEntry ≤ 8
    · rw [show (scopeLength memory dmarDevScopeEntry - 7) / 2 = 0 by omega]
      simp [short]
    · simp only [pci, short, not_true_eq_false, false_or]
      exact eq_comm
  · rw [if_neg pci]
    simp [pci]

end Resolve

/-- The record of a device scope is the one that `GetPciBusDeviceFunction` resolves
exactly when the scope is not followed, or has one hop at most, or its bridges lead back
to the start bus and to a device with the numbers of the first hop. -/
theorem dumpDeviceInfo_deviceScope_iff (config memory : Memory) (allocatePool : Nat → Bool)
    (units : VtdUnits) (mVtdUnitNumber thisDeviceInfo : Nat) (state : ExceptionState)
    (type : memory thisDeviceInfo = deviceInfoTypeDeviceScope)
    (allocated : allocatePool state.allocations = true) :
    (∃ record, (dumpDeviceInfo allocatePool memory units mVtdUnitNumber thisDeviceInfo
          state).records = state.records ++ [record] ∧
        record.location = resolvedLocation config memory (thisDeviceInfo + 2)) ↔
      ¬ (memory (thisDeviceInfo + 4) = scopePciEndpoint ∨
          memory (thisDeviceInfo + 4) = scopePciBridge) ∨
        scopeLength memory (thisDeviceInfo + 4) ≤ 8 ∨
        pathDevice config memory (deviceScopeSegment memory (thisDeviceInfo + 2))
            (thisDeviceInfo + 4) ((scopeLength memory (thisDeviceInfo + 4) - 7) / 2) =
          pathDevice config memory (deviceScopeSegment memory (thisDeviceInfo + 2))
            (thisDeviceInfo + 4) 0 := by
  rw [← pathDevice_zero_eq_iff, ← deviceScopeLocation_eq_resolved_iff,
    dumpDeviceInfo_deviceScope type allocated]
  constructor
  · rintro ⟨record, same, resolved⟩
    cases List.append_cancel_left same
    exact resolved
  · intro resolved
    exact ⟨_, rfl, resolved⟩

/-- A policy that names device 0 of bus 1 by its path through the bridge at device 1 of
bus 0. -/
def policyBehindBridge : Memory :=
  Memory.ofBytesAt 0
    [deviceInfoTypeDeviceScope, 14, 0, 0, scopePciEndpoint, 10, 0, 0, 0, 0, 1, 0, 0, 0]

theorem dumpDeviceInfo_deviceScope_iff_policyBehindBridge :
    (∃ record, (dumpDeviceInfo (fun _ => true) policyBehindBridge (fun _ => zeroUnit) 0 0
          ⟨[], 0⟩).records = [] ++ [record] ∧
        record.location = resolvedLocation bridgeToBus1 policyBehindBridge 2) ↔
      ¬ (policyBehindBridge 4 = scopePciEndpoint ∨ policyBehindBridge 4 = scopePciBridge) ∨
        scopeLength policyBehindBridge 4 ≤ 8 ∨
        pathDevice bridgeToBus1 policyBehindBridge (deviceScopeSegment policyBehindBridge 2)
            4 ((scopeLength policyBehindBridge 4 - 7) / 2) =
          pathDevice bridgeToBus1 policyBehindBridge (deviceScopeSegment policyBehindBridge 2)
            4 0 :=
  dumpDeviceInfo_deviceScope_iff bridgeToBus1 policyBehindBridge (fun _ => true)
    (fun _ => zeroUnit) 0 0 ⟨[], 0⟩ (by decide +kernel) rfl

/-- The bridge becomes the exception, the device behind it does not. -/
theorem dumpExceptionRecord_policyBehindBridge :
    resolvedLocation bridgeToBus1 policyBehindBridge 2 = ⟨0, 1, 0, 0⟩ ∧
      (dumpExceptionRecord (fun _ => true) policyBehindBridge (fun _ => zeroUnit) 0 1 0
        ⟨[], 0⟩).records.map ExceptionRecord.location = [⟨0, 0, 1, 0⟩] := by
  decide +kernel

end AppEfi.Vtd
