import AppEfi.Vtd.RegisterPciDevice

/-!
# Device registration from the DMAR table

`ScanPciBus`, `GetPciBusDeviceFunction`, `ProcessDhrd` and
`ParseDmarAcpiTableDrhd` of VtdDump.c over the bytes of a DMAR table and the PCI
configuration space.  The walks have fuel, since a table may hold a structure of
length zero and a bridge may lead back to its own bus.

A unit with INCLUDE_PCI_ALL shares no device with a unit before it.  Nothing
keeps a unit without the flag from registering a device that another unit has.
-/

set_option autoImplicit false

namespace AppEfi.Vtd

/-- A status with the state it leaves, `none` when the fuel did not suffice. -/
abbrev Outcome (State : Type) := Option (State × EfiStatus)

/-- `if (EFI_ERROR (Status)) return Status;`, then the next statement. -/
def Outcome.andThen {State : Type} (first : Outcome State) (next : State → Outcome State) :
    Outcome State :=
  match first with
  | none => none
  | some (state, .success) => next state
  | some (state, status) => some (state, status)

def Outcome.success {State : Type} (state : State) : Outcome State := some (state, .success)

/-! ## `ScanPciBus` -/

def pciClasscodeOffset : Nat := 0x09
def pciHeaderTypeOffset : Nat := 0x0E
def pciBridgeSecondaryBusRegisterOffset : Nat := 0x19
def headerTypeMultiFunction : UInt8 := 0x80
def pciClassBridge : UInt8 := 0x06
def pciClassBridgeP2p : UInt8 := 0x04
def pciMaxDevice : Nat := 31
def pciMaxFunc : Nat := 7

section Scan

variable {State : Type} (config : Memory) (segment : UInt16)

def pciSegmentRead8 (bus device function : UInt8) (register : Nat) : UInt8 :=
  config (pciSegmentLibAddress segment bus.toNat device.toNat function.toNat register)

def pciSegmentRead16 (bus device function : UInt8) (register : Nat) : UInt16 :=
  UInt16.ofNat (config.readLe
    (pciSegmentLibAddress segment bus.toNat device.toNat function.toNat register) 2)

def isPciBridge (bus device function : UInt8) : Bool :=
  pciSegmentRead8 config segment bus device function (pciClasscodeOffset + 2) ==
      pciClassBridge &&
    pciSegmentRead8 config segment bus device function (pciClasscodeOffset + 1) ==
      pciClassBridgeP2p

def secondaryBusNumber (bus device function : UInt8) : UInt8 :=
  pciSegmentRead8 config segment bus device function pciBridgeSecondaryBusRegisterOffset

variable (callback : State → UInt8 → UInt8 → UInt8 → State × EfiStatus)

/-- The body of the function loop; `scan` is the recursive call for a bus. -/
def scanFunction (scan : UInt8 → State → Outcome State) (bus device function : UInt8)
    (state : State) : Outcome State :=
  if pciSegmentRead16 config segment bus device function pciVendorIdOffset = 0xFFFF ∧
      pciSegmentRead16 config segment bus device function pciDeviceIdOffset = 0xFFFF then
    .success state
  else
    Outcome.andThen (some (callback state bus device function)) fun state =>
      if isPciBridge config segment bus device function ∧
          secondaryBusNumber config segment bus device function ≠ 0 then
        scan (secondaryBusNumber config segment bus device function) state
      else .success state

/-- The function loop with `count` functions to go. -/
def scanFunctions (scan : UInt8 → State → Outcome State) (bus device : UInt8) :
    Nat → UInt8 → State → Outcome State
  | 0, _, state => .success state
  | count + 1, function, state =>
      (scanFunction config segment callback scan bus device function state).andThen
        (scanFunctions scan bus device count (function + 1))

/-- The device loop with `count` devices to go. -/
def scanDevices (scan : UInt8 → State → Outcome State) (bus : UInt8) :
    Nat → UInt8 → State → Outcome State
  | 0, _, state => .success state
  | count + 1, device, state =>
      let headerType := pciSegmentRead8 config segment bus device 0 pciHeaderTypeOffset
      let maxFunction := if headerType &&& headerTypeMultiFunction = 0 then 1 else pciMaxFunc + 1
      (scanFunctions config segment callback scan bus device maxFunction 0 state).andThen
        (scanDevices scan bus count (device + 1))

/-- `fuel` bounds the depth of the recursion. -/
def scanPciBus : Nat → UInt8 → State → Outcome State
  | 0, _, _ => none
  | fuel + 1, bus, state =>
      scanDevices config segment callback (scanPciBus fuel) bus (pciMaxDevice + 1) 0 state

end Scan

/-! ## `ProcessDhrd` -/

/-- The units and the number of `RegisterPciDevice` calls so far. -/
structure VtdState where
  units : VtdUnits
  registrations : Nat

def sizeofDmarHeader : Nat := 48

def sizeofDmarDrhdHeader : Nat := 16

def sizeofDeviceScopeHeader : Nat := 6

def dmarTypeDrhd : Nat := 0

def drhdFlagsIncludePciAll : UInt8 := 0x1

section Drhd

variable (config memory : Memory)

/-- The path loop of `GetPciBusDeviceFunction`, over (DmarPciPath, MyBus, MyDevice,
MyFunction); a Length of one byte allows fewer than 128 hops. -/
def followPath (segment : UInt16) (pathEnd : Nat) :
    Nat → Nat → UInt8 → UInt8 → UInt8 → UInt8 × UInt8 × UInt8
  | 0, _, bus, device, function => (bus, device, function)
  | fuel + 1, dmarPciPath, bus, device, function =>
      if dmarPciPath + 2 < pathEnd then
        followPath segment pathEnd fuel (dmarPciPath + 2)
          (secondaryBusNumber config segment bus device function)
          (memory (dmarPciPath + 2)) (memory (dmarPciPath + 3))
      else (bus, device, function)

def getPciBusDeviceFunction (segment : UInt16) (dmarDevScopeEntry : Nat) :
    UInt8 × UInt8 × UInt8 :=
  let dmarPciPath := dmarDevScopeEntry + sizeofDeviceScopeHeader
  let bus := memory (dmarDevScopeEntry + 5)
  let device := memory dmarPciPath
  let function := memory (dmarPciPath + 1)
  let type := memory dmarDevScopeEntry
  if type = scopePciEndpoint ∨ type = scopePciBridge then
    followPath config memory segment
      (dmarDevScopeEntry + (memory (dmarDevScopeEntry + 1)).toNat) 128 dmarPciPath bus device
      function
  else (bus, device, function)

def sourceIdOf (bus device function : UInt8) : SourceId :=
  ⟨BitVec.ofNat 8 bus.toNat, BitVec.ofNat 5 device.toNat, BitVec.ofNat 3 function.toNat⟩

variable (allocateZeroPool : Nat → Bool)

/-- A call of `RegisterPciDevice` with the next outcome of the allocator. -/
def VtdState.register (state : VtdState) (vtdIndex : Nat) (segment : UInt16)
    (sourceId : SourceId) (deviceType : UInt8) (checkExist : Bool) : VtdState × EfiStatus :=
  let (units, status) := registerPciDevice config state.units
    (allocateZeroPool state.registrations) vtdIndex segment sourceId deviceType checkExist
  (⟨units, state.registrations + 1⟩, status)

def scanBusCallbackRegisterPciDevice (vtdIndex : Nat) (segment : UInt16) (state : VtdState)
    (bus device function : UInt8) : VtdState × EfiStatus :=
  let deviceType :=
    if isPciBridge config segment bus device function then scopePciBridge
    else scopePciEndpoint
  state.register config allocateZeroPool vtdIndex segment (sourceIdOf bus device function)
    deviceType false

def scanAndRegister (fuel vtdIndex : Nat) (segment : UInt16) (bus : UInt8)
    (state : VtdState) : Outcome VtdState :=
  scanPciBus config segment
    (scanBusCallbackRegisterPciDevice config allocateZeroPool vtdIndex segment) fuel bus state

def processScope (fuel vtdIndex : Nat) (segment : UInt16) (dmarDevScopeEntry : Nat)
    (state : VtdState) : Outcome VtdState :=
  let (bus, device, function) :=
    getPciBusDeviceFunction config memory segment dmarDevScopeEntry
  let type := memory dmarDevScopeEntry
  let (state, status) := state.register config allocateZeroPool vtdIndex segment
    (sourceIdOf bus device function) type true
  -- Special devices may be listed twice.
  let status := if type = scopePciEndpoint ∨ type = scopePciBridge then status else .success
  Outcome.andThen (some (state, status)) fun state =>
    if type = scopePciBridge then
      scanAndRegister config allocateZeroPool fuel vtdIndex segment
        (secondaryBusNumber config segment bus device function) state
    else .success state

/-- The device scope loop of `ProcessDhrd`. -/
def processScopes (scanFuel vtdIndex : Nat) (segment : UInt16) (scopesEnd : Nat) :
    Nat → Nat → VtdState → Outcome VtdState
  | 0, dmarDevScopeEntry, state =>
      if dmarDevScopeEntry < scopesEnd then none else .success state
  | fuel + 1, dmarDevScopeEntry, state =>
      if dmarDevScopeEntry < scopesEnd then
        (processScope config memory allocateZeroPool scanFuel vtdIndex segment
          dmarDevScopeEntry state).andThen
          (processScopes scanFuel vtdIndex segment scopesEnd fuel
            (dmarDevScopeEntry + (memory (dmarDevScopeEntry + 1)).toNat))
      else .success state

/-- What `ProcessDhrd` writes to the unit before it registers devices. -/
def setUnit (units : VtdUnits) (vtdIndex dmarDrhd : Nat) : VtdUnits :=
  let vtdUnit := units vtdIndex
  Function.update units vtdIndex
    { vtdUnitBaseAddress := memory.readLe (dmarDrhd + 8) 8
      segment := UInt16.ofNat (memory.readLe (dmarDrhd + 6) 2)
      pciDeviceInfo := { vtdUnit.pciDeviceInfo with
        includeAllFlag := memory (dmarDrhd + 4) &&& drhdFlagsIncludePciAll != 0 } }

def processDhrd (fuel vtdIndex dmarDrhd : Nat) (state : VtdState) : Outcome VtdState :=
  let segment := UInt16.ofNat (memory.readLe (dmarDrhd + 6) 2)
  let state := { state with units := setUnit memory state.units vtdIndex dmarDrhd }
  let scanned :=
    if memory (dmarDrhd + 4) &&& drhdFlagsIncludePciAll ≠ 0 then
      scanAndRegister config allocateZeroPool fuel vtdIndex segment 0 state
    else .success state
  scanned.andThen
    (processScopes config memory allocateZeroPool fuel vtdIndex segment
      (dmarDrhd + memory.readLe (dmarDrhd + 2) 2) fuel (dmarDrhd + sizeofDmarDrhdHeader))

end Drhd

/-! ## The walk over the DMAR table -/

section Parse

variable (config memory : Memory) (allocateZeroPool : Nat → Bool)

/-- The loop of `GetVtdEngineNumber`: the number of DRHD structures. -/
def getVtdEngineNumber (tableEnd : Nat) : Nat → Nat → Option Nat
  | 0, dmarHeader => if dmarHeader < tableEnd then none else some 0
  | fuel + 1, dmarHeader =>
      if dmarHeader < tableEnd then do
        let rest ← getVtdEngineNumber tableEnd fuel
          (dmarHeader + memory.readLe (dmarHeader + 2) 2)
        some (rest + if memory.readLe dmarHeader 2 = dmarTypeDrhd then 1 else 0)
      else some 0

/-- The loop of `ParseDmarAcpiTableDrhd`. -/
def processTable (drhdFuel tableEnd : Nat) : Nat → Nat → Nat → VtdState → Outcome VtdState
  | 0, _, dmarHeader, state => if dmarHeader < tableEnd then none else .success state
  | fuel + 1, vtdIndex, dmarHeader, state =>
      if dmarHeader < tableEnd then
        let next := dmarHeader + memory.readLe (dmarHeader + 2) 2
        if memory.readLe dmarHeader 2 = dmarTypeDrhd then
          (processDhrd config memory allocateZeroPool drhdFuel vtdIndex dmarHeader
            state).andThen (processTable drhdFuel tableEnd fuel (vtdIndex + 1) next)
        else processTable drhdFuel tableEnd fuel vtdIndex next state
      else .success state

def zeroUnit : VtdUnitInformation := ⟨0, 0, ⟨false, 0, 0, []⟩⟩

/-- `allocatesUnits` is the outcome of the allocation of `mVtdUnitInformation`. -/
def parseDmarAcpiTableDrhd (allocatesUnits : Bool) (fuel mAcpiDmarTable : Nat) :
    Outcome VtdState :=
  let tableEnd := mAcpiDmarTable + memory.readLe (mAcpiDmarTable + 4) 4
  let first := mAcpiDmarTable + sizeofDmarHeader
  let state : VtdState := ⟨fun _ => zeroUnit, 0⟩
  match getVtdEngineNumber memory tableEnd fuel first with
  | none => none
  | some mVtdUnitNumber =>
      if mVtdUnitNumber = 0 then some (state, .deviceError)
      else if allocatesUnits then
        processTable config memory allocateZeroPool fuel tableEnd fuel 0 first state
      else some (state, .outOfResources)

end Parse

/-! ## What a walk keeps -/

/-- Every state that the outcome may leave has the property. -/
def Outcome.Keeps {State : Type} (property : State → Prop) (outcome : Outcome State) : Prop :=
  ∀ result, outcome = some result → property result.1

section Keeps

variable {State : Type} {property : State → Prop}

theorem Outcome.keeps_success {state : State} (holds : property state) :
    (Outcome.success state).Keeps property := by
  rintro result run
  cases run
  exact holds

theorem Outcome.keeps_some {state : State} {status : EfiStatus} (holds : property state) :
    Outcome.Keeps property (some (state, status)) := by
  rintro result run
  cases run
  exact holds

theorem Outcome.keeps_andThen_of {stronger : State → Prop} {first : Outcome State}
    {next : State → Outcome State} (weaken : ∀ state, stronger state → property state)
    (firstKeeps : first.Keeps stronger)
    (nextKeeps : ∀ state, stronger state → (next state).Keeps property) :
    (first.andThen next).Keeps property := by
  intro result run
  match first with
  | none => cases run
  | some (state, .success) =>
      exact nextKeeps state (firstKeeps (state, .success) rfl) result run
  | some (state, .outOfResources) | some (state, .alreadyStarted) |
      some (state, .deviceError) =>
      cases run
      exact weaken _ (firstKeeps _ rfl)

theorem Outcome.keeps_andThen {first : Outcome State} {next : State → Outcome State}
    (firstKeeps : first.Keeps property)
    (nextKeeps : ∀ state, property state → (next state).Keeps property) :
    (first.andThen next).Keeps property :=
  Outcome.keeps_andThen_of (fun _ holds => holds) firstKeeps nextKeeps

theorem scanPciBus_keeps (config : Memory) (segment : UInt16)
    (callback : State → UInt8 → UInt8 → UInt8 → State × EfiStatus)
    (callbackKeeps : ∀ state bus device function, property state →
      property (callback state bus device function).1)
    (fuel : Nat) (bus : UInt8) (state : State) (holds : property state) :
    (scanPciBus config segment callback fuel bus state).Keeps property := by
  induction fuel generalizing bus state with
  | zero =>
      intro result run
      cases run
  | succ fuel scan =>
      have functionKeeps : ∀ device function state, property state →
          (scanFunction config segment callback (scanPciBus config segment callback fuel) bus
            device function state).Keeps property := by
        intro device function state holds
        unfold scanFunction
        split
        · exact Outcome.keeps_success holds
        · refine Outcome.keeps_andThen
            (Outcome.keeps_some (callbackKeeps state bus device function holds)) ?_
          intro state holds
          split
          · exact scan _ state holds
          · exact Outcome.keeps_success holds
      have functionsKeep : ∀ count device function state, property state →
          (scanFunctions config segment callback (scanPciBus config segment callback fuel) bus
            device count function state).Keeps property := by
        intro count device
        induction count with
        | zero => exact fun _ _ holds => Outcome.keeps_success holds
        | succ count ih =>
            intro function state holds
            exact Outcome.keeps_andThen (functionKeeps device function state holds)
              (ih (function + 1))
      have devicesKeep : ∀ count device state, property state →
          (scanDevices config segment callback (scanPciBus config segment callback fuel) bus
            count device state).Keeps property := by
        intro count
        induction count with
        | zero => exact fun _ _ holds => Outcome.keeps_success holds
        | succ count ih =>
            intro device state holds
            exact Outcome.keeps_andThen (functionsKeep _ device 0 state holds)
              (ih (device + 1))
      exact devicesKeep _ 0 state holds

end Keeps

/-! ## Devices of two units -/

/-- An include-all unit has no device of a unit of its segment that is before it. -/
def Exclusive (units : VtdUnits) : Prop :=
  ∀ earlier later, earlier < later →
    (units earlier).segment = (units later).segment →
    (units later).pciDeviceInfo.includeAllFlag = true →
    ∀ sourceId, Registered units earlier sourceId → ¬ Registered units later sourceId

/-- The invariant while the unit at `vtdIndex` registers its devices. -/
structure Processing (vtdIndex : Nat) (segment : UInt16) (units : VtdUnits) : Prop where
  wellFormed : (units vtdIndex).pciDeviceInfo.WellFormed
  segment_eq : (units vtdIndex).segment = segment
  exclusive : Exclusive units
  untouched : ∀ later, vtdIndex < later → units later = zeroUnit

/-- The invariant before the unit at `vtdIndex` is processed. -/
structure Processed (vtdIndex : Nat) (units : VtdUnits) : Prop where
  exclusive : Exclusive units
  untouched : ∀ later, vtdIndex ≤ later → units later = zeroUnit

theorem not_registered_of_zeroUnit {units : VtdUnits} {vtdIndex : Nat}
    (zero : units vtdIndex = zeroUnit) (sourceId : SourceId) :
    ¬ Registered units vtdIndex sourceId := by
  simp [Registered, PciDeviceInformation.entries, zero, zeroUnit]

theorem Added.registered_iff {units after : VtdUnits} {vtdIndex : Nat} {sourceId : SourceId}
    (added : Added units after vtdIndex sourceId) (other : SourceId) :
    Registered after vtdIndex other ↔
      Registered units vtdIndex other ∨ other = sourceId := by
  obtain ⟨data, source, entries⟩ := added.entries
  rw [Registered, entries, List.map_append, List.mem_append, ← source]
  simp [Registered]

theorem Processing.register {config : Memory} {vtdIndex : Nat} {segment : UInt16}
    {units : VtdUnits} (processing : Processing vtdIndex segment units) (allocates : Bool)
    (sourceId : SourceId) (deviceType : UInt8) (checkExist : Bool) :
    Processing vtdIndex segment
      (registerPciDevice config units allocates vtdIndex segment sourceId deviceType
        checkExist).1 := by
  cases run : registerPciDevice config units allocates vtdIndex segment sourceId deviceType
      checkExist with
  | mk after status =>
      rw [← processing.segment_eq] at run
      rcases registerPciDevice_cases config processing.wellFormed _ _ _ _ run with
        ⟨rfl, _⟩ | ⟨rfl, _⟩ | ⟨rfl, _⟩ | ⟨_, _, unclaimed, added⟩
      · exact processing
      · exact processing
      · exact processing
      · refine ⟨added.wellFormed, added.segment.trans processing.segment_eq, ?_, ?_⟩
        · intro earlier later before sameSegment all other inEarlier inLater
          dsimp only at *
          by_cases isLater : later = vtdIndex
          · -- The include-all unit looked at all units before it.
            subst isLater
            have earlierSame := added.others earlier (Nat.ne_of_lt before)
            have wasEarlier : Registered units earlier other := by
              rwa [Registered, earlierSame] at inEarlier
            rw [earlierSame, added.segment] at sameSegment
            rw [added.includeAllFlag] at all
            rcases (added.registered_iff other).mp inLater with wasLater | isNew
            · exact processing.exclusive earlier later before sameSegment all other
                wasEarlier wasLater
            · have claimed := registeredByOther_iff.mpr
                ⟨earlier, before, sameSegment.symm, isNew ▸ wasEarlier⟩
              rw [unclaimed all] at claimed
              cases claimed
          · have laterSame := added.others later isLater
            have wasLater : Registered units later other := by
              rwa [Registered, laterSame] at inLater
            by_cases isEarlier : earlier = vtdIndex
            · subst isEarlier
              exact not_registered_of_zeroUnit (processing.untouched later before) other
                wasLater
            · have earlierSame := added.others earlier isEarlier
              rw [earlierSame, laterSame] at sameSegment
              rw [laterSame] at all
              have wasEarlier : Registered units earlier other := by
                rwa [Registered, earlierSame] at inEarlier
              exact processing.exclusive earlier later before sameSegment all other
                wasEarlier wasLater
        · intro later after_
          dsimp only
          rw [added.others later (Nat.ne_of_gt after_)]
          exact processing.untouched later after_

section Walk

variable {config memory : Memory} {allocateZeroPool : Nat → Bool} {vtdIndex : Nat}
variable {segment : UInt16}

theorem Processed.start {units : VtdUnits} (processed : Processed vtdIndex units)
    (dmarDrhd : Nat) :
    Processing vtdIndex (UInt16.ofNat (memory.readLe (dmarDrhd + 6) 2))
      (setUnit memory units vtdIndex dmarDrhd) := by
  have zero := processed.untouched vtdIndex (Nat.le_refl _)
  have own : setUnit memory units vtdIndex dmarDrhd vtdIndex =
      { vtdUnitBaseAddress := memory.readLe (dmarDrhd + 8) 8
        segment := UInt16.ofNat (memory.readLe (dmarDrhd + 6) 2)
        pciDeviceInfo :=
          ⟨memory (dmarDrhd + 4) &&& drhdFlagsIncludePciAll != 0, 0, 0, []⟩ } := by
    rw [setUnit, Function.update_self, zero]
    rfl
  have others : ∀ index, index ≠ vtdIndex →
      setUnit memory units vtdIndex dmarDrhd index = units index :=
    fun index other => Function.update_of_ne other _ _
  refine ⟨?_, by rw [own], ?_, ?_⟩
  · rw [own]
    exact ⟨rfl, Nat.le_refl _, by simp [PciDeviceInformation.entries]⟩
  · intro earlier later before sameSegment all sourceId inEarlier inLater
    by_cases isLater : later = vtdIndex
    · rw [Registered, isLater, own] at inLater
      simp [PciDeviceInformation.entries] at inLater
    · by_cases isEarlier : earlier = vtdIndex
      · rw [Registered, isEarlier, own] at inEarlier
        simp [PciDeviceInformation.entries] at inEarlier
      · rw [others earlier isEarlier, others later isLater] at sameSegment
        rw [others later isLater] at all
        rw [Registered, others earlier isEarlier] at inEarlier
        rw [Registered, others later isLater] at inLater
        exact processed.exclusive earlier later before sameSegment all sourceId inEarlier
          inLater
  · intro later after
    rw [others later (Nat.ne_of_gt after)]
    exact processed.untouched later (Nat.le_of_lt after)

theorem Processing.done {units : VtdUnits} (processing : Processing vtdIndex segment units) :
    Processed (vtdIndex + 1) units :=
  ⟨processing.exclusive, fun later after => processing.untouched later after⟩

theorem scanAndRegister_keeps (fuel : Nat) (bus : UInt8) (state : VtdState)
    (processing : Processing vtdIndex segment state.units) :
    (scanAndRegister config allocateZeroPool fuel vtdIndex segment bus state).Keeps
      fun state => Processing vtdIndex segment state.units :=
  scanPciBus_keeps config segment _
    (fun _ _ _ _ processing => processing.register _ _ _ _) fuel bus state processing

theorem processScope_keeps (fuel dmarDevScopeEntry : Nat) (state : VtdState)
    (processing : Processing vtdIndex segment state.units) :
    (processScope config memory allocateZeroPool fuel vtdIndex segment dmarDevScopeEntry
      state).Keeps fun state => Processing vtdIndex segment state.units := by
  refine Outcome.keeps_andThen (Outcome.keeps_some (processing.register _ _ _ _)) ?_
  intro state processing
  split
  · exact scanAndRegister_keeps fuel _ state processing
  · exact Outcome.keeps_success processing

theorem processScopes_keeps (scanFuel scopesEnd fuel dmarDevScopeEntry : Nat)
    (state : VtdState) (processing : Processing vtdIndex segment state.units) :
    (processScopes config memory allocateZeroPool scanFuel vtdIndex segment scopesEnd fuel
      dmarDevScopeEntry state).Keeps
      fun state => Processing vtdIndex segment state.units := by
  induction fuel generalizing dmarDevScopeEntry state with
  | zero =>
      rw [processScopes]
      split
      · intro result run
        cases run
      · exact Outcome.keeps_success processing
  | succ fuel ih =>
      rw [processScopes]
      split
      · exact Outcome.keeps_andThen
          (processScope_keeps scanFuel dmarDevScopeEntry state processing)
          fun state processing => ih _ state processing
      · exact Outcome.keeps_success processing

theorem processDhrd_keeps (fuel dmarDrhd : Nat) (state : VtdState)
    (processed : Processed vtdIndex state.units) :
    (processDhrd config memory allocateZeroPool fuel vtdIndex dmarDrhd state).Keeps
      fun state => Processed (vtdIndex + 1) state.units := by
  have start : Processing vtdIndex (UInt16.ofNat (memory.readLe (dmarDrhd + 6) 2))
      (setUnit memory state.units vtdIndex dmarDrhd) := processed.start dmarDrhd
  have scanned : Outcome.Keeps
      (fun state => Processing vtdIndex (UInt16.ofNat (memory.readLe (dmarDrhd + 6) 2))
        state.units)
      (if memory (dmarDrhd + 4) &&& drhdFlagsIncludePciAll ≠ 0 then
        scanAndRegister config allocateZeroPool fuel vtdIndex
          (UInt16.ofNat (memory.readLe (dmarDrhd + 6) 2)) 0
          { state with units := setUnit memory state.units vtdIndex dmarDrhd }
      else .success { state with units := setUnit memory state.units vtdIndex dmarDrhd }) := by
    split
    · exact scanAndRegister_keeps fuel 0 _ start
    · exact Outcome.keeps_success start
  refine Outcome.keeps_andThen_of (fun _ processing => processing.done) scanned ?_
  intro state processing result run
  exact (processScopes_keeps fuel _ fuel _ state processing result run).done

theorem processTable_keeps (drhdFuel tableEnd fuel dmarHeader : Nat) (state : VtdState)
    (processed : Processed vtdIndex state.units) :
    (processTable config memory allocateZeroPool drhdFuel tableEnd fuel vtdIndex dmarHeader
      state).Keeps fun state => Exclusive state.units := by
  induction fuel generalizing vtdIndex dmarHeader state with
  | zero =>
      rw [processTable]
      split
      · intro result run
        cases run
      · exact Outcome.keeps_success processed.exclusive
  | succ fuel ih =>
      rw [processTable]
      split
      · dsimp only
        split
        · exact Outcome.keeps_andThen_of (fun _ processed => processed.exclusive)
            (processDhrd_keeps drhdFuel dmarHeader state processed)
            fun state processed => ih _ state processed
        · exact ih _ state processed
      · exact Outcome.keeps_success processed.exclusive

end Walk

theorem processed_zeroUnits : Processed 0 fun _ => zeroUnit :=
  ⟨fun _ later _ _ _ sourceId _ =>
    @not_registered_of_zeroUnit (fun _ => zeroUnit) later rfl sourceId,
    fun _ _ => rfl⟩

/-- However `ParseDmarAcpiTableDrhd` ends, a device that two units of its segment have
is in the later one because of an explicit scope: the later unit is no include-all unit. -/
theorem parseDmarAcpiTableDrhd_exclusive (config memory : Memory)
    (allocateZeroPool : Nat → Bool) (allocatesUnits : Bool) (fuel mAcpiDmarTable : Nat)
    (state : VtdState) (status : EfiStatus)
    (run : parseDmarAcpiTableDrhd config memory allocateZeroPool allocatesUnits fuel
      mAcpiDmarTable = some (state, status)) :
    ∀ earlier later, earlier < later →
      (state.units earlier).segment = (state.units later).segment →
      ∀ sourceId, Registered state.units earlier sourceId →
        Registered state.units later sourceId →
        (state.units later).pciDeviceInfo.includeAllFlag = false := by
  have exclusive : Exclusive state.units := by
    unfold parseDmarAcpiTableDrhd at run
    dsimp only at run
    split at run
    · cases run
    · split at run
      · cases run
        exact processed_zeroUnits.exclusive
      · split at run
        · exact processTable_keeps _ _ _ _ _ processed_zeroUnits _ run
        · cases run
          exact processed_zeroUnits.exclusive
  intro earlier later before sameSegment sourceId inEarlier inLater
  by_contra all
  exact exclusive earlier later before sameSegment (by simpa using all) sourceId inEarlier
    inLater

/-! ## Tables with two units for one device -/

open LittleEndian in
def encodeDrhd (flags : UInt8) (scopes : List UInt8) : List UInt8 :=
  toBytes 2 dmarTypeDrhd ++ toBytes 2 (sizeofDmarDrhdHeader + scopes.length) ++
    [flags, 0] ++ toBytes 2 0 ++ toBytes 8 0xFED90000 ++ scopes

open LittleEndian in
def encodeDmar (structures : List UInt8) : List UInt8 :=
  toBytes 4 0 ++ toBytes 4 (sizeofDmarHeader + structures.length) ++ List.replicate 40 0 ++
    structures

def device2Scope : List UInt8 := [scopePciEndpoint, 8, 0, 0, 0, 0, 2, 0]

/-- Configuration space with device 2 of bus 0 and nothing else. -/
def device2Config : Memory := fun address =>
  if address / 2 ^ 12 = 16 then 0 else 0xFF

/-- An include-all unit, then an explicit scope for device 2. -/
def includeAllFirst : Memory :=
  Memory.ofBytesAt 0 (encodeDmar (encodeDrhd 1 [] ++ encodeDrhd 0 device2Scope))

instance (units : VtdUnits) (vtdIndex : Nat) (sourceId : SourceId) :
    Decidable (Registered units vtdIndex sourceId) :=
  inferInstanceAs (Decidable (_ ∈ _))

/-- The walk over the table ends, and both units have device 2. -/
def includeAllFirstResult : VtdState × EfiStatus :=
  (parseDmarAcpiTableDrhd device2Config includeAllFirst (fun _ => true) true 3 0).get
    (by decide +kernel)

theorem includeAllFirst_run :
    parseDmarAcpiTableDrhd device2Config includeAllFirst (fun _ => true) true 3 0 =
      some (includeAllFirstResult.1, includeAllFirstResult.2) := by
  rw [includeAllFirstResult, Prod.mk.eta, Option.some_get]

theorem parseDmarAcpiTableDrhd_exclusive_includeAllFirst :
    (includeAllFirstResult.1.units 1).pciDeviceInfo.includeAllFlag = false :=
  parseDmarAcpiTableDrhd_exclusive device2Config includeAllFirst (fun _ => true) true 3 0
    includeAllFirstResult.1 includeAllFirstResult.2 includeAllFirst_run 0 1 (by decide)
    (by decide +kernel) ⟨0, 2, 0⟩ (by decide +kernel) (by decide +kernel)

/-- The include-all unit registers device 2, and so does the unit behind it that names
the device. -/
theorem parseDmarAcpiTableDrhd_includeAllFirst :
    (parseDmarAcpiTableDrhd device2Config includeAllFirst (fun _ => true) true 3 0).map
        (fun result => (result.2,
          decide (Registered result.1.units 0 ⟨0, 2, 0⟩ ∧
            Registered result.1.units 1 ⟨0, 2, 0⟩ ∧
            (result.1.units 0).segment = (result.1.units 1).segment))) =
      some (.success, true) := by
  decide +kernel

end AppEfi.Vtd
