import AppEfi.Vtd.ScanPciBus

/-!
# Bridges in device scopes

For a device-scope entry of a bridge, `ProcessDhrd` scans the bridge's secondary bus
as it is, where `ScanPciBus` leaves out a secondary bus 0.  So a bridge without an
assigned bus brings the functions of bus 0 along.  What the unit has after the entry
depends also on the devices that it or a unit before it had, and on the allocations
with which its table grows.
-/

set_option autoImplicit false

namespace AppEfi.Vtd

open DepthFirst

section Scope

variable {config memory : Memory} {segment : UInt16} {dmarDevScopeEntry : Nat}
variable {bridge : PciFunction}

def PciFunction.sourceId (f : PciFunction) : SourceId := sourceIdOf f.bus f.device f.function

/-- The scan of a bus finds the function, there or behind bridges. -/
def ScanReaches (config : Memory) (segment : UInt16) (bus : UInt8) (f : PciFunction) : Prop :=
  ∃ other, Relation.ReflTransGen
      (Leads (busFunctions config segment) (PciFunction.child config segment)) bus other ∧
    f ∈ busFunctions config segment other

/-- The entry names a present bridge. -/
structure NamesBridge (config memory : Memory) (segment : UInt16) (dmarDevScopeEntry : Nat)
    (bridge : PciFunction) : Prop where
  type : memory dmarDevScopeEntry = scopePciBridge
  named : getPciBusDeviceFunction config memory segment dmarDevScopeEntry =
    (bridge.bus, bridge.device, bridge.function)
  present : bridge.Present config segment
  isBridge : isPciBridge config segment bridge.bus bridge.device bridge.function = true

def PciFunction.secondaryBus (config : Memory) (segment : UInt16) (f : PciFunction) : UInt8 :=
  secondaryBusNumber config segment f.bus f.device f.function

/-- What `ProcessDhrd` does for the entry, with `calls` found behind the bridge. -/
def RegistersBehind (config memory : Memory) (segment : UInt16) (dmarDevScopeEntry : Nat)
    (bridge : PciFunction) (fuel : Nat) (calls : List PciFunction) : Prop :=
  ∀ (allocateZeroPool : Nat → Bool) (vtdIndex : Nat) (state : VtdState),
    processScope config memory allocateZeroPool fuel vtdIndex segment dmarDevScopeEntry state =
      Outcome.andThen
        (some (state.register config allocateZeroPool vtdIndex segment
          (sourceIdOf bridge.bus bridge.device bridge.function) scopePciBridge true))
        (callInOrder (scanBusCallbackRegisterPciDevice config allocateZeroPool vtdIndex segment)
          calls)

/-- What `ScanPciBus` does when it meets the bridge, with `calls` found behind it. -/
def ScansBehind (config : Memory) (segment : UInt16) (bridge : PciFunction) (fuel : Nat)
    (calls : List PciFunction) : Prop :=
  ∀ (State : Type) (callback : State → UInt8 → UInt8 → UInt8 → State × EfiStatus)
    (state : State),
    scanFunction config segment callback (scanPciBus config segment callback fuel) bridge.bus
        bridge.device bridge.function state =
      callInOrder callback (bridge :: calls) state

theorem registersBehind_of_visit (names : NamesBridge config memory segment dmarDevScopeEntry
    bridge) {fuel : Nat} {calls : List PciFunction}
    (visited : busVisit config segment fuel (bridge.secondaryBus config segment) = some calls) :
    RegistersBehind config memory segment dmarDevScopeEntry bridge fuel calls := by
  intro allocateZeroPool vtdIndex state
  have scan : ∀ state, scanAndRegister config allocateZeroPool fuel vtdIndex segment
      (bridge.secondaryBus config segment) state = callInOrder
        (scanBusCallbackRegisterPciDevice config allocateZeroPool vtdIndex segment) calls state :=
    fun state => scanPciBus_of_visit visited state
  unfold processScope
  rw [names.named, names.type]
  dsimp only
  rw [if_pos (Or.inr rfl)]
  congr 1
  funext state
  rw [if_pos rfl]
  exact scan state

theorem scansBehind_of_visit (names : NamesBridge config memory segment dmarDevScopeEntry
    bridge) {fuel : Nat} {calls : List PciFunction}
    (visited : (bridge.child config segment).elim (some []) (busVisit config segment fuel) =
      some calls) : ScansBehind config segment bridge fuel calls := by
  intro State callback state
  have whole : visitItems (PciFunction.child config segment) (busVisit config segment fuel)
      [bridge] = some (bridge :: calls) :=
    visitItems_cons_eq_some.mpr ⟨calls, [], visited, rfl, by simp⟩
  have present := names.present
  rw [scanFunction_eq, if_pos present]
  exact scanList_of_visit state (fun _ _ state visited => scanPciBus_of_visit visited state) whole

theorem child_of_namesBridge (names : NamesBridge config memory segment dmarDevScopeEntry
    bridge) : bridge.child config segment =
      if bridge.secondaryBus config segment ≠ 0 then some (bridge.secondaryBus config segment)
      else none := by
  simp only [PciFunction.child, names.isBridge, true_and]
  rfl

end Scope

/-! ## What a list of registrations leaves in the unit -/

/-- An include-all unit leaves the device to a unit before it that has it. -/
def leavesToOther (units : VtdUnits) (vtdIndex : Nat) (segment : UInt16) (sourceId : SourceId) :
    Bool :=
  (units vtdIndex).pciDeviceInfo.includeAllFlag &&
    registeredByOther units vtdIndex segment sourceId

/-- The devices of a unit. -/
def sourceIds (units : VtdUnits) (vtdIndex : Nat) : List SourceId :=
  (units vtdIndex).pciDeviceInfo.entries.map PciDeviceData.pciSourceId

/-- The table of `max` entries with the devices `have_` takes the other devices of the list:
where it is full, the allocation of a larger one succeeds.  The calls of the list are
numbered from `call`. -/
def TableTakes (allocateZeroPool : Nat → Bool) (left : SourceId → Bool) :
    List SourceId → List SourceId → Nat → Nat → Prop
  | [], _, _, _ => True
  | sourceId :: rest, have_, max, call =>
      if left sourceId = true ∨ sourceId ∈ have_ then
        TableTakes allocateZeroPool left rest have_ max (call + 1)
      else
        (max ≤ have_.length → allocateZeroPool call = true) ∧
          TableTakes allocateZeroPool left rest (have_ ++ [sourceId])
            (if max ≤ have_.length then max + maxVtdPciDataNumber else max) (call + 1)

theorem tableTakes_of_allocates {allocateZeroPool : Nat → Bool}
    (allocates : ∀ call, allocateZeroPool call = true) (left : SourceId → Bool)
    (calls : List SourceId) :
    ∀ have_ max call, TableTakes allocateZeroPool left calls have_ max call := by
  induction calls with
  | nil => exact fun _ _ _ => trivial
  | cons sourceId rest ih =>
      intro have_ max call
      rw [TableTakes]
      split
      · exact ih _ _ _
      · exact ⟨fun _ => allocates call, ih _ _ _⟩

theorem Outcome.andThen_error {State : Type} {state : State} {status : EfiStatus}
    {next : State → Outcome State} (error : status ≠ .success) :
    Outcome.andThen (some (state, status)) next = some (state, status) := by
  cases status with
  | success => exact absurd rfl error
  | outOfResources => rfl
  | alreadyStarted => rfl
  | deviceError => rfl

section Registrations

variable {config : Memory} {allocateZeroPool : Nat → Bool} {vtdIndex : Nat} {segment : UInt16}

theorem length_sourceIds {units : VtdUnits}
    (wellFormed : (units vtdIndex).pciDeviceInfo.WellFormed) :
    (sourceIds units vtdIndex).length = (units vtdIndex).pciDeviceInfo.pciDeviceDataNumber := by
  rw [sourceIds, List.length_map, PciDeviceInformation.entries, List.length_take,
    wellFormed.length]
  exact Nat.min_eq_left wellFormed.number_le

/-- The call for a device that the unit has to take. -/
theorem registerPciDevice_takes (config : Memory) {units : VtdUnits} {vtdIndex : Nat}
    (wellFormed : (units vtdIndex).pciDeviceInfo.WellFormed) (allocates : Bool)
    {sourceId : SourceId} (deviceType : UInt8) (checkExist : Bool)
    (own : leavesToOther units vtdIndex (units vtdIndex).segment sourceId = false)
    (new : sourceId ∉ sourceIds units vtdIndex) :
    ∃ after status,
      registerPciDevice config units allocates vtdIndex (units vtdIndex).segment sourceId
        deviceType checkExist = (after, status) ∧
      (status = .success ↔
        ((units vtdIndex).pciDeviceInfo.pciDeviceDataMaxNumber ≤
          (sourceIds units vtdIndex).length → allocates = true)) ∧
      (status = .success → Added units after vtdIndex sourceId ∧
        (after vtdIndex).pciDeviceInfo.pciDeviceDataMaxNumber =
          if (units vtdIndex).pciDeviceInfo.pciDeviceDataMaxNumber ≤
              (sourceIds units vtdIndex).length then
            (units vtdIndex).pciDeviceInfo.pciDeviceDataMaxNumber + maxVtdPciDataNumber
          else (units vtdIndex).pciDeviceInfo.pciDeviceDataMaxNumber) := by
  have search : getPciDataIndex units vtdIndex (units vtdIndex).segment sourceId = none := by
    rw [← Option.not_isSome_iff_eq_none, getPciDataIndex_isSome]
    exact fun found => new found.2
  have number := length_sourceIds wellFormed
  cases run : registerPciDevice config units allocates vtdIndex (units vtdIndex).segment
    sourceId deviceType checkExist with
  | mk after status =>
      have cases_ := registerPciDevice_cases config wellFormed allocates sourceId deviceType
        checkExist run
      refine ⟨after, status, rfl, ?_⟩
      simp only [leavesToOther] at own
      simp only [registerPciDevice, own, search, Bool.false_eq_true, if_false] at run
      rw [number]
      by_cases full : (units vtdIndex).pciDeviceInfo.pciDeviceDataMaxNumber ≤
          (units vtdIndex).pciDeviceInfo.pciDeviceDataNumber
      · cases allocates with
        | false =>
            simp only [ge_iff_le, full, if_true, reallocate, Bool.false_eq_true, if_false,
              Prod.mk.injEq] at run
            simp [← run.2, full]
        | true =>
            simp only [ge_iff_le, full, if_true, reallocate, Prod.mk.injEq] at run
            obtain ⟨rfl, rfl⟩ := run
            rcases cases_ with ⟨_, _, all, other⟩ | ⟨_, had, _⟩ | ⟨_, failed⟩ | ⟨_, _, _, added⟩
            · simp [all, other] at own
            · exact absurd had new
            · cases failed
            · refine ⟨by simp, fun _ => ⟨added, ?_⟩⟩
              rw [Function.update_self, if_pos full]
              rfl
      · simp only [ge_iff_le, full, if_false, Prod.mk.injEq] at run
        obtain ⟨rfl, rfl⟩ := run
        rcases cases_ with ⟨_, _, all, other⟩ | ⟨_, had, _⟩ | ⟨_, failed⟩ | ⟨_, _, _, added⟩
        · simp [all, other] at own
        · exact absurd had new
        · cases failed
        · refine ⟨by simp [full], fun _ => ⟨added, ?_⟩⟩
          rw [Function.update_self, if_neg full]
          rfl

theorem registerPciDevice_left (config : Memory) {units : VtdUnits} (allocates : Bool)
    {sourceId : SourceId} (deviceType : UInt8) (checkExist : Bool)
    (left : leavesToOther units vtdIndex segment sourceId = true) :
    registerPciDevice config units allocates vtdIndex segment sourceId deviceType checkExist =
      (units, .success) := by
  rw [registerPciDevice]
  exact if_pos left

theorem registerPciDevice_had (config : Memory) {units : VtdUnits} (allocates : Bool)
    {sourceId : SourceId} (deviceType : UInt8) (checkExist : Bool)
    (own : leavesToOther units vtdIndex (units vtdIndex).segment sourceId = false)
    (had : sourceId ∈ sourceIds units vtdIndex) :
    registerPciDevice config units allocates vtdIndex (units vtdIndex).segment sourceId
      deviceType checkExist = (units, if checkExist then .alreadyStarted else .success) := by
  have found : (getPciDataIndex units vtdIndex (units vtdIndex).segment sourceId).isSome =
      true := getPciDataIndex_isSome.mpr ⟨rfl, had⟩
  obtain ⟨index, search⟩ := Option.isSome_iff_exists.mp found
  simp only [leavesToOther] at own
  simp only [registerPciDevice, own, search, Bool.false_eq_true, if_false]

/-- A unit's table that took one more device leaves the same devices to other units. -/
theorem Added.leavesToOther_eq {units after : VtdUnits} {sourceId : SourceId}
    (added : Added units after vtdIndex sourceId) :
    leavesToOther after vtdIndex segment = leavesToOther units vtdIndex segment := by
  funext other
  have same : registeredByOther after vtdIndex segment other =
      registeredByOther units vtdIndex segment other := by
    rw [Bool.eq_iff_iff, registeredByOther_iff, registeredByOther_iff]
    refine exists_congr fun index => and_congr_right fun below => ?_
    rw [Registered, Registered, added.others index (Nat.ne_of_lt below)]
  rw [leavesToOther, leavesToOther, added.includeAllFlag, same]

theorem Added.sourceIds_eq {units after : VtdUnits} {sourceId : SourceId}
    (added : Added units after vtdIndex sourceId) :
    sourceIds after vtdIndex = sourceIds units vtdIndex ++ [sourceId] := by
  obtain ⟨data, source, entries⟩ := added.entries
  rw [sourceIds, entries, List.map_append, ← source]
  rfl

/-- A part of the walk registers the devices of the list: they are all registered exactly
when the table takes the new ones, and then the unit has them besides its own. -/
def RegistersAt (allocateZeroPool : Nat → Bool) (vtdIndex : Nat) (segment : UInt16)
    (part : VtdState → Outcome VtdState) (calls : List SourceId) (state : VtdState) : Prop :=
  ∃ after status,
    part state = some (after, status) ∧
    (status = .success ↔
      TableTakes allocateZeroPool (leavesToOther state.units vtdIndex segment) calls
        (sourceIds state.units vtdIndex)
        (state.units vtdIndex).pciDeviceInfo.pciDeviceDataMaxNumber state.registrations) ∧
    (status = .success → ∀ sourceId, sourceId ∈ sourceIds after.units vtdIndex ↔
      sourceId ∈ sourceIds state.units vtdIndex ∨
        sourceId ∈ calls ∧ leavesToOther state.units vtdIndex segment sourceId = false)

section Cons

variable {part : VtdState → Outcome VtdState} {calls : List SourceId} {state : VtdState}
variable {sourceId : SourceId} {deviceType : UInt8} {checkExist : Bool}

/-- A registration in front of a part. -/
def registerThen (config : Memory) (allocateZeroPool : Nat → Bool) (vtdIndex : Nat)
    (segment : UInt16) (sourceId : SourceId) (deviceType : UInt8) (checkExist : Bool)
    (part : VtdState → Outcome VtdState) (state : VtdState) : Outcome VtdState :=
  Outcome.andThen
    (some (state.register config allocateZeroPool vtdIndex segment sourceId deviceType
      checkExist)) part

/-- A device that the unit leaves to a unit before it. -/
theorem registersAt_left
    (rest : RegistersAt allocateZeroPool vtdIndex segment part calls
      ⟨state.units, state.registrations + 1⟩)
    (left : leavesToOther state.units vtdIndex segment sourceId = true) :
    RegistersAt allocateZeroPool vtdIndex segment
      (registerThen config allocateZeroPool vtdIndex segment sourceId deviceType checkExist part)
      (sourceId :: calls) state := by
  obtain ⟨after, status, run, succeeds, has⟩ := rest
  rw [RegistersAt, TableTakes, if_pos (Or.inl left)]
  refine ⟨after, status, ?_, succeeds, ?_⟩
  · rw [registerThen, VtdState.register, registerPciDevice_left config _ _ _ left]
    exact run
  · intro success other
    rw [has success, List.mem_cons]
    refine or_congr_right ⟨fun found => ⟨Or.inr found.1, found.2⟩, ?_⟩
    rintro ⟨rfl | found, own⟩
    · rw [left] at own
      cases own
    · exact ⟨found, own⟩

/-- A device that the unit has, without CheckExist. -/
theorem registersAt_had (same : (state.units vtdIndex).segment = segment)
    (rest : RegistersAt allocateZeroPool vtdIndex segment part calls
      ⟨state.units, state.registrations + 1⟩)
    (own : leavesToOther state.units vtdIndex segment sourceId = false)
    (had : sourceId ∈ sourceIds state.units vtdIndex) :
    RegistersAt allocateZeroPool vtdIndex segment
      (registerThen config allocateZeroPool vtdIndex segment sourceId deviceType false part)
      (sourceId :: calls) state := by
  subst same
  obtain ⟨after, status, run, succeeds, has⟩ := rest
  rw [RegistersAt, TableTakes, if_pos (Or.inr had)]
  refine ⟨after, status, ?_, succeeds, ?_⟩
  · rw [registerThen, VtdState.register, registerPciDevice_had config _ _ _ own had]
    exact run
  · intro success other
    rw [has success, List.mem_cons]
    constructor
    · rintro (before | ⟨found, free⟩)
      · exact Or.inl before
      · exact Or.inr ⟨Or.inr found, free⟩
    · rintro (before | ⟨rfl | found, free⟩)
      · exact Or.inl before
      · exact Or.inl had
      · exact Or.inr ⟨found, free⟩

/-- A new device, which the table takes or not. -/
theorem registersAt_new
    (rest : ∀ state : VtdState, (state.units vtdIndex).pciDeviceInfo.WellFormed →
      (state.units vtdIndex).segment = segment →
        RegistersAt allocateZeroPool vtdIndex segment part calls state)
    (wellFormed : (state.units vtdIndex).pciDeviceInfo.WellFormed)
    (same : (state.units vtdIndex).segment = segment)
    (own : leavesToOther state.units vtdIndex segment sourceId = false)
    (new : sourceId ∉ sourceIds state.units vtdIndex) :
    RegistersAt allocateZeroPool vtdIndex segment
      (registerThen config allocateZeroPool vtdIndex segment sourceId deviceType checkExist part)
      (sourceId :: calls) state := by
  subst same
  have left : ¬ leavesToOther state.units vtdIndex (state.units vtdIndex).segment sourceId =
      true := Bool.eq_false_iff.mp own
  rw [RegistersAt, TableTakes, if_neg (not_or.mpr ⟨left, new⟩)]
  obtain ⟨units, status, run, succeeds, takes⟩ := registerPciDevice_takes config wellFormed
    (allocateZeroPool state.registrations) deviceType checkExist own new
  rw [registerThen, VtdState.register, run]
  by_cases taken : status = .success
  · subst taken
    obtain ⟨added, max⟩ := takes rfl
    obtain ⟨after, status, run, later, has⟩ :=
      rest ⟨units, state.registrations + 1⟩ added.wellFormed added.segment
    rw [added.leavesToOther_eq, added.sourceIds_eq] at later has
    rw [max] at later
    refine ⟨after, status, run, ?_, ?_⟩
    · rw [later]
      exact (and_iff_right (succeeds.mp rfl)).symm
    · intro success other
      rw [has success, List.mem_cons, List.mem_append, List.mem_singleton]
      constructor
      · rintro ((before | rfl) | ⟨found, free⟩)
        · exact Or.inl before
        · exact Or.inr ⟨Or.inl rfl, own⟩
        · exact Or.inr ⟨Or.inr found, free⟩
      · rintro (before | ⟨rfl | found, free⟩)
        · exact Or.inl (Or.inl before)
        · exact Or.inl (Or.inr rfl)
        · exact Or.inr ⟨found, free⟩
  · refine ⟨_, status, Outcome.andThen_error taken, ?_, fun success => absurd success taken⟩
    exact iff_of_false taken fun fits => taken (succeeds.mpr fits.1)

/-- With CheckExist, the unit must not have the device unless it leaves it to another. -/
theorem registersAt_cons
    (rest : ∀ state : VtdState, (state.units vtdIndex).pciDeviceInfo.WellFormed →
      (state.units vtdIndex).segment = segment →
        RegistersAt allocateZeroPool vtdIndex segment part calls state)
    (wellFormed : (state.units vtdIndex).pciDeviceInfo.WellFormed)
    (same : (state.units vtdIndex).segment = segment) (sourceId : SourceId) (deviceType : UInt8)
    (checkExist : Bool)
    (once : checkExist = true → sourceId ∈ sourceIds state.units vtdIndex →
      leavesToOther state.units vtdIndex segment sourceId = true) :
    RegistersAt allocateZeroPool vtdIndex segment
      (registerThen config allocateZeroPool vtdIndex segment sourceId deviceType checkExist part)
      (sourceId :: calls) state := by
  have behind : RegistersAt allocateZeroPool vtdIndex segment part calls
      ⟨state.units, state.registrations + 1⟩ := rest _ wellFormed same
  by_cases left : leavesToOther state.units vtdIndex segment sourceId = true
  · exact registersAt_left behind left
  · have own := Bool.eq_false_of_not_eq_true left
    by_cases had : sourceId ∈ sourceIds state.units vtdIndex
    · cases checkExist with
      | true => exact absurd (once rfl had) left
      | false => exact registersAt_had same behind own had
    · exact registersAt_new rest wellFormed same own had

end Cons

theorem callInOrder_registers (calls : List PciFunction) :
    ∀ state : VtdState, (state.units vtdIndex).pciDeviceInfo.WellFormed →
      (state.units vtdIndex).segment = segment →
        RegistersAt allocateZeroPool vtdIndex segment
          (callInOrder (scanBusCallbackRegisterPciDevice config allocateZeroPool vtdIndex
            segment) calls)
          (calls.map PciFunction.sourceId) state := by
  induction calls with
  | nil =>
      intro state _ _
      refine ⟨state, .success, rfl, ?_, ?_⟩
      · simp [TableTakes]
      · simp
  | cons f rest ih =>
      intro state wellFormed same
      exact registersAt_cons ih wellFormed same f.sourceId
        (if isPciBridge config segment f.bus f.device f.function then scopePciBridge
        else scopePciEndpoint) false fun checked => by cases checked

end Registrations

/-! ## What the entry of a bridge leaves in the unit -/

/-- The entry is processed, and the unit then has the devices it had, the bridge and the
functions that a scan finds behind the bridge. -/
def RegistersExactly (config memory : Memory) (segment : UInt16) (dmarDevScopeEntry : Nat)
    (bridge : PciFunction) (fuel : Nat) (scanned : List PciFunction)
    (allocateZeroPool : Nat → Bool) (vtdIndex : Nat) (state : VtdState) : Prop :=
  ∃ after,
    processScope config memory allocateZeroPool fuel vtdIndex segment dmarDevScopeEntry state =
      some (after, .success) ∧
    ∀ sourceId, sourceId ∈ sourceIds after.units vtdIndex ↔
      sourceId ∈ sourceIds state.units vtdIndex ∨
        sourceId ∈ (bridge :: scanned).map PciFunction.sourceId

/-- When the entry registers what it should.  `registered` are the functions that a scan of
the secondary bus as it is finds, `scanned` those that it finds behind the bridge. -/
structure EntryCondition (config : Memory) (segment : UInt16) (bridge : PciFunction)
    (registered scanned : List PciFunction) (allocateZeroPool : Nat → Bool) (vtdIndex : Nat)
    (state : VtdState) : Prop where
  /-- The unit does not have the bridge yet and takes it, or has it and leaves it to a unit
  before it, so that the repetition is no error. -/
  bridge_once : bridge.sourceId ∈ sourceIds state.units vtdIndex ↔
    leavesToOther state.units vtdIndex segment bridge.sourceId = true
  left_had : ∀ f ∈ scanned, leavesToOther state.units vtdIndex segment f.sourceId = true →
    f.sourceId ∈ sourceIds state.units vtdIndex
  assigned : bridge.secondaryBus config segment ≠ 0 ∨
    ∀ f ∈ registered, f.sourceId = bridge.sourceId ∨
      f.sourceId ∈ sourceIds state.units vtdIndex ∨
      leavesToOther state.units vtdIndex segment f.sourceId = true
  takes : TableTakes allocateZeroPool (leavesToOther state.units vtdIndex segment)
    ((bridge :: registered).map PciFunction.sourceId) (sourceIds state.units vtdIndex)
    (state.units vtdIndex).pciDeviceInfo.pciDeviceDataMaxNumber state.registrations

section Entry

variable {config memory : Memory} {allocateZeroPool : Nat → Bool} {vtdIndex : Nat}
variable {segment : UInt16} {dmarDevScopeEntry fuel : Nat} {bridge : PciFunction}
variable {registered scanned : List PciFunction} {state : VtdState}

theorem processScope_registersAt
    (behind : RegistersBehind config memory segment dmarDevScopeEntry bridge fuel registered)
    (wellFormed : (state.units vtdIndex).pciDeviceInfo.WellFormed)
    (same : (state.units vtdIndex).segment = segment)
    (once : bridge.sourceId ∈ sourceIds state.units vtdIndex →
      leavesToOther state.units vtdIndex segment bridge.sourceId = true) :
    RegistersAt allocateZeroPool vtdIndex segment
      (processScope config memory allocateZeroPool fuel vtdIndex segment dmarDevScopeEntry)
      ((bridge :: registered).map PciFunction.sourceId) state := by
  have calls := @callInOrder_registers config allocateZeroPool vtdIndex segment registered
  rw [RegistersAt, behind allocateZeroPool vtdIndex state]
  exact registersAt_cons calls wellFormed same bridge.sourceId scopePciBridge true fun _ => once

/-- CheckExist makes an error of a bridge that the unit has and leaves to no other. -/
theorem processScope_alreadyStarted
    (behind : RegistersBehind config memory segment dmarDevScopeEntry bridge fuel registered)
    (same : (state.units vtdIndex).segment = segment)
    (had : bridge.sourceId ∈ sourceIds state.units vtdIndex)
    (own : leavesToOther state.units vtdIndex segment bridge.sourceId = false) :
    processScope config memory allocateZeroPool fuel vtdIndex segment dmarDevScopeEntry state =
      some (⟨state.units, state.registrations + 1⟩, .alreadyStarted) := by
  subst same
  rw [behind allocateZeroPool vtdIndex state, VtdState.register]
  rw [show sourceIdOf bridge.bus bridge.device bridge.function = bridge.sourceId from rfl,
    registerPciDevice_had config _ _ _ own had]
  rfl

/-- Two lists add the same devices when nothing is left that only one of them has. -/
theorem same_devices_iff {had calls wanted : List SourceId} {left : SourceId → Bool}
    (part : wanted ⊆ calls) :
    (∀ sourceId, (sourceId ∈ had ∨ sourceId ∈ calls ∧ left sourceId = false) ↔
        sourceId ∈ had ∨ sourceId ∈ wanted) ↔
      (∀ sourceId ∈ wanted, left sourceId = true → sourceId ∈ had) ∧
        ∀ sourceId ∈ calls, sourceId ∈ wanted ∨ sourceId ∈ had ∨ left sourceId = true := by
  constructor
  · intro same
    refine ⟨fun sourceId listed isLeft => ?_, fun sourceId listed => ?_⟩
    · rcases (same sourceId).mpr (Or.inr listed) with before | ⟨_, own⟩
      · exact before
      · rw [isLeft] at own
        cases own
    · cases isLeft : left sourceId with
      | true => exact Or.inr (Or.inr rfl)
      | false =>
          rcases (same sourceId).mp (Or.inr ⟨listed, isLeft⟩) with before | within
          · exact Or.inr (Or.inl before)
          · exact Or.inl within
  · rintro ⟨leftHad, others⟩ sourceId
    constructor
    · rintro (before | ⟨listed, own⟩)
      · exact Or.inl before
      · rcases others sourceId listed with within | before | isLeft
        · exact Or.inr within
        · exact Or.inl before
        · rw [isLeft] at own
          cases own
    · rintro (before | within)
      · exact Or.inl before
      · cases isLeft : left sourceId with
        | true => exact Or.inl (leftHad sourceId within isLeft)
        | false => exact Or.inr ⟨part within, rfl⟩

theorem entryCondition_iff
    (scannedEq : scanned =
      if bridge.secondaryBus config segment ≠ 0 then registered else []) :
    (∀ sourceId,
      (sourceId ∈ sourceIds state.units vtdIndex ∨
        sourceId ∈ (bridge :: registered).map PciFunction.sourceId ∧
          leavesToOther state.units vtdIndex segment sourceId = false) ↔
      sourceId ∈ sourceIds state.units vtdIndex ∨
        sourceId ∈ (bridge :: scanned).map PciFunction.sourceId) ↔
      (leavesToOther state.units vtdIndex segment bridge.sourceId = true →
        bridge.sourceId ∈ sourceIds state.units vtdIndex) ∧
      (∀ f ∈ scanned, leavesToOther state.units vtdIndex segment f.sourceId = true →
        f.sourceId ∈ sourceIds state.units vtdIndex) ∧
      (bridge.secondaryBus config segment ≠ 0 ∨
        ∀ f ∈ registered, f.sourceId = bridge.sourceId ∨
          f.sourceId ∈ sourceIds state.units vtdIndex ∨
          leavesToOther state.units vtdIndex segment f.sourceId = true) := by
  by_cases assigned : bridge.secondaryBus config segment ≠ 0
  · rw [if_pos assigned] at scannedEq
    subst scannedEq
    rw [same_devices_iff (List.Subset.refl _), and_iff_left fun _ listed => Or.inl listed,
      and_iff_left (Or.inl assigned), List.map_cons, List.forall_mem_cons, List.forall_mem_map]
  · rw [if_neg assigned] at scannedEq
    subst scannedEq
    have part : [bridge].map PciFunction.sourceId ⊆
        (bridge :: registered).map PciFunction.sourceId :=
      List.cons_subset_cons _ (List.nil_subset _)
    rw [same_devices_iff part, or_iff_right assigned]
    simp

theorem registersExactly_iff
    (behind : RegistersBehind config memory segment dmarDevScopeEntry bridge fuel registered)
    (scannedEq : scanned =
      if bridge.secondaryBus config segment ≠ 0 then registered else [])
    (wellFormed : (state.units vtdIndex).pciDeviceInfo.WellFormed)
    (same : (state.units vtdIndex).segment = segment) :
    RegistersExactly config memory segment dmarDevScopeEntry bridge fuel scanned
        allocateZeroPool vtdIndex state ↔
      EntryCondition config segment bridge registered scanned allocateZeroPool vtdIndex
        state := by
  by_cases once : bridge.sourceId ∈ sourceIds state.units vtdIndex →
      leavesToOther state.units vtdIndex segment bridge.sourceId = true
  · have registers : RegistersAt allocateZeroPool vtdIndex segment _ _ state :=
      processScope_registersAt behind wellFormed same once
    obtain ⟨after, status, run, succeeds, has⟩ := registers
    constructor
    · rintro ⟨final, finalRun, exactly⟩
      rw [run, Option.some.injEq, Prod.mk.injEq] at finalRun
      obtain ⟨rfl, rfl⟩ := finalRun
      obtain ⟨bridgeHad, scannedHad, assigned⟩ := (entryCondition_iff scannedEq).mp
        fun sourceId => ((has rfl sourceId).symm.trans (exactly sourceId))
      exact ⟨⟨once, bridgeHad⟩, scannedHad, assigned, succeeds.mp rfl⟩
    · rintro ⟨bridgeOnce, scannedHad, assigned, takes⟩
      obtain rfl := succeeds.mpr takes
      refine ⟨after, run, fun sourceId => (has rfl sourceId).trans ?_⟩
      exact (entryCondition_iff scannedEq).mpr ⟨bridgeOnce.mpr, scannedHad, assigned⟩ sourceId
  · obtain ⟨had, notLeft⟩ := Classical.not_imp.mp once
    have error := @processScope_alreadyStarted config memory allocateZeroPool vtdIndex segment
      dmarDevScopeEntry fuel bridge registered state behind same had
      (Bool.eq_false_of_not_eq_true notLeft)
    refine iff_of_false ?_ fun condition => notLeft (condition.bridge_once.mp had)
    rintro ⟨after, run, _⟩
    rw [error, Option.some.injEq, Prod.mk.injEq] at run
    cases run.2

end Entry

/-- Where no loop of bridges lies behind the secondary bus, the entry registers exactly the
bridge and what a scan finds behind it under one condition: the unit does not have the
bridge yet, it has what it leaves to units before it, its table grows when it has to, and
the secondary bus is not 0, or all that bus 0 leads to is the bridge or registered. -/
theorem processScope_bridge_iff (config memory : Memory) (segment : UInt16)
    (dmarDevScopeEntry : Nat) (bridge : PciFunction)
    (names : NamesBridge config memory segment dmarDevScopeEntry bridge)
    (free : ScanLoopFree config segment (bridge.secondaryBus config segment)) :
    ∃ fuel registered scanned,
      (∀ f, f ∈ registered ↔
        ScanReaches config segment (bridge.secondaryBus config segment) f) ∧
      ScansBehind config segment bridge fuel scanned ∧
      ∀ (allocateZeroPool : Nat → Bool) (vtdIndex : Nat) (state : VtdState),
        (state.units vtdIndex).pciDeviceInfo.WellFormed →
        (state.units vtdIndex).segment = segment →
        (RegistersExactly config memory segment dmarDevScopeEntry bridge fuel scanned
            allocateZeroPool vtdIndex state ↔
          EntryCondition config segment bridge registered scanned allocateZeroPool vtdIndex
            state) := by
  obtain ⟨fuel, registered, visited⟩ := free.exists_visit
  have child := child_of_namesBridge names
  set scanned := if bridge.secondaryBus config segment ≠ 0 then registered else []
    with scannedEq
  have scans : ScansBehind config segment bridge fuel scanned := by
    apply scansBehind_of_visit names
    rw [child, scannedEq]
    split
    · exact visited
    · rfl
  refine ⟨fuel, registered, scanned, mem_visit visited, scans, ?_⟩
  intro allocateZeroPool vtdIndex state wellFormed same
  exact registersExactly_iff (registersBehind_of_visit names visited) scannedEq wellFormed same

/-- An entry for the bridge at device 1 of bus 0. -/
def device1Scope : Memory := Memory.ofBytesAt 0 [scopePciBridge, 8, 0, 0, 0, 0, 1, 0]

/-- Unit 0 after it registered device 2 of bus 0. -/
def device2Registered : VtdState :=
  ⟨((registerDevice2 0).run bridgeToBus1 fun _ => zeroUnit).1, 1⟩

theorem processScope_bridge_iff_bridgeToBus1 :
    ∃ fuel scanned, ScansBehind bridgeToBus1 0 ⟨0, 1, 0⟩ fuel scanned ∧
      RegistersExactly bridgeToBus1 device1Scope 0 0 ⟨0, 1, 0⟩ fuel scanned (fun _ => true) 0
        device2Registered := by
  have leads : Leads (busFunctions bridgeToBus1 0) (PciFunction.child bridgeToBus1 0) 0 1 :=
    ⟨⟨0, 1, 0⟩, mem_busFunctions.mpr (by decide +kernel), by decide +kernel⟩
  have bus1 : PciFunction.secondaryBus bridgeToBus1 0 ⟨0, 1, 0⟩ = 1 := by decide +kernel
  have free : ScanLoopFree bridgeToBus1 0 1 :=
    LoopFree.of_reached treeTopology_bridgeToBus1.scanLoopFree
      (Relation.ReflTransGen.single leads)
  rw [← bus1] at free
  obtain ⟨fuel, registered, scanned, _, scans, exact_⟩ :=
    processScope_bridge_iff bridgeToBus1 device1Scope 0 0 ⟨0, 1, 0⟩
      ⟨by decide +kernel, by decide +kernel, by decide +kernel, by decide +kernel⟩ free
  have fresh : Fresh fun _ => zeroUnit := fun _ => ⟨rfl, rfl, rfl⟩
  have reachable : Reachable bridgeToBus1 device2Registered.units :=
    .register (registerDevice2 0) (.fresh fresh) rfl
  have noneLeft : ∀ sourceId, leavesToOther device2Registered.units 0 0 sourceId = false :=
    fun _ => Bool.and_eq_false_imp.mpr fun all => absurd all (by decide +kernel)
  refine ⟨fuel, scanned, scans,
    (exact_ (fun _ => true) 0 device2Registered (reachable.wellFormed 0)
      (by decide +kernel)).mpr ⟨?_, ?_, ?_, ?_⟩⟩
  · exact iff_of_false (by decide +kernel) (by simp [noneLeft])
  · intro f _ left
    rw [noneLeft] at left
    cases left
  · exact Or.inl (by rw [bus1]; decide)
  · exact tableTakes_of_allocates (fun _ => rfl) _ _ _ _ _

/-- The same bridge before a bus is assigned, and an endpoint beside it. -/
def unassignedBridge : Memory := fun address =>
  if address / 2 ^ 12 = 8 then
    if address % 2 ^ 12 = 0x19 then 0 else bridgesToBus1 address
  else if address / 2 ^ 12 = 16 then 0
  else 0xFF

/-- The entry of the bridge registers the endpoint too, which `ScanPciBus` does not find
behind the bridge. -/
theorem processScope_unassignedBridge :
    (processScope unassignedBridge device1Scope (fun _ => true) 2 0 0 0
        ⟨fun _ => zeroUnit, 0⟩).map
        (fun result => ((result.1.units 0).pciDeviceInfo.entries.map PciDeviceData.pciSourceId,
          result.2)) =
      some ([⟨0, 1, 0⟩, ⟨0, 2, 0⟩], .success) ∧
    scanFunction unassignedBridge 0
        (fun calls bus device function =>
          (calls ++ [PciFunction.mk bus device function], .success))
        (fun _ _ => none) 0 1 0 [] =
      some ([⟨0, 1, 0⟩], .success) := by
  constructor
  · decide +kernel
  · decide +kernel

end AppEfi.Vtd
