import AppEfi.Vtd.CheckPtEntry
import AppEfi.Vtd.DmarReports
import AppEfi.Vtd.DmarWalks

/-!
# Reserved memory regions

`ProcessRmrr` and `ParseDmarAcpiTableRmrr` of VtdDump.c.  For each device scope of an RMRR
structure a record is inserted; a scope that is no PCI endpoint ends the parse, and what stands
behind it in the table is not looked at.
-/

set_option autoImplicit false

namespace AppEfi.Vtd

open RecordWalk

/-- `gRmrrRecord` and the number of `AllocatePool` calls so far. -/
structure RmrrState where
  records : List RmrrRecord
  allocations : Nat

/-- `InsertTailList` of a new record, if there is memory for it. -/
def RmrrState.insert (allocatePool : Nat → Bool) (state : RmrrState) (record : RmrrRecord) :
    RmrrState where
  records := if allocatePool state.allocations then state.records ++ [record] else state.records
  allocations := state.allocations + 1

section Parse

variable (config memory : Memory) (allocatePool : Nat → Bool)

def locationOf (segment : UInt16) (device : UInt8 × UInt8 × UInt8) : PciLocation :=
  ⟨segment.toNat, device.1.toNat, device.2.1.toNat, device.2.2.toNat⟩

/-- The record for a device scope of the structure. -/
def newRmrrRecord (dmarRmrr dmarDevScopeEntry : Nat) : RmrrRecord :=
  let segment := UInt16.ofNat (memory.readLe (dmarRmrr + 6) 2)
  let base := UInt64.ofNat (memory.readLe (dmarRmrr + 8) 8)
  let limit := UInt64.ofNat (memory.readLe (dmarRmrr + 16) 8)
  { location :=
      locationOf segment (getPciBusDeviceFunction config memory segment dmarDevScopeEntry)
    address := base
    length := limit + 1 - base }

def processRmrrScope (dmarRmrr dmarDevScopeEntry : Nat) (state : RmrrState) :
    Outcome RmrrState :=
  if memory dmarDevScopeEntry ≠ scopePciEndpoint then some (state, .deviceError)
  else
    .success (state.insert allocatePool (newRmrrRecord config memory dmarRmrr dmarDevScopeEntry))

def processRmrr (fuel dmarRmrr : Nat) : RmrrState → Outcome RmrrState :=
  walkSteps (scopeLength memory) (dmarRmrr + structureLength memory dmarRmrr)
    (processRmrrScope config memory allocatePool dmarRmrr) fuel (dmarRmrr + sizeofDmarRmrrHeader)

/-- The switch of the loop. -/
def parseRmrrStructure (fuel dmarHeader : Nat) (state : RmrrState) : Outcome RmrrState :=
  if structureType memory dmarHeader = dmarTypeRmrr then
    processRmrr config memory allocatePool fuel dmarHeader state
  else .success state

def parseDmarAcpiTableRmrr (fuel mAcpiDmarTable : Nat) : RmrrState → Outcome RmrrState :=
  walkSteps (structureLength memory) (mAcpiDmarTable + tableLength memory mAcpiDmarTable)
    (parseRmrrStructure config memory allocatePool fuel) fuel (mAcpiDmarTable + sizeofDmarHeader)

/-- The records that are printed, from the last one on. -/
def dumpRmrrRecord (state : RmrrState) : List RmrrRecord := state.records.reverse

end Parse

/-! ## What a table reserves -/

/-- A region with one of the devices that it is reserved for. -/
structure Reservation where
  segmentNumber : UInt16
  baseAddress : UInt64
  limitAddress : UInt64
  scope : DeviceScope

def DmarStructure.reservations : DmarStructure → List Reservation
  | .rmrr segmentNumber baseAddress limitAddress scopes =>
      scopes.map fun scope => ⟨segmentNumber, baseAddress, limitAddress, scope⟩
  | _ => []

def DmarTable.reservations (table : DmarTable) : List Reservation :=
  table.structures.flatMap DmarStructure.reservations

section Target

variable (config : Memory) (segment : UInt16)

/-- From a hop over the bridges that the hops before the last one name. -/
def followHops (bus : UInt8) (hop : PciPath) : List PciPath → UInt8 × UInt8 × UInt8
  | [] => (bus, hop.device, hop.function)
  | next :: rest =>
      followHops (secondaryBusNumber config segment bus hop.device hop.function) next rest

/-- The device that a scope names, if it has a path. -/
def DeviceScope.target? (scope : DeviceScope) : Option (UInt8 × UInt8 × UInt8) :=
  match scope.path with
  | [] => none
  | hop :: rest => some (followHops config segment scope.startBusNumber hop rest)

end Target

namespace Reservation

def isEndpoint (reservation : Reservation) : Bool := reservation.scope.type == scopePciEndpoint

def record (config : Memory) (reservation : Reservation) : RmrrRecord where
  location := locationOf reservation.segmentNumber
    ((reservation.scope.target? config reservation.segmentNumber).getD (0, 0, 0))
  address := reservation.baseAddress
  length := reservation.limitAddress + 1 - reservation.baseAddress

end Reservation

/-! ## Walks over records -/

section Layout

variable {State Record : Type} {step : Record → State → Outcome State}

/-- The bodies for some records, up to the first error. -/
def stepAll (step : Record → State → Outcome State) : List Record → State → Outcome State
  | [], state => .success state
  | record :: rest, state => (step record state).andThen (stepAll step rest)

theorem stepAll_append (first second : List Record) (state : State) :
    stepAll step (first ++ second) state =
      (stepAll step first state).andThen (stepAll step second) := by
  induction first generalizing state with
  | nil => rfl
  | cons record rest ih =>
      rw [List.cons_append, stepAll, stepAll, Outcome.andThen_assoc]
      exact congrArg (step record state).andThen (funext ih)

theorem stepAll_map {Other : Type} (make : Other → Record) (records : List Other) (state : State) :
    stepAll step (records.map make) state =
      stepAll (fun record => step (make record)) records state := by
  induction records generalizing state with
  | nil => rfl
  | cons record rest ih =>
      rw [List.map_cons, stepAll, stepAll]
      exact congrArg (step (make record) state).andThen (funext ih)

theorem stepAll_flatMap {Group : Type} (records : Group → List Record) (groups : List Group)
    (state : State) :
    stepAll step (groups.flatMap records) state =
      stepAll (fun group => stepAll step (records group)) groups state := by
  induction groups generalizing state with
  | nil => rfl
  | cons group rest ih =>
      rw [List.flatMap_cons, stepAll_append, stepAll]
      exact congrArg (stepAll step (records group) state).andThen (funext ih)

/-- Where a step inserts or fails, what is in front of the first failure is inserted. -/
theorem stepAll_eq_takeWhile {passes : Record → Bool} {insert : State → Record → State}
    (inserts : ∀ record state, step record state =
      if passes record then Outcome.success (insert state record) else some (state, .deviceError))
    (records : List Record) (state : State) :
    stepAll step records state =
      some ((records.takeWhile passes).foldl insert state,
        if records.all passes then EfiStatus.success else .deviceError) := by
  induction records generalizing state with
  | nil => rfl
  | cons record rest ih =>
      rw [stepAll, inserts, List.takeWhile_cons, List.all_cons]
      cases passes record with
      | true => exact ih (insert state record)
      | false => rfl

/-- On a layout whose lengths the walk follows, each body runs at its record. -/
theorem walkSteps_records {length : Nat → Nat} {limit : Nat} {body : Nat → State → Outcome State}
    {recordLength : Record → Nat} (records : List Record) (start fuel : Nat) (state : State)
    (follows : ∀ entry ∈ placed recordLength start records, entry.1 < limit ∧
      length entry.1 = recordLength entry.2 ∧ body entry.1 = step entry.2)
    (stops : limit ≤ start + total recordLength records) (enough : records.length ≤ fuel) :
    walkSteps length limit body fuel start state = stepAll step records state := by
  induction records generalizing start fuel state with
  | nil =>
      have outside : ¬ start < limit := Nat.not_lt.mpr stops
      cases fuel with
      | zero => exact if_neg outside
      | succ fuel => exact if_neg outside
  | cons record rest ih =>
      obtain ⟨fuel, rfl⟩ := Nat.exists_eq_add_of_le' (Nat.lt_of_lt_of_le (Nat.succ_pos _) enough)
      rw [placed, List.forall_mem_cons] at follows
      obtain ⟨⟨inside, moves, runs⟩, later⟩ := follows
      rw [walkSteps, if_pos inside, moves, runs, stepAll]
      refine congrArg (step record state).andThen (funext fun state => ?_)
      refine ih _ fuel state later ?_ (Nat.le_of_succ_le_succ enough)
      rwa [total_cons, ← Nat.add_assoc] at stops

end Layout

/-! ## The parse of a stored table -/

section Stored

variable {config memory : Memory} {segment : UInt16} {address : Nat} {scope : DeviceScope}

theorem followPath_eq (hop : PciPath) (rest : List PciPath) (dmarPciPath fuel : Nat)
    (bus : UInt8) (held : memory.Holds dmarPciPath ((hop :: rest).flatMap PciPath.encode))
    (enough : rest.length < fuel) :
    followPath config memory segment (dmarPciPath + 2 * (rest.length + 1)) fuel dmarPciPath bus
      hop.device hop.function = followHops config segment bus hop rest := by
  induction rest generalizing hop dmarPciPath fuel bus with
  | nil =>
      obtain ⟨fuel, rfl⟩ := Nat.exists_eq_succ_of_ne_zero (Nat.ne_zero_of_lt enough)
      rw [followPath, if_neg (by simp), followHops]
  | cons next rest ih =>
      obtain ⟨fuel, rfl⟩ := Nat.exists_eq_succ_of_ne_zero (Nat.ne_zero_of_lt enough)
      rw [List.flatMap_cons, Memory.holds_append] at held
      have behind := held.2
      rw [PciPath.encode, List.length_cons, List.length_singleton] at behind
      have device : memory (dmarPciPath + 2) = next.device :=
        behind.apply 0 (by simp [PciPath.encode])
      have function : memory (dmarPciPath + 2 + 1) = next.function :=
        behind.apply 1 (by simp [PciPath.encode])
      rw [followPath, if_pos (by simp), followHops, device, function, List.length_cons]
      have same := ih next (dmarPciPath + 2) fuel
        (secondaryBusNumber config segment bus hop.device hop.function) behind
        (Nat.lt_of_succ_lt_succ enough)
      rw [← same]
      congr 1
      omega

theorem getPciBusDeviceFunction_stored (stored : scope.StoredAt memory address)
    (endpoint : scope.type = scopePciEndpoint) (path : scope.path ≠ []) :
    scope.target? config segment =
      some (getPciBusDeviceFunction config memory segment address) := by
  obtain ⟨hop, rest, hops⟩ := List.exists_cons_of_ne_nil path
  have fits := stored.fits
  have held := stored.path
  have length := DeviceScope.scopeLength_eq stored
  rw [DeviceScope.length, hops, List.length_cons] at fits length
  rw [hops] at held
  have device : memory (address + 6) = hop.device := held.apply 0 (by simp [PciPath.encode])
  have function : memory (address + 6 + 1) = hop.function :=
    held.apply 1 (by simp [PciPath.encode])
  have follows := @followPath_eq config memory segment hop rest (address + 6) 128
    scope.startBusNumber held (by omega)
  have finish : address + (memory (address + 1)).toNat = address + 6 + 2 * (rest.length + 1) := by
    rw [scopeLength] at length
    omega
  rw [DeviceScope.target?, hops, getPciBusDeviceFunction, sizeofDeviceScopeHeader, stored.type,
    stored.startBusNumber, device, function, finish, follows, if_pos (Or.inl endpoint)]

end Stored

/-- The turn of the loop for a reservation. -/
def Reservation.process (config : Memory) (allocatePool : Nat → Bool) (reservation : Reservation)
    (state : RmrrState) : Outcome RmrrState :=
  if reservation.isEndpoint then .success (state.insert allocatePool (reservation.record config))
  else some (state, .deviceError)

section Table

variable {config memory : Memory} {allocatePool : Nat → Bool} {address fuel : Nat}

theorem processRmrr_stored {segmentNumber : UInt16} {baseAddress limitAddress : UInt64}
    {scopes : List DeviceScope}
    (stored : (DmarStructure.rmrr segmentNumber baseAddress limitAddress scopes).StoredAt memory
      address)
    (paths : ∀ scope ∈ scopes, scope.type = scopePciEndpoint → scope.path ≠ [])
    (enough : scopes.length ≤ fuel) (state : RmrrState) :
    processRmrr config memory allocatePool fuel address state =
      stepAll (Reservation.process config allocatePool)
        (DmarStructure.rmrr segmentNumber baseAddress limitAddress scopes).reservations state := by
  obtain ⟨segment, base, limit, scopesAt⟩ := stored.fields
  have length := DmarStructure.structureLength_eq stored
  rw [DmarStructure.length] at length
  rw [DmarStructure.reservations, stepAll_map, processRmrr, length, sizeofDmarRmrrHeader]
  have stops : address + (24 + total DeviceScope.length scopes) ≤
      address + 24 + total DeviceScope.length scopes := by omega
  refine walkSteps_records scopes _ _ state ?_ stops enough
  intro entry listed
  have bounds := placed_bounds listed
  have positive := entry.2.length_pos
  have here := scopesAt entry listed
  refine ⟨by omega, DeviceScope.scopeLength_eq here, funext fun state => ?_⟩
  rw [processRmrrScope, Reservation.process, Reservation.isEndpoint, here.type]
  by_cases endpoint : entry.2.type = scopePciEndpoint
  · have target := @getPciBusDeviceFunction_stored config memory segmentNumber entry.1 entry.2
      here endpoint (paths entry.2 (mem_of_mem_placed listed) endpoint)
    rw [if_neg (not_not.mpr endpoint), if_pos (beq_iff_eq.mpr endpoint), newRmrrRecord, segment,
      base, limit, UInt16.ofNat_toNat, UInt64.ofNat_toNat, UInt64.ofNat_toNat,
      Reservation.record, target]
    rfl
  · rw [if_pos endpoint, if_neg (fun same => endpoint (beq_iff_eq.mp same))]

end Table

namespace DmarTable

/-- Every endpoint that a region is reserved for has a path. -/
def NamesDevices (table : DmarTable) : Prop :=
  ∀ reservation ∈ table.reservations, reservation.isEndpoint = true → reservation.scope.path ≠ []

/-- The records are those of the reservations in front of the first scope that is no endpoint,
which is reported as an error. -/
theorem parseDmarAcpiTableRmrr_eq (table : DmarTable) (names : table.NamesDevices)
    (config : Memory) (allocatePool : Nat → Bool) (state : RmrrState) (fuel : Nat)
    (enough : total DmarStructure.length table.structures ≤ fuel) :
    parseDmarAcpiTableRmrr config table.memory allocatePool fuel table.address state =
      some ((table.reservations.takeWhile Reservation.isEndpoint).foldl
          (fun state reservation => state.insert allocatePool (reservation.record config)) state,
        if table.reservations.all Reservation.isEndpoint then .success else .deviceError) := by
  have finish := table.finish_eq
  rw [DmarTable.finish] at finish
  have each : ∀ reservation state, Reservation.process config allocatePool reservation state =
      if reservation.isEndpoint then
        Outcome.success (state.insert allocatePool (reservation.record config))
      else some (state, .deviceError) := fun _ _ => rfl
  rw [← stepAll_eq_takeWhile each, reservations, stepAll_flatMap, parseDmarAcpiTableRmrr]
  have count := RecordWalk.length_le_total DmarStructure.length table.structures
    fun entry _ => entry.length_pos
  refine walkSteps_records table.structures _ _ state ?_ (Nat.le_of_eq finish)
    (Nat.le_trans count enough)
  intro entry listed
  have bounds := placed_bounds listed
  have positive := entry.2.length_pos
  have stored := table.stored entry listed
  have room := Nat.le_trans (table.length_le_total listed) enough
  refine ⟨by omega, DmarStructure.structureLength_eq stored, funext fun state => ?_⟩
  rw [parseRmrrStructure, DmarStructure.structureType_eq stored]
  obtain ⟨place, structure_⟩ := entry
  cases structure_ with
  | rmrr segmentNumber baseAddress limitAddress scopes =>
      have count :=
        (DmarStructure.rmrr segmentNumber baseAddress limitAddress scopes).length_scopes_le
      refine processRmrr_stored stored (fun scope member endpoint => ?_)
        (Nat.le_trans count room) state
      refine names ⟨segmentNumber, baseAddress, limitAddress, scope⟩ ?_ (beq_iff_eq.mpr endpoint)
      exact List.mem_flatMap.mpr ⟨_, mem_of_mem_placed listed, List.mem_map_of_mem member⟩
  | unknown type size =>
      have other : 4 < type.toNat := stored.fields
      exact if_neg (by rw [DmarStructure.type, dmarTypeRmrr]; omega)
  | _ => rfl

theorem records_foldl_insert {allocatePool : Nat → Bool} (allocates : ∀ call, allocatePool call)
    (config : Memory) (reservations : List Reservation) (state : RmrrState) :
    (reservations.foldl
        (fun state reservation => state.insert allocatePool (reservation.record config))
        state).records =
      state.records ++ reservations.map (Reservation.record config) := by
  induction reservations generalizing state with
  | nil => exact (List.append_nil _).symm
  | cons reservation rest ih =>
      rw [List.foldl_cons, ih, RmrrState.insert, if_pos (allocates _), List.append_assoc,
        List.map_cons, List.singleton_append]

end DmarTable

/-- The dump lists the devices of the regions backwards.  A scope that is no endpoint hides all
that stands behind it in the table, also in other structures. -/
theorem dumpRmrrRecord_parsed (table : DmarTable) (names : table.NamesDevices) (config : Memory)
    (allocatePool : Nat → Bool) (allocates : ∀ call, allocatePool call) (fuel : Nat)
    (enough : total DmarStructure.length table.structures ≤ fuel) :
    ∃ state status,
      parseDmarAcpiTableRmrr config table.memory allocatePool fuel table.address ⟨[], 0⟩ =
          some (state, status) ∧
        dumpRmrrRecord state = ((table.reservations.takeWhile Reservation.isEndpoint).map
          (Reservation.record config)).reverse ∧
        (status = .success ↔
          ∀ reservation ∈ table.reservations, reservation.isEndpoint = true) := by
  have parsed :=
    table.parseDmarAcpiTableRmrr_eq names config allocatePool ⟨[], 0⟩ fuel enough
  refine ⟨_, _, parsed, ?_, ?_⟩
  · rw [dumpRmrrRecord, DmarTable.records_foldl_insert allocates, List.nil_append]
  · rw [← List.all_eq_true]
    cases table.reservations.all Reservation.isEndpoint with
    | true => exact iff_of_true rfl rfl
    | false => exact iff_of_false nofun nofun

def scopeOf (type device : UInt8) : DeviceScope := ⟨type, 0, 0, [⟨device, 0⟩]⟩

def encodeScope (type device : UInt8) : List UInt8 := [type, 8, 0, 0, 0, 0, device, 0]

open LittleEndian in
def encodeRmrr (base limit : Nat) (scopes : List UInt8) : List UInt8 :=
  toBytes 2 dmarTypeRmrr ++ toBytes 2 (sizeofDmarRmrrHeader + scopes.length) ++ [0, 0, 0, 0] ++
    toBytes 8 base ++ toBytes 8 limit ++ scopes

theorem scopeOf_stored {memory : Memory} {address : Nat} {type device : UInt8}
    (bytes : memory.bytesAt address 8 = encodeScope type device) :
    (scopeOf type device).StoredAt memory address := by
  simp only [Memory.bytesAt, encodeScope, List.cons.injEq, and_true] at bytes
  obtain ⟨typeAt, lengthAt, _, _, enumerationId, startBusNumber, deviceAt, functionAt⟩ := bytes
  refine ⟨by simp [DeviceScope.length, scopeOf], typeAt, lengthAt, enumerationId,
    startBusNumber, ?_⟩
  have hop : [memory (address + 6), memory (address + 6 + 1)] = [device, 0] := by
    rw [deviceAt, functionAt]
  exact hop

/-- An engine with device 8, and regions for the devices 2 and 3, for device 4, the bridge 5 and
device 6, and for device 7.  Behind the table is a policy that excepts device 9. -/
def threeRegionsMemory : Memory := Memory.ofBytesAt 0x1000
  (encodeDmar
      (encodeDrhd 0 (encodeScope scopePciEndpoint 8) ++
        encodeRmrr 0x1000 0x1FFF
          (encodeScope scopePciEndpoint 2 ++ encodeScope scopePciEndpoint 3) ++
        encodeRmrr 0x3000 0x3FFF
          (encodeScope scopePciEndpoint 4 ++ encodeScope scopePciBridge 5 ++
            encodeScope scopePciEndpoint 6) ++
        encodeRmrr 0x5000 0x5FFF (encodeScope scopePciEndpoint 7)) ++
    [1, 12, 0, 0] ++ encodeScope scopePciEndpoint 9)

def threeRegionsStructures : List DmarStructure :=
  [.drhd 0 0 0xFED90000 [scopeOf scopePciEndpoint 8],
    .rmrr 0 0x1000 0x1FFF [scopeOf scopePciEndpoint 2, scopeOf scopePciEndpoint 3],
    .rmrr 0 0x3000 0x3FFF
      [scopeOf scopePciEndpoint 4, scopeOf scopePciBridge 5, scopeOf scopePciEndpoint 6],
    .rmrr 0 0x5000 0x5FFF [scopeOf scopePciEndpoint 7]]

theorem threeRegions_length : threeRegionsMemory.readLe 0x1004 4 =
    48 + total DmarStructure.length threeRegionsStructures := by decide +kernel

theorem threeRegions_stored :
    ∀ entry ∈ placed DmarStructure.length 0x1030 threeRegionsStructures,
      entry.2.StoredAt threeRegionsMemory entry.1 := by
  simp only [threeRegionsStructures, placed, List.forall_mem_cons, List.not_mem_nil,
    false_implies, implies_true, and_true]
  refine ⟨⟨by decide, by decide +kernel, by decide +kernel, by decide +kernel,
      by decide +kernel, by decide +kernel, ?_⟩,
    ⟨by decide, by decide +kernel, by decide +kernel, by decide +kernel, by decide +kernel,
      by decide +kernel, ?_⟩,
    ⟨by decide, by decide +kernel, by decide +kernel, by decide +kernel, by decide +kernel,
      by decide +kernel, ?_⟩,
    ⟨by decide, by decide +kernel, by decide +kernel, by decide +kernel, by decide +kernel,
      by decide +kernel, ?_⟩⟩
  all_goals
    simp only [ScopesAt, placed, List.forall_mem_cons, List.not_mem_nil, false_implies,
      implies_true, and_true]
  · exact scopeOf_stored (by decide +kernel)
  · exact ⟨scopeOf_stored (by decide +kernel), scopeOf_stored (by decide +kernel)⟩
  · exact ⟨scopeOf_stored (by decide +kernel), scopeOf_stored (by decide +kernel),
      scopeOf_stored (by decide +kernel)⟩
  · exact scopeOf_stored (by decide +kernel)

def threeRegions : DmarTable where
  memory := threeRegionsMemory
  address := 0x1000
  notNull := Memory.secondPage_ne_null
  structures := threeRegionsStructures
  length := threeRegions_length
  stored := threeRegions_stored

theorem namesDevices_threeRegions : threeRegions.NamesDevices := by
  intro reservation listed _
  have all : ∀ reservation ∈ threeRegions.reservations, reservation.scope.path ≠ [] := by decide
  exact all reservation listed

/-- Of six scopes the first three are in front of the bridge. -/
theorem dumpRmrrRecord_threeRegions :
    ∃ state status,
      parseDmarAcpiTableRmrr (fun _ => 0xFF) threeRegions.memory (fun _ => true) 144
          threeRegions.address ⟨[], 0⟩ = some (state, status) ∧
        dumpRmrrRecord state =
          ((threeRegions.reservations.takeWhile Reservation.isEndpoint).map
            (Reservation.record fun _ => 0xFF)).reverse ∧
        (status = .success ↔
          ∀ reservation ∈ threeRegions.reservations, reservation.isEndpoint = true) :=
  dumpRmrrRecord_parsed threeRegions namesDevices_threeRegions (fun _ => 0xFF) (fun _ => true)
    (fun _ => rfl) 144 (by decide)

end AppEfi.Vtd
