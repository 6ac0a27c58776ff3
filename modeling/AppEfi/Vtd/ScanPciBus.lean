import Mathlib.Data.Fintype.EquivFin
import AppEfi.Lib.DepthFirst
import AppEfi.Vtd.ProcessDhrd

/-!
# The scan of a PCI bus

`ScanPciBus` as a depth-first visit of the buses behind bridges.  It has no visited
set and does not compare bus numbers, so it ends on a configuration space exactly
where no bridge that it reaches leads back to a bus on the way to it.
-/

set_option autoImplicit false

namespace AppEfi.Vtd

open DepthFirst

structure PciFunction where
  bus : UInt8
  device : UInt8
  function : UInt8
  deriving DecidableEq, Repr

section Functions

variable (config : Memory) (segment : UInt16)

def PciFunction.Present (f : PciFunction) : Prop :=
  ¬ (pciSegmentRead16 config segment f.bus f.device f.function pciVendorIdOffset = 0xFFFF ∧
    pciSegmentRead16 config segment f.bus f.device f.function pciDeviceIdOffset = 0xFFFF)

instance (f : PciFunction) : Decidable (f.Present config segment) :=
  inferInstanceAs (Decidable (¬ _))

/-- The bus behind a bridge whose secondary bus is assigned. -/
def PciFunction.child (f : PciFunction) : Option UInt8 :=
  if isPciBridge config segment f.bus f.device f.function ∧
      secondaryBusNumber config segment f.bus f.device f.function ≠ 0 then
    some (secondaryBusNumber config segment f.bus f.device f.function)
  else none

/-- The present ones among `count` functions of a device. -/
def functionsFrom (bus device : UInt8) : Nat → UInt8 → List PciFunction
  | 0, _ => []
  | count + 1, function =>
      (if PciFunction.Present config segment ⟨bus, device, function⟩ then
        [⟨bus, device, function⟩] else []) ++ functionsFrom bus device count (function + 1)

/-- The number of functions that the scan looks for. -/
def maxFunction (bus device : UInt8) : Nat :=
  if pciSegmentRead8 config segment bus device 0 pciHeaderTypeOffset &&&
      headerTypeMultiFunction = 0 then 1
  else pciMaxFunc + 1

def devicesFrom (bus : UInt8) : Nat → UInt8 → List PciFunction
  | 0, _ => []
  | count + 1, device =>
      functionsFrom config segment bus device (maxFunction config segment bus device) 0 ++
        devicesFrom bus count (device + 1)

/-- The functions of a bus that the scan finds. -/
def busFunctions (bus : UInt8) : List PciFunction :=
  devicesFrom config segment bus (pciMaxDevice + 1) 0

/-- The functions that the scan of a bus finds, those behind a bridge after it. -/
def busVisit : Nat → UInt8 → Option (List PciFunction) :=
  visit (busFunctions config segment) (PciFunction.child config segment)

end Functions

section Calls

variable {State : Type} (callback : State → UInt8 → UInt8 → UInt8 → State × EfiStatus)

/-- The callback for one function after the other, up to the first error. -/
def callInOrder : List PciFunction → State → Outcome State
  | [], state => .success state
  | f :: rest, state =>
      Outcome.andThen (some (callback state f.bus f.device f.function)) (callInOrder rest)

variable (config : Memory) (segment : UInt16) (scan : UInt8 → State → Outcome State)

/-- The callback for each function, and `scan` for the bus behind it. -/
def scanList : List PciFunction → State → Outcome State
  | [], state => .success state
  | f :: rest, state =>
      ((Outcome.andThen (some (callback state f.bus f.device f.function))
        fun state => (f.child config segment).elim (.success state) (scan · state)).andThen
        (scanList rest))

end Calls

theorem Outcome.andThen_assoc {State : Type} (first : Outcome State)
    (second third : State → Outcome State) :
    (first.andThen second).andThen third =
      first.andThen fun state => (second state).andThen third := by
  cases first with
  | none => rfl
  | some result =>
      obtain ⟨state, status⟩ := result
      cases status <;> rfl

theorem Outcome.andThen_success {State : Type} (first : Outcome State) :
    first.andThen .success = first := by
  cases first with
  | none => rfl
  | some result =>
      obtain ⟨state, status⟩ := result
      cases status <;> rfl

section Unfold

variable {State : Type} {callback : State → UInt8 → UInt8 → UInt8 → State × EfiStatus}
variable {config : Memory} {segment : UInt16} {scan : UInt8 → State → Outcome State}

theorem callInOrder_append (first second : List PciFunction) (state : State) :
    callInOrder callback (first ++ second) state =
      (callInOrder callback first state).andThen (callInOrder callback second) := by
  induction first generalizing state with
  | nil => rfl
  | cons f rest ih =>
      have step : callInOrder callback (rest ++ second) =
          fun state => (callInOrder callback rest state).andThen (callInOrder callback second) :=
        funext ih
      rw [List.cons_append, callInOrder, callInOrder, step, Outcome.andThen_assoc]

theorem scanList_append (first second : List PciFunction) (state : State) :
    scanList callback config segment scan (first ++ second) state =
      (scanList callback config segment scan first state).andThen
        (scanList callback config segment scan second) := by
  induction first generalizing state with
  | nil => rfl
  | cons f rest ih =>
      have step : scanList callback config segment scan (rest ++ second) = fun state =>
          (scanList callback config segment scan rest state).andThen
            (scanList callback config segment scan second) := funext ih
      rw [List.cons_append, scanList, scanList, step]
      simp only [Outcome.andThen_assoc]

theorem scanFunction_eq (bus device function : UInt8) (state : State) :
    scanFunction config segment callback scan bus device function state =
      scanList callback config segment scan
        (if PciFunction.Present config segment ⟨bus, device, function⟩ then
          [⟨bus, device, function⟩] else []) state := by
  by_cases present : PciFunction.Present config segment ⟨bus, device, function⟩
  · rw [if_pos present, scanFunction, if_neg present, scanList]
    change _ = Outcome.andThen _ .success
    rw [Outcome.andThen_success]
    congr 1
    funext state
    rw [PciFunction.child]
    split <;> rfl
  · rw [if_neg present, scanFunction, if_pos (not_not.mp present)]
    rfl

theorem scanFunctions_eq (bus device : UInt8) (count : Nat) (function : UInt8) (state : State) :
    scanFunctions config segment callback scan bus device count function state =
      scanList callback config segment scan
        (functionsFrom config segment bus device count function) state := by
  induction count generalizing function state with
  | zero => rfl
  | succ count ih =>
      rw [scanFunctions, functionsFrom, scanList_append, scanFunction_eq]
      congr 1
      funext state
      exact ih (function + 1) state

theorem scanDevices_eq (bus : UInt8) (count : Nat) (device : UInt8) (state : State) :
    scanDevices config segment callback scan bus count device state =
      scanList callback config segment scan (devicesFrom config segment bus count device)
        state := by
  induction count generalizing device state with
  | zero => rfl
  | succ count ih =>
      rw [scanDevices, devicesFrom, scanList_append, scanFunctions_eq]
      congr 1
      funext state
      exact ih (device + 1) state

theorem scanPciBus_succ (fuel : Nat) (bus : UInt8) (state : State) :
    scanPciBus config segment callback (fuel + 1) bus state =
      scanList callback config segment (scanPciBus config segment callback fuel)
        (busFunctions config segment bus) state :=
  scanDevices_eq bus _ 0 state

/-! ## The scan along a visit -/

theorem scanList_of_visit
    {visit : UInt8 → Option (List PciFunction)} {list all : List PciFunction} (state : State)
    (follows : ∀ bus below state, visit bus = some below →
      scan bus state = callInOrder callback below state)
    (visited : visitItems (PciFunction.child config segment) visit list = some all) :
    scanList callback config segment scan list state = callInOrder callback all state := by
  induction list generalizing all state with
  | nil =>
      cases visited
      rfl
  | cons f rest ih =>
      obtain ⟨below, after, first, second, rfl⟩ := visitItems_cons_eq_some.mp visited
      have descent : ∀ state, (f.child config segment).elim (.success state) (scan · state) =
          callInOrder callback below state := by
        intro state
        cases child : f.child config segment with
        | none =>
            rw [child] at first
            cases first
            rfl
        | some bus =>
            rw [child] at first
            exact follows bus below state first
      have later : scanList callback config segment scan rest = callInOrder callback after :=
        funext fun state => ih state second
      rw [scanList, later, funext descent, callInOrder_append, callInOrder]

/-- Where the visit ends, the scan calls back for what it lists. -/
theorem scanPciBus_of_visit {fuel : Nat} {bus : UInt8} {calls : List PciFunction}
    (visited : busVisit config segment fuel bus = some calls) (state : State) :
    scanPciBus config segment callback fuel bus state = callInOrder callback calls state := by
  induction fuel generalizing bus calls state with
  | zero => cases visited
  | succ fuel ih =>
      rw [scanPciBus_succ]
      exact scanList_of_visit state (fun _ _ state visited => ih visited state) visited

theorem exists_callInOrder (callback : State → UInt8 → UInt8 → UInt8 → State × EfiStatus)
    (calls : List PciFunction) (state : State) :
    ∃ result, callInOrder callback calls state = some result := by
  induction calls generalizing state with
  | nil => exact ⟨_, rfl⟩
  | cons f rest ih =>
      rw [callInOrder]
      generalize callback state f.bus f.device f.function = result
      obtain ⟨after, status⟩ := result
      cases status with
      | success => exact ih after
      | outOfResources => exact ⟨_, rfl⟩
      | alreadyStarted => exact ⟨_, rfl⟩
      | deviceError => exact ⟨_, rfl⟩

theorem callInOrder_of_success
    (succeeds : ∀ state bus device function, (callback state bus device function).2 = .success)
    (calls : List PciFunction) (state : State) :
    ∃ after, callInOrder callback calls state = .success after := by
  induction calls generalizing state with
  | nil => exact ⟨state, rfl⟩
  | cons f rest ih =>
      obtain ⟨after, done⟩ := ih (callback state f.bus f.device f.function).1
      refine ⟨after, ?_⟩
      have step : callback state f.bus f.device f.function =
          ((callback state f.bus f.device f.function).1, .success) :=
        Prod.ext rfl (succeeds state f.bus f.device f.function)
      rw [callInOrder, step]
      exact done

theorem visitItems_of_scanList
    (succeeds : ∀ state bus device function, (callback state bus device function).2 = .success)
    {visit : UInt8 → Option (List PciFunction)} {list : List PciFunction} {state : State}
    {result : State × EfiStatus}
    (follows : ∀ bus below state, visit bus = some below →
      scan bus state = callInOrder callback below state)
    (ends : ∀ bus state result, scan bus state = some result → ∃ below, visit bus = some below)
    (run : scanList callback config segment scan list state = some result) :
    ∃ all, visitItems (PciFunction.child config segment) visit list = some all := by
  induction list generalizing state with
  | nil => exact ⟨[], rfl⟩
  | cons f rest ih =>
      have step : callback state f.bus f.device f.function =
          ((callback state f.bus f.device f.function).1, .success) :=
        Prod.ext rfl (succeeds state f.bus f.device f.function)
      rw [scanList, step] at run
      change Outcome.andThen ((f.child config segment).elim _ _) _ = some result at run
      cases child : f.child config segment with
      | none =>
          rw [child] at run
          obtain ⟨after, second⟩ := ih run
          exact ⟨_, visitItems_cons_eq_some.mpr ⟨[], after, by rw [child]; rfl, second, rfl⟩⟩
      | some bus =>
          rw [child, Option.elim_some] at run
          cases descent : scan bus (callback state f.bus f.device f.function).1 with
          | none =>
              rw [descent] at run
              cases run
          | some inner =>
              obtain ⟨below, first⟩ := ends bus _ inner descent
              obtain ⟨middle, done⟩ := callInOrder_of_success succeeds below
                (callback state f.bus f.device f.function).1
              rw [follows bus below _ first, done] at run
              obtain ⟨after, second⟩ := ih run
              exact ⟨_, visitItems_cons_eq_some.mpr
                ⟨below, after, by rw [child]; exact first, second, rfl⟩⟩

/-- A callback that never fails makes the scan go through the whole visit. -/
theorem visit_of_scanPciBus
    (succeeds : ∀ state bus device function, (callback state bus device function).2 = .success)
    {fuel : Nat} {bus : UInt8} {state : State} {result : State × EfiStatus}
    (run : scanPciBus config segment callback fuel bus state = some result) :
    ∃ calls, busVisit config segment fuel bus = some calls := by
  induction fuel generalizing bus state result with
  | zero => cases run
  | succ fuel ih =>
      rw [scanPciBus_succ] at run
      exact visitItems_of_scanList succeeds
        (fun _ _ state visited => scanPciBus_of_visit visited state)
        (fun _ _ _ run => ih run) run

end Unfold

/-! ## Termination -/

section Termination

variable (config : Memory) (segment : UInt16)

/-- No bridge that the scan of the bus reaches leads back to a bus on the way to it. -/
def ScanLoopFree (root : UInt8) : Prop :=
  LoopFree (busFunctions config segment) (PciFunction.child config segment) root

variable {config segment}

instance finite_uint8 : Finite UInt8 :=
  Finite.of_injective UInt8.toFin fun _ _ same => UInt8.toFin_inj.mp same

theorem ScanLoopFree.exists_visit {root : UInt8} (free : ScanLoopFree config segment root) :
    ∃ fuel calls, busVisit config segment fuel root = some calls :=
  exists_visit_iff.mpr free

theorem scanLoopFree_of_scanPciBus {State : Type}
    {callback : State → UInt8 → UInt8 → UInt8 → State × EfiStatus}
    (succeeds : ∀ state bus device function, (callback state bus device function).2 = .success)
    {fuel : Nat} {root : UInt8} {state : State} {result : State × EfiStatus}
    (run : scanPciBus config segment callback fuel root state = some result) :
    ScanLoopFree config segment root :=
  exists_visit_iff.mp ⟨fuel, visit_of_scanPciBus succeeds run⟩

/-- `ScanPciBus` ends whatever the callback does exactly when no bridge that it reaches
leads back to a bus on the way to it. -/
theorem scanPciBus_returns_iff (config : Memory) (segment : UInt16) (root : UInt8) :
    (∀ (State : Type) (callback : State → UInt8 → UInt8 → UInt8 → State × EfiStatus)
        (state : State), ∃ fuel result,
          scanPciBus config segment callback fuel root state = some result) ↔
      ScanLoopFree config segment root := by
  constructor
  · intro returns
    obtain ⟨fuel, result, run⟩ := returns Unit (fun _ _ _ _ => ((), .success)) ()
    exact scanLoopFree_of_scanPciBus (fun _ _ _ _ => rfl) run
  · intro free State callback state
    obtain ⟨fuel, calls, visited⟩ := free.exists_visit
    obtain ⟨result, done⟩ := exists_callInOrder callback calls state
    exact ⟨fuel, result, (scanPciBus_of_visit visited state).trans done⟩

end Termination

/-! ## The functions of a bus -/

section BusFunctions

variable {config : Memory} {segment : UInt16}

theorem maxFunction_lt (bus device : UInt8) :
    (0 : UInt8).toNat + maxFunction config segment bus device < 2 ^ 8 := by
  unfold maxFunction
  split <;> decide

theorem toNat_succ (byte : UInt8) (fits : byte.toNat + 1 < 2 ^ 8) :
    (byte + 1).toNat = byte.toNat + 1 := by
  rw [UInt8.toNat_add]
  exact Nat.mod_eq_of_lt fits

theorem mem_functionsFrom {bus device : UInt8} {f : PciFunction} (count : Nat) (start : UInt8)
    (fits : start.toNat + count < 2 ^ 8) :
    f ∈ functionsFrom config segment bus device count start ↔
      f.Present config segment ∧ f.bus = bus ∧ f.device = device ∧
        start.toNat ≤ f.function.toNat ∧ f.function.toNat < start.toNat + count := by
  induction count generalizing start with
  | zero =>
      simp only [functionsFrom, List.not_mem_nil, false_iff]
      omega
  | succ count ih =>
      have next := toNat_succ start (by omega)
      have own : f ∈ (if PciFunction.Present config segment ⟨bus, device, start⟩ then
          [(⟨bus, device, start⟩ : PciFunction)] else []) ↔
          f.Present config segment ∧ f.bus = bus ∧ f.device = device ∧ f.function = start := by
        obtain ⟨fBus, fDevice, fFunction⟩ := f
        split
        · rename_i present
          simp only [List.mem_singleton, PciFunction.mk.injEq]
          constructor
          · rintro ⟨rfl, rfl, rfl⟩
            exact ⟨present, rfl, rfl, rfl⟩
          · exact fun located => located.2
        · rename_i absent
          simp only [List.not_mem_nil, false_iff]
          rintro ⟨present, rfl, rfl, rfl⟩
          exact absent present
      rw [functionsFrom, List.mem_append, own, ih (start + 1) (by omega), next]
      constructor
      · rintro (⟨present, inBus, inDevice, same⟩ | ⟨present, inBus, inDevice, low, high⟩)
        · rw [same]
          exact ⟨present, inBus, inDevice, by omega, by omega⟩
        · exact ⟨present, inBus, inDevice, by omega, by omega⟩
      · rintro ⟨present, inBus, inDevice, low, high⟩
        by_cases same : f.function.toNat = start.toNat
        · exact Or.inl ⟨present, inBus, inDevice, UInt8.toNat_inj.mp same⟩
        · exact Or.inr ⟨present, inBus, inDevice, by omega, by omega⟩

theorem nodup_functionsFrom {bus device : UInt8} (count : Nat) (start : UInt8)
    (fits : start.toNat + count < 2 ^ 8) :
    (functionsFrom config segment bus device count start).Nodup := by
  induction count generalizing start with
  | zero => exact List.nodup_nil
  | succ count ih =>
      have next := toNat_succ start (by omega)
      rw [functionsFrom]
      split
      · rw [List.singleton_append, List.nodup_cons]
        refine ⟨?_, ih (start + 1) (by omega)⟩
        rw [mem_functionsFrom count (start + 1) (by omega), next]
        rintro ⟨-, -, -, low, -⟩
        exact absurd low (by simp)
      · exact ih (start + 1) (by omega)

theorem mem_devicesFrom {bus : UInt8} {f : PciFunction} (count : Nat) (start : UInt8)
    (fits : start.toNat + count < 2 ^ 8) :
    f ∈ devicesFrom config segment bus count start ↔
      f.Present config segment ∧ f.bus = bus ∧ start.toNat ≤ f.device.toNat ∧
        f.device.toNat < start.toNat + count ∧
        f.function.toNat < maxFunction config segment bus f.device := by
  induction count generalizing start with
  | zero =>
      simp only [devicesFrom, List.not_mem_nil, false_iff]
      omega
  | succ count ih =>
      have next := toNat_succ start (by omega)
      have own : f ∈ functionsFrom config segment bus start
          (maxFunction config segment bus start) 0 ↔ _ :=
        mem_functionsFrom _ 0 (maxFunction_lt _ _)
      rw [devicesFrom, List.mem_append, own, ih (start + 1) (by omega), next]
      constructor
      · rintro (⟨present, inBus, same, -, high⟩ | ⟨present, inBus, low, high, inside⟩)
        · subst same
          exact ⟨present, inBus, Nat.le_refl _, by omega, by simpa using high⟩
        · exact ⟨present, inBus, by omega, by omega, inside⟩
      · rintro ⟨present, inBus, low, high, inside⟩
        by_cases same : f.device.toNat = start.toNat
        · have device := UInt8.toNat_inj.mp same
          rw [device] at inside
          exact Or.inl ⟨present, inBus, device, Nat.zero_le _, by simpa using inside⟩
        · exact Or.inr ⟨present, inBus, by omega, by omega, inside⟩

theorem nodup_devicesFrom {bus : UInt8} (count : Nat) (start : UInt8)
    (fits : start.toNat + count < 2 ^ 8) :
    (devicesFrom config segment bus count start).Nodup := by
  induction count generalizing start with
  | zero => exact List.nodup_nil
  | succ count ih =>
      have next := toNat_succ start (by omega)
      rw [devicesFrom]
      refine List.Nodup.append (nodup_functionsFrom _ 0 (maxFunction_lt _ _))
        (ih (start + 1) (by omega)) ?_
      intro f inDevice later
      have same := ((mem_functionsFrom _ 0 (maxFunction_lt _ _)).mp inDevice).2.2.1
      have low := ((mem_devicesFrom count (start + 1) (by omega)).mp later).2.2.1
      rw [next, same] at low
      exact absurd low (by simp)

theorem mem_busFunctions {bus : UInt8} {f : PciFunction} :
    f ∈ busFunctions config segment bus ↔
      f.Present config segment ∧ f.bus = bus ∧ f.device.toNat ≤ pciMaxDevice ∧
        f.function.toNat < maxFunction config segment bus f.device := by
  rw [busFunctions, mem_devicesFrom _ 0 (by decide)]
  simp only [UInt8.toNat_zero, Nat.zero_le, true_and, Nat.zero_add, Nat.lt_succ_iff]

theorem nodup_busFunctions (bus : UInt8) : (busFunctions config segment bus).Nodup :=
  nodup_devicesFrom _ 0 (by decide)

end BusFunctions

/-- Every function is a bridge to bus 1. -/
def bridgesToBus1 : Memory := fun address =>
  if address % 2 ^ 12 = 0x0A then pciClassBridgeP2p
  else if address % 2 ^ 12 = 0x0B then pciClassBridge
  else if address % 2 ^ 12 = 0x19 then 1
  else 0

theorem registerPciDevice_status (config : Memory) (units : VtdUnits) (vtdIndex : Nat)
    (segment : UInt16) (sourceId : SourceId) (deviceType : UInt8) :
    (registerPciDevice config units true vtdIndex segment sourceId deviceType false).2 =
      .success := by
  unfold registerPciDevice reallocate
  dsimp only
  split
  · rfl
  · split
    · rfl
    · split
      · rename_i room
        split at room <;> cases room
      · rfl

/-- The scan for a unit with INCLUDE_PCI_ALL is never done with bus 1 behind bus 1. -/
theorem scanPciBus_bridgesToBus1 :
    ¬ ∃ fuel result, scanAndRegister bridgesToBus1 (fun _ => true) fuel 0 0 0
      ⟨fun _ => zeroUnit, 0⟩ = some result := by
  rintro ⟨fuel, result, run⟩
  have succeeds : ∀ state bus device function,
      (scanBusCallbackRegisterPciDevice bridgesToBus1 (fun _ => true) 0 0 state bus device
        function).2 = .success :=
    fun _ _ _ _ => registerPciDevice_status _ _ _ _ _ _
  have free : ScanLoopFree bridgesToBus1 0 0 := scanLoopFree_of_scanPciBus succeeds run
  have from0 : Leads (busFunctions bridgesToBus1 0) (PciFunction.child bridgesToBus1 0) 0 1 :=
    ⟨⟨0, 0, 0⟩, mem_busFunctions.mpr (by decide +kernel), by decide +kernel⟩
  have from1 : Leads (busFunctions bridgesToBus1 0) (PciFunction.child bridgesToBus1 0) 1 1 :=
    ⟨⟨1, 0, 0⟩, mem_busFunctions.mpr (by decide +kernel), by decide +kernel⟩
  exact free ⟨1, Relation.ReflTransGen.single from0, Relation.TransGen.single from1⟩

/-! ## Tree-shaped topologies -/

section Tree

variable (config : Memory) (segment : UInt16)

def PciFunction.Exists (f : PciFunction) : Prop :=
  f.device.toNat ≤ pciMaxDevice ∧ f.function.toNat ≤ pciMaxFunc ∧ f.Present config segment

def BusLeadsTo (bus next : UInt8) : Prop :=
  ∃ f : PciFunction, f.Exists config segment ∧ f.bus = bus ∧ f.child config segment = some next

/-- A function of the bus or of a bus behind bridges. -/
def PciFunction.ReachableFrom (root : UInt8) (f : PciFunction) : Prop :=
  f.Exists config segment ∧ Relation.ReflTransGen (BusLeadsTo config segment) root f.bus

/-- Every bus other than the root is behind one bridge, and a device whose
multi-function bit is clear has no function but function 0. -/
structure TreeTopology (root : UInt8) : Prop where
  bridge : ∀ f g : PciFunction, ∀ next, f.Exists config segment → g.Exists config segment →
    f.child config segment = some next → g.child config segment = some next → f = g
  root : ∀ f : PciFunction, f.Exists config segment → f.child config segment ≠ some root
  singleFunction : ∀ f : PciFunction, f.Exists config segment →
    pciSegmentRead8 config segment f.bus f.device 0 pciHeaderTypeOffset &&&
      headerTypeMultiFunction = 0 → f.function = 0

end Tree

section Tree

variable {config : Memory} {segment : UInt16} {root : UInt8}

theorem exists_of_mem_busFunctions {bus : UInt8} {f : PciFunction}
    (listed : f ∈ busFunctions config segment bus) : f.Exists config segment := by
  obtain ⟨present, -, device, function⟩ := mem_busFunctions.mp listed
  refine ⟨device, ?_, present⟩
  unfold maxFunction at function
  split at function
  · omega
  · exact Nat.lt_succ_iff.mp function

theorem TreeTopology.mem_busFunctions (tree : TreeTopology config segment root) {bus : UInt8}
    {f : PciFunction} :
    f ∈ busFunctions config segment bus ↔ f.Exists config segment ∧ f.bus = bus := by
  constructor
  · intro listed
    exact ⟨exists_of_mem_busFunctions listed, (Vtd.mem_busFunctions.mp listed).2.1⟩
  · rintro ⟨exists_, rfl⟩
    refine Vtd.mem_busFunctions.mpr ⟨exists_.2.2, rfl, exists_.1, ?_⟩
    unfold maxFunction
    split
    · rename_i single
      rw [tree.singleFunction f exists_ single]
      decide
    · exact Nat.lt_succ_iff.mpr exists_.2.1

theorem TreeTopology.leads_iff (tree : TreeTopology config segment root) {bus next : UInt8} :
    Leads (busFunctions config segment) (PciFunction.child config segment) bus next ↔
      BusLeadsTo config segment bus next := by
  simp only [Leads, BusLeadsTo, tree.mem_busFunctions, and_assoc]

theorem TreeTopology.branching (tree : TreeTopology config segment root) :
    Branching (busFunctions config segment) (PciFunction.child config segment) where
  nodup := nodup_busFunctions
  owner := by
    intro bus other f listed also
    rw [← (tree.mem_busFunctions.mp listed).2, ← (tree.mem_busFunctions.mp also).2]
  parent := by
    intro bus other f g next listed also descent twinDescent
    exact tree.bridge f g next (tree.mem_busFunctions.mp listed).1
      (tree.mem_busFunctions.mp also).1 descent twinDescent

theorem TreeTopology.scanLoopFree (tree : TreeTopology config segment root) :
    ScanLoopFree config segment root := by
  refine tree.branching.loopFree fun bus leads => ?_
  obtain ⟨f, listed, descent⟩ := leads
  exact tree.root f (exists_of_mem_busFunctions listed) descent

end Tree

/-- The number of a function among those of its segment. -/
def PciFunction.number (f : PciFunction) : Nat :=
  f.bus.toNat * 2 ^ 8 + f.device.toNat * 2 ^ 3 + f.function.toNat

/-- Where the pages of the other functions read as ones, only `numbers` can exist. -/
theorem PciFunction.Exists.number_mem {config : Memory} {numbers : List Nat}
    (others : ∀ address, address / 2 ^ 12 ∉ numbers → config address = 0xFF)
    {f : PciFunction} (exists_ : f.Exists config 0) : f.number ∈ numbers := by
  obtain ⟨device, function, present⟩ := exists_
  by_contra other
  have ones : ∀ register < 2 ^ 12, config
      (pciSegmentLibAddress 0 f.bus.toNat f.device.toNat f.function.toNat register) = 0xFF := by
    intro register bound
    have busBound := f.bus.toNat_lt
    unfold pciMaxDevice at device
    unfold pciMaxFunc at function
    have page : pciSegmentLibAddress 0 f.bus.toNat f.device.toNat f.function.toNat register /
        2 ^ 12 = f.number := by
      simp only [pciSegmentLibAddress, PciFunction.number, UInt16.toNat_zero]
      omega
    exact others _ (page ▸ other)
  have word : ∀ register < 2 ^ 12 - 1,
      pciSegmentRead16 config 0 f.bus f.device f.function register = 0xFFFF := by
    intro register bound
    have next : pciSegmentLibAddress 0 f.bus.toNat f.device.toNat f.function.toNat register + 1 =
        pciSegmentLibAddress 0 f.bus.toNat f.device.toNat f.function.toNat (register + 1) := by
      simp only [pciSegmentLibAddress]
      omega
    simp only [pciSegmentRead16, Memory.readLe, Memory.bytesAt, next,
      ones register (by omega), ones (register + 1) (by omega)]
    rfl
  exact present ⟨word _ (by decide), word _ (by decide)⟩

/-- Device 1 of bus 0 is a bridge to bus 1, which has device 0. -/
def bridgeToBus1 : Memory := fun address =>
  if address / 2 ^ 12 = 8 then bridgesToBus1 address
  else if address / 2 ^ 12 = 256 then 0
  else 0xFF

theorem exists_bridgeToBus1 {f : PciFunction} (exists_ : f.Exists bridgeToBus1 0) :
    f = ⟨0, 1, 0⟩ ∨ f = ⟨1, 0, 0⟩ := by
  have number : f.number ∈ [8, 256] := exists_.number_mem fun address other => by
    rw [List.mem_cons, List.mem_singleton, not_or] at other
    rw [bridgeToBus1, if_neg other.1, if_neg other.2]
  have device := exists_.1
  have function := exists_.2.1
  obtain ⟨bus, device, function⟩ := f
  simp only [PciFunction.number, pciMaxDevice, pciMaxFunc, List.mem_cons, List.not_mem_nil,
    or_false] at *
  simp only [PciFunction.mk.injEq, ← UInt8.toNat_inj, UInt8.toNat_zero, UInt8.toNat_one]
  omega

theorem treeTopology_bridgeToBus1 : TreeTopology bridgeToBus1 0 0 := by
  have leaf : PciFunction.child bridgeToBus1 0 ⟨1, 0, 0⟩ = none := by decide +kernel
  refine ⟨?_, ?_, ?_⟩
  · intro f g next fExists gExists descent twinDescent
    rcases exists_bridgeToBus1 fExists with rfl | rfl
    · rcases exists_bridgeToBus1 gExists with rfl | rfl
      · rfl
      · rw [leaf] at twinDescent
        cases twinDescent
    · rw [leaf] at descent
      cases descent
  · intro f fExists
    rcases exists_bridgeToBus1 fExists with rfl | rfl
    · decide +kernel
    · decide +kernel
  · intro f fExists _
    rcases exists_bridgeToBus1 fExists with rfl | rfl <;> rfl

/-- The function behind the bridge is listed after it. -/
example : busVisit bridgeToBus1 0 3 0 = some [⟨0, 1, 0⟩, ⟨1, 0, 0⟩] := by decide +kernel

end AppEfi.Vtd
