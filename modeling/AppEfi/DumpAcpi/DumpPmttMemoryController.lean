import AppEfi.Lib.CountedWalk
import AppEfi.Lib.Memory

/-!
# Memory controllers of the PMTT

DumpPmttMemoryController with the DIMM devices behind its proximity domains.  The loop over
the proximity domains leaves its pointer where it is.  A UINTN has 8 bytes.
-/

set_option autoImplicit false

namespace AppEfi.DumpAcpi

open AppEfi.CountedWalk

inductive StructKind where
  | socket
  | memoryController
  | dimm
  | nativeCStateLpiState
  deriving DecidableEq, Repr

/-- What a dump does.  A structure is printed with its address and its Length. -/
inductive DumpEvent where
  | read (range : Range)
  | struct (kind : StructKind) (place : Range)
  | proximityDomain (value : Nat)
  deriving DecidableEq, Repr

namespace DumpEvent

def isStruct (kind : StructKind) : DumpEvent → Bool
  | .struct other _ => kind == other
  | _ => false

/-- What the dump of a memory controller reports of its contents. -/
def isContent : DumpEvent → Bool
  | .proximityDomain _ => true
  | .struct kind _ => kind == .dimm
  | .read _ => false

def Inside (outer : Range) : DumpEvent → Prop
  | .read range => range.Inside outer
  | _ => True

def ReadsInside (outer : Range) (events : List DumpEvent) : Prop :=
  ∀ event ∈ events, event.Inside outer

end DumpEvent

section Fields

variable (memory : Memory)

/-- `Header.Length` of a device. -/
def deviceLength (device : Nat) : Nat := memory.readLe (device + 2) 2

def numberOfProximityDomains (controller : Nat) : Nat := memory.readLe (controller + 30) 2

end Fields

def dimmSize : Nat := 20

def memoryControllerSize : Nat := 32

section Dump

variable (memory : Memory)

def devicePlace (device : Nat) : Range := ⟨device, deviceLength memory device⟩

def dumpPmttDevice (device : Nat) : List DumpEvent :=
  [.read ⟨device, 1⟩, .read ⟨device + 2, 2⟩, .read ⟨device + 4, 2⟩]

def dumpPmttDimm (dimm : Nat) : List DumpEvent :=
  if dimm = 0 then []
  else
    .struct .dimm (devicePlace memory dimm) :: dumpPmttDevice dimm ++
      [.read ⟨dimm + 8, 2⟩, .read ⟨dimm + 12, 4⟩, .read ⟨dimm + 16, 4⟩]

/-- The loop over the proximity domains: nothing moves `proximityDomain`. -/
def dumpProximityDomains (proximityDomain : Nat) : Nat → List DumpEvent
  | 0 => []
  | count + 1 =>
      .read ⟨proximityDomain, 4⟩ :: .proximityDomain (memory.readLe proximityDomain 4) ::
        dumpProximityDomains proximityDomain count

def dimmsOffset (controller : Nat) : Nat :=
  memoryControllerSize + 4 * numberOfProximityDomains memory controller

def memoryControllerLen (controller : Nat) : Int :=
  (deviceLength memory controller : Int) - dimmsOffset memory controller

/-- A turn of the loop over the DIMM devices. -/
def dimmTurn (dimm : Nat) : List DumpEvent := dumpPmttDimm memory dimm ++ [.read ⟨dimm + 2, 2⟩]

def dumpDimms (fuel controller : Nat) : Option (List DumpEvent) :=
  walkItems (deviceLength memory) (fun _ dimm => deviceLength memory dimm)
    (fun dimm => some (dimmTurn memory dimm)) fuel
    (controller + dimmsOffset memory controller) (memoryControllerLen memory controller) 0

/-- What is done before the loop over the DIMM devices. -/
def dumpControllerFields (controller : Nat) : List DumpEvent :=
  .struct .memoryController (devicePlace memory controller) :: dumpPmttDevice controller ++
    [.read ⟨controller + 8, 4⟩, .read ⟨controller + 12, 4⟩, .read ⟨controller + 16, 4⟩,
      .read ⟨controller + 20, 4⟩, .read ⟨controller + 24, 2⟩, .read ⟨controller + 26, 2⟩,
      .read ⟨controller + 30, 2⟩] ++
    dumpProximityDomains memory (controller + memoryControllerSize)
      (numberOfProximityDomains memory controller)

def dumpPmttMemoryController (fuel controller : Nat) : Option (List DumpEvent) :=
  if controller = 0 then some []
  else (dumpDimms memory fuel controller).map (dumpControllerFields memory controller ++ ·)

end Dump

/-! ## Single devices -/

section Devices

variable {memory : Memory}

theorem filter_dumpProximityDomains (proximityDomain count : Nat) :
    (dumpProximityDomains memory proximityDomain count).filter DumpEvent.isContent =
      List.replicate count (.proximityDomain (memory.readLe proximityDomain 4)) := by
  induction count with
  | zero => rfl
  | succ count ih =>
      rw [dumpProximityDomains, List.replicate_succ, ← ih]
      rfl

theorem filter_isStruct_dumpProximityDomains (kind : StructKind) (proximityDomain count : Nat) :
    (dumpProximityDomains memory proximityDomain count).filter (DumpEvent.isStruct kind) = [] := by
  induction count with
  | zero => rfl
  | succ count ih =>
      rw [dumpProximityDomains]
      exact ih

theorem readsInside_dumpProximityDomains {proximityDomain count : Nat} {outer : Range}
    (inside : 0 < count → Range.Inside ⟨proximityDomain, 4⟩ outer) :
    DumpEvent.ReadsInside outer (dumpProximityDomains memory proximityDomain count) := by
  induction count with
  | zero => exact List.forall_mem_nil _
  | succ count ih =>
      have here := inside count.succ_pos
      rw [DumpEvent.ReadsInside, dumpProximityDomains, List.forall_mem_cons, List.forall_mem_cons]
      exact ⟨here, trivial, ih fun _ => here⟩

theorem filter_dimmTurn {dimm : Nat} (notNull : dimm ≠ 0) :
    (dimmTurn memory dimm).filter DumpEvent.isContent =
      [.struct .dimm (devicePlace memory dimm)] := by
  rw [dimmTurn, dumpPmttDimm, if_neg notNull]
  rfl

theorem filter_isStruct_dimmTurn (dimm : Nat) :
    (dimmTurn memory dimm).filter (DumpEvent.isStruct .memoryController) = [] := by
  rw [dimmTurn, dumpPmttDimm]
  split
  · rfl
  · rfl

theorem readsInside_dimmTurn {dimm : Nat} {outer : Range} (above : outer.start ≤ dimm)
    (below : dimm + dimmSize ≤ outer.start + outer.length) :
    DumpEvent.ReadsInside outer (dimmTurn memory dimm) := by
  rw [dimmSize] at below
  rw [DumpEvent.ReadsInside, dimmTurn, dumpPmttDimm]
  split
  · simp only [List.nil_append, List.forall_mem_singleton, DumpEvent.Inside, Range.Inside]
    omega
  · simp only [dumpPmttDevice, List.cons_append, List.nil_append, List.forall_mem_cons,
      List.not_mem_nil, false_implies, implies_true, true_and, and_true, DumpEvent.Inside,
      Range.Inside]
    omega

theorem filter_dumpControllerFields (controller : Nat) :
    (dumpControllerFields memory controller).filter DumpEvent.isContent =
      List.replicate (numberOfProximityDomains memory controller)
        (.proximityDomain (memory.readLe (controller + memoryControllerSize) 4)) := by
  rw [dumpControllerFields, List.filter_append, filter_dumpProximityDomains]
  rfl

theorem filter_isStruct_dumpControllerFields (controller : Nat) :
    (dumpControllerFields memory controller).filter (DumpEvent.isStruct .memoryController) =
      [.struct .memoryController (devicePlace memory controller)] := by
  rw [dumpControllerFields, List.filter_append, filter_isStruct_dumpProximityDomains]
  rfl

theorem readsInside_dumpControllerFields {controller : Nat} {outer : Range}
    (above : outer.start ≤ controller)
    (below : controller + dimmsOffset memory controller ≤ outer.start + outer.length) :
    DumpEvent.ReadsInside outer (dumpControllerFields memory controller) := by
  rw [dimmsOffset, memoryControllerSize] at below
  rw [DumpEvent.ReadsInside, dumpControllerFields, List.forall_mem_append]
  constructor
  · simp only [dumpPmttDevice, List.cons_append, List.nil_append, List.forall_mem_cons,
      List.not_mem_nil, false_implies, implies_true, true_and, and_true, DumpEvent.Inside,
      Range.Inside]
    omega
  · apply readsInside_dumpProximityDomains
    intro some
    simp only [Range.Inside, memoryControllerSize]
    omega

end Devices

/-! ## The whole structure -/

/-- The DIMM devices of a well-formed memory controller reach from its proximity domains to
its end. -/
def ControllerLaidOut (memory : Memory) (controller : Nat) (dimms : List Range) : Prop :=
  LaidOut (deviceLength memory) dimmSize (controller + dimmsOffset memory controller)
    (controller + deviceLength memory controller) dimms

section Walk

variable {memory : Memory} {controller : Nat} {dimms : List Range}

theorem dumpDimms_eq (fuel : Nat) :
    dumpDimms memory fuel controller =
      (visited (deviceLength memory) (fun _ dimm => deviceLength memory dimm) fuel
        (controller + dimmsOffset memory controller) (memoryControllerLen memory controller)
        0).map (List.flatMap (dimmTurn memory)) :=
  walkItems_some _ _ _ _ _

theorem exists_dumpDimms (laidOut : ControllerLaidOut memory controller dimms) :
    ∃ fuel, dumpDimms memory fuel controller =
      some ((dimms.map Range.start).flatMap (dimmTurn memory)) := by
  have counts : CountsOut (fun _ dimm => deviceLength memory dimm)
      (memoryControllerLen memory controller) 0 (dimms.map Range.start) := by
    refine laidOut.countsOut (by decide) (fun dimm listed _ => laidOut.lengths dimm listed) ?_ 0
    rw [memoryControllerLen]
    omega
  obtain ⟨fuel, comes⟩ := (exists_visited_iff laidOut _ 0).mpr counts
  exact ⟨fuel, by rw [dumpDimms_eq, comes, Option.map_some]⟩

/-- What the dump of a well-formed memory controller does. -/
def controllerEvents (memory : Memory) (controller : Nat) (dimms : List Range) :
    List DumpEvent :=
  dumpControllerFields memory controller ++
    (dimms.map Range.start).flatMap (dimmTurn memory)

theorem exists_dumpPmttMemoryController (notNull : controller ≠ 0)
    (laidOut : ControllerLaidOut memory controller dimms) :
    ∃ fuel, dumpPmttMemoryController memory fuel controller =
      some (controllerEvents memory controller dimms) := by
  obtain ⟨fuel, walk⟩ := exists_dumpDimms laidOut
  refine ⟨fuel, ?_⟩
  rw [dumpPmttMemoryController, if_neg notNull, walk, Option.map_some, controllerEvents]

theorem dumpPmttMemoryController_mono {fuel more : Nat} {events : List DumpEvent}
    (le : fuel ≤ more) (run : dumpPmttMemoryController memory fuel controller = some events) :
    dumpPmttMemoryController memory more controller = some events := by
  rw [dumpPmttMemoryController] at run ⊢
  split at run
  · rw [if_pos ‹_›, run]
  · rw [if_neg ‹_›]
    exact map_goesOn (fun _ walk => walkItems_mono (fun _ _ own => own) le walk) run

theorem dimm_notNull (laidOut : ControllerLaidOut memory controller dimms) :
    ∀ dimm ∈ dimms, dimm.start ≠ 0 := by
  intro dimm listed
  have above := (laidOut.inside dimm listed).1
  rw [dimmsOffset, memoryControllerSize] at above
  omega

theorem filter_controllerEvents (laidOut : ControllerLaidOut memory controller dimms) :
    (controllerEvents memory controller dimms).filter DumpEvent.isContent =
      List.replicate (numberOfProximityDomains memory controller)
        (.proximityDomain (memory.readLe (controller + memoryControllerSize) 4)) ++
      dimms.map (DumpEvent.struct .dimm) := by
  rw [controllerEvents, List.filter_append, filter_dumpControllerFields, List.filter_flatMap,
    List.flatMap_map, List.map_eq_flatMap]
  congr 1
  apply List.flatMap_congr
  intro dimm listed
  rw [filter_dimmTurn (dimm_notNull laidOut dimm listed), devicePlace,
    laidOut.lengths dimm listed]

theorem filter_isStruct_controllerEvents (dimms : List Range) :
    (controllerEvents memory controller dimms).filter (DumpEvent.isStruct .memoryController) =
      [.struct .memoryController (devicePlace memory controller)] := by
  have none : ((dimms.map Range.start).flatMap (dimmTurn memory)).filter
      (DumpEvent.isStruct .memoryController) = [] := by
    rw [List.filter_flatMap, List.flatMap_eq_nil_iff]
    intro dimm _
    exact filter_isStruct_dimmTurn dimm
  rw [controllerEvents, List.filter_append, filter_isStruct_dumpControllerFields, none,
    List.append_nil]

theorem readsInside_controllerEvents (laidOut : ControllerLaidOut memory controller dimms) :
    DumpEvent.ReadsInside (devicePlace memory controller)
      (controllerEvents memory controller dimms) := by
  rw [DumpEvent.ReadsInside, controllerEvents, List.forall_mem_append, List.forall_mem_flatMap,
    List.forall_mem_map]
  refine ⟨readsInside_dumpControllerFields (Nat.le_refl _) laidOut.tiles.le, ?_⟩
  intro dimm listed
  obtain ⟨above, below⟩ := laidOut.inside dimm listed
  have long := laidOut.long dimm listed
  apply readsInside_dimmTurn
  · simp only [devicePlace]
    omega
  · simp only [devicePlace]
    omega

end Walk

/-- A well-formed memory controller. -/
structure MemoryController where
  memory : Memory
  address : Nat
  notNull : address ≠ 0
  dimms : List Range
  laidOut : ControllerLaidOut memory address dimms

namespace MemoryController

variable (controller : MemoryController)

def domains : Nat := numberOfProximityDomains controller.memory controller.address

def domain (index : Nat) : Nat :=
  controller.memory.readLe (controller.address + memoryControllerSize + 4 * index) 4

def contents : List DumpEvent :=
  (List.range controller.domains).map (fun index => .proximityDomain (controller.domain index)) ++
    controller.dimms.map (.struct .dimm)

/-- The dump ends and reported the proximity domains and the DIMM devices, each once, in order.
The devices reach to the structure's end, and so the walk stops there. -/
def ReportsContents : Prop :=
  ∃ fuel events,
    dumpPmttMemoryController controller.memory fuel controller.address = some events ∧
      events.filter DumpEvent.isContent = controller.contents

/-- Every run reports the first proximity domain in the place of each. -/
theorem filter_dumpPmttMemoryController {fuel : Nat} {events : List DumpEvent}
    (run : dumpPmttMemoryController controller.memory fuel controller.address = some events) :
    ∃ dimms, events.filter DumpEvent.isContent =
      List.replicate controller.domains (.proximityDomain (controller.domain 0)) ++ dimms := by
  rw [dumpPmttMemoryController, if_neg controller.notNull, Option.map_eq_some_iff] at run
  obtain ⟨dimms, _, rfl⟩ := run
  refine ⟨dimms.filter DumpEvent.isContent, ?_⟩
  rw [List.filter_append, filter_dumpControllerFields]
  rfl

theorem map_domain_eq_replicate_iff :
    (List.range controller.domains).map
        (fun index => DumpEvent.proximityDomain (controller.domain index)) =
      List.replicate controller.domains (.proximityDomain (controller.domain 0)) ↔
    ∀ index < controller.domains, controller.domain index = controller.domain 0 := by
  have count : (List.range controller.domains).length = controller.domains := List.length_range
  nth_rewrite 2 [← count]
  rw [List.map_eq_replicate_iff]
  simp only [List.mem_range, DumpEvent.proximityDomain.injEq]

theorem domains_same_of_reportsContents (reports : controller.ReportsContents) :
    ∀ index < controller.domains, controller.domain index = controller.domain 0 := by
  obtain ⟨fuel, events, run, reported⟩ := reports
  obtain ⟨dimms, first⟩ := controller.filter_dumpPmttMemoryController run
  rw [first, contents] at reported
  rw [← map_domain_eq_replicate_iff]
  exact (List.append_inj_left reported (by simp)).symm

/-- The contents are reported exactly when no proximity domain differs from the first. -/
theorem reportsContents_iff :
    controller.ReportsContents ↔
      ∀ index < controller.domains, controller.domain index = controller.domain 0 := by
  constructor
  · exact controller.domains_same_of_reportsContents
  · intro same
    rw [← map_domain_eq_replicate_iff] at same
    obtain ⟨fuel, run⟩ := exists_dumpPmttMemoryController controller.notNull controller.laidOut
    refine ⟨fuel, _, run, ?_⟩
    rw [filter_controllerEvents controller.laidOut, contents, same]
    rfl

/-- Two proximity domains, 1 and 2, and no DIMM device. -/
def twoDomains : MemoryController where
  memory := Memory.ofBytesAt 0x1000
    ([1, 0, 40, 0] ++ List.replicate 26 0 ++ [2, 0, 1, 0, 0, 0, 2])
  address := 0x1000
  notNull := Memory.secondPage_ne_null
  dimms := []
  laidOut :=
    { tiles := by decide
      lengths := by decide
      long := by decide }

theorem not_reportsContents_twoDomains : ¬ twoDomains.ReportsContents := by
  intro reports
  have same := twoDomains.domains_same_of_reportsContents reports 1 (by decide)
  revert same
  decide

end MemoryController

end AppEfi.DumpAcpi
