import AppEfi.DumpAcpi.DumpPmttMemoryController
import AppEfi.DumpAcpi.DumpSelectAcpiTable

/-!
# The structures of the PMTT and of the LPIT

DumpAcpiPMTT and DumpAcpiLPIT where verbose output is on, and the sockets of the PMTT.  Both
loops over a table move their pointer on before they subtract the Length that it points to:
what they count is the Length of the structure ahead, and behind the last structure they read
one that the table does not have.  A UINTN has 8 bytes.
-/

set_option autoImplicit false

namespace AppEfi.DumpAcpi

open AppEfi.CountedWalk

/-! ## Sockets -/

def socketSize : Nat := 12

section Dump

variable (memory : Memory)

/-- A turn of the loop over the memory controllers. -/
def controllerTurn (fuel controller : Nat) : Option (List DumpEvent) :=
  (dumpPmttMemoryController memory fuel controller).map (· ++ [.read ⟨controller + 2, 2⟩])

def dumpControllers (fuel socket : Nat) : Option (List DumpEvent) :=
  walkItems (deviceLength memory) (fun _ controller => deviceLength memory controller)
    (controllerTurn memory fuel) fuel (socket + socketSize)
    ((deviceLength memory socket : Int) - socketSize) 0

def dumpSocketFields (socket : Nat) : List DumpEvent :=
  .struct .socket (devicePlace memory socket) :: dumpPmttDevice socket ++
    [.read ⟨socket + 8, 2⟩]

def dumpPmttSocket (fuel socket : Nat) : Option (List DumpEvent) :=
  if socket = 0 then some []
  else (dumpControllers memory fuel socket).map (dumpSocketFields memory socket ++ ·)

end Dump

/-- The memory controllers of a well-formed socket reach to its end. -/
structure SocketLaidOut (memory : Memory) (socket : Nat) (controllers : List Range) : Prop where
  laidOut : LaidOut (deviceLength memory) memoryControllerSize (socket + socketSize)
    (socket + deviceLength memory socket) controllers
  wellFormed : ∀ controller ∈ controllers, ∃ dimms,
    ControllerLaidOut memory controller.start dimms

section Controllers

variable {memory : Memory} {controller : Nat} {dimms : List Range}

/-- The dump of a memory controller ends, prints the structure once and reads inside it. -/
theorem exists_controllerTurn (notNull : controller ≠ 0)
    (laidOut : ControllerLaidOut memory controller dimms) :
    ∃ fuel own, controllerTurn memory fuel controller = some own ∧
      own.filter (DumpEvent.isStruct .memoryController) =
        [.struct .memoryController (devicePlace memory controller)] ∧
      DumpEvent.ReadsInside (devicePlace memory controller) own := by
  obtain ⟨fuel, run⟩ := exists_dumpPmttMemoryController notNull laidOut
  have contents := laidOut.tiles.le
  rw [dimmsOffset, memoryControllerSize] at contents
  refine ⟨fuel, controllerEvents memory controller dimms ++ [.read ⟨controller + 2, 2⟩], ?_, ?_, ?_⟩
  · rw [controllerTurn, run, Option.map_some]
  · rw [List.filter_append, filter_isStruct_controllerEvents]
    rfl
  · rw [DumpEvent.ReadsInside, List.forall_mem_append, List.forall_mem_singleton]
    refine ⟨readsInside_controllerEvents laidOut, ?_⟩
    simp only [DumpEvent.Inside, devicePlace, Range.Inside]
    omega

theorem controllerTurn_mono {fuel more controller : Nat} {own : List DumpEvent}
    (le : fuel ≤ more) (run : controllerTurn memory fuel controller = some own) :
    controllerTurn memory more controller = some own :=
  map_goesOn (fun _ first => dumpPmttMemoryController_mono le first) run

theorem ReadsInside.mono {inner outer : Range} {events : List DumpEvent}
    (inside : inner.Inside outer) (reads : DumpEvent.ReadsInside inner events) :
    DumpEvent.ReadsInside outer events := by
  intro event listed
  have here := reads event listed
  cases event with
  | read range =>
      simp only [DumpEvent.Inside, Range.Inside] at here inside ⊢
      omega
  | struct kind place => trivial
  | proximityDomain value => trivial

end Controllers

section Sockets

variable {memory : Memory} {socket : Nat} {controllers : List Range}

theorem dumpPmttSocket_mono {fuel more : Nat} {events : List DumpEvent} (le : fuel ≤ more)
    (run : dumpPmttSocket memory fuel socket = some events) :
    dumpPmttSocket memory more socket = some events := by
  rw [dumpPmttSocket] at run ⊢
  split at run
  · rw [if_pos ‹_›, run]
  · rw [if_neg ‹_›]
    exact map_goesOn (fun _ walk => walkItems_mono (fun _ _ => controllerTurn_mono le) le walk) run

/-- The dump of a socket ends, prints each memory controller once, in order, and reads inside
the socket. -/
theorem exists_dumpPmttSocket (notNull : socket ≠ 0)
    (laidOut : SocketLaidOut memory socket controllers) :
    ∃ fuel events, dumpPmttSocket memory fuel socket = some events ∧
      events.filter (DumpEvent.isStruct .memoryController) =
        controllers.map (DumpEvent.struct .memoryController) ∧
      DumpEvent.ReadsInside (devicePlace memory socket) events := by
  have whole := laidOut.laidOut.tiles.le
  rw [socketSize] at whole
  have counts : CountsOut (fun _ controller => deviceLength memory controller)
      ((deviceLength memory socket : Int) - socketSize) 0 (controllers.map Range.start) := by
    refine laidOut.laidOut.countsOut (by decide) ?_ (by omega) 0
    exact fun controller listed _ => laidOut.laidOut.lengths controller listed
  have each : ∀ controller ∈ controllers, ∃ fuel own,
      controllerTurn memory fuel controller.start = some own ∧
        own.filter (DumpEvent.isStruct .memoryController) =
          [.struct .memoryController controller] ∧
        DumpEvent.ReadsInside (devicePlace memory socket) own := by
    intro controller listed
    obtain ⟨dimms, inner⟩ := laidOut.wellFormed controller listed
    obtain ⟨above, below⟩ := laidOut.laidOut.inside controller listed
    have length := laidOut.laidOut.lengths controller listed
    have here : devicePlace memory controller.start = controller := by rw [devicePlace, length]
    obtain ⟨fuel, own, run, printed, reads⟩ :=
      exists_controllerTurn (by rw [socketSize] at above; omega) inner
    rw [here] at printed reads
    refine ⟨fuel, own, run, printed, ReadsInside.mono ?_ reads⟩
    simp only [Range.Inside, devicePlace]
    omega
  obtain ⟨fuel, owns, walk, does⟩ :=
    exists_walkItems (controllerTurn memory) controllerTurn_mono laidOut.laidOut counts each
  refine ⟨fuel, dumpSocketFields memory socket ++ owns.flatten, ?_, ?_, ?_⟩
  · rw [dumpPmttSocket, if_neg notNull, dumpControllers, walk, Option.map_some]
  · rw [List.filter_append,
      flatten_eq_map rfl (List.filter_append) (does.imp fun _ _ both => both.1)]
    rfl
  · rw [DumpEvent.ReadsInside, List.forall_mem_append]
    refine ⟨?_, forall_mem_flatten (does.imp fun _ _ both => both.2)⟩
    simp only [dumpSocketFields, dumpPmttDevice, List.cons_append, List.nil_append,
      List.forall_mem_cons, List.not_mem_nil, false_implies, implies_true, true_and, and_true,
      DumpEvent.Inside, devicePlace, Range.Inside]
    omega

end Sockets

/-- A well-formed socket. -/
structure Socket where
  memory : Memory
  address : Nat
  notNull : address ≠ 0
  controllers : List Range
  laidOut : SocketLaidOut memory address controllers

/-- The dump ends, came to each memory controller once, in order, and read inside the socket. -/
def Socket.DumpsControllers (socket : Socket) : Prop :=
  ∃ fuel events, dumpPmttSocket socket.memory fuel socket.address = some events ∧
    events.filter (DumpEvent.isStruct .memoryController) =
      socket.controllers.map (DumpEvent.struct .memoryController) ∧
    DumpEvent.ReadsInside (devicePlace socket.memory socket.address) events

/-! ## The loops over a table -/

/-- A turn: the structure and what was done until the next turn. -/
structure StructTurn where
  position : Nat
  events : List DumpEvent

/-- The loop of a dump function: where a structure has its Length and what the switch does.
Structures begin with 8 bytes that are common to them. -/
structure StructLoop where
  headerSize : Nat
  lengthOffset : Nat
  lengthWidth : Nat
  widthPositive : 0 < lengthWidth
  dump : Memory → Nat → Nat → Option (List DumpEvent)
  mono : ∀ {memory fuel more position events}, fuel ≤ more →
    dump memory fuel position = some events → dump memory more position = some events
  WellFormed : Memory → Nat → Prop
  ends : ∀ {memory position}, position ≠ 0 → WellFormed memory position →
    ∃ fuel events, dump memory fuel position = some events

def commonSize : Nat := 8

namespace StructLoop

variable (loop : StructLoop) (memory : Memory)

def lengthField (position : Nat) : Range := ⟨position + loop.lengthOffset, loop.lengthWidth⟩

def structLength (position : Nat) : Nat :=
  memory.readLe (position + loop.lengthOffset) loop.lengthWidth

/-- The Length that a turn subtracts, behind the structure. -/
def lengthAhead (_ position : Nat) : Nat :=
  loop.structLength memory (position + loop.structLength memory position)

def turn (fuel position : Nat) : Option (List StructTurn) :=
  (loop.dump memory fuel position).map fun events =>
    [{ position := position
       events := events ++ [.read (loop.lengthField position),
         .read (loop.lengthField (position + loop.structLength memory position))] }]

def structsLen (table : Nat) : Int := (tableLength memory table : Int) - loop.headerSize

def run (fuel table : Nat) : Option (List StructTurn) :=
  if table = 0 then some []
  else
    walkItems (loop.structLength memory) (loop.lengthAhead memory) (loop.turn memory fuel) fuel
      (table + loop.headerSize) (loop.structsLen memory table) 0

variable {loop memory}

theorem turn_mono {fuel more position : Nat} {own : List StructTurn} (le : fuel ≤ more)
    (does : loop.turn memory fuel position = some own) :
    loop.turn memory more position = some own :=
  map_goesOn (fun _ dump => loop.mono le dump) does

end StructLoop

/-- A well-formed table. -/
structure LoopTable (loop : StructLoop) where
  memory : Memory
  address : Nat
  notNull : address ≠ 0
  structs : List Range
  laidOut : LaidOut (loop.structLength memory) commonSize (address + loop.headerSize)
    (address + tableLength memory address) structs
  wellFormed : ∀ struct ∈ structs, loop.WellFormed memory struct.start

namespace LoopTable

variable {loop : StructLoop} (table : LoopTable loop)

def place : Range := ⟨table.address, tableLength table.memory table.address⟩

section Dumps

variable (dump : Memory → Nat → Nat → Option (List StructTurn))

/-- The dump ends and came to each structure once, in order. -/
def ComesToEach : Prop :=
  ∃ fuel turns, dump table.memory fuel table.address = some turns ∧
    turns.map StructTurn.position = table.structs.map Range.start

/-- The same, and nothing was read behind the table's end. -/
def DumpsEach : Prop :=
  ∃ fuel turns, dump table.memory fuel table.address = some turns ∧
    turns.map StructTurn.position = table.structs.map Range.start ∧
    ∀ turn ∈ turns, DumpEvent.ReadsInside table.place turn.events

end Dumps

/-- The Lengths ahead reach the length of all structures with the last one and not before. -/
def LengthsAheadCountOut : Prop :=
  CountsOut (loop.lengthAhead table.memory) (loop.structsLen table.memory table.address) 0
    (table.structs.map Range.start)

instance : Decidable table.LengthsAheadCountOut := inferInstanceAs (Decidable (CountsOut _ _ _ _))

theorem turn_eq_some {fuel position : Nat} {own : List StructTurn}
    (does : loop.turn table.memory fuel position = some own) :
    own.map StructTurn.position = [position] ∧
      ∃ turn ∈ own, .read (loop.lengthField
        (position + loop.structLength table.memory position)) ∈ turn.events := by
  obtain ⟨events, _, rfl⟩ := Option.map_eq_some_iff.mp does
  exact ⟨rfl, _, List.mem_singleton_self _, List.mem_append_right _ (by simp)⟩

/-- A run does a turn at each position of the walk. -/
theorem run_eq_some {fuel : Nat} {turns : List StructTurn}
    (run : loop.run table.memory fuel table.address = some turns) :
    visited (loop.structLength table.memory) (loop.lengthAhead table.memory) fuel
        (table.address + loop.headerSize) (loop.structsLen table.memory table.address) 0 =
        some (turns.map StructTurn.position) ∧
      ∀ position ∈ turns.map StructTurn.position, ∃ turn ∈ turns,
        .read (loop.lengthField (position + loop.structLength table.memory position)) ∈
          turn.events := by
  rw [StructLoop.run, if_neg table.notNull] at run
  obtain ⟨positions, owns, comes, each, rfl⟩ := exists_positions run
  have places : owns.flatten.map StructTurn.position = positions := by
    have same : owns.flatten.map StructTurn.position = positions.map id :=
      flatten_eq_map List.map_nil (fun _ _ => List.map_append)
        (each.imp fun _ _ does => (table.turn_eq_some does).1)
    rwa [List.map_id] at same
  rw [places]
  refine ⟨comes, ?_⟩
  intro position listed
  obtain ⟨own, among, does⟩ := exists_own each listed
  obtain ⟨_, turn, here, reads⟩ := table.turn_eq_some does
  exact ⟨turn, List.mem_flatten.mpr ⟨own, among, here⟩, reads⟩

theorem struct_notNull : ∀ struct ∈ table.structs, struct.start ≠ 0 := by
  intro struct listed
  have above := (table.laidOut.inside struct listed).1
  have notNull := table.notNull
  omega

/-- Every structure is come to exactly when the Lengths ahead count out. -/
theorem comesToEach_run_iff : table.ComesToEach loop.run ↔ table.LengthsAheadCountOut := by
  constructor
  · rintro ⟨fuel, turns, run, same⟩
    have comes := (table.run_eq_some run).1
    rw [same] at comes
    exact (exists_visited_iff table.laidOut _ 0).mp ⟨fuel, comes⟩
  · intro counts
    have each : ∀ struct ∈ table.structs, ∃ fuel own,
        loop.turn table.memory fuel struct.start = some own ∧
          own.map StructTurn.position = [struct.start] := by
      intro struct listed
      obtain ⟨fuel, events, dump⟩ :=
        loop.ends (table.struct_notNull struct listed) (table.wellFormed struct listed)
      exact ⟨fuel, _, Option.map_eq_some_iff.mpr ⟨events, dump, rfl⟩, rfl⟩
    obtain ⟨fuel, owns, walk, does⟩ :=
      exists_walkItems (loop.turn table.memory) loop.turn_mono table.laidOut counts each
    refine ⟨fuel, owns.flatten, ?_, ?_⟩
    · rw [StructLoop.run, if_neg table.notNull]
      exact walk
    · exact flatten_eq_map List.map_nil (fun _ _ => List.map_append) does

theorem structs_eq_nil_of_dumpsEach (dumps : table.DumpsEach loop.run) : table.structs = [] := by
  obtain ⟨fuel, turns, run, same, inside⟩ := dumps
  by_contra nonempty
  -- the turn of the last structure reads a Length behind the table
  obtain ⟨last, listed, finish⟩ := table.laidOut.tiles.exists_finish nonempty
  obtain ⟨turn, among, reads⟩ := (table.run_eq_some run).2 last.start (by
    rw [same]
    exact List.mem_map_of_mem listed)
  have behind := inside turn among _ reads
  rw [table.laidOut.lengths last listed, finish] at behind
  have positive := loop.widthPositive
  simp only [DumpEvent.Inside, StructLoop.lengthField, place, Range.Inside] at behind
  omega

/-- Only a table without structures is dumped without a read behind its end. -/
theorem dumpsEach_run_iff : table.DumpsEach loop.run ↔ table.structs = [] := by
  constructor
  · exact table.structs_eq_nil_of_dumpsEach
  · intro none
    have tiles := table.laidOut.tiles
    rw [none] at tiles
    have meet : table.address + loop.headerSize =
        table.address + tableLength table.memory table.address := tiles
    refine ⟨0, [], ?_, by rw [none]; rfl, List.forall_mem_nil _⟩
    rw [StructLoop.run, if_neg table.notNull]
    apply walkItems_of_le
    rw [StructLoop.structsLen]
    omega

end LoopTable

/-! ## DumpAcpiPMTT -/

/-- `switch (CommonMemoryAggregatorDevice->Type)`. -/
def dumpPmttStruct (memory : Memory) (fuel position : Nat) : Option (List DumpEvent) :=
  (match memory.readLe position 1 with
  | 0 => dumpPmttSocket memory fuel position
  | 1 => dumpPmttMemoryController memory fuel position
  | 2 => some (dumpPmttDimm memory position)
  | _ => some []).map (.read ⟨position, 1⟩ :: ·)

def PmttWellFormed (memory : Memory) (position : Nat) : Prop :=
  match memory.readLe position 1 with
  | 0 => ∃ controllers, SocketLaidOut memory position controllers
  | 1 => ∃ dimms, ControllerLaidOut memory position dimms
  | 2 => dimmSize ≤ deviceLength memory position
  | _ => True

theorem dumpPmttStruct_mono {memory : Memory} {fuel more position : Nat}
    {events : List DumpEvent} (le : fuel ≤ more)
    (run : dumpPmttStruct memory fuel position = some events) :
    dumpPmttStruct memory more position = some events := by
  refine map_goesOn ?_ run
  intro own dump
  split at dump
  · exact dumpPmttSocket_mono le dump
  · exact dumpPmttMemoryController_mono le dump
  · exact dump
  · exact dump

theorem exists_dumpPmttStruct {memory : Memory} {position : Nat} (notNull : position ≠ 0)
    (wellFormed : PmttWellFormed memory position) :
    ∃ fuel events, dumpPmttStruct memory fuel position = some events := by
  rw [PmttWellFormed] at wellFormed
  simp only [dumpPmttStruct, Option.map_eq_some_iff]
  split at wellFormed
  · obtain ⟨controllers, laidOut⟩ := wellFormed
    obtain ⟨fuel, events, run, _⟩ := exists_dumpPmttSocket notNull laidOut
    exact ⟨fuel, _, events, run, rfl⟩
  · obtain ⟨dimms, laidOut⟩ := wellFormed
    obtain ⟨fuel, run⟩ := exists_dumpPmttMemoryController notNull laidOut
    exact ⟨fuel, _, _, run, rfl⟩
  · exact ⟨0, _, _, rfl, rfl⟩
  · exact ⟨0, _, _, rfl, rfl⟩

def pmttLoop : StructLoop where
  headerSize := 40
  lengthOffset := 2
  lengthWidth := 2
  widthPositive := by decide
  dump := dumpPmttStruct
  mono := dumpPmttStruct_mono
  WellFormed := PmttWellFormed
  ends := exists_dumpPmttStruct

def dumpAcpiPMTT (memory : Memory) (fuel pmtt : Nat) : Option (List StructTurn) :=
  pmttLoop.run memory fuel pmtt

/-! ## DumpAcpiLPIT -/

def dumpAcpiGAddressStructure (address : Nat) : List DumpEvent :=
  [.read ⟨address, 1⟩, .read ⟨address + 1, 1⟩, .read ⟨address + 2, 1⟩, .read ⟨address + 3, 1⟩,
    .read ⟨address + 4, 8⟩]

def nativeCStateSize : Nat := 56

def dumpNativeCStateLpiStateStructure (memory : Memory) (position : Nat) : List DumpEvent :=
  if position = 0 then []
  else
    .struct .nativeCStateLpiState ⟨position, memory.readLe (position + 4) 4⟩ ::
      [.read ⟨position, 4⟩, .read ⟨position + 4, 4⟩, .read ⟨position + 8, 2⟩,
        .read ⟨position + 12, 4⟩] ++
      dumpAcpiGAddressStructure (position + 16) ++
      [.read ⟨position + 28, 4⟩, .read ⟨position + 32, 4⟩] ++
      dumpAcpiGAddressStructure (position + 36) ++ [.read ⟨position + 48, 8⟩]

/-- `switch (LpiDesc->Type)`. -/
def dumpLpiDesc (memory : Memory) (position : Nat) : List DumpEvent :=
  .read ⟨position, 4⟩ ::
    (if memory.readLe position 4 = 0 then dumpNativeCStateLpiStateStructure memory position
    else [])

def lpitLoop : StructLoop where
  headerSize := descriptionHeaderSize
  lengthOffset := 4
  lengthWidth := 4
  widthPositive := by decide
  dump memory _ position := some (dumpLpiDesc memory position)
  mono _ run := run
  WellFormed memory position :=
    memory.readLe position 4 = 0 → nativeCStateSize ≤ memory.readLe (position + 4) 4
  ends _ _ := ⟨0, _, rfl⟩

def dumpAcpiLPIT (memory : Memory) (fuel lpit : Nat) : Option (List StructTurn) :=
  lpitLoop.run memory fuel lpit

/-- A table with a structure is read behind its end; which structures the dump comes to is
decided by the Lengths ahead.  The walks inside the sockets are right. -/
theorem pmtt_lpit_dumpsEach_iff (pmtt : LoopTable pmttLoop) (lpit : LoopTable lpitLoop)
    (socket : Socket) :
    ((pmtt.DumpsEach dumpAcpiPMTT ↔ pmtt.structs = []) ∧
        (pmtt.ComesToEach dumpAcpiPMTT ↔ pmtt.LengthsAheadCountOut)) ∧
      ((lpit.DumpsEach dumpAcpiLPIT ↔ lpit.structs = []) ∧
        (lpit.ComesToEach dumpAcpiLPIT ↔ lpit.LengthsAheadCountOut)) ∧
      socket.DumpsControllers := by
  refine ⟨?_, ?_, ?_⟩
  · exact ⟨pmtt.dumpsEach_run_iff, pmtt.comesToEach_run_iff⟩
  · exact ⟨lpit.dumpsEach_run_iff, lpit.comesToEach_run_iff⟩
  · exact exists_dumpPmttSocket socket.notNull socket.laidOut

/-! ## Structures of differing lengths -/

/-- A memory controller of 32 bytes and a DIMM device of 20. -/
def controllerThenDimm : Memory :=
  Memory.ofBytesAt 0x1004
    ([92, 0, 0, 0] ++ List.replicate 32 0 ++ [1, 0, 32, 0] ++ List.replicate 28 0 ++
      [2, 0, 20, 0])

def controllerThenDimmPmtt : LoopTable pmttLoop where
  memory := controllerThenDimm
  address := 0x1000
  notNull := Memory.secondPage_ne_null
  structs := [⟨0x1028, 32⟩, ⟨0x1048, 20⟩]
  laidOut :=
    { tiles := by decide
      lengths := by decide
      long := by decide }
  wellFormed := by
    have controller : controllerThenDimm.readLe 0x1028 1 = 1 := by decide
    have dimm : controllerThenDimm.readLe 0x1048 1 = 2 := by decide
    rw [List.forall_mem_cons, List.forall_mem_singleton]
    constructor
    · change PmttWellFormed controllerThenDimm 0x1028
      rw [PmttWellFormed, controller]
      exact ⟨[], by decide, by decide, by decide⟩
    · change PmttWellFormed controllerThenDimm 0x1048
      rw [PmttWellFormed, dimm]
      change dimmSize ≤ deviceLength controllerThenDimm 0x1048
      decide

/-- One native C-state descriptor. -/
def oneCStateLpit : LoopTable lpitLoop where
  memory := Memory.ofBytesAt 0x1004 ([92, 0, 0, 0] ++ List.replicate 32 0 ++ [56])
  address := 0x1000
  notNull := Memory.secondPage_ne_null
  structs := [⟨0x1024, 56⟩]
  laidOut :=
    { tiles := by decide
      lengths := by decide
      long := by decide }
  wellFormed := by
    rw [List.forall_mem_singleton]
    intro nativeCState
    decide

/-- Behind the DIMM device the PMTT's dump still counts, and the LPIT's reads a Length. -/
theorem not_dumpsEach_lengthsAhead :
    ¬ controllerThenDimmPmtt.ComesToEach dumpAcpiPMTT ∧
      ¬ controllerThenDimmPmtt.DumpsEach dumpAcpiPMTT ∧
      ¬ oneCStateLpit.DumpsEach dumpAcpiLPIT := by
  refine ⟨?_, ?_, ?_⟩
  · intro comes
    have counts := controllerThenDimmPmtt.comesToEach_run_iff.mp comes
    revert counts
    decide
  · intro dumps
    cases controllerThenDimmPmtt.structs_eq_nil_of_dumpsEach dumps
  · intro dumps
    cases oneCStateLpit.structs_eq_nil_of_dumpsEach dumps

end AppEfi.DumpAcpi
