import Mathlib.Data.Fintype.Order
import Mathlib.Data.Finite.Prod
import AppEfi.Vtd.DumpAcpiDmar
import AppEfi.Vtd.ScanPciBus

/-!
# Walks over the DMAR table

Where the four walks of VtdDump.c over a DMAR table end, and where their pointers get.
None of them checks a length, so it is the table that decides.
-/

set_option autoImplicit false

namespace AppEfi.Vtd

open BoundedWalk

/-! ## `GetVtdEngineNumber` -/

section Engines

variable {memory : Memory}

/-- The structures that the walk comes to. -/
def structureStarts (memory : Memory) (tableEnd : Nat) : Nat → Nat → Option (List Nat) :=
  walkItems (structureLength memory) tableEnd fun dmarHeader => some [dmarHeader]

theorem getVtdEngineNumber_eq (tableEnd fuel dmarHeader : Nat) :
    getVtdEngineNumber memory tableEnd fuel dmarHeader =
      (structureStarts memory tableEnd fuel dmarHeader).map
        (List.countP fun dmarHeader => structureType memory dmarHeader = dmarTypeDrhd) := by
  induction fuel generalizing dmarHeader with
  | zero =>
      rw [getVtdEngineNumber, structureStarts, walkItems]
      split <;> rfl
  | succ fuel ih =>
      rw [getVtdEngineNumber, structureStarts, walkItems]
      split
      · change ((getVtdEngineNumber memory tableEnd fuel
            (dmarHeader + structureLength memory dmarHeader)).bind _) = _
        rw [ih, structureStarts]
        cases walkItems (structureLength memory) tableEnd (fun dmarHeader => some [dmarHeader])
            fuel (dmarHeader + structureLength memory dmarHeader) with
        | none => rfl
        | some rest =>
            have counted := List.countP_cons
              (p := fun dmarHeader => structureType memory dmarHeader = dmarTypeDrhd)
              (a := dmarHeader) (l := rest)
            simp only [decide_eq_true_eq] at counted
            exact congrArg some counted.symm
      · rfl

theorem structureStarts_inside_iff (dmar : Nat) :
    (∃ fuel starts,
        structureStarts memory (dmar + tableLength memory dmar) fuel
          (dmar + sizeofDmarHeader) = some starts ∧
        ∀ dmarHeader ∈ starts,
          dmarHeader + structureLength memory dmarHeader ≤ dmar + tableLength memory dmar) ↔
      StructuresInside memory dmar := by
  rw [structureStarts, exists_walkItems_iff_of_body, StructuresInside]
  simp only [Option.some.injEq, exists_eq_left', List.mem_singleton, forall_eq, TableReached,
    and_imp]

end Engines

/-! ## Walks whose body may fail -/

section Steps

variable {State : Type} (length : Nat → Nat) (limit : Nat)

/-- The walk ends early with the first error of a body. -/
def walkSteps (body : Nat → State → Outcome State) : Nat → Nat → State → Outcome State
  | 0, position, state => if position < limit then none else .success state
  | fuel + 1, position, state =>
      if position < limit then
        (body position state).andThen (walkSteps body fuel (position + length position))
      else .success state

/-- The positions to which the walk moves. -/
def stepMoves (body : Nat → State → Outcome State) : Nat → Nat → State → List Nat
  | 0, _, _ => []
  | fuel + 1, position, state =>
      if position < limit then
        match body position state with
        | some (after, .success) =>
            (position + length position) ::
              stepMoves body fuel (position + length position) after
        | _ => []
      else []

variable {length limit} {body : Nat → State → Outcome State}

theorem exists_walkSteps {start : Nat}
    (ends : ∀ position, Reached length limit start position → position < limit →
      0 < length position ∧ ∀ state, ∃ result, body position state = some result)
    {fuel : Nat} (enough : limit ≤ start + fuel) (state : State) :
    ∃ result, walkSteps length limit body fuel start state = some result := by
  induction fuel generalizing start state with
  | zero => exact ⟨_, if_neg (by omega)⟩
  | succ fuel ih =>
      rw [walkSteps]
      split
      · rename_i inside
        rw [forall_reached_iff inside] at ends
        obtain ⟨⟨progress, own⟩, later⟩ := ends
        obtain ⟨⟨after, status⟩, run⟩ := own state
        rw [run]
        cases status with
        | success => exact ih later (by omega) after
        | outOfResources => exact ⟨_, rfl⟩
        | alreadyStarted => exact ⟨_, rfl⟩
        | deviceError => exact ⟨_, rfl⟩
      · exact ⟨_, rfl⟩

theorem exists_reached_of_mem_stepMoves {fuel start place : Nat} {state : State}
    (moved : place ∈ stepMoves length limit body fuel start state) :
    ∃ position, Reached length limit start position ∧ position < limit ∧
      place = position + length position := by
  induction fuel generalizing start state with
  | zero => cases moved
  | succ fuel ih =>
      rw [stepMoves] at moved
      split at moved
      · rename_i inside
        split at moved
        · rcases List.mem_cons.mp moved with same | later
          · exact ⟨start, Reached.start, inside, same⟩
          · obtain ⟨position, reached, below, same⟩ := ih later
            exact ⟨position, reached.head inside, below, same⟩
        · cases moved
      · cases moved

end Steps

/-! ## `ProcessDhrd` and `ParseDmarAcpiTableDrhd` -/

section Parse

variable (config memory : Memory) (allocateZeroPool : Nat → Bool)

/-- The body of the loop of `ParseDmarAcpiTableDrhd`, over VtdIndex and the units. -/
def parseStep (drhdFuel dmarHeader : Nat) (state : Nat × VtdState) : Outcome (Nat × VtdState) :=
  if structureType memory dmarHeader = dmarTypeDrhd then
    (processDhrd config memory allocateZeroPool drhdFuel state.1 dmarHeader state.2).map
      fun result => ((state.1 + 1, result.1), result.2)
  else .success state

def parseMoves (fuel mAcpiDmarTable : Nat) : List Nat :=
  stepMoves (structureLength memory) (mAcpiDmarTable + tableLength memory mAcpiDmarTable)
    (parseStep config memory allocateZeroPool fuel) fuel (mAcpiDmarTable + sizeofDmarHeader)
    (0, ⟨fun _ => zeroUnit, 0⟩)

/-- The moves of the device scope loop of `ProcessDhrd`. -/
def drhdMoves (fuel vtdIndex dmarDrhd : Nat) (state : VtdState) : List Nat :=
  stepMoves (scopeLength memory) (dmarDrhd + structureLength memory dmarDrhd)
    (processScope config memory allocateZeroPool fuel vtdIndex
      (UInt16.ofNat (memory.readLe (dmarDrhd + 6) 2)))
    fuel (dmarDrhd + sizeofDmarDrhdHeader) state

variable {config memory allocateZeroPool}

theorem processScopes_eq (scanFuel vtdIndex : Nat) (segment : UInt16)
    (scopesEnd fuel entry : Nat) (state : VtdState) :
    processScopes config memory allocateZeroPool scanFuel vtdIndex segment scopesEnd fuel entry
        state =
      walkSteps (scopeLength memory) scopesEnd
        (processScope config memory allocateZeroPool scanFuel vtdIndex segment) fuel entry
        state := by
  induction fuel generalizing entry state with
  | zero => rfl
  | succ fuel ih =>
      rw [processScopes, walkSteps]
      split
      · congr 1
        funext state
        exact ih _ state
      · rfl

theorem processTable_eq (drhdFuel tableEnd fuel vtdIndex dmarHeader : Nat) (state : VtdState) :
    processTable config memory allocateZeroPool drhdFuel tableEnd fuel vtdIndex dmarHeader
        state =
      (walkSteps (structureLength memory) tableEnd
        (parseStep config memory allocateZeroPool drhdFuel) fuel dmarHeader
        (vtdIndex, state)).map fun result => (result.1.2, result.2) := by
  induction fuel generalizing vtdIndex dmarHeader state with
  | zero =>
      rw [processTable, walkSteps]
      split <;> rfl
  | succ fuel ih =>
      rw [processTable, walkSteps]
      split
      · dsimp only
        rw [parseStep, structureType]
        by_cases drhd : memory.readLe dmarHeader 2 = dmarTypeDrhd
        · rw [if_pos drhd, if_pos drhd]
          cases processDhrd config memory allocateZeroPool drhdFuel vtdIndex dmarHeader state with
          | none => rfl
          | some result =>
              obtain ⟨after, status⟩ := result
              cases status with
              | success => exact ih _ _ after
              | outOfResources => rfl
              | alreadyStarted => rfl
              | deviceError => rfl
        · rw [if_neg drhd, if_neg drhd]
          exact ih _ _ state
      · rfl

/-! ## Termination -/

/-- `depth` is enough for the scan of any bus. -/
def ScansEnd (config : Memory) (depth : Nat) : Prop :=
  ∀ segment bus, ∃ calls, busVisit config segment depth bus = some calls

instance finite_uint16 : Finite UInt16 :=
  Finite.of_injective UInt16.toFin fun _ _ same => UInt16.toFin_inj.mp same

theorem exists_scansEnd (free : ∀ segment bus, ScanLoopFree config segment bus) :
    ∃ depth, ScansEnd config depth := by
  choose depth calls visited using fun place : UInt16 × UInt8 =>
    (free place.1 place.2).exists_visit
  obtain ⟨bound, enough⟩ := Finite.exists_le depth
  exact ⟨bound, fun segment bus =>
    ⟨_, DepthFirst.visit_mono (enough (segment, bus)) (visited (segment, bus))⟩⟩

theorem ScansEnd.mono {depth more : Nat} (scans : ScansEnd config depth) (le : depth ≤ more) :
    ScansEnd config more :=
  fun segment bus => (scans segment bus).imp fun _ visited => DepthFirst.visit_mono le visited

theorem exists_scanAndRegister {depth : Nat} (scans : ScansEnd config depth) (vtdIndex : Nat)
    (segment : UInt16) (bus : UInt8) (state : VtdState) :
    ∃ result, scanAndRegister config allocateZeroPool depth vtdIndex segment bus state =
      some result := by
  obtain ⟨calls, visited⟩ := scans segment bus
  obtain ⟨result, done⟩ := exists_callInOrder
    (scanBusCallbackRegisterPciDevice config allocateZeroPool vtdIndex segment) calls state
  exact ⟨result, (scanPciBus_of_visit visited state).trans done⟩

theorem Outcome.exists_andThen {State : Type} {first : Outcome State}
    {next : State → Outcome State} (firstEnds : ∃ result, first = some result)
    (nextEnds : ∀ state, ∃ result, next state = some result) :
    ∃ result, first.andThen next = some result := by
  obtain ⟨⟨after, status⟩, rfl⟩ := firstEnds
  cases status with
  | success => exact nextEnds after
  | outOfResources => exact ⟨_, rfl⟩
  | alreadyStarted => exact ⟨_, rfl⟩
  | deviceError => exact ⟨_, rfl⟩

theorem exists_processScope {depth : Nat} (scans : ScansEnd config depth) (vtdIndex : Nat)
    (segment : UInt16) (entry : Nat) (state : VtdState) :
    ∃ result, processScope config memory allocateZeroPool depth vtdIndex segment entry state =
      some result := by
  refine Outcome.exists_andThen ⟨_, rfl⟩ fun state => ?_
  split
  · exact exists_scanAndRegister scans vtdIndex segment _ state
  · exact ⟨_, rfl⟩

theorem exists_processDhrd (allocateZeroPool : Nat → Bool) {depth tableEnd dmarDrhd : Nat}
    (scans : ScansEnd config depth)
    (scopes : ScopesInside memory 1 tableEnd dmarDrhd sizeofDmarDrhdHeader)
    (enough : 2 ^ 16 ≤ depth) (vtdIndex : Nat) (state : VtdState) :
    ∃ result, processDhrd config memory allocateZeroPool depth vtdIndex dmarDrhd state =
      some result := by
  have lengthBound : structureLength memory dmarDrhd < 2 ^ 16 :=
    Memory.readLe_lt memory (dmarDrhd + 2) 2
  refine Outcome.exists_andThen ?_ fun state => ?_
  · split
    · exact exists_scanAndRegister scans vtdIndex _ 0 _
    · exact ⟨_, rfl⟩
  · rw [processScopes_eq]
    refine exists_walkSteps (fun entry reached inside => ⟨?_, ?_⟩) ?_ state
    · exact (scopes entry reached inside).1
    · exact exists_processScope scans vtdIndex _ entry
    · change dmarDrhd + structureLength memory dmarDrhd ≤ _
      omega

theorem exists_parseDmarAcpiTableDrhd {mAcpiDmarTable : Nat}
    (free : ∀ segment bus, ScanLoopFree config segment bus)
    (structures : StructuresInside memory mAcpiDmarTable)
    (scopes : ∀ dmarDrhd, TableReached memory mAcpiDmarTable dmarDrhd →
      structureType memory dmarDrhd = dmarTypeDrhd →
      ScopesInside memory 1 (mAcpiDmarTable + tableLength memory mAcpiDmarTable) dmarDrhd
        sizeofDmarDrhdHeader)
    (allocatesUnits : Bool) :
    ∃ fuel result, parseDmarAcpiTableDrhd config memory allocateZeroPool allocatesUnits fuel
      mAcpiDmarTable = some result := by
  obtain ⟨depth, scans⟩ := exists_scansEnd free
  obtain ⟨countFuel, starts, counted, -⟩ := (structureStarts_inside_iff _).mpr structures
  have tableBound : tableLength memory mAcpiDmarTable < 2 ^ 32 :=
    Memory.readLe_lt memory (mAcpiDmarTable + 4) 4
  -- Enough for the scans, for the scopes of any structure and for the table.
  obtain ⟨fuel, scanEnough, countEnough, enough⟩ :
      ∃ fuel, depth ≤ fuel ∧ countFuel ≤ fuel ∧ 2 ^ 32 ≤ fuel :=
    ⟨depth + countFuel + 2 ^ 32, by omega, by omega, by omega⟩
  have number : getVtdEngineNumber memory
      (mAcpiDmarTable + memory.readLe (mAcpiDmarTable + 4) 4) fuel
      (mAcpiDmarTable + sizeofDmarHeader) =
        some (starts.countP fun dmarHeader => structureType memory dmarHeader = dmarTypeDrhd) := by
    have starts := walkItems_mono (fun _ _ same => same) countEnough counted
    rw [getVtdEngineNumber_eq, structureStarts]
    exact congrArg (Option.map _) starts
  refine ⟨fuel, ?_⟩
  unfold parseDmarAcpiTableDrhd
  dsimp only
  rw [number]
  dsimp only
  split
  · exact ⟨_, rfl⟩
  · split
    · change ∃ result, processTable config memory allocateZeroPool fuel
        (mAcpiDmarTable + tableLength memory mAcpiDmarTable) fuel 0 _ _ = some result
      rw [processTable_eq]
      have ends : ∃ result, walkSteps (structureLength memory)
          (mAcpiDmarTable + tableLength memory mAcpiDmarTable)
          (parseStep config memory allocateZeroPool fuel) fuel
          (mAcpiDmarTable + sizeofDmarHeader) (0, ⟨fun _ => zeroUnit, 0⟩) = some result := by
        refine exists_walkSteps (fun dmarHeader reached inside => ⟨?_, ?_⟩) (by omega) _
        · exact (structures dmarHeader ⟨reached, inside⟩).1
        · intro state
          rw [parseStep]
          split
          · rename_i drhd
            obtain ⟨result, run⟩ := exists_processDhrd allocateZeroPool (scans.mono scanEnough)
              (scopes dmarHeader ⟨reached, inside⟩ drhd) (by omega) state.1 state.2
            exact ⟨_, by rw [run]; rfl⟩
          · exact ⟨_, rfl⟩
      obtain ⟨result, run⟩ := ends
      exact ⟨_, by rw [run]; rfl⟩
    · exact ⟨_, rfl⟩

end Parse

/-- The pointers of both loops of the parse stay in the table. -/
structure ParseInside (config memory : Memory) (allocateZeroPool : Nat → Bool)
    (fuel mAcpiDmarTable : Nat) : Prop where
  structures : ∀ position ∈ parseMoves config memory allocateZeroPool fuel mAcpiDmarTable,
    position ≤ mAcpiDmarTable + tableLength memory mAcpiDmarTable
  scopes : ∀ dmarDrhd, TableReached memory mAcpiDmarTable dmarDrhd →
    structureType memory dmarDrhd = dmarTypeDrhd →
    ∀ vtdIndex state,
      ∀ position ∈ drhdMoves config memory allocateZeroPool fuel vtdIndex dmarDrhd state,
        position ≤ mAcpiDmarTable + tableLength memory mAcpiDmarTable

theorem parseInside {config memory : Memory} {mAcpiDmarTable : Nat}
    (structures : StructuresInside memory mAcpiDmarTable)
    (scopes : ∀ dmarDrhd, TableReached memory mAcpiDmarTable dmarDrhd →
      structureType memory dmarDrhd = dmarTypeDrhd →
      ScopesInside memory 1 (mAcpiDmarTable + tableLength memory mAcpiDmarTable) dmarDrhd
        sizeofDmarDrhdHeader)
    (allocateZeroPool : Nat → Bool) (fuel : Nat) :
    ParseInside config memory allocateZeroPool fuel mAcpiDmarTable := by
  refine ⟨fun position moved => ?_, fun dmarDrhd found drhd vtdIndex state position moved => ?_⟩
  · obtain ⟨dmarHeader, reached, inside, rfl⟩ := exists_reached_of_mem_stepMoves moved
    exact (structures dmarHeader ⟨reached, inside⟩).2
  · obtain ⟨entry, reached, inside, rfl⟩ := exists_reached_of_mem_stepMoves moved
    exact (scopes dmarDrhd found drhd entry reached inside).2

/-- What the lengths in a table decide about the walks over it.  The dump needs the
scopes to have the length of their header, since it subtracts that from theirs. -/
structure WalksInside (config memory : Memory) (dmar : Nat) : Prop where
  dumpAcpiDmar :
    (∃ scopeFuel fuel items, dumpAcpiDmar memory scopeFuel fuel dmar = some items ∧
        ∀ item ∈ items, item.Inside memory (dmar + tableLength memory dmar)) ↔
      StructuresInside memory dmar ∧
        ∀ dmarHeader, TableReached memory dmar dmarHeader →
          ∀ sizeofHeader, HasScopes memory dmarHeader sizeofHeader →
            ScopesInside memory sizeofDeviceScopeHeader (dmar + tableLength memory dmar)
              dmarHeader sizeofHeader
  getVtdEngineNumber :
    (∃ fuel starts,
        structureStarts memory (dmar + tableLength memory dmar) fuel
            (dmar + sizeofDmarHeader) = some starts ∧
          getVtdEngineNumber memory (dmar + tableLength memory dmar) fuel
              (dmar + sizeofDmarHeader) =
            some (starts.countP fun dmarHeader =>
              structureType memory dmarHeader = dmarTypeDrhd) ∧
          ∀ dmarHeader ∈ starts, dmarHeader + structureLength memory dmarHeader ≤
            dmar + tableLength memory dmar) ↔
      StructuresInside memory dmar
  parseDmarAcpiTableDrhd : StructuresInside memory dmar →
    (∀ dmarDrhd, TableReached memory dmar dmarDrhd →
      structureType memory dmarDrhd = dmarTypeDrhd →
      ScopesInside memory 1 (dmar + tableLength memory dmar) dmarDrhd sizeofDmarDrhdHeader) →
    ∀ allocateZeroPool allocatesUnits, ∃ fuel result,
      parseDmarAcpiTableDrhd config memory allocateZeroPool allocatesUnits fuel dmar =
          some result ∧
        ParseInside config memory allocateZeroPool fuel dmar

theorem scanLoopFree_device2Config (segment : UInt16) (bus : UInt8) :
    ScanLoopFree device2Config segment bus := by
  have noBridge : ∀ f : PciFunction, f.child device2Config segment = none := by
    intro f
    have other : isPciBridge device2Config segment f.bus f.device f.function = false := by
      unfold isPciBridge pciSegmentRead8 device2Config
      split <;> rfl
    simp [PciFunction.child, other]
  refine DepthFirst.loopFree_of_acc (Acc.intro bus ?_)
  rintro next ⟨f, -, descent⟩
  rw [noBridge] at descent
  cases descent

/-- A table with room for a structure whose bytes are all zero. -/
def zeroStructure : Memory := Memory.ofBytesAt 0 (encodeDmar (List.replicate 16 0))

end AppEfi.Vtd
