import AppEfi.Vtd.ProcessRmrr

/-!
# The engines of a table

What ParseDmarAcpiTableDrhd has in mVtdUnitInformation when it has come through the table: each
DRHD structure has an engine in its place, whatever devices were registered for it.
-/

set_option autoImplicit false

namespace AppEfi.Vtd

open RecordWalk

/-- Where the registers are, and the segment. -/
structure Engine where
  registerBaseAddress : Nat
  segmentNumber : UInt16
  deriving DecidableEq, Repr

def VtdUnitInformation.engine (unit : VtdUnitInformation) : Engine :=
  ⟨unit.vtdUnitBaseAddress, unit.segment⟩

def DmarStructure.engine? : DmarStructure → Option Engine
  | .drhd _ segmentNumber registerBaseAddress _ =>
      some ⟨registerBaseAddress.toNat, segmentNumber⟩
  | _ => none

def enginesOf (structures : List DmarStructure) : List Engine :=
  structures.filterMap DmarStructure.engine?

def DmarTable.engines (table : DmarTable) : List Engine := enginesOf table.structures

/-! ## Registration -/

/-- The engines are those of the units, whatever devices they have. -/
def SameEngines (units : VtdUnits) (state : VtdState) : Prop :=
  ∀ index, (state.units index).engine = (units index).engine

section Register

variable {config memory : Memory} {allocateZeroPool : Nat → Bool} {units : VtdUnits}
variable {fuel vtdIndex : Nat} {segment : UInt16} {state : VtdState}

theorem engine_registerPciDevice (allocates : Bool) (sourceId : SourceId) (deviceType : UInt8)
    (checkExist : Bool) (index : Nat) :
    ((registerPciDevice config units allocates vtdIndex segment sourceId deviceType
      checkExist).1 index).engine = (units index).engine := by
  unfold registerPciDevice
  dsimp only
  split
  · rfl
  · split
    · rfl
    · split
      · rfl
      · dsimp only
        by_cases own : index = vtdIndex
        · subst own
          rw [Function.update_self]
          rfl
        · rw [Function.update_of_ne own]

theorem SameEngines.register (same : SameEngines units state) (sourceId : SourceId)
    (deviceType : UInt8) (checkExist : Bool) :
    SameEngines units (state.register config allocateZeroPool vtdIndex segment sourceId
      deviceType checkExist).1 :=
  fun index => (engine_registerPciDevice _ sourceId deviceType checkExist index).trans (same index)

theorem walkSteps_keeps {State : Type} {property : State → Prop} {length : Nat → Nat}
    {limit : Nat} {body : Nat → State → Outcome State}
    (keeps : ∀ position state, property state → (body position state).Keeps property)
    (fuel position : Nat) (state : State) (holds : property state) :
    (walkSteps length limit body fuel position state).Keeps property := by
  induction fuel generalizing position state with
  | zero =>
      rw [walkSteps]
      split
      · intro result run
        cases run
      · exact Outcome.keeps_success holds
  | succ fuel ih =>
      rw [walkSteps]
      split
      · exact Outcome.keeps_andThen (keeps position state holds) fun state holds => ih _ state holds
      · exact Outcome.keeps_success holds

theorem scanAndRegister_engines (fuel : Nat) (bus : UInt8) (same : SameEngines units state) :
    (scanAndRegister config allocateZeroPool fuel vtdIndex segment bus state).Keeps
      (SameEngines units) :=
  scanPciBus_keeps config segment _ (fun _ _ _ _ same => same.register _ _ _) fuel bus state same

theorem processScope_engines (dmarDevScopeEntry : Nat) (state : VtdState)
    (same : SameEngines units state) :
    (processScope config memory allocateZeroPool fuel vtdIndex segment dmarDevScopeEntry
      state).Keeps (SameEngines units) := by
  refine Outcome.keeps_andThen (Outcome.keeps_some (same.register _ _ _)) ?_
  intro state same
  split
  · exact scanAndRegister_engines fuel _ same
  · exact Outcome.keeps_success same

/-- Registering devices leaves what ProcessDhrd sets at first. -/
theorem processDhrd_engines (dmarDrhd : Nat) :
    (processDhrd config memory allocateZeroPool fuel vtdIndex dmarDrhd state).Keeps
      (SameEngines (setUnit memory state.units vtdIndex dmarDrhd)) := by
  have start : SameEngines (setUnit memory state.units vtdIndex dmarDrhd)
      { state with units := setUnit memory state.units vtdIndex dmarDrhd } := fun _ => rfl
  refine Outcome.keeps_andThen ?_ fun scanned same => ?_
  · split
    · exact scanAndRegister_engines fuel 0 start
    · exact Outcome.keeps_success start
  · rw [processScopes_eq]
    exact walkSteps_keeps processScope_engines fuel _ scanned same

end Register

/-! ## The walk over the table -/

theorem Outcome.of_andThen_success {State : Type} {first : Outcome State}
    {next : State → Outcome State} {after : State}
    (run : first.andThen next = some (after, .success)) :
    ∃ state, first = some (state, .success) ∧ next state = some (after, .success) := by
  cases first with
  | none => cases run
  | some result =>
      obtain ⟨state, status⟩ := result
      cases status with
      | success => exact ⟨state, rfl, run⟩
      | outOfResources => cases run
      | alreadyStarted => cases run
      | deviceError => cases run

section Table

variable {config memory : Memory} {allocateZeroPool : Nat → Bool}

theorem engine_setUnit {units : VtdUnits} {dmarDrhd vtdIndex : Nat} {flags : UInt8}
    {segmentNumber : UInt16} {registerBaseAddress : UInt64} {scopes : List DeviceScope}
    (stored : (DmarStructure.drhd flags segmentNumber registerBaseAddress scopes).StoredAt memory
      dmarDrhd) :
    (setUnit memory units vtdIndex dmarDrhd vtdIndex).engine =
      ⟨registerBaseAddress.toNat, segmentNumber⟩ := by
  obtain ⟨_, segment, base, _⟩ := stored.fields
  rw [setUnit, Function.update_self, VtdUnitInformation.engine, segment, base,
    UInt16.ofNat_toNat]

/-- Structures lie back to back from `dmarHeader` to `tableEnd`. -/
def StructuresAt (memory : Memory) (tableEnd dmarHeader : Nat)
    (structures : List DmarStructure) : Prop :=
  (∀ entry ∈ placed DmarStructure.length dmarHeader structures,
      entry.2.StoredAt memory entry.1) ∧
    tableEnd = dmarHeader + total DmarStructure.length structures

theorem DmarTable.structuresAt (table : DmarTable) :
    StructuresAt table.memory table.finish (table.address + sizeofDmarHeader)
      table.structures :=
  ⟨table.stored, table.finish_eq⟩

variable {tableEnd drhdFuel dmarHeader : Nat} {entry : DmarStructure}
variable {rest structures : List DmarStructure}

theorem StructuresAt.outside (stored : StructuresAt memory tableEnd dmarHeader []) :
    ¬ dmarHeader < tableEnd := by
  have ends := stored.2
  rw [total_nil] at ends
  omega

theorem StructuresAt.cons (stored : StructuresAt memory tableEnd dmarHeader (entry :: rest)) :
    entry.StoredAt memory dmarHeader ∧ dmarHeader < tableEnd ∧
      StructuresAt memory tableEnd (dmarHeader + entry.length) rest := by
  obtain ⟨stored, ends⟩ := stored
  rw [placed, List.forall_mem_cons] at stored
  have positive := entry.length_pos
  rw [total_cons] at ends
  exact ⟨stored.1, by omega, stored.2, by omega⟩

theorem DmarStructure.type_eq_drhd_iff (stored : entry.StoredAt memory dmarHeader) :
    entry.type = dmarTypeDrhd ↔ entry.engine?.isSome = true := by
  cases entry with
  | unknown type size =>
      have other : 4 < type.toNat := stored.fields
      refine iff_of_false ?_ (by simp [engine?])
      rw [DmarStructure.type, dmarTypeDrhd]
      omega
  | drhd _ _ _ _ => exact iff_of_true rfl rfl
  | _ => simp [DmarStructure.type, dmarTypeDrhd, engine?]

theorem processTable_outside (outside : ¬ dmarHeader < tableEnd) (fuel vtdIndex : Nat)
    (state : VtdState) :
    processTable config memory allocateZeroPool drhdFuel tableEnd fuel vtdIndex dmarHeader state =
      some (state, .success) := by
  cases fuel with
  | zero => rw [processTable, if_neg outside, Outcome.success]
  | succ fuel => rw [processTable, if_neg outside, Outcome.success]

/-- The turn of the loop for a structure. -/
theorem processTable_inside (stored : entry.StoredAt memory dmarHeader)
    (inside : dmarHeader < tableEnd) (fuel vtdIndex : Nat) (state : VtdState) :
    processTable config memory allocateZeroPool drhdFuel tableEnd (fuel + 1) vtdIndex dmarHeader
        state =
      if entry.engine?.isSome then
        (processDhrd config memory allocateZeroPool drhdFuel vtdIndex dmarHeader state).andThen
          (processTable config memory allocateZeroPool drhdFuel tableEnd fuel (vtdIndex + 1)
            (dmarHeader + entry.length))
      else processTable config memory allocateZeroPool drhdFuel tableEnd fuel vtdIndex
        (dmarHeader + entry.length) state := by
  have length := DmarStructure.structureLength_eq stored
  have kind := DmarStructure.structureType_eq stored
  rw [structureLength] at length
  rw [structureType] at kind
  rw [processTable, if_pos inside]
  dsimp only
  rw [length, kind]
  simp only [DmarStructure.type_eq_drhd_iff stored]

/-- A walk that comes through has set the engines of its structures, and those before stay. -/
theorem processTable_engines (fuel vtdIndex : Nat) {state after : VtdState}
    (stored : StructuresAt memory tableEnd dmarHeader structures)
    (run : processTable config memory allocateZeroPool drhdFuel tableEnd fuel vtdIndex dmarHeader
      state = some (after, .success)) :
    (∀ index < vtdIndex, (after.units index).engine = (state.units index).engine) ∧
      ∀ index engine, (enginesOf structures)[index]? = some engine →
        (after.units (vtdIndex + index)).engine = engine := by
  induction structures generalizing fuel vtdIndex dmarHeader state with
  | nil =>
      rw [processTable_outside stored.outside] at run
      cases run
      exact ⟨fun _ _ => rfl, fun index engine listed => by cases listed⟩
  | cons entry rest ih =>
      obtain ⟨here, inside, later⟩ := stored.cons
      cases fuel with
      | zero =>
          rw [processTable, if_pos inside] at run
          cases run
      | succ fuel =>
          rw [processTable_inside here inside] at run
          cases entry with
          | drhd flags segmentNumber registerBaseAddress scopes =>
              obtain ⟨middle, first, second⟩ := Outcome.of_andThen_success run
              have set := processDhrd_engines dmarHeader _ first
              obtain ⟨before, behind⟩ := ih fuel (vtdIndex + 1) later second
              refine ⟨fun index below => ?_, fun index engine listed => ?_⟩
              · rw [before index (Nat.lt_succ_of_lt below), set index, setUnit,
                  Function.update_of_ne (Nat.ne_of_lt below)]
              · cases index with
                | zero =>
                    cases listed
                    rw [Nat.add_zero, before vtdIndex (Nat.lt_succ_self _), set vtdIndex]
                    exact engine_setUnit here
                | succ index =>
                    rw [Nat.add_comm index, ← Nat.add_assoc]
                    exact behind index engine listed
          | _ => exact ih fuel vtdIndex later run

theorem getVtdEngineNumber_stored (fuel : Nat)
    (stored : StructuresAt memory tableEnd dmarHeader structures)
    (enough : structures.length ≤ fuel) :
    getVtdEngineNumber memory tableEnd fuel dmarHeader =
      some (enginesOf structures).length := by
  induction structures generalizing fuel dmarHeader with
  | nil =>
      cases fuel with
      | zero => exact if_neg stored.outside
      | succ fuel => exact if_neg stored.outside
  | cons entry rest ih =>
      obtain ⟨here, inside, later⟩ := stored.cons
      obtain ⟨fuel, rfl⟩ := Nat.exists_eq_add_of_le' (Nat.lt_of_lt_of_le (Nat.succ_pos _) enough)
      have length := DmarStructure.structureLength_eq here
      have kind := DmarStructure.structureType_eq here
      rw [structureLength] at length
      rw [structureType] at kind
      rw [getVtdEngineNumber, if_pos inside, length, kind,
        ih fuel later (Nat.le_of_succ_le_succ enough), Option.bind_eq_bind, Option.bind_some]
      simp only [DmarStructure.type_eq_drhd_iff here]
      cases entry <;> rfl

end Table

namespace DmarTable

variable (table : DmarTable) {fuel : Nat}

theorem getVtdEngineNumber_eq (enough : total DmarStructure.length table.structures ≤ fuel) :
    getVtdEngineNumber table.memory (table.address + tableLength table.memory table.address) fuel
      (table.address + sizeofDmarHeader) = some table.engines.length := by
  have count := RecordWalk.length_le_total DmarStructure.length table.structures
    fun entry _ => entry.length_pos
  exact getVtdEngineNumber_stored fuel table.structuresAt (Nat.le_trans count enough)

/-- The units of a parse that succeeds are the table's engines. -/
theorem parseDmarAcpiTableDrhd_engines {config : Memory} {allocateZeroPool : Nat → Bool}
    (enough : total DmarStructure.length table.structures ≤ fuel) {parsed : VtdState}
    (run : parseDmarAcpiTableDrhd config table.memory allocateZeroPool true fuel table.address =
      some (parsed, .success)) (index : Nat) (engine : Engine)
    (listed : table.engines[index]? = some engine) :
    (parsed.units index).engine = engine := by
  have number := table.getVtdEngineNumber_eq enough
  rw [tableLength] at number
  unfold parseDmarAcpiTableDrhd at run
  dsimp only at run
  rw [number] at run
  dsimp only at run
  split at run
  · cases run
  · rw [if_pos rfl] at run
    have all := (processTable_engines fuel 0 table.structuresAt run).2 index engine listed
    rwa [Nat.zero_add] at all

end DmarTable

end AppEfi.Vtd
