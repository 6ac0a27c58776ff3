import AppEfi.Lib.Loop
import AppEfi.Lib.Memory
import Mathlib.Data.List.Nodup

/-!
# Results of capsules

DmpCapsuleStatusVariable in LsEfiDump.c.  It asks for Capsule0000, Capsule0001, .. up to a
variable that is not found; an index is left behind where its variable is found only.
-/

set_option autoImplicit false

namespace AppEfi.LsEfi

open AppEfi.Loop

/-- An answer of GetVariable2, with the place of the variable's copy. -/
inductive GetVariableResult where
  | found (memory : Memory) (buffer : Nat)
  | notFound
  | failed

/-- The printed lines.  A string of the variable is given by its place. -/
inductive StatusLine where
  | capsuleMax (text : List Nat)
  | capsuleLast (text : List Nat)
  | capsuleName (index : UInt32)
  | capsuleGuid (guid : Nat)
  | capsuleProcessedTime (time : Nat)
  | capsuleStatus (status : Nat)
  | capsuleFmpVersion (version : Nat)
  | capsuleFmpPayloadIndex (payloadIndex : Nat)
  | capsuleFmpUpdateImageIndex (updateImageIndex : Nat)
  | capsuleFmpUpdateImageTypeId (guid : Nat)
  | capsuleFmpCapsuleFileName (place : Nat)
  | capsuleFmpCapsuleTarget (place : Nat)
  deriving DecidableEq

def sizeofCapsuleResultVariableHeader : Nat := 48

def sizeofCapsuleResultVariableFmp : Nat := 20

section Dump

variable (gEfiFmpCapsuleGuid : Nat) (strSize : Memory → Nat → Nat)

/-- CapsuleIndexData: eleven characters and a NUL behind them. -/
def capsuleIndexData (line : List Nat → StatusLine) : GetVariableResult → List StatusLine
  | .found memory capsuleIndex =>
      [line (((List.range 11).map fun index =>
        memory.readLe (capsuleIndex + 2 * index) 2).takeWhile (· ≠ 0))]
  | _ => []

def capsuleResultLines (index : UInt32) (memory : Memory) (capsuleResult : Nat) :
    List StatusLine :=
  if sizeofCapsuleResultVariableHeader ≤ memory.readLe capsuleResult 4 then
    [.capsuleName index, .capsuleGuid (memory.readLe (capsuleResult + 8) 16),
      .capsuleProcessedTime (memory.readLe (capsuleResult + 24) 16),
      .capsuleStatus (memory.readLe (capsuleResult + 40) 8)]
  else []

def capsuleResultFmpLines (memory : Memory) (capsuleResult : Nat) : List StatusLine :=
  if memory.readLe (capsuleResult + 8) 16 = gEfiFmpCapsuleGuid ∧
      sizeofCapsuleResultVariableHeader + sizeofCapsuleResultVariableFmp + 2 * 2 ≤
        memory.readLe capsuleResult 4 then
    let capsuleResultFmp := capsuleResult + sizeofCapsuleResultVariableHeader
    let capsuleFileName := capsuleResultFmp + sizeofCapsuleResultVariableFmp
    [.capsuleFmpVersion (memory.readLe capsuleResultFmp 2),
      .capsuleFmpPayloadIndex (memory.readLe (capsuleResultFmp + 2) 1),
      .capsuleFmpUpdateImageIndex (memory.readLe (capsuleResultFmp + 3) 1),
      .capsuleFmpUpdateImageTypeId (memory.readLe (capsuleResultFmp + 4) 16),
      .capsuleFmpCapsuleFileName capsuleFileName,
      .capsuleFmpCapsuleTarget (capsuleFileName + strSize memory capsuleFileName)]
  else []

/-- `visited` are the indexes that the variable services have been asked for. -/
structure StatusState where
  index : UInt32
  visited : List UInt32
  lines : List StatusLine

/-- A turn of the loop, where `results` are the answers to the calls in turn. -/
def statusTurn (results : Nat → GetVariableResult) (state : StatusState) :
    Control StatusState StatusState :=
  let asked := { state with visited := state.visited ++ [state.index] }
  match results state.visited.length with
  | .notFound => .stop asked
  | .failed => .next asked
  | .found memory capsuleResult =>
      let shown := { asked with
        lines := state.lines ++ capsuleResultLines state.index memory capsuleResult ++
          capsuleResultFmpLines gEfiFmpCapsuleGuid strSize memory capsuleResult
        index := state.index + 1 }
      if 0xFFFF < shown.index then .stop shown else .next shown

/-- `capsuleMax` and `capsuleLast` are the answers for these two variables. -/
def dmpCapsuleStatusVariable (capsuleMax capsuleLast : GetVariableResult)
    (results : Nat → GetVariableResult) (fuel : Nat) : Option StatusState :=
  loop (statusTurn gEfiFmpCapsuleGuid strSize results) fuel
    { index := 0
      visited := []
      lines := capsuleIndexData .capsuleMax capsuleMax ++
        capsuleIndexData .capsuleLast capsuleLast }

/-- The loop ends, and has asked for no index twice. -/
def VisitsOnce (capsuleMax capsuleLast : GetVariableResult)
    (results : Nat → GetVariableResult) : Prop :=
  ∃ fuel last, dmpCapsuleStatusVariable gEfiFmpCapsuleGuid strSize capsuleMax capsuleLast results
    fuel = some last ∧ last.visited.Nodup

/-- The variables of the first calls are found. -/
def FoundBefore (results : Nat → GetVariableResult) (call : Nat) : Prop :=
  ∀ earlier < call, ∃ memory buffer, results earlier = .found memory buffer

section Proofs

variable {gEfiFmpCapsuleGuid : Nat} {strSize : Memory → Nat → Nat}
variable {results : Nat → GetVariableResult}

/-- As many indexes as calls: the calls so far have found their variables. -/
structure Ascending (results : Nat → GetVariableResult) (state : StatusState) : Prop where
  calls : state.visited.length = state.index.toNat
  below : ∀ index ∈ state.visited, index < state.index
  inside : state.index.toNat < 0x10000
  found : FoundBefore results state.visited.length
  nodup : state.visited.Nodup

theorem nodup_visit {state : StatusState} (ascending : Ascending results state) :
    (state.visited ++ [state.index]).Nodup := by
  rw [← List.concat_eq_append, List.nodup_concat]
  refine ⟨fun listed => ?_, ascending.nodup⟩
  exact absurd (ascending.below _ listed) (UInt32.lt_irrefl _)

theorem foundBefore_succ {call : Nat} {memory : Memory} {buffer : Nat}
    (before : FoundBefore results call) (found : results call = .found memory buffer) :
    FoundBefore results (call + 1) := by
  intro earlier lt
  rcases Nat.lt_succ_iff_lt_or_eq.mp lt with lower | rfl
  · exact before earlier lower
  · exact ⟨memory, buffer, found⟩

theorem toNat_index_succ {index : UInt32} (inside : index.toNat < 0x10000) :
    (index + 1).toNat = index.toNat + 1 := by
  have one : (1 : UInt32).toNat = 1 := rfl
  rw [UInt32.toNat_add, one]
  omega

theorem ascending_start {start : StatusState} (index : start.index = 0)
    (visited : start.visited = []) : Ascending results start := by
  constructor
  · rw [visited, index]
    rfl
  · simp [visited]
  · rw [index]
    decide
  · intro earlier lt
    rw [visited] at lt
    exact absurd lt (Nat.not_lt_zero _)
  · simp [visited]

/-- A turn whose variable is found goes on to the next index. -/
theorem ascending_found {state after : StatusState} {memory : Memory} {buffer : Nat}
    (ascending : Ascending results state)
    (found : results state.visited.length = .found memory buffer)
    (more : ¬ 0xFFFF < state.index + 1) (index : after.index = state.index + 1)
    (visited : after.visited = state.visited ++ [state.index]) : Ascending results after := by
  have next := toNat_index_succ ascending.inside
  constructor
  · rw [visited, index, List.length_append, List.length_singleton, ascending.calls, next]
  · rw [visited, index, List.forall_mem_append]
    refine ⟨fun earlier listed => ?_, fun only same => ?_⟩
    · have below := UInt32.lt_iff_toNat_lt.mp (ascending.below earlier listed)
      rw [UInt32.lt_iff_toNat_lt, next]
      omega
    · rw [List.mem_singleton.mp same, UInt32.lt_iff_toNat_lt, next]
      exact Nat.lt_succ_self _
  · rw [UInt32.lt_iff_toNat_lt] at more
    have last : (0xFFFF : UInt32).toNat = 0xFFFF := rfl
    rw [index]
    omega
  · rw [visited, List.length_append, List.length_singleton]
    exact foundBefore_succ ascending.found found
  · rw [visited]
    exact nodup_visit ascending

/-- Every index up to the first failure is visited in its turn. -/
theorem exists_comes {start : StatusState} (first : Ascending results start)
    (visited : start.visited = []) {call : Nat} (inside : call < 0x10000)
    (found : FoundBefore results call) :
    ∃ state, Comes (statusTurn gEfiFmpCapsuleGuid strSize results) start state ∧
      Ascending results state ∧ state.visited.length = call := by
  induction call with
  | zero => exact ⟨start, Comes.start, first, by rw [visited]; rfl⟩
  | succ call ih =>
      obtain ⟨state, comes, ascending, length⟩ := ih (Nat.lt_of_succ_lt inside)
        fun earlier lt => found earlier (Nat.lt_succ_of_lt lt)
      obtain ⟨memory, buffer, answer⟩ := found call (Nat.lt_succ_self call)
      rw [← length] at answer
      have more : ¬ 0xFFFF < state.index + 1 := by
        have last : (0xFFFF : UInt32).toNat = 0xFFFF := rfl
        rw [UInt32.lt_iff_toNat_lt, toNat_index_succ ascending.inside, last]
        have calls := ascending.calls
        omega
      have turn : ∃ lines, statusTurn gEfiFmpCapsuleGuid strSize results state =
          .next ⟨state.index + 1, state.visited ++ [state.index], lines⟩ := by
        rw [statusTurn, answer]
        exact ⟨_, if_neg more⟩
      obtain ⟨lines, turn⟩ := turn
      refine ⟨_, comes.next turn, ascending_found ascending answer more rfl rfl, ?_⟩
      rw [List.length_append, List.length_singleton, length]

/-- An index has been visited twice, or the next call will. -/
def Repeats (state : StatusState) : Prop := ¬ state.visited.Nodup ∨ state.index ∈ state.visited

theorem not_nodup_visit {state : StatusState} (repeats : Repeats state) :
    ¬ (state.visited ++ [state.index]).Nodup := by
  rw [← List.concat_eq_append, List.nodup_concat]
  rintro ⟨fresh, nodup⟩
  exact repeats.elim (fun twice => twice nodup) fun listed => fresh listed

theorem repeats_next {before after : StatusState} (repeats : Repeats before)
    (turn : statusTurn gEfiFmpCapsuleGuid strSize results before = .next after) :
    Repeats after := by
  left
  have twice := not_nodup_visit repeats
  rw [statusTurn] at turn
  split at turn
  · cases turn
  · cases turn
    exact twice
  · dsimp only at turn
    split at turn
    · cases turn
    · cases turn
      exact twice

theorem repeats_stop {before last : StatusState} (repeats : Repeats before)
    (turn : statusTurn gEfiFmpCapsuleGuid strSize results before = .stop last) :
    ¬ last.visited.Nodup := by
  have twice := not_nodup_visit repeats
  rw [statusTurn] at turn
  split at turn
  · cases turn
    exact twice
  · cases turn
  · dsimp only at turn
    split at turn
    · cases turn
      exact twice
    · cases turn

/-- A failure leaves the index behind that has been asked for. -/
theorem not_visitsOnce_of_failed {capsuleMax capsuleLast : GetVariableResult} {call : Nat}
    (inside : call < 0x10000) (found : FoundBefore results call)
    (failed : results call = .failed) :
    ¬ VisitsOnce gEfiFmpCapsuleGuid strSize capsuleMax capsuleLast results := by
  rintro ⟨fuel, last, run, nodup⟩
  obtain ⟨final, ends, stops⟩ := exists_loop_iff.mp ⟨fuel, run⟩
  obtain ⟨state, comes, _, length⟩ := @exists_comes gEfiFmpCapsuleGuid strSize results
    { index := 0, visited := [], lines := _ } (ascending_start rfl rfl) rfl call inside found
  rw [← length] at failed
  have again : statusTurn gEfiFmpCapsuleGuid strSize results state =
      .next { state with visited := state.visited ++ [state.index] } := by
    rw [statusTurn]
    simp only [failed]
  have onWay := (comes.next again).on_way ends stops
  have repeats : Repeats final := by
    refine onWay.invariant ?_ fun _ _ => repeats_next
    exact Or.inr (List.mem_append_right _ (List.mem_singleton_self _))
  exact repeats_stop repeats stops nodup

/-- Without a failure every call is for a new index. -/
theorem statusTurn_establishes
    (noFailure : ∀ call < 0x10000, FoundBefore results call → results call ≠ .failed)
    (state : StatusState) (ascending : Ascending results state) :
    Establishes (Ascending results) (fun last => last.visited.Nodup)
      (fun state => 0x10000 - state.index.toNat) state
      (statusTurn gEfiFmpCapsuleGuid strSize results state) := by
  have visit := nodup_visit ascending
  have calls := ascending.calls
  have inside := ascending.inside
  rw [statusTurn]
  cases answer : results state.visited.length with
  | notFound => exact visit
  | failed =>
      exact absurd answer (noFailure _ (by omega) ascending.found)
  | found memory buffer =>
      dsimp only
      split
      · exact visit
      · next more =>
          refine ⟨ascending_found ascending answer more rfl rfl, ?_⟩
          have next := toNat_index_succ inside
          dsimp only
          omega

/-- An error other than EFI_NOT_FOUND in front of the first EFI_NOT_FOUND makes the loop ask for
the same index again. -/
theorem visitsOnce_iff (capsuleMax capsuleLast : GetVariableResult)
    (results : Nat → GetVariableResult) :
    VisitsOnce gEfiFmpCapsuleGuid strSize capsuleMax capsuleLast results ↔
      ∀ call < 0x10000, FoundBefore results call → results call ≠ .failed := by
  constructor
  · intro once call inside found failed
    exact not_visitsOnce_of_failed inside found failed once
  · intro noFailure
    obtain ⟨last, run, nodup⟩ := loop_returns (fun state => 0x10000 - state.index.toNat)
      (statusTurn_establishes noFailure) 0x10001
      { index := 0
        visited := []
        lines := capsuleIndexData .capsuleMax capsuleMax ++
          capsuleIndexData .capsuleLast capsuleLast } (ascending_start rfl rfl) (by omega)
    exact ⟨0x10001, last, run, nodup⟩

/-- The variable services fail for Capsule0000 whenever they are asked. -/
theorem not_visitsOnce_deviceError :
    ¬ VisitsOnce 0 (fun _ _ => 2) .notFound .notFound fun _ => .failed :=
  not_visitsOnce_of_failed (Nat.succ_pos _) (fun _ lt => absurd lt (Nat.not_lt_zero _)) rfl

end Proofs

end Dump

end AppEfi.LsEfi
