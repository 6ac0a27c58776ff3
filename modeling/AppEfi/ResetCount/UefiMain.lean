import Mathlib.Data.List.Infix
import AppEfi.Lib.Runs

/-!
# The reset counter

`UefiMain` of ResetCountApp.c over the non-volatile counter variable, and the
runs of the application across resets.  `GetVariable` fails only where the
variable is absent, and then leaves `Count` as it is; `SetVariable` succeeds.
A UINTN has `w` bits.
-/

set_option autoImplicit false

namespace AppEfi.ResetCount

open AppEfi.Runs

variable {w : Nat}

inductive Status where
  | success
  | notFound
  | invalidParameter
  deriving DecidableEq

/-- One start of the application: its arguments, what the local variable `Count`
happens to hold, and whether the user lets the reset happen. -/
structure Start (w : Nat) where
  argv : List String
  count : BitVec w
  continued : Bool

structure Outcome (w : Nat) where
  counter : Option (BitVec w)
  reported : Option (BitVec w)
  prompted : Bool
  reset : Bool
  status : Status
  deriving DecidableEq

def printUsage (counter : Option (BitVec w)) : Outcome w :=
  { counter := counter, reported := none, prompted := false, reset := false,
    status := .invalidParameter }

/-- From `WaitUserInput` on. -/
def waitAndReset (start : Start w) (count : BitVec w) (counter : Option (BitVec w)) : Outcome w :=
  { counter := counter, reported := some count, prompted := true, reset := start.continued,
    status := .success }

/-- `-run` and `-setcount`: without the variable `Count` keeps its old value, and
it is incremented all the same. -/
def nextCount (start : Start w) (counter : Option (BitVec w)) : BitVec w :=
  counter.getD start.count + 1

/-- `-setcount` with a number. -/
def targetReached (strHexToUintn : String → BitVec w) (count : BitVec w) : List String → Bool
  | target :: _ => decide (strHexToUintn target ≤ count)
  | [] => false

def uefiMain (strHexToUintn : String → BitVec w) (start : Start w)
    (counter : Option (BitVec w)) : Outcome w :=
  match start.argv with
  | _ :: option :: rest =>
      if option = "-help" then printUsage counter
      else if option = "-info" then
        { counter := counter, reported := some (counter.getD 0), prompted := false, reset := false,
          status := if counter.isSome then .success else .notFound }
      else if option = "-clean" then
        { counter := some 0, reported := some start.count, prompted := false, reset := false,
          status := .success }
      else if option = "-run" then
        waitAndReset start (nextCount start counter) (some (nextCount start counter))
      else if option = "-setcount" then
        let count := nextCount start counter
        if targetReached strHexToUintn count rest then
          { counter := some count, reported := some count, prompted := false, reset := false,
            status := .success }
        else waitAndReset start count (some count)
      else waitAndReset start start.count counter
  | _ => printUsage counter

/-! ## The count across runs -/

def Start.option (start : Start w) : Option String := start.argv[1]?

def Start.Counts (start : Start w) : Prop :=
  start.option = some "-run" ∨ start.option = some "-setcount"

instance (start : Start w) : Decidable start.Counts :=
  inferInstanceAs (Decidable (_ ∨ _))

/-- The `-run` and `-setcount` starts since the last `-clean`. -/
def countedStarts (starts : List (Start w)) : Nat :=
  starts.foldl
    (fun number start =>
      if start.option = some "-clean" then 0
      else if start.Counts then number + 1 else number) 0

/-- An absent variable counts as 0, as `-info` reports it. -/
def storedCount (counter : Option (BitVec w)) : BitVec w := counter.getD 0

section Runs

variable (strHexToUintn : String → BitVec w)

/-- The variable after these starts, absent at first. -/
def counterAfter (starts : List (Start w)) : Option (BitVec w) :=
  run (fun start counter => (uefiMain strHexToUintn start counter).counter) none starts

/-- After every start the variable holds the number of counted starts. -/
def CountsStarts (starts : List (Start w)) : Prop :=
  ∀ done, done <+: starts →
    storedCount (counterAfter strHexToUintn done) = BitVec.ofNat w (countedStarts done)

/-- `-setcount N` goes to the prompt as long as the count is below `N`. -/
def PromptsBelowTarget (starts : List (Start w)) : Prop :=
  ∀ done start, done ++ [start] <+: starts →
    ∀ target, start.option = some "-setcount" → start.argv[2]? = some target →
      ((uefiMain strHexToUintn start (counterAfter strHexToUintn done)).prompted = true ↔
        BitVec.ofNat w (countedStarts (done ++ [start])) < strHexToUintn target)

/-- A counted start without the variable finds `Count` zero. -/
def FirstCountIsZero (starts : List (Start w)) : Prop :=
  ∀ done start, done ++ [start] <+: starts → start.Counts →
    counterAfter strHexToUintn done = none → start.count = 0

theorem counterAfter_concat (done : List (Start w)) (start : Start w) :
    counterAfter strHexToUintn (done ++ [start]) =
      (uefiMain strHexToUintn start (counterAfter strHexToUintn done)).counter :=
  run_concat none done start

theorem countedStarts_concat (done : List (Start w)) (start : Start w) :
    countedStarts (done ++ [start]) =
      if start.option = some "-clean" then 0
      else if start.Counts then countedStarts done + 1 else countedStarts done := by
  simp only [countedStarts, List.foldl_append, List.foldl_cons, List.foldl_nil]

theorem counter_uefiMain (start : Start w) (counter : Option (BitVec w)) :
    (uefiMain strHexToUintn start counter).counter =
      if start.option = some "-clean" then some 0
      else if start.Counts then some (nextCount start counter) else counter := by
  obtain ⟨argv, count, continued⟩ := start
  rcases argv with _ | ⟨application, _ | ⟨option, rest⟩⟩
  · rfl
  · rfl
  · simp only [uefiMain, Start.Counts, Start.option, List.getElem?_cons_succ,
      List.getElem?_cons_zero, Option.some.injEq]
    by_cases help : option = "-help"
    · simp [help, printUsage]
    by_cases info : option = "-info"
    · simp [info]
    by_cases clean : option = "-clean"
    · simp [clean]
    by_cases always : option = "-run"
    · simp [always, waitAndReset]
    by_cases limited : option = "-setcount"
    · rw [if_neg help, if_neg info, if_neg clean, if_neg always, if_pos limited, if_neg clean,
        if_pos (Or.inr limited)]
      split
      · rfl
      · rfl
    · simp [help, info, clean, always, limited, waitAndReset]

theorem prompted_uefiMain {start : Start w} {target : String}
    (limited : start.option = some "-setcount") (given : start.argv[2]? = some target)
    (counter : Option (BitVec w)) :
    (uefiMain strHexToUintn start counter).prompted = true ↔
      nextCount start counter < strHexToUintn target := by
  obtain ⟨argv, count, continued⟩ := start
  rcases argv with _ | ⟨application, _ | ⟨option, _ | ⟨second, rest⟩⟩⟩
  · cases given
  · cases given
  · cases given
  · cases given
    cases limited
    simp [uefiMain, targetReached, waitAndReset, apply_ite Outcome.prompted]

variable {strHexToUintn} in
theorem countsStarts_of_firstCountIsZero {starts : List (Start w)}
    (zero : FirstCountIsZero strHexToUintn starts) : CountsStarts strHexToUintn starts := by
  intro done
  induction done using List.reverseRecOn with
  | nil =>
      intro _
      rfl
  | append_singleton done start ih =>
      intro isPrefix
      have before := ih ((List.prefix_append done [start]).trans isPrefix)
      rw [counterAfter_concat, counter_uefiMain, countedStarts_concat]
      by_cases clean : start.option = some "-clean"
      · rw [if_pos clean, if_pos clean]
        rfl
      rw [if_neg clean, if_neg clean]
      by_cases counts : start.Counts
      · rw [if_pos counts, if_pos counts, BitVec.ofNat_add, ← before]
        cases present : counterAfter strHexToUintn done with
        | none =>
            have first := zero done start isPrefix counts present
            simp [storedCount, nextCount, first]
        | some count => simp [storedCount, nextCount]
      · rw [if_neg counts, if_neg counts]
        exact before

variable {strHexToUintn} in
theorem firstCountIsZero_of_countsStarts {starts : List (Start w)}
    (counted : CountsStarts strHexToUintn starts) : FirstCountIsZero strHexToUintn starts := by
  intro done start isPrefix counts absent
  have before := counted done ((List.prefix_append done [start]).trans isPrefix)
  have after := counted (done ++ [start]) isPrefix
  have notClean : start.option ≠ some "-clean" := by
    intro clean
    rcases counts with always | limited
    · rw [clean] at always
      exact absurd always (by decide)
    · rw [clean] at limited
      exact absurd limited (by decide)
  rw [counterAfter_concat, counter_uefiMain, countedStarts_concat, if_neg notClean,
    if_neg notClean, if_pos counts, if_pos counts, BitVec.ofNat_add, ← before, absent] at after
  simpa [storedCount, nextCount] using after

variable {strHexToUintn} in
theorem CountsStarts.promptsBelowTarget {starts : List (Start w)}
    (counted : CountsStarts strHexToUintn starts) :
    PromptsBelowTarget strHexToUintn starts := by
  intro done start isPrefix target limited given
  have after := counted (done ++ [start]) isPrefix
  have counts : start.Counts := Or.inr limited
  have notClean : start.option ≠ some "-clean" := by
    rw [limited]
    decide
  rw [counterAfter_concat, counter_uefiMain, if_neg notClean, if_pos counts] at after
  rw [prompted_uefiMain strHexToUintn limited given, ← after]
  rfl

/-- Over any starts, the variable holds their number and `-setcount` stops in
time exactly when `Count` happens to be zero wherever a counted start finds no
variable. -/
theorem uefiMain_countsStarts_iff (starts : List (Start w)) :
    CountsStarts strHexToUintn starts ∧ PromptsBelowTarget strHexToUintn starts ↔
      FirstCountIsZero strHexToUintn starts := by
  constructor
  · intro counted
    exact firstCountIsZero_of_countsStarts counted.1
  · intro zero
    have counted := countsStarts_of_firstCountIsZero zero
    exact ⟨counted, counted.promptsBelowTarget⟩

/-- The first `-run` stores one more than what the stack held. -/
theorem uefiMain_firstRun :
    ¬ CountsStarts (w := 64) (fun _ => 3) [⟨["ResetCountApp", "-run"], 41, true⟩] := by
  intro counted
  have stored := counted _ (List.prefix_rfl)
  exact absurd stored (by decide)

end Runs

end AppEfi.ResetCount
