import Mathlib.Data.List.Nodup

/-!
# Cursors

A service gives the key behind a key, or says that there is none.  Since the key behind a key
depends on nothing else, a cursor that runs out gives no key twice, and a loop that returns has
come to the end of one.
-/

set_option autoImplicit false

namespace AppEfi.Cursor

section Definitions

variable {Key State : Type}

/-- A cursor gives `keys` from `start` on, and then nothing. -/
inductive Follows (next : Key → Option Key) : Key → List Key → Prop where
  | done {start : Key} (out : next start = none) : Follows next start []
  | more {start key : Key} {rest : List Key} (step : next start = some key)
      (later : Follows next key rest) : Follows next start (key :: rest)

/-- `while ((key = next (key)) != none) body (key)`, with a body that may itself not return. -/
def follow (next : Key → Option Key) (body : Key → State → Option State) :
    Nat → Key → State → Option State
  | 0, _, _ => none
  | fuel + 1, start, state =>
      match next start with
      | none => some state
      | some key => (body key state).bind (follow next body fuel key)

/-- A body for each of the keys. -/
def each (body : Key → State → Option State) : List Key → State → Option State
  | [], state => some state
  | key :: rest, state => (body key state).bind (each body rest)

end Definitions

section Keys

variable {Key : Type} {next : Key → Option Key} {start key : Key} {keys others : List Key}

theorem Follows.unique (first : Follows next start keys) (second : Follows next start others) :
    keys = others := by
  induction first generalizing others with
  | done out =>
      cases second with
      | done _ => rfl
      | more step _ =>
          rw [out] at step
          cases step
  | more step _ ih =>
      cases second with
      | done out =>
          rw [out] at step
          cases step
      | more again later =>
          rw [step] at again
          cases again
          rw [ih later]

/-- Behind one of its keys a cursor has fewer of them. -/
theorem Follows.of_mem (follows : Follows next start keys) (mem : key ∈ keys) :
    ∃ rest, Follows next key rest ∧ rest.length < keys.length := by
  induction follows with
  | done _ => cases mem
  | @more _ head rest step later ih =>
      rcases List.mem_cons.mp mem with rfl | mem
      · exact ⟨rest, later, Nat.lt_succ_self _⟩
      · obtain ⟨behind, follows, shorter⟩ := ih mem
        exact ⟨behind, follows, Nat.lt_succ_of_lt shorter⟩

/-- A cursor that came back to a key would never run out. -/
theorem Follows.notMem_start (follows : Follows next start keys) : start ∉ keys := by
  intro mem
  obtain ⟨rest, again, shorter⟩ := follows.of_mem mem
  rw [follows.unique again] at shorter
  exact Nat.lt_irrefl _ shorter

theorem Follows.nodup (follows : Follows next start keys) : (start :: keys).Nodup := by
  induction follows with
  | done _ => exact List.nodup_singleton _
  | more step later ih => exact List.nodup_cons.mpr ⟨(Follows.more step later).notMem_start, ih⟩

/-- What no key may be is none of them. -/
theorem Follows.notMem_of_next (follows : Follows next start keys)
    (never : ∀ before, next before ≠ some key) : key ∉ keys := by
  intro mem
  induction follows with
  | done _ => cases mem
  | more step _ ih =>
      rcases List.mem_cons.mp mem with rfl | mem
      · exact never _ step
      · exact ih mem

end Keys

section Loops

variable {Key State : Type} {next : Key → Option Key} {start : Key} {keys : List Key}
variable {state last : State}

theorem follow_of_follows {body : Key → State → Option State} {fuel : Nat}
    (follows : Follows next start keys) (enough : keys.length < fuel) :
    follow next body fuel start state = each body keys state := by
  induction follows generalizing state fuel with
  | done out =>
      obtain ⟨fuel, rfl⟩ := Nat.exists_eq_succ_of_ne_zero (Nat.ne_zero_of_lt enough)
      rw [follow, out, each]
  | more step _ ih =>
      obtain ⟨fuel, rfl⟩ := Nat.exists_eq_succ_of_ne_zero (Nat.ne_zero_of_lt enough)
      rw [follow, step, each]
      dsimp only
      congr 1
      funext after
      exact ih (Nat.lt_of_succ_lt_succ enough)

theorem exists_follows_of_follow {body : Key → State → Option State} {fuel : Nat}
    (run : follow next body fuel start state = some last) :
    ∃ keys, Follows next start keys ∧ each body keys state = some last := by
  induction fuel generalizing start state with
  | zero => cases run
  | succ fuel ih =>
      rw [follow] at run
      cases step : next start with
      | none =>
          rw [step] at run
          exact ⟨[], Follows.done step, run⟩
      | some key =>
          rw [step] at run
          obtain ⟨after, first, later⟩ := Option.bind_eq_some_iff.mp run
          obtain ⟨keys, follows, rest⟩ := ih later
          exact ⟨key :: keys, Follows.more step follows,
            Option.bind_eq_some_iff.mpr ⟨after, first, rest⟩⟩

end Loops

end AppEfi.Cursor
