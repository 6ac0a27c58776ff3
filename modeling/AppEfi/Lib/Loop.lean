import Mathlib.Logic.Relation
import Mathlib.Order.Basic

/-!
# Loops that leave early

The body of a loop either goes on with a new state or stops with a result.  A
loop whose body keeps an invariant and lowers a measure returns, and what it
returns has the postcondition of the iteration that stopped it.
-/

set_option autoImplicit false

namespace AppEfi.Loop

variable {State Result : Type}

inductive Control (State Result : Type) where
  | next (state : State)
  | stop (result : Result)

/-- `none` means that `fuel` iterations did not end the loop. -/
def loop (body : State → Control State Result) : Nat → State → Option Result
  | 0, _ => none
  | fuel + 1, state =>
      match body state with
      | .next after => loop body fuel after
      | .stop result => some result

/-- The states that a loop comes to. -/
inductive Comes (body : State → Control State Result) (start : State) : State → Prop where
  | start : Comes body start start
  | next {state after : State} (comes : Comes body start state)
      (turn : body state = .next after) : Comes body start after

theorem Comes.head {body : State → Control State Result} {start after state : State}
    (turn : body start = .next after) (comes : Comes body after state) :
    Comes body start state := by
  induction comes with
  | start => exact Comes.start.next turn
  | next _ turn ih => exact ih.next turn

theorem Comes.eq_of_stop {body : State → Control State Result} {start state : State}
    {result : Result} (stops : body start = .stop result) (comes : Comes body start state) :
    state = start := by
  induction comes with
  | start => rfl
  | next _ turn ih =>
      rw [ih, stops] at turn
      cases turn

theorem Comes.cases_head {body : State → Control State Result} {start state : State}
    (comes : Comes body start state) :
    state = start ∨ ∃ after, body start = .next after ∧ Comes body after state := by
  induction comes with
  | start => exact Or.inl rfl
  | @next before after _ turn ih =>
      right
      rcases ih with rfl | ⟨second, first, later⟩
      · exact ⟨after, turn, Comes.start⟩
      · exact ⟨second, first, later.next turn⟩

/-- What every turn keeps holds wherever the loop comes to. -/
theorem Comes.invariant {body : State → Control State Result} {start state : State}
    {Invariant : State → Prop} (initial : Invariant start)
    (kept : ∀ before after, Invariant before → body before = .next after → Invariant after)
    (comes : Comes body start state) : Invariant state := by
  induction comes with
  | start => exact initial
  | next _ turn ih => exact kept _ _ ih turn

section Ends

variable {body : State → Control State Result} {start state last : State} {result other : Result}

/-- Every state that a loop comes to lies on its way to the end. -/
theorem Comes.on_way (comes : Comes body start state) (ends : Comes body start last)
    (stops : body last = .stop result) : Comes body state last := by
  induction comes with
  | start => exact ends
  | next _ turn ih =>
      rcases ih.cases_head with rfl | ⟨after, first, later⟩
      · rw [turn] at stops
        cases stops
      · rw [turn] at first
        cases first
        exact later

/-- A loop returns what it stops with in a state that it comes to. -/
theorem exists_loop_iff :
    (∃ fuel, loop body fuel start = some result) ↔
      ∃ state, Comes body start state ∧ body state = .stop result := by
  constructor
  · rintro ⟨fuel, run⟩
    induction fuel generalizing start with
    | zero => cases run
    | succ fuel ih =>
        rw [loop] at run
        cases turn : body start with
        | next after =>
            rw [turn] at run
            obtain ⟨state, comes, stops⟩ := ih run
            exact ⟨state, comes.head turn, stops⟩
        | stop other =>
            rw [turn] at run
            cases run
            exact ⟨start, Comes.start, turn⟩
  · rintro ⟨state, comes, stops⟩
    have here : ∃ fuel, loop body fuel state = some result := ⟨1, by rw [loop, stops]⟩
    clear stops
    induction comes with
    | start => exact here
    | next _ turn ih =>
        obtain ⟨fuel, run⟩ := here
        exact ih ⟨fuel + 1, by rw [loop, turn]; exact run⟩

theorem loop_of_le {fuel more : Nat} (run : loop body fuel start = some result)
    (le : fuel ≤ more) : loop body more start = some result := by
  induction fuel generalizing start more with
  | zero => cases run
  | succ fuel ih =>
      obtain ⟨more, rfl⟩ := Nat.exists_eq_add_of_le' (Nat.lt_of_lt_of_le fuel.succ_pos le)
      rw [loop] at run ⊢
      cases turn : body start with
      | next after =>
          rw [turn] at run
          exact ih run (Nat.le_of_succ_le_succ le)
      | stop other =>
          rw [turn] at run
          exact run

theorem Comes.stop_unique (comes : Comes body start state) (stops : body state = .stop result)
    (comesLast : Comes body start last) (stopsLast : body last = .stop other) :
    result = other := by
  obtain rfl := (comes.on_way comesLast stopsLast).eq_of_stop stops
  rw [stops] at stopsLast
  exact Control.stop.inj stopsLast

/-- A loop that stops somewhere returns nothing else. -/
theorem Comes.result_eq {fuel : Nat} (comes : Comes body start state)
    (stops : body state = .stop result) (run : loop body fuel start = some other) :
    other = result := by
  obtain ⟨last, comesLast, stopsLast⟩ := exists_loop_iff.mp ⟨fuel, run⟩
  exact comesLast.stop_unique stopsLast comes stops

/-- States that a loop does not leave keep it from ending. -/
theorem not_ends_of_closed (Within : State → Prop) (within : Within start)
    (closed : ∀ state, Within state → ∃ after, body state = .next after ∧ Within after) :
    ¬ ∃ state result, Comes body start state ∧ body state = .stop result := by
  rintro ⟨state, result, comes, stops⟩
  have kept : Within state := by
    refine comes.invariant within fun before after inside turn => ?_
    obtain ⟨other, next, kept⟩ := closed before inside
    rw [turn] at next
    cases next
    exact kept
  obtain ⟨after, next, _⟩ := closed state kept
  rw [stops] at next
  cases next

end Ends

/-- What an iteration must establish, by how it ended. -/
def Establishes (Invariant : State → Prop) (Post : Result → Prop) (measure : State → Nat)
    (before : State) : Control State Result → Prop
  | .next after => Invariant after ∧ measure after < measure before
  | .stop result => Post result

/-- The rule for total correctness. -/
theorem loop_returns (measure : State → Nat) {body : State → Control State Result}
    {Invariant : State → Prop} {Post : Result → Prop}
    (iteration : ∀ state, Invariant state →
      Establishes Invariant Post measure state (body state))
    (fuel : Nat) (state : State) (initial : Invariant state)
    (enough : measure state < fuel) :
    ∃ result, loop body fuel state = some result ∧ Post result := by
  induction fuel generalizing state with
  | zero => exact absurd enough (Nat.not_lt_zero _)
  | succ fuel ih =>
      have established := iteration state initial
      rw [loop]
      cases outcome : body state with
      | stop result =>
          rw [outcome] at established
          exact ⟨result, rfl, established⟩
      | next after =>
          rw [outcome] at established
          obtain ⟨kept, lower⟩ := established
          exact ih after kept (by omega)

section Places

variable {follows : Nat → Nat → Prop} {start first second : Nat}

theorem le_of_reaches (increases : ∀ place next, follows place next → place < next)
    (reaches : Relation.ReflTransGen follows first second) : first ≤ second := by
  induction reaches with
  | refl => exact Nat.le_refl _
  | tail _ step ih => exact Nat.le_trans ih (Nat.le_of_lt (increases _ _ step))

/-- Where the places lie one behind the other, none lies between a place and the next one. -/
theorem exists_next_le (unique : Relator.RightUnique follows)
    (increases : ∀ place next, follows place next → place < next)
    (isFirst : Relation.ReflTransGen follows start first)
    (isSecond : Relation.ReflTransGen follows start second) (less : first < second) :
    ∃ next, follows first next ∧ next ≤ second := by
  rcases Relation.ReflTransGen.total_of_right_unique unique isFirst isSecond with
    forward | backward
  · rcases forward.cases_head with same | ⟨next, step, later⟩
    · exact absurd same (Nat.ne_of_lt less)
    · exact ⟨next, step, le_of_reaches increases later⟩
  · exact absurd (le_of_reaches increases backward) (Nat.not_le.mpr less)

end Places

end AppEfi.Loop
