import Mathlib.Data.List.Infix

/-!
# Runs of a step function

A program that is started again and again on the state its last run left.
-/

set_option autoImplicit false

namespace AppEfi.Runs

variable {State Input : Type}

def run (step : Input → State → State) (state : State) (inputs : List Input) : State :=
  inputs.foldl (fun current input => step input current) state

/-- `holds` of every input together with the state that it starts from. -/
def EveryStep (step : Input → State → State) (holds : Input → State → Prop) :
    State → List Input → Prop
  | _, [] => True
  | state, input :: rest => holds input state ∧ EveryStep step holds (step input state) rest

variable {step : Input → State → State}

@[simp] theorem run_nil (state : State) : run step state [] = state := rfl

@[simp] theorem run_cons (state : State) (input : Input) (rest : List Input) :
    run step state (input :: rest) = run step (step input state) rest := rfl

theorem run_concat (state : State) (inputs : List Input) (input : Input) :
    run step state (inputs ++ [input]) = step input (run step state inputs) := by
  simp only [run, List.foldl_append, List.foldl_cons, List.foldl_nil]

theorem everyStep_of_forall {holds : Input → State → Prop} (all : ∀ input state, holds input state)
    (state : State) (inputs : List Input) : EveryStep step holds state inputs := by
  induction inputs generalizing state with
  | nil => trivial
  | cons input rest ih => exact ⟨all input state, ih _⟩

/-- Where each input of a run sets a view of the state or leaves it, the last that sets it
decides. -/
theorem view_run_of_every {Value : Type} {holds : Input → State → Prop} (view : State → Value)
    {effect : Input → Option Value}
    (sets : ∀ input state, holds input state →
      view (step input state) = (effect input).getD (view state))
    (inputs : List Input) (state : State) (every : EveryStep step holds state inputs) :
    view (run step state inputs) = (inputs.reverse.findSome? effect).getD (view state) := by
  induction inputs generalizing state with
  | nil => rfl
  | cons input rest ih =>
      rw [run_cons, ih _ every.2, sets _ _ every.1, List.reverse_cons, List.findSome?_append]
      cases rest.reverse.findSome? effect with
      | some value => rfl
      | none =>
          rw [Option.none_or, List.findSome?_cons, Option.getD_none]
          cases effect input <;> rfl

theorem view_run {Value : Type} (view : State → Value) {effect : Input → Option Value}
    (sets : ∀ input state, view (step input state) = (effect input).getD (view state))
    (state : State) (inputs : List Input) :
    view (run step state inputs) = (inputs.reverse.findSome? effect).getD (view state) := by
  have every : EveryStep step (fun _ _ => True) state inputs :=
    everyStep_of_forall (fun _ _ => trivial) state inputs
  exact view_run_of_every view (fun input current _ => sets input current) inputs state every

/-- What each turn may set and none takes back. -/
theorem foldl_iff {turn : State → Input → State} {holds : State → Prop} {sets : Input → Prop}
    (each : ∀ state input, holds (turn state input) ↔ holds state ∨ sets input)
    (inputs : List Input) (state : State) :
    holds (inputs.foldl turn state) ↔ holds state ∨ ∃ input ∈ inputs, sets input := by
  induction inputs generalizing state with
  | nil => simp
  | cons input rest ih =>
      rw [List.foldl_cons, ih, each, or_assoc]
      simp only [List.mem_cons, exists_eq_or_imp]

/-- An invariant that a step keeps as long as it does what is expected of it.
Where the invariant holds, what is expected can be replaced by the condition
under which it happens. -/
theorem everyStep_iff {Invariant : State → Prop} {allowed expected condition : Input → State → Prop}
    (same : ∀ input state, Invariant state → allowed input state →
      (expected input state ↔ condition input state))
    (keeps : ∀ input state, Invariant state → allowed input state → expected input state →
      Invariant (step input state))
    (inputs : List Input) :
    ∀ state, Invariant state → EveryStep step allowed state inputs →
      (EveryStep step expected state inputs ↔ EveryStep step condition state inputs) := by
  induction inputs with
  | nil =>
      intro state _ _
      exact Iff.rfl
  | cons input rest ih =>
      intro state invariant permitted
      have stepSame := same input state invariant permitted.1
      constructor
      · intro all
        have next := keeps input state invariant permitted.1 all.1
        exact ⟨stepSame.mp all.1, (ih _ next permitted.2).mp all.2⟩
      · intro all
        have done := stepSame.mpr all.1
        have next := keeps input state invariant permitted.1 done
        exact ⟨done, (ih _ next permitted.2).mpr all.2⟩

end AppEfi.Runs
