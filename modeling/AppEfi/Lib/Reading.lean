import AppEfi.Lib.Loop
import AppEfi.Lib.Memory
import AppEfi.Lib.Printing
import AppEfi.Lib.Ranges

/-!
# Programs that read a memory

A program here lists the ranges that it reads.  It is given as a family by the fuel of its
loops, and more fuel changes nothing but the end of a run that was stopped.  What holds of
all reads and which values a program ends with then go through sequences and loops by rules
that do not speak of fuel.
-/

set_option autoImplicit false

namespace AppEfi

open AppEfi.Loop
open AppEfi.Printing

namespace Reading

section GoesOn

variable {Line Result Value Other : Type}

/-- The other program is the same, or goes on where this one was stopped. -/
def GoesOn (program other : Program Line Result Value) : Prop :=
  other = program ∨ program.outcome = .unfinished ∧ program.lines <+: other.lines

variable {program other : Program Line Result Value}

theorem GoesOn.refl (program : Program Line Result Value) : GoesOn program program := Or.inl rfl

theorem GoesOn.of_outOfFuel (program : Program Line Result Value) :
    GoesOn outOfFuel program := Or.inr ⟨rfl, List.nil_prefix⟩

theorem GoesOn.linesAre {Good : Line → Prop} (more : GoesOn program other)
    (good : LinesAre Good other) : LinesAre Good program := by
  rcases more with rfl | ⟨_, lines⟩
  · exact good
  · exact fun line listed => good line (lines.subset listed)

theorem GoesOn.outcome_eq {value : Value} (more : GoesOn program other)
    (done : program.outcome = .done value) : other = program := by
  rcases more with same | ⟨stopped, _⟩
  · exact same
  · rw [done] at stopped
    cases stopped

theorem GoesOn.bind {next behind : Value → Program Line Result Other}
    (first : GoesOn program other) (second : ∀ value, GoesOn (next value) (behind value)) :
    GoesOn (program >>= next) (other >>= behind) := by
  change GoesOn (andThen program next) (andThen other behind)
  rcases first with rfl | ⟨stopped, lines⟩
  · unfold andThen
    cases other.outcome with
    | done value =>
        rcases second value with same | ⟨stopped, lines⟩
        · exact Or.inl (by simp only [same])
        · exact Or.inr ⟨stopped, (List.prefix_append_right_inj _).mpr lines⟩
    | returned result => exact GoesOn.refl _
    | unfinished => exact GoesOn.refl _
  · obtain ⟨more, both⟩ := lines_bind other behind
    right
    rw [andThen, stopped]
    refine ⟨rfl, lines.trans ?_⟩
    exact ⟨more, both.symm⟩

end GoesOn

section Growing

variable {Line Result Value Other : Type} {Good : Line → Prop}
variable {runs : Nat → Program Line Result Value} {next : Value → Nat → Program Line Result Other}

theorem done_of_le (grows : ∀ fuel more, fuel ≤ more → GoesOn (runs fuel) (runs more))
    {value : Value} {fuel more : Nat} (done : (runs fuel).outcome = .done value)
    (le : fuel ≤ more) : (runs more).outcome = .done value := by
  rw [(grows fuel more le).outcome_eq done, done]

/-- The runs of a sequence are good with every fuel. -/
theorem forall_linesAre_bind (grows : ∀ fuel more, fuel ≤ more → GoesOn (runs fuel) (runs more))
    (next_grows : ∀ value fuel more, fuel ≤ more → GoesOn (next value fuel) (next value more)) :
    (∀ fuel, LinesAre Good (runs fuel >>= fun value => next value fuel)) ↔
      (∀ fuel, LinesAre Good (runs fuel)) ∧
        ∀ value, (∃ fuel, (runs fuel).outcome = .done value) →
          ∀ fuel, LinesAre Good (next value fuel) := by
  constructor
  · intro all
    refine ⟨fun fuel => (linesAre_bind.mp (all fuel)).1, ?_⟩
    rintro value ⟨fuel, done⟩ more
    have later := (linesAre_bind.mp (all (max fuel more))).2 value
      (done_of_le grows done (Nat.le_max_left fuel more))
    exact (next_grows value more _ (Nat.le_max_right fuel more)).linesAre later
  · rintro ⟨first, later⟩ fuel
    exact linesAre_bind.mpr ⟨first fuel, fun value done => later value ⟨fuel, done⟩ fuel⟩

/-- With the larger fuel of the two both parts come to their ends. -/
theorem exists_bind_done (grows : ∀ fuel more, fuel ≤ more → GoesOn (runs fuel) (runs more))
    (next_grows : ∀ value fuel more, fuel ≤ more → GoesOn (next value fuel) (next value more))
    {result : Other} :
    (∃ fuel, (runs fuel >>= fun value => next value fuel).outcome = .done result) ↔
      ∃ value, (∃ fuel, (runs fuel).outcome = .done value) ∧
        ∃ fuel, (next value fuel).outcome = .done result := by
  constructor
  · rintro ⟨fuel, done⟩
    obtain ⟨value, first, second⟩ := outcome_bind_eq_done.mp done
    exact ⟨value, ⟨fuel, first⟩, fuel, second⟩
  · rintro ⟨value, ⟨fuel, first⟩, more, second⟩
    exact ⟨max fuel more, outcome_bind_eq_done.mpr ⟨value,
      done_of_le grows first (Nat.le_max_left fuel more),
      done_of_le (next_grows value) second (Nat.le_max_right fuel more)⟩⟩

end Growing

end Reading

/-- The runs of a program by fuel. -/
structure Reading (Value : Type) where
  run : Nat → Program Range Empty Value
  grows : ∀ fuel more, fuel ≤ more → Reading.GoesOn (run fuel) (run more)

namespace Reading

section Programs

variable {State Result Value : Type}

instance : Monad Reading where
  pure value := ⟨fun _ => pure value, fun _ _ _ => GoesOn.refl _⟩
  bind reading next :=
    { run := fun fuel => reading.run fuel >>= fun value => (next value).run fuel
      grows := fun fuel more le =>
        (reading.grows fuel more le).bind fun value => (next value).grows fuel more le }

/-- A little-endian load. -/
def read (memory : Memory) (address width : Nat) : Reading Nat where
  run _ := ⟨[⟨address, width⟩], .done (memory.readLe address width)⟩
  grows _ _ _ := GoesOn.refl _

/-- A load whose value is printed only. -/
def look (memory : Memory) (address width : Nat) : Reading Unit := do
  let _ ← read memory address width

/-- A program that does not come back. -/
def deadLoop : Reading Value where
  run _ := outOfFuel
  grows _ _ _ := GoesOn.refl _

/-- `for (i = index; i < index + count; i++) body (i)`. -/
def forIndexes (body : Nat → Reading Unit) : Nat → Nat → Reading Unit
  | 0, _ => pure ()
  | count + 1, index => do
      body index
      forIndexes body count (index + 1)

def turns (turn : State → Program Range Empty (Control State Result)) :
    Nat → State → Program Range Empty Result
  | 0, _ => outOfFuel
  | fuel + 1, state => turn state >>= fun
      | .next after => turns turn fuel after
      | .stop result => pure result

theorem turns_goesOn {turn further : State → Program Range Empty (Control State Result)}
    (each : ∀ state, GoesOn (turn state) (further state)) {fuel more : Nat} (le : fuel ≤ more)
    (state : State) : GoesOn (turns turn fuel state) (turns further more state) := by
  induction fuel generalizing more state with
  | zero => exact GoesOn.of_outOfFuel _
  | succ fuel ih =>
      obtain ⟨more, rfl⟩ := Nat.exists_eq_add_of_le' (Nat.lt_of_lt_of_le fuel.succ_pos le)
      refine (each state).bind fun outcome => ?_
      cases outcome with
      | next after => exact ih (Nat.le_of_succ_le_succ le) after
      | stop result => exact GoesOn.refl _

/-- `while (TRUE) turn`, up to the turn that stops. -/
def repeatTurns (turn : State → Reading (Control State Result)) (start : State) :
    Reading Result where
  run fuel := turns (fun state => (turn state).run fuel) fuel start
  grows fuel more le := turns_goesOn (fun state => (turn state).grows fuel more le) le start

/-- The units of a text, the zero at its end included. -/
def readText (memory : Memory) (width : Nat) : Nat → Reading Unit :=
  repeatTurns fun address => do
    let character ← read memory address width
    if character = 0 then pure (.stop ()) else pure (.next (address + width))

/-- The number of units in front of the zero. -/
def textLength (memory : Memory) (width address : Nat) : Reading Nat :=
  repeatTurns (fun index => do
    let character ← read memory (address + index * width) width
    if character = 0 then pure (.stop index) else pure (.next (index + 1))) 0

/-- Every read, with however much fuel. -/
def AllReads (Good : Range → Prop) (reading : Reading Value) : Prop :=
  ∀ fuel, LinesAre Good (reading.run fuel)

abbrev ReadsInside (outer : Range) (reading : Reading Value) : Prop :=
  AllReads (fun range => range.Inside outer) reading

def Ends (reading : Reading Value) (value : Value) : Prop :=
  ∃ fuel, (reading.run fuel).outcome = .done value

end Programs

/-! ## Sequences -/

section Sequences

variable {Value Other : Type} {Good : Range → Prop} {reading further : Reading Value}
variable {next : Value → Reading Other}

theorem AllReads.of_goesOn (good : AllReads Good further)
    (grows : ∀ fuel, ∃ more, GoesOn (reading.run fuel) (further.run more)) :
    AllReads Good reading := by
  intro fuel
  obtain ⟨more, goesOn⟩ := grows fuel
  exact goesOn.linesAre (good more)

theorem Ends.of_goesOn {value : Value} (ends : Ends reading value)
    (grows : ∀ fuel, ∃ more, GoesOn (reading.run fuel) (further.run more)) :
    Ends further value := by
  obtain ⟨fuel, done⟩ := ends
  obtain ⟨more, goesOn⟩ := grows fuel
  exact ⟨more, goesOn.outcome_eq done ▸ done⟩

theorem Ends.unique {value other : Value} (first : Ends reading value)
    (second : Ends reading other) : value = other := by
  obtain ⟨fuel, first⟩ := first
  obtain ⟨more, second⟩ := second
  have both := done_of_le reading.grows first (Nat.le_max_left fuel more)
  rw [done_of_le reading.grows second (Nat.le_max_right fuel more)] at both
  exact (Outcome.done.inj both).symm

@[simp] theorem allReads_pure (value : Value) : AllReads Good (pure value : Reading Value) :=
  fun _ => linesAre_pure value

@[simp] theorem ends_pure {value other : Value} :
    Ends (pure value : Reading Value) other ↔ other = value := by
  constructor
  · rintro ⟨_, done⟩
    exact (Outcome.done.inj done).symm
  · rintro rfl
    exact ⟨0, rfl⟩

@[simp] theorem allReads_deadLoop : AllReads Good (deadLoop : Reading Value) :=
  fun _ _ listed => absurd listed List.not_mem_nil

@[simp] theorem not_ends_deadLoop (value : Value) : ¬ Ends (deadLoop : Reading Value) value := by
  rintro ⟨_, done⟩
  cases done

@[simp] theorem allReads_read {memory : Memory} {address width : Nat} :
    AllReads Good (read memory address width) ↔ Good ⟨address, width⟩ := by
  constructor
  · intro all
    exact all 0 _ (List.mem_singleton_self _)
  · intro good fuel range listed
    rwa [List.mem_singleton.mp listed]

@[simp] theorem ends_read {memory : Memory} {address width value : Nat} :
    Ends (read memory address width) value ↔ value = memory.readLe address width := by
  constructor
  · rintro ⟨_, done⟩
    exact (Outcome.done.inj done).symm
  · rintro rfl
    exact ⟨0, rfl⟩

@[simp] theorem ends_ite {condition : Prop} [Decidable condition] {value : Value} :
    Ends (if condition then reading else further) value ↔
      if condition then Ends reading value else Ends further value := by
  by_cases holds : condition <;> simp [holds]

@[simp] theorem allReads_ite {condition : Prop} [Decidable condition] :
    AllReads Good (if condition then reading else further) ↔
      if condition then AllReads Good reading else AllReads Good further := by
  by_cases holds : condition <;> simp [holds]

/-- What comes behind a program is run with each value that it ends with. -/
@[simp] theorem allReads_bind :
    AllReads Good (reading >>= next) ↔
      AllReads Good reading ∧ ∀ value, Ends reading value → AllReads Good (next value) :=
  forall_linesAre_bind reading.grows fun value => (next value).grows

/-- A program that is known to end with a value, and what comes behind it. -/
theorem AllReads.bind {value : Value} (ends : Ends reading value)
    (first : AllReads Good reading) (behind : AllReads Good (next value)) :
    AllReads Good (reading >>= next) := by
  refine allReads_bind.mpr ⟨first, fun other also => ?_⟩
  rw [also.unique ends]
  exact behind

@[simp] theorem ends_bind {result : Other} :
    Ends (reading >>= next) result ↔ ∃ value, Ends reading value ∧ Ends (next value) result :=
  exists_bind_done reading.grows fun value => (next value).grows

@[simp] theorem allReads_look {memory : Memory} {address width : Nat} :
    AllReads Good (look memory address width) ↔ Good ⟨address, width⟩ := by
  simp [look]

@[simp] theorem ends_look {memory : Memory} {address width : Nat} (done : Unit) :
    Ends (look memory address width) done := by
  simp [look]

end Sequences

/-! ## Loops over indexes -/

section Indexes

variable {Good : Range → Prop} {body : Nat → Reading Unit} {count index : Nat}

@[simp] theorem ends_forIndexes {done : Unit} :
    Ends (forIndexes body count index) done ↔
      ∀ offset < count, Ends (body (index + offset)) () := by
  induction count generalizing index with
  | zero => simp [forIndexes]
  | succ count ih =>
      rw [forIndexes, ends_bind, Nat.forall_lt_succ_left]
      simp only [ih, Nat.add_zero, Nat.add_right_comm index 1, ← Nat.add_assoc]
      exact ⟨fun ⟨_, both⟩ => both, fun both => ⟨(), both⟩⟩

/-- The loop comes to an index when its body has ended for those before. -/
@[simp] theorem allReads_forIndexes :
    AllReads Good (forIndexes body count index) ↔
      ∀ offset < count, (∀ earlier < offset, Ends (body (index + earlier)) ()) →
        AllReads Good (body (index + offset)) := by
  induction count generalizing index with
  | zero => simp [forIndexes]
  | succ count ih =>
      rw [forIndexes, allReads_bind, Nat.forall_lt_succ_left]
      simp only [ih, Nat.forall_lt_succ_left, Nat.add_zero, Nat.add_right_comm index 1,
        ← Nat.add_assoc]
      constructor
      · rintro ⟨first, later⟩
        exact ⟨fun _ => first, fun offset inside ⟨done, before⟩ =>
          later () done offset inside before⟩
      · rintro ⟨first, later⟩
        refine ⟨first fun earlier less => absurd less (Nat.not_lt_zero _), ?_⟩
        exact fun _ done offset inside before => later offset inside ⟨done, before⟩

end Indexes

/-! ## Loops that stop -/

section Turns

variable {State Result : Type} {Good : Range → Prop}
variable {turn : State → Reading (Control State Result)} {start : State}

/-- The first turn of a loop, and the loop behind it. -/
def unfoldTurn (turn : State → Reading (Control State Result)) (start : State) :
    Reading Result :=
  turn start >>= fun
    | .next after => repeatTurns turn after
    | .stop result => pure result

theorem repeatTurns_goesOn (fuel : Nat) :
    GoesOn ((repeatTurns turn start).run fuel) ((unfoldTurn turn start).run fuel) := by
  cases fuel with
  | zero => exact GoesOn.of_outOfFuel _
  | succ fuel =>
      refine (GoesOn.refl _).bind fun outcome => ?_
      cases outcome with
      | next after => exact turns_goesOn (fun _ => GoesOn.refl _) (Nat.le_succ fuel) after
      | stop result => exact GoesOn.refl _

theorem unfoldTurn_goesOn (fuel : Nat) :
    GoesOn ((unfoldTurn turn start).run fuel) ((repeatTurns turn start).run (fuel + 1)) := by
  have grows := fun state => (turn state).grows fuel (fuel + 1) (Nat.le_succ fuel)
  refine (grows start).bind fun outcome => ?_
  cases outcome with
  | next after => exact turns_goesOn grows (Nat.le_refl fuel) after
  | stop result => exact GoesOn.refl _

theorem allReads_unfoldTurn :
    AllReads Good (repeatTurns turn start) ↔ AllReads Good (unfoldTurn turn start) :=
  ⟨fun all => all.of_goesOn fun fuel => ⟨_, unfoldTurn_goesOn fuel⟩,
    fun all => all.of_goesOn fun fuel => ⟨_, repeatTurns_goesOn fuel⟩⟩

theorem ends_unfoldTurn {result : Result} :
    Ends (repeatTurns turn start) result ↔ Ends (unfoldTurn turn start) result :=
  ⟨fun ends => ends.of_goesOn fun fuel => ⟨_, repeatTurns_goesOn fuel⟩,
    fun ends => ends.of_goesOn fun fuel => ⟨_, unfoldTurn_goesOn fuel⟩⟩

theorem ends_repeatTurns_cases {result : Result} :
    Ends (repeatTurns turn start) result ↔
      Ends (turn start) (.stop result) ∨
        ∃ after, Ends (turn start) (.next after) ∧ Ends (repeatTurns turn after) result := by
  rw [ends_unfoldTurn, unfoldTurn, ends_bind]
  constructor
  · rintro ⟨outcome, first, second⟩
    cases outcome with
    | next after => exact Or.inr ⟨after, first, second⟩
    | stop other =>
        rw [ends_pure.mp second]
        exact Or.inl first
  · rintro (stops | ⟨after, first, second⟩)
    · exact ⟨.stop result, stops, ends_pure.mpr rfl⟩
    · exact ⟨.next after, first, second⟩

/-- The states that the loop comes to, by turns that end. -/
inductive ComesTo (turn : State → Reading (Control State Result)) (start : State) : State → Prop
  where
  | start : ComesTo turn start start
  | next {state after : State} (comes : ComesTo turn start state)
      (ends : Ends (turn state) (.next after)) : ComesTo turn start after

theorem allReads_comesTo :
    AllReads Good (repeatTurns turn start) ↔
      ∀ state, ComesTo turn start state → AllReads Good (turn state) := by
  constructor
  · intro all state comes
    have here : AllReads Good (repeatTurns turn state) := by
      induction comes with
      | start => exact all
      | @next state after _ ends ih =>
          rw [allReads_unfoldTurn, unfoldTurn, allReads_bind] at ih
          exact ih.2 (.next after) ends
    rw [allReads_unfoldTurn, unfoldTurn, allReads_bind] at here
    exact here.1
  · intro all fuel
    -- The fuel of the turns stays as it is while that of the loop goes down.
    suffices every : ∀ own state, ComesTo turn start state →
        LinesAre Good (turns (fun state => (turn state).run fuel) own state) from
      every fuel start ComesTo.start
    intro own
    induction own with
    | zero => exact fun _ _ line listed => absurd listed List.not_mem_nil
    | succ own ih =>
        intro state comes
        refine linesAre_bind.mpr ⟨all state comes fuel, fun outcome done => ?_⟩
        cases outcome with
        | next after => exact ih after (comes.next ⟨fuel, done⟩)
        | stop result => exact linesAre_pure result

/-- A loop that ends, ends from every state on its way. -/
theorem ComesTo.ends {state : State} {result : Result} (comes : ComesTo turn start state)
    (ends : Ends (repeatTurns turn start) result) : Ends (repeatTurns turn state) result := by
  induction comes with
  | start => exact ends
  | next _ next ih =>
      rcases ends_repeatTurns_cases.mp ih with stops | ⟨other, first, second⟩
      · cases stops.unique next
      · cases first.unique next
        exact second

theorem ComesTo.exists_ends {state : State} {result : Result} (comes : ComesTo turn start state)
    (ends : Ends (repeatTurns turn start) result) : ∃ outcome, Ends (turn state) outcome := by
  rcases ends_repeatTurns_cases.mp (comes.ends ends) with stops | ⟨after, first, _⟩
  · exact ⟨_, stops⟩
  · exact ⟨_, first⟩

/-- States that the loop does not leave keep it from ending. -/
theorem not_ends_repeatTurns (Within : State → Prop) (within : Within start)
    (closed : ∀ state, Within state → ∃ after, Ends (turn state) (.next after) ∧ Within after)
    (result : Result) : ¬ Ends (repeatTurns turn start) result := by
  rintro ⟨fuel, done⟩
  suffices never : ∀ own state, Within state →
      (turns (fun state => (turn state).run fuel) own state).outcome ≠ .done result from
    never fuel start within done
  intro own
  induction own with
  | zero =>
      intro _ _ done
      cases done
  | succ own ih =>
      intro state within done
      obtain ⟨after, ends, kept⟩ := closed state within
      obtain ⟨outcome, first, second⟩ := outcome_bind_eq_done.mp done
      obtain rfl := Ends.unique ⟨fuel, first⟩ ends
      exact ih after kept second

/-- A loop ends when the turns that it comes to end and lower a measure. -/
theorem exists_ends_repeatTurns (measure : State → Nat)
    (each : ∀ state, ComesTo turn start state → ∃ outcome, Ends (turn state) outcome ∧
      ∀ after, outcome = .next after → measure after < measure state) :
    ∃ result, Ends (repeatTurns turn start) result := by
  suffices from_state : ∀ state, ComesTo turn start state →
      ∃ result, Ends (repeatTurns turn state) result from from_state start ComesTo.start
  intro state comes
  induction height : measure state using Nat.strongRecOn generalizing state with
  | ind height ih =>
      obtain ⟨outcome, ends, lower⟩ := each state comes
      cases outcome with
      | next after =>
          obtain ⟨result, later⟩ := ih _ (height ▸ lower after rfl) after (comes.next ends) rfl
          exact ⟨result, ends_repeatTurns_cases.mpr (Or.inr ⟨after, ends, later⟩)⟩
      | stop result => exact ⟨result, ends_repeatTurns_cases.mpr (Or.inl ends)⟩

/-! ### Turns that always end -/

variable {body : State → Control State Result}

theorem comesTo_iff (follows : ∀ state, Ends (turn state) (body state)) {state : State} :
    ComesTo turn start state ↔ Comes body start state := by
  constructor
  · intro comes
    induction comes with
    | start => exact Comes.start
    | next _ ends ih => exact ih.next (Ends.unique (follows _) ends)
  · intro comes
    induction comes with
    | start => exact ComesTo.start
    | next _ next ih => exact ih.next (next ▸ follows _)

theorem allReads_repeatTurns (follows : ∀ state, Ends (turn state) (body state)) :
    AllReads Good (repeatTurns turn start) ↔
      ∀ state, Comes body start state → AllReads Good (turn state) := by
  simp only [allReads_comesTo, comesTo_iff follows]

theorem ends_repeatTurns (follows : ∀ state, Ends (turn state) (body state)) {result : Result} :
    Ends (repeatTurns turn start) result ↔ ∃ fuel, loop body fuel start = some result := by
  constructor
  · rintro ⟨fuel, done⟩
    refine ⟨fuel, ?_⟩
    suffices every : ∀ own state,
        (turns (fun state => (turn state).run fuel) own state).outcome = .done result →
          loop body own state = some result from every fuel start done
    intro own
    induction own with
    | zero =>
        intro state done
        cases done
    | succ own ih =>
        intro state done
        obtain ⟨outcome, first, second⟩ := outcome_bind_eq_done.mp done
        obtain rfl := Ends.unique ⟨fuel, first⟩ (follows state)
        rw [loop]
        cases next : body state with
        | next after =>
            rw [next] at second
            exact ih after second
        | stop other =>
            rw [next] at second
            exact congrArg some (Outcome.done.inj second)
  · rintro ⟨fuel, run⟩
    induction fuel generalizing start with
    | zero => cases run
    | succ fuel ih =>
        rw [ends_unfoldTurn, unfoldTurn, ends_bind]
        refine ⟨body start, follows start, ?_⟩
        rw [loop] at run
        cases next : body start with
        | next after =>
            rw [next] at run
            exact ih run
        | stop other =>
            rw [next] at run
            exact ends_pure.mpr (Option.some.inj run).symm

end Turns

/-! ## Texts -/

section Texts

variable {memory : Memory} {width start size : Nat}

def NulAt (memory : Memory) (width address count : Nat) : Prop :=
  memory.readLe (address + count * width) width = 0

/-- The text at an address has an end. -/
def TextEnds (memory : Memory) (width address : Nat) : Prop :=
  ∃ count, NulAt memory width address count

def TextInside (memory : Memory) (outer : Range) (width address : Nat) : Prop :=
  ∃ count, NulAt memory width address count ∧
    address + (count + 1) * width ≤ outer.start + outer.length

def textTurn (memory : Memory) (width address : Nat) : Control Nat Unit :=
  if memory.readLe address width = 0 then .stop () else .next (address + width)

theorem TextInside.ends {outer : Range} {address : Nat}
    (inside : TextInside memory outer width address) : TextEnds memory width address := by
  obtain ⟨count, found, _⟩ := inside
  exact ⟨count, found⟩

theorem textTurn_follows (memory : Memory) (width address : Nat) :
    Ends (do
      let character ← read memory address width
      if character = 0 then pure (.stop ()) else pure (.next (address + width)))
      (textTurn memory width address) := by
  rw [textTurn]
  by_cases nul : memory.readLe address width = 0
  · simp [nul]
  · simp [nul]

theorem nulAt_succ {address count : Nat} :
    NulAt memory width (address + width) count ↔ NulAt memory width address (count + 1) := by
  rw [NulAt, NulAt, Nat.add_mul, Nat.one_mul, Nat.add_right_comm, Nat.add_assoc]

@[simp] theorem ends_readText {address : Nat} {done : Unit} :
    Ends (readText memory width address) done ↔ TextEnds memory width address := by
  rw [TextEnds, readText, ends_repeatTurns (textTurn_follows memory width)]
  constructor
  · rintro ⟨fuel, run⟩
    induction fuel generalizing address with
    | zero => cases run
    | succ fuel ih =>
        by_cases nul : memory.readLe address width = 0
        · exact ⟨0, by rwa [NulAt, Nat.zero_mul, Nat.add_zero]⟩
        · rw [loop, textTurn, if_neg nul] at run
          obtain ⟨count, found⟩ := ih run
          exact ⟨count + 1, nulAt_succ.mp found⟩
  · rintro ⟨count, found⟩
    refine ⟨count + 1, ?_⟩
    induction count generalizing address with
    | zero =>
        rw [NulAt, Nat.zero_mul, Nat.add_zero] at found
        rw [loop, textTurn, if_pos found]
    | succ count ih =>
        rw [loop, textTurn]
        by_cases nul : memory.readLe address width = 0
        · rw [if_pos nul]
        · rw [if_neg nul]
          exact ih (nulAt_succ.mpr found)

/-- A text lies inside a range when a unit that ends it does. -/
theorem readsInside_readText {address : Nat} (positive : 0 < width) (above : start ≤ address) :
    ReadsInside ⟨start, size⟩ (readText memory width address) ↔
      TextInside memory ⟨start, size⟩ width address := by
  rw [ReadsInside, TextInside, readText, allReads_repeatTurns (textTurn_follows memory width)]
  have reads : ∀ state, ReadsInside ⟨start, size⟩ (do
      let character ← read memory state width
      if character = 0 then pure (.stop ()) else pure (.next (state + width)) :
        Reading (Control Nat Unit)) ↔ start ≤ state ∧ state + width ≤ start + size := by
    intro state
    simp [Range.Inside]
  simp only [reads]
  constructor
  · intro all
    -- The addresses come closer to the end of the range.
    induction distance : start + size - address using Nat.strongRecOn generalizing address with
    | ind distance ih =>
        obtain ⟨_, below⟩ := all address Comes.start
        by_cases nul : memory.readLe address width = 0
        · refine ⟨0, by rwa [NulAt, Nat.zero_mul, Nat.add_zero], ?_⟩
          rwa [Nat.zero_add, Nat.one_mul]
        · have next : textTurn memory width address = .next (address + width) := by
            rw [textTurn, if_neg nul]
          obtain ⟨count, found, last⟩ := ih _ (by omega) (Nat.le_add_right_of_le above)
            (fun state comes => all state (comes.head next)) rfl
          refine ⟨count + 1, nulAt_succ.mp found, ?_⟩
          rw [Nat.add_mul (count + 1), Nat.one_mul]
          omega
  · rintro ⟨count, found, last⟩ state comes
    have between : ∃ index ≤ count, state = address + index * width := by
      induction comes with
      | start => exact ⟨0, Nat.zero_le count, by rw [Nat.zero_mul, Nat.add_zero]⟩
      | next _ turn ih =>
          obtain ⟨index, le, rfl⟩ := ih
          rw [textTurn] at turn
          split at turn
          · cases turn
          · rename_i character
            have before : index ≠ count := fun same => character (same ▸ found)
            refine ⟨index + 1, by omega, ?_⟩
            rw [← (Control.next.inj turn), Nat.add_mul, Nat.one_mul, Nat.add_assoc]
    obtain ⟨index, le, rfl⟩ := between
    have order := Nat.mul_le_mul_right width le
    rw [Nat.add_mul, Nat.one_mul] at last
    omega

/-- The first zero behind an address. -/
structure FirstNul (memory : Memory) (width address count : Nat) : Prop where
  nul : NulAt memory width address count
  before : ∀ earlier < count, ¬ NulAt memory width address earlier

theorem FirstNul.textEnds {address count : Nat} (first : FirstNul memory width address count) :
    TextEnds memory width address := ⟨count, first.nul⟩

theorem TextEnds.exists_firstNul {address : Nat} (ends : TextEnds memory width address) :
    ∃ count, FirstNul memory width address count := by
  classical
  exact ⟨Nat.find ends, Nat.find_spec ends, fun _ less => Nat.find_min ends less⟩

def lengthTurn (memory : Memory) (width address index : Nat) : Control Nat Nat :=
  if memory.readLe (address + index * width) width = 0 then .stop index else .next (index + 1)

theorem lengthTurn_follows (memory : Memory) (width address index : Nat) :
    Ends (do
      let character ← read memory (address + index * width) width
      if character = 0 then pure (.stop index) else pure (.next (index + 1)))
      (lengthTurn memory width address index) := by
  rw [lengthTurn]
  by_cases nul : memory.readLe (address + index * width) width = 0
  · simp [nul]
  · simp [nul]

theorem comes_lengthTurn {address index : Nat} :
    Comes (lengthTurn memory width address) 0 index ↔
      ∀ earlier < index, ¬ NulAt memory width address earlier := by
  constructor
  · intro comes
    induction comes with
    | start => exact fun _ less => absurd less (Nat.not_lt_zero _)
    | next _ turn ih =>
        rw [lengthTurn] at turn
        split at turn
        · cases turn
        · rename_i character
          cases turn
          intro earlier less
          rcases Nat.lt_succ_iff_lt_or_eq.mp less with lower | rfl
          · exact ih earlier lower
          · exact character
  · intro before
    induction index with
    | zero => exact Comes.start
    | succ index ih =>
        refine (ih fun earlier less => before earlier (Nat.lt_succ_of_lt less)).next ?_
        exact if_neg (before index (Nat.lt_succ_self index))

@[simp] theorem ends_textLength {address count : Nat} :
    Ends (textLength memory width address) count ↔ FirstNul memory width address count := by
  rw [textLength, ends_repeatTurns (lengthTurn_follows memory width address), exists_loop_iff]
  constructor
  · rintro ⟨index, comes, stops⟩
    rw [lengthTurn] at stops
    split at stops
    · next nul =>
        cases stops
        exact ⟨nul, comes_lengthTurn.mp comes⟩
    · cases stops
  · intro first
    exact ⟨count, comes_lengthTurn.mpr first.before, if_pos first.nul⟩

theorem readsInside_textLength {address : Nat} (positive : 0 < width) (above : start ≤ address) :
    ReadsInside ⟨start, size⟩ (textLength memory width address) ↔
      TextInside memory ⟨start, size⟩ width address := by
  rw [ReadsInside, TextInside, textLength,
    allReads_repeatTurns (lengthTurn_follows memory width address)]
  have reads : ∀ index, ReadsInside ⟨start, size⟩ (do
      let character ← read memory (address + index * width) width
      if character = 0 then pure (.stop index) else pure (.next (index + 1)) :
        Reading (Control Nat Nat)) ↔ address + (index + 1) * width ≤ start + size := by
    intro index
    have after : start ≤ address + index * width := Nat.le_add_right_of_le above
    simp [Range.Inside, after, Nat.add_mul, Nat.add_assoc]
  simp only [reads, comes_lengthTurn]
  constructor
  · intro all
    -- Without a zero the loop would come to a unit outside the range.
    have ends : TextEnds memory width address := by
      by_contra endless
      have last := all (start + size) fun earlier _ nul => endless ⟨earlier, nul⟩
      have far : start + size + 1 ≤ (start + size + 1) * width :=
        Nat.le_mul_of_pos_right _ positive
      omega
    obtain ⟨count, first⟩ := ends.exists_firstNul
    exact ⟨count, first.nul, all count first.before⟩
  · rintro ⟨count, nul, last⟩ index before
    have le : index ≤ count := by
      by_contra past
      exact before count (Nat.not_le.mp past) nul
    have order := Nat.mul_le_mul_right width (Nat.succ_le_succ le)
    simp only [Nat.succ_eq_add_one] at order
    omega

end Texts

end Reading

end AppEfi
