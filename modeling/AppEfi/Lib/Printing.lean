import AppEfi.Lib.RecordWalk

/-!
# Programs that print

A program prints lines and then has a value, has returned early, or was stopped
for want of fuel.  What it has printed stays printed.  The loops carry a position
from record to record; on records laid out back to back they print each record's
lines in order, or a mark that no record's lines contain.
-/

set_option autoImplicit false

namespace AppEfi.Printing

open AppEfi.RecordWalk

inductive Outcome (Result Value : Type) where
  | done (value : Value)
  | returned (result : Result)
  | unfinished
  deriving DecidableEq, Repr

@[ext]
structure Program (Line Result Value : Type) where
  lines : List Line
  outcome : Outcome Result Value
  deriving DecidableEq, Repr

section Programs

variable {Line Result Value Other : Type}

def andThen (program : Program Line Result Value)
    (next : Value → Program Line Result Other) : Program Line Result Other :=
  match program.outcome with
  | .done value => ⟨program.lines ++ (next value).lines, (next value).outcome⟩
  | .returned result => ⟨program.lines, .returned result⟩
  | .unfinished => ⟨program.lines, .unfinished⟩

instance : Monad (Program Line Result) where
  pure value := ⟨[], .done value⟩
  bind := andThen

def print (line : Line) : Program Line Result Unit := ⟨[line], .done ()⟩

/-- `return` before the end of the function. -/
def leave (result : Result) : Program Line Result Value := ⟨[], .returned result⟩

def outOfFuel : Program Line Result Value := ⟨[], .unfinished⟩

/-- `for (i = 0; i < count; i++) body`, with a position that the body moves. -/
def times (body : Nat → Program Line Result Nat) : Nat → Nat → Program Line Result Nat
  | 0, position => pure position
  | count + 1, position => do times body count (← body position)

/-- `while (continues position) body`. -/
def repeatWhile (continues : Nat → Bool) (body : Nat → Program Line Result Nat) :
    Nat → Nat → Program Line Result Nat
  | 0, _ => outOfFuel
  | fuel + 1, position =>
      if continues position then do repeatWhile continues body fuel (← body position)
      else pure position

/-- Every line that the program prints, if it ends or not. -/
def LinesAre (Good : Line → Prop) (program : Program Line Result Value) : Prop :=
  ∀ line ∈ program.lines, Good line

/-- The program comes to its end with these lines and this value. -/
def Prints (program : Program Line Result Value) (lines : List Line) (value : Value) : Prop :=
  program = ⟨lines, .done value⟩

/-- The program prints the mark or does not end. -/
def Spoiled (mark : Line) (program : Program Line Result Value) : Prop :=
  mark ∈ program.lines ∨ program.outcome = .unfinished

end Programs

/-! ## Sequences -/

section Sequences

variable {Line Result Value Other : Type} {program : Program Line Result Value}
variable {next : Value → Program Line Result Other} {lines more : List Line} {value : Value}
variable {mark : Line}

theorem prints_pure (value : Value) :
    Prints (pure value : Program Line Result Value) [] value := rfl

theorem prints_print (line : Line) :
    Prints (print line : Program Line Result Unit) [line] () := rfl

theorem Prints.bind_eq (first : Prints program lines value) :
    program >>= next = ⟨lines ++ (next value).lines, (next value).outcome⟩ := by
  rw [first]
  rfl

theorem Prints.bind {result : Other} (first : Prints program lines value)
    (second : Prints (next value) more result) :
    Prints (program >>= next) (lines ++ more) result := by
  rw [Prints, first.bind_eq, second]

theorem Prints.bind_pure (first : Prints program lines value) (result : Other) :
    Prints (program >>= fun _ => pure result) lines result := by
  have both : Prints (program >>= fun _ => pure result) (lines ++ []) result :=
    first.bind (prints_pure result)
  rwa [List.append_nil] at both

@[simp] theorem prints_print_bind (line : Line)
    (next : Unit → Program Line Result Value) :
    Prints (print line >>= next) (line :: lines) value ↔ Prints (next ()) lines value := by
  rw [Prints, (prints_print line).bind_eq, Prints, Program.ext_iff, Program.ext_iff]
  simp

@[simp] theorem lines_print_bind (line : Line) (next : Unit → Program Line Result Value) :
    (print line >>= next).lines = line :: (next ()).lines := by
  rw [(prints_print line).bind_eq, List.singleton_append]

@[simp] theorem spoiled_print_bind (line : Line)
    (next : Unit → Program Line Result Value) :
    Spoiled mark (print line >>= next) ↔ mark = line ∨ Spoiled mark (next ()) := by
  rw [Spoiled, (prints_print line).bind_eq, Spoiled]
  simp [or_assoc]

theorem lines_bind (program : Program Line Result Value)
    (next : Value → Program Line Result Other) :
    ∃ more, (program >>= next).lines = program.lines ++ more := by
  change ∃ more, (andThen program next).lines = _
  rw [andThen]
  cases program.outcome with
  | done value => exact ⟨_, rfl⟩
  | returned result => exact ⟨[], (List.append_nil _).symm⟩
  | unfinished => exact ⟨[], (List.append_nil _).symm⟩

theorem Spoiled.bind (first : Spoiled mark program) : Spoiled mark (program >>= next) := by
  rcases first with printed | endless
  · obtain ⟨more, lines⟩ := lines_bind program next
    exact Or.inl (lines ▸ List.mem_append_left more printed)
  · right
    change (andThen program next).outcome = .unfinished
    rw [andThen, endless]

theorem Prints.bind_spoiled (first : Prints program lines value)
    (second : Spoiled mark (next value)) : Spoiled mark (program >>= next) := by
  rw [Spoiled, first.bind_eq]
  rcases second with printed | endless
  · exact Or.inl (List.mem_append_right _ printed)
  · exact Or.inr endless

end Sequences

/-! ## Properties of all lines -/

section Lines

variable {Line Result Value Other : Type} {Good : Line → Prop}
variable {program : Program Line Result Value} {next : Value → Program Line Result Other}

@[simp] theorem linesAre_pure (value : Value) :
    LinesAre Good (pure value : Program Line Result Value) := by
  intro line listed
  cases listed

/-- What comes behind a program is printed when it is done. -/
theorem linesAre_bind :
    LinesAre Good (program >>= next) ↔
      LinesAre Good program ∧
        ∀ value, program.outcome = .done value → LinesAre Good (next value) := by
  change LinesAre Good (andThen program next) ↔ _
  unfold LinesAre andThen
  cases program.outcome with
  | done value =>
      simp only [List.forall_mem_append, Outcome.done.injEq, forall_eq']
  | returned result => simp
  | unfinished => simp

theorem outcome_bind_eq_done {result : Other} :
    (program >>= next).outcome = .done result ↔
      ∃ value, program.outcome = .done value ∧ (next value).outcome = .done result := by
  change (andThen program next).outcome = _ ↔ _
  rw [andThen]
  cases program.outcome with
  | done value => simp
  | returned other => simp
  | unfinished => simp

end Lines

/-! ## Loops over records -/

section Records

variable {Line Result Record : Type} {body : Nat → Program Line Result Nat}
variable {length : Record → Nat} {lines : Record → List Line} {mark : Line}

theorem times_prints (records : List Record) (position : Nat)
    (each : ∀ entry ∈ placed length position records,
      Prints (body entry.1) (lines entry.2) (entry.1 + length entry.2)) :
    Prints (times body records.length position) (records.flatMap lines)
      (position + total length records) := by
  induction records generalizing position with
  | nil => exact prints_pure position
  | cons record rest ih =>
      have first := each (position, record) (by simp [placed])
      have later := ih (position + length record) fun entry member =>
        each entry (by simp [placed, member])
      rw [total_cons, ← Nat.add_assoc]
      exact first.bind later

variable (length) (lines)

/-- Records that are not all good: the loop gets to the first that is not. -/
theorem times_spoiled (records : List Record) (position : Nat) (Good : Nat × Record → Prop)
    (prints : ∀ entry ∈ placed length position records, Good entry →
      Prints (body entry.1) (lines entry.2) (entry.1 + length entry.2))
    (spoils : ∀ entry ∈ placed length position records, ¬ Good entry →
      Spoiled mark (body entry.1))
    (bad : ¬ ∀ entry ∈ placed length position records, Good entry) :
    Spoiled mark (times body records.length position) := by
  induction records generalizing position with
  | nil => exact absurd (by simp [placed]) bad
  | cons record rest ih =>
      rw [placed, List.forall_mem_cons, not_and_or] at bad
      by_cases good : Good (position, record)
      · refine (prints (position, record) (by simp [placed]) good).bind_spoiled (ih _
          (fun entry member => prints entry (by simp [placed, member]))
          (fun entry member => spoils entry (by simp [placed, member])) ?_)
        exact bad.resolve_left (not_not_intro good)
      · exact (spoils (position, record) (by simp [placed]) good).bind

variable {length} {lines} {continues : Nat → Bool}

theorem repeatWhile_prints (records : List Record) (position fuel : Nat)
    (runs : ∀ entry ∈ placed length position records, continues entry.1 = true)
    (stops : continues (position + total length records) = false)
    (each : ∀ entry ∈ placed length position records,
      Prints (body entry.1) (lines entry.2) (entry.1 + length entry.2))
    (enough : records.length < fuel) :
    Prints (repeatWhile continues body fuel position) (records.flatMap lines)
      (position + total length records) := by
  induction records generalizing position fuel with
  | nil =>
      obtain ⟨fuel, rfl⟩ := Nat.exists_eq_succ_of_ne_zero (Nat.ne_of_gt enough)
      rw [total_nil, Nat.add_zero] at stops ⊢
      rw [repeatWhile, if_neg (by simp [stops])]
      exact prints_pure position
  | cons record rest ih =>
      obtain ⟨fuel, rfl⟩ := Nat.exists_eq_succ_of_ne_zero (Nat.ne_zero_of_lt enough)
      have here := runs (position, record) (by simp [placed])
      have first := each (position, record) (by simp [placed])
      rw [total_cons, ← Nat.add_assoc] at stops ⊢
      have later := ih (position + length record) fuel
        (fun entry member => runs entry (by simp [placed, member])) stops
        (fun entry member => each entry (by simp [placed, member]))
        (Nat.lt_of_succ_lt_succ enough)
      rw [repeatWhile, if_pos here]
      exact first.bind later

variable (length) (lines)

/-- Too little fuel for the records, or records that are not all good. -/
theorem repeatWhile_spoiled (records : List Record) (position fuel : Nat)
    (Good : Nat × Record → Prop)
    (runs : ∀ entry ∈ placed length position records, continues entry.1 = true)
    (prints : ∀ entry ∈ placed length position records, Good entry →
      Prints (body entry.1) (lines entry.2) (entry.1 + length entry.2))
    (spoils : ∀ entry ∈ placed length position records, ¬ Good entry →
      Spoiled mark (body entry.1))
    (bad : fuel ≤ records.length ∨ ¬ ∀ entry ∈ placed length position records, Good entry) :
    Spoiled mark (repeatWhile continues body fuel position) := by
  induction records generalizing position fuel with
  | nil =>
      have empty : fuel = 0 := Nat.le_zero.mp (bad.resolve_right (by simp [placed]))
      subst empty
      exact Or.inr rfl
  | cons record rest ih =>
      cases fuel with
      | zero => exact Or.inr rfl
      | succ fuel =>
          rw [placed, List.forall_mem_cons, not_and_or, List.length_cons,
            Nat.succ_le_succ_iff] at bad
          rw [repeatWhile, if_pos (runs (position, record) (by simp [placed]))]
          by_cases good : Good (position, record)
          · refine (prints (position, record) (by simp [placed]) good).bind_spoiled (ih _ _
              (fun entry member => runs entry (by simp [placed, member]))
              (fun entry member => prints entry (by simp [placed, member]))
              (fun entry member => spoils entry (by simp [placed, member])) ?_)
            exact bad.imp_right fun either => either.resolve_left (not_not_intro good)
          · exact (spoils (position, record) (by simp [placed]) good).bind

end Records

end AppEfi.Printing
