import AppEfi.Lib.Reading

/-!
# Programs that list what they do

Like the programs that list their reads, with lines of any type.  A program that reads is one
of them, each range as the line that is made of it.
-/

set_option autoImplicit false

namespace AppEfi

open AppEfi.Printing
open AppEfi.Reading

/-- The runs of a program by fuel. -/
structure Traced (Line Value : Type) where
  run : Nat → Program Line Empty Value
  grows : ∀ fuel more, fuel ≤ more → GoesOn (run fuel) (run more)

namespace Traced

section Programs

variable {Line Value : Type}

instance : Monad (Traced Line) where
  pure value := ⟨fun _ => pure value, fun _ _ _ => GoesOn.refl _⟩
  bind traced next :=
    { run := fun fuel => traced.run fuel >>= fun value => (next value).run fuel
      grows := fun fuel more le =>
        (traced.grows fuel more le).bind fun value => (next value).grows fuel more le }

def emit (line : Line) : Traced Line Unit where
  run _ := print line
  grows _ _ _ := GoesOn.refl _

/-- A program that reads, with a line for each range. -/
def ofReading (line : Range → Line) (reading : Reading Value) : Traced Line Value where
  run fuel := ⟨(reading.run fuel).lines.map line, (reading.run fuel).outcome⟩
  grows fuel more le := by
    rcases reading.grows fuel more le with same | ⟨stopped, lines⟩
    · exact Or.inl (by rw [same])
    · exact Or.inr ⟨stopped, lines.map line⟩

/-- Every line, with however much fuel. -/
def AllLines (Good : Line → Prop) (traced : Traced Line Value) : Prop :=
  ∀ fuel, LinesAre Good (traced.run fuel)

def Ends (traced : Traced Line Value) (value : Value) : Prop :=
  ∃ fuel, (traced.run fuel).outcome = .done value

end Programs

section Rules

variable {Line Value Other : Type} {Good : Line → Prop} {traced : Traced Line Value}
variable {next : Value → Traced Line Other}

@[simp] theorem allLines_pure (value : Value) :
    AllLines Good (pure value : Traced Line Value) :=
  fun _ => linesAre_pure value

@[simp] theorem ends_pure {value other : Value} :
    Ends (pure value : Traced Line Value) other ↔ other = value := by
  constructor
  · rintro ⟨_, done⟩
    exact (Outcome.done.inj done).symm
  · rintro rfl
    exact ⟨0, rfl⟩

@[simp] theorem allLines_emit {line : Line} : AllLines Good (emit line) ↔ Good line := by
  constructor
  · intro all
    exact all 0 line (List.mem_singleton_self _)
  · intro good fuel other listed
    rwa [List.mem_singleton.mp listed]

@[simp] theorem ends_emit {line : Line} (done : Unit) : Ends (emit line) done := ⟨0, rfl⟩

/-- What comes behind a program is run with each value that it ends with. -/
@[simp] theorem allLines_bind :
    AllLines Good (traced >>= next) ↔
      AllLines Good traced ∧ ∀ value, Ends traced value → AllLines Good (next value) :=
  forall_linesAre_bind traced.grows fun value => (next value).grows

@[simp] theorem ends_bind {result : Other} :
    Ends (traced >>= next) result ↔ ∃ value, Ends traced value ∧ Ends (next value) result :=
  exists_bind_done traced.grows fun value => (next value).grows

@[simp] theorem allLines_ofReading {line : Range → Line} {reading : Reading Value} :
    AllLines Good (ofReading line reading) ↔ AllReads (fun range => Good (line range)) reading :=
  forall_congr' fun _ => List.forall_mem_map

@[simp] theorem ends_ofReading {line : Range → Line} {reading : Reading Value} {value : Value} :
    Ends (ofReading line reading) value ↔ Reading.Ends reading value := Iff.rfl

end Rules

end Traced

end AppEfi
