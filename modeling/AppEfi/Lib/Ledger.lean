import AppEfi.Lib.Dialogue
import Mathlib.Algebra.Order.Group.Multiset

/-!
# Ledgers of resources

What a program holds is read off its dialogue: some events acquire a resource, some use one and
some release one.  A dialogue is orderly when only what is held is used and released.  A rule
for a part of a program says what it is given and what it leaves; everything else that is held
is its frame.
-/

set_option autoImplicit false

namespace AppEfi.Ledger

open AppEfi.Dialogue

variable {Event Resource Value Other : Type}

/-- What must be held before an event, and what is held of that and more behind it. -/
structure Move (Resource : Type) where
  takes : Multiset Resource
  gives : Multiset Resource

namespace Move

def keep : Move Resource := { takes := 0, gives := 0 }

def acquire (resource : Resource) : Move Resource := { takes := 0, gives := {resource} }

def use (resource : Resource) : Move Resource := { takes := {resource}, gives := {resource} }

def release (resource : Resource) : Move Resource := { takes := {resource}, gives := 0 }

variable [DecidableEq Resource]

def apply (move : Move Resource) (held : Multiset Resource) : Multiset Resource :=
  held - move.takes + move.gives

theorem apply_takes_add (move : Move Resource) (frame : Multiset Resource) :
    move.apply (move.takes + frame) = move.gives + frame := by
  rw [apply, add_tsub_cancel_left, add_comm]

end Move

section Ledgers

variable [DecidableEq Resource] (move : Event → Move Resource)

def held (history : List Event) : Multiset Resource :=
  history.foldl (fun held event => (move event).apply held) 0

/-- Each event takes what is held then. -/
def Orderly (history : List Event) : Prop :=
  ∀ before event, before ++ [event] <+: history → (move event).takes ≤ held move before

/-- With the first resources in its hands the program is orderly and leaves the second ones. -/
def Owns (given : Multiset Resource) (program : Dialogue Event Value)
    (left : Value → Multiset Resource) : Prop :=
  ∀ frame, Triple (fun history => Orderly move history ∧ held move history = given + frame)
    program fun value history => Orderly move history ∧ held move history = left value + frame

end Ledgers

section Histories

variable [DecidableEq Resource] {move : Event → Move Resource} {history : List Event}
variable {event : Event}

@[simp] theorem held_nil : held move [] = 0 := rfl

theorem held_concat : held move (history ++ [event]) = (move event).apply (held move history) := by
  simp only [held, List.foldl_append, List.foldl_cons, List.foldl_nil]

theorem orderly_nil : Orderly move [] := by
  intro before event upTo
  simpa using upTo.length_le

theorem orderly_concat :
    Orderly move (history ++ [event]) ↔
      Orderly move history ∧ (move event).takes ≤ held move history := by
  constructor
  · intro orderly
    refine ⟨fun before other upTo => ?_, orderly history event List.prefix_rfl⟩
    exact orderly before other (upTo.trans (List.prefix_append _ _))
  · rintro ⟨orderly, last⟩ before other upTo
    rcases List.prefix_concat_iff.mp upTo with whole | earlier
    · obtain ⟨rfl, same⟩ := List.append_inj' whole rfl
      rw [List.singleton_inj.mp same]
      exact last
    · exact orderly before other earlier

theorem step_concat {frame : Multiset Resource} (orderly : Orderly move history)
    (taken : held move history = (move event).takes + frame) :
    Orderly move (history ++ [event]) ∧
      held move (history ++ [event]) = (move event).gives + frame := by
  constructor
  · exact orderly_concat.mpr ⟨orderly, taken ▸ Multiset.le_add_right _ _⟩
  · rw [held_concat, taken, Move.apply_takes_add]

end Histories

/-! ## Rules -/

section Rules

variable [DecidableEq Resource] {move : Event → Move Resource}
variable {given : Multiset Resource} {program : Dialogue Event Value}
variable {left : Value → Multiset Resource} {next : Value → Dialogue Event Other}

theorem Owns.pure {value : Value} (same : left value = given) :
    Owns move given (pure value : Dialogue Event Value) left := by
  subst same
  exact fun _ => Triple.pure fun _ holds => holds

theorem Owns.bind {last : Other → Multiset Resource} (first : Owns move given program left)
    (second : ∀ value, Owns move (left value) (next value) last) :
    Owns move given (program >>= next) last :=
  fun frame => (first frame).bind fun value => second value frame

/-- What a part is not given it cannot lose. -/
theorem Owns.frame (owns : Owns move given program left) (more : Multiset Resource) :
    Owns move (given + more) program fun value => left value + more := by
  intro frame
  refine (owns (more + frame)).consequence ?_ ?_
  · rintro history ⟨orderly, same⟩
    exact ⟨orderly, same.trans (add_assoc _ _ _)⟩
  · rintro value history ⟨orderly, same⟩
    exact ⟨orderly, same.trans (add_assoc _ _ _).symm⟩

/-- A part that is given nothing. -/
theorem Owns.more (owns : Owns move 0 program left) (held : Multiset Resource) :
    Owns move held program fun value => left value + held := by
  have framed := owns.frame held
  rwa [zero_add] at framed

/-- A part that is given nothing and leaves nothing. -/
theorem Owns.beside (owns : Owns move 0 program fun _ => 0) (held : Multiset Resource) :
    Owns move held program fun _ => held := by
  have framed := owns.more held
  simpa only [zero_add] using framed

theorem Owns.tell {event : Event} {left : Multiset Resource} (takes : (move event).takes = given)
    (gives : (move event).gives = left) : Owns move given (tell event) fun _ => left := by
  subst takes gives
  exact fun _ => Triple.tell fun _ holds => step_concat holds.1 holds.2

theorem Owns.ask {answer : List Event → Value} {event : Value → Event}
    (takes : ∀ value, (move (event value)).takes = given)
    (gives : ∀ value, (move (event value)).gives = left value) :
    Owns move given (ask answer event) left := by
  refine fun frame => Triple.ask ?_
  rintro history value ⟨orderly, same⟩
  rw [← takes value] at same
  rw [← gives value]
  exact step_concat orderly same

theorem Owns.ite {condition : Prop} [Decidable condition] {other : Dialogue Event Value}
    (yes : condition → Owns move given program left)
    (no : ¬ condition → Owns move given other left) :
    Owns move given (if condition then program else other) left := by
  split
  · next holds => exact yes holds
  · next fails => exact no fails

/-- What passes with a part of the outside that has no resources. -/
theorem Owns.embed {Inner : Type} {inside : Event → Option Inner} {outside : Inner → Event}
    {program : Dialogue Inner Value} (keeps : ∀ inner, move (outside inner) = .keep) :
    Owns move 0 (embed inside outside program) fun _ => 0 := by
  have kept (added : List Inner) (history : List Event) (orderly : Orderly move history) :
      Orderly move (history ++ added.map outside) ∧
        held move (history ++ added.map outside) = held move history := by
    induction added generalizing history with
    | nil =>
        rw [List.map_nil, List.append_nil]
        exact ⟨orderly, rfl⟩
    | cons inner rest ih =>
        have one := @step_concat _ _ _ move history (outside inner) (held move history) orderly
          (by rw [keeps, Move.keep, zero_add])
        have all := ih _ one.1
        rw [List.append_assoc] at all
        rw [one.2, keeps, Move.keep, zero_add] at all
        exact all
  rintro frame history ⟨orderly, same⟩
  obtain ⟨still, whole⟩ := kept _ history orderly
  exact ⟨still, whole.trans same⟩

end Rules

end AppEfi.Ledger
