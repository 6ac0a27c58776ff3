import Mathlib.Data.List.Basic

/-!
# Programs that talk to a device

A program asks a device and tells it what to do, and all that passed between them is kept in
order.  What the device answers may depend on everything that passed before.
-/

set_option autoImplicit false

namespace AppEfi

abbrev Dialogue (Event : Type) := StateM (List Event)

namespace Dialogue

section Programs

variable {Event Value Other : Type}

def tell (event : Event) : Dialogue Event Unit := fun history => ((), history ++ [event])

/-- The event of a question has the answer in it. -/
def ask (answer : List Event → Value) (event : Value → Event) : Dialogue Event Value :=
  fun history => (answer history, history ++ [event (answer history)])

/-- Whatever passed before, if `pre` holds of it, `post` holds behind the program. -/
def Triple (pre : List Event → Prop) (program : Dialogue Event Value)
    (post : Value → List Event → Prop) : Prop :=
  ∀ history, pre history → post (program history).1 (program history).2

variable {pre weaker : List Event → Prop} {post stronger : Value → List Event → Prop}
variable {program : Dialogue Event Value} {next : Value → Dialogue Event Other}

theorem Triple.pure {value : Value} (holds : ∀ history, pre history → post value history) :
    Triple pre (pure value : Dialogue Event Value) post := holds

theorem Triple.bind {last : Other → List Event → Prop} (first : Triple pre program post)
    (second : ∀ value, Triple (post value) (next value) last) :
    Triple pre (program >>= next) last :=
  fun history holds => second _ _ (first history holds)

theorem Triple.tell {event : Event} {post : Unit → List Event → Prop}
    (holds : ∀ history, pre history → post () (history ++ [event])) :
    Triple pre (tell event) post := holds

theorem Triple.ask {answer : List Event → Value} {event : Value → Event}
    (holds : ∀ history value, pre history → post value (history ++ [event value])) :
    Triple pre (ask answer event) post :=
  fun history before => holds history _ before

/-- A question of which the answer is known to depend on what passed before. -/
theorem Triple.answered {answer : List Event → Value} {event : Value → Event}
    (holds : ∀ history, pre history → post (answer history) (history ++ [event (answer history)])) :
    Triple pre (Dialogue.ask answer event) post := holds

theorem Triple.consequence (triple : Triple pre program post)
    (before : ∀ history, weaker history → pre history)
    (behind : ∀ value history, post value history → stronger value history) :
    Triple weaker program stronger :=
  fun history holds => behind _ _ (triple history (before history holds))

theorem Triple.known {fact : Prop} (triple : fact → Triple pre program post) :
    Triple (fun history => pre history ∧ fact) program post :=
  fun history holds => triple holds.2 history holds.1

theorem Triple.ite {condition : Prop} [Decidable condition] {other : Dialogue Event Value}
    (yes : condition → Triple pre program post) (no : ¬ condition → Triple pre other post) :
    Triple pre (if condition then program else other) post := by
  split
  · next holds => exact yes holds
  · next fails => exact no fails

end Programs

/-! ## What a program adds -/

section Added

variable {Event Value Other Word : Type}

/-- Behind what passed before comes what was added, of which the words may be told. -/
def Adds (word : Event → Option Word) (program : Dialogue Event Value)
    (post : Value → List Word → Prop) : Prop :=
  ∀ history, ∃ added, (program history).2 = history ++ added ∧
    post (program history).1 (added.filterMap word)

variable {word : Event → Option Word} {post : Value → List Word → Prop}
variable {program : Dialogue Event Value} {next : Value → Dialogue Event Other}

theorem Adds.pure {value : Value} (holds : post value []) :
    Adds word (pure value : Dialogue Event Value) post :=
  fun history => ⟨[], (List.append_nil history).symm, holds⟩

theorem Adds.tell {event : Event} {post : Unit → List Word → Prop}
    (holds : post () (word event).toList) : Adds word (tell event) post := by
  refine fun history => ⟨[event], rfl, ?_⟩
  rw [List.filterMap_cons]
  cases told : word event with
  | none => simpa [told] using holds
  | some value => simpa [told] using holds

theorem Adds.ask {answer : List Event → Value} {event : Value → Event}
    (holds : ∀ value, post value (word (event value)).toList) :
    Adds word (ask answer event) post := by
  refine fun history => ⟨[event (answer history)], rfl, ?_⟩
  have told := holds (answer history)
  rw [List.filterMap_cons]
  cases known : word (event (answer history)) with
  | none =>
      rw [known] at told
      exact told
  | some value =>
      rw [known] at told
      exact told

theorem Adds.bind {last : Other → List Word → Prop} (first : Adds word program post)
    (second : ∀ value words, post value words →
      Adds word (next value) fun other more => last other (words ++ more)) :
    Adds word (program >>= next) last := by
  intro history
  obtain ⟨added, passed, told⟩ := first history
  obtain ⟨more, passedMore, toldMore⟩ := second _ _ told (program history).2
  refine ⟨added ++ more, ?_, ?_⟩
  · rw [← List.append_assoc, ← passed]
    exact passedMore
  · rw [List.filterMap_append]
    exact toldMore

theorem Adds.consequence {other : Value → List Word → Prop} (adds : Adds word program post)
    (behind : ∀ value words, post value words → other value words) : Adds word program other := by
  intro history
  obtain ⟨added, passed, told⟩ := adds history
  exact ⟨added, passed, behind _ _ told⟩

/-- The words in other words. -/
theorem Adds.map {Label : Type} (adds : Adds word program post) (make : Word → Label) :
    Adds (fun event => (word event).map make) program fun value labels =>
      ∃ words, labels = words.map make ∧ post value words := by
  intro history
  obtain ⟨added, passed, told⟩ := adds history
  exact ⟨added, passed, _, List.map_filterMap.symm, told⟩

theorem Adds.ite {condition : Prop} [Decidable condition] {other : Dialogue Event Value}
    (yes : condition → Adds word program post) (no : ¬ condition → Adds word other post) :
    Adds word (if condition then program else other) post := by
  split
  · next holds => exact yes holds
  · next fails => exact no fails

end Added

/-! ## Dialogues with a part of the outside -/

section Embedded

variable {Event Inner Value Word : Type}

/-- The program sees of what passed before what is `inside`.  What it adds comes with its
value. -/
def embed (inside : Event → Option Inner) (outside : Inner → Event)
    (program : Dialogue Inner Value) : Dialogue Event (Value × List Inner) := fun history =>
  let before := history.filterMap inside
  let ended := program before
  let added := ended.2.drop before.length
  ((ended.1, added), history ++ added.map outside)

theorem Adds.embed {inside : Event → Option Inner} {outside : Inner → Event}
    {program : Dialogue Inner Value} {inner : Inner → Option Word} {word : Event → Option Word}
    {post : Value → List Word → Prop} (adds : Adds inner program post)
    (same : ∀ event, word (outside event) = inner event) :
    Adds word (embed inside outside program) fun value words =>
      post value.1 words ∧ value.2.filterMap inner = words := by
  intro history
  obtain ⟨added, passed, told⟩ := adds (history.filterMap inside)
  have drop : (program (history.filterMap inside)).2.drop (history.filterMap inside).length =
      added := by
    rw [passed, List.drop_left]
  have words : (added.map outside).filterMap word = added.filterMap inner := by
    rw [List.filterMap_map]
    exact congrArg (fun told => added.filterMap told) (funext same)
  refine ⟨added.map outside, ?_, ?_, ?_⟩
  · rw [Dialogue.embed, drop]
  · rw [words]
    exact told
  · rw [words, Dialogue.embed, drop]

/-- A program that only adds keeps what it would keep by itself. -/
theorem Triple.embed {inside : Event → Option Inner} {outside : Inner → Event}
    {program : Dialogue Inner Value} {word : Inner → Option Word}
    {pre : List Inner → Prop} {post : Value → List Inner → Prop}
    (same : ∀ inner, inside (outside inner) = some inner)
    (adds : Adds word program fun _ _ => True) (triple : Triple pre program post) :
    Triple (fun history => pre (history.filterMap inside)) (embed inside outside program)
      fun value history => post value.1 (history.filterMap inside) := by
  intro history holds
  obtain ⟨added, passed, -⟩ := adds (history.filterMap inside)
  have drop : (program (history.filterMap inside)).2.drop (history.filterMap inside).length =
      added := by
    rw [passed, List.drop_left]
  have back : (added.map outside).filterMap inside = added := by
    rw [List.filterMap_map]
    exact (List.filterMap_congr fun inner _ => same inner).trans List.filterMap_some
  have ended := triple _ holds
  rw [Dialogue.embed]
  dsimp only
  rwa [drop, List.filterMap_append, back, ← passed]

end Embedded

end Dialogue

end AppEfi
