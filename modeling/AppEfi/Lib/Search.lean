import AppEfi.Lib.Reading

/-!
# Searches that read a memory

An examination reads and finds something or not.  A search makes one examination after the other
and stops at the first that finds something, so it reads what those up to that one read.
-/

set_option autoImplicit false

namespace AppEfi.Reading

section Programs

variable {Item Value : Type}

/-- The other examination is made if this one finds nothing. -/
def orElse (first second : Reading (Option Value)) : Reading (Option Value) := do
  match ← first with
  | some value => pure (some value)
  | none => second

/-- `for (i = index; i < index + count; i++)` with a return from inside. -/
def search (examine : Nat → Reading (Option Value)) : Nat → Nat → Reading (Option Value)
  | 0, _ => pure none
  | count + 1, index => orElse (examine index) (search examine count (index + 1))

/-- The items that a search comes to, the one that it stops at included. -/
def upToFound (found : Item → Option Value) : List Item → List Item
  | [] => []
  | item :: rest => item :: if found item = none then upToFound found rest else []

end Programs

section Rules

variable {Item Value : Type} {Good : Range → Prop} {first second : Reading (Option Value)}
variable {found later : Option Value}

theorem Ends.orElse (ends : Ends first found) (behind : Ends second later) :
    Ends (orElse first second) (found.or later) := by
  rw [Reading.orElse, ends_bind]
  refine ⟨found, ends, ?_⟩
  cases found with
  | none => exact behind
  | some value => exact ends_pure.mpr rfl

theorem allReads_orElse (ends : Ends first found) :
    AllReads Good (orElse first second) ↔
      AllReads Good first ∧ (found = none → AllReads Good second) := by
  rw [orElse, allReads_bind]
  refine and_congr_right fun _ => ⟨?_, ?_⟩
  · intro all none
    exact all _ (none ▸ ends)
  · intro all value other
    obtain rfl := other.unique ends
    cases value with
    | none => exact all rfl
    | some value => exact allReads_pure _

variable {examine : Nat → Reading (Option Value)} {finds : Item → Option Value}
variable {items : List Item} {index : Nat}

/-- A search through a list, of which the item at each index is examined. -/
theorem ends_search
    (examines : ∀ offset item, items[offset]? = some item →
      Ends (examine (index + offset)) (finds item)) :
    Ends (search examine items.length index) (items.findSome? finds) := by
  induction items generalizing index with
  | nil => exact ends_pure.mpr rfl
  | cons item rest ih =>
      rw [List.length_cons, search, List.findSome?_cons]
      have behind := @ih (index + 1) fun offset other listed => by
        rw [Nat.add_right_comm, Nat.add_assoc]
        exact examines (offset + 1) other listed
      have both := (examines 0 item rfl).orElse behind
      rw [Nat.add_zero] at both
      cases now : finds item with
      | none => rwa [now, Option.none_or] at both
      | some value => rwa [now, Option.some_or] at both

theorem allReads_search
    (examines : ∀ offset item, items[offset]? = some item →
      Ends (examine (index + offset)) (finds item)) {Fine : Item → Prop}
    (reads : ∀ offset item, items[offset]? = some item →
      (AllReads Good (examine (index + offset)) ↔ Fine item)) :
    AllReads Good (search examine items.length index) ↔
      ∀ item ∈ upToFound finds items, Fine item := by
  induction items generalizing index with
  | nil => exact iff_of_true (allReads_pure _) fun _ member => absurd member List.not_mem_nil
  | cons item rest ih =>
      have shift : ∀ offset, index + 1 + offset = index + (offset + 1) := fun offset => by omega
      have behind := @ih (index + 1)
        (fun offset other listed => shift offset ▸ examines (offset + 1) other listed)
        (fun offset other listed => shift offset ▸ reads (offset + 1) other listed)
      have ends : Ends (examine index) (finds item) := examines 0 item rfl
      have own : AllReads Good (examine index) ↔ Fine item := reads 0 item rfl
      rw [List.length_cons, search, allReads_orElse ends, own, behind, upToFound,
        List.forall_mem_cons]
      refine and_congr_right fun _ => ?_
      cases finds item with
      | none => simp
      | some value => simp

end Rules

end AppEfi.Reading
