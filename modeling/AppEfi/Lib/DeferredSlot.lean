import Mathlib.Data.List.Basic

/-!
# A slot that is emitted after the loop

A loop emits some values and records others.  One form emits a recorded value
where it stands; the other keeps it in a slot and emits the slot at the end.
-/

set_option autoImplicit false

namespace AppEfi.DeferredSlot

universe u

variable {Value : Type u}

inductive Item (Value : Type u) where
  | emit (value : Value)
  | record (value : Option Value)

/-- What is recorded is emitted at once. -/
def emitNow : List (Item Value) → List Value
  | [] => []
  | .emit value :: rest => value :: emitNow rest
  | .record value :: rest => value.toList ++ emitNow rest

/-- What is recorded overwrites the slot. -/
def emitLate (slot : Option Value) : List (Item Value) → List Value
  | [] => slot.toList
  | .emit value :: rest => value :: emitLate slot rest
  | .record value :: rest => emitLate value rest

/-- `later` neither overwrites the recorded value nor tells its place. -/
def Keeps (value : Value) : Item Value → Prop
  | .emit other => other = value
  | .record _ => False

/-- A recorded value is kept by the item behind it. -/
def KeepsRecorded (first later : Item Value) : Prop :=
  ∀ value, first = .record (some value) → Keeps value later

theorem length_emitLate_le (items : List (Item Value)) :
    ∀ slot : Option Value,
      (emitLate slot items).length ≤ slot.toList.length + (emitNow items).length := by
  induction items with
  | nil =>
      intro slot
      simp only [emitLate, emitNow, List.length_nil, Nat.add_zero, Nat.le_refl]
  | cons item rest ih =>
      intro slot
      cases item with
      | emit value =>
          have inductionStep := ih slot
          simp only [emitLate, emitNow, List.length_cons]
          omega
      | record value =>
          have inductionStep := ih value
          simp only [emitLate, emitNow, List.length_append]
          omega

theorem emitLate_some_eq_iff (value : Value) (items : List (Item Value)) :
    emitLate (some value) items = value :: emitNow items ↔
      ∀ item ∈ items, Keeps value item := by
  induction items with
  | nil =>
      constructor
      · intro _ item member
        cases member
      · intro _
        rfl
  | cons item rest ih =>
      rw [List.forall_mem_cons]
      cases item with
      | emit other =>
          rw [emitLate, emitNow, List.cons.injEq]
          apply and_congr_right
          intro same
          rw [same]
          exact ih
      | record other =>
          -- The slot loses a value that the other form has emitted.
          have short := length_emitLate_le rest other
          constructor
          · intro same
            have lengths := congrArg List.length same
            rw [emitLate, emitNow, List.length_cons, List.length_append] at lengths
            omega
          · intro kept
            exact False.elim kept.1

/-- The two forms emit the same list exactly when nothing behind a recorded value
overwrites it or could be told from it. -/
theorem emitLate_eq_emitNow_iff (items : List (Item Value)) :
    emitLate none items = emitNow items ↔ items.Pairwise KeepsRecorded := by
  induction items with
  | nil =>
      constructor
      · intro _
        exact List.Pairwise.nil
      · intro _
        rfl
  | cons item rest ih =>
      rw [List.pairwise_cons]
      cases item with
      | emit value =>
          rw [emitLate, emitNow, List.cons.injEq, ih]
          constructor
          · intro same
            refine ⟨?_, same.2⟩
            intro later _ other equal
            cases equal
          · intro kept
            exact ⟨rfl, kept.2⟩
      | record value =>
          rw [emitLate, emitNow]
          cases value with
          | none =>
              rw [Option.toList_none, List.nil_append, ih]
              constructor
              · intro kept
                refine ⟨?_, kept⟩
                intro later _ other equal
                cases equal
              · intro kept
                exact kept.2
          | some value =>
              rw [Option.toList_some, List.singleton_append, emitLate_some_eq_iff]
              constructor
              · intro kept
                constructor
                · intro later member other equal
                  cases equal
                  exact kept later member
                · apply List.Pairwise.imp_of_mem (R := fun _ _ => True)
                  · intro first later firstMember _ _ other equal
                    have firstKept := kept first firstMember
                    rw [equal] at firstKept
                    exact False.elim firstKept
                  · exact List.pairwise_of_forall fun _ _ => trivial
              · intro kept later member
                exact kept.1 later member value rfl

end AppEfi.DeferredSlot
