import Mathlib.Data.List.Induction
import Mathlib.Logic.Function.Basic

/-!
# Stores into a buffer

Stores that are made one after the other: a place has the value of the last store to it.
-/

set_option autoImplicit false

namespace AppEfi.Stores

variable {Place Value : Type} [DecidableEq Place]

def applyStores (buffer : Place → Value) (stores : List (Place × Value)) : Place → Value :=
  stores.foldl (fun current store => Function.update current store.1 store.2) buffer

def lastStore (stores : List (Place × Value)) (place : Place) : Option Value :=
  (stores.reverse.find? fun store => store.1 = place).map Prod.snd

variable {stores : List (Place × Value)} {place : Place}

theorem applyStores_apply (buffer : Place → Value) (stores : List (Place × Value))
    (place : Place) :
    applyStores buffer stores place = (lastStore stores place).getD (buffer place) := by
  induction stores using List.reverseRecOn with
  | nil => rfl
  | append_singleton stores store ih =>
      rw [applyStores, List.foldl_append, List.foldl_cons, List.foldl_nil, lastStore,
        List.reverse_append]
      by_cases same : store.1 = place
      · simp [same]
      · rw [applyStores, lastStore] at ih
        simpa [same, Function.update_of_ne (Ne.symm same)] using ih

/-- Stores to the places from 0 on. -/
theorem applyStores_range (buffer value : Nat → Value) (count place : Nat) :
    applyStores buffer ((List.range count).map fun index => (index, value index)) place =
      if place < count then value place else buffer place := by
  induction count with
  | zero => rfl
  | succ count ih =>
      rw [applyStores] at ih
      rw [applyStores, List.range_succ, List.map_append, List.foldl_append, List.map_singleton,
        List.foldl_cons, List.foldl_nil]
      by_cases last : place = count
      · rw [last, Function.update_self, if_pos (Nat.lt_succ_self count)]
      · rw [Function.update_of_ne last, ih]
        split <;> split <;> first | rfl | omega

end AppEfi.Stores
