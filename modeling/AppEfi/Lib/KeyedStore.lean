import Mathlib.Logic.Function.Basic

/-!
# A store of values under names
-/

set_option autoImplicit false

namespace AppEfi

variable {Name Value : Type} [DecidableEq Name]

abbrev KeyedStore (Name Value : Type) := Name → Option Value

namespace KeyedStore

/-- An existing value is replaced. -/
def set (store : KeyedStore Name Value) (name : Name) (value : Value) : KeyedStore Name Value :=
  fun other => if other = name then some value else store other

@[simp] theorem set_self (store : KeyedStore Name Value) (name : Name) (value : Value) :
    store.set name value name = some value := if_pos rfl

theorem set_of_ne (store : KeyedStore Name Value) {name other : Name} (value : Value)
    (different : other ≠ name) : store.set name value other = store other := if_neg different

end KeyedStore

end AppEfi
