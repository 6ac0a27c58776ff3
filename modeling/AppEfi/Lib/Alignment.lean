import Mathlib.Data.Nat.Basic
import Mathlib.Tactic.Common

/-!
# Alignment of offsets
-/

set_option autoImplicit false

namespace AppEfi

/-- The first multiple of `alignment` that is not below `value`. -/
def alignValue (value alignment : Nat) : Nat :=
  (value + (alignment - 1)) / alignment * alignment

variable {value alignment : Nat}

theorem alignValue_mod (value alignment : Nat) : alignValue value alignment % alignment = 0 :=
  Nat.mul_mod_left _ _

theorem le_alignValue (positive : 0 < alignment) : value ≤ alignValue value alignment := by
  have split := Nat.div_add_mod (value + (alignment - 1)) alignment
  have rest := Nat.mod_lt (value + (alignment - 1)) positive
  rw [alignValue, Nat.mul_comm]
  omega

theorem alignValue_lt (positive : 0 < alignment) :
    alignValue value alignment < value + alignment := by
  have split := Nat.div_add_mod (value + (alignment - 1)) alignment
  rw [alignValue, Nat.mul_comm]
  omega

theorem alignValue_add {offset : Nat} (aligned : offset % alignment = 0)
    (positive : 0 < alignment) :
    alignValue (offset + value) alignment = offset + alignValue value alignment := by
  obtain ⟨count, rfl⟩ := Nat.dvd_of_mod_eq_zero aligned
  rw [alignValue, alignValue, Nat.add_assoc, Nat.mul_add_div positive, Nat.add_mul,
    Nat.mul_comm alignment count]

theorem alignValue_of_mod (aligned : value % alignment = 0) (positive : 0 < alignment) :
    alignValue value alignment = value := by
  have shifted := @alignValue_add 0 alignment value aligned positive
  have zero : alignValue 0 alignment = 0 := by
    rw [alignValue, Nat.zero_add, Nat.div_eq_of_lt (Nat.sub_lt positive Nat.one_pos),
      Nat.zero_mul]
  rwa [zero, Nat.add_zero] at shifted

theorem alignValue_between {other : Nat} (positive : 0 < alignment) (above : value ≤ other)
    (below : other ≤ alignValue value alignment) :
    alignValue other alignment = alignValue value alignment := by
  have otherLow := @le_alignValue other alignment positive
  have otherHigh := @alignValue_lt other alignment positive
  have high := @alignValue_lt value alignment positive
  obtain ⟨first, firstEq⟩ := Nat.dvd_of_mod_eq_zero (alignValue_mod value alignment)
  obtain ⟨second, secondEq⟩ := Nat.dvd_of_mod_eq_zero (alignValue_mod other alignment)
  have same : first = second := by
    by_contra different
    rcases Nat.lt_or_gt_of_ne different with less | greater
    · have step : alignment * first + alignment ≤ alignment * second := by
        rw [← Nat.mul_succ]
        exact Nat.mul_le_mul_left alignment less
      omega
    · have step : alignment * second + alignment ≤ alignment * first := by
        rw [← Nat.mul_succ]
        exact Nat.mul_le_mul_left alignment greater
      omega
  rw [firstEq, secondEq, same]

end AppEfi
