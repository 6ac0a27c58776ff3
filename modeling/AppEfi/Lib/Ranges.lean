import Mathlib.Algebra.BigOperators.Group.Finset.Piecewise
import Mathlib.Data.List.Basic
import Mathlib.Order.Interval.Finset.Nat
import Mathlib.Tactic.NormNum

/-!
# Ranges and tilings

A range is a start and a length, of addresses or of offsets into a buffer.
Ranges that follow each other without a gap tile what lies between their ends:
every offset there is covered exactly once and nothing outside is touched.
-/

set_option autoImplicit false

namespace AppEfi

structure Range where
  start : Nat
  length : Nat
  deriving DecidableEq, Repr

namespace Range

def Inside (inner outer : Range) : Prop :=
  outer.start ≤ inner.start ∧ inner.start + inner.length ≤ outer.start + outer.length

instance (inner outer : Range) : Decidable (inner.Inside outer) :=
  inferInstanceAs (Decidable (_ ∧ _))

theorem inside_offset {start size offset width : Nat} :
    Inside ⟨start + offset, width⟩ ⟨start, size⟩ ↔ offset + width ≤ size := by
  simp only [Inside]
  omega

theorem inside_entry {start size table entry width : Nat} :
    Inside ⟨start + table + entry, width⟩ ⟨start, size⟩ ↔ table + entry + width ≤ size := by
  rw [Nat.add_assoc, inside_offset]

def covers (range : Range) (offset : Nat) : Bool :=
  decide (range.start ≤ offset) && decide (offset < range.start + range.length)

/-- The ranges lie back to back from `start` to `finish`. -/
def Tiles : Nat → Nat → List Range → Prop
  | start, finish, [] => start = finish
  | start, finish, range :: rest =>
      range.start = start ∧ Tiles (start + range.length) finish rest

instance decidableTiles :
    (start finish : Nat) → (ranges : List Range) → Decidable (Tiles start finish ranges)
  | start, finish, [] => inferInstanceAs (Decidable (start = finish))
  | start, finish, range :: rest =>
      haveI := decidableTiles (start + range.length) finish rest
      inferInstanceAs (Decidable (range.start = start ∧ Tiles (start + range.length) finish rest))

theorem Tiles.le {start finish : Nat} {ranges : List Range}
    (tiles : Tiles start finish ranges) : start ≤ finish := by
  induction ranges generalizing start with
  | nil => exact Nat.le_of_eq tiles
  | cons range rest ih => exact Nat.le_trans (Nat.le_add_right _ _) (ih tiles.2)

theorem Tiles.snoc {start finish : Nat} {ranges : List Range}
    (tiles : Tiles start finish ranges) (length : Nat) :
    Tiles start (finish + length) (ranges ++ [⟨finish, length⟩]) := by
  induction ranges generalizing start with
  | nil =>
      obtain rfl : start = finish := tiles
      exact ⟨rfl, rfl⟩
  | cons range rest ih => exact ⟨tiles.1, ih tiles.2⟩

theorem Tiles.inside {start finish : Nat} {ranges : List Range}
    (tiles : Tiles start finish ranges) :
    ∀ range ∈ ranges, start ≤ range.start ∧ range.start + range.length ≤ finish := by
  induction ranges generalizing start with
  | nil => simp
  | cons first rest ih =>
      obtain ⟨here, later⟩ := tiles
      intro range member
      rcases List.mem_cons.mp member with rfl | member
      · exact ⟨Nat.le_of_eq here.symm, by rw [here]; exact later.le⟩
      · obtain ⟨above, below⟩ := ih later range member
        exact ⟨by omega, below⟩

theorem Tiles.exists_finish {start finish : Nat} {ranges : List Range}
    (tiles : Tiles start finish ranges) (nonempty : ranges ≠ []) :
    ∃ range ∈ ranges, range.start + range.length = finish := by
  induction ranges generalizing start with
  | nil => exact absurd rfl nonempty
  | cons range rest ih =>
      obtain ⟨here, later⟩ := tiles
      by_cases last : rest = []
      · subst last
        exact ⟨range, List.mem_singleton_self _, by rw [here]; exact later⟩
      · obtain ⟨end_, listed, reaches⟩ := ih later last
        exact ⟨end_, List.mem_cons_of_mem _ listed, reaches⟩

theorem Tiles.countP_eq_zero {start finish : Nat} {ranges : List Range}
    (tiles : Tiles start finish ranges) (offset : Nat) (before : offset < start) :
    ranges.countP (fun range => range.covers offset) = 0 := by
  rw [List.countP_eq_zero]
  intro range member
  have above := (tiles.inside range member).1
  simp only [covers, Bool.and_eq_true, decide_eq_true_eq, not_and]
  omega

theorem Tiles.countP_eq_one {start finish : Nat} {ranges : List Range}
    (tiles : Tiles start finish ranges) (offset : Nat) (above : start ≤ offset)
    (below : offset < finish) :
    ranges.countP (fun range => range.covers offset) = 1 := by
  induction ranges generalizing start with
  | nil =>
      obtain rfl : start = finish := tiles
      omega
  | cons range rest ih =>
      obtain ⟨here, later⟩ := tiles
      rw [List.countP_cons]
      by_cases first : offset < start + range.length
      · have covered : range.covers offset = true := by
          simp only [covers, Bool.and_eq_true, decide_eq_true_eq]
          omega
        rw [later.countP_eq_zero offset first, if_pos covered]
      · have missed : ¬ range.covers offset = true := by
          simp only [covers, Bool.and_eq_true, decide_eq_true_eq]
          omega
        rw [ih later (Nat.not_lt.mp first), if_neg missed]

/-! ## Partitions -/

/-- The offsets below a size that a range inside it covers. -/
theorem sum_covers_eq_length {range : Range} {size : Nat}
    (inside : range.start + range.length ≤ size) :
    ∑ offset ∈ Finset.range size, (if range.covers offset = true then 1 else 0) =
      range.length := by
  rw [← Finset.card_filter]
  have covered : (Finset.range size).filter (fun offset => range.covers offset = true) =
      Finset.Ico range.start (range.start + range.length) := by
    ext offset
    simp only [covers, Finset.mem_filter, Finset.mem_range, Finset.mem_Ico, Bool.and_eq_true,
      decide_eq_true_eq]
    omega
  rw [covered, Nat.card_Ico, Nat.add_sub_cancel_left]

theorem sum_length_eq_sum_countP {ranges : List Range} {size : Nat}
    (inside : ∀ range ∈ ranges, range.start + range.length ≤ size) :
    (ranges.map Range.length).sum =
      ∑ offset ∈ Finset.range size, ranges.countP (fun range => range.covers offset) := by
  induction ranges with
  | nil => simp
  | cons range rest ih =>
      rw [List.forall_mem_cons] at inside
      simp only [List.map_cons, List.sum_cons, List.countP_cons, Finset.sum_add_distrib]
      rw [ih inside.2, sum_covers_eq_length inside.1, Nat.add_comm]

/-- Ranges that cover every offset below a size once, and none from there on. -/
theorem sum_length_of_partition {ranges : List Range} {size : Nat}
    (positive : ∀ range ∈ ranges, 0 < range.length)
    (once : ∀ offset, ranges.countP (fun range => range.covers offset) =
      if offset < size then 1 else 0) :
    (ranges.map Range.length).sum = size := by
  have inside : ∀ range ∈ ranges, range.start + range.length ≤ size := by
    intro range listed
    have long := positive range listed
    by_contra past
    -- the last offset of the range is covered
    have counted :
        0 < ranges.countP fun other => other.covers (range.start + range.length - 1) := by
      rw [List.countP_pos_iff]
      refine ⟨range, listed, ?_⟩
      simp only [covers, Bool.and_eq_true, decide_eq_true_eq]
      omega
    rw [once, if_neg (by omega)] at counted
    exact absurd counted (Nat.lt_irrefl 0)
  rw [sum_length_eq_sum_countP inside]
  calc ∑ offset ∈ Finset.range size, ranges.countP (fun range => range.covers offset)
      = ∑ _offset ∈ Finset.range size, 1 := by
        refine Finset.sum_congr rfl fun offset listed => ?_
        rw [once, if_pos (Finset.mem_range.mp listed)]
    _ = size := by simp

/-- A list of numbers from 1 on is as long as its sum when all are 1. -/
theorem length_eq_sum_iff {values : List Nat} (positive : ∀ value ∈ values, 1 ≤ value) :
    values.length = values.sum ↔ ∀ value ∈ values, value = 1 := by
  induction values with
  | nil => simp
  | cons value rest ih =>
      rw [List.forall_mem_cons] at positive
      have least : rest.length ≤ rest.sum := List.length_le_sum_of_one_le rest positive.2
      rw [List.forall_mem_cons, ← ih positive.2, List.length_cons, List.sum_cons]
      omega

end Range

end AppEfi
