import AppEfi.Lib.Memory
import AppEfi.Lib.Ranges
import Mathlib.Data.Nat.Count

/-!
# Blocks of the selected entries

Some of the entries of a table own a block of `width` bytes in another one, which has no
places in it: a block is found by counting the selected entries before its own.  The blocks
then lie back to back in the order of the entries.
-/

set_option autoImplicit false

namespace AppEfi.SelectedBlocks

section Places

variable (selected : Nat → Prop) [DecidablePred selected] (width base : Nat)

/-- The selected entries before `count`, in order. -/
def entries (count : Nat) : List Nat := (List.range count).filter selected

def block (index : Nat) : Range := ⟨base + width * Nat.count selected index, width⟩

variable {selected}

theorem mem_entries {count index : Nat} :
    index ∈ entries selected count ↔ index < count ∧ selected index := by
  rw [entries, List.mem_filter, List.mem_range, decide_eq_true_eq]

variable (selected)

theorem length_entries (count : Nat) :
    (entries selected count).length = Nat.count selected count := by
  rw [entries, Nat.count, List.countP_eq_length_filter]

/-- The next entry joins the list when it is selected. -/
theorem entries_succ (count : Nat) :
    entries selected (count + 1) =
      entries selected count ++ if selected count then [count] else [] := by
  rw [entries, List.range_succ, List.filter_append, entries]
  by_cases here : selected count <;> simp [here]

/-- The blocks lie back to back in the order of their entries. -/
theorem tiles_block (count : Nat) :
    Range.Tiles base (base + width * (entries selected count).length)
      ((entries selected count).map (block selected width base)) := by
  induction count with
  | zero => exact Nat.add_zero base
  | succ count ih =>
      rw [entries_succ]
      by_cases here : selected count
      · have next := ih.snoc width
        rw [length_entries] at next
        rw [if_pos here, List.map_append, List.length_append, List.length_singleton, Nat.mul_succ,
          ← Nat.add_assoc, length_entries]
        exact next
      · rw [if_neg here, List.append_nil]
        exact ih

variable {selected} {width} {base}

/-- A block ends before that of a later entry. -/
theorem block_before {first second : Nat} (chosen : selected first) (before : first < second) :
    (block selected width base first).start + width ≤
      (block selected width base second).start := by
  have more : Nat.count selected first + 1 ≤ Nat.count selected second :=
    Nat.count_strict_mono chosen before
  have scaled := Nat.mul_le_mul_left width more
  rw [Nat.mul_succ] at scaled
  simp only [block]
  omega

theorem block_disjoint {first second : Nat} (one : selected first) (other : selected second)
    (different : first ≠ second) (offset : Nat)
    (covered : (block selected width base first).covers offset = true) :
    (block selected width base second).covers offset = false := by
  rw [Range.covers, Bool.and_eq_true, decide_eq_true_eq, decide_eq_true_eq] at covered
  rw [Range.covers, Bool.and_eq_false_iff, decide_eq_false_iff_not, decide_eq_false_iff_not]
  obtain ⟨above, below⟩ := covered
  rcases Nat.lt_or_gt_of_ne different with before | behind
  · have apart := @block_before selected _ width base _ _ one before
    left
    exact Nat.not_le.mpr (Nat.lt_of_lt_of_le below apart)
  · have apart := @block_before selected _ width base _ _ other behind
    right
    exact Nat.not_lt.mpr (Nat.le_trans apart above)

/-- Bytes that are stored block by block are found where the count leads to. -/
theorem holds_block {memory : Memory} {bytes : Nat → List UInt8} {count index : Nat}
    (length : ∀ entry, (bytes entry).length = width)
    (held : memory.Holds base ((entries selected count).flatMap bytes))
    (listed : index ∈ entries selected count) :
    memory.Holds (block selected width base index).start (bytes index) := by
  induction count with
  | zero => cases listed
  | succ count ih =>
      rw [entries_succ, List.flatMap_append, Memory.holds_append] at held
      obtain ⟨before, here⟩ := held
      obtain ⟨below, chosen⟩ := mem_entries.mp listed
      rcases Nat.lt_succ_iff_lt_or_eq.mp below with earlier | rfl
      · exact ih before (mem_entries.mpr ⟨earlier, chosen⟩)
      · have place : ((entries selected index).flatMap bytes).length =
            width * Nat.count selected index := by
          rw [← length_entries, Nat.mul_comm]
          simp [List.length_flatMap, length]
        rw [if_pos chosen, List.flatMap_singleton, place] at here
        exact here

end Places

end AppEfi.SelectedBlocks
