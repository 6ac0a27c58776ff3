import Mathlib.Data.List.TakeWhile
import Mathlib.Tactic.Common
import Mathlib.Tactic.NormNum

/-!
# Pages for the next boot

DumpMemoryTypeInfoSummary of MemoryTypeInfo.c.  The counts of pages are 32 bits wide, and so
are the 150% and the 125% of them.
-/

set_option autoImplicit false

namespace AppEfi.MemoryTypeInfo

/-- `EFI_MEMORY_TYPE_INFORMATION`. -/
structure MemoryTypeInformation where
  type : UInt32
  numberOfPages : UInt32
  deriving DecidableEq, Repr

/-- A printed line. -/
structure SummaryRow where
  type : UInt32
  previous : UInt32
  current : UInt32
  next : UInt32
  deriving DecidableEq, Repr

/-- The table of the previous boot after the run, the lines, and
MemoryTypeInformationModified. -/
structure Summary where
  table : List MemoryTypeInformation
  rows : List SummaryRow
  modified : Bool
  deriving DecidableEq, Repr

def bootWithDefaultSettings : UInt32 := 4

/-- The heuristic for one type: `previous` is preallocated, `current` actually needed. -/
def adjustedPages (bootMode previous current : UInt32) : UInt32 :=
  if current + (current >>> 1) < previous then
    if bootMode = bootWithDefaultSettings then current + (current >>> 2) else previous
  else if previous < current then current + (current >>> 2)
  else previous

def atLeastFour (next : UInt32) : UInt32 := if 0 < next ∧ next < 4 then 4 else next

def nextPages (bootMode previous current : UInt32) : UInt32 :=
  atLeastFour (adjustedPages bootMode previous current)

section Dump

variable (efiMaxMemoryType bootMode : UInt32)

/-- The inner loop: the first entry of the type, in front of the terminator. -/
def findType (type : UInt32) : List MemoryTypeInformation → Option MemoryTypeInformation
  | [] => none
  | entry :: rest =>
      if entry.type = efiMaxMemoryType then none
      else if type = entry.type then some entry
      else findType type rest

def dumpMemoryTypeInfoSummary (currentTable : List MemoryTypeInformation) :
    List MemoryTypeInformation → Summary
  | [] => { table := [], rows := [], modified := false }
  | entry :: rest =>
      if entry.type = efiMaxMemoryType then
        { table := entry :: rest, rows := [], modified := false }
      else
        let later := dumpMemoryTypeInfoSummary currentTable rest
        match findType efiMaxMemoryType entry.type currentTable with
        | none => { later with table := entry :: later.table }
        | some needed =>
            let next := nextPages bootMode entry.numberOfPages needed.numberOfPages
            { table :=
                (if next ≠ entry.numberOfPages then { entry with numberOfPages := next }
                  else entry) :: later.table
              rows := ⟨entry.type, entry.numberOfPages, needed.numberOfPages, next⟩ :: later.rows
              modified := decide (next ≠ entry.numberOfPages) || later.modified }

/-- Short memory gets at least what it needs, and a second run on the table that the first has
left changes nothing. -/
structure AdjustsOnce (currentTable previousTable : List MemoryTypeInformation) : Prop where
  enough : ∀ row ∈ (dumpMemoryTypeInfoSummary efiMaxMemoryType bootMode currentTable
    previousTable).rows, row.previous < row.current → row.current ≤ row.next
  unchanged : (dumpMemoryTypeInfoSummary efiMaxMemoryType bootMode currentTable
      (dumpMemoryTypeInfoSummary efiMaxMemoryType bootMode currentTable
        previousTable).table).table =
    (dumpMemoryTypeInfoSummary efiMaxMemoryType bootMode currentTable previousTable).table
  unmodified : (dumpMemoryTypeInfoSummary efiMaxMemoryType bootMode currentTable
    (dumpMemoryTypeInfoSummary efiMaxMemoryType bootMode currentTable
      previousTable).table).modified = false

/-- The entries in front of the terminator. -/
def listed (table : List MemoryTypeInformation) : List MemoryTypeInformation :=
  table.takeWhile fun entry => entry.type ≠ efiMaxMemoryType

/-- 125% of the need fit 32 bits, and what is left of 150% of it is not below what is
preallocated, unless the boot mode sets 125% in that case too. -/
def NeedFits (previous current : UInt32) : Prop :=
  current < 0xCCCCCCCD ∧
    (bootMode = bootWithDefaultSettings ∨ previous ≤ current + (current >>> 1))

end Dump

/-! ## One type -/

section Pages

variable {bootMode previous current : UInt32}

/-- 150% wrap from two thirds of 2^32 on. -/
theorem toNat_half (pages : UInt32) :
    pages.toNat < 0xAAAAAAAB ∧ (pages + (pages >>> 1)).toNat = pages.toNat + pages.toNat / 2 ∨
      0xAAAAAAAB ≤ pages.toNat ∧
        (pages + (pages >>> 1)).toNat + 2 ^ 32 = pages.toNat + pages.toNat / 2 := by
  have one : UInt32.toNat 1 % 32 = 1 := rfl
  have bound := pages.toNat_lt
  rw [UInt32.toNat_add, UInt32.toNat_shiftRight, one, Nat.shiftRight_eq_div_pow, Nat.pow_one]
  omega

/-- 125% wrap from four fifths of 2^32 on. -/
theorem toNat_quarter (pages : UInt32) :
    pages.toNat < 0xCCCCCCCD ∧ (pages + (pages >>> 2)).toNat = pages.toNat + pages.toNat / 4 ∨
      0xCCCCCCCD ≤ pages.toNat ∧
        (pages + (pages >>> 2)).toNat + 2 ^ 32 = pages.toNat + pages.toNat / 4 := by
  have two : UInt32.toNat 2 % 32 = 2 := rfl
  have bound := pages.toNat_lt
  have power : 2 ^ 2 = 4 := rfl
  rw [UInt32.toNat_add, UInt32.toNat_shiftRight, two, Nat.shiftRight_eq_div_pow, power]
  omega

theorem atLeastFour_cases (next : UInt32) :
    atLeastFour next = next ∧ (next.toNat = 0 ∨ 4 ≤ next.toNat) ∨
      atLeastFour next = 4 ∧ 0 < next.toNat ∧ next.toNat < 4 := by
  have zero : (0 : UInt32).toNat = 0 := rfl
  have four : (4 : UInt32).toNat = 4 := rfl
  rw [atLeastFour]
  simp only [UInt32.lt_iff_toNat_lt, zero, four]
  by_cases few : 0 < next.toNat ∧ next.toNat < 4
  · exact Or.inr ⟨if_pos few, few⟩
  · exact Or.inl ⟨if_neg few, by omega⟩

theorem le_atLeastFour (next : UInt32) : next.toNat ≤ (atLeastFour next).toNat := by
  have four : (4 : UInt32).toNat = 4 := rfl
  rcases atLeastFour_cases next with ⟨same, _⟩ | ⟨raised, _, below⟩
  · rw [same]
  · rw [raised, four]
    omega

/-- The count is set to 125% of the need, or left alone. -/
theorem adjustedPages_cases (bootMode previous current : UInt32) :
    adjustedPages bootMode previous current = current + (current >>> 2) ∧
        (current + (current >>> 1) < previous ∧ bootMode = bootWithDefaultSettings ∨
          ¬ current + (current >>> 1) < previous ∧ previous < current) ∨
      adjustedPages bootMode previous current = previous ∧
        (current + (current >>> 1) < previous ∧ bootMode ≠ bootWithDefaultSettings ∨
          ¬ current + (current >>> 1) < previous ∧ ¬ previous < current) := by
  rw [adjustedPages]
  split
  · next above =>
      split
      · next defaults => exact Or.inl ⟨rfl, Or.inl ⟨above, defaults⟩⟩
      · next otherMode => exact Or.inr ⟨rfl, Or.inl ⟨above, otherMode⟩⟩
  · next notAbove =>
      split
      · next short => exact Or.inl ⟨rfl, Or.inr ⟨notAbove, short⟩⟩
      · next notShort => exact Or.inr ⟨rfl, Or.inr ⟨notAbove, notShort⟩⟩

theorem nextPages_eq_of_adjusted
    (adjusted : adjustedPages bootMode previous current = current + (current >>> 2)) :
    nextPages bootMode previous current = atLeastFour (current + (current >>> 2)) := by
  rw [nextPages, adjusted]

theorem atLeastFour_atLeastFour (next : UInt32) :
    atLeastFour (atLeastFour next) = atLeastFour next := by
  rcases atLeastFour_cases next with ⟨same, _⟩ | ⟨raised, _⟩
  · rw [same, same]
  · rw [raised]
    rfl

/-- A count that has been left alone, and at most raised to four, is 125% of the need where a
second run sets it. -/
theorem atLeastFour_eq_of_kept
    (kept : current + (current >>> 1) < previous ∧ bootMode ≠ bootWithDefaultSettings ∨
      ¬ current + (current >>> 1) < previous ∧ ¬ previous < current)
    (again : current + (current >>> 1) < atLeastFour previous ∧
        bootMode = bootWithDefaultSettings ∨
      ¬ current + (current >>> 1) < atLeastFour previous ∧ atLeastFour previous < current) :
    atLeastFour (current + (current >>> 2)) = atLeastFour previous := by
  have four : (4 : UInt32).toNat = 4 := rfl
  have half := toNat_half current
  have quarter := toNat_quarter current
  have currentBound := current.toNat_lt
  have raises := le_atLeastFour previous
  simp only [UInt32.lt_iff_toNat_lt] at kept again
  rcases kept with ⟨above, otherMode⟩ | ⟨notAbove, notShort⟩
  · rcases again with ⟨_, defaults⟩ | ⟨notAbove, _⟩
    · exact absurd defaults otherMode
    · omega
  · rcases again with ⟨above, _⟩ | ⟨_, short⟩
    · -- The count is below four, and so is the need.
      rcases atLeastFour_cases previous with ⟨same, _⟩ | ⟨raised, some, below⟩
      · rw [same] at above
        omega
      · rw [raised, four] at above
        rw [raised]
        rcases atLeastFour_cases (current + (current >>> 2)) with ⟨_, many⟩ | ⟨same, _⟩
        · omega
        · exact same
    · omega

/-- What a run has made of a count is left alone by the next one, also where the percentages
wrap. -/
theorem nextPages_nextPages (bootMode previous current : UInt32) :
    nextPages bootMode (nextPages bootMode previous current) current =
      nextPages bootMode previous current := by
  have kept : ∀ pages, adjustedPages bootMode (atLeastFour pages) current = atLeastFour pages →
      nextPages bootMode (atLeastFour pages) current = atLeastFour pages := by
    intro pages same
    rw [nextPages, same, atLeastFour_atLeastFour]
  rcases adjustedPages_cases bootMode previous current with ⟨adjusted, _⟩ | ⟨left, why⟩
  · rw [nextPages_eq_of_adjusted adjusted]
    rcases adjustedPages_cases bootMode (atLeastFour (current + (current >>> 2))) current with
      ⟨again, _⟩ | ⟨again, _⟩
    · exact nextPages_eq_of_adjusted again
    · exact kept _ again
  · have first : nextPages bootMode previous current = atLeastFour previous := by
      rw [nextPages, left]
    rw [first]
    rcases adjustedPages_cases bootMode (atLeastFour previous) current with
      ⟨again, secondWhy⟩ | ⟨again, _⟩
    · rw [nextPages_eq_of_adjusted again, atLeastFour_eq_of_kept why secondWhy]
    · exact kept _ again

/-- Short memory gets enough exactly where the percentages fit. -/
theorem le_nextPages_iff (short : previous < current) :
    current ≤ nextPages bootMode previous current ↔ NeedFits bootMode previous current := by
  have limit : (0xCCCCCCCD : UInt32).toNat = 0xCCCCCCCD := rfl
  have four : (4 : UInt32).toNat = 4 := rfl
  have half := toNat_half current
  have quarter := toNat_quarter current
  have currentBound := current.toNat_lt
  rw [NeedFits, nextPages]
  simp only [UInt32.lt_iff_toNat_lt, UInt32.le_iff_toNat_le, limit] at short ⊢
  rcases adjustedPages_cases bootMode previous current with ⟨adjusted, why⟩ | ⟨left, why⟩
  · have raises := le_atLeastFour (current + (current >>> 2))
    have covered : bootMode = bootWithDefaultSettings ∨
        previous.toNat ≤ (current + (current >>> 1)).toNat := by
      rcases why with ⟨_, defaults⟩ | ⟨notAbove, _⟩
      · exact Or.inl defaults
      · rw [UInt32.lt_iff_toNat_lt] at notAbove
        exact Or.inr (Nat.not_lt.mp notAbove)
    rw [adjusted, and_iff_left covered]
    rcases atLeastFour_cases (current + (current >>> 2)) with ⟨same, _⟩ | ⟨raised, _, below⟩
    · rw [same]
      omega
    · rw [raised, four]
      omega
  · simp only [UInt32.lt_iff_toNat_lt] at why
    rcases why with ⟨above, otherMode⟩ | ⟨_, notShort⟩
    · -- 150% of the need have wrapped, so that the need is large.
      rw [left]
      rcases atLeastFour_cases previous with ⟨same, _⟩ | ⟨raised, _, below⟩
      · rw [same]
        simp only [otherMode, false_or]
        omega
      · rw [raised, four]
        simp only [otherMode, false_or]
        omega
    · exact absurd short notShort

end Pages

/-! ## The tables -/

section Tables

variable {efiMaxMemoryType bootMode : UInt32}
variable {currentTable previousTable : List MemoryTypeInformation}

/-- The entry of a table behind a run. -/
def adjustedEntry (efiMaxMemoryType bootMode : UInt32) (currentTable : List MemoryTypeInformation)
    (entry : MemoryTypeInformation) : MemoryTypeInformation :=
  match findType efiMaxMemoryType entry.type currentTable with
  | none => entry
  | some needed =>
      { entry with
        numberOfPages := nextPages bootMode entry.numberOfPages needed.numberOfPages }

def adjustedRow (efiMaxMemoryType bootMode : UInt32) (currentTable : List MemoryTypeInformation)
    (entry : MemoryTypeInformation) : Option SummaryRow :=
  (findType efiMaxMemoryType entry.type currentTable).map fun needed =>
    ⟨entry.type, entry.numberOfPages, needed.numberOfPages,
      nextPages bootMode entry.numberOfPages needed.numberOfPages⟩

theorem type_adjustedEntry (entry : MemoryTypeInformation) :
    (adjustedEntry efiMaxMemoryType bootMode currentTable entry).type = entry.type := by
  rw [adjustedEntry]
  split
  · rfl
  · rfl

theorem adjustedEntry_adjustedEntry (entry : MemoryTypeInformation) :
    adjustedEntry efiMaxMemoryType bootMode currentTable
        (adjustedEntry efiMaxMemoryType bootMode currentTable entry) =
      adjustedEntry efiMaxMemoryType bootMode currentTable entry := by
  have type := @type_adjustedEntry efiMaxMemoryType bootMode currentTable entry
  cases found : findType efiMaxMemoryType entry.type currentTable with
  | none => simp only [adjustedEntry, found]
  | some needed => simp only [adjustedEntry, found, nextPages_nextPages]

/-- A turn of the outer loop, and the turns behind it. -/
theorem dumpMemoryTypeInfoSummary_cons {entry : MemoryTypeInformation}
    {rest : List MemoryTypeInformation} (inside : entry.type ≠ efiMaxMemoryType) :
    dumpMemoryTypeInfoSummary efiMaxMemoryType bootMode currentTable (entry :: rest) =
      let later := dumpMemoryTypeInfoSummary efiMaxMemoryType bootMode currentTable rest
      let adjusted := adjustedEntry efiMaxMemoryType bootMode currentTable entry
      { table := adjusted :: later.table
        rows := (adjustedRow efiMaxMemoryType bootMode currentTable entry).toList ++ later.rows
        modified := decide (adjusted ≠ entry) || later.modified } := by
  rw [dumpMemoryTypeInfoSummary, if_neg inside]
  cases found : findType efiMaxMemoryType entry.type currentTable with
  | none => simp [adjustedEntry, adjustedRow, found]
  | some needed =>
      obtain ⟨type, pages⟩ := entry
      by_cases same : nextPages bootMode pages needed.numberOfPages = pages
      · simp [adjustedEntry, adjustedRow, found, same]
      · simp [adjustedEntry, adjustedRow, found, same]

theorem mem_rows_iff {row : SummaryRow} :
    row ∈ (dumpMemoryTypeInfoSummary efiMaxMemoryType bootMode currentTable previousTable).rows ↔
      ∃ entry ∈ listed efiMaxMemoryType previousTable,
        adjustedRow efiMaxMemoryType bootMode currentTable entry = some row := by
  induction previousTable with
  | nil => simp [dumpMemoryTypeInfoSummary, listed]
  | cons entry rest ih =>
      by_cases last : entry.type = efiMaxMemoryType
      · simp [dumpMemoryTypeInfoSummary, listed, last]
      · rw [listed] at ih
        simp [dumpMemoryTypeInfoSummary_cons last, ih, listed, last]

/-- A second run finds every count as it wants it. -/
theorem dumpMemoryTypeInfoSummary_again (previousTable : List MemoryTypeInformation) :
    let first := dumpMemoryTypeInfoSummary efiMaxMemoryType bootMode currentTable previousTable
    let second := dumpMemoryTypeInfoSummary efiMaxMemoryType bootMode currentTable first.table
    second.table = first.table ∧ second.modified = false := by
  induction previousTable with
  | nil => exact ⟨rfl, rfl⟩
  | cons entry rest ih =>
      dsimp only at ih ⊢
      by_cases last : entry.type = efiMaxMemoryType
      · simp [dumpMemoryTypeInfoSummary, last]
      · have stays : (adjustedEntry efiMaxMemoryType bootMode currentTable entry).type ≠
            efiMaxMemoryType := by
          rwa [type_adjustedEntry]
        rw [dumpMemoryTypeInfoSummary_cons last]
        dsimp only
        rw [dumpMemoryTypeInfoSummary_cons stays]
        simp [adjustedEntry_adjustedEntry, ih.1, ih.2]

/-- The percentages of 32 bits are too small for a need of four fifths of 2^32 on, and from two
thirds on short memory can look like too much of it. -/
theorem adjustsOnce_iff (efiMaxMemoryType bootMode : UInt32)
    (currentTable previousTable : List MemoryTypeInformation) :
    AdjustsOnce efiMaxMemoryType bootMode currentTable previousTable ↔
      ∀ entry ∈ listed efiMaxMemoryType previousTable,
        ∀ needed ∈ findType efiMaxMemoryType entry.type currentTable,
          entry.numberOfPages < needed.numberOfPages →
            NeedFits bootMode entry.numberOfPages needed.numberOfPages := by
  obtain ⟨unchanged, unmodified⟩ :=
    @dumpMemoryTypeInfoSummary_again efiMaxMemoryType bootMode currentTable previousTable
  constructor
  · intro adjusts entry member needed found short
    have row := adjusts.enough _ (mem_rows_iff.mpr ⟨entry, member, by
      rw [adjustedRow, Option.mem_def.mp found]
      rfl⟩) short
    exact (le_nextPages_iff short).mp row
  · intro fits
    refine ⟨fun row listedRow short => ?_, unchanged, unmodified⟩
    obtain ⟨entry, member, made⟩ := mem_rows_iff.mp listedRow
    obtain ⟨needed, found, rfl⟩ := Option.map_eq_some_iff.mp made
    exact (le_nextPages_iff short).mpr (fits entry member needed found short)

/-- A need of 0xF0000000 pages is answered with 0x2C000000. -/
theorem not_adjustsOnce_largeNeed :
    ¬ AdjustsOnce 16 0 [⟨5, 0xF0000000⟩] [⟨5, 0x1000⟩] := by
  intro adjusts
  have row := adjusts.enough ⟨5, 0x1000, 0xF0000000, 0x2C000000⟩ (by decide) (by decide)
  exact absurd row (by decide)

end Tables

end AppEfi.MemoryTypeInfo
