import AppEfi.Lib.Alignment
import AppEfi.Lib.Loop
import AppEfi.Lib.Memory
import AppEfi.Lib.Ranges

/-!
# The search for a section

GetSectionByType in PcdDump.c.  A section starts with a 3-byte size and its type; the size
0xFFFFFF stands for the 4-byte size behind them.  The search follows the sizes without a test
of them.
-/

set_option autoImplicit false

namespace AppEfi.PcdDump

open AppEfi.Loop

section Headers

variable (memory : Memory) (sectionHeader : Nat)

/-- `IS_SECTION2`. -/
def isSection2 : Bool := decide (memory.readLe sectionHeader 3 = 0xFFFFFF)

/-- `SECTION2_SIZE` or `SECTION_SIZE`. -/
def sectionSize : Nat :=
  if isSection2 memory sectionHeader then memory.readLe (sectionHeader + 4) 4
  else memory.readLe sectionHeader 3

def sectionTypeAt : UInt8 := memory (sectionHeader + 3)

/-- The size of EFI_COMMON_SECTION_HEADER2 or of EFI_COMMON_SECTION_HEADER. -/
def sectionHeaderSize : Nat := if isSection2 memory sectionHeader then 8 else 4

def nextSection : Nat := sectionHeader + alignValue (sectionSize memory sectionHeader) 4

theorem sectionHeaderSize_pos : 0 < sectionHeaderSize memory sectionHeader := by
  rw [sectionHeaderSize]
  split <;> decide

theorem le_nextSection :
    sectionHeader + sectionSize memory sectionHeader ≤ nextSection memory sectionHeader :=
  Nat.add_le_add_left (le_alignValue (by decide)) _

theorem nextSection_of_zero (zero : sectionSize memory sectionHeader = 0) :
    nextSection memory sectionHeader = sectionHeader := by
  rw [nextSection, zero]
  rfl

end Headers

/-! ## The search -/

section Search

variable (memory : Memory) (sectionBuffer : Range) (sectionType : UInt8) (sectionInstance : Nat)

structure SectionScan where
  sectionHeader : Nat
  passed : Nat
  deriving DecidableEq

/-- The iteration of the loop; `passed` is the source's Instance. -/
def getSectionTurn (scan : SectionScan) : Control SectionScan (Option Range) :=
  if scan.sectionHeader < sectionBuffer.start + sectionBuffer.length then
    if sectionTypeAt memory scan.sectionHeader = sectionType then
      if scan.passed = sectionInstance then
        .stop (some ⟨scan.sectionHeader, sectionSize memory scan.sectionHeader⟩)
      else .next ⟨nextSection memory scan.sectionHeader, scan.passed + 1⟩
    else .next ⟨nextSection memory scan.sectionHeader, scan.passed⟩
  else .stop none

/-- OutSectionBuffer and OutSectionSize; the inner `none` is FALSE. -/
def getSectionByType (fuel : Nat) : Option (Option Range) :=
  loop (getSectionTurn memory sectionBuffer sectionType sectionInstance) fuel
    ⟨sectionBuffer.start, 0⟩

/-! ## Sections -/

/-- A section is no shorter than its header and ends in the body. -/
def IsSection (sectionHeader : Nat) : Prop :=
  sectionHeaderSize memory sectionHeader ≤ sectionSize memory sectionHeader ∧
    sectionHeader + sectionSize memory sectionHeader ≤
      sectionBuffer.start + sectionBuffer.length

/-- The header stands behind headers that all pass, `passed` of them of the type. -/
inductive Behind (start : Nat) (Passes : Nat → Prop) : Nat → Nat → Prop where
  | first : Behind start Passes start 0
  | next {sectionHeader passed : Nat} (behind : Behind start Passes sectionHeader passed)
      (passes : Passes sectionHeader) :
      Behind start Passes (nextSection memory sectionHeader)
        (if sectionTypeAt memory sectionHeader = sectionType then passed + 1 else passed)

/-- The body's section of the type with this number, counted from 0. -/
structure NthSection (number sectionHeader : Nat) : Prop where
  behind : Behind memory sectionType sectionBuffer.start (IsSection memory sectionBuffer)
    sectionHeader number
  isSection : IsSection memory sectionBuffer sectionHeader
  hasType : sectionTypeAt memory sectionHeader = sectionType

/-- The sizes lead from the start of the body to its end, past no header with size 0 and past
none that would be taken for the section. -/
def PassesThrough : Prop :=
  ∀ sectionHeader passed,
    Behind memory sectionType sectionBuffer.start
        (fun header => header < sectionBuffer.start + sectionBuffer.length) sectionHeader passed →
      sectionHeader < sectionBuffer.start + sectionBuffer.length →
        sectionSize memory sectionHeader ≠ 0 ∧
          (sectionTypeAt memory sectionHeader = sectionType → passed ≠ sectionInstance)

/-- The search ends, it succeeds exactly when the body has the section, and what it gives is
this section, from its first byte in the body to its last. -/
structure FindsSection : Prop where
  ends : ∃ fuel found,
    getSectionByType memory sectionBuffer sectionType sectionInstance fuel = some found
  isSome_iff : ∀ fuel found,
    getSectionByType memory sectionBuffer sectionType sectionInstance fuel = some found →
      (found.isSome ↔
        ∃ sectionHeader, NthSection memory sectionBuffer sectionType sectionInstance sectionHeader)
  inside : ∀ fuel found,
    getSectionByType memory sectionBuffer sectionType sectionInstance fuel = some (some found) →
      NthSection memory sectionBuffer sectionType sectionInstance found.start ∧
        found.length = sectionSize memory found.start ∧
        found.start < sectionBuffer.start + sectionBuffer.length ∧
        found.Inside sectionBuffer

section Proofs

variable {memory sectionBuffer sectionType sectionInstance}
variable {sectionHeader passed : Nat}

theorem IsSection.lt (isSection : IsSection memory sectionBuffer sectionHeader) :
    sectionHeader < sectionBuffer.start + sectionBuffer.length := by
  have positive := sectionHeaderSize_pos memory sectionHeader
  obtain ⟨whole, ends⟩ := isSection
  omega

theorem getSectionTurn_outside
    (outside : sectionBuffer.start + sectionBuffer.length ≤ sectionHeader) :
    getSectionTurn memory sectionBuffer sectionType sectionInstance ⟨sectionHeader, passed⟩ =
      .stop none :=
  if_neg (Nat.not_lt.mpr outside)

theorem getSectionTurn_found
    (inside : sectionHeader < sectionBuffer.start + sectionBuffer.length)
    (hasType : sectionTypeAt memory sectionHeader = sectionType) :
    getSectionTurn memory sectionBuffer sectionType sectionInstance
        ⟨sectionHeader, sectionInstance⟩ =
      .stop (some ⟨sectionHeader, sectionSize memory sectionHeader⟩) := by
  rw [getSectionTurn, if_pos inside, if_pos hasType, if_pos rfl]

theorem getSectionTurn_passes
    (inside : sectionHeader < sectionBuffer.start + sectionBuffer.length)
    (other : sectionTypeAt memory sectionHeader = sectionType → passed ≠ sectionInstance) :
    getSectionTurn memory sectionBuffer sectionType sectionInstance ⟨sectionHeader, passed⟩ =
      .next ⟨nextSection memory sectionHeader,
        if sectionTypeAt memory sectionHeader = sectionType then passed + 1 else passed⟩ := by
  rw [getSectionTurn, if_pos inside]
  by_cases hasType : sectionTypeAt memory sectionHeader = sectionType
  · rw [if_pos hasType, if_neg (other hasType), if_pos hasType]
  · rw [if_neg hasType, if_neg hasType]

/-- The search comes to a header that has no more of the type before it than are to be passed. -/
theorem comes_of_behind {Passes : Nat → Prop}
    (inside : ∀ header, Passes header → header < sectionBuffer.start + sectionBuffer.length)
    (behind : Behind memory sectionType sectionBuffer.start Passes sectionHeader passed)
    (few : passed ≤ sectionInstance) :
    Comes (getSectionTurn memory sectionBuffer sectionType sectionInstance)
      ⟨sectionBuffer.start, 0⟩ ⟨sectionHeader, passed⟩ := by
  induction behind with
  | first => exact Comes.start
  | @next header before _ passes ih =>
      have earlier : before ≤ sectionInstance := by
        split at few <;> omega
      refine (ih earlier).next (getSectionTurn_passes (inside header passes) ?_)
      intro hasType
      rw [if_pos hasType] at few
      omega

/-- A header of the type with this number that the search can come to. -/
structure NthHeader (memory : Memory) (sectionBuffer : Range) (sectionType : UInt8)
    (number sectionHeader : Nat) : Prop where
  behind : Behind memory sectionType sectionBuffer.start
    (fun header => header < sectionBuffer.start + sectionBuffer.length) sectionHeader number
  inside : sectionHeader < sectionBuffer.start + sectionBuffer.length
  hasType : sectionTypeAt memory sectionHeader = sectionType

theorem NthHeader.comes
    (nth : NthHeader memory sectionBuffer sectionType sectionInstance sectionHeader) :
    Comes (getSectionTurn memory sectionBuffer sectionType sectionInstance)
      ⟨sectionBuffer.start, 0⟩ ⟨sectionHeader, sectionInstance⟩ :=
  comes_of_behind (fun _ inside => inside) nth.behind (Nat.le_refl _)

theorem NthHeader.found
    (nth : NthHeader memory sectionBuffer sectionType sectionInstance sectionHeader) :
    getSectionTurn memory sectionBuffer sectionType sectionInstance
        ⟨sectionHeader, sectionInstance⟩ =
      .stop (some ⟨sectionHeader, sectionSize memory sectionHeader⟩) :=
  getSectionTurn_found nth.inside nth.hasType

theorem NthHeader.exists_run
    (nth : NthHeader memory sectionBuffer sectionType sectionInstance sectionHeader) :
    ∃ fuel, getSectionByType memory sectionBuffer sectionType sectionInstance fuel =
      some (some ⟨sectionHeader, sectionSize memory sectionHeader⟩) :=
  exists_loop_iff.mpr ⟨_, nth.comes, nth.found⟩

/-- A turn goes on past a header, takes it, or is at the end of the body. -/
theorem getSectionTurn_cases (memory : Memory) (sectionBuffer : Range) (sectionType : UInt8)
    (sectionInstance sectionHeader passed : Nat) :
    (sectionHeader < sectionBuffer.start + sectionBuffer.length ∧
        getSectionTurn memory sectionBuffer sectionType sectionInstance ⟨sectionHeader, passed⟩ =
          .next ⟨nextSection memory sectionHeader,
            if sectionTypeAt memory sectionHeader = sectionType then passed + 1 else passed⟩) ∨
      (sectionHeader < sectionBuffer.start + sectionBuffer.length ∧
        sectionTypeAt memory sectionHeader = sectionType ∧ passed = sectionInstance ∧
        getSectionTurn memory sectionBuffer sectionType sectionInstance ⟨sectionHeader, passed⟩ =
          .stop (some ⟨sectionHeader, sectionSize memory sectionHeader⟩)) ∨
      getSectionTurn memory sectionBuffer sectionType sectionInstance ⟨sectionHeader, passed⟩ =
        .stop none := by
  by_cases inside : sectionHeader < sectionBuffer.start + sectionBuffer.length
  · by_cases other : sectionTypeAt memory sectionHeader = sectionType → passed ≠ sectionInstance
    · exact Or.inl ⟨inside, getSectionTurn_passes inside other⟩
    · obtain ⟨hasType, taken⟩ := Classical.not_imp.mp other
      obtain rfl := Classical.not_not.mp taken
      exact Or.inr (Or.inl ⟨inside, hasType, rfl, getSectionTurn_found inside hasType⟩)
  · exact Or.inr (Or.inr (getSectionTurn_outside (Nat.not_lt.mp inside)))

theorem behind_of_comes {scan : SectionScan}
    (comes : Comes (getSectionTurn memory sectionBuffer sectionType sectionInstance)
      ⟨sectionBuffer.start, 0⟩ scan) :
    Behind memory sectionType sectionBuffer.start
      (fun header => header < sectionBuffer.start + sectionBuffer.length)
      scan.sectionHeader scan.passed := by
  induction comes with
  | start => exact Behind.first
  | @next scan after _ turn ih =>
      rcases getSectionTurn_cases memory sectionBuffer sectionType sectionInstance
        scan.sectionHeader scan.passed with ⟨inside, same⟩ | ⟨_, _, _, same⟩ | same
      · cases turn.symm.trans same
        exact ih.next inside
      · cases turn.symm.trans same
      · cases turn.symm.trans same

/-- What the search succeeds with. -/
theorem getSectionByType_eq_some_iff {found : Range} :
    (∃ fuel, getSectionByType memory sectionBuffer sectionType sectionInstance fuel =
        some (some found)) ↔
      NthHeader memory sectionBuffer sectionType sectionInstance found.start ∧
        found.length = sectionSize memory found.start := by
  simp only [getSectionByType, exists_loop_iff]
  constructor
  · rintro ⟨⟨header, before⟩, comes, stops⟩
    rcases getSectionTurn_cases memory sectionBuffer sectionType sectionInstance header before
      with ⟨_, same⟩ | ⟨inside, hasType, rfl, same⟩ | same
    · cases stops.symm.trans same
    · cases stops.symm.trans same
      exact ⟨⟨behind_of_comes comes, inside, hasType⟩, rfl⟩
    · cases stops.symm.trans same
  · rintro ⟨nth, size⟩
    refine ⟨_, nth.comes, ?_⟩
    rw [nth.found, ← size]

theorem Behind.le {Passes : Nat → Prop} {start : Nat}
    (behind : Behind memory sectionType start Passes sectionHeader passed) :
    start ≤ sectionHeader := by
  induction behind with
  | first => exact Nat.le_refl _
  | next _ _ ih => exact Nat.le_trans ih (Nat.le_add_right _ _)

theorem NthHeader.unique {other : Nat}
    (first : NthHeader memory sectionBuffer sectionType sectionInstance sectionHeader)
    (second : NthHeader memory sectionBuffer sectionType sectionInstance other) :
    sectionHeader = other := by
  have same := first.comes.stop_unique first.found second.comes second.found
  cases same
  rfl

theorem NthHeader.exists_earlier {number earlier : Nat}
    (nth : NthHeader memory sectionBuffer sectionType number sectionHeader)
    (less : earlier < number) :
    ∃ header, NthHeader memory sectionBuffer sectionType earlier header := by
  obtain ⟨behind, inside, hasType⟩ := nth
  clear inside hasType
  induction behind with
  | first => exact absurd less (Nat.not_lt_zero _)
  | @next header before behind inside ih =>
      by_cases here : earlier < before
      · exact ih here
      · split at less
        · rename_i hasType
          obtain rfl : earlier = before := by omega
          exact ⟨header, behind, inside, hasType⟩
        · exact absurd less here

theorem NthSection.stops
    (nth : NthSection memory sectionBuffer sectionType sectionInstance sectionHeader) :
    Comes (getSectionTurn memory sectionBuffer sectionType sectionInstance)
        ⟨sectionBuffer.start, 0⟩ ⟨sectionHeader, sectionInstance⟩ ∧
      getSectionTurn memory sectionBuffer sectionType sectionInstance
          ⟨sectionHeader, sectionInstance⟩ =
        .stop (some ⟨sectionHeader, sectionSize memory sectionHeader⟩) :=
  ⟨comes_of_behind (fun _ => IsSection.lt) nth.behind (Nat.le_refl _),
    getSectionTurn_found nth.isSection.lt nth.hasType⟩

/-- Without a header that has size 0 or would be taken, the search comes to the end. -/
theorem PassesThrough.stops
    (through : PassesThrough memory sectionBuffer sectionType sectionInstance) :
    ∃ scan,
      Comes (getSectionTurn memory sectionBuffer sectionType sectionInstance)
          ⟨sectionBuffer.start, 0⟩ scan ∧
        getSectionTurn memory sectionBuffer sectionType sectionInstance scan = .stop none := by
  have iteration : ∀ scan : SectionScan,
      Behind memory sectionType sectionBuffer.start
          (fun header => header < sectionBuffer.start + sectionBuffer.length)
          scan.sectionHeader scan.passed →
        Establishes
          (fun after : SectionScan => Behind memory sectionType sectionBuffer.start
            (fun header => header < sectionBuffer.start + sectionBuffer.length)
            after.sectionHeader after.passed)
          (fun found : Option Range => found = none)
          (fun state => sectionBuffer.start + sectionBuffer.length - state.sectionHeader) scan
          (getSectionTurn memory sectionBuffer sectionType sectionInstance scan) := by
    rintro ⟨header, before⟩ behind
    by_cases inside : header < sectionBuffer.start + sectionBuffer.length
    · obtain ⟨nonzero, misses⟩ := through header before behind inside
      rw [getSectionTurn_passes inside misses]
      refine ⟨behind.next inside, ?_⟩
      have forward := le_nextSection memory header
      dsimp only
      omega
    · rw [getSectionTurn_outside (Nat.not_lt.mp inside)]
      rfl
  obtain ⟨found, run, rfl⟩ := loop_returns _ iteration _ ⟨sectionBuffer.start, 0⟩ Behind.first
    (Nat.lt_succ_self _)
  exact exists_loop_iff.mp ⟨_, run⟩

/-- A search that comes to the end has passed every header. -/
theorem passesThrough_of_stop {scan : SectionScan}
    (comes : Comes (getSectionTurn memory sectionBuffer sectionType sectionInstance)
      ⟨sectionBuffer.start, 0⟩ scan)
    (stops : getSectionTurn memory sectionBuffer sectionType sectionInstance scan =
      .stop none) :
    PassesThrough memory sectionBuffer sectionType sectionInstance := by
  have misses : ∀ header before,
      Comes (getSectionTurn memory sectionBuffer sectionType sectionInstance)
          ⟨sectionBuffer.start, 0⟩ ⟨header, before⟩ →
        header < sectionBuffer.start + sectionBuffer.length →
          sectionTypeAt memory header = sectionType → before ≠ sectionInstance := by
    rintro header before here inside hasType rfl
    have same := here.stop_unique (getSectionTurn_found inside hasType) comes stops
    cases same
  intro header before behind inside
  have here : Comes (getSectionTurn memory sectionBuffer sectionType sectionInstance)
      ⟨sectionBuffer.start, 0⟩ ⟨header, before⟩ := by
    clear inside
    induction behind with
    | first => exact Comes.start
    | next _ inside ih => exact ih.next (getSectionTurn_passes inside (misses _ _ ih inside))
  refine ⟨fun zero => ?_, misses header before here inside⟩
  -- The search would stay at a header with size 0.
  refine not_ends_of_closed
    (fun scan => scan.sectionHeader = header ∧
      Comes (getSectionTurn memory sectionBuffer sectionType sectionInstance)
        ⟨sectionBuffer.start, 0⟩ scan)
    ⟨rfl, here⟩ ?_ ⟨scan, none, here.on_way comes stops, stops⟩
  rintro ⟨_, count⟩ ⟨rfl, stays⟩
  have turn := getSectionTurn_passes inside (misses _ count stays inside)
  exact ⟨_, turn, nextSection_of_zero memory _ zero, stays.next turn⟩

/-- What the search gives is right when it is the section, or nothing in a body without it. -/
theorem findsSection_of_stop {scan : SectionScan} {result : Option Range}
    (comes : Comes (getSectionTurn memory sectionBuffer sectionType sectionInstance)
      ⟨sectionBuffer.start, 0⟩ scan)
    (stops : getSectionTurn memory sectionBuffer sectionType sectionInstance scan =
      .stop result)
    (isSome_iff : result.isSome ↔
      ∃ header, NthSection memory sectionBuffer sectionType sectionInstance header)
    (isSection : ∀ found, result = some found →
      NthSection memory sectionBuffer sectionType sectionInstance found.start ∧
        found.length = sectionSize memory found.start) :
    FindsSection memory sectionBuffer sectionType sectionInstance := by
  refine ⟨?_, ?_, ?_⟩
  · obtain ⟨fuel, run⟩ := exists_loop_iff.mpr ⟨scan, comes, stops⟩
    exact ⟨fuel, result, run⟩
  · intro fuel found run
    rw [comes.result_eq stops run]
    exact isSome_iff
  · intro fuel found run
    obtain ⟨nth, size⟩ := isSection found (comes.result_eq stops run).symm
    have ends := nth.isSection.2
    rw [← size] at ends
    exact ⟨nth, size, nth.isSection.lt, nth.behind.le, ends⟩

end Proofs

/-- The search does what it should exactly when the body has the section, or the sizes lead
to its end without a size 0 and without a header that would be taken for the section. -/
theorem getSectionByType_finds_iff :
    FindsSection memory sectionBuffer sectionType sectionInstance ↔
      (∃ sectionHeader,
          NthSection memory sectionBuffer sectionType sectionInstance sectionHeader) ∨
        PassesThrough memory sectionBuffer sectionType sectionInstance := by
  constructor
  · intro finds
    obtain ⟨fuel, found, run⟩ := finds.ends
    cases found with
    | some found => exact Or.inl ⟨found.start, (finds.inside fuel found run).1⟩
    | none =>
        obtain ⟨scan, comes, stops⟩ := exists_loop_iff.mp ⟨fuel, run⟩
        exact Or.inr (passesThrough_of_stop comes stops)
  · by_cases has : ∃ sectionHeader,
        NthSection memory sectionBuffer sectionType sectionInstance sectionHeader
    · intro _
      obtain ⟨sectionHeader, nth⟩ := has
      refine findsSection_of_stop nth.stops.1 nth.stops.2
        (iff_of_true rfl ⟨sectionHeader, nth⟩) ?_
      rintro found same
      cases same
      exact ⟨nth, rfl⟩
    · rintro (present | through)
      · exact absurd present has
      · obtain ⟨scan, comes, stops⟩ := through.stops
        refine findsSection_of_stop comes stops (iff_of_false (by simp) has) ?_
        intro found same
        cases same

end Search

/-- A header with size 0 is never left, and a size behind the end of the body is handed on. -/
theorem getSectionByType_zeroSize :
    ¬ FindsSection (fun _ => 0) ⟨0x1000, 4⟩ 0x19 0 ∧
      getSectionByType (Memory.ofBytesAt 0x1000 [32, 0, 0, 0x19]) ⟨0x1000, 4⟩ 0x19 0 1 =
        some (some ⟨0x1000, 32⟩) := by
  refine ⟨?_, by decide⟩
  intro finds
  obtain ⟨fuel, found, run⟩ := finds.ends
  obtain ⟨scan, comes, stops⟩ := exists_loop_iff.mp ⟨fuel, run⟩
  refine not_ends_of_closed (fun scan => scan = ⟨0x1000, 0⟩) rfl ?_
    ⟨scan, found, comes, stops⟩
  rintro _ rfl
  exact ⟨⟨0x1000, 0⟩, rfl, rfl⟩

end AppEfi.PcdDump
