import AppEfi.ConsolePrint.DrawnLines

/-!
# When a box is drawn

The texts that the rows of a box put out, and the boxes of which every line is drawn without
a write behind Line.
-/

set_option autoImplicit false

namespace AppEfi.ConsolePrint

section Shown

variable {uintn : UintnWidth} (box : Box uintn)

def Box.shownText (row : Nat) (line : TextLine uintn) : ShownText :=
  ⟨row, box.indent line.length + 1, line.text (box.count line.length)⟩

/-- SetMem16 at the start of each row drops the text of the row before. -/
theorem shownTexts_rows (rows : List Nat) (text : Option (Nat × List UInt16))
    (left fill right : UInt16) (row : Nat) :
    shownTexts text (rows.flatMap box.row ++ box.frame left fill right ++ [.outputString row]) =
      rows.filterMap fun i => box.lines[box.lineIndex i]?.map (box.shownText i) := by
  induction rows generalizing text with
  | nil => rfl
  | cons i rest ih =>
      rw [List.flatMap_cons, List.append_assoc, List.append_assoc, ← List.append_assoc _ _ [_],
        List.filterMap_cons, Box.row, Box.frame]
      cases box.lines[box.lineIndex i]? with
      | none => exact ih none
      | some line => exact congrArg (box.shownText i line :: ·) (ih _)

theorem shownTexts_actions :
    shownTexts none box.actions = (List.range' 1 (box.sizeRows - 1 - 1)).filterMap
      fun i => box.lines[box.lineIndex i]?.map (box.shownText i) := by
  have rows := shownTexts_rows box (List.range' 1 (box.sizeRows - 1 - 1)) none
    boxdrawUpRight boxdrawHorizontal boxdrawUpLeft (max 1 (box.sizeRows - 1))
  rw [List.append_assoc] at rows
  rw [Box.actions, List.append_assoc, List.append_assoc, List.append_assoc, ← rows]
  rfl

theorem filterMap_range'_eq_zipIdx {Line Shown : Type} (shownAt : Nat → Line → Shown)
    (lines : List Line) (start : Nat) :
    ((List.range' start lines.length).filterMap fun i => lines[i - start]?.map (shownAt i)) =
      (lines.zipIdx start).map fun entry => shownAt entry.2 entry.1 := by
  induction lines generalizing start with
  | nil => rfl
  | cons line rest ih =>
      have later : ((List.range' (start + 1) rest.length).filterMap
          fun i => (line :: rest)[i - start]?.map (shownAt i)) =
            (List.range' (start + 1) rest.length).filterMap
              fun i => rest[i - (start + 1)]?.map (shownAt i) := by
        refine List.filterMap_congr fun i member => ?_
        have above := (List.mem_range'_1.mp member).1
        obtain ⟨more, rfl⟩ := Nat.exists_eq_add_of_le above
        have index : start + 1 + more - start = more + 1 := by omega
        rw [index, Nat.add_sub_cancel_left, List.getElem?_cons_succ]
      rw [List.length_cons, List.range'_succ, List.filterMap_cons, Nat.sub_self,
        List.getElem?_cons_zero, List.zipIdx_cons, List.map_cons, later, ih (start + 1)]
      rfl

/-- The places from 1 on, with the `count` from `start` on in the middle. -/
theorem range'_around {start count finish : Nat} (above : 1 ≤ start)
    (inside : start + count ≤ finish) :
    List.range' 1 (finish - 1) = List.range' 1 (start - 1) ++
      (List.range' start count ++ List.range' (start + count) (finish - start - count)) := by
  have behind := @List.range'_append_1 start count (finish - start - count)
  have whole := @List.range'_append_1 1 (start - 1) (finish - start)
  have first : 1 + (start - 1) = start := by omega
  have total : start - 1 + (finish - start) = finish - 1 := by omega
  have rest : count + (finish - start - count) = finish - start := by omega
  rw [rest] at behind
  rw [first, total] at whole
  rw [behind, whole]

/-- With room for all lines there is a row for each of them, from `start` on. -/
theorem shownTexts_eq_zipIdx (fit : box.lines.length + 2 ≤ box.sizeRows) :
    shownTexts none box.actions =
      (box.lines.zipIdx box.start).map fun entry => box.shownText entry.2 entry.1 := by
  have start := box.start_eq (by omega)
  have rows := range'_around (by omega : 1 ≤ box.start)
    (by omega : box.start + box.lines.length ≤ box.sizeRows - 1)
  have nothing : ∀ i, i < box.start ∨ box.start + box.lines.length ≤ i → i < box.sizeRows →
      box.lines[box.lineIndex i]?.map (box.shownText i) = none := by
    intro i outside row
    rw [Option.map_eq_none_iff, List.getElem?_eq_none_iff]
    rcases outside with above | below
    · exact box.le_lineIndex row (Or.inr above)
    · rw [box.lineIndex_eq row (by omega)]
      omega
  have listed : (List.range' box.start box.lines.length).filterMap
      (fun i => box.lines[box.lineIndex i]?.map (box.shownText i)) =
        (List.range' box.start box.lines.length).filterMap
          fun i => box.lines[i - box.start]?.map (box.shownText i) := by
    refine List.filterMap_congr fun i member => ?_
    have bounds := List.mem_range'_1.mp member
    rw [box.lineIndex_eq (by omega) bounds.1]
  rw [shownTexts_actions, rows, List.filterMap_append, List.filterMap_append, listed,
    filterMap_range'_eq_zipIdx, List.filterMap_eq_nil_iff.mpr, List.filterMap_eq_nil_iff.mpr,
    List.append_nil, List.nil_append]
  · intro i member
    have bounds := List.mem_range'_1.mp member
    exact nothing i (Or.inr bounds.1) (by omega)
  · intro i member
    have bounds := List.mem_range'_1.mp member
    exact nothing i (Or.inl (by omega)) (by omega)

theorem text_inj (line : TextLine uintn) {first second : Nat} :
    line.text first = line.text second ↔ first = second := by
  constructor
  · intro same
    have length := congrArg List.length same
    rwa [length_text, length_text] at length
  · rintro rfl
    rfl

theorem betweenFrame_iff (row : Nat) (line : TextLine uintn) :
    (∀ offset < (box.shownText row line).chars.length,
      1 ≤ (box.shownText row line).index + offset ∧
        (box.shownText row line).index + offset < box.cols - 1) ↔
      box.count line.length = 0 ∨
        box.indent line.length + box.count line.length ≤ box.cols - 2 := by
  simp only [Box.shownText, length_text]
  constructor
  · intro between
    by_cases none : box.count line.length = 0
    · exact Or.inl none
    · have last := between (box.count line.length - 1) (by omega)
      omega
  · rintro (none | inside) offset below
    · omega
    · omega

theorem drawsLines_iff (fits : 2 * (box.cols + 1) < 2 ^ uintn.bits)
    (fit : box.lines.length + 2 ≤ box.sizeRows) :
    DrawsLines box (shownTexts none box.actions) ↔
      ∀ line ∈ box.lines, StaysInFrame uintn box.cols line.length := by
  have start := box.start_eq (by omega)
  have chars : (shownTexts none box.actions).map ShownText.chars =
      box.lines.map fun line => line.text (box.count line.length) := by
    rw [shownTexts_eq_zipIdx box fit, List.map_map]
    conv_rhs => rw [← List.zipIdx_map_fst box.start box.lines, List.map_map]
    rfl
  have listed : ∀ line ∈ box.lines, ∃ text ∈ shownTexts none box.actions,
      ∃ row, text = box.shownText row line := by
    intro line member
    rw [← List.zipIdx_map_fst box.start box.lines] at member
    obtain ⟨entry, inside, rfl⟩ := List.mem_map.mp member
    rw [shownTexts_eq_zipIdx box fit]
    exact ⟨_, List.mem_map_of_mem inside, entry.2, rfl⟩
  have stays := fun line : TextLine uintn => staysInFrame_iff box line.inSpace fits
  constructor
  · intro draws line member
    obtain ⟨text, shown, row, rfl⟩ := listed line member
    have same := draws.chars
    rw [chars, List.map_inj_left] at same
    have between := draws.between _ shown
    rw [betweenFrame_iff] at between
    exact (stays line).mp ⟨(text_inj line).mp (same line member), between⟩
  · intro all
    refine ⟨?_, ?_, ?_, ?_⟩
    · rw [chars, List.map_inj_left]
      intro line member
      exact (text_inj line).mpr ((stays line).mpr (all line member)).1
    · rw [shownTexts_eq_zipIdx box fit, List.map_map]
      have rows := List.zipIdx_map_snd box.start box.lines
      exact rows ▸ List.pairwise_lt_range'
    · rw [shownTexts_eq_zipIdx box fit]
      intro text shown
      obtain ⟨entry, inside, rfl⟩ := List.mem_map.mp shown
      have first := List.le_snd_of_mem_zipIdx inside
      have last := List.snd_lt_add_of_mem_zipIdx inside
      simp only [Box.shownText]
      omega
    · rw [shownTexts_eq_zipIdx box fit]
      intro text shown
      obtain ⟨entry, inside, rfl⟩ := List.mem_map.mp shown
      have member := List.fst_mem_of_mem_zipIdx inside
      exact (betweenFrame_iff box _ _).mpr ((stays entry.1).mpr (all entry.1 member)).2

/-- The lengths of the lines for which the box is drawn, where Line is allocated. -/
structure DrawnLengths : Prop where
  fits : 2 * (box.cols + 1) < 2 ^ uintn.bits
  inLine : ∀ (index : Nat) (line : TextLine uintn),
    ShowsLine box.sizeRows box.lines.length index → box.lines[index]? = some line →
      StaysInLine uintn box.cols line.length
  inFrame : box.lines.length + 2 ≤ box.sizeRows →
    ∀ line ∈ box.lines, StaysInFrame uintn box.cols line.length

theorem drawsBox_allocated_iff : DrawsBox box true ↔ DrawnLengths box := by
  refine (exists_printBox_iff box).trans ⟨?_, ?_⟩
  · rintro ⟨writes, draws⟩
    obtain ⟨fits, inLine⟩ := (actions_writesInLine_iff box).mp writes
    exact ⟨fits, inLine, fun fit => (drawsLines_iff box fits fit).mp (draws fit)⟩
  · intro lengths
    refine ⟨(actions_writesInLine_iff box).mpr ⟨lengths.fits, lengths.inLine⟩, fun fit => ?_⟩
    exact (drawsLines_iff box lengths.fits fit).mpr (lengths.inFrame fit)

theorem drawsBox_unallocated_iff :
    DrawsBox box false ↔ box.lines = [] ∨ box.sizeRows < box.lines.length + 2 := by
  constructor
  · rintro ⟨fuel, actions, run, -, draws⟩
    obtain rfl : [] = actions := Option.some.inj run
    by_cases fit : box.lines.length + 2 ≤ box.sizeRows
    · have chars := (draws fit).chars
      exact Or.inl (List.map_eq_nil_iff.mp chars.symm)
    · exact Or.inr (Nat.not_le.mp fit)
  · intro nothing
    refine ⟨0, [], rfl, by simp, fun fit => ?_⟩
    have empty : box.lines = [] := nothing.resolve_right (Nat.not_lt.mpr fit)
    exact ⟨by simp [empty, shownTexts], by simp [shownTexts], by simp [shownTexts],
      by simp [shownTexts]⟩

end Shown

/-- `print_box` draws the box exactly when the lines have such lengths; without Line, when
there is no line that it has to draw. -/
theorem drawsBox_iff {uintn : UintnWidth} (box : Box uintn) (allocated : Bool) :
    DrawsBox box allocated ↔
      if allocated then DrawnLengths box
      else box.lines = [] ∨ box.sizeRows < box.lines.length + 2 := by
  cases allocated with
  | false => exact drawsBox_unallocated_iff box
  | true => exact drawsBox_allocated_iff box

/-! ## A line that is longer than the box is wide -/

def longLine : TextLine .w32 where
  char index := if index < 100 then 0x0061 else 0
  length := 100
  char_ne_zero index below := by simp [below]
  char_length := rfl
  inSpace := by decide

def longLineBox : Box .w32 where
  cols := 80
  rows := 25
  lines := [longLine]
  two_le_cols := by decide
  two_le_rows := by decide
  cols_lt := by decide
  rows_lt := by decide
  lines_lt := by decide

/-- 78 characters are written to `Line + 2147483638`. -/
theorem not_drawsBox_longLine :
    longLineBox.indent longLine.length + 1 = 2147483638 ∧ ¬ DrawsBox longLineBox true := by
  refine ⟨by decide, fun draws => ?_⟩
  have stays := ((drawsBox_allocated_iff longLineBox).mp draws).inFrame (by decide) longLine
    (List.mem_singleton_self longLine)
  exact absurd stays (by unfold StaysInFrame; decide)

end AppEfi.ConsolePrint
