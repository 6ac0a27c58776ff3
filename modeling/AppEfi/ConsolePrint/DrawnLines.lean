import AppEfi.ConsolePrint.PrintBox

/-!
# The lines of a box

Which rows show which lines, and for which lengths a line stays inside of Line and between
the characters of the frame.
-/

set_option autoImplicit false

namespace AppEfi.ConsolePrint

/-! ## Centring -/

theorem intOf_eq (value : Int) :
    (value % 2 ^ 32 < 2 ^ 31 ∧ intOf value = value % 2 ^ 32) ∨
      (2 ^ 31 ≤ value % 2 ^ 32 ∧ intOf value = value % 2 ^ 32 - 2 ^ 32) := by
  rw [intOf, Int.bmod_eq_emod]
  split <;> omega

/-- A value that a UINTN holds, narrowed, with zero for a negative one. -/
theorem toNat_intOf_natCast (value : Nat) :
    (value % 2 ^ 32 < 2 ^ 31 ∧ (intOf value).toNat = value % 2 ^ 32) ∨
      (2 ^ 31 ≤ value % 2 ^ 32 ∧ (intOf value).toNat = 0) := by
  have narrow := intOf_eq value
  omega

section Centring

variable {uintn : UintnWidth}

/-- The place of a line of this length behind the frame's left character. -/
def Box.indent (box : Box uintn) (length : Nat) : Nat := (box.col (intOf length)).toNat

/-- The number of its characters that are copied. -/
def Box.count (box : Box uintn) (length : Nat) : Nat :=
  box.copied (intOf length) * 2 % 2 ^ uintn.bits / 2

variable {length : Nat}

theorem Box.indent_eq (box : Box uintn) (length : Nat) :
    box.indent length =
      (intOf ((box.cols - 2 - intOf length) % 2 ^ uintn.bits / 2)).toNat := by
  rw [Box.indent, Box.col]
  split <;> omega

theorem Box.count_eq (box : Box uintn) (fits : 2 * (box.cols + 1) < 2 ^ uintn.bits)
    (length : Nat) :
    box.count length = min (intOf length % 2 ^ uintn.bits).toNat (box.cols - 2) := by
  have copied : box.copied (intOf length) =
      min (intOf length % 2 ^ uintn.bits).toNat (box.cols - 2) := by
    rw [Box.copied]
    split <;> omega
  rw [Box.count, copied, Nat.mod_eq_of_lt (by omega), Nat.mul_div_cancel _ Nat.two_pos]

theorem centred_w32_of_le (box : Box .w32) (fits : 2 * (box.cols + 1) < 2 ^ 32)
    (le : length ≤ box.cols - 2) :
    box.indent length = (box.cols - 2 - length) / 2 ∧ box.count length = length := by
  have two := box.two_le_cols
  have len := intOf_eq length
  have narrow := intOf_eq ((box.cols - 2 - intOf length) % 2 ^ 32 / 2)
  rw [box.indent_eq, box.count_eq fits]
  simp only [UintnWidth.bits]
  omega

/-- A difference below zero wraps and is halved to a large number. -/
theorem centred_w32_of_lt (box : Box .w32) (inSpace : 2 * (length + 1) ≤ 2 ^ 32)
    (fits : 2 * (box.cols + 1) < 2 ^ 32) (lt : box.cols - 2 < length) :
    2 ^ 30 ≤ box.indent length ∧ box.count length = box.cols - 2 := by
  have two := box.two_le_cols
  have len := intOf_eq length
  have narrow := intOf_eq ((box.cols - 2 - intOf length) % 2 ^ 32 / 2)
  rw [box.indent_eq, box.count_eq fits]
  simp only [UintnWidth.bits]
  omega

/-- The low half of the wrapped difference is negative and becomes zero. -/
theorem centred_w64_of_low (box : Box .w64) (fits : 2 * (box.cols + 1) < 2 ^ 64)
    (low : length % 2 ^ 32 < 2 ^ 31) :
    box.indent length + box.count length ≤ box.cols - 2 ∧
      box.count length = min (length % 2 ^ 32) (box.cols - 2) := by
  have two := box.two_le_cols
  have len := intOf_eq length
  have narrow := intOf_eq ((box.cols - 2 - intOf length) % 2 ^ 64 / 2)
  rw [box.indent_eq, box.count_eq fits]
  simp only [UintnWidth.bits]
  omega

/-- Half of the width and of what `len` is below zero by, in 32 bits. -/
def halfOver (cols length : Nat) : Nat :=
  (cols - 2 + (2 ^ 32 - length % 2 ^ 32)) / 2 % 2 ^ 32

theorem centred_w64_of_high (box : Box .w64) (fits : 2 * (box.cols + 1) < 2 ^ 64)
    (high : 2 ^ 31 ≤ length % 2 ^ 32) :
    (halfOver box.cols length < 2 ^ 31 ∧ box.indent length = halfOver box.cols length ∨
      2 ^ 31 ≤ halfOver box.cols length ∧ box.indent length = 0) ∧
      box.count length = box.cols - 2 := by
  have two := box.two_le_cols
  obtain ⟨excess, pos, small, below, half⟩ : ∃ excess : Nat, 0 < excess ∧ excess ≤ 2 ^ 31 ∧
      intOf length = -excess ∧
      halfOver box.cols length = (box.cols - 2 + excess) / 2 % 2 ^ 32 := by
    have len := intOf_eq length
    exact ⟨2 ^ 32 - length % 2 ^ 32, by omega, by omega, by omega, rfl⟩
  have difference : ((box.cols : Int) - 2 - intOf length) % 2 ^ 64 / 2 =
      ((box.cols - 2 + excess) / 2 : Nat) := by
    omega
  rw [box.indent_eq, box.count_eq fits, half, below]
  rw [below] at difference
  have count : min (-(excess : Int) % 2 ^ 64).toNat (box.cols - 2) = box.cols - 2 := by
    omega
  simp only [UintnWidth.bits, difference]
  exact ⟨toNat_intOf_natCast _, count⟩

/-! ## Lines that stay in their place -/

variable (uintn) (cols length)

/-- The copy of a line of this length stays inside of Line. -/
def StaysInLine (uintn : UintnWidth) (cols length : Nat) : Prop :=
  match uintn with
  | .w32 => cols = 2 ∨ length ≤ cols - 2
  | .w64 => length % 2 ^ 32 < 2 ^ 31 ∨ cols = 2 ∨ halfOver cols length ≤ 2 ∨
      2 ^ 31 ≤ halfOver cols length

/-- It is the line up to the width and lies between the frame's characters. -/
def StaysInFrame (uintn : UintnWidth) (cols length : Nat) : Prop :=
  match uintn with
  | .w32 => cols = 2 ∨ length ≤ cols - 2
  | .w64 =>
      if length % 2 ^ 32 < 2 ^ 31 then length < 2 ^ 31 ∨ cols - 2 ≤ length % 2 ^ 32
      else cols = 2 ∨ cols - 2 ≤ length ∧
        (halfOver cols length = 0 ∨ 2 ^ 31 ≤ halfOver cols length)

variable {uintn} {cols} {length}

theorem staysInLine_iff (box : Box uintn) (inSpace : 2 * (length + 1) ≤ 2 ^ uintn.bits)
    (fits : 2 * (box.cols + 1) < 2 ^ uintn.bits) :
    (box.count length = 0 ∨ box.indent length + box.count length ≤ box.cols) ↔
      StaysInLine uintn box.cols length := by
  have two := box.two_le_cols
  cases uintn with
  | w32 =>
      simp only [StaysInLine]
      by_cases le : length ≤ box.cols - 2
      · obtain ⟨indent, count⟩ := centred_w32_of_le box fits le
        omega
      · obtain ⟨indent, count⟩ := centred_w32_of_lt box inSpace fits (Nat.not_le.mp le)
        simp only [UintnWidth.bits] at inSpace fits
        omega
  | w64 =>
      simp only [StaysInLine]
      by_cases low : length % 2 ^ 32 < 2 ^ 31
      · obtain ⟨inside, count⟩ := centred_w64_of_low box fits low
        omega
      · obtain ⟨indent, count⟩ := centred_w64_of_high box fits (Nat.not_lt.mp low)
        omega

theorem staysInFrame_iff (box : Box uintn) (inSpace : 2 * (length + 1) ≤ 2 ^ uintn.bits)
    (fits : 2 * (box.cols + 1) < 2 ^ uintn.bits) :
    (box.count length = min length (box.cols - 2) ∧
      (box.count length = 0 ∨ box.indent length + box.count length ≤ box.cols - 2)) ↔
      StaysInFrame uintn box.cols length := by
  have two := box.two_le_cols
  cases uintn with
  | w32 =>
      simp only [StaysInFrame]
      by_cases le : length ≤ box.cols - 2
      · obtain ⟨indent, count⟩ := centred_w32_of_le box fits le
        omega
      · obtain ⟨indent, count⟩ := centred_w32_of_lt box inSpace fits (Nat.not_le.mp le)
        simp only [UintnWidth.bits] at inSpace fits
        omega
  | w64 =>
      simp only [StaysInFrame]
      by_cases low : length % 2 ^ 32 < 2 ^ 31
      · obtain ⟨inside, count⟩ := centred_w64_of_low box fits low
        rw [if_pos low]
        omega
      · obtain ⟨indent, count⟩ := centred_w64_of_high box fits (Nat.not_lt.mp low)
        rw [if_neg low]
        omega

end Centring

/-! ## Rows and lines -/

section Rows

variable {uintn : UintnWidth} (box : Box uintn)

theorem Box.sizeRows_lt : box.sizeRows < 2 ^ uintn.bits := by
  have lt := box.rows_lt
  rw [Box.sizeRows]
  omega

theorem mod_sub_of_le {a b modulus : Nat} (le : b ≤ a) (lt : a < modulus) :
    (a + modulus - b) % modulus = a - b := by
  rw [Nat.add_comm, Nat.add_sub_assoc le, Nat.add_mod_left, Nat.mod_eq_of_lt (by omega)]

theorem mod_sub_of_lt {a b modulus : Nat} (lt : a < b) (le : b ≤ modulus) :
    (a + modulus - b) % modulus = modulus - (b - a) := by
  rw [Nat.mod_eq_of_lt (by omega)]
  omega

theorem Box.start_eq (fit : box.lines.length ≤ box.sizeRows) :
    box.start = (box.sizeRows - box.lines.length) / 2 := by
  rw [Box.start, mod_sub_of_le fit box.sizeRows_lt]

theorem Box.lineIndex_eq {i : Nat} (row : i < box.sizeRows) (below : box.start ≤ i) :
    box.lineIndex i = i - box.start :=
  mod_sub_of_le below (row.trans box.sizeRows_lt)

/-- Above the lines, and in every row when there are too many of them, the index wraps. -/
theorem Box.le_lineIndex {i : Nat} (row : i < box.sizeRows)
    (none : box.sizeRows < box.lines.length ∨ i < box.start) :
    box.lines.length ≤ box.lineIndex i := by
  have lines := box.lines_lt
  have rows := box.sizeRows_lt
  have large : 2 * 2 ^ 31 ≤ 2 ^ uintn.bits := by
    cases uintn <;> decide
  have start : box.start ≤ 2 ^ uintn.bits / 2 :=
    Nat.div_le_div_right (Nat.mod_lt _ (Nat.two_pow_pos _)).le
  have above : i < box.start := by
    rcases none with many | above
    · rw [Box.start, mod_sub_of_lt many (by omega)]
      omega
    · exact above
  rw [Box.lineIndex, mod_sub_of_lt above (by omega)]
  rcases none with many | _
  · rw [Box.start, mod_sub_of_lt many (by omega)]
    omega
  · omega

/-- The lines that some row shows. -/
def ShowsLine (sizeRows count index : Nat) : Prop :=
  index < count ∧ (count + 2 ≤ sizeRows ∨ count ≤ sizeRows ∧ 1 ≤ index ∧ index + 2 ≤ sizeRows)

theorem Box.showsLine_iff (index : Nat) :
    (∃ i, 1 ≤ i ∧ i < box.sizeRows - 1 ∧ box.lineIndex i = index ∧
      index < box.lines.length) ↔
      ShowsLine box.sizeRows box.lines.length index := by
  constructor
  · rintro ⟨i, first, last, rfl, listed⟩
    have row : i < box.sizeRows := by omega
    have shown := mt (box.le_lineIndex row) (Nat.not_le.mpr listed)
    have fit := Nat.not_lt.mp (not_or.mp shown).1
    have below := Nat.not_lt.mp (not_or.mp shown).2
    have start := box.start_eq fit
    rw [box.lineIndex_eq row below] at listed ⊢
    exact ⟨listed, by omega⟩
  · rintro ⟨listed, rows⟩
    have fit : box.lines.length ≤ box.sizeRows := by omega
    have start := box.start_eq fit
    have index_eq := box.lineIndex_eq (i := box.start + index) (by omega) (by omega)
    exact ⟨box.start + index, by omega, by omega, by omega, listed⟩

/-! ## The actions -/

def Box.actions : List Action :=
  box.frame boxdrawDownRight boxdrawHorizontal boxdrawDownLeft ++ [.outputString 0] ++
    (List.range' 1 (box.sizeRows - 1 - 1)).flatMap box.row ++
    box.frame boxdrawUpRight boxdrawHorizontal boxdrawUpLeft ++
    [.outputString (max 1 (box.sizeRows - 1))]

theorem rowsFrom_eq {fuel i : Nat} {result : List Action × Nat}
    (run : box.rowsFrom fuel i = some result) :
    result = ((List.range' i (box.sizeRows - 1 - i)).flatMap box.row,
      max i (box.sizeRows - 1)) := by
  induction fuel generalizing i result with
  | zero => cases run
  | succ fuel ih =>
      rw [Box.rowsFrom] at run
      split at run
      · next more =>
          obtain ⟨rest, later, rfl⟩ := Option.map_eq_some_iff.mp run
          rw [ih later]
          have turns : box.sizeRows - 1 - i = box.sizeRows - 1 - (i + 1) + 1 := by omega
          have last : max (i + 1) (box.sizeRows - 1) = max i (box.sizeRows - 1) := by omega
          rw [turns, List.range'_succ, List.flatMap_cons, last]
      · next behind =>
          have none : box.sizeRows - 1 - i = 0 := by omega
          have last : max i (box.sizeRows - 1) = i := by omega
          rw [none, last]
          exact (Option.some.inj run).symm

theorem rowsFrom_ends {fuel i : Nat} (enough : box.sizeRows - 1 - i < fuel) :
    ∃ result, box.rowsFrom fuel i = some result := by
  induction fuel generalizing i with
  | zero => exact absurd enough (Nat.not_lt_zero _)
  | succ fuel ih =>
      rw [Box.rowsFrom]
      split
      · obtain ⟨rest, later⟩ := ih (i := i + 1) (by omega)
        rw [later]
        exact ⟨_, rfl⟩
      · exact ⟨_, rfl⟩

/-- The loop ends, so `print_box` has one list of actions whatever the fuel. -/
theorem exists_printBox_iff {Good : List Action → Prop} :
    (∃ fuel actions, printBox box true fuel = some actions ∧ Good actions) ↔
      Good box.actions := by
  constructor
  · rintro ⟨fuel, actions, run, good⟩
    obtain ⟨rows, loop, rfl⟩ := Option.map_eq_some_iff.mp run
    rwa [rowsFrom_eq box loop] at good
  · intro good
    obtain ⟨rows, loop⟩ := rowsFrom_ends box (Nat.lt_succ_self (box.sizeRows - 1 - 1))
    refine ⟨(box.sizeRows - 1 - 1).succ, box.actions, ?_, good⟩
    rw [printBox, if_pos rfl, loop, rowsFrom_eq box loop]
    rfl

/-! ## Writes -/

def Box.WritesInLine (actions : List Action) : Prop :=
  ∀ action ∈ actions, ∀ place, action.Writes place → place < box.allocatedChars

theorem Box.allocatedChars_eq (fits : 2 * (box.cols + 1) < 2 ^ uintn.bits) :
    box.allocatedChars = box.cols + 1 := by
  rw [Box.allocatedChars, Nat.mod_eq_of_lt (by omega), Nat.mul_div_cancel _ Nat.two_pos]

theorem Box.allocatedChars_le (wraps : 2 ^ uintn.bits ≤ 2 * (box.cols + 1)) :
    box.allocatedChars ≤ box.cols := by
  have below := Nat.mod_lt ((box.cols + 1) * 2) (Nat.two_pow_pos uintn.bits)
  rw [Box.allocatedChars]
  omega

theorem frame_writesInLine (fits : 2 * (box.cols + 1) < 2 ^ uintn.bits)
    (left fill right : UInt16) : box.WritesInLine (box.frame left fill right) := by
  intro action member place writes
  rw [box.allocatedChars_eq fits]
  simp only [Box.frame, setMem16, List.mem_cons, List.not_mem_nil, or_false] at member
  rcases member with rfl | rfl | rfl | rfl
  · have whole := Nat.mod_le (box.cols * 2) (2 ^ uintn.bits)
    have half := Nat.mod_le (box.cols * 2 % 2 ^ uintn.bits) (2 ^ 32)
    simp only [Action.Writes] at writes
    omega
  · simp only [Action.Writes] at writes
    omega
  · simp only [Action.Writes] at writes
    omega
  · simp only [Action.Writes] at writes
    omega

theorem copyLine_eq (line : TextLine uintn) :
    box.copyLine line =
      .copyMem (box.indent line.length + 1) (line.text (box.count line.length)) := rfl

theorem length_text (line : TextLine uintn) (count : Nat) : (line.text count).length = count := by
  rw [TextLine.text, List.length_map, List.length_range]

theorem copyLine_writesInLine_iff (fits : 2 * (box.cols + 1) < 2 ^ uintn.bits)
    (line : TextLine uintn) :
    box.WritesInLine [box.copyLine line] ↔ StaysInLine uintn box.cols line.length := by
  rw [← staysInLine_iff box line.inSpace fits]
  simp only [Box.WritesInLine, List.mem_singleton, forall_eq, copyLine_eq, Action.Writes,
    length_text, box.allocatedChars_eq fits]
  constructor
  · intro inside
    by_cases none : box.count line.length = 0
    · exact Or.inl none
    · have last := inside (box.indent line.length + box.count line.length) (by omega)
      omega
  · rintro (none | inside) place writes
    · omega
    · omega

theorem writesInLine_append (first second : List Action) :
    box.WritesInLine (first ++ second) ↔ box.WritesInLine first ∧ box.WritesInLine second :=
  List.forall_mem_append

theorem outputString_writesInLine (row : Nat) : box.WritesInLine [.outputString row] := by
  intro action member place writes
  rw [List.mem_singleton.mp member] at writes
  exact writes.elim

theorem row_writesInLine_iff (fits : 2 * (box.cols + 1) < 2 ^ uintn.bits) (i : Nat) :
    box.WritesInLine (box.row i) ↔
      ∀ line, box.lines[box.lineIndex i]? = some line →
        StaysInLine uintn box.cols line.length := by
  simp only [Box.row, writesInLine_append, frame_writesInLine box fits,
    outputString_writesInLine, true_and, and_true]
  cases found : box.lines[box.lineIndex i]? with
  | none => simp [Box.WritesInLine]
  | some line => simp [copyLine_writesInLine_iff box fits]

theorem actions_writesInLine_iff :
    box.WritesInLine box.actions ↔
      2 * (box.cols + 1) < 2 ^ uintn.bits ∧
        ∀ (index : Nat) (line : TextLine uintn),
          ShowsLine box.sizeRows box.lines.length index → box.lines[index]? = some line →
            StaysInLine uintn box.cols line.length := by
  by_cases fits : 2 * (box.cols + 1) < 2 ^ uintn.bits
  · have rows : box.WritesInLine ((List.range' 1 (box.sizeRows - 1 - 1)).flatMap box.row) ↔
        ∀ i ∈ List.range' 1 (box.sizeRows - 1 - 1), box.WritesInLine (box.row i) :=
      List.forall_mem_flatMap
    simp only [Box.actions, writesInLine_append, frame_writesInLine box fits,
      outputString_writesInLine, true_and, and_true, fits, rows, row_writesInLine_iff box fits,
      List.mem_range'_1]
    constructor
    · intro inside index line shows listed
      obtain ⟨i, first, last, rfl, _⟩ := (box.showsLine_iff index).mpr shows
      exact inside i (by omega) line listed
    · intro inside i row line listed
      refine inside _ line ((box.showsLine_iff _).mp ⟨i, by omega, by omega, rfl, ?_⟩) listed
      exact (List.getElem?_eq_some_iff.mp listed).1
  · refine iff_of_false (fun inside => ?_) (fun both => fits both.1)
    have wraps := box.allocatedChars_le (Nat.not_lt.mp fits)
    have last := inside (.store box.cols 0) (by simp [Box.actions, Box.frame]) box.cols rfl
    omega

end Rows

end AppEfi.ConsolePrint
