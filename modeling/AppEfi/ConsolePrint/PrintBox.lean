import Mathlib.Data.List.Range
import Mathlib.Tactic.NormNum

/-!
# A box of text

print_box.  What it does to Line and when it puts Line out is listed action by action.  A
difference of type UINTN wraps, and where it goes into an `int` its low 32 bits are read as a
signed number.
-/

set_option autoImplicit false

namespace AppEfi.ConsolePrint

inductive UintnWidth where
  | w32
  | w64
  deriving DecidableEq, Repr

def UintnWidth.bits : UintnWidth → Nat
  | .w32 => 32
  | .w64 => 64

/-- A string in memory, up to its first null character. -/
structure TextLine (uintn : UintnWidth) where
  char : Nat → UInt16
  length : Nat
  char_ne_zero : ∀ index < length, char index ≠ 0
  char_length : char length = 0
  inSpace : 2 * (length + 1) ≤ 2 ^ uintn.bits

def TextLine.text {uintn : UintnWidth} (line : TextLine uintn) (count : Nat) : List UInt16 :=
  (List.range count).map line.char

/-- The mode of the console and the lines, of which an `int` gives the number. -/
structure Box (uintn : UintnWidth) where
  cols : Nat
  rows : Nat
  lines : List (TextLine uintn)
  two_le_cols : 2 ≤ cols
  two_le_rows : 2 ≤ rows
  cols_lt : cols < 2 ^ uintn.bits
  rows_lt : rows < 2 ^ uintn.bits
  lines_lt : lines.length < 2 ^ 31

inductive Action where
  | setMem16 (count : Nat) (c : UInt16)
  | store (index : Nat) (c : UInt16)
  | copyMem (index : Nat) (chars : List UInt16)
  | outputString (row : Nat)
  deriving DecidableEq, Repr

def intOf (value : Int) : Int := Int.bmod value (2 ^ 32)

def boxdrawHorizontal : UInt16 := 0x2500
def boxdrawVertical : UInt16 := 0x2502
def boxdrawDownRight : UInt16 := 0x250C
def boxdrawDownLeft : UInt16 := 0x2510
def boxdrawUpRight : UInt16 := 0x2514
def boxdrawUpLeft : UInt16 := 0x2518
def blank : UInt16 := 0x0020

section PrintBox

variable {uintn : UintnWidth} (box : Box uintn)

/-- `SetMem16`, which has the bytes in a UINT32. -/
def setMem16 (bytes : Nat) (c : UInt16) : Action := .setMem16 (bytes % 2 ^ 32 / 2) c

/-- Line without text, between two characters of the frame. -/
def Box.frame (left fill right : UInt16) : List Action :=
  [setMem16 (box.cols * 2 % 2 ^ uintn.bits) fill, .store 0 left, .store (box.cols - 1) right,
    .store box.cols 0]

def Box.sizeRows : Nat := box.rows - 1

def Box.start : Nat := (box.sizeRows + 2 ^ uintn.bits - box.lines.length) % 2 ^ uintn.bits / 2

/-- `i - start`. -/
def Box.lineIndex (i : Nat) : Nat := (i + 2 ^ uintn.bits - box.start) % 2 ^ uintn.bits

/-- `int col` for a line with this `int len`. -/
def Box.col (len : Int) : Int :=
  let col := intOf ((box.cols - 2 - len) % 2 ^ uintn.bits / 2)
  if col < 0 then 0 else col

/-- `min (len, size_cols - 2)`, a comparison of UINTNs. -/
def Box.copied (len : Int) : Nat :=
  if (len % 2 ^ uintn.bits).toNat < box.cols - 2 then (len % 2 ^ uintn.bits).toNat
  else box.cols - 2

def Box.copyLine (line : TextLine uintn) : Action :=
  .copyMem ((box.col (intOf line.length)).toNat + 1)
    (line.text (box.copied (intOf line.length) * 2 % 2 ^ uintn.bits / 2))

/-- One iteration of the loop over the rows. -/
def Box.row (i : Nat) : List Action :=
  box.frame boxdrawVertical blank boxdrawVertical ++
    (match box.lines[box.lineIndex i]? with
      | some line => [box.copyLine line]
      | none => []) ++
    [.outputString i]

/-- The loop over the rows from `i` on, and `i` behind it. -/
def Box.rowsFrom : Nat → Nat → Option (List Action × Nat)
  | 0, _ => none
  | fuel + 1, i =>
      if i < box.sizeRows - 1 then
        (rowsFrom fuel (i + 1)).map fun rest => (box.row i ++ rest.1, rest.2)
      else some ([], i)

/-- The characters that the pool for Line has. -/
def Box.allocatedChars : Nat := (box.cols + 1) * 2 % 2 ^ uintn.bits / 2

/-- `print_box` behind QueryMode; `allocated` tells if AllocatePool gives a pool.  Without
fuel for the loop the result is `none`. -/
def printBox (allocated : Bool) (fuel : Nat) : Option (List Action) :=
  if allocated then
    (box.rowsFrom fuel 1).map fun rows =>
      box.frame boxdrawDownRight boxdrawHorizontal boxdrawDownLeft ++ [.outputString 0] ++
        rows.1 ++ box.frame boxdrawUpRight boxdrawHorizontal boxdrawUpLeft ++
        [.outputString rows.2]
  else some []

end PrintBox

/-! ## What is drawn -/

/-- The character of Line at `place` is written. -/
def Action.Writes : Action → Nat → Prop
  | .setMem16 count _, place => place < count
  | .store index _, place => place = index
  | .copyMem index chars, place => index ≤ place ∧ place < index + chars.length
  | .outputString _, _ => False

/-- A text in the Line that is put out in a row. -/
structure ShownText where
  row : Nat
  index : Nat
  chars : List UInt16
  deriving DecidableEq, Repr

/-- The texts that are put out, where `text` lies in Line.  SetMem16 fills Line anew. -/
def shownTexts : Option (Nat × List UInt16) → List Action → List ShownText
  | _, [] => []
  | _, .setMem16 _ _ :: rest => shownTexts none rest
  | text, .store _ _ :: rest => shownTexts text rest
  | _, .copyMem index chars :: rest => shownTexts (some (index, chars)) rest
  | text, .outputString row :: rest =>
      (text.map fun found => ShownText.mk row found.1 found.2).toList ++ shownTexts text rest

section Draws

variable {uintn : UintnWidth} (box : Box uintn)

/-- The lines in their order in rows from the top, cut to the width between the frame's
characters and drawn there. -/
structure DrawsLines (shown : List ShownText) : Prop where
  chars : shown.map ShownText.chars =
    box.lines.map fun line => line.text (min line.length (box.cols - 2))
  rows : (shown.map ShownText.row).Pairwise (· < ·)
  inside : ∀ text ∈ shown, 1 ≤ text.row ∧ text.row < box.sizeRows - 1
  between : ∀ text ∈ shown, ∀ offset < text.chars.length,
    1 ≤ text.index + offset ∧ text.index + offset < box.cols - 1

/-- `print_box` comes to its end, writes to nothing but the characters of Line and draws
every line if there are rows for all of them. -/
def DrawsBox (allocated : Bool) : Prop :=
  ∃ fuel actions, printBox box allocated fuel = some actions ∧
    (∀ action ∈ actions, ∀ place, action.Writes place → place < box.allocatedChars) ∧
    (box.lines.length + 2 ≤ box.sizeRows → DrawsLines box (shownTexts none actions))

end Draws

end AppEfi.ConsolePrint
