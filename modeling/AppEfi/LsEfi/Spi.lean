import Mathlib.Tactic.NormNum
import AppEfi.Lib.Ranges

/-!
# The SPI command

`CommandRunSpi` of Spi.c with the calls of the LsService protocol recorded in
order.  `argv` is read as the source reads it, also behind its last argument.
`StrHexToUintn` and `ReadFileToBuffer` are parameters; a UINTN has 64 bits.
-/

set_option autoImplicit false

namespace AppEfi.LsEfi

/-- A CHAR16 string up to its NUL. -/
abbrev Argument := List UInt16

def char16 (characters : List Char) : Argument :=
  characters.map fun character => UInt16.ofNat character.toNat

structure Services where
  strHexToUintn : Argument → UInt64
  /-- `none` is an error status. -/
  readFileToBuffer : Argument → Option (List UInt8)

inductive Status where
  | success
  | invalidParameter
  | fileError
  deriving DecidableEq

/-- The calls of `ChipsetSpi` and `CpuSpi`. -/
inductive SpiOperation where
  | read (size start : UInt64)
  | erase (size start : UInt64)
  | write (size start : UInt64) (buffer : List UInt8)
  | upDate (size start : UInt64) (buffer : List UInt8)
  deriving DecidableEq

structure Outcome where
  status : Status
  operations : List SpiOperation
  deriving DecidableEq

/-- `BufferSize`: the characters of the data and their NUL, in a UINT32. -/
def bufferSize (data : Argument) : UInt32 := UInt32.ofNat (data.length + 1)

def dataSize (data : Argument) : UInt64 := (bufferSize data / 3).toUInt64

section Command

variable (services : Services)

/-- The bytes at every third character, as many as the buffer has room for. -/
def dataBytes (data : Argument) : List UInt8 :=
  ((List.range (((bufferSize data).toNat + 2) / 3)).map fun index =>
    (services.strHexToUintn (data.drop (3 * index))).toUInt8).take (dataSize data).toNat

def eraseAndWrite (size start : UInt64) (buffer : List UInt8) : Outcome :=
  { status := .success, operations := [.erase size start, .write size start buffer] }

def rejected : Outcome := { status := .invalidParameter, operations := [] }

/-- `-w`: the data alone, without a test, or a start address and the data. -/
def runWrite (argc : Nat) (argv : Nat → Argument) : Outcome :=
  if argc = 2 then eraseAndWrite (dataSize (argv 2)) 0 (dataBytes services (argv 2))
  else if argc = 3 then
    let startAddr := services.strHexToUintn (argv 2)
    if 0x1000 < startAddr + dataSize (argv 3) then rejected
    else eraseAndWrite (dataSize (argv 3)) startAddr (dataBytes services (argv 3))
  else rejected

/-- `ResultSize` of `-l`. -/
def loadSize (size filesize : UInt64) : UInt64 :=
  let resultSize := if size < filesize then size else filesize
  if 0x100000 < resultSize then 0x100000 else resultSize

/-- `-l`: the file is `Argv[2]`, and so is the text of the start address. -/
def runLoad (argc : Nat) (argv : Nat → Argument) : Outcome :=
  if argc ≠ 5 then rejected
  else
    match services.readFileToBuffer (argv 2) with
    | none => { status := .fileError, operations := [] }
    | some file =>
        let startAddr := services.strHexToUintn (argv 2)
        let size := services.strHexToUintn (argv 3)
        if 0x100000 < startAddr then rejected
        else if 0x100000 < startAddr + size then rejected
        else
          let resultSize := loadSize size (UInt64.ofNat file.length)
          eraseAndWrite resultSize startAddr (file.take resultSize.toNat)

def runRead (argc : Nat) (argv : Nat → Argument) : Outcome :=
  if argc ≠ 4 then rejected
  else
    let startAddr := services.strHexToUintn (argv 2)
    let size := services.strHexToUintn (argv 3)
    if 1024 * 1024 < size then rejected
    else { status := .success, operations := [.read size startAddr] }

def runUpdate (argv : Nat → Argument) : Outcome :=
  match services.readFileToBuffer (argv 2) with
  | none => { status := .fileError, operations := [] }
  | some file =>
      { status := .success, operations := [.upDate (UInt64.ofNat file.length) 0 file] }

/-- LsService stays NULL in the source, which never locates it.  Its calls are recorded as if it
had been found. -/
def commandRunSpi (argc : Nat) (argv : Nat → Argument) : Outcome :=
  if argc < 2 then rejected
  else if argv 1 = char16 ['-', 'w'] then runWrite services argc argv
  else if argv 1 = char16 ['-', 'r'] then runRead services argc argv
  else if argv 1 = char16 ['-', 'u'] then runUpdate services argv
  else if argv 1 = char16 ['-', 'e'] then
    { status := .success, operations := [.erase 0x1000 0] }
  else if argv 1 = char16 ['-', 'x'] then { status := .success, operations := [] }
  else if argv 1 = char16 ['-', 't'] then { status := .success, operations := [] }
  else if argv 1 = char16 ['-', 'l'] then runLoad services argc argv
  else rejected

/-! ## The windows of the flash -/

/-- What an erase or a write of the chipset's flash touches. -/
def SpiOperation.modified : SpiOperation → Option Range
  | .erase size start => some ⟨start.toNat, size.toNat⟩
  | .write size start _ => some ⟨start.toNat, size.toNat⟩
  | .read _ _ => none
  | .upDate _ _ _ => none

def modifiedRanges (operations : List SpiOperation) : List Range :=
  operations.filterMap SpiOperation.modified

/-- What an option may erase and write; `-e` is the erasure of one sector. -/
def window (option : Argument) : Range :=
  if option = char16 ['-', 'w'] then ⟨0, 0x1000⟩
  else if option = char16 ['-', 'l'] then ⟨0, 0x100000⟩
  else if option = char16 ['-', 'e'] then ⟨0, 0x1000⟩
  else ⟨0, 0⟩

/-- Only `window` is modified, and nothing at all for a request that leaves it. -/
structure Confined (modified : List Range) (request : Option Range) (window : Range) : Prop where
  inside : ∀ range ∈ modified, range.Inside window
  refuses : ∀ range, request = some range → ¬ range.Inside window → modified = []

/-- The start address and the size that an option takes from its arguments. -/
def requested (argc : Nat) (argv : Nat → Argument) : Option Range :=
  if argv 1 = char16 ['-', 'w'] then
    if argc = 2 then some ⟨0, (dataSize (argv 2)).toNat⟩
    else if argc = 3 then
      some ⟨(services.strHexToUintn (argv 2)).toNat, (dataSize (argv 3)).toNat⟩
    else none
  else if argv 1 = char16 ['-', 'l'] then
    if argc = 5 then
      some ⟨(services.strHexToUintn (argv 2)).toNat, (services.strHexToUintn (argv 3)).toNat⟩
    else none
  else none

/-- The flash outside the option's window is safe. -/
def KeepsToWindow (argc : Nat) (argv : Nat → Argument) : Prop :=
  Confined (modifiedRanges (commandRunSpi services argc argv).operations)
    (requested services argc argv) (window (argv 1))

/-- The data of a `-w` without an address fit the window, and no sum that is
compared with the end of a window has lost a carry on its way below it. -/
def SumsAreExact (argc : Nat) (argv : Nat → Argument) : Prop :=
  (argv 1 = char16 ['-', 'w'] → argc = 2 → (dataSize (argv 2)).toNat ≤ 0x1000) ∧
  (argv 1 = char16 ['-', 'w'] → argc = 3 →
    (services.strHexToUintn (argv 2)).toNat + (dataSize (argv 3)).toNat < 2 ^ 64 ∨
      0x1000 < services.strHexToUintn (argv 2) + dataSize (argv 3)) ∧
  (argv 1 = char16 ['-', 'l'] → argc = 5 →
    services.readFileToBuffer (argv 2) = none ∨
      0x100000 < services.strHexToUintn (argv 2) ∨
        (services.strHexToUintn (argv 2)).toNat + (services.strHexToUintn (argv 3)).toNat < 2 ^ 64)

theorem confined_nil (request : Option Range) (window : Range) : Confined [] request window := by
  constructor
  · intro range member
    cases member
  · intro range _ _
    rfl

theorem confined_pair_iff (range request window : Range) :
    Confined [range, range] (some request) window ↔
      range.Inside window ∧ request.Inside window := by
  constructor
  · intro confined
    refine ⟨confined.inside range List.mem_cons_self, ?_⟩
    by_contra outside
    exact absurd (confined.refuses request rfl outside) (List.cons_ne_nil _ _)
  · intro inside
    constructor
    · intro other member
      simp only [List.mem_cons, List.not_mem_nil, or_false, or_self] at member
      rw [member]
      exact inside.1
    · intro other same outside
      cases same
      exact absurd inside.2 outside

theorem modifiedRanges_eraseAndWrite (size start : UInt64) (buffer : List UInt8) :
    modifiedRanges (eraseAndWrite size start buffer).operations =
      [⟨start.toNat, size.toNat⟩, ⟨start.toNat, size.toNat⟩] := rfl

theorem inside_zero_iff (start length size : Nat) :
    Range.Inside ⟨start, length⟩ ⟨0, size⟩ ↔ start + length ≤ size := by
  simp only [Range.Inside, Nat.zero_le, true_and, Nat.zero_add]

theorem lt_add_iff (limit first second : UInt64) :
    limit < first + second ↔ limit.toNat < (first.toNat + second.toNat) % 2 ^ 64 := by
  rw [UInt64.lt_iff_toNat_lt, UInt64.toNat_add]

theorem runWrite_confined_iff (argv : Nat → Argument) :
    Confined (modifiedRanges (runWrite services 3 argv).operations)
        (some ⟨(services.strHexToUintn (argv 2)).toNat, (dataSize (argv 3)).toNat⟩)
        ⟨0, 0x1000⟩ ↔
      (services.strHexToUintn (argv 2)).toNat + (dataSize (argv 3)).toNat < 2 ^ 64 ∨
        0x1000 < services.strHexToUintn (argv 2) + dataSize (argv 3) := by
  have sum := lt_add_iff 0x1000 (services.strHexToUintn (argv 2)) (dataSize (argv 3))
  by_cases beyond : 0x1000 < services.strHexToUintn (argv 2) + dataSize (argv 3)
  · have result : runWrite services 3 argv = rejected := by simp [runWrite, beyond]
    rw [result]
    exact iff_of_true (confined_nil _ _) (Or.inr beyond)
  · have result : runWrite services 3 argv =
        eraseAndWrite (dataSize (argv 3)) (services.strHexToUintn (argv 2))
          (dataBytes services (argv 3)) := by
      simp [runWrite, beyond]
    have limit : (0x1000 : UInt64).toNat = 0x1000 := rfl
    rw [sum, limit] at beyond
    rw [result, modifiedRanges_eraseAndWrite, confined_pair_iff, inside_zero_iff, sum, limit]
    omega

theorem loadSize_le (size filesize : UInt64) : (loadSize size filesize).toNat ≤ size.toNat := by
  have limit : (0x100000 : UInt64).toNat = 0x100000 := rfl
  simp only [loadSize, UInt64.lt_iff_toNat_lt]
  by_cases smaller : size.toNat < filesize.toNat
  · rw [if_pos smaller, limit]
    split
    · rw [limit]
      omega
    · exact Nat.le_refl _
  · rw [if_neg smaller, limit]
    split
    · rw [limit]
      omega
    · omega

theorem runLoad_confined_iff (argv : Nat → Argument) :
    Confined (modifiedRanges (runLoad services 5 argv).operations)
        (some ⟨(services.strHexToUintn (argv 2)).toNat, (services.strHexToUintn (argv 3)).toNat⟩)
        ⟨0, 0x100000⟩ ↔
      services.readFileToBuffer (argv 2) = none ∨
        0x100000 < services.strHexToUintn (argv 2) ∨
          (services.strHexToUintn (argv 2)).toNat + (services.strHexToUintn (argv 3)).toNat <
            2 ^ 64 := by
  cases readFile : services.readFileToBuffer (argv 2) with
  | none =>
      have result : (runLoad services 5 argv).operations = [] := by simp [runLoad, readFile]
      rw [result]
      exact iff_of_true (confined_nil _ _) (Or.inl rfl)
  | some file =>
      have limit : (0x100000 : UInt64).toNat = 0x100000 := rfl
      have sum := lt_add_iff 0x100000 (services.strHexToUintn (argv 2))
        (services.strHexToUintn (argv 3))
      have sizeBound := (services.strHexToUintn (argv 3)).toNat_lt
      by_cases startBeyond : 0x100000 < services.strHexToUintn (argv 2)
      · have result : runLoad services 5 argv = rejected := by
          simp [runLoad, readFile, startBeyond]
        rw [result]
        exact iff_of_true (confined_nil _ _) (Or.inr (Or.inl startBeyond))
      have startNat : (services.strHexToUintn (argv 2)).toNat ≤ 0x100000 := by
        rw [UInt64.lt_iff_toNat_lt, limit] at startBeyond
        omega
      by_cases sumBeyond :
          0x100000 < services.strHexToUintn (argv 2) + services.strHexToUintn (argv 3)
      · have result : runLoad services 5 argv = rejected := by
          simp [runLoad, readFile, startBeyond, sumBeyond]
        rw [result]
        -- A sum beyond the window has not wrapped: the start address is in the window.
        have exact : (services.strHexToUintn (argv 2)).toNat +
            (services.strHexToUintn (argv 3)).toNat < 2 ^ 64 := by
          rw [sum, limit] at sumBeyond
          omega
        exact iff_of_true (confined_nil _ _) (Or.inr (Or.inr exact))
      · have bounded := loadSize_le (services.strHexToUintn (argv 3)) (UInt64.ofNat file.length)
        have result : runLoad services 5 argv =
            eraseAndWrite
              (loadSize (services.strHexToUintn (argv 3)) (UInt64.ofNat file.length))
              (services.strHexToUintn (argv 2))
              (file.take (loadSize (services.strHexToUintn (argv 3))
                (UInt64.ofNat file.length)).toNat) := by
          simp [runLoad, readFile, startBeyond, sumBeyond]
        rw [sum, limit] at sumBeyond
        rw [result, modifiedRanges_eraseAndWrite, confined_pair_iff, inside_zero_iff,
          inside_zero_iff]
        simp only [reduceCtorEq, startBeyond, false_or]
        omega

theorem runWrite_short_confined_iff (argv : Nat → Argument) :
    Confined (modifiedRanges (runWrite services 2 argv).operations)
        (some ⟨0, (dataSize (argv 2)).toNat⟩) ⟨0, 0x1000⟩ ↔
      (dataSize (argv 2)).toNat ≤ 0x1000 := by
  have result : runWrite services 2 argv =
      eraseAndWrite (dataSize (argv 2)) 0 (dataBytes services (argv 2)) := by
    simp [runWrite]
  have start : (0 : UInt64).toNat = 0 := rfl
  rw [result, modifiedRanges_eraseAndWrite, confined_pair_iff, inside_zero_iff, inside_zero_iff,
    start, Nat.zero_add, and_self_iff]

variable {services} in
theorem commandRunSpi_write {argc : Nat} {argv : Nat → Argument} (given : 2 ≤ argc)
    (option : argv 1 = char16 ['-', 'w']) :
    commandRunSpi services argc argv = runWrite services argc argv := by
  rw [commandRunSpi, if_neg (Nat.not_lt.mpr given), if_pos option]

variable {services} in
theorem commandRunSpi_load {argc : Nat} {argv : Nat → Argument} (given : 2 ≤ argc)
    (option : argv 1 = char16 ['-', 'l']) :
    commandRunSpi services argc argv = runLoad services argc argv := by
  rw [commandRunSpi, if_neg (Nat.not_lt.mpr given), option]
  simp [char16]

/-- The other options modify nothing but the one sector of `-e`. -/
theorem commandRunSpi_other {argc : Nat} {argv : Nat → Argument}
    (notWrite : argv 1 ≠ char16 ['-', 'w']) (notLoad : argv 1 ≠ char16 ['-', 'l']) :
    KeepsToWindow services argc argv := by
  have noRequest : requested services argc argv = none := by
    rw [requested, if_neg notWrite, if_neg notLoad]
  rw [KeepsToWindow, noRequest]
  constructor
  · intro range member
    rw [commandRunSpi, if_neg notWrite, if_neg notLoad] at member
    split at member
    · cases member
    split at member
    · rw [runRead] at member
      split at member
      · cases member
      · dsimp only at member
        split at member
        · cases member
        · cases member
    split at member
    · rw [runUpdate] at member
      split at member
      · cases member
      · cases member
    split at member
    · next erases =>
        simp only [modifiedRanges, List.filterMap_cons, SpiOperation.modified,
          List.filterMap_nil, List.mem_cons, List.not_mem_nil, or_false] at member
        rw [member, window, if_neg notWrite, if_neg notLoad, if_pos erases]
        decide
    split at member
    · cases member
    split at member
    · cases member
    · cases member
  · intro range request _
    cases request

/-- The command keeps to the windows of its options exactly when the data of a
`-w` without an address are short enough and no accepted sum has wrapped. -/
theorem commandRunSpi_keepsToWindow_iff (argc : Nat) (argv : Nat → Argument) :
    KeepsToWindow services argc argv ↔ SumsAreExact services argc argv := by
  by_cases given : argc < 2
  · have refused : commandRunSpi services argc argv = rejected := by
      rw [commandRunSpi, if_pos given]
    rw [KeepsToWindow, refused]
    apply iff_of_true (confined_nil _ _)
    refine ⟨?_, ?_, ?_⟩ <;> intro _ number <;> omega
  have given : 2 ≤ argc := Nat.le_of_not_lt given
  have different : char16 ['-', 'w'] ≠ char16 ['-', 'l'] := by decide
  by_cases write : argv 1 = char16 ['-', 'w']
  · have notLoad : argv 1 ≠ char16 ['-', 'l'] := by rwa [write]
    rw [KeepsToWindow, commandRunSpi_write given write, requested, if_pos write, window,
      if_pos write]
    by_cases short : argc = 2
    · subst short
      rw [if_pos rfl, runWrite_short_confined_iff]
      simp [SumsAreExact, write]
    by_cases addressed : argc = 3
    · subst addressed
      rw [if_neg short, if_pos rfl, runWrite_confined_iff]
      simp [SumsAreExact, write]
    · have refused : runWrite services argc argv = rejected := by simp [runWrite, short, addressed]
      rw [refused]
      apply iff_of_true (confined_nil _ _)
      simp [SumsAreExact, short, addressed, notLoad]
  by_cases load : argv 1 = char16 ['-', 'l']
  · rw [KeepsToWindow, commandRunSpi_load given load, requested, if_neg write, if_pos load, window,
      if_neg write, if_pos load]
    by_cases complete : argc = 5
    · subst complete
      rw [if_pos rfl, runLoad_confined_iff]
      simp [SumsAreExact, load]
    · have refused : runLoad services argc argv = rejected := by simp [runLoad, complete]
      rw [refused]
      apply iff_of_true (confined_nil _ _)
      simp [SumsAreExact, complete, write]
  · apply iff_of_true (commandRunSpi_other services write load)
    simp [SumsAreExact, write, load]

end Command

/-! ## A sum that wraps -/

def hexDigit (character : UInt16) : Option UInt64 :=
  if 0x30 ≤ character ∧ character ≤ 0x39 then some (character - 0x30).toUInt64
  else if 0x41 ≤ character ∧ character ≤ 0x46 then some (character - 0x37).toUInt64
  else if 0x61 ≤ character ∧ character ≤ 0x66 then some (character - 0x57).toUInt64
  else none

/-- The value of the hexadecimal digits that a text starts with. -/
def hexPrefix (value : UInt64) : Argument → UInt64
  | [] => value
  | character :: rest =>
      match hexDigit character with
      | some digit => hexPrefix (16 * value + digit) rest
      | none => value

def oneFile : Services :=
  { strHexToUintn := hexPrefix 0, readFileToBuffer := fun _ => some [0x55, 0xAA] }

/-- `spi -w FFFFFFFFFFFFFFFE`, with the data where the source looks for them. -/
def wrappedWrite : Nat → Argument
  | 0 => char16 ['s', 'p', 'i']
  | 1 => char16 ['-', 'w']
  | 2 => List.replicate 15 0x46 ++ char16 ['E']
  | _ => char16 ['1', '1', ':', '2', '2', ':', '3', '3']

/-- `spi -l 1.rom FFFFFFFFFFFFFFFF 2`. -/
def wrappedLoad : Nat → Argument
  | 0 => char16 ['s', 'p', 'i']
  | 1 => char16 ['-', 'l']
  | 2 => char16 ['1', '.', 'r', 'o', 'm']
  | 3 => List.replicate 16 0x46
  | _ => char16 ['2']

theorem commandRunSpi_wrappedSums :
    (commandRunSpi oneFile 3 wrappedWrite).operations =
        [.erase 3 0xFFFFFFFFFFFFFFFE, .write 3 0xFFFFFFFFFFFFFFFE [0x11, 0x22, 0x33]] ∧
      ¬ KeepsToWindow oneFile 3 wrappedWrite ∧
      (commandRunSpi oneFile 5 wrappedLoad).operations = [.erase 2 1, .write 2 1 [0x55, 0xAA]] ∧
      requested oneFile 5 wrappedLoad = some ⟨1, 2 ^ 64 - 1⟩ ∧
      ¬ KeepsToWindow oneFile 5 wrappedLoad := by
  refine ⟨by decide, ?_, by decide, by decide, ?_⟩
  · intro kept
    exact absurd (kept.inside ⟨2 ^ 64 - 2, 3⟩ (by decide)) (by decide)
  · intro kept
    exact absurd (kept.refuses ⟨1, 2 ^ 64 - 1⟩ (by decide) (by decide)) (by decide)

end AppEfi.LsEfi
