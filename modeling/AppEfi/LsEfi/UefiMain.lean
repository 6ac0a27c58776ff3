import AppEfi.LsEfi.Spi

/-!
# The operands of the SPI command

UefiMain of LsEfiApp.c gives CommandRunSpi the arguments behind its own name, and their number
in a UINT32.  The usage of the command tells where the operands of an option stand.
-/

set_option autoImplicit false

namespace AppEfi.LsEfi

section Main

variable (services : Services)

/-- `Argv_c`. -/
def shiftedCount (argc : Nat) : Nat := (argc - 1) % 2 ^ 32

/-- `other` is what the commands behind spi do. -/
def uefiMain (other : Outcome) (argc : Nat) (argv : Nat → Argument) : Outcome :=
  if argc < 2 then rejected
  else if argv 1 = char16 ['-', 'D'] then { status := .success, operations := [] }
  else if argv 1 = char16 ['d', 'e', 'b', 'u', 'g'] then { status := .success, operations := [] }
  else if argv 1 = char16 ['s', 'p', 'i'] then
    { status := .success
      operations := (commandRunSpi services (shiftedCount argc)
        fun index => argv (index + 1)).operations }
  else other

end Main

/-! ## Command lines -/

/-- A command line with the command spi; `argv` also has what is read behind it. -/
structure SpiCommandLine where
  argc : Nat
  argv : Nat → Argument
  given : 2 ≤ argc
  command : argv 1 = char16 ['s', 'p', 'i']

def argumentsFrom (argv : Nat → Argument) : Nat → Nat → List Argument
  | _, 0 => []
  | index, count + 1 => argv index :: argumentsFrom argv (index + 1) count

def SpiCommandLine.option (line : SpiCommandLine) : Argument := line.argv 2

/-- The arguments behind the option. -/
def SpiCommandLine.operands (line : SpiCommandLine) : List Argument :=
  argumentsFrom line.argv 3 (line.argc - 3)

/-- The operations of an option with its operands at the places that the usage shows:
`-r StartAddr Size`, `-w data`, `-w StartAddr data`, `-u file`, `-e` and
`-l file StartAddr Size`. -/
inductive Documented (services : Services) (option : Argument) :
    List Argument → List SpiOperation → Prop where
  | read {startAddr size : Argument} {rest : List Argument} (r : option = char16 ['-', 'r']) :
      Documented services option (startAddr :: size :: rest)
        [.read (services.strHexToUintn size) (services.strHexToUintn startAddr)]
  | write {data : Argument} {rest : List Argument} (w : option = char16 ['-', 'w']) :
      Documented services option (data :: rest)
        (eraseAndWrite (dataSize data) 0 (dataBytes services data)).operations
  | writeAt {startAddr data : Argument} {rest : List Argument}
      (w : option = char16 ['-', 'w']) :
      Documented services option (startAddr :: data :: rest)
        (eraseAndWrite (dataSize data) (services.strHexToUintn startAddr)
          (dataBytes services data)).operations
  | upDate {file : Argument} {rest : List Argument} {contents : List UInt8}
      (u : option = char16 ['-', 'u'])
      (found : services.readFileToBuffer file = some contents) :
      Documented services option (file :: rest)
        [.upDate (UInt64.ofNat contents.length) 0 contents]
  | erase {operands : List Argument} (e : option = char16 ['-', 'e']) :
      Documented services option operands [.erase 0x1000 0]
  | load {file startAddr size : Argument} {rest : List Argument} {contents : List UInt8}
      (l : option = char16 ['-', 'l'])
      (found : services.readFileToBuffer file = some contents) :
      Documented services option (file :: startAddr :: size :: rest)
        (eraseAndWrite
          (loadSize (services.strHexToUintn size) (UInt64.ofNat contents.length))
          (services.strHexToUintn startAddr)
          (contents.take (loadSize (services.strHexToUintn size)
            (UInt64.ofNat contents.length)).toNat)).operations

/-- How many operands an option needs. -/
def needed (option : Argument) : Nat :=
  if option = char16 ['-', 'r'] then 2
  else if option = char16 ['-', 'w'] then 1
  else if option = char16 ['-', 'u'] then 1
  else if option = char16 ['-', 'l'] then 3
  else 0

def SpiOperation.changesFlash : SpiOperation → Bool
  | .read _ _ => false
  | .erase _ _ => true
  | .write _ _ _ => true
  | .upDate _ _ _ => true

def SpiCommandLine.operations (line : SpiCommandLine) (services : Services) (other : Outcome) :
    List SpiOperation :=
  (uefiMain services other line.argc line.argv).operations

/-- What the command uses are the operands at the documented places, whatever the texts stand
for, and without enough of them it leaves the flash as it is. -/
structure UsesOperands (line : SpiCommandLine) : Prop where
  uses : ∀ services other, line.operations services other = [] ∨
    Documented services line.option line.operands (line.operations services other)
  tooFew : line.operands.length < needed line.option → ∀ services other,
    ∀ operation ∈ line.operations services other, operation.changesFlash = false

/-- `-w` is refused or has the operands that the count makes it look for, `-u` has a file, and
the three texts of `-l` are the same. -/
structure OperandsFit (line : SpiCommandLine) : Prop where
  write : line.option = char16 ['-', 'w'] → shiftedCount line.argc = 2 → 4 ≤ line.argc
  writeAt : line.option = char16 ['-', 'w'] → shiftedCount line.argc = 3 → 5 ≤ line.argc
  upDate : line.option = char16 ['-', 'u'] → 2 ≤ shiftedCount line.argc → 4 ≤ line.argc
  load : line.option = char16 ['-', 'l'] → shiftedCount line.argc = 5 →
    line.argv 3 = line.argv 4 ∧ line.argv 4 = line.argv 5

section Proofs

variable {services : Services} {line : SpiCommandLine}

theorem SpiCommandLine.operations_eq (line : SpiCommandLine) (services : Services)
    (other : Outcome) :
    line.operations services other =
      (commandRunSpi services (shiftedCount line.argc)
        fun index => line.argv (index + 1)).operations := by
  have given := Nat.not_lt.mpr line.given
  rw [operations, uefiMain, if_neg given, line.command]
  rfl

@[simp] theorem length_argumentsFrom (argv : Nat → Argument) (index count : Nat) :
    (argumentsFrom argv index count).length = count := by
  induction count generalizing index with
  | zero => rfl
  | succ count ih => rw [argumentsFrom, List.length_cons, ih]

theorem SpiCommandLine.length_operands (line : SpiCommandLine) :
    line.operands.length = line.argc - 3 :=
  length_argumentsFrom _ _ _

theorem SpiCommandLine.one_operand (enough : 4 ≤ line.argc) :
    ∃ rest, line.operands = line.argv 3 :: rest := by
  obtain ⟨count, same⟩ := Nat.exists_eq_add_of_le enough
  have length : line.argc - 3 = count + 1 := by omega
  rw [operands, length]
  exact ⟨_, rfl⟩

theorem SpiCommandLine.two_operands (enough : 5 ≤ line.argc) :
    ∃ rest, line.operands = line.argv 3 :: line.argv 4 :: rest := by
  obtain ⟨count, same⟩ := Nat.exists_eq_add_of_le enough
  have length : line.argc - 3 = count + 2 := by omega
  rw [operands, length]
  exact ⟨_, rfl⟩

theorem SpiCommandLine.three_operands (enough : 6 ≤ line.argc) :
    ∃ rest, line.operands = line.argv 3 :: line.argv 4 :: line.argv 5 :: rest := by
  obtain ⟨count, same⟩ := Nat.exists_eq_add_of_le enough
  have length : line.argc - 3 = count + 3 := by omega
  rw [operands, length]
  exact ⟨_, rfl⟩

theorem Documented.needed_le {option : Argument} {operands : List Argument}
    {operations : List SpiOperation} (documented : Documented services option operands operations) :
    needed option ≤ operands.length := by
  cases documented with
  | read r => rw [r]; simp [needed]
  | write w => rw [w]; simp [needed, char16]
  | writeAt w => rw [w]; simp [needed, char16]
  | upDate u _ => rw [u]; simp [needed, char16]
  | erase e => rw [e]; simp [needed, char16]
  | load l _ => rw [l]; simp [needed, char16]

/-! ### The options -/

theorem commandRunSpi_read {argc : Nat} {argv : Nat → Argument} (given : 2 ≤ argc)
    (option : argv 1 = char16 ['-', 'r']) :
    commandRunSpi services argc argv = runRead services argc argv := by
  rw [commandRunSpi, if_neg (Nat.not_lt.mpr given), option]
  simp [char16]

theorem commandRunSpi_upDate {argc : Nat} {argv : Nat → Argument} (given : 2 ≤ argc)
    (option : argv 1 = char16 ['-', 'u']) :
    commandRunSpi services argc argv = runUpdate services argv := by
  rw [commandRunSpi, if_neg (Nat.not_lt.mpr given), option]
  simp [char16]

theorem commandRunSpi_erase {argc : Nat} {argv : Nat → Argument} (given : 2 ≤ argc)
    (option : argv 1 = char16 ['-', 'e']) :
    (commandRunSpi services argc argv).operations = [.erase 0x1000 0] := by
  rw [commandRunSpi, if_neg (Nat.not_lt.mpr given), option]
  simp [char16]

/-- The options that do nothing, and texts that are no option. -/
theorem commandRunSpi_nothing {argc : Nat} {argv : Nat → Argument}
    (w : argv 1 ≠ char16 ['-', 'w']) (r : argv 1 ≠ char16 ['-', 'r'])
    (u : argv 1 ≠ char16 ['-', 'u']) (e : argv 1 ≠ char16 ['-', 'e'])
    (l : argv 1 ≠ char16 ['-', 'l']) : (commandRunSpi services argc argv).operations = [] := by
  rw [commandRunSpi, if_neg w, if_neg r, if_neg u, if_neg e, if_neg l]
  repeat' split
  all_goals rfl

theorem runWrite_documented (fit : OperandsFit line) (w : line.option = char16 ['-', 'w']) :
    (runWrite services (shiftedCount line.argc) fun index => line.argv (index + 1)).operations =
        [] ∨
      Documented services line.option line.operands
        (runWrite services (shiftedCount line.argc)
          fun index => line.argv (index + 1)).operations := by
  by_cases alone : shiftedCount line.argc = 2
  · obtain ⟨rest, operands⟩ := SpiCommandLine.one_operand (fit.write w alone)
    rw [runWrite, if_pos alone, operands]
    exact Or.inr (Documented.write w)
  by_cases addressed : shiftedCount line.argc = 3
  · obtain ⟨rest, operands⟩ := SpiCommandLine.two_operands (fit.writeAt w addressed)
    rw [runWrite, if_neg alone, if_pos addressed, operands]
    dsimp only
    split
    · exact Or.inl rfl
    · exact Or.inr (Documented.writeAt w)
  · rw [runWrite, if_neg alone, if_neg addressed]
    exact Or.inl rfl

theorem runRead_documented (r : line.option = char16 ['-', 'r']) :
    (runRead services (shiftedCount line.argc) fun index => line.argv (index + 1)).operations =
        [] ∨
      Documented services line.option line.operands
        (runRead services (shiftedCount line.argc)
          fun index => line.argv (index + 1)).operations := by
  by_cases complete : shiftedCount line.argc = 4
  · have enough : 5 ≤ line.argc := by
      rw [shiftedCount] at complete
      omega
    obtain ⟨rest, operands⟩ := SpiCommandLine.two_operands enough
    rw [runRead, if_neg (not_not_intro complete), operands]
    dsimp only
    split
    · exact Or.inl rfl
    · exact Or.inr (Documented.read r)
  · rw [runRead, if_pos complete]
    exact Or.inl rfl

theorem runUpdate_documented (enough : 4 ≤ line.argc) (u : line.option = char16 ['-', 'u']) :
    (runUpdate services fun index => line.argv (index + 1)).operations = [] ∨
      Documented services line.option line.operands
        (runUpdate services fun index => line.argv (index + 1)).operations := by
  obtain ⟨rest, operands⟩ := SpiCommandLine.one_operand enough
  rw [runUpdate, operands]
  cases found : services.readFileToBuffer (line.argv 3) with
  | none => exact Or.inl rfl
  | some contents => exact Or.inr (Documented.upDate u found)

theorem runLoad_documented (fit : OperandsFit line) (l : line.option = char16 ['-', 'l']) :
    (runLoad services (shiftedCount line.argc) fun index => line.argv (index + 1)).operations =
        [] ∨
      Documented services line.option line.operands
        (runLoad services (shiftedCount line.argc)
          fun index => line.argv (index + 1)).operations := by
  by_cases complete : shiftedCount line.argc = 5
  · have enough : 6 ≤ line.argc := by
      rw [shiftedCount] at complete
      omega
    obtain ⟨rest, operands⟩ := SpiCommandLine.three_operands enough
    obtain ⟨first, second⟩ := fit.load l complete
    rw [runLoad, if_neg (not_not_intro complete), operands, ← second, ← first]
    cases found : services.readFileToBuffer (line.argv 3) with
    | none => exact Or.inl rfl
    | some contents =>
        dsimp only
        split
        · exact Or.inl rfl
        split
        · exact Or.inl rfl
        · exact Or.inr (Documented.load l found)
  · rw [runLoad, if_pos complete]
    exact Or.inl rfl

theorem OperandsFit.documented (fit : OperandsFit line) (other : Outcome) :
    line.operations services other = [] ∨
      Documented services line.option line.operands (line.operations services other) := by
  rw [SpiCommandLine.operations_eq]
  by_cases given : shiftedCount line.argc < 2
  · rw [commandRunSpi, if_pos given]
    exact Or.inl rfl
  have given := Nat.le_of_not_lt given
  by_cases w : line.option = char16 ['-', 'w']
  · rw [commandRunSpi_write given w]
    exact runWrite_documented fit w
  by_cases r : line.option = char16 ['-', 'r']
  · rw [commandRunSpi_read given r]
    exact runRead_documented r
  by_cases u : line.option = char16 ['-', 'u']
  · rw [commandRunSpi_upDate given u]
    exact runUpdate_documented (fit.upDate u given) u
  by_cases e : line.option = char16 ['-', 'e']
  · rw [commandRunSpi_erase given e]
    exact Or.inr (Documented.erase e)
  by_cases l : line.option = char16 ['-', 'l']
  · rw [commandRunSpi_load given l]
    exact runLoad_documented fit l
  · exact Or.inl (commandRunSpi_nothing w r u e l)

/-! ### Texts that are told apart -/

/-- All numbers have one value, and every file is empty. -/
def constantServices (value : UInt64) : Services :=
  { strHexToUintn := fun _ => value, readFileToBuffer := fun _ => some [] }

/-- Only one text stands for 1, and every file has one byte. -/
def valueOf (text other : Argument) : UInt64 := if other = text then 1 else 0

def oneServices (text : Argument) : Services :=
  { strHexToUintn := valueOf text, readFileToBuffer := fun _ => some [0] }

theorem Documented.of_write {option : Argument} {operands : List Argument}
    {operations : List SpiOperation} (w : option = char16 ['-', 'w'])
    (documented : Documented services option operands operations) :
    (∃ data, operations =
        (eraseAndWrite (dataSize data) 0 (dataBytes services data)).operations) ∨
      2 ≤ operands.length := by
  cases documented with
  | read r => exact absurd (w.symm.trans r) (by decide)
  | write _ => exact Or.inl ⟨_, rfl⟩
  | writeAt _ => exact Or.inr (Nat.le_add_left 2 _)
  | upDate u _ => exact absurd (w.symm.trans u) (by decide)
  | erase e => exact absurd (w.symm.trans e) (by decide)
  | load l _ => exact absurd (w.symm.trans l) (by decide)

theorem Documented.of_load {option file startAddr size : Argument} {rest : List Argument}
    {operations : List SpiOperation} (l : option = char16 ['-', 'l'])
    (documented : Documented services option (file :: startAddr :: size :: rest) operations) :
    ∃ contents, services.readFileToBuffer file = some contents ∧ operations =
      (eraseAndWrite (loadSize (services.strHexToUintn size) (UInt64.ofNat contents.length))
        (services.strHexToUintn startAddr)
        (contents.take (loadSize (services.strHexToUintn size)
          (UInt64.ofNat contents.length)).toNat)).operations := by
  cases documented with
  | read r => exact absurd (l.symm.trans r) (by decide)
  | write w => exact absurd (l.symm.trans w) (by decide)
  | writeAt w => exact absurd (l.symm.trans w) (by decide)
  | upDate u _ => exact absurd (l.symm.trans u) (by decide)
  | erase e => exact absurd (l.symm.trans e) (by decide)
  | load _ found => exact ⟨_, found, rfl⟩

theorem UsesOperands.four_le (services : Services) (other : Outcome) (uses : UsesOperands line)
    (one : 1 ≤ needed line.option) (acts : line.operations services other ≠ []) :
    4 ≤ line.argc := by
  have length := line.length_operands
  have enough := ((uses.uses services other).resolve_left acts).needed_le
  omega

/-- A start address that is not 0 and passes the test with any size. -/
theorem exists_startAddr (size : UInt64) :
    ∃ startAddr : UInt64, startAddr ≠ 0 ∧ ¬ 0x1000 < startAddr + size := by
  by_cases zero : size = 0
  · exact ⟨1, by decide, by rw [zero]; decide⟩
  · refine ⟨0 - size, fun same => zero ?_, ?_⟩
    · grind
    · have sum : 0 - size + size = 0 := by grind
      rw [sum]
      decide

/-- A write with a start address needs both operands. -/
theorem UsesOperands.writeAt (uses : UsesOperands line) (w : line.option = char16 ['-', 'w'])
    (count : shiftedCount line.argc = 3) : 5 ≤ line.argc := by
  obtain ⟨startAddr, nonzero, passes⟩ := exists_startAddr (dataSize (line.argv 4))
  have operations : line.operations (constantServices startAddr) rejected =
      (eraseAndWrite (dataSize (line.argv 4)) startAddr
        (dataBytes (constantServices startAddr) (line.argv 4))).operations := by
    rw [line.operations_eq, commandRunSpi_write (by omega) w, runWrite, if_neg (by omega),
      if_pos count]
    dsimp only
    rw [if_neg]
    · rfl
    · exact passes
  have documented := (uses.uses (constantServices startAddr) rejected).resolve_left (by
    rw [operations]
    exact List.cons_ne_nil _ _)
  have length := line.length_operands
  rcases documented.of_write w with ⟨data, same⟩ | enough
  · rw [operations] at same
    simp only [eraseAndWrite, List.cons.injEq, SpiOperation.erase.injEq] at same
    exact absurd same.1.2 nonzero
  · omega

theorem valueOf_cases (text other : Argument) :
    other = text ∧ valueOf text other = 1 ∨ other ≠ text ∧ valueOf text other = 0 := by
  by_cases same : other = text
  · exact Or.inl ⟨same, if_pos same⟩
  · exact Or.inr ⟨same, if_neg same⟩

theorem operations_oneServices (text : Argument) (l : line.option = char16 ['-', 'l'])
    (count : shiftedCount line.argc = 5) :
    ∃ buffer, line.operations (oneServices text) rejected =
      (eraseAndWrite (loadSize (valueOf text (line.argv 4)) 1) (valueOf text (line.argv 3))
        buffer).operations := by
  have small : ¬ 0x100000 < valueOf text (line.argv 3) ∧
      ¬ 0x100000 < valueOf text (line.argv 3) + valueOf text (line.argv 4) := by
    rcases valueOf_cases text (line.argv 3) with ⟨_, start⟩ | ⟨_, start⟩ <;>
      rcases valueOf_cases text (line.argv 4) with ⟨_, size⟩ | ⟨_, size⟩ <;>
        rw [start, size] <;> decide
  rw [line.operations_eq, commandRunSpi_load (by omega) l, runLoad,
    if_neg (not_not_intro count)]
  refine ⟨[(0 : UInt8)].take (loadSize (valueOf text (line.argv 4)) 1).toNat, ?_⟩
  have found : (oneServices text).readFileToBuffer (line.argv (2 + 1)) = some [0] := rfl
  rw [found]
  dsimp only
  rw [if_neg, if_neg]
  · rfl
  · exact small.2
  · exact small.1

theorem UsesOperands.load (uses : UsesOperands line) (l : line.option = char16 ['-', 'l'])
    (count : shiftedCount line.argc = 5) :
    line.argv 3 = line.argv 4 ∧ line.argv 4 = line.argv 5 := by
  have enough : 6 ≤ line.argc := by
    rw [shiftedCount] at count
    omega
  obtain ⟨rest, operands⟩ := SpiCommandLine.three_operands enough
  have values (text : Argument) :
      valueOf text (line.argv 3) = valueOf text (line.argv 4) ∧
        loadSize (valueOf text (line.argv 4)) 1 = loadSize (valueOf text (line.argv 5)) 1 := by
    obtain ⟨buffer, operations⟩ := operations_oneServices text l count
    have documented := (uses.uses (oneServices text) rejected).resolve_left (by
      rw [operations]
      exact List.cons_ne_nil _ _)
    rw [operands, operations] at documented
    obtain ⟨contents, found, same⟩ := documented.of_load l
    cases found
    simp only [eraseAndWrite, List.cons.injEq, SpiOperation.erase.injEq] at same
    exact ⟨same.1.2, same.1.1⟩
  constructor
  · have same := (values (line.argv 3)).1
    rcases valueOf_cases (line.argv 3) (line.argv 4) with ⟨found, _⟩ | ⟨_, zero⟩
    · exact found.symm
    · rw [zero, valueOf, if_pos rfl] at same
      exact absurd same (by decide)
  · have same := (values (line.argv 5)).2
    rcases valueOf_cases (line.argv 5) (line.argv 4) with ⟨found, _⟩ | ⟨_, zero⟩
    · exact found
    · rw [zero, valueOf, if_pos rfl] at same
      exact absurd same (by decide)

end Proofs

/-- The command uses its operands exactly when they stand where its count and its indexes lead. -/
theorem uefiMain_usesOperands_iff (line : SpiCommandLine) :
    UsesOperands line ↔ OperandsFit line := by
  constructor
  · intro uses
    refine ⟨fun w count => ?_, fun w count => uses.writeAt w count, fun u given => ?_,
      fun l count => uses.load l count⟩
    · refine uses.four_le (constantServices 0) rejected ?_ ?_
      · rw [w]
        decide
      · rw [line.operations_eq, commandRunSpi_write (by omega) w, runWrite, if_pos count]
        exact List.cons_ne_nil _ _
    · refine uses.four_le (constantServices 0) rejected ?_ ?_
      · rw [u]
        decide
      · rw [line.operations_eq, commandRunSpi_upDate given u]
        exact List.cons_ne_nil _ _
  · intro fit
    refine ⟨fun services other => fit.documented other, fun few services other => ?_⟩
    rcases @OperandsFit.documented services line fit other with nothing | documented
    · rw [nothing]
      exact fun _ listed => absurd listed List.not_mem_nil
    · exact absurd documented.needed_le (Nat.not_le.mpr few)

/-- `LsEfiApp spi -l 1.rom 1000 2`. -/
def loadLine : SpiCommandLine where
  argc := 6
  argv
    | 1 => char16 ['s', 'p', 'i']
    | 2 => char16 ['-', 'l']
    | 3 => char16 ['1', '.', 'r', 'o', 'm']
    | 4 => char16 ['1', '0', '0', '0']
    | 5 => char16 ['2']
    | _ => []
  given := by decide
  command := rfl

/-- `LsEfiApp spi -w`, with the text 11:22 behind its arguments. -/
def bareWrite : SpiCommandLine where
  argc := 3
  argv
    | 1 => char16 ['s', 'p', 'i']
    | 2 => char16 ['-', 'w']
    | 3 => char16 ['1', '1', ':', '2', '2']
    | _ => []
  given := by decide
  command := rfl

/-- The name of the file is the start address, and a `-w` without operands writes. -/
theorem uefiMain_misplacedOperands :
    loadLine.operations oneFile rejected = [.erase 2 1, .write 2 1 [0x55, 0xAA]] ∧
      ¬ UsesOperands loadLine ∧
      bareWrite.operands = [] ∧
      bareWrite.operations oneFile rejected = [.erase 2 0, .write 2 0 [0x11, 0x22]] ∧
      ¬ UsesOperands bareWrite := by
  refine ⟨by decide, fun uses => ?_, rfl, by decide, fun uses => ?_⟩
  · exact absurd (uses.load rfl rfl).1 (by decide)
  · have kept := uses.tooFew (by decide) oneFile rejected (.erase 2 0) (by decide)
    cases kept

end AppEfi.LsEfi
