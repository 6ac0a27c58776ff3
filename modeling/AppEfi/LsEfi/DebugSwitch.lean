import AppEfi.Lib.LittleEndian
import AppEfi.Lib.Runs
import AppEfi.LsEfi.Spi

/-!
# The debug command

`CommandRunDebug` of Debug.c switches the dynamic debug output of 64 modules, in a word at
DEBUG_ADDR and in the variable DebugSwitch that has it at the next start.  Debug.c is not in
LsEfiApp.inf, and the calls in UefiMain are commented out.
-/

set_option autoImplicit false

namespace AppEfi.LsEfi.DebugSwitch

open AppEfi.LittleEndian
open AppEfi.Runs

/-- `ConverData`, as Hvalue and Dvalue. -/
def converData : List (Nat × Nat) :=
  [(0x0, 0), (0x1, 1), (0x2, 2), (0x3, 3), (0x4, 4), (0x5, 5), (0x6, 6), (0x7, 7), (0x8, 8),
    (0x9, 9), (0x10, 10), (0x11, 11), (0x12, 12), (0x13, 13), (0x14, 14), (0x15, 15), (0x16, 16),
    (0x17, 17), (0x18, 18), (0x19, 19), (0x20, 20), (0x21, 21), (0x22, 22), (0x23, 23),
    (0x24, 24), (0x25, 25), (0x26, 26), (0x27, 27), (0x28, 28), (0x29, 29), (0x30, 30),
    (0x31, 31), (0x32, 32), (0x33, 33), (0x34, 34), (0x35, 35), (0x36, 36), (0x37, 37),
    (0x38, 38), (0x39, 39), (0x40, 40), (0x41, 41), (0x42, 42), (0x43, 43), (0x44, 44),
    (0x45, 45), (0x46, 46), (0x47, 47), (0x48, 48), (0x49, 49), (0x50, 50), (0x51, 51),
    (0x52, 52), (0x53, 53), (0x54, 54), (0x55, 55), (0x56, 56), (0x57, 57), (0x58, 58),
    (0x59, 59), (0x60, 60), (0x61, 61), (0x62, 62), (0x63, 63), (0x64, 64)]

/-- An index that is not in the table is moduleId 0. -/
def getId (index : Nat) : Nat :=
  ((converData.find? fun entry => entry.1 = index).map (·.2)).getD 0

/-- The word at DEBUG_ADDR, and the bytes of the variable DebugSwitch when there is one. -/
structure Machine where
  switches : BitVec 64
  debugSwitch : Option (List UInt8)
  deriving DecidableEq

/-- The variable services while a command runs: whether SetVariable succeeds, and the bytes
behind Data on the stack, which are part of a variable that is larger.  GetVariable fails only
where there is no variable or the buffer is too small. -/
structure Firmware where
  stores : Bool
  beyond : Nat → UInt8

/-- `Size` behind GetVariable, in bytes. -/
def sizeAfterGet (machine : Machine) (size : Nat) : Nat :=
  match machine.debugSwitch with
  | none => size
  | some bytes => bytes.length

/-- `Data` behind GetVariable. -/
def dataAfterGet (machine : Machine) (size : Nat) (data : BitVec 64) : BitVec 64 :=
  match machine.debugSwitch with
  | none => data
  | some bytes =>
      if bytes.length ≤ size then
        BitVec.ofNat 64 (ofBytes (bytes ++ (toBytes 8 data.toNat).drop bytes.length))
      else data

/-- SetVariable with `size` bytes from Data on; without a byte it deletes the variable. -/
def setVariable (firmware : Firmware) (machine : Machine) (size : Nat) (data : BitVec 64) :
    Machine :=
  if firmware.stores then
    { machine with
      debugSwitch :=
        if size = 0 then none
        else
          some ((toBytes 8 data.toNat ++ (List.range (size - 8)).map firmware.beyond).take size) }
  else machine

def switchOn (index : Nat) (data : BitVec 64) : Option (BitVec 64) :=
  if index ≤ 63 then some (data ||| 1#64 <<< index)
  else if index = 64 then some 0xFFFFFFFFFFFFFFFF#64
  else none

def switchOff (index : Nat) (data : BitVec 64) : Option (BitVec 64) :=
  if index ≤ 63 then some (data &&& ~~~(1#64 <<< index))
  else if index = 64 then some 0x0#64
  else none

/-- The status and what is printed last: Data behind the last GetVariable.  `asserted` is the
outcome of the ASSERT in front of or behind it. -/
inductive Reply where
  | invalidParameter
  /-- The ASSERT_EFI_ERROR behind SetVariable stops the command. -/
  | notStored
  | switched (printed : Option (BitVec 64)) (asserted : Bool)
  | helped (data : BitVec 64) (asserted : Bool)
  deriving DecidableEq

/-- Behind the last GetVariable: `-on` prints and then has its ASSERT_EFI_ERROR, `-off` has it
in front of the print. -/
def replySwitched (printsFirst : Bool) (size : Nat) (stored : Machine) : Reply :=
  let found := stored.debugSwitch.isSome
  .switched (if printsFirst ∨ found then some (dataAfterGet stored size 0) else none) found

/-- `-on` and `-off`. -/
def runSwitch (printsFirst : Bool) (switch : Nat → BitVec 64 → Option (BitVec 64)) (index : Nat)
    (firmware : Firmware) (machine : Machine) : Reply × Machine :=
  if 0x64 < index then (.invalidParameter, machine)
  else
    let size := sizeAfterGet machine 8
    match switch (getId index) machine.switches with
    | none => (.invalidParameter, machine)
    | some data =>
        let stored := setVariable firmware { machine with switches := data } size data
        (if firmware.stores then replySwitched printsFirst size stored else .notStored, stored)

/-- `-help`, whose GetVariable leaves the word in Data when it fails. -/
def runHelp (machine : Machine) : Reply × Machine :=
  let data := dataAfterGet machine 8 machine.switches
  (.helped data (data = machine.switches), machine)

def commandRunDebug (strHexToUintn : Argument → UInt64) (argc : Nat) (argv : Nat → Argument)
    (firmware : Firmware) (machine : Machine) : Reply × Machine :=
  if argc < 2 then (.invalidParameter, machine)
  else if argv 1 = char16 ['-', 'o', 'n'] then
    runSwitch true switchOn (strHexToUintn (argv 2)).toNat firmware machine
  else if argv 1 = char16 ['-', 'o', 'f', 'f'] then
    runSwitch false switchOff (strHexToUintn (argv 2)).toNat firmware machine
  else if argv 1 = char16 ['-', 'h', 'e', 'l', 'p'] then runHelp machine
  else (.invalidParameter, machine)

/-! ## Runs of the command -/

/-- One call of CommandRunDebug with `debug` and what stands behind it, and the services while it
runs.  `argv` goes on behind the `argc` arguments: `-on` and `-off` read `argv 2` in any case. -/
structure Command where
  argc : Nat
  argv : Nat → Argument
  firmware : Firmware

section Runs

variable (strHexToUintn : Argument → UInt64)

def step (command : Command) (machine : Machine) : Machine :=
  (commandRunDebug strHexToUintn command.argc command.argv command.firmware machine).2

/-- What a command does, as the direction and the number of a module; 64 is all modules. -/
def Command.switched (command : Command) : Option (Bool × Nat) :=
  let index := (strHexToUintn (command.argv 2)).toNat
  if command.argc < 2 ∨ 0x64 < index then none
  else if command.argv 1 = char16 ['-', 'o', 'n'] then some (true, getId index)
  else if command.argv 1 = char16 ['-', 'o', 'f', 'f'] then some (false, getId index)
  else none

/-- What a command does to one module. -/
def Command.effect (moduleId : Nat) (command : Command) : Option Bool :=
  match command.switched strHexToUintn with
  | none => none
  | some (direction, target) =>
      if target = moduleId ∨ target = 64 then some direction else none

end Runs

section Switches

variable {strHexToUintn : Argument → UInt64} {machine : Machine} {command : Command}
variable {moduleId index : Nat}

theorem getId_le (index : Nat) : getId index ≤ 64 := by
  rw [getId]
  cases found : converData.find? fun entry => entry.1 = index with
  | none => exact Nat.zero_le _
  | some entry =>
      have listed : ∀ entry ∈ converData, entry.2 ≤ 64 := by decide
      exact listed entry (List.mem_of_find?_eq_some found)

theorem getLsbD_one_shiftLeft (valid : moduleId < 64) (target : Nat) :
    (1#64 <<< target).getLsbD moduleId = decide (target = moduleId) := by
  rw [BitVec.getLsbD_shiftLeft, BitVec.getLsbD_one]
  by_cases same : target = moduleId
  · subst same
    simp [valid]
  · have different : moduleId < target ∨ moduleId - target ≠ 0 := by omega
    rcases different with before | behind
    · simp [before, same]
    · simp [behind, same]

theorem switchOn_eq (data : BitVec 64) (known : index ≤ 64) :
    ∃ next, switchOn index data = some next ∧ ∀ moduleId < 64,
      next.getLsbD moduleId =
        (decide (index = moduleId ∨ index = 64) || data.getLsbD moduleId) := by
  by_cases one : index ≤ 63
  · refine ⟨_, if_pos one, fun moduleId valid => ?_⟩
    rw [BitVec.getLsbD_or, getLsbD_one_shiftLeft valid, Bool.or_comm]
    simp [show index ≠ 64 by omega]
  · have all : index = 64 := by omega
    refine ⟨0xFFFFFFFFFFFFFFFF#64, by rw [switchOn, if_neg one, if_pos all], ?_⟩
    intro moduleId valid
    have ones : (0xFFFFFFFFFFFFFFFF#64).getLsbD moduleId = true := by
      have each : ∀ bit < 64, (0xFFFFFFFFFFFFFFFF#64).getLsbD bit = true := by decide
      exact each moduleId valid
    rw [ones]
    simp [all]

theorem switchOff_eq (data : BitVec 64) (known : index ≤ 64) :
    ∃ next, switchOff index data = some next ∧ ∀ moduleId < 64,
      next.getLsbD moduleId =
        (!decide (index = moduleId ∨ index = 64) && data.getLsbD moduleId) := by
  by_cases one : index ≤ 63
  · refine ⟨_, if_pos one, fun moduleId valid => ?_⟩
    rw [BitVec.getLsbD_and, BitVec.getLsbD_not, getLsbD_one_shiftLeft valid, Bool.and_comm]
    simp [show index ≠ 64 by omega, valid]
  · have all : index = 64 := by omega
    refine ⟨0x0#64, by rw [switchOff, if_neg one, if_pos all], ?_⟩
    intro moduleId valid
    simp [all]

theorem runSwitch_large {printsFirst : Bool} {switch : Nat → BitVec 64 → Option (BitVec 64)}
    {firmware : Firmware} (large : 0x64 < index) :
    (runSwitch printsFirst switch index firmware machine).2 = machine := by
  rw [runSwitch, if_pos large]

theorem runSwitch_small {printsFirst : Bool} {switch : Nat → BitVec 64 → Option (BitVec 64)}
    {firmware : Firmware} {next : BitVec 64} (small : ¬ 0x64 < index)
    (switched : switch (getId index) machine.switches = some next) :
    (runSwitch printsFirst switch index firmware machine).2 =
      setVariable firmware { machine with switches := next } (sizeAfterGet machine 8) next := by
  rw [runSwitch, if_neg small]
  simp only [switched]

/-- A command that switches writes the word and then the variable; another one writes nothing. -/
theorem step_cases (strHexToUintn : Argument → UInt64) (command : Command) (machine : Machine) :
    (command.switched strHexToUintn = none ∧ step strHexToUintn command machine = machine) ∨
    ∃ (direction : Bool) (target : Nat) (next : BitVec 64),
      command.switched strHexToUintn = some (direction, target) ∧
      (∀ moduleId < 64, next.getLsbD moduleId =
        if target = moduleId ∨ target = 64 then direction
        else machine.switches.getLsbD moduleId) ∧
      step strHexToUintn command machine =
        setVariable command.firmware { machine with switches := next } (sizeAfterGet machine 8)
          next := by
  let index := (strHexToUintn (command.argv 2)).toNat
  by_cases few : command.argc < 2
  · left
    simp only [Command.switched, step, commandRunDebug, few, true_or, if_true, and_self]
  by_cases on : command.argv 1 = char16 ['-', 'o', 'n']
  · have runs : step strHexToUintn command machine =
        (runSwitch true switchOn index command.firmware machine).2 := by
      simp only [step, commandRunDebug, if_neg few, if_pos on, index]
    rw [runs]
    by_cases large : 0x64 < index
    · exact .inl ⟨if_pos (.inr large), runSwitch_large large⟩
    · obtain ⟨next, switched, bits⟩ := switchOn_eq machine.switches (getId_le index)
      have taken : command.switched strHexToUintn = some (true, getId index) := by
        simp only [Command.switched, if_neg (not_or.mpr ⟨few, large⟩), if_pos on, index]
      refine .inr ⟨true, _, next, taken, fun moduleId valid => ?_, runSwitch_small large switched⟩
      rw [bits moduleId valid]
      by_cases named : getId index = moduleId ∨ getId index = 64 <;> simp [named]
  by_cases off : command.argv 1 = char16 ['-', 'o', 'f', 'f']
  · have runs : step strHexToUintn command machine =
        (runSwitch false switchOff index command.firmware machine).2 := by
      simp only [step, commandRunDebug, if_neg few, if_neg on, if_pos off, index]
    rw [runs]
    by_cases large : 0x64 < index
    · exact .inl ⟨if_pos (.inr large), runSwitch_large large⟩
    · obtain ⟨next, switched, bits⟩ := switchOff_eq machine.switches (getId_le index)
      have taken : command.switched strHexToUintn = some (false, getId index) := by
        simp only [Command.switched, if_neg (not_or.mpr ⟨few, large⟩), if_neg on, if_pos off,
          index]
      refine .inr ⟨false, _, next, taken, fun moduleId valid => ?_, runSwitch_small large switched⟩
      rw [bits moduleId valid]
      by_cases named : getId index = moduleId ∨ getId index = 64 <;> simp [named]
  · left
    constructor
    · simp only [Command.switched, if_neg on, if_neg off, ite_self]
    · simp only [step, commandRunDebug, if_neg few, if_neg on, if_neg off]
      split <;> rfl

@[simp] theorem setVariable_switches (firmware : Firmware) (machine : Machine) (size : Nat)
    (data : BitVec 64) : (setVariable firmware machine size data).switches = machine.switches := by
  rw [setVariable]
  split <;> rfl

theorem step_switches (command : Command) (machine : Machine) (valid : moduleId < 64) :
    (step strHexToUintn command machine).switches.getLsbD moduleId =
      (command.effect strHexToUintn moduleId).getD (machine.switches.getLsbD moduleId) := by
  rcases step_cases strHexToUintn command machine with
    ⟨kept, same⟩ | ⟨direction, target, next, switched, bits, written⟩
  · rw [same, Command.effect, kept]
    rfl
  · rw [written, setVariable_switches, bits moduleId valid, Command.effect, switched]
    split <;> simp_all

/-- StrHexToUintn of `L"5"`. -/
def hexFive : Argument → UInt64 := fun text => if text = char16 ['5'] then 5 else 0

/-- `debug -on 5`. -/
def onFive : Command where
  argc := 3
  argv index :=
    [char16 ['d', 'e', 'b', 'u', 'g'], char16 ['-', 'o', 'n'], char16 ['5']].getD index []
  firmware := { stores := true, beyond := fun _ => 0 }

/-- The variable has only four bytes. -/
def shortVariable : Machine where
  switches := 0x100000000
  debugSwitch := some [0, 0, 0, 0]

end Switches

/-! ## The variable -/

section Variable

variable {strHexToUintn : Argument → UInt64} {machine : Machine} {command : Command}

/-- The variable has the word in as many of its bytes as there are of each. -/
def Saved (size : Nat) (machine : Machine) : Prop :=
  ∃ bytes : List UInt8, machine.debugSwitch = some bytes ∧ bytes.length = size ∧
    bytes.take 8 = (toBytes 8 machine.switches.toNat).take size

theorem sizeAfterGet_of_saved {size : Nat} (saved : Saved size machine) (old : Nat) :
    sizeAfterGet machine old = size := by
  obtain ⟨bytes, present, length, -⟩ := saved
  rw [sizeAfterGet, present]
  exact length

theorem setVariable_saved {firmware : Firmware} {size : Nat} (next : BitVec 64)
    (stores : firmware.stores = true) (positive : 0 < size) :
    Saved size (setVariable firmware { machine with switches := next } size next) := by
  rw [setVariable, if_pos stores, if_neg positive.ne']
  refine ⟨_, rfl, ?_, ?_⟩
  · simp only [List.length_take, List.length_append, length_toBytes, List.length_map,
      List.length_range]
    omega
  · rw [List.take_take, Nat.min_comm, ← List.take_take, List.take_append_of_le_length]
    · rw [List.take_of_length_le (by simp : (toBytes 8 next.toNat).length ≤ 8)]
    · simp

/-- What -help reads of the variable is the word, also when the variable is cut. -/
theorem runHelp_saved {size : Nat} (saved : Saved size machine) :
    (runHelp machine).1 = .helped machine.switches true := by
  obtain ⟨bytes, present, length, same⟩ := saved
  have data : dataAfterGet machine 8 machine.switches = machine.switches := by
    rw [dataAfterGet, present]
    by_cases whole : bytes.length ≤ 8
    · rw [List.take_of_length_le whole, ← length] at same
      simp only [if_pos whole]
      -- The bytes that are not read are still those of the word.
      nth_rewrite 1 [same]
      rw [List.take_append_drop, ofBytes_toBytes_of_lt machine.switches.isLt, BitVec.ofNat_toNat]
      exact BitVec.setWidth_eq machine.switches
    · simp only [if_neg whole]
  rw [runHelp, data]
  simp

/-- Once a command has switched something the variable has the word, in every run in which
SetVariable succeeds; it keeps the size that it had before, or 8 bytes. -/
theorem debugSwitch_run (strHexToUintn : Argument → UInt64) (machine : Machine)
    (commands : List Command) (stores : ∀ command ∈ commands, command.firmware.stores = true)
    (positive : 0 < sizeAfterGet machine 8) :
    ((∀ command ∈ commands, command.switched strHexToUintn = none) ∧
      run (step strHexToUintn) machine commands = machine) ∨
    Saved (sizeAfterGet machine 8) (run (step strHexToUintn) machine commands) := by
  induction commands generalizing machine with
  | nil => exact .inl ⟨fun _ member => (List.not_mem_nil member).elim, rfl⟩
  | cons command rest ih =>
      have later := fun other member => stores other (List.mem_cons_of_mem _ member)
      rw [run_cons]
      rcases step_cases strHexToUintn command machine with
        ⟨kept, same⟩ | ⟨direction, target, next, switched, -, written⟩
      · rw [same]
        refine (ih machine later positive).imp (fun still => ⟨?_, still.2⟩) id
        exact List.forall_mem_cons.mpr ⟨kept, still.1⟩
      · right
        have saved : Saved (sizeAfterGet machine 8) (step strHexToUintn command machine) :=
          written ▸ setVariable_saved next (stores command (List.mem_cons_self ..)) positive
        have size := sizeAfterGet_of_saved saved 8
        rcases ih _ later (size ▸ positive) with still | written
        · rw [still.2]
          exact saved
        · rwa [size] at written

/-- From then on the ASSERT of -help holds. -/
theorem runHelp_run (strHexToUintn : Argument → UInt64) (machine : Machine)
    (commands : List Command) (stores : ∀ command ∈ commands, command.firmware.stores = true)
    (positive : 0 < sizeAfterGet machine 8)
    (switched : ∃ command ∈ commands, command.switched strHexToUintn ≠ none) :
    Saved (sizeAfterGet machine 8) (run (step strHexToUintn) machine commands) ∧
      (runHelp (run (step strHexToUintn) machine commands)).1 =
        .helped (run (step strHexToUintn) machine commands).switches true := by
  rcases debugSwitch_run strHexToUintn machine commands stores positive with ⟨none, -⟩ | saved
  · obtain ⟨command, member, some⟩ := switched
    exact absurd (none command member) some
  · exact ⟨saved, runHelp_saved saved⟩

theorem runHelp_run_onFive :
    Saved 4 (run (step hexFive) shortVariable [onFive]) ∧
      (runHelp (run (step hexFive) shortVariable [onFive])).1 =
        .helped (run (step hexFive) shortVariable [onFive]).switches true :=
  runHelp_run hexFive shortVariable [onFive] (by decide) (by decide) (by decide)

end Variable

end AppEfi.LsEfi.DebugSwitch
