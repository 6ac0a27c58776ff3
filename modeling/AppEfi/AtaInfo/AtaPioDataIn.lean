import AppEfi.Lib.Dialogue
import Mathlib.Tactic.NormNum

/-!
# PIO data-in transfers

AtaPioDataIn with the functions that poll the status registers.  The device is a function
that gives an answer to each read of a port, by all the accesses before it.
-/

set_option autoImplicit false

namespace AppEfi.AtaInfo

open AppEfi.Dialogue

/-- IDE_BASE_REGISTERS; `reg` is Status when read and `reg1` is Error. -/
inductive Port where
  | data
  | reg1
  | sectorCount
  | sectorNumber
  | cylinderLsb
  | cylinderMsb
  | head
  | reg
  | alt
  deriving DecidableEq, Repr

/-- An access to a port or a stall.  The words of a multiple read go to the buffer from
`place` on. -/
inductive Access where
  | readB (port : Port) (value : UInt8)
  | writeB (port : Port) (value : UInt8)
  | readWMultiple (port : Port) (place : Nat) (words : List UInt16)
  | stall (microseconds : Nat)
  deriving DecidableEq, Repr

structure Device where
  byte : List Access → Port → UInt8
  word : List Access → Port → Nat → UInt16

inductive Status where
  | success
  | deviceError
  | timeout
  | aborted
  deriving DecidableEq, Repr

inductive IdeDeviceType where
  | ideMagnetic
  | ideCdRom
  | ideHardDisk
  | ide48bitAddressingHardDisk
  | ideUnknown
  deriving DecidableEq, Repr

structure IdeDev where
  device : UInt8
  type : IdeDeviceType

/-- What AtaPioDataIn gets besides the buffer and the count. -/
structure AtaCommand where
  ataCommand : UInt8
  head : UInt8
  feature : UInt8
  sectorCount : UInt8
  sectorNumber : UInt8
  cylinderLsb : UInt8
  cylinderMsb : UInt8

def bsy : UInt8 := 0x80
def drdy : UInt8 := 0x40
def dwf : UInt8 := 0x20
def drq : UInt8 := 0x08
def corr : UInt8 := 0x04
def err : UInt8 := 0x01
def abrtErr : UInt8 := 0x04

def stall1MilliSecond : Nat := 1000

def ataTimeout : Nat := 1000

/-- `Delay` at the start of a poll. -/
def delayOf (timeoutInMilliSeconds : Nat) : Nat :=
  (timeoutInMilliSeconds * stall1MilliSecond / 30 + 1) % 2 ^ 32

abbrev Driver := Dialogue Access

section Driver

variable (device : Device)

def ideReadPortB (port : Port) : Driver UInt8 :=
  ask (fun history => device.byte history port) (.readB port)

def ideWritePortB (port : Port) (data : UInt8) : Driver Unit := tell (.writeB port data)

/-- Io.Read of PciIo is taken to succeed.  The source throws its status away. -/
def ideReadPortWMultiple (port : Port) (count place : Nat) : Driver (List UInt16) :=
  ask (fun history => (List.range count).map (device.word history port))
    (.readWMultiple port place)

/-- The loop of the functions that poll a register until its bits of `mask` are `wanted`.  A
`do` loop whose Delay is counted down to zero has timed out. -/
def poll (port : Port) (mask wanted : UInt8) : Nat → Driver Status
  | 0 => pure .timeout
  | delay + 1 => do
      let register ← ideReadPortB device port
      if register &&& mask = wanted then pure .success
      else if register &&& (bsy ||| err) = err then do
        let errorRegister ← ideReadPortB device .reg1
        if errorRegister &&& abrtErr = abrtErr then pure .aborted
        else do
          tell (.stall 30)
          poll port mask wanted delay
      else do
        tell (.stall 30)
        poll port mask wanted delay

def drqClear (timeoutInMilliSeconds : Nat) : Driver Status :=
  poll device .reg (drq ||| bsy) 0 (delayOf timeoutInMilliSeconds)

def drqClear2 (timeoutInMilliSeconds : Nat) : Driver Status :=
  poll device .alt (drq ||| bsy) 0 (delayOf timeoutInMilliSeconds)

def drqReady2 (timeoutInMilliSeconds : Nat) : Driver Status :=
  poll device .alt (bsy ||| drq) drq (delayOf timeoutInMilliSeconds)

def drdyReady (delayInMilliSeconds : Nat) : Driver Status :=
  poll device .reg (drdy ||| bsy) drdy (delayOf delayInMilliSeconds)

/-- The loop of WaitForBSYClear, which does not look for an aborted command. -/
def pollBsyClear : Nat → Driver Status
  | 0 => pure .timeout
  | delay + 1 => do
      let statusRegister ← ideReadPortB device .reg
      if statusRegister &&& bsy = 0 then pure .success
      else do
        tell (.stall 30)
        pollBsyClear delay

def waitForBsyClear (timeoutInMilliSeconds : Nat) : Driver Status :=
  pollBsyClear device (delayOf timeoutInMilliSeconds)

def checkErrorStatus : Driver Status := do
  let statusRegister ← ideReadPortB device .reg
  if statusRegister &&& (err ||| dwf ||| corr) = 0 then pure .success else pure .deviceError

/-- The transfer loop from (WordCount, Increment, Buffer16), and what comes behind it.
`none` is for want of fuel. -/
def transfer (byteCount : UInt32) : Nat → Nat → Nat → Nat → Driver (Option Status)
  | 0, _, _, _ => pure none
  | fuel + 1, wordCount, increment, buffer16 =>
      if wordCount < byteCount.toNat / 2 then do
        let status ← drqReady2 device ataTimeout
        if status ≠ .success then pure (some .deviceError)
        else do
          let status ← checkErrorStatus device
          if status ≠ .success then pure (some .deviceError)
          else do
            let increment :=
              if wordCount + increment > byteCount.toNat / 2 then
                byteCount.toNat / 2 - wordCount
              else increment
            let _ ← ideReadPortWMultiple device .data increment buffer16
            transfer byteCount fuel (wordCount + increment) increment (buffer16 + increment)
      else do
        let _ ← drqClear device ataTimeout
        let status ← checkErrorStatus device
        pure (some status)

/-- From the check of DRQ on. -/
def sendCommand (command : AtaCommand) (byteCount : UInt32) (fuel : Nat) :
    Driver (Option Status) := do
  let status ← drqClear2 device ataTimeout
  if status ≠ .success then pure (some .deviceError)
  else do
    ideWritePortB .sectorCount command.sectorCount
    ideWritePortB .sectorNumber command.sectorNumber
    ideWritePortB .cylinderLsb command.cylinderLsb
    ideWritePortB .cylinderMsb command.cylinderMsb
    ideWritePortB .reg1 command.feature
    ideWritePortB .reg command.ataCommand
    transfer device byteCount fuel 0 256 0

def ataPioDataIn (ideDev : IdeDev) (command : AtaCommand) (byteCount : UInt32) (fuel : Nat) :
    Driver (Option Status) := do
  let status ← waitForBsyClear device ataTimeout
  if status ≠ .success then pure (some .deviceError)
  else do
    ideWritePortB .head (ideDev.device <<< 4 ||| 0xE0 ||| command.head)
    if ideDev.type = .ideHardDisk then do
      let status ← drdyReady device ataTimeout
      if status ≠ .success then pure (some .deviceError)
      else sendCommand device command byteCount fuel
    else sendCommand device command byteCount fuel

end Driver

/-! ## What a transfer keeps to -/

/-- Just before, BSY was seen clear and DRQ set, and then no error. -/
def SeenReady (history : List Access) : Prop :=
  ∃ earlier altStatus status,
    history = earlier ++ [.readB .alt altStatus, .readB .reg status] ∧
      altStatus &&& (bsy ||| drq) = drq ∧ status &&& (err ||| dwf ||| corr) = 0

def ReadsWhenReady (history : List Access) : Prop :=
  ∀ before port place words,
    before ++ [.readWMultiple port place words] <+: history → port = .data ∧ SeenReady before

/-- The words that were read. -/
def wordsRead (history : List Access) : List UInt16 :=
  history.flatMap fun access =>
    match access with
    | .readWMultiple _ _ words => words
    | _ => []

/-- The words that were stored, with their places in the buffer. -/
def stores (history : List Access) : List (UInt16 × Nat) :=
  history.flatMap fun access =>
    match access with
    | .readWMultiple _ place words => words.zipIdx place
    | _ => []

/-- Up to wherever the run has come: data is read when it is ready, the words lie in the
buffer from its start on without a gap, and there are no more than asked for. -/
structure Keeps (count : Nat) (history : List Access) : Prop where
  ready : ReadsWhenReady history
  contiguous : stores history = (wordsRead history).zipIdx
  inside : (wordsRead history).length ≤ count

/-- A run by fuel ends, keeps to the rules and has all words when it succeeds. -/
structure Transfers (count : Nat) (run : Nat → Option Status × List Access) : Prop where
  ends : ∃ fuel, (run fuel).1 ≠ none
  keeps : ∀ fuel, Keeps count (run fuel).2
  complete : ∀ fuel, (run fuel).1 = some .success → (wordsRead (run fuel).2).length = count

end AppEfi.AtaInfo
