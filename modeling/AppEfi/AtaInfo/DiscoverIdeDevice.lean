import AppEfi.AtaInfo.AtaPioDataIn
import AppEfi.Lib.Ledger

/-!
# The discovery of devices

AtaInfo with the functions that find out what is behind a channel and identify it.  What passes
between the program and the outside is in order: accesses to the ports of each channel, pools,
and the dumps that read them.
-/

set_option autoImplicit false

namespace AppEfi.AtaInfo

open AppEfi.Dialogue
open AppEfi.Ledger

/-- A channel of one of the handles with PciIo. -/
structure Channel where
  handle : Nat
  channel : UInt8
  deriving DecidableEq, Repr

inductive Step where
  | port (channel : Channel) (access : Access)
  /-- LocateHandleBuffer, AllocatePool and what allocates for its caller. -/
  | allocate (pool : Option Nat)
  /-- The pool is the buffer of the transfer that follows. -/
  | buffer (pool : Nat)
  | dumpIdentifyData (pool : Nat)
  | dumpSmartData (pool : Nat)
  | read (pool : Nat)
  | freePool (pool : Nat)
  deriving DecidableEq, Repr

def Step.move : Step → Move Nat
  | .port _ _ => .keep
  | .allocate none => .keep
  | .allocate (some pool) => .acquire pool
  | .buffer pool | .dumpIdentifyData pool | .dumpSmartData pool | .read pool => .use pool
  | .freePool pool => .release pool

/-- The devices behind the channels, and the pools that the services answer with. -/
structure Platform where
  device : Channel → Device
  pool : List Step → Option Nat

/-- mMasterDeviceExist and mSlaveDeviceExist. -/
structure Exist where
  master : Bool
  slave : Bool
  deriving DecidableEq, Repr

/-- What AtaInfo reads of IDE_DEV when DiscoverIdeDevice succeeds. -/
structure Found where
  type : IdeDeviceType
  pIdData : Nat
  pSmartData : Option Nat
  deriving DecidableEq

abbrev Discovery := Dialogue Step

def identifyDriveCmd : UInt8 := 0xEC
def atapiIdentifyDeviceCmd : UInt8 := 0xA1
def ataSmartCmd : UInt8 := 0xB0
def ataSmartCmdReadData : UInt8 := 0xD0
def executeDeviceDiagnostic : UInt8 := 0x90

def max28BitAddressingCapacity : UInt64 := 0xFFFFFFF

/-- The size of EFI_IDENTIFY_DATA and of EFI_ATA_SMART_DATA. -/
def identifyDataSize : UInt32 := 512

/-- One word at a time would take no more turns. -/
def transferFuel : Nat := 257

/-- The word at a place of a buffer that was zero, behind the accesses of a transfer. -/
def bufferWord (accesses : List Access) (place : Nat) : UInt16 :=
  (((stores accesses).reverse.find? fun store => store.2 = place).map (·.1)).getD 0

section Discovery

variable (platform : Platform) (channel : Channel)

def inside : Step → Option Access
  | .port other access => if other = channel then some access else none
  | _ => none

def onPorts {Value : Type} (program : Driver Value) : Discovery (Value × List Access) :=
  embed (inside channel) (.port channel) program

def allocatePool : Discovery (Option Nat) := ask platform.pool .allocate

/-- `(Device << 4) | 0xe0`. -/
def selects (device : UInt8) : UInt8 := device <<< 4 ||| 0xE0

def checkPowerModeOn (device : Device) (slot : UInt8) : Driver Bool := do
  ideWritePortB .head (selects slot)
  let status ← waitForBsyClear device 31000
  if status ≠ .success then pure false
  else do
    ideWritePortB .head (selects slot)
    let _ ← drdyReady device 200
    let errorRegister ← ideReadPortB device .reg1
    pure (errorRegister = 0x01 ∨ errorRegister = 0x81)

/-- The part of DetectIDEController behind the diagnostic, for the master that it found. -/
def detectSlave (device : Device) (master : Bool) : Driver (Bool × Exist) := do
  ideWritePortB .head (selects 1)
  tell (.stall 300)
  let errorReg ← ideReadPortB device .reg1
  if errorReg ≠ 0x01 then pure (master, { master, slave := false })
  else do
    let _ ← ideReadPortB device .reg
    pure (master, { master, slave := true })

/-- DetectIDEController: whether it succeeds, and what it leaves in the globals. -/
def detectIdeControllerOn (device : Device) (slot : UInt8) (exist : Exist) :
    Driver (Bool × Exist) :=
  if slot = 1 then pure (exist.slave, exist)
  else do
    ideWritePortB .head (selects 1)
    tell (.stall 100)
    let _ ← ideReadPortB device .reg
    ideWritePortB .head (selects 0)
    tell (.stall 100)
    ideWritePortB .reg executeDeviceDiagnostic
    let _ ← waitForBsyClear device 3500
    let errorReg ← ideReadPortB device .reg1
    if errorReg = 0x01 then detectSlave device true
    else if errorReg = 0x81 then pure (true, { master := true, slave := false })
    else detectSlave device false

def checkPowerMode (slot : UInt8) : Discovery Bool := do
  let answer ← onPorts channel (checkPowerModeOn (platform.device channel) slot)
  pure answer.1

def detectIdeController (slot : UInt8) (exist : Exist) : Discovery (Bool × Exist) := do
  let answer ← onPorts channel (detectIdeControllerOn (platform.device channel) slot exist)
  pure answer.1

/-- AtaPioDataIn of 512 bytes into a pool: whether it succeeds, and its accesses.  IDE_DEV has
no Type yet. -/
def pioDataIn (slot : UInt8) (command : AtaCommand) (pool : Nat) :
    Discovery (Bool × List Access) := do
  tell (.buffer pool)
  let answer ← onPorts channel (ataPioDataIn (platform.device channel)
    { device := slot, type := .ideMagnetic } command identifyDataSize transferFuel)
  pure (answer.1 = some .success, answer.2)

/-- AtaAtapi6Identify. -/
def ataAtapi6Identify (word : Nat → UInt16) : Bool :=
  let capacity := (word 100).toUInt64 ||| (word 101).toUInt64 <<< 16 |||
    (word 102).toUInt64 <<< 32 ||| (word 103).toUInt64 <<< 48
  word 83 &&& 0x400 ≠ 0 ∧ max28BitAddressingCapacity < capacity

def identifyCommand (ataCommand slot : UInt8) : AtaCommand where
  ataCommand := ataCommand
  head := slot <<< 4
  feature := 0
  sectorCount := 0
  sectorNumber := 0
  cylinderLsb := 0
  cylinderMsb := 0

def smartCommand (slot : UInt8) : AtaCommand where
  ataCommand := ataSmartCmd
  head := slot <<< 4
  feature := ataSmartCmdReadData
  sectorCount := 1
  sectorNumber := 1
  cylinderLsb := 0x4F
  cylinderMsb := 0xC2

/-- The S.M.A.R.T. data of a hard disk, or its pool freed. -/
def readSmart (slot : UInt8) (ataSmartPointer : Nat) : Discovery (Option Nat) := do
  let (success, _) ← pioDataIn platform channel slot (smartCommand slot) ataSmartPointer
  if success then pure (some ataSmartPointer)
  else do
    tell (.freePool ataSmartPointer)
    pure none

def ataIdentifyInto (slot : UInt8) (ataIdentifyPointer ataSmartPointer : Nat) :
    Discovery (Option Found) := do
  let (success, accesses) ← pioDataIn platform channel slot
    (identifyCommand identifyDriveCmd slot) ataIdentifyPointer
  if success ∧ bufferWord accesses 0 &&& 0x8000 = 0 then do
    let pSmartData ← readSmart platform channel slot ataSmartPointer
    let type : IdeDeviceType :=
      if ataAtapi6Identify (bufferWord accesses) then .ide48bitAddressingHardDisk
      else .ideHardDisk
    pure (some { type, pIdData := ataIdentifyPointer, pSmartData })
  else do
    tell (.freePool ataIdentifyPointer)
    tell (.freePool ataSmartPointer)
    pure none

def ataIdentify (slot : UInt8) : Discovery (Option Found) := do
  match ← allocatePool platform with
  | none => pure none
  | some ataIdentifyPointer =>
      match ← allocatePool platform with
      | none => do
          tell (.freePool ataIdentifyPointer)
          pure none
      | some ataSmartPointer =>
          ataIdentifyInto platform channel slot ataIdentifyPointer ataSmartPointer

/-- ATAPIIdentify leaves Type as it was. -/
def atapiIdentify (slot : UInt8) : Discovery (Option Found) := do
  match ← allocatePool platform with
  | none => pure none
  | some atapiIdentifyPointer => do
      let (success, _) ← pioDataIn platform channel slot
        (identifyCommand atapiIdentifyDeviceCmd slot) atapiIdentifyPointer
      if success then
        pure (some { type := .ideMagnetic, pIdData := atapiIdentifyPointer, pSmartData := none })
      else do
        tell (.freePool atapiIdentifyPointer)
        pure none

def discoverIdeDevice (slot : UInt8) (exist : Exist) : Discovery (Option Found × Exist) := do
  let sataFlag ← checkPowerMode platform channel slot
  let (detected, exist) ← detectIdeController platform channel slot exist
  if ¬ detected ∧ ¬ sataFlag then pure (none, exist)
  else do
    match ← ataIdentify platform channel slot with
    | some found => pure (some found, exist)
    | none => do
        let found ← atapiIdentify platform channel slot
        pure (found, exist)

/-! ## AtaInfo -/

def dumpSmart (found : Found) : Discovery Unit :=
  if found.type = .ideHardDisk ∨ found.type = .ide48bitAddressingHardDisk then
    match found.pSmartData with
    | some smartData => tell (.dumpSmartData smartData)
    | none => pure ()
  else pure ()

/-- The dumps of a device, and the one pool that is freed. -/
def dumpFound (found : Found) : Discovery Unit := do
  tell (.dumpIdentifyData found.pIdData)
  dumpSmart found
  tell (.freePool found.pIdData)

/-- The body of the loop over the two devices of a channel. -/
def examine (slot : UInt8) (exist : Exist) : Discovery (Option Found × Exist) := do
  let (found, exist) ← discoverIdeDevice platform channel slot exist
  match found with
  | some found => do
      dumpFound found
      pure (some found, exist)
  | none => pure (none, exist)

end Discovery

/-- What is read of PCI_TYPE00. -/
structure PciData where
  command : UInt16
  /-- `ClassCode[0]`, `ClassCode[1]` and `ClassCode[2]`. -/
  programmingInterface : UInt8
  subClass : UInt8
  baseClass : UInt8
  bar : Nat → UInt32

/-- IDE_REGISTERS_BASE_ADDR. -/
structure IdeRegistersBaseAddr where
  commandBlockBaseAddr : UInt16
  controlBlockBaseAddr : UInt16
  busMasterBaseAddr : UInt16
  deriving DecidableEq

/-- The addresses of a channel whose bit of the programming interface is `mode`, with the BARs
from `first` on. -/
def registersOf (pciData : PciData) (mode : UInt8) (first : Nat)
    (commandBlock controlBlock : UInt16) : Option IdeRegistersBaseAddr :=
  let busMasterBaseAddr := (pciData.bar 4 &&& 0x0000fff0).toUInt16
  if pciData.programmingInterface &&& mode = 0 then
    some
      { commandBlockBaseAddr := commandBlock
        controlBlockBaseAddr := controlBlock
        busMasterBaseAddr }
  else if pciData.bar first &&& 1 = 0 ∨ pciData.bar (first + 1) &&& 1 = 0 then none
  else
    some
      { commandBlockBaseAddr := (pciData.bar first &&& 0x0000fff8).toUInt16
        controlBlockBaseAddr := ((pciData.bar (first + 1) &&& 0x0000fffc) + 2).toUInt16
        busMasterBaseAddr }

/-- Of both channels, also when only one of them is asked for. -/
def getIdeRegistersBaseAddr (read : Option PciData) :
    Option (IdeRegistersBaseAddr × IdeRegistersBaseAddr) := do
  let pciData ← read
  let primary ← registersOf pciData 1 0 0x1f0 0x3f6
  let secondary ← registersOf pciData 4 2 0x170 0x376
  pure (primary, secondary)

/-- A handle with PciIo, by what the services answer for it. -/
structure Controller where
  /-- HandleProtocol with gEfiPciIoProtocolGuid. -/
  pciIo : Bool
  pciData : Option PciData
  /-- HandleProtocol with gEfiDevicePathProtocolGuid. -/
  devicePath : Bool
  /-- The read of each channel's GetIdeRegistersBaseAddr. -/
  channelPciData : UInt8 → Option PciData

/-- PCI_CLASS_MASS_STORAGE and PCI_SUB_CLASS_IDE. -/
def PciData.isIde (pciData : PciData) : Bool := pciData.baseClass = 1 ∧ pciData.subClass = 1

def PciData.busMaster (pciData : PciData) : Bool := pciData.command &&& 0x4 = 0x4

/-- A line for a device, or for no device. -/
structure Report where
  channel : Channel
  slot : UInt8
  found : Option Found
  deriving DecidableEq

section Info

variable (platform : Platform)

/-- ConvertDevicePathToText and what is done with its string. -/
def printDevicePathStr : Discovery Unit := do
  match ← allocatePool platform with
  | some devicePathStr => do
      tell (.read devicePathStr)
      tell (.freePool devicePathStr)
  | none => pure ()

def printDevicePath (controller : Controller) : Discovery Unit :=
  if controller.devicePath then printDevicePathStr platform else pure ()

/-- The body of the loop over the channels. -/
def infoChannel (handle : Nat) (controller : Controller) (number : UInt8) (exist : Exist) :
    Discovery (List Report × Exist) :=
  match getIdeRegistersBaseAddr (controller.channelPciData number) with
  | none => pure ([], exist)
  | some _ => do
      let channel : Channel := { handle, channel := number }
      let (master, exist) ← examine platform channel 0 exist
      let (slave, exist) ← examine platform channel 1 exist
      pure ([{ channel, slot := 0, found := master }, { channel, slot := 1, found := slave }],
        exist)

/-- The body of the loop over the handles. -/
def infoHandle (handleBuffer handle : Nat) (controller : Controller) (exist : Exist) :
    Discovery (List Report × Exist) := do
  tell (.read handleBuffer)
  match (if controller.pciIo then controller.pciData else none) with
  | none => pure ([], exist)
  | some pciData =>
      if ¬ pciData.isIde then pure ([], exist)
      else do
        printDevicePath platform controller
        if ¬ pciData.busMaster then pure ([], exist)
        else do
          let (primary, exist) ← infoChannel platform handle controller 0 exist
          let (secondary, exist) ← infoChannel platform handle controller 1 exist
          pure (primary ++ secondary, exist)

def infoHandles (handleBuffer : Nat) : Nat → List Controller → Exist → Discovery (List Report)
  | _, [], _ => pure []
  | handle, controller :: rest, exist => do
      let (reports, exist) ← infoHandle platform handleBuffer handle controller exist
      let others ← infoHandles handleBuffer (handle + 1) rest exist
      pure (reports ++ others)

/-- AtaInfo with the globals at its start: the handle buffer, and a report for each device. -/
def ataInfo (controllers : List Controller) (exist : Exist) :
    Discovery (Option Nat × List Report) := do
  match ← allocatePool platform with
  | none => pure (none, [])
  | some handleBuffer => do
      let reports ← infoHandles platform handleBuffer 0 controllers exist
      pure (some handleBuffer, reports)

end Info

end AppEfi.AtaInfo
