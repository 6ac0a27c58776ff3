import AppEfi.DxeCore.LoadedImages

/-!
# The dump of the DXE core

DxeCoreDump.c: the loaded images, and from the discovery of the core's lists on the handle
database, the protocol database and the two event lists.  The core does not stand still while
it is dumped: a dummy event leads to each event list, and is closed before the list is dumped.
-/

set_option autoImplicit false

namespace AppEfi.DxeCore

open AppEfi.CoreDump
open AppEfi.LinkedList

/-- `UNKNOWN_NAME`, `L"???"`. -/
def unknownName : List UInt16 := [0x3F, 0x3F, 0x3F]

/-- What the tool has from GetLoadedImage, which fills mImageStruct, from InitGuid and from the
headers of edk2. -/
structure Tool where
  mImageStruct : List ImageStruct
  mProtocolFuncStruct : List (List UInt8 × Nat)
  guidToName : List UInt8 → List UInt8
  gEfiDevicePathProtocolGuid : List UInt8
  gEfiLoadedImageProtocolGuid : List UInt8
  gEfiLoadedImageDevicePathProtocolGuid : List UInt8

section Dump

variable (width : Nat) (tool : Tool)

/-! ## Names of addresses -/

def ImageStruct.contains (image : ImageStruct) (address : Nat) : Bool :=
  image.imageBase ≤ address ∧ address < (image.imageBase + image.imageSize) % 256 ^ width

def addressToImageName (address : Nat) : List UInt16 :=
  ((tool.mImageStruct.find? fun image => image.contains width address).map
    (·.nameString)).getD unknownName

variable (memory : Memory)

def addressToImageNameEx (address : Nat) (protocol : List UInt8) : List UInt16 :=
  let name := addressToImageName width tool address
  if name ≠ unknownName then name
  else
    match tool.mProtocolFuncStruct.find? fun entry => protocol = entry.1 with
    | some (_, funcOffset) =>
        addressToImageName width tool (memory.readLe (address + funcOffset) width)
    | none => unknownName

/-- The name, when there is an address and its image is known. -/
def printName (address : Nat) (name : List UInt16) : List Line :=
  if address ≠ 0 ∧ name ≠ unknownName then [.image name] else []

/-! ## The handle and the protocol database -/

/-- `CR`, of which the ASSERT is shown. -/
def crAssert (size signature address : Nat) : List Line :=
  if memory.readLe address size ≠ signature then [.badSignature] else []

/-- The three comparisons with GUIDs of device paths.  FilePath of EFI_LOADED_IMAGE_PROTOCOL
lies behind Revision, ParentHandle, SystemTable and DeviceHandle. -/
def printPaths (protocolId : List UInt8) (interface : Nat) : List Line :=
  (if protocolId = tool.gEfiDevicePathProtocolGuid then [.path interface] else []) ++
    (if protocolId = tool.gEfiLoadedImageProtocolGuid then
      [.path (memory.readLe (interface + 4 * width) width)] else []) ++
    (if protocolId = tool.gEfiLoadedImageDevicePathProtocolGuid then [.path interface] else [])

def protocolIdOf (protocolEntry : Nat) : List UInt8 :=
  memory.bytesAt (protocolEntry + offsetProtocolId width) 16

/-- `ProtocolInterface->Protocol->ProtocolID`. -/
def interfaceProtocolId (protocolInterface : Nat) : List UInt8 :=
  protocolIdOf width memory (memory.readLe (protocolInterface + offsetProtocol width) width)

/-- `ProtocolInterface->Interface`. -/
def interfaceOf (protocolInterface : Nat) : Nat :=
  memory.readLe (protocolInterface + offsetInterface width) width

/-- What the bodies of both loops over interfaces print behind their own line. -/
def printInterface (protocolInterface : Nat) : List Line :=
  let protocolId := interfaceProtocolId width memory protocolInterface
  let interface := interfaceOf width memory protocolInterface
  printName interface (addressToImageNameEx width tool memory interface protocolId) ++
    [.newline] ++ printPaths width tool memory protocolId interface

def handleInterfaceLines (protocolInterface : Nat) : List Line :=
  crAssert memory width protocolInterfaceSignature protocolInterface ++
    [.handleInterface (tool.guidToName (interfaceProtocolId width memory protocolInterface))
      (interfaceOf width memory protocolInterface)] ++
    printInterface width tool memory protocolInterface

def entryInterfaceLines (protocolInterface : Nat) : List Line :=
  crAssert memory width protocolInterfaceSignature protocolInterface ++
    [.entryInterface (interfaceOf width memory protocolInterface)] ++
    printInterface width tool memory protocolInterface

/-- What is printed of an IEVENT behind its address, for a notify and for an event. -/
def printEvent (iEvent : Nat) : List Line :=
  let group := tool.guidToName (memory.bytesAt (iEvent + (6 * width + 8)) 16)
  let triggerTime := memory.readLe (iEvent + (18 * width + 24)) 8
  let period := memory.readLe (iEvent + (18 * width + 32)) 8
  let notifyFunction := memory.readLe (iEvent + (4 * width + 8)) width
  (if group ≠ zeroGuidName then [.eventGroup group] else []) ++
    (if triggerTime ≠ 0 ∨ period ≠ 0 then [.timer triggerTime period] else []) ++
    [.newline, .notify (memory.readLe (iEvent + width) 4)
      (memory.readLe (iEvent + (3 * width + 8)) width) notifyFunction] ++
    printName notifyFunction (addressToImageName width tool notifyFunction) ++ [.newline]

def notifyLines (protocolNotify : Nat) : List Line :=
  let iEvent := memory.readLe (protocolNotify + offsetNotifyEvent width) width
  crAssert memory width protocolNotifySignature protocolNotify ++
    crAssert memory width eventSignature iEvent ++ [.event iEvent] ++
    printEvent width tool memory iEvent

variable (fuel : Nat)

/-- A loop over the structures of a list whose body does not break. -/
def forEachStructure (offset entry : Nat) (body : Nat → Option (List Line)) :
    Option (List Line) :=
  forEach (forwardLink width memory) (fun entry => body (entry - offset)) entry fuel

def dumpProtocolInterfacesOnHandle (iHandle : Nat) : Option (List Line) :=
  forEachStructure width memory fuel (offsetLink width) (iHandle + offsetHandleProtocols width)
    fun protocolInterface => some (handleInterfaceLines width tool memory protocolInterface)

def dumpHandleList (mDxeCoreHandleList : Nat) : Option (List Line) :=
  forEachStructure width memory fuel (offsetAllHandles width) mDxeCoreHandleList fun handle => do
    let interfaces ← dumpProtocolInterfacesOnHandle width tool memory fuel handle
    pure (crAssert memory width efiHandleSignature handle ++ [.handle handle] ++ interfaces)

def dumpProtocolInterfacesOnProtocolEntry (protocolEntry : Nat) : Option (List Line) :=
  forEachStructure width memory fuel (offsetByProtocol width)
    (protocolEntry + offsetEntryProtocols width)
    fun protocolInterface => some (entryInterfaceLines width tool memory protocolInterface)

def dumpProtocolNotifyOnProtocolEntry (protocolEntry : Nat) : Option (List Line) :=
  forEachStructure width memory fuel (offsetNotifyLink width)
    (protocolEntry + offsetNotify width)
    fun protocolNotify => some (notifyLines width tool memory protocolNotify)

def dumpProtocolDatabase (mDxeCoreProtocolDatabase : Nat) : Option (List Line) :=
  forEachStructure width memory fuel (offsetAllEntries width) mDxeCoreProtocolDatabase
    fun protocolEntry => do
      let interfaces ←
        dumpProtocolInterfacesOnProtocolEntry width tool memory fuel protocolEntry
      let notifies ← dumpProtocolNotifyOnProtocolEntry width tool memory fuel protocolEntry
      pure (crAssert memory width protocolEntrySignature protocolEntry ++
        [.protocol (tool.guidToName (protocolIdOf width memory protocolEntry))] ++ interfaces ++
        notifies)

/-! ## The events -/

def eventLines (event : Nat) : List Line :=
  crAssert memory width eventSignature event ++ [.event event] ++
    printEvent width tool memory event

/-- DumpEventSignalQueue and DumpEventTimerList go back through their lists. -/
def dumpEvents (offset head : Nat) : Option (List Line) :=
  forEach (backLink width memory)
    (fun entry => some (eventLines width tool memory (entry - offset))) head fuel

def dumpEventSignalQueue (mDxeCoreEventSignalQueue : Nat) : Option (List Line) :=
  dumpEvents width tool memory fuel (offsetSignalLink width) mDxeCoreEventSignalQueue

def dumpEventTimerList (mDxeCoreEfiTimerList : Nat) : Option (List Line) :=
  dumpEvents width tool memory fuel (offsetTimerLink width) mDxeCoreEfiTimerList

/-- A dummy event that CreateEventEx or CreateEvent made: its address, memory while it is in
the list, and memory behind CloseEvent.  `set` is for the second, when SetTimer succeeds. -/
structure DummyEvent where
  event : Nat
  set : Bool
  created : Memory
  closed : Memory

/-- A section of the event database, with the outcome of the service that makes its dummy
event.  The flag is for the code behind it. -/
def eventSection (find : DummyEvent → Option (Option Nat))
    (dump : Memory → Nat → Option (List Line)) (missing : String)
    (dummy : Option DummyEvent) : Option (List Line × Bool) :=
  match dummy with
  | none => some ([], true)
  | some dummy =>
      match find dummy with
      | none => none
      | some none => some ([.title missing], false)
      | some (some head) => (dump dummy.closed head).map fun lines => (lines, true)

def signalSection (dummy : Option DummyEvent) : Option (List Line × Bool) :=
  eventSection (fun dummy => getDxeCoreEventSignalQueue width dummy.created fuel dummy.event)
    (fun closed head => dumpEventSignalQueue width tool closed fuel head)
    "DxeCore gEventSignalQueue is not found!" dummy

def timerSection (dummy : Option DummyEvent) : Option (List Line × Bool) :=
  eventSection
    (fun dummy =>
      if dummy.set then getDxeCoreTimerList width dummy.created fuel dummy.event else some none)
    (fun closed head => dumpEventTimerList width tool closed fuel head)
    "DxeCore mEfiTimerList is not found!" dummy

/-- The event database, up to Done. -/
def dumpEventDatabase (signalEvent timerEvent : Option DummyEvent) : Option (List Line) := do
  let (signals, goesOn) ← signalSection width tool fuel signalEvent
  if goesOn then do
    let (timers, goesOn) ← timerSection width tool fuel timerEvent
    pure ([.title "EVENT DATABASE", .title "1. NOTIFY_SIGNAL"] ++ signals ++
      [.title "2. TIMER"] ++ timers ++ if goesOn then [.newline] else [])
  else pure ([.title "EVENT DATABASE", .title "1. NOTIFY_SIGNAL"] ++ signals)

/-- DxeCoreDumpEntrypoint behind the image database, when the DXE core is found. -/
def dumpDatabase (imageHandle : Nat) (signalEvent timerEvent : Option DummyEvent) :
    Option (List Line) := do
  let mDxeCoreHandleList ← getDxeCoreHandleList width memory fuel imageHandle
  let mDxeCoreProtocolDatabase ← getDxeCoreProtocolDatabase width memory fuel imageHandle
  match mDxeCoreHandleList with
  | none => pure [.title "DxeCore gHandleList is not found!"]
  | some handleList => do
      -- A protocol database that is not found is reported, and then walked from NULL.
      let report := if mDxeCoreProtocolDatabase = none then
        [Line.title "DxeCore mProtocolDatabase is not found!"] else []
      let handles ← dumpHandleList width tool memory fuel handleList
      let protocols ← dumpProtocolDatabase width tool memory fuel
        (mDxeCoreProtocolDatabase.getD 0)
      let events ← dumpEventDatabase width tool fuel signalEvent timerEvent
      pure (report ++ [.title "HANDLE DATABASE"] ++ handles ++
        [.newline, .title "PROTOCOL DATABASE"] ++ protocols ++ [.newline] ++ events)

/-- DxeCoreDumpEntrypoint, whose tool names no image before GetLoadedImage. -/
def dxeCoreDump (services : ImageServices) (imageHandle : Nat)
    (signalEvent timerEvent : Option DummyEvent) : Option (List Line) :=
  let images := getLoadedImage width memory services
  if images.dxeCoreFound then
    (dumpDatabase width { tool with mImageStruct := images.mImageStruct } memory fuel imageHandle
      signalEvent timerEvent).map fun lines =>
        [.title "IMAGE DATABASE"] ++ images.lines ++ [.newline] ++ lines
  else some ([.title "IMAGE DATABASE"] ++ images.lines ++ [.title "DxeCore is not found!"])

end Dump

end AppEfi.DxeCore
