import AppEfi.SmmCore.Records

/-!
# The SMM core database

SmmCoreDumpHandler.c without the transfer: the size pass and the data pass over
the lists of the SMM core, and SmmChildDumpLib behind them.  A list of the SMM
core is a Lean list.  The data pass writes through pointers into the memory that
`AllocatePool` gave, whatever was there; it follows the `Header.Length` that it
stored itself, which has 32 bits.
-/

set_option autoImplicit false

namespace AppEfi.SmmCore

open AppEfi.LittleEndian

section State

variable (width : Nat)

/-- `IMAGE_STRUCT` of the handler. -/
structure ImageStruct where
  fileGuid : Guid
  entryPoint : Uintn width
  imageBase : Uintn width
  imageSize : Uintn width
  loadedImageBase : Uintn width
  nameString : NameString

/-- `PROTOCOL_INTERFACE`, with the ProtocolID of its protocol. -/
structure ProtocolInterface where
  protocolId : Guid
  interface : Uintn width

structure IHandle where
  address : Uintn width
  protocols : List (ProtocolInterface width)

/-- `PROTOCOL_ENTRY`, with the functions of its notifies. -/
structure ProtocolEntry where
  protocolId : Guid
  protocols : List (ProtocolInterface width)
  notify : List (Uintn width)

structure SmiHandler where
  address : Uintn width
  handler : Uintn width

structure SmiEntry where
  handlerType : Guid
  smiHandlers : List (SmiHandler width)

/-- `DATABASE_RECORD` of the child dispatcher. -/
structure ChildDispatchRecord where
  link : Uintn width
  dispatchFunction : Uintn width
  swSmiInputValue : Uintn width

/-- The lists that the handler dumps.  The child-dispatch records are `none` with
SmmChildDumpLibNull and `some` with SmmChildDumpLibNt32. -/
structure SmmCoreState where
  mImageStruct : List (ImageStruct width)
  mSmmCoreHandleList : List (IHandle width)
  mSmmCoreProtocolDatabase : List (ProtocolEntry width)
  mSmmCoreSmiEntryList : List (SmiEntry width)
  mSmmCoreRootSmiHandlerList : List (SmiHandler width)
  mSmmChildCallbackDatabase : Option (List (ChildDispatchRecord width))

/-- The GUIDs that the build provides, `mProtocolFuncStruct`, and a UINTN load. -/
structure Environment where
  gEfiCallerIdGuid : Guid
  gEfiSmmSwDispatch2ProtocolGuid : Guid
  mProtocolFuncStruct : List (Guid × Nat)
  load : Nat → Uintn width

end State

section References

variable {width : Nat} (env : Environment width) (images : List (ImageStruct width))

def unknownName : List UInt16 := [0x3F, 0x3F, 0x3F]

def ImageStruct.contains (image : ImageStruct width) (address : Uintn width) : Bool :=
  decide (image.imageBase ≤ address) &&
    decide (address < uintn width (image.imageBase.val + image.imageSize.val))

def addressToImageName (address : Uintn width) : List UInt16 :=
  match images.find? fun image => image.contains address with
  | some image => image.nameString.characters
  | none => unknownName

def addressToImageRef (address : Uintn width) : Uintn width :=
  match images.findIdx? fun image => image.contains address with
  | some index => uintn width index
  | none => uintn width (256 ^ width - 1)

def addressToImageRefEx (address : Uintn width) (protocol : Guid) : Uintn width :=
  let imageRef := addressToImageRef images address
  if imageRef ≠ uintn width (256 ^ width - 1) then imageRef
  else
    match env.mProtocolFuncStruct.find? fun entry => entry.1 = protocol with
    | some (_, funcOffset) =>
        addressToImageRef images (env.load (uintn width (address.val + funcOffset)).val)
    | none => uintn width (256 ^ width - 1)

end References

/-! ## The size pass -/

section Sizes

variable {width : Nat}

def getSmmImageDatabaseSize (mImageStruct : List (ImageStruct width)) : Nat :=
  toUintn width (sizeofImageRecord width * mImageStruct.length)

def getSmmProtocolInterfacesSizeOnHandle (handle : IHandle width) : Nat :=
  toUintn width (handle.protocols.length * sizeofHandleProtocolStruct width)

def getSmmHandlerDatabaseSize (handles : List (IHandle width)) : Nat :=
  toUintn width (handles.map fun handle =>
    sizeofHandleRecord width + getSmmProtocolInterfacesSizeOnHandle handle).sum

def getSmmProtocolInterfacesSizeOnProtocolEntry (entry : ProtocolEntry width) : Nat :=
  toUintn width (entry.protocols.length * sizeofAddressStruct width)

def getSmmProtocolNotifySizeOnProtocolEntry (entry : ProtocolEntry width) : Nat :=
  toUintn width (entry.notify.length * sizeofAddressStruct width)

/-- The entries before the `break` at the tool's own entry, in both passes. -/
def dumpedProtocolEntries (env : Environment width) (entries : List (ProtocolEntry width)) :
    List (ProtocolEntry width) :=
  entries.takeWhile fun entry => entry.protocolId ≠ env.gEfiCallerIdGuid

def getSmmProtocolDatabaseSize (env : Environment width)
    (entries : List (ProtocolEntry width)) : Nat :=
  toUintn width ((dumpedProtocolEntries env entries).map fun entry =>
    sizeofProtocolRecord width + getSmmProtocolInterfacesSizeOnProtocolEntry entry +
      getSmmProtocolNotifySizeOnProtocolEntry entry).sum

def getSmmSmiHandlerSizeOnSmiEntry (entry : SmiEntry width) : Nat :=
  toUintn width (entry.smiHandlers.length * sizeofSmiHandlerStruct width)

def getSmmSmiDatabaseSize (entries : List (SmiEntry width)) : Nat :=
  toUintn width (entries.map fun entry =>
    sizeofSmiRecord width + getSmmSmiHandlerSizeOnSmiEntry entry).sum

def getSmmRootSmiDatabaseSize (handlers : List (SmiHandler width)) : Nat :=
  toUintn width (sizeofSmiRecord width + handlers.length * sizeofSmiHandlerStruct width)

/-- The other protocol types have size 0. -/
def smmChildGetDataSize : Option (List (ChildDispatchRecord width)) → Nat
  | none => 0
  | some records =>
      toUintn width (sizeofChildRecord width + records.length * sizeofChildSwStruct width)

/-- What `GetSmmCoreDatabaseSize` stores for the data pass. -/
structure DatabaseSizes where
  mSmmImageDatabaseSize : Nat
  mSmmHandlerDatabaseSize : Nat
  mSmmProtocolDatabaseSize : Nat
  mSmmSmiDatabaseSize : Nat
  mSmmRootSmiDatabaseSize : Nat
  mSmmChildDatabaseSize : Nat

def databaseSizes (env : Environment width) (state : SmmCoreState width) : DatabaseSizes where
  mSmmImageDatabaseSize := getSmmImageDatabaseSize state.mImageStruct
  mSmmHandlerDatabaseSize := getSmmHandlerDatabaseSize state.mSmmCoreHandleList
  mSmmProtocolDatabaseSize := getSmmProtocolDatabaseSize env state.mSmmCoreProtocolDatabase
  mSmmSmiDatabaseSize := getSmmSmiDatabaseSize state.mSmmCoreSmiEntryList
  mSmmRootSmiDatabaseSize := getSmmRootSmiDatabaseSize state.mSmmCoreRootSmiHandlerList
  mSmmChildDatabaseSize := smmChildGetDataSize state.mSmmChildCallbackDatabase

def getSmmCoreDatabaseSize (env : Environment width) (state : SmmCoreState width) : Nat :=
  let sizes := databaseSizes env state
  toUintn width (sizes.mSmmImageDatabaseSize + sizes.mSmmHandlerDatabaseSize +
    sizes.mSmmProtocolDatabaseSize + sizes.mSmmSmiDatabaseSize +
    sizes.mSmmRootSmiDatabaseSize + sizes.mSmmChildDatabaseSize)

end Sizes

/-! ## The loops of the data pass -/

section Loops

variable {Entry Source : Type}

/-- A loop over the entries of one record, with the size it got to. -/
def copyEntries (sizeofEntry : Nat) (encode : Entry → List UInt8) (maxSize : Nat) :
    List Entry → Nat → Nat → Memory → Memory × Nat
  | [], _, size, memory => (memory, size)
  | entry :: rest, position, size, memory =>
      if size ≥ maxSize then (memory, 0)
      else if sizeofEntry > maxSize - size then (memory, 0)
      else
        copyEntries sizeofEntry encode maxSize rest (position + sizeofEntry)
          (size + sizeofEntry) (memory.write position (encode entry))

/-- The same loop where the record's count (and length) is stored after each entry. -/
def copyCounted (sizeofEntry : Nat) (encode : Entry → List UInt8)
    (bump : Nat → Memory → Memory) (expectedSize : Nat) :
    List Entry → Nat → Nat → Nat → Memory → Memory × Nat
  | [], _, _, size, memory => (memory, size)
  | entry :: rest, position, count, size, memory =>
      if size ≥ expectedSize then (memory, 0)
      else if sizeofEntry > expectedSize - size then (memory, 0)
      else
        copyCounted sizeofEntry encode bump expectedSize rest (position + sizeofEntry)
          (count + 1) (size + sizeofEntry)
          (bump (count + 1) (memory.write position (encode entry)))

/-- What the body of a loop over records did: the bytes it counted and the Header.Length
it leaves. -/
structure Written where
  memory : Memory
  size : Nat
  length : Nat

/-- A loop over records; the next one is placed by the Header.Length of this one. -/
def copyRecords (sizeofRecord : Nat) (writeRecord : Source → Nat → Nat → Memory → Written)
    (expectedSize : Nat) : List Source → Nat → Nat → Memory → Memory × Nat
  | [], _, size, memory => (memory, if size ≠ expectedSize then 0 else size)
  | source :: rest, position, size, memory =>
      if size ≥ expectedSize then (memory, 0)
      else if sizeofRecord > expectedSize - size then (memory, 0)
      else
        let written := writeRecord source position (expectedSize - size) memory
        copyRecords sizeofRecord writeRecord expectedSize rest (position + written.length)
          (size + written.size) written.memory

end Loops

/-! ## The data pass -/

/-- HandlerCount and Header.Length of the root record after `count` handlers. -/
def bumpRootRecord (width position count : Nat) (memory : Memory) : Memory :=
  (memory.write (position + 32) (toBytes width count)).write (position + 4)
    (toBytes 4 (sizeofSmiRecord width + count * sizeofSmiHandlerStruct width))

def bumpChildRecord (width position count : Nat) (memory : Memory) : Memory :=
  memory.write (position + 28) (toBytes width count)

section Data

variable {width : Nat} (env : Environment width) (images : List (ImageStruct width))

def ImageStruct.record (image : ImageStruct width) : ImageRecord width where
  fileGuid := image.fileGuid
  nameString := image.nameString
  entryPoint := image.entryPoint
  imageBase := image.loadedImageBase
  imageSize := image.imageSize
  realImageBase := image.imageBase

def writeImages : List (ImageStruct width) → Nat → Memory → Memory
  | [], _, memory => memory
  | image :: rest, position, memory =>
      writeImages rest (position + sizeofImageRecord width)
        (memory.write position image.record.encode)

def getSmmImageDatabaseData (mImageStruct : List (ImageStruct width)) (data expectedSize : Nat)
    (memory : Memory) : Memory × Nat :=
  if expectedSize / sizeofImageRecord width ≠ mImageStruct.length then (memory, 0)
  else (writeImages mImageStruct data memory,
    toUintn width (sizeofImageRecord width * mImageStruct.length))

def ProtocolInterface.handleProtocol (entry : ProtocolInterface width) :
    HandleProtocolStruct width :=
  ⟨entry.protocolId, entry.interface,
    addressToImageRefEx env images entry.interface entry.protocolId⟩

def getSmmProtocolInterfacesDataOnHandle (handle : IHandle width) (data maxSize : Nat)
    (memory : Memory) : Memory × Nat :=
  copyEntries (sizeofHandleProtocolStruct width)
    (fun entry => (ProtocolInterface.handleProtocol env images entry).encode) maxSize
    handle.protocols data 0 memory

def writeHandle (handle : IHandle width) (position maxSize : Nat) (memory : Memory) :
    Written :=
  let memory := memory.write position
    (encodeHeader handleSignature (sizeofHandleRecord width) ++ encodeUintn handle.address)
  let (memory, protocolsSize) := getSmmProtocolInterfacesDataOnHandle env images handle
    (position + sizeofHandleRecord width) (maxSize - sizeofHandleRecord width) memory
  let protocolCount := protocolsSize / sizeofHandleProtocolStruct width
  let memory := memory.write (position + (12 + width)) (toBytes width protocolCount)
  let length := (sizeofHandleRecord width +
    protocolCount * sizeofHandleProtocolStruct width % 2 ^ 32) % 2 ^ 32
  ⟨memory.write (position + 4) (toBytes 4 length),
    sizeofHandleRecord width + protocolCount * sizeofHandleProtocolStruct width, length⟩

def getSmmHandlerDatabaseData (handles : List (IHandle width)) (data expectedSize : Nat)
    (memory : Memory) : Memory × Nat :=
  copyRecords (sizeofHandleRecord width) (writeHandle env images) expectedSize handles data 0
    memory

def ProtocolInterface.interfaceStruct (entry : ProtocolInterface width) :
    AddressStruct width :=
  ⟨entry.interface, addressToImageRefEx env images entry.interface entry.protocolId⟩

def getSmmProtocolInterfacesDataOnProtocolEntry (entry : ProtocolEntry width)
    (data maxSize : Nat) (memory : Memory) : Memory × Nat :=
  copyEntries (sizeofAddressStruct width)
    (fun protocol => (ProtocolInterface.interfaceStruct env images protocol).encode) maxSize
    entry.protocols data 0 memory

def notifyStruct (function : Uintn width) : AddressStruct width :=
  ⟨function, addressToImageRef images function⟩

def getSmmProtocolNotifyDataOnProtocolEntry (entry : ProtocolEntry width)
    (data maxSize : Nat) (memory : Memory) : Memory × Nat :=
  copyEntries (sizeofAddressStruct width) (fun function => (notifyStruct images function).encode)
    maxSize entry.notify data 0 memory

def writeProtocol (entry : ProtocolEntry width) (position maxSize : Nat) (memory : Memory) :
    Written :=
  let memory := memory.write position
    (encodeHeader protocolSignature (sizeofProtocolRecord width) ++ entry.protocolId.val)
  let size := sizeofProtocolRecord width
  let (memory, interfacesSize) := getSmmProtocolInterfacesDataOnProtocolEntry env images entry
    (position + sizeofProtocolRecord width) (maxSize - size) memory
  let interfaceCount := interfacesSize / sizeofAddressStruct width
  let memory := memory.write (position + 28) (toBytes width interfaceCount)
  let size := size + interfaceCount * sizeofAddressStruct width
  let length := (sizeofProtocolRecord width +
    interfaceCount * sizeofAddressStruct width % 2 ^ 32) % 2 ^ 32
  let memory := memory.write (position + 4) (toBytes 4 length)
  let (memory, notifiesSize) := getSmmProtocolNotifyDataOnProtocolEntry images entry
    (position + length) (maxSize - size) memory
  let notifyCount := notifiesSize / sizeofAddressStruct width
  let memory := memory.write (position + (28 + width)) (toBytes width notifyCount)
  let size := size + notifyCount * sizeofAddressStruct width
  let length := (length + notifyCount * sizeofAddressStruct width % 2 ^ 32) % 2 ^ 32
  ⟨memory.write (position + 4) (toBytes 4 length), size, length⟩

def getSmmProtocolDatabaseData (entries : List (ProtocolEntry width))
    (data expectedSize : Nat) (memory : Memory) : Memory × Nat :=
  copyRecords (sizeofProtocolRecord width) (writeProtocol env images) expectedSize
    (dumpedProtocolEntries env entries) data 0 memory

def SmiHandler.struct (handler : SmiHandler width) : SmiHandlerStruct width :=
  ⟨handler.address, handler.handler, addressToImageRef images handler.handler⟩

def getSmmSmiHandlerDataOnSmiEntry (entry : SmiEntry width) (data maxSize : Nat)
    (memory : Memory) : Memory × Nat :=
  copyEntries (sizeofSmiHandlerStruct width)
    (fun handler => (SmiHandler.struct images handler).encode) maxSize entry.smiHandlers data 0
    memory

def writeSmi (entry : SmiEntry width) (position maxSize : Nat) (memory : Memory) : Written :=
  let memory := memory.write position
    (encodeHeader smiSignature (sizeofSmiRecord width) ++ toBytes 1 false.toNat)
  let memory := memory.write (position + 16) entry.handlerType.val
  let (memory, handlersSize) := getSmmSmiHandlerDataOnSmiEntry images entry
    (position + sizeofSmiRecord width) (maxSize - sizeofSmiRecord width) memory
  let handlerCount := handlersSize / sizeofSmiHandlerStruct width
  let memory := memory.write (position + 32) (toBytes width handlerCount)
  let length := (sizeofSmiRecord width +
    handlerCount * sizeofSmiHandlerStruct width % 2 ^ 32) % 2 ^ 32
  ⟨memory.write (position + 4) (toBytes 4 length),
    sizeofSmiRecord width + handlerCount * sizeofSmiHandlerStruct width, length⟩

def getSmmSmiDatabaseData (entries : List (SmiEntry width)) (data expectedSize : Nat)
    (memory : Memory) : Memory × Nat :=
  copyRecords (sizeofSmiRecord width) (writeSmi images) expectedSize entries data 0 memory

def getSmmRootSmiDatabaseData (handlers : List (SmiHandler width)) (data expectedSize : Nat)
    (memory : Memory) : Memory × Nat :=
  let memory := memory.write data
    (encodeHeader smiSignature (sizeofSmiRecord width) ++ toBytes 1 true.toNat)
  let memory := memory.write (data + 16) (List.replicate 16 0)
  let memory := memory.write (data + 32) (toBytes width 0)
  let (memory, size) := copyCounted (sizeofSmiHandlerStruct width)
    (fun handler => (SmiHandler.struct images handler).encode)
    (bumpRootRecord width data) expectedSize handlers
    (data + sizeofSmiRecord width) 0 (sizeofSmiRecord width) memory
  (memory, if expectedSize ≠ size then 0 else size)

def ChildDispatchRecord.struct (record : ChildDispatchRecord width) : ChildSwStruct width :=
  ⟨record.link, record.dispatchFunction, addressToImageRef images record.dispatchFunction,
    record.swSmiInputValue⟩

/-- The record for the one protocol type there is; Header.Length is stored last, also where
the size does not match. -/
def getSmmChildCallbackDatabaseData (records : List (ChildDispatchRecord width))
    (data expectedSize : Nat) (memory : Memory) : Memory × Nat :=
  if expectedSize < sizeofChildRecord width then (memory, 0)
  else
    let memory := memory.write data (toBytes 4 childSmiSignature)
    let memory := memory.write (data + 8) (toBytes 4 1)
    let memory := memory.write (data + 12) env.gEfiSmmSwDispatch2ProtocolGuid.val
    let memory := memory.write (data + 28) (toBytes width 0)
    let (memory, size) := copyCounted (sizeofChildSwStruct width)
      (fun record => (ChildDispatchRecord.struct images record).encode)
      (bumpChildRecord width data) expectedSize records (data + sizeofChildRecord width) 0
      (sizeofChildRecord width) memory
    if size = 0 then (memory, 0)
    else (memory.write (data + 4) (toBytes 4 size), if size ≠ expectedSize then 0 else size)

/-- The status of `SmmChildGetData` is not looked at. -/
def smmChildGetData (records : Option (List (ChildDispatchRecord width)))
    (size data : Nat) (memory : Memory) : Memory :=
  match records with
  | none => memory
  | some records => (getSmmChildCallbackDatabaseData env images records data size memory).1

/-- Whether the status is `EFI_SUCCESS`, and the memory. -/
def getSmmCoreDatabaseData (state : SmmCoreState width) (sizes : DatabaseSizes) (data : Nat)
    (memory : Memory) : Bool × Memory :=
  let images := state.mImageStruct
  let (memory, imageSize) :=
    getSmmImageDatabaseData images data sizes.mSmmImageDatabaseSize memory
  if imageSize ≠ sizes.mSmmImageDatabaseSize then (false, memory)
  else
    let (memory, handlerSize) := getSmmHandlerDatabaseData env images state.mSmmCoreHandleList
      (data + imageSize) sizes.mSmmHandlerDatabaseSize memory
    if handlerSize ≠ sizes.mSmmHandlerDatabaseSize then (false, memory)
    else
      let (memory, protocolSize) := getSmmProtocolDatabaseData env images
        state.mSmmCoreProtocolDatabase (data + imageSize + handlerSize)
        sizes.mSmmProtocolDatabaseSize memory
      if protocolSize ≠ sizes.mSmmProtocolDatabaseSize then (false, memory)
      else
        let (memory, smiSize) := getSmmSmiDatabaseData images state.mSmmCoreSmiEntryList
          (data + imageSize + handlerSize + protocolSize) sizes.mSmmSmiDatabaseSize memory
        if smiSize ≠ sizes.mSmmSmiDatabaseSize then (false, memory)
        else
          let (memory, rootSmiSize) := getSmmRootSmiDatabaseData images
            state.mSmmCoreRootSmiHandlerList
            (data + imageSize + handlerSize + protocolSize + smiSize)
            sizes.mSmmRootSmiDatabaseSize memory
          if rootSmiSize ≠ sizes.mSmmRootSmiDatabaseSize then (false, memory)
          else if sizes.mSmmChildDatabaseSize ≠ 0 then
            (true, smmChildGetData env images state.mSmmChildCallbackDatabase
              sizes.mSmmChildDatabaseSize
              (data + imageSize + handlerSize + protocolSize + smiSize +
                sizes.mSmmRootSmiDatabaseSize) memory)
          else (true, memory)

end Data

end AppEfi.SmmCore
