import AppEfi.SmmCore.DatabaseData
import AppEfi.SmmCore.WalkedRecords

/-!
# From the handler's lists to the app's lines

The two halves meet at the list of records: the data pass writes its bytes, and a
walk over its bytes sees the records one after the other.
-/

set_option autoImplicit false

namespace AppEfi.SmmCore

open AppEfi.LittleEndian
open AppEfi.RecordWalk

/-! ## Image names -/

section Names

variable {width : Nat} (env : Environment width) (images : List (ImageStruct width))

def imageAt (address : Uintn width) : Option (ImageStruct width) :=
  images.find? fun image => image.contains address

/-- The image of an interface: the one its address lies in, else the one of the function
that `mProtocolFuncStruct` picks from it. -/
def imageOfInterface (address : Uintn width) (protocol : Guid) : Option (ImageStruct width) :=
  (imageAt images address).or
    ((env.mProtocolFuncStruct.find? fun entry => entry.1 = protocol).bind fun entry =>
      imageAt images (env.load (uintn width (address.val + entry.2)).val))

def imageName : Option (ImageStruct width) → List UInt16
  | none => unknownName
  | some image => image.nameString.characters

def imageTable : ImageTable width where
  mImageStruct := (images.map ImageStruct.record).map ImageRecord.imageStruct
  mImageStructCount := images.length

variable {images}

theorem addressToImageRef_of_imageAt (images : List (ImageStruct width)) (address : Uintn width) :
    (imageAt images address = none ∧
        addressToImageRef images address = uintn width (256 ^ width - 1)) ∨
      ∃ index image, images[index]? = some image ∧ imageAt images address = some image ∧
        addressToImageRef images address = uintn width index := by
  rw [addressToImageRef, imageAt]
  cases found : images.findIdx? fun image => image.contains address with
  | none =>
      refine Or.inl ⟨List.find?_eq_none.mpr fun image member => ?_, rfl⟩
      simpa using List.findIdx?_eq_none_iff.mp found image member
  | some index =>
      obtain ⟨bound, holds, earlier⟩ := List.findIdx?_eq_some_iff_getElem.mp found
      refine Or.inr ⟨index, images[index], List.getElem?_eq_getElem bound, ?_, rfl⟩
      exact List.find?_eq_some_iff_getElem.mpr ⟨holds, index, bound, rfl, fun other before => by
        simpa using earlier other before⟩

/-- The reference for an address resolves, in the table of the app, to the name of the image
that the address lies in. -/
theorem getImageRefName_addressToImageRef (few : images.length < 256 ^ width)
    (address : Uintn width) :
    (imageTable images).getImageRefName (addressToImageRef images address) =
      imageName (imageAt images address) := by
  rcases addressToImageRef_of_imageAt images address with ⟨nowhere, unknown⟩ |
    ⟨index, image, there, found, reference⟩
  · have beyond : images.length ≤ (uintn width (256 ^ width - 1)).val := by
      rw [val_uintn (by omega)]
      omega
    rw [nowhere, unknown, ImageTable.getImageRefName, imageTable,
      List.getElem?_eq_none (by simpa using beyond)]
    rfl
  · have bound := (List.getElem?_eq_some_iff.mp there).1
    rw [found, reference, ImageTable.getImageRefName, imageTable, val_uintn (by omega),
      List.getElem?_map, List.getElem?_map, there]
    rfl

theorem getImageRefName_addressToImageRefEx (few : images.length < 256 ^ width)
    (address : Uintn width) (protocol : Guid) :
    (imageTable images).getImageRefName (addressToImageRefEx env images address protocol) =
      imageName (imageOfInterface env images address protocol) := by
  have direct := getImageRefName_addressToImageRef few address
  rw [addressToImageRefEx, imageOfInterface]
  rcases addressToImageRef_of_imageAt images address with ⟨nowhere, unknown⟩ |
    ⟨index, image, there, found, reference⟩
  · rw [unknown, if_neg (not_not.mpr rfl), nowhere, Option.none_or]
    cases env.mProtocolFuncStruct.find? fun entry => entry.1 = protocol with
    | none => rw [Option.bind_none, ← nowhere, ← direct, unknown]
    | some entry => exact getImageRefName_addressToImageRef few _
  · have bound := (List.getElem?_eq_some_iff.mp there).1
    have known : uintn width index ≠ uintn width (256 ^ width - 1) := by
      intro same
      have values := congrArg Fin.val same
      rw [val_uintn (by omega), val_uintn (by omega)] at values
      omega
    rw [reference, if_pos known, ← reference, direct, found, Option.some_or]

end Names

/-! ## The lines of a state's records -/

section Lines

variable {width : Nat} (env : Environment width) (state : SmmCoreState width)

theorem flatMap_nothing {Source Line : Type} (sources : List Source) :
    sources.flatMap (fun _ => ([] : List Line)) = [] :=
  List.flatMap_eq_nil_iff.mpr fun _ _ => rfl

theorem flatMap_records {Line : Type} (lines : DatabaseRecord width → List Line)
    (ofChild : ∀ record, lines (.child record) = []) :
    (state.records env).flatMap lines =
      state.mImageStruct.flatMap (fun image => lines (.image image.record)) ++
      state.mSmmCoreHandleList.flatMap
        (fun handle => lines (.handle (handle.record env state.mImageStruct))) ++
      (dumpedProtocolEntries env state.mSmmCoreProtocolDatabase).flatMap
        (fun entry => lines (.protocol (entry.record env state.mImageStruct))) ++
      state.mSmmCoreSmiEntryList.flatMap
        (fun entry => lines (.smi (entry.record state.mImageStruct noBytes))) ++
      lines (.smi (rootRecord state.mImageStruct noBytes state.mSmmCoreRootSmiHandlerList)) := by
  simp only [SmmCoreState.records, List.flatMap_append, List.flatMap_map, List.flatMap_singleton]
  cases state.mSmmChildCallbackDatabase with
  | none => exact List.append_nil _
  | some records =>
      rw [Option.map_some, Option.toList_some, List.flatMap_singleton, ofChild, List.append_nil]

theorem images_records :
    (state.records env).flatMap DatabaseRecord.images =
      state.mImageStruct.map ImageStruct.record := by
  rw [flatMap_records env state _ fun _ => rfl]
  simp only [DatabaseRecord.images, flatMap_nothing, List.append_nil, List.map_eq_flatMap]

theorem handleLines_records (table : ImageTable width) :
    (state.records env).flatMap (DatabaseRecord.handleLines table) =
      state.mSmmCoreHandleList.map fun handle =>
        (handle.record env state.mImageStruct).printed table := by
  rw [flatMap_records env state _ fun _ => rfl]
  simp only [DatabaseRecord.handleLines, flatMap_nothing, List.append_nil, List.nil_append,
    List.map_eq_flatMap]

theorem protocolLines_records (table : ImageTable width) :
    (state.records env).flatMap (DatabaseRecord.protocolLines table) =
      (dumpedProtocolEntries env state.mSmmCoreProtocolDatabase).map fun entry =>
        (entry.record env state.mImageStruct).printed table := by
  rw [flatMap_records env state _ fun _ => rfl]
  simp only [DatabaseRecord.protocolLines, flatMap_nothing, List.append_nil, List.nil_append,
    List.map_eq_flatMap]

theorem smiLines_records (table : ImageTable width) :
    (state.records env).flatMap (DatabaseRecord.smiLines table) =
      state.mSmmCoreSmiEntryList.map fun entry =>
        ⟨entry.handlerType, (entry.record state.mImageStruct noBytes).handlers.map
          (SmiHandlerStruct.printed table)⟩ := by
  rw [flatMap_records env state _ fun _ => rfl]
  simp only [DatabaseRecord.smiLines, SmiEntry.record, rootRecord, flatMap_nothing,
    List.append_nil, List.nil_append, List.map_eq_flatMap, if_true, Bool.false_eq_true, if_false]

theorem rootLines_records (table : ImageTable width) :
    (state.records env).flatMap (DatabaseRecord.rootLines table) =
      (rootRecord state.mImageStruct noBytes state.mSmmCoreRootSmiHandlerList).handlers.map
        (SmiHandlerStruct.printed table) := by
  rw [flatMap_records env state _ fun _ => rfl]
  simp only [DatabaseRecord.rootLines, SmiEntry.record, rootRecord, flatMap_nothing,
    List.nil_append, if_true, Bool.false_eq_true, if_false]

end Lines

/-! ## The round trip -/

section RoundTrip

variable {width : Nat} (env : Environment width) (images : List (ImageStruct width))

def printedAt (address : Uintn width) (image : Option (ImageStruct width)) :
    PrintedAddress width where
  address := address
  imageName :=
    if address.val ≠ 0 ∧ imageName image ≠ unknownName then some (imageName image) else none

def IHandle.printed (handle : IHandle width) : PrintedHandle width where
  handle := handle.address
  protocols := handle.protocols.map fun protocol =>
    (protocol.protocolId, printedAt protocol.interface
      (imageOfInterface env images protocol.interface protocol.protocolId))

def ProtocolEntry.printed (entry : ProtocolEntry width) : PrintedProtocol width where
  guid := entry.protocolId
  interfaces := entry.protocols.map fun protocol => printedAt protocol.interface
    (imageOfInterface env images protocol.interface protocol.protocolId)
  notifies := entry.notify.map fun function => printedAt function (imageAt images function)

def SmiHandler.printed (handler : SmiHandler width) : PrintedSmiHandler width where
  smiHandle := handler.address
  handler := printedAt handler.handler (imageAt images handler.handler)

def SmiEntry.printed (entry : SmiEntry width) : PrintedSmiEntry width where
  handlerType := entry.handlerType
  handlers := entry.smiHandlers.map (SmiHandler.printed images)

variable (state : SmmCoreState width)

/-- The walkers of the app over `mSmmCoreDatabase` find what the handler dumped, each up to
the end of the buffer, and every reference resolves. -/
structure Recovered (memory : Memory) (mSmmCoreDatabase mSmmCoreDatabaseSize fuel : Nat)
    (protocols : List (ProtocolEntry width)) (table : ImageTable width) : Prop where
  images : dumpSmmLoadedImage memory true mSmmCoreDatabase mSmmCoreDatabaseSize fuel =
    some (state.mImageStruct.map ImageStruct.record, table,
      mSmmCoreDatabase + mSmmCoreDatabaseSize)
  handles : dumpHandleDatabase memory table mSmmCoreDatabase mSmmCoreDatabaseSize fuel =
    some (state.mSmmCoreHandleList.map (IHandle.printed env state.mImageStruct),
      mSmmCoreDatabase + mSmmCoreDatabaseSize)
  protocols : dumpProtocolDatabase memory table mSmmCoreDatabase mSmmCoreDatabaseSize fuel =
    some (protocols.map (ProtocolEntry.printed env state.mImageStruct),
      mSmmCoreDatabase + mSmmCoreDatabaseSize)
  smiHandlers : dumpSmiHandler memory table mSmmCoreDatabase mSmmCoreDatabaseSize fuel =
    some (state.mSmmCoreSmiEntryList.map (SmiEntry.printed state.mImageStruct),
      mSmmCoreDatabase + mSmmCoreDatabaseSize)
  rootSmiHandlers : dumpRootSmiHandler memory table mSmmCoreDatabase mSmmCoreDatabaseSize fuel =
    some (state.mSmmCoreRootSmiHandlerList.map (SmiHandler.printed state.mImageStruct),
      mSmmCoreDatabase + mSmmCoreDatabaseSize)
  imageRef : ∀ address,
    table.getImageRefName (addressToImageRef state.mImageStruct address) =
      imageName (imageAt state.mImageStruct address)
  imageRefEx : ∀ address protocol,
    table.getImageRefName (addressToImageRefEx env state.mImageStruct address protocol) =
      imageName (imageOfInterface env state.mImageStruct address protocol)

variable {state}

theorem SmmCoreState.Fits.few (fits : state.Fits env) :
    state.mImageStruct.length < 256 ^ width := by
  have atMost := length_le_total DatabaseRecord.size (state.records env) fun record _ =>
    Nat.lt_of_lt_of_le (by decide) record.size_pos
  have total := fits.total
  have more : state.mImageStruct.length ≤ (state.records env).length := by
    simp only [SmmCoreState.records, List.length_append, List.length_map]
    omega
  rw [RecordWalk.total] at atMost
  omega

theorem flatMap_of_clearReserved {Line : Type} (lines : DatabaseRecord width → List Line)
    {written records : List (DatabaseRecord width)}
    (same : written.map DatabaseRecord.clearReserved = records)
    (ignores : ∀ record, lines record.clearReserved = lines record) :
    written.flatMap lines = records.flatMap lines := by
  rw [← same, List.flatMap_map]
  simp only [ignores]

theorem short_of_clearReserved (fits : state.Fits env)
    {written : List (DatabaseRecord width)}
    (same : written.map DatabaseRecord.clearReserved = state.records env) :
    ∀ record ∈ written, record.size < 2 ^ 32 := by
  intro record member
  rw [← record.size_clearReserved]
  exact fits.length _ (same ▸ List.mem_map_of_mem member)

theorem recovered_of_holds (uintn : width = 4 ∨ width = 8) (fits : state.Fits env)
    {written : List (DatabaseRecord width)}
    (same : written.map DatabaseRecord.clearReserved = state.records env)
    {memory : Memory} {mSmmCoreDatabase fuel : Nat}
    (held : memory.Holds mSmmCoreDatabase (written.flatMap DatabaseRecord.encode))
    (enough : (written.flatMap DatabaseRecord.encode).length ≤ fuel) :
    Recovered env state memory mSmmCoreDatabase
      (written.flatMap DatabaseRecord.encode).length fuel
      (dumpedProtocolEntries env state.mSmmCoreProtocolDatabase)
      (imageTable state.mImageStruct) := by
  have buffer : HoldsRecords memory mSmmCoreDatabase fuel written :=
    ⟨uintn, held, short_of_clearReserved env fits same, enough⟩
  have imageRef := getImageRefName_addressToImageRef (SmmCoreState.Fits.few env fits)
  have imageRefEx := getImageRefName_addressToImageRefEx env (SmmCoreState.Fits.few env fits)
  have print : ∀ address, (imageTable state.mImageStruct).print address
      (addressToImageRef state.mImageStruct address) =
        printedAt address (imageAt state.mImageStruct address) := by
    intro address
    rw [ImageTable.print, imageRef, printedAt]
  have printEx : ∀ address protocol, (imageTable state.mImageStruct).print address
      (addressToImageRefEx env state.mImageStruct address protocol) =
        printedAt address (imageOfInterface env state.mImageStruct address protocol) := by
    intro address protocol
    rw [ImageTable.print, imageRefEx, printedAt]
  refine ⟨?_, ?_, ?_, ?_, ?_, imageRef, imageRefEx⟩
  · have found := flatMap_of_clearReserved DatabaseRecord.images same
      fun record => by cases record <;> rfl
    rw [dumpSmmLoadedImage_of_holds buffer, found, images_records, List.length_map]
    rfl
  · have lines := flatMap_of_clearReserved
      (DatabaseRecord.handleLines (imageTable state.mImageStruct)) same
      fun record => by cases record <;> rfl
    rw [dumpHandleDatabase_of_holds _ buffer, lines, handleLines_records]
    simp only [HandleRecord.printed, IHandle.record, List.map_map, Function.comp_def,
      ProtocolInterface.handleProtocol, printEx]
    rfl
  · have lines := flatMap_of_clearReserved
      (DatabaseRecord.protocolLines (imageTable state.mImageStruct)) same
      fun record => by cases record <;> rfl
    rw [dumpProtocolDatabase_of_holds _ buffer, lines, protocolLines_records]
    simp only [ProtocolRecord.printed, ProtocolEntry.record, List.map_map, Function.comp_def,
      AddressStruct.printed, ProtocolInterface.interfaceStruct, notifyStruct, print, printEx]
    rfl
  · have lines := flatMap_of_clearReserved
      (DatabaseRecord.smiLines (imageTable state.mImageStruct)) same
      fun record => by cases record <;> rfl
    rw [dumpSmiHandler_of_holds _ buffer, lines, smiLines_records]
    simp only [SmiEntry.record, List.map_map, Function.comp_def, SmiHandlerStruct.printed,
      SmiHandler.struct, print]
    rfl
  · have lines := flatMap_of_clearReserved
      (DatabaseRecord.rootLines (imageTable state.mImageStruct)) same
      fun record => by cases record <;> rfl
    rw [dumpRootSmiHandler_of_holds _ buffer, lines, rootLines_records]
    simp only [rootRecord, List.map_map, Function.comp_def, SmiHandlerStruct.printed,
      SmiHandler.struct, print]
    rfl

/-- No other protocol follows the tool's own entry. -/
def SmmCoreState.OwnEntryLast (state : SmmCoreState width) : Prop :=
  ∀ entry ∈ state.mSmmCoreProtocolDatabase.dropWhile fun entry =>
      entry.protocolId ≠ env.gEfiCallerIdGuid,
    entry.protocolId = env.gEfiCallerIdGuid

def otherProtocolEntries (entries : List (ProtocolEntry width)) : List (ProtocolEntry width) :=
  entries.filter fun entry => entry.protocolId ≠ env.gEfiCallerIdGuid

theorem dumpedProtocolEntries_eq (last : state.OwnEntryLast env) :
    dumpedProtocolEntries env state.mSmmCoreProtocolDatabase =
      otherProtocolEntries env state.mSmmCoreProtocolDatabase := by
  have kept : otherProtocolEntries env
      (dumpedProtocolEntries env state.mSmmCoreProtocolDatabase) =
        dumpedProtocolEntries env state.mSmmCoreProtocolDatabase :=
    List.filter_eq_self.mpr fun entry member => by
      have other := List.mem_takeWhile_imp member
      exact other
  have dropped : otherProtocolEntries env (state.mSmmCoreProtocolDatabase.dropWhile fun entry =>
      entry.protocolId ≠ env.gEfiCallerIdGuid) = [] :=
    List.filter_eq_nil_iff.mpr fun entry member => by simpa using last entry member
  calc dumpedProtocolEntries env state.mSmmCoreProtocolDatabase
      = otherProtocolEntries env (dumpedProtocolEntries env state.mSmmCoreProtocolDatabase) ++
          otherProtocolEntries env (state.mSmmCoreProtocolDatabase.dropWhile fun entry =>
            entry.protocolId ≠ env.gEfiCallerIdGuid) := by rw [kept, dropped, List.append_nil]
    _ = otherProtocolEntries env (dumpedProtocolEntries env state.mSmmCoreProtocolDatabase ++
          state.mSmmCoreProtocolDatabase.dropWhile fun entry =>
            entry.protocolId ≠ env.gEfiCallerIdGuid) :=
        (List.filter_append _ _).symm
    _ = otherProtocolEntries env state.mSmmCoreProtocolDatabase := by
        rw [dumpedProtocolEntries, List.takeWhile_append_dropWhile]

/-- The data pass succeeds and is one write of as many bytes as the size pass said, and from
any memory that holds them the walkers of the app recover the state. -/
theorem getSmmCoreDatabaseData_roundTrip (uintn : width = 4 ∨ width = 8)
    (fits : state.Fits env) (last : state.OwnEntryLast env) (data : Nat) (memory : Memory) :
    ∃ bytes : List UInt8,
      getSmmCoreDatabaseData env state (databaseSizes env state) data memory =
          (true, memory.write data bytes) ∧
        bytes.length = getSmmCoreDatabaseSize env state ∧
        ∀ (appMemory : Memory) (mSmmCoreDatabase fuel : Nat),
          appMemory.Holds mSmmCoreDatabase bytes → bytes.length ≤ fuel →
            ∃ table, Recovered env state appMemory mSmmCoreDatabase bytes.length fuel
              (otherProtocolEntries env state.mSmmCoreProtocolDatabase) table := by
  have positive : 0 < width := by omega
  obtain ⟨written, same, wrote⟩ := getSmmCoreDatabaseData_eq env state positive fits data memory
  refine ⟨written.flatMap DatabaseRecord.encode, wrote, ?_, ?_⟩
  · rw [length_of_clearReserved same, getSmmCoreDatabaseSize_eq env state fits]
  · intro appMemory mSmmCoreDatabase fuel held enough
    rw [← dumpedProtocolEntries_eq env last]
    exact ⟨_, recovered_of_holds env uintn fits same held enough⟩

end RoundTrip

/-! ## Concrete states -/

section Concrete

def guidOf (byte : UInt8) : Guid := ⟨List.replicate 16 byte, List.length_replicate⟩

def environment : Environment 8 where
  gEfiCallerIdGuid := guidOf 1
  gEfiSmmSwDispatch2ProtocolGuid := guidOf 2
  mProtocolFuncStruct := [(guidOf 3, 8)]
  load := fun _ => uintn 8 0x1010

def imageA : ImageStruct 8 where
  fileGuid := guidOf 4
  entryPoint := uintn 8 0x1004
  imageBase := uintn 8 0x1000
  imageSize := uintn 8 0x100
  loadedImageBase := uintn 8 0x9000
  nameString := ⟨[65], by decide, by decide⟩

/-- A record of every kind, and the tool's own protocol behind the others. -/
def oneOfEach : SmmCoreState 8 where
  mImageStruct := [imageA]
  mSmmCoreHandleList := [⟨uintn 8 0x50, [⟨guidOf 3, uintn 8 0x7000⟩]⟩]
  mSmmCoreProtocolDatabase :=
    [⟨guidOf 3, [⟨guidOf 3, uintn 8 0x7000⟩], [uintn 8 0x1020]⟩, ⟨guidOf 1, [], []⟩]
  mSmmCoreSmiEntryList := [⟨guidOf 5, [⟨uintn 8 0x60, uintn 8 0x1030⟩]⟩]
  mSmmCoreRootSmiHandlerList := [⟨uintn 8 0x68, uintn 8 0x1040⟩]
  mSmmChildCallbackDatabase := some [⟨uintn 8 0x70, uintn 8 0x1050, uintn 8 0x2A⟩]

theorem getSmmCoreDatabaseData_roundTrip_oneOfEach :
    oneOfEach.Fits environment ∧ oneOfEach.OwnEntryLast environment ∧
      ∃ bytes : List UInt8,
        getSmmCoreDatabaseData environment oneOfEach (databaseSizes environment oneOfEach) 0
            (fun _ => 0) = (true, Memory.write (fun _ => 0) 0 bytes) ∧
          bytes.length = getSmmCoreDatabaseSize environment oneOfEach ∧
          ∀ (appMemory : Memory) (mSmmCoreDatabase fuel : Nat),
            appMemory.Holds mSmmCoreDatabase bytes → bytes.length ≤ fuel →
              ∃ table, Recovered environment oneOfEach appMemory mSmmCoreDatabase bytes.length
                fuel (otherProtocolEntries environment oneOfEach.mSmmCoreProtocolDatabase)
                table := by
  have fits : oneOfEach.Fits environment := ⟨by decide, by decide⟩
  have last : oneOfEach.OwnEntryLast environment := by
    unfold SmmCoreState.OwnEntryLast
    decide
  exact ⟨fits, last,
    getSmmCoreDatabaseData_roundTrip environment (Or.inr rfl) fits last 0 fun _ => 0⟩

def ownEntryOnly : SmmCoreState 8 where
  mImageStruct := [imageA]
  mSmmCoreHandleList := []
  mSmmCoreProtocolDatabase := [⟨guidOf 1, [], []⟩]
  mSmmCoreSmiEntryList := []
  mSmmCoreRootSmiHandlerList := []
  mSmmChildCallbackDatabase := none

def handleWith (count : Nat) : IHandle 8 :=
  ⟨uintn 8 0x50, List.replicate count ⟨guidOf 0, uintn 8 0x7000⟩⟩

def manyProtocols (count : Nat) : SmmCoreState 8 where
  mImageStruct := []
  mSmmCoreHandleList := [handleWith count]
  mSmmCoreProtocolDatabase := []
  mSmmCoreSmiEntryList := []
  mSmmCoreRootSmiHandlerList := []
  mSmmChildCallbackDatabase := none

theorem size_handleWith (count : Nat) :
    ((handleWith count).record environment []).size = 28 + count * 32 := by
  simp [HandleRecord.size, IHandle.record, handleWith, sizeofHandleRecord,
    sizeofHandleProtocolStruct]

theorem databaseSizes_manyProtocols (count : Nat) (fits : 28 + count * 32 + 40 < 256 ^ 8) :
    databaseSizes environment (manyProtocols count) = ⟨0, 28 + count * 32, 0, 0, 40, 0⟩ := by
  have handlerSize : getSmmHandlerDatabaseSize [handleWith count] = 28 + count * 32 := by
    simp only [getSmmHandlerDatabaseSize, getSmmProtocolInterfacesSizeOnHandle, handleWith,
      List.length_replicate, List.map_cons, List.map_nil, List.sum_cons, List.sum_nil,
      sizeofHandleRecord, sizeofHandleProtocolStruct, Nat.reduceAdd, Nat.reduceMul]
    rw [@toUintn_of_lt 8 (count * 32) (by omega), toUintn_of_lt (by omega)]
    omega
  rw [databaseSizes, manyProtocols, handlerSize]
  rfl

theorem getSmmCoreDatabaseData_manyProtocols (count : Nat)
    (fits : 28 + count * 32 + 40 < 256 ^ 8) (memory : Memory) :
    ∃ after : Memory, getSmmCoreDatabaseData environment (manyProtocols count)
        (databaseSizes environment (manyProtocols count)) 0 memory = (true, after) ∧
      after.Holds 0 ((handleWith count).record environment []).encode := by
  have size := size_handleWith count
  have handlerPass : getSmmHandlerDatabaseData environment [] [handleWith count] (0 + 0)
      (28 + count * 32) memory =
      (memory.write 0 ((handleWith count).record environment []).encode, 28 + count * 32) := by
    rw [getSmmHandlerDatabaseData, copyRecords, if_neg (by omega),
      if_neg (by rw [sizeofHandleRecord]; omega),
      writeHandle_eq environment [] (by decide) _ _ _ _ (by omega)]
    simp only [copyRecords, size, Nat.zero_add, ne_eq, not_true_eq_false, if_false]
  have imagePass : getSmmImageDatabaseData ([] : List (ImageStruct 8)) 0 0 memory =
    (memory, 0) := rfl
  have protocolPass : ∀ data memory, getSmmProtocolDatabaseData environment [] [] data 0 memory =
    (memory, 0) := fun _ _ => rfl
  have smiPass : ∀ data memory, getSmmSmiDatabaseData ([] : List (ImageStruct 8)) [] data 0 memory =
    (memory, 0) := fun _ _ => rfl
  have rootPass := fun data memory => getSmmRootSmiDatabaseData_eq ([] : List (ImageStruct 8))
    (by decide) [] data memory
  have rootSize : (rootRecord ([] : List (ImageStruct 8)) noBytes []).size = 40 := rfl
  rw [rootSize] at rootPass
  refine ⟨_, by
    simp only [getSmmCoreDatabaseData, databaseSizes_manyProtocols count fits]
    simp only [manyProtocols, imagePass, handlerPass, protocolPass, smiPass, rootPass,
      ne_eq, not_true_eq_false, if_false]
    exact rfl, ?_⟩
  refine Memory.holds_write_of_disjoint (Memory.holds_write _ _ _) (Or.inl ?_)
  have length := (DatabaseRecord.handle ((handleWith count).record environment [])).length_encode
  rw [DatabaseRecord.encode, DatabaseRecord.size, size] at length
  omega
theorem walkDatabase_manyProtocols {count : Nat} (positive : 0 < count)
    (multiple : count * 32 % 2 ^ 32 = 0) {memory : Memory}
    (held : memory.Holds 0 ((handleWith count).record environment []).encode)
    {State : Type} (body : State → Nat → State) (mSmmCoreDatabaseSize fuel : Nat)
    (state : State) (inside : 28 < mSmmCoreDatabaseSize) :
    walkDatabase memory body 0 mSmmCoreDatabaseSize fuel state = none := by
  -- The length of the handle loses the bytes of its protocols.
  have first : memory.readLe 4 4 = 28 := by
    have header := (@DatabaseRecord.holds_header 8 memory 0
      (.handle ((handleWith count).record environment [])) held).2
    rw [DatabaseRecord.size, size_handleWith, Nat.zero_add] at header
    rw [Memory.readLe, header.bytesAt_eq (length_toBytes _ _), ofBytes_toBytes]
    omega
  -- The walk goes on at the first of them, whose GUID is zero.
  have second : memory.readLe 32 4 = 0 := by
    obtain ⟨rest, rfl⟩ : ∃ rest, count = rest + 1 := ⟨count - 1, by omega⟩
    simp only [HandleRecord.encode, Memory.holds_append, List.length_append,
      length_encodeHeader, length_encodeUintn, length_toBytes, IHandle.record, handleWith,
      List.replicate_succ, List.map_cons, List.flatMap_cons, HandleProtocolStruct.encode,
      ProtocolInterface.handleProtocol] at held
    have guid : memory.Holds 28 (guidOf 0).val := held.2.1.1.1
    have split : (guidOf 0).val = toBytes 4 0 ++ (toBytes 4 0 ++ List.replicate 8 0) := by
      decide
    rw [split, Memory.holds_append, Memory.holds_append] at guid
    exact guid.2.1.readLe_eq (by decide)
  have stuck : ∀ fuel state,
      whileLoop (fun position => decide (position < mSmmCoreDatabaseSize))
        (fun position => position + memory.readLe (position + 4) 4) body fuel 28 state = none :=
    fun fuel state => whileLoop_stuck _ _ _ _ _ _ (decide_eq_true inside)
      (by rw [second, Nat.add_zero])
  have runs : decide (0 < mSmmCoreDatabaseSize) = true := decide_eq_true (by omega)
  rw [walkDatabase, Nat.zero_add]
  cases fuel with
  | zero => rw [whileLoop, if_pos runs]
  | succ fuel =>
      rw [whileLoop, if_pos runs, Nat.zero_add, first]
      exact stuck fuel _

/-- Without the tool's own protocol, without an end where a handle is longer than its
Header.Length says, and without the images where the app gets no memory for its table. -/
theorem getSmmCoreDatabaseData_roundTrip_fails :
    (∀ fuel table, getSmmCoreDatabaseSize environment ownEntryOnly ≤ fuel →
      ¬ Recovered environment ownEntryOnly
        (getSmmCoreDatabaseData environment ownEntryOnly
          (databaseSizes environment ownEntryOnly) 0 fun _ => 0).2 0
        (getSmmCoreDatabaseSize environment ownEntryOnly) fuel
        ownEntryOnly.mSmmCoreProtocolDatabase table) ∧
    (∀ fuel table, ¬ Recovered environment (manyProtocols (2 ^ 27))
        (getSmmCoreDatabaseData environment (manyProtocols (2 ^ 27))
          (databaseSizes environment (manyProtocols (2 ^ 27))) 0 fun _ => 0).2 0
        (getSmmCoreDatabaseSize environment (manyProtocols (2 ^ 27))) fuel
        (manyProtocols (2 ^ 27)).mSmmCoreProtocolDatabase table) ∧
    ∀ fuel table position,
      dumpSmmLoadedImage (getSmmCoreDatabaseData environment ownEntryOnly
          (databaseSizes environment ownEntryOnly) 0 fun _ => 0).2 false 0
        (getSmmCoreDatabaseSize environment ownEntryOnly) fuel ≠
      some (ownEntryOnly.mImageStruct.map ImageStruct.record, table, position) := by
  refine ⟨?_, ?_, ?_⟩
  · intro fuel table enough recovered
    have fits : ownEntryOnly.Fits environment := ⟨by decide, by decide⟩
    obtain ⟨written, same, wrote⟩ :=
      getSmmCoreDatabaseData_eq environment ownEntryOnly (by decide) fits 0 fun _ => 0
    have size := getSmmCoreDatabaseSize_eq environment ownEntryOnly fits
    rw [← length_of_clearReserved same] at size
    rw [wrote, size] at recovered
    rw [size] at enough
    have buffer : HoldsRecords _ 0 fuel written := ⟨Or.inr rfl,
      Memory.holds_write (fun _ => 0) 0 _, short_of_clearReserved environment fits same, enough⟩
    have found := dumpProtocolDatabase_of_holds table buffer
    have lines := flatMap_of_clearReserved (DatabaseRecord.protocolLines table) same
      fun record => by cases record <;> rfl
    rw [lines, protocolLines_records] at found
    have wrong := found.symm.trans recovered.protocols
    cases wrong
  · intro fuel table recovered
    have fits : 28 + 2 ^ 27 * 32 + 40 < 256 ^ 8 := by decide
    obtain ⟨after, pass, held⟩ := getSmmCoreDatabaseData_manyProtocols _ fits fun _ => 0
    have handles := recovered.handles
    rw [pass, dumpHandleDatabase, dumpRecords,
      walkDatabase_manyProtocols (by decide) (by decide) held] at handles
    · cases handles
    · rw [getSmmCoreDatabaseSize, databaseSizes_manyProtocols _ fits]
      decide
  · intro fuel table position
    rw [dumpSmmLoadedImage]
    split
    · intro same
      cases same
    · rw [if_pos rfl]
      intro same
      cases same

end Concrete

end AppEfi.SmmCore
