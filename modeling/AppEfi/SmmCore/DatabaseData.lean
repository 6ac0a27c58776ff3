import AppEfi.SmmCore.Database
import Mathlib.Algebra.Order.BigOperators.Group.List

/-!
# What the data pass writes

The records that describe a state, and the proof that the data pass writes
exactly them: each loop appends the bytes of its records, so the whole pass is
one write of the encoded records.
-/

set_option autoImplicit false

namespace AppEfi.SmmCore

open AppEfi.LittleEndian
open AppEfi.RecordWalk

/-! ## Loops -/

section Loops

variable {Entry : Type} {encode : Entry → List UInt8} {sizeofEntry : Nat}

theorem copyEntries_eq (positive : 0 < sizeofEntry)
    (lengths : ∀ entry, (encode entry).length = sizeofEntry) (maxSize : Nat)
    (entries : List Entry) (position size : Nat) (memory : Memory)
    (room : size + entries.length * sizeofEntry ≤ maxSize) :
    copyEntries sizeofEntry encode maxSize entries position size memory =
      (memory.write position (entries.flatMap encode), size + entries.length * sizeofEntry) := by
  induction entries generalizing position size memory with
  | nil => simp [copyEntries, Memory.write_of_holds]
  | cons entry rest ih =>
      rw [List.length_cons, Nat.succ_mul] at room
      rw [copyEntries, if_neg (by omega), if_neg (by omega), ih _ _ _ (by omega),
        List.flatMap_cons, Memory.write_append, lengths, List.length_cons, Nat.succ_mul]
      congr 1
      omega

theorem copyCounted_eq (bump : Nat → Memory → Memory) (positive : 0 < sizeofEntry)
    (lengths : ∀ entry, (encode entry).length = sizeofEntry)
    (absorbs : ∀ first second memory, bump second (bump first memory) = bump second memory)
    (expectedSize : Nat) (entries : List Entry) (position count size : Nat) (memory : Memory)
    (commutes : ∀ count memory address bytes, position ≤ address →
      (bump count memory).write address bytes = bump count (memory.write address bytes))
    (initial : bump count memory = memory)
    (room : size + entries.length * sizeofEntry ≤ expectedSize) :
    copyCounted sizeofEntry encode bump expectedSize entries position count size memory =
      (bump (count + entries.length) (memory.write position (entries.flatMap encode)),
        size + entries.length * sizeofEntry) := by
  induction entries generalizing position count size memory with
  | nil => simp [copyCounted, Memory.write_of_holds, initial]
  | cons entry rest ih =>
      rw [List.length_cons, Nat.succ_mul] at room
      rw [copyCounted, if_neg (by omega), if_neg (by omega), ih _ _ _ _
        (fun other memory address bytes above =>
          commutes other memory address bytes (by omega)) (absorbs _ _ _) (by omega),
        commutes _ _ _ _ (by omega), absorbs, List.flatMap_cons, Memory.write_append, lengths,
        List.length_cons, Nat.succ_mul]
      congr 1
      · rw [Nat.add_assoc, Nat.add_comm 1]
      · omega

end Loops

/-! ## The records of a state -/

section Records

variable {width : Nat}

/-- A record apart from the bytes that nobody stores. -/
def DatabaseRecord.clearReserved : DatabaseRecord width → DatabaseRecord width
  | .smi record => .smi { record with reserved := ⟨[0, 0, 0], rfl⟩ }
  | record => record

@[simp] theorem DatabaseRecord.size_clearReserved (record : DatabaseRecord width) :
    record.clearReserved.size = record.size := by
  cases record <;> rfl

variable (env : Environment width) (images : List (ImageStruct width))

def IHandle.record (handle : IHandle width) : HandleRecord width where
  handle := handle.address
  protocols := handle.protocols.map (ProtocolInterface.handleProtocol env images)

def ProtocolEntry.record (entry : ProtocolEntry width) : ProtocolRecord width where
  guid := entry.protocolId
  interfaces := entry.protocols.map (ProtocolInterface.interfaceStruct env images)
  notifies := entry.notify.map (notifyStruct images)

def SmiEntry.record (reserved : { bytes : List UInt8 // bytes.length = 3 })
    (entry : SmiEntry width) : SmiRecord width where
  isRootHandler := false
  reserved := reserved
  handlerType := entry.handlerType
  handlers := entry.smiHandlers.map (SmiHandler.struct images)

def rootRecord (reserved : { bytes : List UInt8 // bytes.length = 3 })
    (handlers : List (SmiHandler width)) : SmiRecord width where
  isRootHandler := true
  reserved := reserved
  handlerType := ⟨List.replicate 16 0, length_zeroGuid⟩
  handlers := handlers.map (SmiHandler.struct images)

def childRecord (records : List (ChildDispatchRecord width)) : ChildRecord width where
  guid := env.gEfiSmmSwDispatch2ProtocolGuid
  handlers := records.map (ChildDispatchRecord.struct images)

def noBytes : { bytes : List UInt8 // bytes.length = 3 } := ⟨[0, 0, 0], rfl⟩

/-- The database of a state as a list of records, in the order of the passes. -/
def SmmCoreState.records (state : SmmCoreState width) : List (DatabaseRecord width) :=
  let images := state.mImageStruct
  images.map (fun image => .image image.record) ++
    state.mSmmCoreHandleList.map (fun handle => .handle (handle.record env images)) ++
    (dumpedProtocolEntries env state.mSmmCoreProtocolDatabase).map
      (fun entry => .protocol (entry.record env images)) ++
    state.mSmmCoreSmiEntryList.map (fun entry => .smi (entry.record images noBytes)) ++
    [.smi (rootRecord images noBytes state.mSmmCoreRootSmiHandlerList)] ++
    (state.mSmmChildCallbackDatabase.map fun records =>
      .child (childRecord env images records)).toList

end Records

/-! ## The bodies of the loops over records -/

section Bodies

variable {width : Nat}

theorem copyRecords_eq {Source : Type} {record : Source → DatabaseRecord width}
    {sizeofRecord : Nat} {writeRecord : Source → Nat → Nat → Memory → Written}
    (positive : 0 < sizeofRecord) (least : ∀ source, sizeofRecord ≤ (record source).size)
    (expectedSize : Nat) (sources : List Source) (position size : Nat) (memory : Memory)
    (writes : ∀ source ∈ sources, ∀ position maxSize memory, (record source).size ≤ maxSize →
      ∃ written : DatabaseRecord width, written.clearReserved = record source ∧
        writeRecord source position maxSize memory =
          ⟨memory.write position written.encode, (record source).size, (record source).size⟩)
    (fills : size + (sources.map fun source => (record source).size).sum = expectedSize) :
    ∃ written : List (DatabaseRecord width),
      written.map DatabaseRecord.clearReserved = sources.map record ∧
        copyRecords sizeofRecord writeRecord expectedSize sources position size memory =
          (memory.write position (written.flatMap DatabaseRecord.encode), expectedSize) := by
  induction sources generalizing position size memory with
  | nil =>
      have reached : size = expectedSize := by simpa using fills
      refine ⟨[], rfl, ?_⟩
      rw [copyRecords, if_neg (not_not.mpr reached), reached, List.flatMap_nil,
        Memory.write_of_holds (Memory.holds_nil _ _)]
  | cons source rest ih =>
      rw [List.map_cons, List.sum_cons] at fills
      have atLeast := least source
      obtain ⟨first, same, wrote⟩ := writes source (by simp) position (expectedSize - size)
        memory (by omega)
      obtain ⟨others, restSame, restWrote⟩ := ih (position + (record source).size)
        (size + (record source).size) (memory.write position first.encode)
        (fun other member => writes other (by simp [member])) (by omega)
      have length : first.encode.length = (record source).size := by
        rw [first.length_encode, ← first.size_clearReserved, same]
      refine ⟨first :: others, by rw [List.map_cons, List.map_cons, same, restSame], ?_⟩
      rw [copyRecords, if_neg (by omega), if_neg (by omega), wrote]
      dsimp only
      rw [restWrote, List.flatMap_cons, Memory.write_append, length]

theorem write_length (memory : Memory) (position signature old new : Nat)
    (rest : List UInt8) :
    (memory.write position (encodeHeader signature old ++ rest)).write (position + 4)
        (toBytes 4 new) =
      memory.write position (encodeHeader signature new ++ rest) := by
  simp only [encodeHeader, List.append_assoc, Memory.write_append, length_toBytes]
  rw [Memory.write_comm _ rest _ (by simp only [length_toBytes]; omega),
    Memory.write_comm _ (toBytes 4 1) _ (by simp only [length_toBytes]; omega),
    Memory.write_write _ _ (by simp only [length_toBytes])]

/-- A record with one list of entries: the count is stored behind the entries, the length
last. -/
theorem write_counted (memory : Memory) (position signature old new : Nat)
    (fields count entries : List UInt8) :
    (((memory.write position (encodeHeader signature old ++ fields)).write
        (position + (12 + fields.length + count.length)) entries).write
          (position + (12 + fields.length)) count).write (position + 4) (toBytes 4 new) =
      memory.write position (encodeHeader signature new ++ fields ++ count ++ entries) := by
  rw [Memory.write_comm _ entries count (by omega)]
  have merged : ((memory.write position (encodeHeader signature old ++ fields)).write
      (position + (12 + fields.length)) count).write
        (position + (12 + fields.length + count.length)) entries =
      memory.write position (encodeHeader signature old ++ (fields ++ count ++ entries)) := by
    rw [← List.append_assoc, ← List.append_assoc, Memory.write_append _ _ _ entries,
      Memory.write_append _ _ _ count]
    simp only [List.length_append, length_encodeHeader]
  rw [merged, write_length]
  simp only [List.append_assoc]

/-- The same with two lists, where the length is stored after each. -/
theorem write_counted_twice (memory : Memory) (position signature old middle new : Nat)
    (fields count entries secondCount secondEntries : List UInt8) :
    ((((((memory.write position (encodeHeader signature old ++ fields)).write
        (position + (12 + fields.length + count.length + secondCount.length)) entries).write
          (position + (12 + fields.length)) count).write (position + 4)
            (toBytes 4 middle)).write
          (position + (12 + fields.length + count.length + secondCount.length +
            entries.length)) secondEntries).write
          (position + (12 + fields.length + count.length)) secondCount).write (position + 4)
            (toBytes 4 new) =
      memory.write position (encodeHeader signature new ++ fields ++ count ++ secondCount ++
        entries ++ secondEntries) := by
  -- The two counts go in front of the entries, the first length to the second.
  rw [Memory.write_comm _ entries count (by omega),
    Memory.write_comm _ secondEntries secondCount (by omega),
    Memory.write_comm _ (toBytes 4 middle) secondCount (by rw [length_toBytes]; omega),
    Memory.write_comm _ entries secondCount (by omega),
    Memory.write_comm _ (toBytes 4 middle) secondEntries (by rw [length_toBytes]; omega),
    Memory.write_write _ _ (by rw [length_toBytes, length_toBytes])]
  have merged : ((((memory.write position (encodeHeader signature old ++ fields)).write
      (position + (12 + fields.length)) count).write
        (position + (12 + fields.length + count.length)) secondCount).write
        (position + (12 + fields.length + count.length + secondCount.length)) entries).write
        (position + (12 + fields.length + count.length + secondCount.length +
          entries.length)) secondEntries =
      memory.write position (encodeHeader signature old ++
        (fields ++ count ++ secondCount ++ entries ++ secondEntries)) := by
    rw [← List.append_assoc, ← List.append_assoc, ← List.append_assoc, ← List.append_assoc,
      Memory.write_append _ _ _ secondEntries, Memory.write_append _ _ _ entries,
      Memory.write_append _ _ _ secondCount, Memory.write_append _ _ _ count]
    simp only [List.length_append, length_encodeHeader]
  rw [merged, write_length]
  simp only [List.append_assoc]

variable (env : Environment width) (images : List (ImageStruct width))

/-- The Header.Length is the record's length without its high bits. -/
theorem writeHandle_eq (uintn : 0 < width) (handle : IHandle width) (position maxSize : Nat)
    (memory : Memory) (room : (handle.record env images).size ≤ maxSize) :
    writeHandle env images handle position maxSize memory =
      ⟨memory.write position (handle.record env images).encode,
        (handle.record env images).size, (handle.record env images).size % 2 ^ 32⟩ := by
  have sizeEq : (handle.record env images).size = sizeofHandleRecord width +
      handle.protocols.length * sizeofHandleProtocolStruct width := by
    simp [HandleRecord.size, IHandle.record]
  rw [sizeEq] at room ⊢
  have copied : ∀ memory : Memory, getSmmProtocolInterfacesDataOnHandle env images handle
      (position + sizeofHandleRecord width) (maxSize - sizeofHandleRecord width) memory =
      (memory.write (position + sizeofHandleRecord width)
          ((handle.record env images).protocols.flatMap HandleProtocolStruct.encode),
        handle.protocols.length * sizeofHandleProtocolStruct width) := by
    intro memory
    rw [getSmmProtocolInterfacesDataOnHandle, copyEntries_eq (sizeof_pos uintn).1
      (fun _ => HandleProtocolStruct.length_encode _) _ _ _ _ _ (by omega), Nat.zero_add,
      IHandle.record, List.flatMap_map]
  have written := write_counted memory position handleSignature (sizeofHandleRecord width)
    (sizeofHandleRecord width + handle.protocols.length * sizeofHandleProtocolStruct width)
    (encodeUintn handle.address) (toBytes width handle.protocols.length)
    ((handle.record env images).protocols.flatMap HandleProtocolStruct.encode)
  have place : sizeofHandleRecord width = 12 + width + width := by
    rw [sizeofHandleRecord]
    omega
  simp only [length_encodeUintn, length_toBytes, ← place] at written
  simp only [writeHandle, copied, Nat.mul_div_cancel _ (sizeof_pos uintn).1]
  have stored : ∀ value, toBytes 4 (value % 2 ^ 32) = toBytes 4 value := toBytes_mod 4
  rw [Nat.add_mod_mod, stored, written]
  congr 2
  rw [HandleRecord.encode, sizeEq, IHandle.record, List.length_map]

theorem writeProtocol_eq (uintn : 0 < width) (entry : ProtocolEntry width)
    (short : (entry.record env images).size < 2 ^ 32) (position maxSize : Nat)
    (memory : Memory) (room : (entry.record env images).size ≤ maxSize) :
    writeProtocol env images entry position maxSize memory =
      ⟨memory.write position (entry.record env images).encode,
        (entry.record env images).size, (entry.record env images).size⟩ := by
  have sizeEq : (entry.record env images).size = sizeofProtocolRecord width +
      entry.protocols.length * sizeofAddressStruct width +
        entry.notify.length * sizeofAddressStruct width := by
    simp [ProtocolRecord.size, ProtocolEntry.record]
  rw [sizeEq] at room short ⊢
  set interfaces := (entry.record env images).interfaces.flatMap AddressStruct.encode
    with interfacesEq
  set notifies := (entry.record env images).notifies.flatMap AddressStruct.encode
    with notifiesEq
  have interfacesLength : interfaces.length =
      entry.protocols.length * sizeofAddressStruct width := by
    rw [interfacesEq, length_flatMap_entries AddressStruct.length_encode, ProtocolEntry.record,
      List.length_map]
  have copiedInterfaces : ∀ memory : Memory, getSmmProtocolInterfacesDataOnProtocolEntry env
      images entry (position + sizeofProtocolRecord width)
        (maxSize - sizeofProtocolRecord width) memory =
      (memory.write (position + sizeofProtocolRecord width) interfaces,
        entry.protocols.length * sizeofAddressStruct width) := by
    intro memory
    rw [getSmmProtocolInterfacesDataOnProtocolEntry, copyEntries_eq (sizeof_pos uintn).2.1
      (fun _ => AddressStruct.length_encode _) _ _ _ _ _ (by omega), Nat.zero_add,
      interfacesEq, ProtocolEntry.record, List.flatMap_map]
  have copiedNotifies : ∀ (start : Nat) (memory : Memory),
      getSmmProtocolNotifyDataOnProtocolEntry images entry start
        (maxSize - (sizeofProtocolRecord width +
          entry.protocols.length * sizeofAddressStruct width)) memory =
      (memory.write start notifies, entry.notify.length * sizeofAddressStruct width) := by
    intro start memory
    rw [getSmmProtocolNotifyDataOnProtocolEntry, copyEntries_eq (sizeof_pos uintn).2.1
      (fun _ => AddressStruct.length_encode _) _ _ _ _ _ (by omega), Nat.zero_add,
      notifiesEq, ProtocolEntry.record, List.flatMap_map]
  have written := write_counted_twice memory position protocolSignature
    (sizeofProtocolRecord width)
    (sizeofProtocolRecord width + entry.protocols.length * sizeofAddressStruct width)
    (sizeofProtocolRecord width + entry.protocols.length * sizeofAddressStruct width +
      entry.notify.length * sizeofAddressStruct width)
    entry.protocolId.val (toBytes width entry.protocols.length) interfaces
    (toBytes width entry.notify.length) notifies
  have place : 28 + width + width = sizeofProtocolRecord width := by
    rw [sizeofProtocolRecord]
    omega
  simp only [entry.protocolId.property, length_toBytes, interfacesLength, Nat.reduceAdd,
    place] at written
  simp only [writeProtocol, copiedInterfaces, copiedNotifies,
    Nat.mul_div_cancel _ (sizeof_pos uintn).2.1]
  rw [Nat.mod_eq_of_lt (by omega : entry.protocols.length * sizeofAddressStruct width < 2 ^ 32),
    Nat.mod_eq_of_lt (by omega : entry.notify.length * sizeofAddressStruct width < 2 ^ 32),
    Nat.mod_eq_of_lt (by omega : sizeofProtocolRecord width +
      entry.protocols.length * sizeofAddressStruct width < 2 ^ 32),
    Nat.mod_eq_of_lt short, written]
  congr 2
  rw [ProtocolRecord.encode, sizeEq, ← interfacesEq, ← notifiesEq, ProtocolEntry.record,
    List.length_map, List.length_map]

def reservedAt (memory : Memory) (position : Nat) :
    { bytes : List UInt8 // bytes.length = 3 } :=
  ⟨memory.bytesAt (position + 13) 3, Memory.length_bytesAt _ _ _⟩

theorem write_smiFields (memory : Memory) (position length : Nat) (isRootHandler : Bool)
    (handlerType : List UInt8) :
    (memory.write position
        (encodeHeader smiSignature length ++ toBytes 1 isRootHandler.toNat)).write
          (position + 16) handlerType =
      memory.write position (encodeHeader smiSignature length ++
        (toBytes 1 isRootHandler.toNat ++ (reservedAt memory position).val ++ handlerType)) := by
  have gap := memory.write_gap position 3
    (encodeHeader smiSignature length ++ toBytes 1 isRootHandler.toNat) handlerType
  simp only [List.length_append, length_encodeHeader, length_toBytes, Nat.reduceAdd] at gap
  rw [gap, reservedAt]
  simp only [List.append_assoc]

theorem writeSmi_eq (uintn : 0 < width) (entry : SmiEntry width)
    (short : (entry.record images noBytes).size < 2 ^ 32) (position maxSize : Nat)
    (memory : Memory) (room : (entry.record images noBytes).size ≤ maxSize) :
    writeSmi images entry position maxSize memory =
      ⟨memory.write position (entry.record images (reservedAt memory position)).encode,
        (entry.record images noBytes).size, (entry.record images noBytes).size⟩ := by
  have sizeEq : ∀ reserved, (entry.record images reserved).size = sizeofSmiRecord width +
      entry.smiHandlers.length * sizeofSmiHandlerStruct width := by
    simp [SmiRecord.size, SmiEntry.record]
  rw [sizeEq] at room short ⊢
  set entries := (entry.smiHandlers.map (SmiHandler.struct images)).flatMap
    SmiHandlerStruct.encode with entriesEq
  have copied : ∀ memory : Memory, getSmmSmiHandlerDataOnSmiEntry images entry
      (position + sizeofSmiRecord width) (maxSize - sizeofSmiRecord width) memory =
      (memory.write (position + sizeofSmiRecord width) entries,
        entry.smiHandlers.length * sizeofSmiHandlerStruct width) := by
    intro memory
    rw [getSmmSmiHandlerDataOnSmiEntry, copyEntries_eq (sizeof_pos uintn).2.2.1
      (fun _ => SmiHandlerStruct.length_encode _) _ _ _ _ _ (by omega), Nat.zero_add,
      entriesEq, List.flatMap_map]
  have written := write_counted memory position smiSignature (sizeofSmiRecord width)
    (sizeofSmiRecord width + entry.smiHandlers.length * sizeofSmiHandlerStruct width)
    (toBytes 1 false.toNat ++ (reservedAt memory position).val ++ entry.handlerType.val)
    (toBytes width entry.smiHandlers.length) entries
  simp only [List.length_append, length_toBytes, (reservedAt memory position).property,
    entry.handlerType.property, Nat.reduceAdd] at written
  simp only [writeSmi, write_smiFields, copied,
    Nat.mul_div_cancel _ (sizeof_pos uintn).2.2.1]
  rw [Nat.mod_eq_of_lt (by omega : entry.smiHandlers.length *
    sizeofSmiHandlerStruct width < 2 ^ 32), Nat.mod_eq_of_lt short]
  congr 1
  refine written.trans ?_
  rw [SmiRecord.encode, sizeEq, SmiEntry.record, List.length_map, ← entriesEq]
  simp only [List.append_assoc]

theorem bumpRootRecord_absorbs (position first second : Nat) (memory : Memory) :
    bumpRootRecord width position second (bumpRootRecord width position first memory) =
      bumpRootRecord width position second memory := by
  simp only [bumpRootRecord]
  rw [Memory.write_comm _ (toBytes 4 _) (toBytes width second)
      (by simp only [length_toBytes]; omega),
    Memory.write_write _ _ (by rw [length_toBytes, length_toBytes]),
    Memory.write_write _ _ (by rw [length_toBytes, length_toBytes])]

theorem bumpRootRecord_commutes (position count : Nat) (memory : Memory) (address : Nat)
    (bytes : List UInt8) (behind : position + sizeofSmiRecord width ≤ address) :
    (bumpRootRecord width position count memory).write address bytes =
      bumpRootRecord width position count (memory.write address bytes) := by
  rw [sizeofSmiRecord] at behind
  rw [bumpRootRecord, Memory.write_comm _ (toBytes 4 _) bytes
      (by simp only [length_toBytes]; omega),
    Memory.write_comm _ (toBytes width count) bytes (by simp only [length_toBytes]; omega),
    bumpRootRecord]

theorem getSmmRootSmiDatabaseData_eq (uintn : 0 < width) (handlers : List (SmiHandler width))
    (data : Nat) (memory : Memory) :
    getSmmRootSmiDatabaseData images handlers data (rootRecord images noBytes handlers).size
        memory =
      (memory.write data (rootRecord images (reservedAt memory data) handlers).encode,
        (rootRecord images noBytes handlers).size) := by
  have sizeEq : ∀ reserved, (rootRecord images reserved handlers).size =
      sizeofSmiRecord width + handlers.length * sizeofSmiHandlerStruct width := by
    simp [SmiRecord.size, rootRecord]
  rw [sizeEq]
  set fields := toBytes 1 true.toNat ++ (reservedAt memory data).val ++ List.replicate 16 0
    with fieldsEq
  set entries := (handlers.map (SmiHandler.struct images)).flatMap SmiHandlerStruct.encode
    with entriesEq
  have fieldsLength : fields.length = 20 := by
    simp [fieldsEq, (reservedAt memory data).property]
  set start := memory.write data (encodeHeader smiSignature (sizeofSmiRecord width) ++ fields)
    with startEq
  -- The count 0 and the length of the header are there before the first handler.
  have initial : bumpRootRecord width data 0 (start.write (data + 32) (toBytes width 0)) =
      start.write (data + 32) (toBytes width 0) := by
    simp only [bumpRootRecord, Nat.zero_mul, Nat.add_zero]
    rw [Memory.write_write _ _ rfl,
      Memory.write_comm _ _ _ (by simp only [length_toBytes]; omega), startEq, write_length]
  have copied := copyCounted_eq (bumpRootRecord width data) (sizeof_pos uintn).2.2.1
    (fun handler => (SmiHandler.struct images handler).length_encode)
    (bumpRootRecord_absorbs data)
    (sizeofSmiRecord width + handlers.length * sizeofSmiHandlerStruct width) handlers
    (data + sizeofSmiRecord width) 0 (sizeofSmiRecord width) _
    (bumpRootRecord_commutes data) initial (Nat.le_refl _)
  have written := write_counted memory data smiSignature (sizeofSmiRecord width)
    (sizeofSmiRecord width + handlers.length * sizeofSmiHandlerStruct width) fields
    (toBytes width handlers.length) entries
  have place : 32 + width = sizeofSmiRecord width := rfl
  simp only [fieldsLength, length_toBytes, Nat.reduceAdd, ← startEq, place] at written
  simp only [getSmmRootSmiDatabaseData, write_smiFields, ← fieldsEq, ← startEq, copied,
    ne_eq, not_true_eq_false, if_false, Nat.zero_add]
  congr 1
  rw [bumpRootRecord, ← List.flatMap_map, ← entriesEq,
    Memory.write_comm start (toBytes width 0) entries
      (by rw [length_toBytes, sizeofSmiRecord]; omega),
    Memory.write_write _ _ (by simp only [length_toBytes]), written, SmiRecord.encode, sizeEq,
    rootRecord, List.length_map, ← entriesEq, fieldsEq]
  simp only [List.append_assoc]

theorem writeImages_eq (mImageStruct : List (ImageStruct width)) (position : Nat)
    (memory : Memory) :
    writeImages mImageStruct position memory = memory.write position
      ((mImageStruct.map fun image => DatabaseRecord.image image.record).flatMap
        DatabaseRecord.encode) := by
  induction mImageStruct generalizing position memory with
  | nil => exact (Memory.write_of_holds (Memory.holds_nil _ _)).symm
  | cons image rest ih =>
      have length := (DatabaseRecord.image image.record).length_encode
      rw [DatabaseRecord.size] at length
      rw [writeImages, ih, List.map_cons, List.flatMap_cons, Memory.write_append, length]
      rfl

theorem getSmmChildCallbackDatabaseData_eq (uintn : 0 < width)
    (records : List (ChildDispatchRecord width)) (data : Nat) (memory : Memory) :
    getSmmChildCallbackDatabaseData env images records data
        (childRecord env images records).size memory =
      (memory.write data (childRecord env images records).encode,
        (childRecord env images records).size) := by
  have sizeEq : (childRecord env images records).size =
      sizeofChildRecord width + records.length * sizeofChildSwStruct width := by
    simp [ChildRecord.size, childRecord]
  have positive : 0 < sizeofChildRecord width := Nat.add_pos_left (by decide) _
  rw [sizeEq]
  set entries := (records.map (ChildDispatchRecord.struct images)).flatMap
    ChildSwStruct.encode with entriesEq
  set guid := env.gEfiSmmSwDispatch2ProtocolGuid.val with guidEq
  have guidLength : guid.length = 16 := env.gEfiSmmSwDispatch2ProtocolGuid.property
  set start := ((memory.write data (toBytes 4 childSmiSignature)).write (data + 8)
    (toBytes 4 1)).write (data + 12) guid with startEq
  have copied := copyCounted_eq (bumpChildRecord width data) (sizeof_pos uintn).2.2.2
    (fun record => (ChildDispatchRecord.struct images record).length_encode)
    (fun first second memory =>
      memory.write_write _ (by simp only [length_toBytes]))
    (sizeofChildRecord width + records.length * sizeofChildSwStruct width) records
    (data + sizeofChildRecord width) 0 (sizeofChildRecord width)
    (start.write (data + 28) (toBytes width 0))
    (fun count memory address bytes behind => by
      rw [sizeofChildRecord] at behind
      rw [bumpChildRecord, Memory.write_comm _ _ _ (by simp only [length_toBytes]; omega),
        bumpChildRecord])
    (start.write_write _ rfl) (Nat.le_refl _)
  simp only [getSmmChildCallbackDatabaseData, if_neg (Nat.not_lt.mpr (Nat.le_add_right _ _)),
    ← guidEq, ← startEq, copied, ne_eq, not_true_eq_false, if_false, Nat.zero_add,
    if_neg (by omega : ¬ sizeofChildRecord width +
      records.length * sizeofChildSwStruct width = 0)]
  congr 1
  rw [bumpChildRecord, ← List.flatMap_map, ← entriesEq,
    Memory.write_comm start (toBytes width 0) entries
      (by rw [length_toBytes, sizeofChildRecord]; omega),
    Memory.write_write _ _ (by simp only [length_toBytes]),
    Memory.write_comm start entries _ (by rw [length_toBytes, sizeofChildRecord]; omega)]
  -- The length goes in front of everything behind the signature.
  rw [Memory.write_comm _ entries (toBytes 4 _)
      (by rw [length_toBytes, sizeofChildRecord]; omega),
    Memory.write_comm _ (toBytes width _) (toBytes 4 _) (by simp only [length_toBytes]; omega),
    startEq, Memory.write_comm _ guid (toBytes 4 _) (by simp only [length_toBytes]; omega),
    Memory.write_comm _ (toBytes 4 1) (toBytes 4 _) (by simp only [length_toBytes]; omega)]
  rw [ChildRecord.encode, sizeEq, encodeHeader, childRecord, List.length_map, ← entriesEq,
    ← guidEq]
  simp only [List.append_assoc, Memory.write_append, length_toBytes, guidLength,
    sizeofChildRecord, Nat.add_assoc, Nat.reduceAdd]

end Bodies

/-! ## Both passes -/

section Passes

variable {width : Nat} (env : Environment width) (state : SmmCoreState width)

/-- Every record's length fits Header.Length, and the size of the database fits a UINTN. -/
structure SmmCoreState.Fits : Prop where
  length : ∀ record ∈ state.records env, record.size < 2 ^ 32
  total : ((state.records env).map DatabaseRecord.size).sum < 256 ^ width

theorem toUintn_sum {Source : Type} (sources : List Source) (wrapped size : Source → Nat)
    (fits : (sources.map size).sum < 256 ^ width)
    (same : ∀ source ∈ sources, size source < 256 ^ width → wrapped source = size source) :
    toUintn width (sources.map wrapped).sum = (sources.map size).sum := by
  have mapped : sources.map wrapped = sources.map size := by
    refine List.map_congr_left fun source member => same source member ?_
    exact Nat.lt_of_le_of_lt (List.le_sum_of_mem (List.mem_map_of_mem member)) fits
  rw [mapped, toUintn_of_lt fits]

theorem sum_records : ((state.records env).map DatabaseRecord.size).sum =
    (state.mImageStruct.map fun image => (DatabaseRecord.image image.record).size).sum +
    (state.mSmmCoreHandleList.map fun handle =>
      (DatabaseRecord.handle (handle.record env state.mImageStruct)).size).sum +
    ((dumpedProtocolEntries env state.mSmmCoreProtocolDatabase).map fun entry =>
      (DatabaseRecord.protocol (entry.record env state.mImageStruct)).size).sum +
    (state.mSmmCoreSmiEntryList.map fun entry =>
      (DatabaseRecord.smi (entry.record state.mImageStruct noBytes)).size).sum +
    (rootRecord state.mImageStruct noBytes state.mSmmCoreRootSmiHandlerList).size +
    ((state.mSmmChildCallbackDatabase.map fun records =>
      (childRecord env state.mImageStruct records).size).getD 0) := by
  simp only [SmmCoreState.records, List.map_append, List.sum_append, List.map_map,
    Function.comp_def, List.map_cons, List.map_nil, List.sum_cons, List.sum_nil, Nat.add_zero]
  cases state.mSmmChildCallbackDatabase <;> rfl

theorem databaseSizes_eq (fits : state.Fits env) :
    databaseSizes env state = {
      mSmmImageDatabaseSize :=
        (state.mImageStruct.map fun image => (DatabaseRecord.image image.record).size).sum
      mSmmHandlerDatabaseSize := (state.mSmmCoreHandleList.map fun handle =>
        (DatabaseRecord.handle (handle.record env state.mImageStruct)).size).sum
      mSmmProtocolDatabaseSize :=
        ((dumpedProtocolEntries env state.mSmmCoreProtocolDatabase).map fun entry =>
          (DatabaseRecord.protocol (entry.record env state.mImageStruct)).size).sum
      mSmmSmiDatabaseSize := (state.mSmmCoreSmiEntryList.map fun entry =>
        (DatabaseRecord.smi (entry.record state.mImageStruct noBytes)).size).sum
      mSmmRootSmiDatabaseSize :=
        (rootRecord state.mImageStruct noBytes state.mSmmCoreRootSmiHandlerList).size
      mSmmChildDatabaseSize := (state.mSmmChildCallbackDatabase.map fun records =>
        (childRecord env state.mImageStruct records).size).getD 0 } := by
  have total := fits.total
  rw [sum_records] at total
  rw [databaseSizes]
  congr 1
  · have size : (state.mImageStruct.map fun image =>
        (DatabaseRecord.image image.record).size).sum =
          sizeofImageRecord width * state.mImageStruct.length := by
      simp [DatabaseRecord.size, Nat.mul_comm]
    rw [size] at total ⊢
    rw [getSmmImageDatabaseSize, toUintn_of_lt (by omega)]
  · refine toUintn_sum _ _ _ (by omega) fun handle _ small => ?_
    simp only [DatabaseRecord.size, HandleRecord.size, IHandle.record, List.length_map]
      at small ⊢
    rw [getSmmProtocolInterfacesSizeOnHandle, toUintn_of_lt (by omega)]
  · refine toUintn_sum _ _ _ (by omega) fun entry _ small => ?_
    simp only [DatabaseRecord.size, ProtocolRecord.size, ProtocolEntry.record,
      List.length_map] at small ⊢
    rw [getSmmProtocolInterfacesSizeOnProtocolEntry, getSmmProtocolNotifySizeOnProtocolEntry,
      toUintn_of_lt (by omega), toUintn_of_lt (by omega)]
  · refine toUintn_sum _ _ _ (by omega) fun entry _ small => ?_
    simp only [DatabaseRecord.size, SmiRecord.size, SmiEntry.record, List.length_map]
      at small ⊢
    rw [getSmmSmiHandlerSizeOnSmiEntry, toUintn_of_lt (by omega)]
  · have size : (rootRecord state.mImageStruct noBytes
        state.mSmmCoreRootSmiHandlerList).size = sizeofSmiRecord width +
          state.mSmmCoreRootSmiHandlerList.length * sizeofSmiHandlerStruct width := by
      simp [SmiRecord.size, rootRecord]
    rw [size] at total ⊢
    rw [getSmmRootSmiDatabaseSize, toUintn_of_lt (by omega)]
  · cases children : state.mSmmChildCallbackDatabase with
    | none => rfl
    | some records =>
        have size : (childRecord env state.mImageStruct records).size =
            sizeofChildRecord width + records.length * sizeofChildSwStruct width := by
          simp [ChildRecord.size, childRecord]
        rw [children, Option.map_some, Option.getD_some, size] at total
        rw [Option.map_some, Option.getD_some, size, smmChildGetDataSize,
          toUintn_of_lt (by omega)]

theorem getSmmCoreDatabaseSize_eq (fits : state.Fits env) :
    getSmmCoreDatabaseSize env state =
      ((state.records env).map DatabaseRecord.size).sum := by
  have total := fits.total
  rw [sum_records] at total ⊢
  rw [getSmmCoreDatabaseSize, databaseSizes_eq env state fits]
  exact toUintn_of_lt total

theorem sum_size_eq_length (records : List (DatabaseRecord width)) :
    (records.map DatabaseRecord.size).sum =
      (records.flatMap DatabaseRecord.encode).length := by
  rw [length_flatMap_encode, total]
  simp only [DatabaseRecord.length_encode]

section Parts

variable {env} {images : List (ImageStruct width)}

theorem getSmmImageDatabaseData_eq (mImageStruct : List (ImageStruct width))
    (total : (mImageStruct.map fun image => (DatabaseRecord.image image.record).size).sum <
      256 ^ width) (data : Nat) (memory : Memory) :
    getSmmImageDatabaseData mImageStruct data
        (mImageStruct.map fun image => (DatabaseRecord.image image.record).size).sum memory =
      (memory.write data ((mImageStruct.map fun image =>
          DatabaseRecord.image image.record).flatMap DatabaseRecord.encode),
        (mImageStruct.map fun image => (DatabaseRecord.image image.record).size).sum) := by
  have size : (mImageStruct.map fun image => (DatabaseRecord.image image.record).size).sum =
      sizeofImageRecord width * mImageStruct.length := by
    simp [DatabaseRecord.size, Nat.mul_comm]
  have positive : 0 < sizeofImageRecord width :=
    Nat.add_pos_left (by decide) _
  rw [size] at total ⊢
  rw [getSmmImageDatabaseData, Nat.mul_div_cancel_left _ positive,
    if_neg (not_not.mpr rfl), writeImages_eq, toUintn_of_lt total]

theorem getSmmHandlerDatabaseData_eq (uintn : 0 < width) (handles : List (IHandle width))
    (short : ∀ handle ∈ handles,
      (DatabaseRecord.handle (handle.record env images)).size < 2 ^ 32)
    (data : Nat) (memory : Memory) :
    ∃ written : List (DatabaseRecord width),
      written.map DatabaseRecord.clearReserved =
          handles.map (fun handle => .handle (handle.record env images)) ∧
        getSmmHandlerDatabaseData env images handles data
            (handles.map fun handle =>
              (DatabaseRecord.handle (handle.record env images)).size).sum memory =
          (memory.write data (written.flatMap DatabaseRecord.encode),
            (handles.map fun handle =>
              (DatabaseRecord.handle (handle.record env images)).size).sum) :=
  copyRecords_eq (Nat.add_pos_left (by decide) _) (fun _ => Nat.le_add_right _ _) _ handles
    data 0 memory (fun handle member position maxSize memory room =>
      ⟨.handle (handle.record env images), rfl, by
        have fits : (handle.record env images).size < 2 ^ 32 := short handle member
        rw [writeHandle_eq env images uintn handle position maxSize memory room,
          Nat.mod_eq_of_lt fits]
        rfl⟩)
    (Nat.zero_add _)

theorem getSmmProtocolDatabaseData_eq (uintn : 0 < width)
    (entries : List (ProtocolEntry width))
    (short : ∀ entry ∈ dumpedProtocolEntries env entries,
      (DatabaseRecord.protocol (entry.record env images)).size < 2 ^ 32)
    (data : Nat) (memory : Memory) :
    ∃ written : List (DatabaseRecord width),
      written.map DatabaseRecord.clearReserved = (dumpedProtocolEntries env entries).map
          (fun entry => .protocol (entry.record env images)) ∧
        getSmmProtocolDatabaseData env images entries data
            ((dumpedProtocolEntries env entries).map fun entry =>
              (DatabaseRecord.protocol (entry.record env images)).size).sum memory =
          (memory.write data (written.flatMap DatabaseRecord.encode),
            ((dumpedProtocolEntries env entries).map fun entry =>
              (DatabaseRecord.protocol (entry.record env images)).size).sum) :=
  copyRecords_eq (Nat.add_pos_left (by decide) _)
    (fun _ => Nat.le_trans (Nat.le_add_right _ _) (Nat.le_add_right _ _)) _ _ data 0 memory
    (fun entry member position maxSize memory room =>
      ⟨.protocol (entry.record env images), rfl,
        writeProtocol_eq env images uintn entry (short entry member) position maxSize memory
          room⟩)
    (Nat.zero_add _)

theorem getSmmSmiDatabaseData_eq (uintn : 0 < width) (entries : List (SmiEntry width))
    (short : ∀ entry ∈ entries,
      (DatabaseRecord.smi (entry.record images noBytes)).size < 2 ^ 32)
    (data : Nat) (memory : Memory) :
    ∃ written : List (DatabaseRecord width),
      written.map DatabaseRecord.clearReserved =
          entries.map (fun entry => .smi (entry.record images noBytes)) ∧
        getSmmSmiDatabaseData images entries data
            (entries.map fun entry =>
              (DatabaseRecord.smi (entry.record images noBytes)).size).sum memory =
          (memory.write data (written.flatMap DatabaseRecord.encode),
            (entries.map fun entry =>
              (DatabaseRecord.smi (entry.record images noBytes)).size).sum) :=
  copyRecords_eq (Nat.add_pos_left (by decide) _) (fun _ => Nat.le_add_right _ _) _ entries
    data 0 memory (fun entry member position maxSize memory room =>
      ⟨.smi (entry.record images (reservedAt memory position)), rfl,
        writeSmi_eq images uintn entry (short entry member) position maxSize memory room⟩)
    (Nat.zero_add _)

end Parts

theorem length_of_clearReserved {written records : List (DatabaseRecord width)}
    (same : written.map DatabaseRecord.clearReserved = records) :
    (written.flatMap DatabaseRecord.encode).length =
      (records.map DatabaseRecord.size).sum := by
  rw [← sum_size_eq_length, ← same, List.map_map]
  congr 2
  funext record
  exact record.size_clearReserved.symm

/-- A pass behind bytes that are written already, by the bytes that it adds. -/
theorem pass_behind {Entry : Type} {entries : List Entry} {record : Entry → DatabaseRecord width}
    {pass : Nat → Nat → Memory → Memory × Nat} (front : List UInt8) (data : Nat) (memory : Memory)
    (wrote : ∃ written : List (DatabaseRecord width),
      written.map DatabaseRecord.clearReserved = entries.map record ∧
        pass (data + front.length) (entries.map fun entry => (record entry).size).sum
            (memory.write data front) =
          ((memory.write data front).write (data + front.length)
              (written.flatMap DatabaseRecord.encode),
            (entries.map fun entry => (record entry).size).sum)) :
    ∃ written : List (DatabaseRecord width),
      written.map DatabaseRecord.clearReserved = entries.map record ∧
        (entries.map fun entry => (record entry).size).sum =
          (written.flatMap DatabaseRecord.encode).length ∧
        pass (data + front.length) (written.flatMap DatabaseRecord.encode).length
            (memory.write data front) =
          (memory.write data (front ++ written.flatMap DatabaseRecord.encode),
            (written.flatMap DatabaseRecord.encode).length) := by
  obtain ⟨written, same, result⟩ := wrote
  have length := length_of_clearReserved same
  rw [List.map_map, Function.comp_def] at length
  rw [← length, ← Memory.write_append] at result
  exact ⟨written, same, length.symm, result⟩

/-- The data pass succeeds and is one write of the records of the state, as many bytes as
the size pass said. -/
theorem getSmmCoreDatabaseData_eq (uintn : 0 < width) (fits : state.Fits env) (data : Nat)
    (memory : Memory) :
    ∃ written : List (DatabaseRecord width),
      written.map DatabaseRecord.clearReserved = state.records env ∧
        getSmmCoreDatabaseData env state (databaseSizes env state) data memory =
          (true, memory.write data (written.flatMap DatabaseRecord.encode)) := by
  have short := fits.length
  have total := fits.total
  rw [sum_records] at total
  simp only [SmmCoreState.records, List.mem_append, List.mem_map, List.mem_singleton,
    Option.mem_toList, or_imp, forall_and, forall_exists_index, and_imp,
    forall_apply_eq_imp_iff₂] at short
  obtain ⟨⟨⟨⟨⟨-, handlesShort⟩, protocolsShort⟩, smisShort⟩, -⟩, -⟩ := short
  set images := state.mImageStruct with imagesEq
  set imageBytes := (images.map fun image =>
    DatabaseRecord.image image.record).flatMap DatabaseRecord.encode with imageBytesEq
  have imageLength : imageBytes.length =
      (images.map fun image => (DatabaseRecord.image image.record).size).sum := by
    rw [imageBytesEq, ← sum_size_eq_length, List.map_map]
    rfl
  have imagePass := getSmmImageDatabaseData_eq images (by omega) data memory
  rw [← imageBytesEq, ← imageLength] at imagePass
  obtain ⟨handles, handlesSame, handleLength, handlePass⟩ :=
    pass_behind imageBytes data memory
      (getSmmHandlerDatabaseData_eq uintn state.mSmmCoreHandleList handlesShort _ _)
  set handleBytes := handles.flatMap DatabaseRecord.encode
  obtain ⟨protocols, protocolsSame, protocolLength, protocolPass⟩ :=
    pass_behind (imageBytes ++ handleBytes) data memory
      (getSmmProtocolDatabaseData_eq uintn state.mSmmCoreProtocolDatabase protocolsShort _ _)
  set protocolBytes := protocols.flatMap DatabaseRecord.encode
  obtain ⟨smis, smisSame, smiLength, smiPass⟩ :=
    pass_behind (imageBytes ++ handleBytes ++ protocolBytes) data memory
      (getSmmSmiDatabaseData_eq uintn state.mSmmCoreSmiEntryList smisShort _ _)
  set smiBytes := smis.flatMap DatabaseRecord.encode
  have rootPass := getSmmRootSmiDatabaseData_eq images uintn state.mSmmCoreRootSmiHandlerList
    (data + (imageBytes ++ handleBytes ++ protocolBytes ++ smiBytes).length)
    (memory.write data (imageBytes ++ handleBytes ++ protocolBytes ++ smiBytes))
  rw [← Memory.write_append] at rootPass
  set root := rootRecord images (reservedAt _ _) state.mSmmCoreRootSmiHandlerList
    with rootEq
  have rootLength : root.encode.length =
      (rootRecord images noBytes state.mSmmCoreRootSmiHandlerList).size :=
    (DatabaseRecord.smi root).length_encode
  simp only [List.length_append, ← Nat.add_assoc] at handlePass protocolPass smiPass rootPass
  simp only [getSmmCoreDatabaseData, databaseSizes_eq env state fits, ← imagesEq,
    ← imageLength, imagePass, handleLength, handlePass, protocolLength, protocolPass,
    smiLength, smiPass, rootPass, ne_eq, not_true_eq_false, if_false]
  have imagesSame : (images.map fun image => DatabaseRecord.image image.record).map
      DatabaseRecord.clearReserved = images.map fun image => .image image.record := by
    rw [List.map_map]
    rfl
  have rootSame : (DatabaseRecord.smi root).clearReserved =
      .smi (rootRecord images noBytes state.mSmmCoreRootSmiHandlerList) := rfl
  refine ⟨images.map (fun image => .image image.record) ++ handles ++ protocols ++ smis ++
    [.smi root] ++ (state.mSmmChildCallbackDatabase.map fun records =>
      .child (childRecord env images records)).toList, ?_, ?_⟩
  · simp only [List.map_append, imagesSame, handlesSame, protocolsSame, smisSame,
      List.map_cons, List.map_nil, rootSame, SmmCoreState.records, ← imagesEq]
    cases state.mSmmChildCallbackDatabase <;> rfl
  · cases children : state.mSmmChildCallbackDatabase with
    | none =>
        simp only [Option.map_none, Option.getD_none, not_true_eq_false, if_false,
          Option.toList_none, List.append_nil, List.flatMap_append]
        rw [List.flatMap_singleton]
        rfl
    | some records =>
        have childPositive := (DatabaseRecord.child (childRecord env images records)).size_pos
        simp only [DatabaseRecord.size] at childPositive
        simp only [Option.map_some, Option.getD_some, Option.toList_some,
          List.flatMap_append, List.flatMap_singleton, smmChildGetData,
          getSmmChildCallbackDatabaseData_eq env images uintn,
          if_pos (by omega : ¬ (childRecord env images records).size = 0)]
        rw [← rootLength, Memory.write_append _ _ _ (DatabaseRecord.child _).encode]
        simp only [List.length_append, ← Nat.add_assoc]
        rfl

end Passes

end AppEfi.SmmCore
