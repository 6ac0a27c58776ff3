import AppEfi.SmmCore.Walkers

/-!
# Walks over encoded records

What each walker of the app finds in a buffer of encoded records, whatever the
records are.
-/

set_option autoImplicit false

namespace AppEfi.SmmCore

open AppEfi.LittleEndian
open AppEfi.RecordWalk

/-! ## Walks over encoded records -/

section Walks

variable {width : Nat} {memory : Memory} {records : List (DatabaseRecord width)}
variable {mSmmCoreDatabase fuel : Nat}

theorem DatabaseRecord.signature_lt (record : DatabaseRecord width) :
    record.signature < 256 ^ 4 := by
  cases record with
  | image record => exact (by decide : imageSignature < 256 ^ 4)
  | handle record => exact (by decide : handleSignature < 256 ^ 4)
  | protocol record => exact (by decide : protocolSignature < 256 ^ 4)
  | smi record => exact (by decide : smiSignature < 256 ^ 4)
  | child record => exact (by decide : childSmiSignature < 256 ^ 4)

theorem DatabaseRecord.holds_header {position : Nat} {record : DatabaseRecord width}
    (held : memory.Holds position record.encode) :
    memory.Holds position (toBytes 4 record.signature) ∧
      memory.Holds (position + 4) (toBytes 4 record.size) := by
  obtain ⟨rest, split⟩ := record.encode_header
  exact holds_encodeHeader split held

theorem hasSignature_of_holds {position : Nat} {record : DatabaseRecord width}
    (held : memory.Holds position record.encode) (signature : Nat) :
    hasSignature memory signature position = decide (record.signature = signature) := by
  rw [hasSignature, (DatabaseRecord.holds_header held).1.readLe_eq record.signature_lt]

/-- A walk over encoded records is a fold over the records, and ends at their end. -/
theorem walkDatabase_of_holds {State : Type} {body : State → Nat → State}
    {step : State → DatabaseRecord width → State} (state : State)
    (held : memory.Holds mSmmCoreDatabase (records.flatMap DatabaseRecord.encode))
    (short : ∀ record ∈ records, record.size < 2 ^ 32)
    (enough : (records.flatMap DatabaseRecord.encode).length ≤ fuel)
    (reads : ∀ record ∈ records, ∀ position, memory.Holds position record.encode →
      ∀ current, body current position = step current record) :
    walkDatabase memory body mSmmCoreDatabase
        (records.flatMap DatabaseRecord.encode).length fuel state =
      some (records.foldl step state,
        mSmmCoreDatabase + (records.flatMap DatabaseRecord.encode).length) := by
  have positive : ∀ record : DatabaseRecord width, 0 < record.encode.length := by
    intro record
    have size := record.size_pos
    rw [record.length_encode]
    omega
  rw [length_flatMap_encode] at enough ⊢
  have fewer := length_le_total (fun record => record.encode.length) records
    fun record _ => positive record
  rw [walkDatabase, whileLoop_records _ _ _ (fun record => record.encode.length) records]
  · rw [foldl_starts _ _ step]
    intro entry member current
    exact reads entry.2 (mem_of_mem_placed member) _ (holds_of_mem_placed held member) current
  · intro entry member
    have bounds := placed_bounds member
    have room := positive entry.2
    have length := (DatabaseRecord.holds_header (holds_of_mem_placed held member)).2.readLe_eq
      (short entry.2 (mem_of_mem_placed member))
    exact ⟨decide_eq_true (by omega), by rw [length, entry.2.length_encode]⟩
  · exact decide_eq_false (Nat.lt_irrefl _)
  · omega

theorem dumpRecords_of_holds {Line : Type} {selects : Nat → Bool} {print : Nat → List Line}
    {lines : DatabaseRecord width → List Line}
    (held : memory.Holds mSmmCoreDatabase (records.flatMap DatabaseRecord.encode))
    (short : ∀ record ∈ records, record.size < 2 ^ 32)
    (enough : (records.flatMap DatabaseRecord.encode).length ≤ fuel)
    (prints : ∀ record ∈ records, ∀ position, memory.Holds position record.encode →
      (if selects position then print position else []) = lines record) :
    dumpRecords memory selects print mSmmCoreDatabase
        (records.flatMap DatabaseRecord.encode).length fuel =
      some (records.flatMap lines,
        mSmmCoreDatabase + (records.flatMap DatabaseRecord.encode).length) := by
  have appends : ∀ record ∈ records, ∀ position, memory.Holds position record.encode →
      ∀ printed, (if selects position then printed ++ print position else printed) =
        printed ++ lines record := by
    intro record member position there printed
    rw [← prints record member position there]
    split
    · rfl
    · rw [List.append_nil]
  rw [dumpRecords, walkDatabase_of_holds [] held short enough appends,
    ← List.flatMap_eq_foldl]

end Walks

/-! ## What the walkers print of a record -/

section Printed

variable {width : Nat} (table : ImageTable width)

def HandleRecord.printed (record : HandleRecord width) : PrintedHandle width where
  handle := record.handle
  protocols := record.protocols.map fun protocol =>
    (protocol.guid, table.print protocol.interface protocol.imageRef)

def AddressStruct.printed (entry : AddressStruct width) : PrintedAddress width :=
  table.print entry.address entry.imageRef

def ProtocolRecord.printed (record : ProtocolRecord width) : PrintedProtocol width where
  guid := record.guid
  interfaces := record.interfaces.map (AddressStruct.printed table)
  notifies := record.notifies.map (AddressStruct.printed table)

def SmiHandlerStruct.printed (entry : SmiHandlerStruct width) : PrintedSmiHandler width where
  smiHandle := entry.smiHandle
  handler := table.print entry.handler entry.imageRef

def DatabaseRecord.images : DatabaseRecord width → List (ImageRecord width)
  | .image record => [record]
  | _ => []

def DatabaseRecord.handleLines : DatabaseRecord width → List (PrintedHandle width)
  | .handle record => [record.printed table]
  | _ => []

def DatabaseRecord.protocolLines : DatabaseRecord width → List (PrintedProtocol width)
  | .protocol record => [record.printed table]
  | _ => []

def DatabaseRecord.smiLines : DatabaseRecord width → List (PrintedSmiEntry width)
  | .smi record =>
      if record.isRootHandler then []
      else [⟨record.handlerType, record.handlers.map (SmiHandlerStruct.printed table)⟩]
  | _ => []

def DatabaseRecord.rootLines : DatabaseRecord width → List (PrintedSmiHandler width)
  | .smi record =>
      if record.isRootHandler then record.handlers.map (SmiHandlerStruct.printed table)
      else []
  | _ => []

variable {memory : Memory} {position : Nat}

theorem readLe_count {count sizeofEntry size : Nat} (wide : 2 ^ 32 ≤ 256 ^ width)
    (positive : 0 < sizeofEntry) (within : count * sizeofEntry ≤ size) (short : size < 2 ^ 32)
    {address : Nat} (held : memory.Holds address (toBytes width count)) :
    memory.readLe address width = count := by
  have atMost := Nat.le_mul_of_pos_right count positive
  exact held.readLe_eq (by omega)

theorem dumpHandle_of_holds {record : HandleRecord width} (uintn : 0 < width)
    (wide : 2 ^ 32 ≤ 256 ^ width) (short : record.size < 2 ^ 32)
    (held : memory.Holds position record.encode) :
    (⟨readUintn memory (position + 12),
      dumpProtocolInterfacesOnHandleStruct memory table position⟩ : PrintedHandle width) =
      record.printed table := by
  simp only [HandleRecord.encode, Memory.holds_append, List.length_append,
    length_encodeHeader, length_encodeUintn, length_toBytes] at held
  obtain ⟨⟨⟨-, handle⟩, count⟩, protocols⟩ := held
  have place : 12 + width + width = sizeofHandleRecord width := by
    rw [sizeofHandleRecord]
    omega
  rw [place] at protocols
  rw [dumpProtocolInterfacesOnHandleStruct,
    readLe_count wide (sizeof_pos uintn).1 (Nat.le_add_left _ _) short count,
    readEntries_of_holds HandleProtocolStruct.length_encode
      readHandleProtocolStruct_of_holds _ _ protocols,
    readUintn_of_holds handle, HandleRecord.printed]

theorem dumpProtocol_of_holds {record : ProtocolRecord width} (uintn : 0 < width)
    (wide : 2 ^ 32 ≤ 256 ^ width) (short : record.size < 2 ^ 32)
    (held : memory.Holds position record.encode) :
    (⟨readGuid memory (position + 12),
      dumpProtocolInterfacesOnProtocolStruct memory table position,
      dumpProtocolNotifyOnProtocolStruct memory table position⟩ : PrintedProtocol width) =
      record.printed table := by
  simp only [ProtocolRecord.encode, Memory.holds_append, List.length_append,
    length_encodeHeader, record.guid.property, length_toBytes, Nat.reduceAdd,
    length_flatMap_entries AddressStruct.length_encode] at held
  obtain ⟨⟨⟨⟨⟨-, guid⟩, interfaceCount⟩, notifyCount⟩, interfaces⟩, notifies⟩ := held
  have place : 28 + width + width = sizeofProtocolRecord width := by
    rw [sizeofProtocolRecord]
    omega
  rw [place] at interfaces notifies
  rw [← Nat.add_assoc position] at notifies
  have atMost : record.interfaces.length * sizeofAddressStruct width ≤ record.size := by
    rw [ProtocolRecord.size]
    omega
  rw [dumpProtocolInterfacesOnProtocolStruct, dumpProtocolNotifyOnProtocolStruct,
    readLe_count wide (sizeof_pos uintn).2.1 atMost short interfaceCount,
    readLe_count wide (sizeof_pos uintn).2.1 (Nat.le_add_left _ _) short notifyCount,
    readEntries_of_holds AddressStruct.length_encode readAddressStruct_of_holds _ _ interfaces,
    readEntries_of_holds AddressStruct.length_encode readAddressStruct_of_holds _ _ notifies,
    readGuid_of_holds guid]
  rfl

theorem dumpHandlers_of_holds {record : SmiRecord width} (uintn : 0 < width)
    (wide : 2 ^ 32 ≤ 256 ^ width) (short : record.size < 2 ^ 32)
    (held : memory.Holds position record.encode) :
    isRootHandler memory position = record.isRootHandler ∧
      readGuid memory (position + 16) = record.handlerType ∧
      dumpHandlersOnSmiStruct memory table position =
        record.handlers.map (SmiHandlerStruct.printed table) := by
  simp only [SmiRecord.encode, Memory.holds_append, List.length_append, length_encodeHeader,
    record.reserved.property, record.handlerType.property, length_toBytes,
    Nat.reduceAdd] at held
  obtain ⟨⟨⟨⟨⟨-, isRoot⟩, -⟩, handlerType⟩, count⟩, handlers⟩ := held
  refine ⟨?_, readGuid_of_holds handlerType, ?_⟩
  · have byte := isRoot.readLe_eq (by cases record.isRootHandler <;> decide)
    rw [isRootHandler, byte]
    cases record.isRootHandler <;> rfl
  · rw [dumpHandlersOnSmiStruct,
      readLe_count wide (sizeof_pos uintn).2.2.1 (Nat.le_add_left _ _) short count]
    exact congrArg (List.map _) (readEntries_of_holds SmiHandlerStruct.length_encode
      readSmiHandlerStruct_of_holds _ _ handlers)

end Printed

/-! ## The walkers over encoded records -/

section Walkers

variable {width : Nat} {memory : Memory} {records : List (DatabaseRecord width)}
variable {mSmmCoreDatabase fuel : Nat} (table : ImageTable width)

/-- A buffer that holds records whose lengths fit their headers, for a UINTN of 32 or 64
bits and with fuel for every byte. -/
structure HoldsRecords (memory : Memory) (mSmmCoreDatabase fuel : Nat)
    (records : List (DatabaseRecord width)) : Prop where
  uintn : width = 4 ∨ width = 8
  held : memory.Holds mSmmCoreDatabase (records.flatMap DatabaseRecord.encode)
  short : ∀ record ∈ records, record.size < 2 ^ 32
  enough : (records.flatMap DatabaseRecord.encode).length ≤ fuel

theorem HoldsRecords.wide (buffer : HoldsRecords memory mSmmCoreDatabase fuel records) :
    0 < width ∧ 2 ^ 32 ≤ 256 ^ width := by
  rcases buffer.uintn with rfl | rfl <;> decide

theorem dumpHandleDatabase_of_holds
    (buffer : HoldsRecords memory mSmmCoreDatabase fuel records) :
    dumpHandleDatabase memory table mSmmCoreDatabase
        (records.flatMap DatabaseRecord.encode).length fuel =
      some (records.flatMap (DatabaseRecord.handleLines table),
        mSmmCoreDatabase + (records.flatMap DatabaseRecord.encode).length) := by
  refine dumpRecords_of_holds buffer.held buffer.short buffer.enough ?_
  intro record member position there
  rw [hasSignature_of_holds there]
  cases record with
  | handle record =>
      exact congrArg (fun line => [line])
        (dumpHandle_of_holds table buffer.wide.1 buffer.wide.2 (buffer.short _ member) there)
  | _ => rfl

theorem dumpProtocolDatabase_of_holds
    (buffer : HoldsRecords memory mSmmCoreDatabase fuel records) :
    dumpProtocolDatabase memory table mSmmCoreDatabase
        (records.flatMap DatabaseRecord.encode).length fuel =
      some (records.flatMap (DatabaseRecord.protocolLines table),
        mSmmCoreDatabase + (records.flatMap DatabaseRecord.encode).length) := by
  refine dumpRecords_of_holds buffer.held buffer.short buffer.enough ?_
  intro record member position there
  rw [hasSignature_of_holds there]
  cases record with
  | protocol record =>
      exact congrArg (fun line => [line])
        (dumpProtocol_of_holds table buffer.wide.1 buffer.wide.2 (buffer.short _ member) there)
  | _ => rfl

theorem dumpSmiHandler_of_holds
    (buffer : HoldsRecords memory mSmmCoreDatabase fuel records) :
    dumpSmiHandler memory table mSmmCoreDatabase
        (records.flatMap DatabaseRecord.encode).length fuel =
      some (records.flatMap (DatabaseRecord.smiLines table),
        mSmmCoreDatabase + (records.flatMap DatabaseRecord.encode).length) := by
  refine dumpRecords_of_holds buffer.held buffer.short buffer.enough ?_
  intro record member position there
  rw [hasSignature_of_holds there]
  cases record with
  | smi record =>
      obtain ⟨isRoot, handlerType, handlers⟩ := dumpHandlers_of_holds table
        buffer.wide.1 buffer.wide.2 (buffer.short _ member) there
      rw [isRoot, handlerType, handlers, DatabaseRecord.smiLines]
      cases record.isRootHandler <;> rfl
  | _ => rfl

theorem dumpRootSmiHandler_of_holds
    (buffer : HoldsRecords memory mSmmCoreDatabase fuel records) :
    dumpRootSmiHandler memory table mSmmCoreDatabase
        (records.flatMap DatabaseRecord.encode).length fuel =
      some (records.flatMap (DatabaseRecord.rootLines table),
        mSmmCoreDatabase + (records.flatMap DatabaseRecord.encode).length) := by
  refine dumpRecords_of_holds buffer.held buffer.short buffer.enough ?_
  intro record member position there
  rw [hasSignature_of_holds there]
  cases record with
  | smi record =>
      obtain ⟨isRoot, -, handlers⟩ := dumpHandlers_of_holds table
        buffer.wide.1 buffer.wide.2 (buffer.short _ member) there
      rw [isRoot, handlers, DatabaseRecord.rootLines]
      cases record.isRootHandler <;> rfl
  | _ => rfl

theorem foldl_count (records : List (DatabaseRecord width)) (count : Nat) :
    records.foldl (fun count record => count + record.images.length) count =
      count + (records.flatMap DatabaseRecord.images).length := by
  induction records generalizing count with
  | nil => rfl
  | cons record rest ih =>
      rw [List.foldl_cons, ih, List.flatMap_cons, List.length_append, Nat.add_assoc]

theorem foldl_addImageStruct (images : List (ImageRecord width))
    (done : List (ImageStruct width)) :
    images.foldl ImageTable.addImageStruct
        ⟨done ++ List.replicate images.length zeroImageStruct, done.length⟩ =
      ⟨done ++ images.map ImageRecord.imageStruct, done.length + images.length⟩ := by
  induction images generalizing done with
  | nil => rfl
  | cons image rest ih =>
      have added : (⟨done ++ List.replicate (image :: rest).length zeroImageStruct,
          done.length⟩ : ImageTable width).addImageStruct image =
          ⟨(done ++ [image.imageStruct]) ++ List.replicate rest.length zeroImageStruct,
            (done ++ [image.imageStruct]).length⟩ := by
        rw [ImageTable.addImageStruct, if_neg (by simp)]
        simp [List.replicate_succ]
      rw [List.foldl_cons, added, ih, List.map_cons, List.length_append, List.length_cons,
        List.length_cons, List.length_nil, List.append_assoc, List.singleton_append,
        Nat.zero_add, Nat.add_assoc, Nat.add_comm 1]

theorem foldl_images (records : List (DatabaseRecord width))
    (printed : List (ImageRecord width)) (table : ImageTable width) :
    records.foldl (fun state record => (state.1 ++ record.images,
        record.images.foldl ImageTable.addImageStruct state.2)) (printed, table) =
      (printed ++ records.flatMap DatabaseRecord.images,
        (records.flatMap DatabaseRecord.images).foldl ImageTable.addImageStruct table) := by
  induction records generalizing printed table with
  | nil => simp
  | cons record rest ih =>
      rw [List.foldl_cons, ih, List.flatMap_cons, List.append_assoc, List.foldl_append]

theorem dumpSmmLoadedImage_of_holds
    (buffer : HoldsRecords memory mSmmCoreDatabase fuel records) :
    dumpSmmLoadedImage memory true mSmmCoreDatabase
        (records.flatMap DatabaseRecord.encode).length fuel =
      some (records.flatMap DatabaseRecord.images,
        ⟨(records.flatMap DatabaseRecord.images).map ImageRecord.imageStruct,
          (records.flatMap DatabaseRecord.images).length⟩,
        mSmmCoreDatabase + (records.flatMap DatabaseRecord.encode).length) := by
  have counts : ∀ record ∈ records, ∀ position, memory.Holds position record.encode →
      ∀ count, (if hasSignature memory imageSignature position then count + 1 else count) =
        count + record.images.length := by
    intro record _ position there count
    rw [hasSignature_of_holds there]
    cases record <;> rfl
  have adds : ∀ record ∈ records, ∀ position, memory.Holds position record.encode →
      ∀ state : List (ImageRecord width) × ImageTable width,
        (if hasSignature memory imageSignature position then
            (state.1 ++ [readImageRecord memory position],
              state.2.addImageStruct (readImageRecord memory position))
          else (state.1, state.2)) =
          (state.1 ++ record.images,
            record.images.foldl ImageTable.addImageStruct state.2) := by
    intro record _ position there state
    rw [hasSignature_of_holds there]
    cases record with
    | image record =>
        have read : readImageRecord memory position = record := readImageRecord_of_holds there
        change (state.1 ++ [readImageRecord memory position],
          state.2.addImageStruct (readImageRecord memory position)) = _
        rw [read]
        rfl
    | _ => exact Prod.ext (List.append_nil _).symm rfl
  have room := foldl_addImageStruct (records.flatMap DatabaseRecord.images) []
  rw [dumpSmmLoadedImage,
    walkDatabase_of_holds 0 buffer.held buffer.short buffer.enough counts, foldl_count,
    Nat.zero_add]
  dsimp only
  rw [if_neg (by decide),
    walkDatabase_of_holds _ buffer.held buffer.short buffer.enough adds, foldl_images]
  simp only [List.nil_append, List.length_nil, Nat.zero_add] at room ⊢
  rw [Option.map_some, room]

end Walkers

end AppEfi.SmmCore
