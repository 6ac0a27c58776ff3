import AppEfi.Lib.Loop
import AppEfi.SmmCore.Reply

/-!
# The transfer of the SMM core database

`GetSmmCoreDatabase` of SmmCoreDumpApp.c, the shell application's side of the
exchange with `SmmCoreDumpHandler`.  Both sides act on one memory, which holds
the communication region; the application's buffer for the database is pool
memory and has offsets instead of addresses.  `Communicate` is a parameter.
-/

set_option autoImplicit false

namespace AppEfi.SmmCore

open AppEfi.LittleEndian
open AppEfi.Loop

/-- `SMM_CORE_DUMP_GUID`, as it lies in memory. -/
def mSmmCoreDumpGuid : List UInt8 :=
  toBytes 4 0x49174342 ++ toBytes 2 0x7108 ++ toBytes 2 0x409b ++
    [0x8b, 0xbe, 0x65, 0xfd, 0xa8, 0x53, 0x89, 0xf5]

/-- `OFFSET_OF (EFI_SMM_COMMUNICATE_HEADER, Data)`. -/
def offsetOfData (width : Nat) : Nat := 16 + width

def efiPageSize : Nat := 0x1000

def efiConventionalMemory : Nat := 7

structure MemoryDescriptor where
  type : Nat
  physicalStart : Nat
  numberOfPages : Nat
  deriving DecidableEq, Repr

def pagesToSize (width pages : Nat) : Nat := toUintn width (toUintn width pages * efiPageSize)

/-- The communication region: its address and its size.  `none` fails the ASSERT. -/
def findCommRegion (width : Nat) : List MemoryDescriptor → Option (Nat × Nat)
  | [] => none
  | entry :: rest =>
      if entry.type = efiConventionalMemory then
        if pagesToSize width entry.numberOfPages ≥ efiPageSize then
          some (toUintn width entry.physicalStart, pagesToSize width entry.numberOfPages)
        else findCommRegion width rest
      else findCommRegion width rest

/-- What `Communicate` returns: whether its status is an error, the memory and the
updated CommSize. -/
structure CommunicateResult where
  error : Bool
  memory : Memory
  commSize : Nat

/-- `EFI_SMM_COMMUNICATION_PROTOCOL.Communicate`, with CommBuffer and CommSize. -/
abbrev Communicate := Memory → Nat → Nat → CommunicateResult

/-- What the application leaves: `mSmmCoreDatabase` (`none` is `NULL`) with its size, and
the ranges of it that were written. -/
structure AppResult where
  memory : Memory
  mSmmCoreDatabase : Option Memory
  mSmmCoreDatabaseSize : Nat
  copies : List Range

/-- The state of the transfer loop. -/
structure AppState where
  memory : Memory
  commSize : Nat
  buffer : Memory
  copies : List Range

section App

variable (width commBuffer : Nat)

def writeCommHeader (messageLength : Nat) (memory : Memory) : Memory :=
  (memory.write commBuffer mSmmCoreDumpGuid).write (commBuffer + 16)
    (toBytes width messageLength)

def writeParameterHeader (command dataLength : Nat) (memory : Memory) : Memory :=
  let data := commBuffer + offsetOfData width
  ((memory.write data (toBytes 4 command)).write (data + 4) (toBytes 4 dataLength)).write
    (data + 8) (toBytes 8 (2 ^ 64 - 1))

/-- `sizeof (EFI_GUID) + sizeof (UINTN) + CommHeader->MessageLength`. -/
def commSize (memory : Memory) : Nat :=
  toUintn width (16 + width + memory.readLe (commBuffer + 16) width)

def getInfoRequest (memory : Memory) : Memory :=
  (writeParameterHeader width commBuffer commandGetInfo sizeofGetInfo
    (writeCommHeader width commBuffer sizeofGetInfo memory)).write
      (commBuffer + offsetOfData width + 16) (toBytes 8 0)

/-- The message of the data requests before its DumpBuffer and DumpOffset are set. -/
def getDataMessage (memory : Memory) : Memory :=
  writeParameterHeader width commBuffer commandGetDataByOffset sizeofGetDataByOffset
    (writeCommHeader width commBuffer sizeofGetDataByOffset memory)

def getDataRequest (memory : Memory) : Memory :=
  let message := getDataMessage width commBuffer memory
  let data := commBuffer + offsetOfData width
  (message.write (data + 24) (toBytes 8 (commBuffer + commSize width commBuffer message))).write
    (data + 32) (toBytes 8 0)

variable (communicate : Communicate)

/-- One test and one iteration of the transfer loop. -/
def transferBody (size databaseSize : Nat) (state : AppState) : Control AppState AppResult :=
  let data := commBuffer + offsetOfData width
  let dumpOffset := state.memory.readLe (data + 32) 8
  if dumpOffset < databaseSize then
    let offset := toUintn width dumpOffset
    let dumpSize :=
      if size ≤ databaseSize - dumpOffset then size else databaseSize - dumpOffset
    let reply := communicate (state.memory.write (data + 16) (toBytes 8 dumpSize)) commBuffer
      state.commSize
    -- The status of Communicate is only asserted.
    if reply.memory.readLe (data + 8) 8 ≠ 0 then
      .stop ⟨reply.memory, none, databaseSize, state.copies⟩
    else
      let count := toUintn width (reply.memory.readLe (data + 16) 8)
      let source := toUintn width (reply.memory.readLe (data + 24) 8)
      .next {
        memory := reply.memory
        commSize := reply.commSize
        buffer := state.buffer.write offset (reply.memory.bytesAt source count)
        copies := state.copies ++ [⟨offset, count⟩] }
  else .stop ⟨state.memory, some state.buffer, databaseSize, state.copies⟩

/-- The exchange over the region of `size` bytes at `commBuffer`. -/
def transfer (allocateZeroPool : Nat → Bool) (size fuel : Nat) (memory : Memory) :
    Option AppResult :=
  let data := commBuffer + offsetOfData width
  let request := getInfoRequest width commBuffer memory
  let reply := communicate request commBuffer (commSize width commBuffer request)
  if reply.error then some ⟨reply.memory, none, 0, []⟩
  else if reply.memory.readLe (data + 8) 8 ≠ 0 then some ⟨reply.memory, none, 0, []⟩
  else
    let databaseSize := toUintn width (reply.memory.readLe (data + 16) 8)
    if allocateZeroPool databaseSize then
      let message := getDataMessage width commBuffer reply.memory
      let commSize := commSize width commBuffer message
      loop (transferBody width commBuffer communicate (size - commSize) databaseSize) fuel
        ⟨getDataRequest width commBuffer reply.memory, commSize, fun _ => 0, []⟩
    else some ⟨reply.memory, none, databaseSize, []⟩

end App

/-- `none` means that `fuel` iterations did not end the transfer loop.  The protocol and
the region table are `none` where the firmware has none. -/
def getSmmCoreDatabase (width : Nat) (smmCommunication : Option Communicate)
    (regionTable : Option (List MemoryDescriptor)) (allocateZeroPool : Nat → Bool)
    (fuel : Nat) (memory : Memory) : Option AppResult :=
  match smmCommunication, regionTable with
  | some communicate, some entries =>
      match findCommRegion width entries with
      | some (commBuffer, size) =>
          transfer width commBuffer communicate allocateZeroPool size fuel memory
      | none => some ⟨memory, none, 0, []⟩
  | _, _ => some ⟨memory, none, 0, []⟩

/-! ## The assumptions on Communicate -/

def handlerMemory (width : Nat) (smmIsBufferOutsideSmmValid : Nat → Nat → Bool)
    (mSmmCoreDatabase : Option (List UInt8)) (commBuffer commBufferSize : Nat)
    (memory : Memory) : Memory :=
  (smmCoreDumpHandler width smmIsBufferOutsideSmmValid mSmmCoreDatabase (some commBuffer)
    (some commBufferSize) memory).memory

/-- A message with the handler's GUID reaches the handler, which gets the data behind the
header and its size. -/
def Delivers (width : Nat) (handler : Nat → Nat → Memory → Memory) (communicate : Communicate)
    (commBuffer : Nat) : Prop :=
  ∀ (memory : Memory) (commSize : Nat), memory.Holds commBuffer mSmmCoreDumpGuid →
    offsetOfData width ≤ commSize →
    communicate memory commBuffer commSize = ⟨false,
      handler (commBuffer + offsetOfData width) (commSize - offsetOfData width) memory,
      commSize⟩

/-- No message gets through: the handler is not registered, or the buffer is refused. -/
def Refuses (communicate : Communicate) (commBuffer : Nat) : Prop :=
  ∀ (memory : Memory) (commSize : Nat),
    (communicate memory commBuffer commSize).error = true

/-! ## The messages -/

theorem findCommRegion_size {width commBuffer size : Nat} {entries : List MemoryDescriptor}
    (found : findCommRegion width entries = some (commBuffer, size)) :
    efiPageSize ≤ size := by
  induction entries with
  | nil => simp [findCommRegion] at found
  | cons entry rest ih =>
      rw [findCommRegion] at found
      split at found
      · split at found
        · rename_i enough
          obtain ⟨-, rfl⟩ := Prod.mk.inj (Option.some.inj found)
          exact enough
        · exact ih found
      · exact ih found

section Messages

variable {width : Nat} (commBuffer : Nat) (memory : Memory)

@[simp] theorem length_mSmmCoreDumpGuid : mSmmCoreDumpGuid.length = 16 := rfl

theorem message_fields (uintn : width = 4 ∨ width = 8) (command messageLength : Nat)
    (commandFits : command < 256 ^ 4) (lengthFits : messageLength < 256 ^ 2) :
    let message := writeParameterHeader width commBuffer command messageLength
      (writeCommHeader width commBuffer messageLength memory)
    message.Holds commBuffer mSmmCoreDumpGuid ∧
      commSize width commBuffer message = offsetOfData width + messageLength ∧
      message.readLe (commBuffer + offsetOfData width) 4 = command ∧
      message.readLe (commBuffer + offsetOfData width + 8) 8 = 2 ^ 64 - 1 := by
  have wide : messageLength + 24 < 256 ^ width := by
    rcases uintn with rfl | rfl <;> omega
  have eight : width ≤ 8 := by omega
  dsimp only [writeParameterHeader, writeCommHeader, offsetOfData]
  refine ⟨?_, ?_, ?_, ?_⟩
  · refine Memory.holds_write_of_disjoint (Memory.holds_write_of_disjoint
      (Memory.holds_write_of_disjoint (Memory.holds_write_of_disjoint
        (Memory.holds_write _ _ _) ?_) ?_) ?_) ?_
    all_goals
      left
      change commBuffer + 16 ≤ _
      omega
  · have read : ∀ other : Memory, (other.write (commBuffer + 16)
        (toBytes width messageLength)).readLe (commBuffer + 16) width = messageLength := by
      intro other
      rw [Memory.readLe_write_toBytes, Nat.mod_eq_of_lt (by omega)]
    rw [commSize, Memory.readLe_write_field _ _ _ _ _ _ (by omega),
      Memory.readLe_write_field _ _ _ _ _ _ (by omega),
      Memory.readLe_write_field _ _ _ _ _ _ (by omega), read, toUintn_of_lt (by omega)]
  · rw [Memory.readLe_write_field _ _ _ _ _ _ (by omega),
      Memory.readLe_write_field _ _ _ _ _ _ (by omega), Memory.readLe_write_toBytes,
      Nat.mod_eq_of_lt commandFits]
  · rw [Memory.readLe_write_toBytes]
    norm_num

end Messages

/-! ## The transfer loop -/

section Loop

variable {width commBuffer size : Nat} {database : List UInt8}

/-- The database got into the buffer: its bytes, each of them once, and no others. -/
structure Transferred (database : List UInt8) (buffer : Memory) (copies : List Range) :
    Prop where
  bytes : buffer.bytesAt 0 database.length = database
  once : ∀ offset < database.length,
    copies.countP (fun range => range.covers offset) = 1
  inside : ∀ range ∈ copies, range.start + range.length ≤ database.length

/-- What holds at the head of the transfer loop: the request is set up for the next chunk,
and the chunks so far tile the database up to DumpOffset. -/
structure Transferring (width : Nat) (smmIsBufferOutsideSmmValid : Nat → Nat → Bool)
    (database : List UInt8) (commBuffer : Nat) (state : AppState) : Prop where
  guid : state.memory.Holds commBuffer mSmmCoreDumpGuid
  commSize : state.commSize = offsetOfData width + sizeofGetDataByOffset
  command : state.memory.readLe (commBuffer + offsetOfData width) 4 = commandGetDataByOffset
  -- A message that the handler ignores leaves the error that is stored here.
  pending : smmIsBufferOutsideSmmValid (commBuffer + offsetOfData width)
      sizeofGetDataByOffset = true ∨
    state.memory.readLe (commBuffer + offsetOfData width + 8) 8 ≠ 0
  dumpBuffer : state.memory.readLe (commBuffer + offsetOfData width + 24) 8 =
    commBuffer + offsetOfData width + sizeofGetDataByOffset
  dumpOffset : state.memory.readLe (commBuffer + offsetOfData width + 32) 8 ≤
    database.length
  bytes : state.buffer.bytesAt 0
      (state.memory.readLe (commBuffer + offsetOfData width + 32) 8) =
    database.take (state.memory.readLe (commBuffer + offsetOfData width + 32) 8)
  tiles : Range.Tiles 0 (state.memory.readLe (commBuffer + offsetOfData width + 32) 8)
    state.copies

/-- What the loop leaves: the database, or nothing after the handler refused a range. -/
structure Complete (smmIsBufferOutsideSmmValid : Nat → Nat → Bool) (database : List UInt8)
    (result : AppResult) : Prop where
  success : ∀ buffer ∈ result.mSmmCoreDatabase,
    result.mSmmCoreDatabaseSize = database.length ∧
      Transferred database buffer result.copies
  failure : result.mSmmCoreDatabase = none →
    ∃ address length, smmIsBufferOutsideSmmValid address length = false

def remaining (width commBuffer : Nat) (database : List UInt8) (state : AppState) : Nat :=
  database.length - state.memory.readLe (commBuffer + offsetOfData width + 32) 8

theorem Transferring.complete {smmIsBufferOutsideSmmValid : Nat → Nat → Bool}
    {state : AppState}
    (transferring : Transferring width smmIsBufferOutsideSmmValid database commBuffer state)
    (finished : ¬ state.memory.readLe (commBuffer + offsetOfData width + 32) 8 <
      database.length) :
    Complete smmIsBufferOutsideSmmValid database
      ⟨state.memory, some state.buffer, database.length, state.copies⟩ := by
  have reached := Nat.le_antisymm transferring.dumpOffset (Nat.not_lt.mp finished)
  have bytes := transferring.bytes
  have tiles := transferring.tiles
  rw [reached] at bytes tiles
  refine ⟨fun buffer given => ?_, fun missing => nomatch missing⟩
  obtain rfl : state.buffer = buffer := Option.some.inj given
  refine ⟨rfl, ?_, ?_, ?_⟩
  · rw [bytes, List.take_length]
  · exact fun offset below => tiles.countP_eq_one offset (Nat.zero_le _) below
  · exact fun range member => (tiles.inside range member).2

theorem bytesAt_write_chunk {buffer : Memory} {offset : Nat} (count : Nat)
    (bytes : buffer.bytesAt 0 offset = database.take offset)
    (below : offset + count ≤ database.length) :
    (buffer.write offset ((database.drop offset).take count)).bytesAt 0 (offset + count) =
      database.take (offset + count) := by
  have chunk : ((database.drop offset).take count).length = count := by
    simp only [List.length_take, List.length_drop]
    omega
  rw [Memory.bytesAt_add, Memory.bytesAt_write_of_disjoint _ _ _ _ _ (by omega), bytes,
    Nat.zero_add, (Memory.holds_write buffer offset _).bytesAt_eq chunk, List.take_add]

theorem accessDenied_ne_zero (uintn : width = 4 ∨ width = 8) :
    accessDenied width % 256 ^ 8 ≠ 0 := by
  rcases uintn with rfl | rfl <;> decide

variable {smmIsBufferOutsideSmmValid : Nat → Nat → Bool} {communicate : Communicate}

theorem Transferring.request {state : AppState}
    (transferring : Transferring width smmIsBufferOutsideSmmValid database commBuffer state)
    (dumpSize : Nat) (fits : dumpSize < 256 ^ 8) :
    let data := commBuffer + offsetOfData width
    let request := state.memory.write (data + 16) (toBytes 8 dumpSize)
    request.Holds commBuffer mSmmCoreDumpGuid ∧
      request.readLe data 4 = commandGetDataByOffset ∧
      request.readLe (data + 8) 8 = state.memory.readLe (data + 8) 8 ∧
      (readGetDataByOffset request data).dumpSize = dumpSize ∧
      (readGetDataByOffset request data).dumpBuffer = data + sizeofGetDataByOffset ∧
      (readGetDataByOffset request data).dumpOffset = state.memory.readLe (data + 32) 8 := by
  dsimp only [readGetDataByOffset]
  refine ⟨?_, ?_, ?_, ?_, ?_, ?_⟩
  · refine Memory.holds_write_of_disjoint transferring.guid (Or.inl ?_)
    simp only [length_mSmmCoreDumpGuid, offsetOfData]
    omega
  · rw [Memory.readLe_write_field _ _ _ _ _ _ (by omega), transferring.command]
  · rw [Memory.readLe_write_field _ _ _ _ _ _ (by omega)]
  · rw [Memory.readLe_write_toBytes, Nat.mod_eq_of_lt fits]
  · rw [Memory.readLe_write_field _ _ _ _ _ _ (by omega), transferring.dumpBuffer]
  · rw [Memory.readLe_write_field _ _ _ _ _ _ (by omega)]

theorem Transferring.next {state : AppState} {after : Memory} {count offset : Nat}
    (uintn : width = 4 ∨ width = 8) (fits : database.length < 256 ^ width)
    (transferring : Transferring width smmIsBufferOutsideSmmValid database commBuffer state)
    (valid : smmIsBufferOutsideSmmValid (commBuffer + offsetOfData width)
      sizeofGetDataByOffset = true)
    (offsetEq : state.memory.readLe (commBuffer + offsetOfData width + 32) 8 = offset)
    (within : offset + count ≤ database.length)
    (region : commBuffer + offsetOfData width + sizeofGetDataByOffset < 256 ^ width)
    (answer : DataAnswer database (commBuffer + offsetOfData width)
      (readGetDataByOffset (state.memory.write (commBuffer + offsetOfData width + 16)
        (toBytes 8 count)) (commBuffer + offsetOfData width))
      (state.memory.write (commBuffer + offsetOfData width + 16) (toBytes 8 count)) after) :
    toUintn width (after.readLe (commBuffer + offsetOfData width + 16) 8) = count ∧
      after.readLe (commBuffer + offsetOfData width + 32) 8 = offset + count ∧
      Transferring width smmIsBufferOutsideSmmValid database commBuffer {
        memory := after
        commSize := state.commSize
        buffer := state.buffer.write offset (after.bytesAt
          (toUintn width (after.readLe (commBuffer + offsetOfData width + 24) 8)) count)
        copies := state.copies ++ [⟨offset, count⟩] } := by
  have wide : 256 ^ width ≤ 256 ^ 8 := Nat.pow_le_pow_right (by decide) (by omega)
  obtain ⟨guid, command, -, dumpSize, dumpBuffer, dumpOffset⟩ :=
    transferring.request count (by omega)
  obtain ⟨below, keptCommand, -, answerSize, answerBuffer, answerOffset, copied⟩ := answer
  have counted : copyCount database.length (readGetDataByOffset (state.memory.write
      (commBuffer + offsetOfData width + 16) (toBytes 8 count))
      (commBuffer + offsetOfData width)) = count := by
    rw [copyCount, dumpSize, dumpOffset]
    omega
  rw [counted] at answerSize answerOffset copied
  rw [dumpOffset, offsetEq] at answerOffset copied
  rw [dumpBuffer] at answerBuffer copied
  have kept : after.Holds commBuffer mSmmCoreDumpGuid := by
    rw [Memory.Holds, Memory.bytesAt_congr after _ commBuffer _ fun location _ inside =>
      below location ?_]
    · exact guid
    · simp only [length_mSmmCoreDumpGuid, offsetOfData] at inside ⊢
      omega
  refine ⟨by rw [answerSize, toUintn_of_lt (by omega)], answerOffset, ?_⟩
  rw [answerBuffer, toUintn_of_lt region, copied]
  refine ⟨kept, transferring.commSize, keptCommand.trans command, Or.inl valid,
    answerBuffer, ?_, ?_, ?_⟩
  · rw [answerOffset]
    exact within
  · rw [answerOffset]
    exact bytesAt_write_chunk count (offsetEq ▸ transferring.bytes) within
  · rw [answerOffset]
    exact (offsetEq ▸ transferring.tiles).snoc count

/-- One chunk: the buffer gets the next bytes of the database, or the loop stops without a
database. -/
theorem transferBody_establishes (uintn : width = 4 ∨ width = 8)
    (fits : database.length < 256 ^ width) (positive : 0 < size)
    (region : commBuffer + offsetOfData width + sizeofGetDataByOffset + size ≤ 256 ^ width)
    (delivers : Delivers width (handlerMemory width smmIsBufferOutsideSmmValid (some database))
      communicate commBuffer) (state : AppState)
    (transferring :
      Transferring width smmIsBufferOutsideSmmValid database commBuffer state) :
    Establishes (Transferring width smmIsBufferOutsideSmmValid database commBuffer)
      (Complete smmIsBufferOutsideSmmValid database) (remaining width commBuffer database)
      state (transferBody width commBuffer communicate size database.length state) := by
  have wide : 256 ^ width ≤ 256 ^ 8 := Nat.pow_le_pow_right (by decide) (by omega)
  by_cases more : state.memory.readLe (commBuffer + offsetOfData width + 32) 8 <
      database.length
  swap
  · rw [transferBody, if_neg more]
    exact transferring.complete more
  set offset := state.memory.readLe (commBuffer + offsetOfData width + 32) 8 with offsetEq
  set count := if size ≤ database.length - offset then size else database.length - offset
    with countEq
  have chunk : 0 < count ∧ offset + count ≤ database.length := by
    rw [countEq]
    split <;> omega
  obtain ⟨guid, command, returnStatus, -, dumpBuffer, dumpOffset⟩ :=
    transferring.request count (by omega)
  set request := state.memory.write (commBuffer + offsetOfData width + 16) (toBytes 8 count)
    with requestEq
  have delivered := delivers request state.commSize guid
    (by rw [transferring.commSize]; exact Nat.le_add_right _ _)
  rw [transferring.commSize, Nat.add_sub_cancel_left, ← transferring.commSize] at delivered
  simp only [transferBody, ← offsetEq, if_pos more, ← countEq, ← requestEq, delivered]
  set after := handlerMemory width smmIsBufferOutsideSmmValid (some database)
    (commBuffer + offsetOfData width) sizeofGetDataByOffset request with afterEq
  -- The definitions behind these names must not be unfolded below.
  clear_value after request count
  have status : after.readLe (commBuffer + offsetOfData width + 8) 8 ≠ 0 ∨
      after.readLe (commBuffer + offsetOfData width + 8) 8 = 0 := ne_or_eq _ _
  have granted := fun valid => @smmCoreDumpHandler_getData width
    smmIsBufferOutsideSmmValid database (commBuffer + offsetOfData width) request fits
    (by omega) valid command (by omega) (by omega) (by omega)
  rw [← handlerMemory, ← afterEq] at granted
  cases status with
  | inl failed =>
      rw [if_pos failed]
      refine ⟨fun buffer given => by simp at given, fun _ => ?_⟩
      cases valid : smmIsBufferOutsideSmmValid (commBuffer + offsetOfData width)
          sizeofGetDataByOffset with
      | false => exact ⟨_, _, valid⟩
      | true =>
          rcases granted valid with ⟨denied, -⟩ | answer
          · exact ⟨_, _, denied⟩
          · exact absurd answer.returnStatus failed
  | inr succeeded =>
      rw [if_neg (not_not.mpr succeeded)]
      have valid : smmIsBufferOutsideSmmValid (commBuffer + offsetOfData width)
          sizeofGetDataByOffset = true := by
        rcases transferring.pending with valid | failed
        · exact valid
        · by_contra refused
          refine failed ?_
          rw [← returnStatus, ← succeeded, afterEq, handlerMemory,
            smmCoreDumpHandler_ignores _ _ (Or.inr (Bool.eq_false_iff.mpr refused))]
      rcases granted valid with ⟨-, denied⟩ | answer
      · exact absurd (denied.symm.trans succeeded) (accessDenied_ne_zero uintn)
      rw [requestEq] at answer
      obtain ⟨counted, advanced, next⟩ :=
        transferring.next uintn fits valid offsetEq.symm chunk.2 (by omega) answer
      rw [counted, toUintn_of_lt (by omega : offset < 256 ^ width), Establishes]
      refine ⟨next, ?_⟩
      rw [remaining, remaining, advanced, ← offsetEq]
      omega

end Loop

/-! ## The exchange -/

section Exchange

variable {width commBuffer size : Nat} {smmIsBufferOutsideSmmValid : Nat → Nat → Bool}
variable {communicate : Communicate}

theorem transferring_getDataRequest (uintn : width = 4 ∨ width = 8) (database : List UInt8)
    (memory : Memory)
    (region : commBuffer + offsetOfData width + sizeofGetDataByOffset < 256 ^ width) :
    commSize width commBuffer (getDataMessage width commBuffer memory) =
        offsetOfData width + sizeofGetDataByOffset ∧
      Transferring width smmIsBufferOutsideSmmValid database commBuffer
        ⟨getDataRequest width commBuffer memory,
          commSize width commBuffer (getDataMessage width commBuffer memory),
          fun _ => 0, []⟩ := by
  have wide : 256 ^ width ≤ 256 ^ 8 := Nat.pow_le_pow_right (by decide) (by omega)
  obtain ⟨guid, sized, command, returnStatus⟩ := message_fields commBuffer memory uintn
    commandGetDataByOffset sizeofGetDataByOffset (by decide) (by decide)
  rw [← getDataMessage] at guid sized command returnStatus
  have dumpOffset : (getDataRequest width commBuffer memory).readLe
      (commBuffer + offsetOfData width + 32) 8 = 0 := by
    rw [getDataRequest, Memory.readLe_write_toBytes, Nat.zero_mod]
  refine ⟨sized, ?_, sized, ?_, Or.inr ?_, ?_, ?_, ?_, ?_⟩
  · refine Memory.holds_write_of_disjoint (Memory.holds_write_of_disjoint guid ?_) ?_
    all_goals
      simp only [length_mSmmCoreDumpGuid, offsetOfData]
      omega
  · rw [getDataRequest, Memory.readLe_write_field _ _ _ _ _ _ (by omega),
      Memory.readLe_write_field _ _ _ _ _ _ (by omega), command]
  · rw [getDataRequest, Memory.readLe_write_field _ _ _ _ _ _ (by omega),
      Memory.readLe_write_field _ _ _ _ _ _ (by omega), returnStatus]
    decide
  · rw [getDataRequest, Memory.readLe_write_field _ _ _ _ _ _ (by omega),
      Memory.readLe_write_toBytes, sized, Nat.mod_eq_of_lt (by omega), Nat.add_assoc]
  · rw [dumpOffset]
    exact Nat.zero_le _
  · rw [dumpOffset]
    rfl
  · rw [dumpOffset]
    rfl

theorem getInfoRequest_fields (uintn : width = 4 ∨ width = 8) (memory : Memory) :
    (getInfoRequest width commBuffer memory).Holds commBuffer mSmmCoreDumpGuid ∧
      commSize width commBuffer (getInfoRequest width commBuffer memory) =
        offsetOfData width + sizeofGetInfo ∧
      (getInfoRequest width commBuffer memory).readLe (commBuffer + offsetOfData width) 4 =
        commandGetInfo ∧
      (getInfoRequest width commBuffer memory).readLe
        (commBuffer + offsetOfData width + 8) 8 ≠ 0 := by
  obtain ⟨guid, sized, command, returnStatus⟩ := message_fields commBuffer memory uintn
    commandGetInfo sizeofGetInfo (by decide) (by decide)
  refine ⟨Memory.holds_write_of_disjoint guid ?_, ?_, ?_, ?_⟩
  · simp only [length_mSmmCoreDumpGuid, offsetOfData]
    omega
  · rw [commSize, getInfoRequest, Memory.readLe_write_field _ _ _ _ _ _ ?_]
    · exact sized
    · simp only [offsetOfData]
      omega
  · rw [getInfoRequest, Memory.readLe_write_field _ _ _ _ _ _ (by omega), command]
  · rw [getInfoRequest, Memory.readLe_write_field _ _ _ _ _ _ (by omega), returnStatus]
    decide

/-- What the application leaves at its end. -/
structure Exchanged (smmIsBufferOutsideSmmValid : Nat → Nat → Bool)
    (mSmmCoreDatabase : Option (List UInt8)) (communicate : Communicate) (commBuffer : Nat)
    (allocateZeroPool : Nat → Bool) (result : AppResult) : Prop where
  success : ∀ buffer ∈ result.mSmmCoreDatabase, ∃ database ∈ mSmmCoreDatabase,
    result.mSmmCoreDatabaseSize = database.length ∧
      Transferred database buffer result.copies
  failure : result.mSmmCoreDatabase = none →
    mSmmCoreDatabase = none ∨ Refuses communicate commBuffer ∨
      (∃ poolSize, allocateZeroPool poolSize = false) ∨
      ∃ address length, smmIsBufferOutsideSmmValid address length = false

theorem loop_transferBody_returns (uintn : width = 4 ∨ width = 8) {database : List UInt8}
    (fits : database.length < 256 ^ width) (enough : efiPageSize ≤ size)
    (region : commBuffer + size ≤ 256 ^ width)
    (delivers : Delivers width (handlerMemory width smmIsBufferOutsideSmmValid (some database))
      communicate commBuffer) (fuel : Nat) (fuelled : database.length < fuel)
    (memory : Memory) :
    ∃ result, loop (transferBody width commBuffer communicate
        (size - commSize width commBuffer (getDataMessage width commBuffer memory))
        database.length) fuel ⟨getDataRequest width commBuffer memory,
          commSize width commBuffer (getDataMessage width commBuffer memory),
          fun _ => 0, []⟩ = some result ∧
      Complete smmIsBufferOutsideSmmValid database result := by
  have header : offsetOfData width ≤ 24 := by
    dsimp only [offsetOfData]
    omega
  dsimp only [efiPageSize] at enough
  obtain ⟨sized, initial⟩ := @transferring_getDataRequest width commBuffer
    smmIsBufferOutsideSmmValid uintn database memory
    (by dsimp only [sizeofGetDataByOffset]; omega)
  refine loop_returns (remaining width commBuffer database)
    (transferBody_establishes uintn fits ?_ ?_ delivers) fuel _ initial ?_
  · rw [sized, sizeofGetDataByOffset]
    omega
  · rw [sized, sizeofGetDataByOffset]
    omega
  · exact Nat.lt_of_le_of_lt (Nat.sub_le _ _) fuelled

theorem transfer_returns (uintn : width = 4 ∨ width = 8)
    {mSmmCoreDatabase : Option (List UInt8)}
    (fits : ∀ database ∈ mSmmCoreDatabase, database.length < 256 ^ width)
    (enough : efiPageSize ≤ size) (region : commBuffer + size ≤ 256 ^ width)
    (dispatches : Delivers width (handlerMemory width smmIsBufferOutsideSmmValid
        mSmmCoreDatabase) communicate commBuffer ∨ Refuses communicate commBuffer)
    (allocateZeroPool : Nat → Bool) (fuel : Nat)
    (fuelled : ∀ database ∈ mSmmCoreDatabase, database.length < fuel) (memory : Memory) :
    ∃ result, transfer width commBuffer communicate allocateZeroPool size fuel memory =
        some result ∧
      Exchanged smmIsBufferOutsideSmmValid mSmmCoreDatabase communicate commBuffer
        allocateZeroPool result := by
  rcases dispatches with delivers | refuses
  swap
  · refine ⟨_, by rw [transfer, if_pos (refuses _ _)], fun buffer given => by simp at given,
      fun _ => Or.inr (Or.inl refuses)⟩
  have wide : 256 ^ width ≤ 256 ^ 8 := Nat.pow_le_pow_right (by decide) (by omega)
  obtain ⟨guid, sized, command, returnStatus⟩ :=
    @getInfoRequest_fields width commBuffer uintn memory
  have delivered := delivers (getInfoRequest width commBuffer memory)
    (commSize width commBuffer (getInfoRequest width commBuffer memory)) guid
    (by rw [sized]; exact Nat.le_add_right _ _)
  rw [sized, Nat.add_sub_cancel_left, ← sized] at delivered
  -- Without an answer the application gives up.
  have unanswered : handlerMemory width smmIsBufferOutsideSmmValid mSmmCoreDatabase
      (commBuffer + offsetOfData width) sizeofGetInfo
      (getInfoRequest width commBuffer memory) = getInfoRequest width commBuffer memory →
      ∃ result, transfer width commBuffer communicate allocateZeroPool size fuel memory =
        some result ∧ result.mSmmCoreDatabase = none := by
    intro ignored
    refine ⟨⟨getInfoRequest width commBuffer memory, none, 0, []⟩, ?_, rfl⟩
    rw [transfer, delivered, ignored, if_neg Bool.false_ne_true, if_pos returnStatus]
  cases mSmmCoreDatabase with
  | none =>
      obtain ⟨result, run, missing⟩ := unanswered
        (smmCoreDumpHandler_ignores none sizeofGetInfo (Or.inl rfl))
      exact ⟨result, run, by simp [missing], fun _ => Or.inl rfl⟩
  | some database =>
      have databaseFits := fits database rfl
      cases valid : smmIsBufferOutsideSmmValid (commBuffer + offsetOfData width)
          sizeofGetInfo with
      | false =>
          obtain ⟨result, run, missing⟩ := unanswered
            (smmCoreDumpHandler_ignores _ sizeofGetInfo (Or.inr valid))
          exact ⟨result, run, by simp [missing],
            fun _ => Or.inr (Or.inr (Or.inr ⟨_, _, valid⟩))⟩
      | true =>
          have answer := @smmCoreDumpHandler_getInfo width smmIsBufferOutsideSmmValid database
            (commBuffer + offsetOfData width) (getInfoRequest width commBuffer memory)
            (by omega) valid command
          rw [← handlerMemory] at answer
          simp only [transfer, delivered, answer.returnStatus, answer.dumpSize,
            toUintn_of_lt databaseFits, Bool.false_eq_true, if_false, ne_eq,
            not_true_eq_false]
          cases allocated : allocateZeroPool database.length with
          | false =>
              refine ⟨_, by rw [if_neg (by simp)], by simp, fun _ => ?_⟩
              exact Or.inr (Or.inr (Or.inl ⟨_, allocated⟩))
          | true =>
              obtain ⟨result, run, complete⟩ := loop_transferBody_returns uintn databaseFits
                enough region delivers fuel (fuelled database rfl)
                (handlerMemory width smmIsBufferOutsideSmmValid (some database)
                  (commBuffer + offsetOfData width) sizeofGetInfo
                  (getInfoRequest width commBuffer memory))
              refine ⟨result, by rw [if_pos rfl, run], fun buffer given => ?_,
                fun missing => ?_⟩
              · exact ⟨database, rfl, complete.success buffer given⟩
              · exact Or.inr (Or.inr (Or.inr (complete.failure missing)))

/-- Over any communication region of a page or more, whatever the sizes, the exchange
ends; the application then has each byte of the handler's database once, at its own offset
and nothing else in its buffer, or none for one of the reasons in `Exchanged`. -/
theorem getSmmCoreDatabase_exchanges (uintn : width = 4 ∨ width = 8)
    {mSmmCoreDatabase : Option (List UInt8)}
    (fits : ∀ database ∈ mSmmCoreDatabase, database.length < 256 ^ width)
    {entries : List MemoryDescriptor}
    (found : findCommRegion width entries = some (commBuffer, size))
    (region : commBuffer + size ≤ 256 ^ width)
    (dispatches : Delivers width (handlerMemory width smmIsBufferOutsideSmmValid
        mSmmCoreDatabase) communicate commBuffer ∨ Refuses communicate commBuffer)
    (allocateZeroPool : Nat → Bool) (fuel : Nat)
    (fuelled : ∀ database ∈ mSmmCoreDatabase, database.length < fuel) (memory : Memory) :
    ∃ result, getSmmCoreDatabase width (some communicate) (some entries) allocateZeroPool fuel
        memory = some result ∧
      Exchanged smmIsBufferOutsideSmmValid mSmmCoreDatabase communicate commBuffer
        allocateZeroPool result := by
  obtain ⟨result, run, exchanged⟩ := transfer_returns uintn fits (findCommRegion_size found)
    region dispatches allocateZeroPool fuel fuelled memory
  refine ⟨result, ?_, exchanged⟩
  rw [getSmmCoreDatabase, found]
  exact run

end Exchange

/-- A firmware that looks at the GUID of the message only. -/
def communicateByGuid (width : Nat) (handler : Nat → Nat → Memory → Memory) : Communicate :=
  fun memory commBuffer commSize =>
    if memory.bytesAt commBuffer mSmmCoreDumpGuid.length = mSmmCoreDumpGuid then
      ⟨false, handler (commBuffer + offsetOfData width) (commSize - offsetOfData width) memory,
        commSize⟩
    else ⟨true, memory, commSize⟩

/-- A database of 10000 bytes over a region of one page, which is not the table's first. -/
theorem getSmmCoreDatabase_exchanges_threeChunks :
    ∃ result buffer, getSmmCoreDatabase 8
        (some (communicateByGuid 8 (handlerMemory 8 (fun _ _ => true)
          (some (List.replicate 10000 0x5A)))))
        (some [⟨3, 0x80000, 16⟩, ⟨efiConventionalMemory, 0x70000, 1⟩]) (fun _ => true) 10001
        (fun _ => 0) = some result ∧
      result.mSmmCoreDatabase = some buffer ∧
        Transferred (List.replicate 10000 0x5A) buffer result.copies := by
  have length : (List.replicate 10000 (0x5A : UInt8)).length = 10000 := List.length_replicate
  obtain ⟨result, run, exchanged⟩ := @getSmmCoreDatabase_exchanges 8 0x70000 0x1000
    (fun _ _ => true)
    (communicateByGuid 8 (handlerMemory 8 (fun _ _ => true)
      (some (List.replicate 10000 0x5A)))) (Or.inr rfl)
    (some (List.replicate 10000 0x5A))
    (fun database present => by rw [← Option.some.inj present, length]; decide)
    [⟨3, 0x80000, 16⟩, ⟨efiConventionalMemory, 0x70000, 1⟩] (by decide) (by decide)
    (Or.inl fun memory commSize holds _ => if_pos holds) (fun _ => true) 10001
    (fun database present => by rw [← Option.some.inj present, length]; decide) (fun _ => 0)
  cases stored : result.mSmmCoreDatabase with
  | some buffer =>
      obtain ⟨database, present, -, transferred⟩ := exchanged.success buffer stored
      obtain rfl := Option.some.inj present
      exact ⟨result, buffer, run, stored, transferred⟩
  | none =>
      rcases exchanged.failure stored with missing | refuses | ⟨_, failed⟩ | ⟨_, _, refused⟩
      · cases missing
      · have holds := Memory.holds_ofBytesAt 0x70000 mSmmCoreDumpGuid
        have delivered := refuses (Memory.ofBytesAt 0x70000 mSmmCoreDumpGuid) 0
        rw [Memory.Holds] at holds
        rw [communicateByGuid, if_pos holds] at delivered
        cases delivered
      · cases failed
      · cases refused

end AppEfi.SmmCore
