import AppEfi.SmmCore.Reply

/-!
# What a data request's reply says

The reply of `SmmCoreDumpHandlerGetDataByOffset` against what was copied:
DumpSize, the bytes in the caller's DumpBuffer and DumpOffset.  The reply is
written after the copy, so that a DumpBuffer which meets the communication
buffer gets the reply's bytes there.
-/

set_option autoImplicit false

namespace AppEfi.SmmCore

open AppEfi.LittleEndian

/-- A data request that passes both checks. -/
structure AcceptedData (width : Nat) (smmIsBufferOutsideSmmValid : Nat → Nat → Bool)
    (commBuffer : Nat) (memory : Memory) : Prop where
  commBuffer_valid : smmIsBufferOutsideSmmValid commBuffer sizeofGetDataByOffset = true
  command : memory.readLe commBuffer 4 = commandGetDataByOffset
  target_valid : smmIsBufferOutsideSmmValid
    (toUintn width (readGetDataByOffset memory commBuffer).dumpBuffer)
    (toUintn width (readGetDataByOffset memory commBuffer).dumpSize) = true

/-- The number of bytes that were copied out of the database. -/
def HandlerState.delivered (state : HandlerState) : Nat :=
  (state.databaseReads.map Range.length).sum

/-- The reply in `state` tells what was delivered. -/
structure Truthful (width : Nat) (database : List UInt8) (commBuffer : Nat)
    (request : GetDataByOffset) (state : HandlerState) : Prop where
  dumpSize : state.memory.readLe (commBuffer + 16) 8 = state.delivered
  bytes : state.memory.bytesAt (toUintn width request.dumpBuffer) state.delivered =
    (database.drop request.dumpOffset).take state.delivered
  dumpOffset : state.memory.readLe (commBuffer + 32) 8 =
    min (request.dumpOffset + state.delivered) database.length

/-- The bytes of a reply with its ReturnStatus. -/
def replyBytes (commandAndLength : List UInt8) (reply : GetDataByOffset) : List UInt8 :=
  commandAndLength ++ toBytes 8 0 ++ toBytes 8 reply.dumpSize ++ toBytes 8 reply.dumpBuffer ++
    toBytes 8 reply.dumpOffset

/-- Where the copy meets the communication buffer, the reply has the database's bytes. -/
def ReplyKeepsCopy (width : Nat) (database : List UInt8) (commBuffer : Nat)
    (memory : Memory) : Prop :=
  let request := readGetDataByOffset memory commBuffer
  let count := copyCount database.length request
  let reply := replyBytes (memory.bytesAt commBuffer 8)
    { request with dumpSize := count, dumpOffset := request.dumpOffset + count }
  ∀ index < count, commBuffer ≤ toUintn width request.dumpBuffer + index →
    toUintn width request.dumpBuffer + index < commBuffer + sizeofGetDataByOffset →
      reply[toUintn width request.dumpBuffer + index - commBuffer]? =
        database[request.dumpOffset + index]?

section Reply

variable {width : Nat} {smmIsBufferOutsideSmmValid : Nat → Nat → Bool}
variable {database : List UInt8} {commBuffer : Nat} {memory : Memory}

/-- The request as the handler reads it back, with its own error in ReturnStatus. -/
theorem readGetDataByOffset_status (status : Nat) :
    readGetDataByOffset (memory.write (commBuffer + 8) (toBytes 8 status)) commBuffer =
      { readGetDataByOffset memory commBuffer with
        header := memory.bytesAt commBuffer 8 ++ toBytes 8 status } := by
  obtain ⟨-, dumpSize, dumpBuffer, dumpOffset⟩ :=
    readGetDataByOffset_write memory commBuffer status
  have header : (memory.write (commBuffer + 8) (toBytes 8 status)).bytesAt commBuffer
      sizeofParameterHeader = memory.bytesAt commBuffer 8 ++ toBytes 8 status := by
    have halves : sizeofParameterHeader = 8 + 8 := rfl
    rw [halves, Memory.bytesAt_add,
      Memory.bytesAt_write_of_disjoint _ _ _ _ _ (Or.inl (Nat.le_refl _)),
      (Memory.holds_write _ _ _).bytesAt_eq (length_toBytes _ _)]
  simp only [readGetDataByOffset] at dumpSize dumpBuffer dumpOffset
  rw [readGetDataByOffset, dumpSize, dumpBuffer, dumpOffset, header, readGetDataByOffset]

theorem smmCoreDumpHandler_accepted
    (accepted : AcceptedData width smmIsBufferOutsideSmmValid commBuffer memory) :
    let request := readGetDataByOffset memory commBuffer
    let copied := smmCoreDumpCopyData width database
      ⟨memory.write (commBuffer + 8) (toBytes 8 (2 ^ 64 - 1)),
        [⟨commBuffer, sizeofGetDataByOffset⟩,
          ⟨toUintn width request.dumpBuffer, toUintn width request.dumpSize⟩],
        [⟨commBuffer + 8, 8⟩], []⟩
      { request with header := memory.bytesAt commBuffer 8 ++ toBytes 8 (2 ^ 64 - 1) }
    smmCoreDumpHandler width smmIsBufferOutsideSmmValid (some database) (some commBuffer)
      (some sizeofGetDataByOffset) memory =
        (copied.1.write commBuffer copied.2.encode).write (commBuffer + 8) (toBytes 8 0) := by
  intro request copied
  rw [smmCoreDumpHandler_dataByOffset accepted.commBuffer_valid accepted.command,
    smmCoreDumpHandlerGetDataByOffset]
  simp only [readGetDataByOffset_status, accepted.target_valid, if_true]
  rfl

theorem holds_reply (commBuffer : Nat) (copy : Memory) (reply : GetDataByOffset)
    (header : reply.header.length = sizeofParameterHeader) :
    ((copy.write commBuffer reply.encode).write (commBuffer + 8) (toBytes 8 0)).Holds
      commBuffer (replyBytes (reply.header.take 8) reply) := by
  obtain ⟨first, second, third, fourth⟩ := holds_encode copy commBuffer reply header
  have split := List.take_append_drop 8 reply.header
  have front : (reply.header.take 8).length = 8 := by simp [header, sizeofParameterHeader]
  rw [← split, Memory.holds_append] at first
  simp only [replyBytes, Memory.holds_append, List.length_append, front, length_toBytes]
  refine ⟨⟨⟨⟨?_, Memory.holds_write _ _ _⟩, ?_⟩, ?_⟩, ?_⟩
  · exact Memory.holds_write_of_disjoint first.1 (Or.inl (by omega))
  · exact Memory.holds_write_of_disjoint second (Or.inr (by simp))
  · exact Memory.holds_write_of_disjoint third (Or.inr (by simp))
  · exact Memory.holds_write_of_disjoint fourth (Or.inr (by simp))

theorem apply_reply_of_outside (copy : Memory) (reply : GetDataByOffset)
    (header : reply.header.length = sizeofParameterHeader) (location : Nat)
    (outside : location < commBuffer ∨ commBuffer + sizeofGetDataByOffset ≤ location) :
    ((copy.write commBuffer reply.encode).write (commBuffer + 8) (toBytes 8 0)) location =
      copy location := by
  have length := length_encode reply header
  dsimp only [sizeofGetDataByOffset] at outside length
  rcases outside with before | after
  · rw [Memory.write_apply_of_lt _ _ _ _ (by omega), Memory.write_apply_of_lt _ _ _ _ before]
  · rw [Memory.write_apply_of_ge _ _ _ _ (by simp only [length_toBytes]; omega),
      Memory.write_apply_of_ge _ _ _ _ (by omega)]

/-- The copied bytes after the reply is written over them. -/
theorem holds_copy_reply_iff (commBuffer : Nat) (before : Memory) (target : Nat)
    (slice : List UInt8) (reply : GetDataByOffset)
    (header : reply.header.length = sizeofParameterHeader) :
    (((before.write target slice).write commBuffer reply.encode).write (commBuffer + 8)
        (toBytes 8 0)).Holds target slice ↔
      ∀ index < slice.length, commBuffer ≤ target + index →
        target + index < commBuffer + sizeofGetDataByOffset →
          (replyBytes (reply.header.take 8) reply)[target + index - commBuffer]? =
            slice[index]? := by
  have replied := (Memory.holds_iff _ _ _).mp
    (holds_reply commBuffer (before.write target slice) reply header)
  have length : (replyBytes (reply.header.take 8) reply).length = sizeofGetDataByOffset := by
    simp [replyBytes, header, sizeofParameterHeader, sizeofGetDataByOffset]
  have copied := (Memory.holds_iff _ _ _).mp (Memory.holds_write before target slice)
  rw [Memory.holds_iff]
  refine forall_congr' fun index => forall_congr' fun bound => ?_
  by_cases inside : commBuffer ≤ target + index ∧
      target + index < commBuffer + sizeofGetDataByOffset
  · -- The reply's byte is read back here.
    have read := replied (target + index - commBuffer) (by omega)
    rw [Nat.add_sub_cancel' inside.1] at read
    rw [← read]
    exact ⟨fun same _ _ => same.symm, fun same => (same inside.1 inside.2).symm⟩
  · rw [apply_reply_of_outside _ _ header _ (by omega), copied index bound]
    exact ⟨fun _ above below => absurd ⟨above, below⟩ inside, fun _ => rfl⟩

theorem truthful_iff {request : GetDataByOffset} {state : HandlerState} {after : Memory}
    {count said : Nat} (dumpSize : after.readLe (commBuffer + 16) 8 = said)
    (dumpOffset : after.readLe (commBuffer + 32) 8 =
      min (request.dumpOffset + count) database.length)
    (delivered : state.delivered = count) (stored : state.memory = after) :
    Truthful width database commBuffer request state ↔
      said = count ∧ after.bytesAt (toUintn width request.dumpBuffer) count =
        (database.drop request.dumpOffset).take count := by
  subst stored delivered
  constructor
  · intro truthful
    exact ⟨dumpSize.symm.trans truthful.dumpSize, truthful.bytes⟩
  · rintro ⟨same, bytes⟩
    exact ⟨dumpSize.trans same, bytes, dumpOffset⟩

variable {status : Memory} {ranges written : List Range} {request : GetDataByOffset}
variable {header : List UInt8}

theorem truthful_copied_iff (fits : database.length < 256 ^ width)
    (fits64 : database.length < 2 ^ 64)
    (length : header.length = sizeofParameterHeader)
    (bufferFits : request.dumpBuffer < 256 ^ 8) (inside : request.dumpOffset < database.length) :
    let copied := smmCoreDumpCopyData width database ⟨status, ranges, written, []⟩
      { request with header := header }
    let count := copyCount database.length request
    Truthful width database commBuffer request
        ((copied.1.write commBuffer copied.2.encode).write (commBuffer + 8) (toBytes 8 0)) ↔
      ∀ index < count, commBuffer ≤ toUintn width request.dumpBuffer + index →
        toUintn width request.dumpBuffer + index < commBuffer + sizeofGetDataByOffset →
          (replyBytes (header.take 8) { request with
              dumpSize := count
              dumpOffset := request.dumpOffset + count })[
                toUintn width request.dumpBuffer + index - commBuffer]? =
            database[request.dumpOffset + index]? := by
  intro copied count
  have bounded : request.dumpOffset + count ≤ database.length := by
    dsimp only [count, copyCount]
    omega
  have copy : copied = _ :=
    smmCoreDumpCopyData_eq fits { request with header := header } inside
  have sameCount : copyCount database.length { request with header := header } = count := rfl
  rw [copy, sameCount, Nat.mod_eq_of_lt (by omega : request.dumpOffset + count < 2 ^ 64)]
  set slice := (database.drop request.dumpOffset).take count with sliceEq
  have sliceLength : slice.length = count := by
    simp only [sliceEq, List.length_take, List.length_drop]
    omega
  have sameBytes : ∀ index < count, slice[index]? = database[request.dumpOffset + index]? := by
    intro index below
    rw [sliceEq, List.getElem?_take_of_lt below, List.getElem?_drop]
  set reply : GetDataByOffset :=
    ⟨header, count, request.dumpBuffer, request.dumpOffset + count⟩ with replyEq
  obtain ⟨replied, -, offset⟩ := readLe_reply
    (status.write (toUintn width request.dumpBuffer) slice) commBuffer reply length
    ⟨by dsimp only [reply]; omega, bufferFits, by dsimp only [reply]; omega⟩
  have kept := holds_copy_reply_iff commBuffer status (toUintn width request.dumpBuffer) slice
    reply length
  rw [Memory.Holds, sliceLength] at kept
  refine (truthful_iff replied (offset.trans (Nat.min_eq_left bounded).symm) ?_ ?_).trans ?_
  · simp [HandlerState.delivered, count]
  · simp only [HandlerState.memory_write, HandlerState.memory_copyDatabase]
    rfl
  · rw [← sliceEq, kept, and_iff_right rfl]
    refine forall_congr' fun index => forall_congr' fun below => ?_
    rw [sameBytes index below]
    exact Iff.rfl

/-- Behind the database nothing is copied, and DumpSize stays as it was requested. -/
theorem truthful_pastEnd_iff (fits64 : database.length < 2 ^ 64)
    (length : header.length = sizeofParameterHeader)
    (fieldsFit : request.dumpSize < 256 ^ 8 ∧ request.dumpBuffer < 256 ^ 8)
    (pastEnd : database.length ≤ request.dumpOffset) :
    let copied := smmCoreDumpCopyData width database ⟨status, ranges, written, []⟩
      { request with header := header }
    Truthful width database commBuffer request
        ((copied.1.write commBuffer copied.2.encode).write (commBuffer + 8) (toBytes 8 0)) ↔
      request.dumpSize = 0 := by
  intro copied
  have nothing : copied = (⟨status, ranges, written, []⟩,
      ⟨header, request.dumpSize, request.dumpBuffer, database.length⟩) := if_pos pastEnd
  rw [nothing]
  obtain ⟨replied, -, offset⟩ := readLe_reply status commBuffer
    ⟨header, request.dumpSize, request.dumpBuffer, database.length⟩ length
    ⟨fieldsFit.1, fieldsFit.2, by dsimp only; omega⟩
  have behind : min (request.dumpOffset + 0) database.length = database.length :=
    Nat.min_eq_right pastEnd
  refine (truthful_iff replied (offset.trans behind.symm) ?_ ?_).trans ?_
  · rfl
  · simp only [HandlerState.memory_write]
  · exact and_iff_left rfl

/-- For every database and every accepted data request: the reply is truthful exactly when
DumpOffset is inside the database or nothing was asked for, and the reply does not change
the copy where it meets the communication buffer. -/
theorem smmCoreDumpHandler_truthful_iff
    (uintn : width = 4 ∨ width = 8) (fits : database.length < 256 ^ width)
    (accepted : AcceptedData width smmIsBufferOutsideSmmValid commBuffer memory) :
    Truthful width database commBuffer (readGetDataByOffset memory commBuffer)
        (smmCoreDumpHandler width smmIsBufferOutsideSmmValid (some database)
          (some commBuffer) (some sizeofGetDataByOffset) memory) ↔
      ((readGetDataByOffset memory commBuffer).dumpOffset < database.length ∨
        (readGetDataByOffset memory commBuffer).dumpSize = 0) ∧
      ReplyKeepsCopy width database commBuffer memory := by
  have fits64 : database.length < 2 ^ 64 := by
    rcases uintn with rfl | rfl <;> omega
  rw [smmCoreDumpHandler_accepted accepted]
  set request := readGetDataByOffset memory commBuffer with requestEq
  have length : (memory.bytesAt commBuffer 8 ++ toBytes 8 (2 ^ 64 - 1)).length =
      sizeofParameterHeader := by
    rw [List.length_append, Memory.length_bytesAt, length_toBytes]
    rfl
  have front : (memory.bytesAt commBuffer 8 ++ toBytes 8 (2 ^ 64 - 1)).take 8 =
      memory.bytesAt commBuffer 8 := List.take_left' (Memory.length_bytesAt _ _ _)
  have bufferFits : request.dumpBuffer < 256 ^ 8 := Memory.readLe_lt _ _ _
  have sizeFits : request.dumpSize < 256 ^ 8 := Memory.readLe_lt _ _ _
  by_cases inside : request.dumpOffset < database.length
  · refine (truthful_copied_iff fits fits64 length bufferFits inside).trans ?_
    simp only [inside, true_or, true_and, front]
    exact Iff.rfl
  · have pastEnd := Nat.not_lt.mp inside
    have keepsCopy : ReplyKeepsCopy width database commBuffer memory := by
      intro index below
      rw [← requestEq, copyCount] at below
      omega
    refine (truthful_pastEnd_iff fits64 length ⟨sizeFits, bufferFits⟩ pastEnd).trans ?_
    simp only [inside, false_or, keepsCopy, and_true]

end Reply

/-- A data request for 16 bytes at `dumpOffset`, to 0x2000. -/
def dataRequestAt (dumpOffset : Nat) : Memory :=
  Memory.ofBytesAt 0x1000 (toBytes 4 commandGetDataByOffset ++ toBytes 4 40 ++ toBytes 8 0 ++
    toBytes 8 16 ++ toBytes 8 0x2000 ++ toBytes 8 dumpOffset)

theorem smmCoreDumpHandler_truthful_iff_lastChunk :
    Truthful 8 [1, 2, 3, 4] 0x1000 (readGetDataByOffset (dataRequestAt 1) 0x1000)
        (smmCoreDumpHandler 8 outsideSmram (some [1, 2, 3, 4]) (some 0x1000)
          (some sizeofGetDataByOffset) (dataRequestAt 1)) ↔
      ((readGetDataByOffset (dataRequestAt 1) 0x1000).dumpOffset <
          ([1, 2, 3, 4] : List UInt8).length ∨
        (readGetDataByOffset (dataRequestAt 1) 0x1000).dumpSize = 0) ∧
      ReplyKeepsCopy 8 [1, 2, 3, 4] 0x1000 (dataRequestAt 1) :=
  smmCoreDumpHandler_truthful_iff (Or.inr rfl) (by decide)
    ⟨by decide +kernel, by decide +kernel, by decide +kernel⟩

/-- At the end of the database the reply repeats the 16 bytes that were asked for. -/
theorem smmCoreDumpHandler_pastEnd :
    AcceptedData 8 outsideSmram 0x1000 (dataRequestAt 4) ∧
      (smmCoreDumpHandler 8 outsideSmram (some [1, 2, 3, 4]) (some 0x1000)
        (some sizeofGetDataByOffset) (dataRequestAt 4)).memory.readLe 0x1008 8 = 0 ∧
      (smmCoreDumpHandler 8 outsideSmram (some [1, 2, 3, 4]) (some 0x1000)
        (some sizeofGetDataByOffset) (dataRequestAt 4)).memory.readLe 0x1010 8 = 16 ∧
      ¬ Truthful 8 [1, 2, 3, 4] 0x1000 (readGetDataByOffset (dataRequestAt 4) 0x1000)
        (smmCoreDumpHandler 8 outsideSmram (some [1, 2, 3, 4]) (some 0x1000)
          (some sizeofGetDataByOffset) (dataRequestAt 4)) := by
  have said : (smmCoreDumpHandler 8 outsideSmram (some [1, 2, 3, 4]) (some 0x1000)
      (some sizeofGetDataByOffset) (dataRequestAt 4)).memory.readLe 0x1010 8 = 16 := by
    decide +kernel
  have delivered : (smmCoreDumpHandler 8 outsideSmram (some [1, 2, 3, 4]) (some 0x1000)
      (some sizeofGetDataByOffset) (dataRequestAt 4)).delivered = 0 := by decide +kernel
  refine ⟨⟨by decide +kernel, by decide +kernel, by decide +kernel⟩, by decide +kernel, said,
    fun truthful => ?_⟩
  have same := truthful.dumpSize
  rw [said, delivered] at same
  exact absurd same (by decide)

end AppEfi.SmmCore
