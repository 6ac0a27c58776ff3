import AppEfi.SmmCore.Handler

/-!
# What the handler answers

The communication buffer and the target of the copy after `SmmCoreDumpHandler`,
for each of its commands: the fields of the reply, the bytes of the database and
the memory that stays as it was.
-/

set_option autoImplicit false

namespace AppEfi.SmmCore

open AppEfi.LittleEndian

section Encode

variable (memory : Memory) (commBuffer : Nat) (request : GetDataByOffset)

theorem holds_encode (header : request.header.length = sizeofParameterHeader) :
    (memory.write commBuffer request.encode).Holds commBuffer request.header ∧
      (memory.write commBuffer request.encode).Holds (commBuffer + 16)
        (toBytes 8 request.dumpSize) ∧
      (memory.write commBuffer request.encode).Holds (commBuffer + 24)
        (toBytes 8 request.dumpBuffer) ∧
      (memory.write commBuffer request.encode).Holds (commBuffer + 32)
        (toBytes 8 request.dumpOffset) := by
  have held := Memory.holds_write memory commBuffer request.encode
  rw [GetDataByOffset.encode] at held ⊢
  simp only [Memory.holds_append, List.length_append, length_toBytes, header,
    sizeofParameterHeader] at held
  obtain ⟨⟨⟨first, second⟩, third⟩, fourth⟩ := held
  exact ⟨first, second, third, fourth⟩

theorem length_encode (header : request.header.length = sizeofParameterHeader) :
    request.encode.length = sizeofGetDataByOffset := by
  simp [GetDataByOffset.encode, header, sizeofParameterHeader, sizeofGetDataByOffset]

/-- The fields of a reply behind its header, which the write of ReturnStatus leaves. -/
theorem readLe_reply (header : request.header.length = sizeofParameterHeader)
    (fits : request.dumpSize < 256 ^ 8 ∧ request.dumpBuffer < 256 ^ 8 ∧
      request.dumpOffset < 256 ^ 8) :
    let after := (memory.write commBuffer request.encode).write (commBuffer + 8) (toBytes 8 0)
    after.readLe (commBuffer + 16) 8 = request.dumpSize ∧
      after.readLe (commBuffer + 24) 8 = request.dumpBuffer ∧
      after.readLe (commBuffer + 32) 8 = request.dumpOffset := by
  obtain ⟨-, second, third, fourth⟩ := holds_encode memory commBuffer request header
  refine ⟨?_, ?_, ?_⟩
  · rw [Memory.readLe_write_field _ _ _ _ _ _ (by omega), second.readLe_eq fits.1]
  · rw [Memory.readLe_write_field _ _ _ _ _ _ (by omega), third.readLe_eq fits.2.1]
  · rw [Memory.readLe_write_field _ _ _ _ _ _ (by omega), fourth.readLe_eq fits.2.2]

end Encode

section Answers

variable {width : Nat} {smmIsBufferOutsideSmmValid : Nat → Nat → Bool}
variable {database : List UInt8} {commBuffer : Nat} {memory : Memory}

/-- The memory after a GET_INFO request. -/
structure InfoAnswer (database : List UInt8) (commBuffer : Nat) (before after : Memory) :
    Prop where
  below : ∀ location, location < commBuffer → after location = before location
  returnStatus : after.readLe (commBuffer + 8) 8 = 0
  dumpSize : after.readLe (commBuffer + 16) 8 = database.length

/-- The memory after a data request that was granted. -/
structure DataAnswer (database : List UInt8) (commBuffer : Nat) (request : GetDataByOffset)
    (before after : Memory) : Prop where
  below : ∀ location, location < commBuffer → after location = before location
  command : after.readLe commBuffer 4 = before.readLe commBuffer 4
  returnStatus : after.readLe (commBuffer + 8) 8 = 0
  dumpSize : after.readLe (commBuffer + 16) 8 = copyCount database.length request
  dumpBuffer : after.readLe (commBuffer + 24) 8 = request.dumpBuffer
  dumpOffset : after.readLe (commBuffer + 32) 8 =
    request.dumpOffset + copyCount database.length request
  copied : after.bytesAt request.dumpBuffer (copyCount database.length request) =
    (database.drop request.dumpOffset).take (copyCount database.length request)

/-- Without a database, or for a communication buffer that is refused, nothing happens. -/
theorem smmCoreDumpHandler_ignores (mSmmCoreDatabase : Option (List UInt8)) (size : Nat)
    (ignored : mSmmCoreDatabase = none ∨ smmIsBufferOutsideSmmValid commBuffer size = false) :
    (smmCoreDumpHandler width smmIsBufferOutsideSmmValid mSmmCoreDatabase (some commBuffer)
      (some size) memory).memory = memory := by
  rcases ignored with rfl | refused
  · rfl
  · cases mSmmCoreDatabase with
    | none => rfl
    | some database =>
        simp only [smmCoreDumpHandler]
        split
        · rfl
        · rw [if_neg (by simp [refused])]

theorem smmCoreDumpHandler_getInfo (fits : database.length < 256 ^ 8)
    (valid : smmIsBufferOutsideSmmValid commBuffer sizeofGetInfo = true)
    (command : memory.readLe commBuffer 4 = commandGetInfo) :
    InfoAnswer database commBuffer memory
      (smmCoreDumpHandler width smmIsBufferOutsideSmmValid (some database) (some commBuffer)
        (some sizeofGetInfo) memory).memory := by
  have dispatched : (smmCoreDumpHandler width smmIsBufferOutsideSmmValid (some database)
      (some commBuffer) (some sizeofGetInfo) memory).memory =
      ((memory.write (commBuffer + 8) (toBytes 8 (2 ^ 64 - 1))).write (commBuffer + 16)
        (toBytes 8 database.length)).write (commBuffer + 8) (toBytes 8 0) := by
    have kept := (readGetDataByOffset_write memory commBuffer (2 ^ 64 - 1)).1
    have notShort : ¬ sizeofGetInfo < sizeofParameterHeader := by decide
    simp only [smmCoreDumpHandler, if_neg notShort, if_pos valid, HandlerState.memory_write,
      HandlerState.memory_accept, kept, command, ne_eq, not_true_eq_false, if_true, if_false,
      smmCoreDumpHandlerGetInfo]
  rw [dispatched]
  refine ⟨fun location below => ?_, ?_, ?_⟩
  · rw [Memory.write_apply_of_lt _ _ _ _ (by omega),
      Memory.write_apply_of_lt _ _ _ _ (by omega), Memory.write_apply_of_lt _ _ _ _ (by omega)]
  · rw [Memory.readLe_write_toBytes, Nat.zero_mod]
  · rw [Memory.readLe_write_field _ _ _ _ _ _ (by omega), Memory.readLe_write_toBytes,
      Nat.mod_eq_of_lt fits]

/-- The writes of a granted data request: the copy behind the communication buffer, the
reply with the header as it was received, and ReturnStatus. -/
theorem dataAnswer_of_writes {received : Memory} {request reply : GetDataByOffset}
    (below : ∀ location, location < commBuffer → received location = memory location)
    (command : received.readLe commBuffer 4 = memory.readLe commBuffer 4)
    (header : reply.header = received.bytesAt commBuffer sizeofParameterHeader)
    (dumpSize : reply.dumpSize = copyCount database.length request)
    (dumpBuffer : reply.dumpBuffer = request.dumpBuffer)
    (dumpOffset : reply.dumpOffset =
      request.dumpOffset + copyCount database.length request)
    (fits : reply.dumpSize < 256 ^ 8 ∧ reply.dumpBuffer < 256 ^ 8 ∧
      reply.dumpOffset < 256 ^ 8)
    (behind : commBuffer + sizeofGetDataByOffset ≤ request.dumpBuffer) :
    DataAnswer database commBuffer request memory
      (((received.write request.dumpBuffer ((database.drop request.dumpOffset).take
        (copyCount database.length request))).write commBuffer reply.encode).write
          (commBuffer + 8) (toBytes 8 0)) := by
  set count := copyCount database.length request with countEq
  set slice := (database.drop request.dumpOffset).take count with sliceEq
  have sliceLength : slice.length = count := by
    have within : count ≤ database.length - request.dumpOffset := Nat.min_le_right _ _
    simp only [sliceEq, List.length_take, List.length_drop]
    omega
  have headerLength : reply.header.length = sizeofParameterHeader := by simp [header]
  have replyLength := length_encode reply headerLength
  have copied := Memory.holds_write received request.dumpBuffer slice
  set copy := received.write request.dumpBuffer slice with copyEq
  have first := (holds_encode copy commBuffer reply headerLength).1
  obtain ⟨second, third, fourth⟩ := readLe_reply copy commBuffer reply headerLength fits
  dsimp only [sizeofGetDataByOffset] at behind replyLength
  refine ⟨fun location before => ?_, ?_, ?_, ?_, ?_, ?_, ?_⟩
  · rw [Memory.write_apply_of_lt _ _ _ _ (by omega),
      Memory.write_apply_of_lt _ _ _ _ before, copyEq,
      Memory.write_apply_of_lt _ _ _ _ (by omega), below location before]
  · -- The header of the reply is the header that was received.
    rw [Memory.readLe_write_field _ _ _ _ _ _ (by omega), ← command]
    refine Memory.readLe_eq_of_bytesAt_eq sizeofParameterHeader ?_ (by decide)
    rw [first.bytesAt_eq headerLength, header]
  · rw [Memory.readLe_write_toBytes, Nat.zero_mod]
  · rw [second, dumpSize]
  · rw [third, dumpBuffer]
  · rw [fourth, dumpOffset]
  · rw [Memory.bytesAt_write_of_disjoint _ _ _ _ _ (by simp only [length_toBytes]; omega),
      Memory.bytesAt_write_of_disjoint _ _ _ _ _ (by omega)]
    exact copied.bytesAt_eq sliceLength

/-- The command of a data request gets to `SmmCoreDumpHandlerGetDataByOffset`, with an error
stored in ReturnStatus. -/
theorem smmCoreDumpHandler_dataByOffset
    (valid : smmIsBufferOutsideSmmValid commBuffer sizeofGetDataByOffset = true)
    (command : memory.readLe commBuffer 4 = commandGetDataByOffset) :
    smmCoreDumpHandler width smmIsBufferOutsideSmmValid (some database) (some commBuffer)
        (some sizeofGetDataByOffset) memory =
      smmCoreDumpHandlerGetDataByOffset width smmIsBufferOutsideSmmValid database commBuffer
        ⟨memory.write (commBuffer + 8) (toBytes 8 (2 ^ 64 - 1)),
          [⟨commBuffer, sizeofGetDataByOffset⟩], [⟨commBuffer + 8, 8⟩], []⟩ := by
  have kept := (readGetDataByOffset_write memory commBuffer (2 ^ 64 - 1)).1
  have notShort : ¬ sizeofGetDataByOffset < sizeofParameterHeader := by decide
  have other : ¬ commandGetDataByOffset = commandGetInfo := by decide
  simp only [smmCoreDumpHandler, if_neg notShort, if_pos valid, HandlerState.memory_write,
    HandlerState.memory_accept, kept, command, other, if_false, if_true, ne_eq,
    not_true_eq_false]
  rfl

/-- A data request whose target lies behind the communication buffer is granted, or denied
with an error in ReturnStatus. -/
theorem smmCoreDumpHandler_getData (fits : database.length < 256 ^ width)
    (fits64 : database.length < 2 ^ 64)
    (valid : smmIsBufferOutsideSmmValid commBuffer sizeofGetDataByOffset = true)
    (command : memory.readLe commBuffer 4 = commandGetDataByOffset)
    (target : (readGetDataByOffset memory commBuffer).dumpBuffer < 256 ^ width)
    (behind : commBuffer + sizeofGetDataByOffset ≤
      (readGetDataByOffset memory commBuffer).dumpBuffer)
    (inside : (readGetDataByOffset memory commBuffer).dumpOffset < database.length) :
    smmIsBufferOutsideSmmValid
          (toUintn width (readGetDataByOffset memory commBuffer).dumpBuffer)
          (toUintn width (readGetDataByOffset memory commBuffer).dumpSize) = false ∧
        (smmCoreDumpHandler width smmIsBufferOutsideSmmValid (some database) (some commBuffer)
          (some sizeofGetDataByOffset) memory).memory.readLe (commBuffer + 8) 8 =
            accessDenied width % 256 ^ 8 ∨
      DataAnswer database commBuffer (readGetDataByOffset memory commBuffer) memory
        (smmCoreDumpHandler width smmIsBufferOutsideSmmValid (some database)
          (some commBuffer) (some sizeofGetDataByOffset) memory).memory := by
  obtain ⟨kept, dumpSize, dumpBuffer, dumpOffset⟩ :=
    readGetDataByOffset_write memory commBuffer (2 ^ 64 - 1)
  set status := memory.write (commBuffer + 8) (toBytes 8 (2 ^ 64 - 1)) with statusEq
  set request := readGetDataByOffset memory commBuffer with requestEq
  set received := readGetDataByOffset status commBuffer with receivedEq
  rw [smmCoreDumpHandler_dataByOffset valid command]
  simp only [smmCoreDumpHandlerGetDataByOffset, ← statusEq, ← receivedEq, dumpBuffer, dumpSize]
  by_cases granted : smmIsBufferOutsideSmmValid (toUintn width request.dumpBuffer)
      (toUintn width request.dumpSize) = true
  · right
    have receivedInside : received.dumpOffset < database.length := by rwa [dumpOffset]
    have sameCount : copyCount database.length received = copyCount database.length request := by
      rw [copyCount, dumpSize, dumpOffset, copyCount]
    rw [if_pos granted, smmCoreDumpCopyData_eq fits received receivedInside]
    simp only [HandlerState.memory_write, HandlerState.memory_copyDatabase,
      HandlerState.memory_accept, sameCount, dumpBuffer, dumpOffset]
    have bounded : request.dumpOffset + copyCount database.length request ≤
        database.length := by
      unfold copyCount
      omega
    have noWrap : (request.dumpOffset + copyCount database.length request) % 2 ^ 64 =
        request.dumpOffset + copyCount database.length request :=
      Nat.mod_eq_of_lt (by omega)
    rw [toUintn_of_lt target, noWrap]
    refine dataAnswer_of_writes ?_ kept rfl rfl rfl rfl ?_ behind
    · intro location below
      exact Memory.write_apply_of_lt _ _ _ _ (by omega)
    · refine ⟨by dsimp only; omega, ?_, by dsimp only; omega⟩
      exact Memory.readLe_lt _ _ _
  · left
    refine ⟨Bool.eq_false_iff.mpr granted, ?_⟩
    rw [if_neg granted, HandlerState.memory_write, Memory.readLe_write_toBytes]

end Answers

end AppEfi.SmmCore
