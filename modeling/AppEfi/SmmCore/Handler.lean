import AppEfi.Lib.Memory
import AppEfi.Lib.Ranges

/-!
# The SMM core dump handler

`SmmCoreDumpHandler` of SmmCoreDumpHandler.c with its two commands, over the
memory that holds the communication buffer.  Every range that the handler
writes, reads from its database or has accepted by `SmmIsBufferOutsideSmmValid`
is logged.  A UINTN has `width` bytes; the fields of a request have eight.
-/

set_option autoImplicit false

namespace AppEfi.SmmCore

open AppEfi.LittleEndian

/-- The cast of a 64-bit value to UINTN. -/
def toUintn (width value : Nat) : Nat := value % 256 ^ width

def sizeofParameterHeader : Nat := 16

def sizeofGetInfo : Nat := 24

def sizeofGetDataByOffset : Nat := 40

def commandGetInfo : Nat := 0x1

def commandGetDataByOffset : Nat := 0x2

/-- `(UINT64)(INT64)(INTN)EFI_ACCESS_DENIED`. -/
def accessDenied (width : Nat) : Nat := 2 ^ 64 - 2 ^ (8 * width) + 2 ^ (8 * width - 1) + 15

structure HandlerState where
  memory : Memory
  accepted : List Range
  writes : List Range
  databaseReads : List Range

def HandlerState.write (state : HandlerState) (address : Nat) (bytes : List UInt8) :
    HandlerState :=
  { state with
    memory := state.memory.write address bytes
    writes := state.writes ++ [⟨address, bytes.length⟩] }

def HandlerState.accept (state : HandlerState) (range : Range) : HandlerState :=
  { state with accepted := state.accepted ++ [range] }

/-- `CopyMem` out of the database. -/
def HandlerState.copyDatabase (state : HandlerState) (database : List UInt8)
    (dumpBuffer dumpOffset count : Nat) : HandlerState :=
  { state with
    memory := state.memory.write dumpBuffer ((database.drop dumpOffset).take count)
    writes := state.writes ++ [⟨dumpBuffer, count⟩]
    databaseReads := state.databaseReads ++ [⟨dumpOffset, count⟩] }

section Fields

variable (state : HandlerState) (address : Nat) (bytes : List UInt8) (range : Range)

@[simp] theorem HandlerState.memory_write :
    (state.write address bytes).memory = state.memory.write address bytes := rfl

@[simp] theorem HandlerState.accepted_write :
    (state.write address bytes).accepted = state.accepted := rfl

@[simp] theorem HandlerState.writes_write :
    (state.write address bytes).writes = state.writes ++ [⟨address, bytes.length⟩] := rfl

@[simp] theorem HandlerState.databaseReads_write :
    (state.write address bytes).databaseReads = state.databaseReads := rfl

@[simp] theorem HandlerState.memory_accept : (state.accept range).memory = state.memory := rfl

@[simp] theorem HandlerState.accepted_accept :
    (state.accept range).accepted = state.accepted ++ [range] := rfl

variable (database : List UInt8) (dumpBuffer dumpOffset count : Nat)

@[simp] theorem HandlerState.memory_copyDatabase :
    (state.copyDatabase database dumpBuffer dumpOffset count).memory =
      state.memory.write dumpBuffer ((database.drop dumpOffset).take count) := rfl

@[simp] theorem HandlerState.accepted_copyDatabase :
    (state.copyDatabase database dumpBuffer dumpOffset count).accepted = state.accepted := rfl

@[simp] theorem HandlerState.writes_copyDatabase :
    (state.copyDatabase database dumpBuffer dumpOffset count).writes =
      state.writes ++ [⟨dumpBuffer, count⟩] := rfl

@[simp] theorem HandlerState.databaseReads_copyDatabase :
    (state.copyDatabase database dumpBuffer dumpOffset count).databaseReads =
      state.databaseReads ++ [⟨dumpOffset, count⟩] := rfl

end Fields

/-- `SMM_CORE_DUMP_PARAMETER_GET_DATA_BY_OFFSET`, with the bytes of its header. -/
structure GetDataByOffset where
  header : List UInt8
  dumpSize : Nat
  dumpBuffer : Nat
  dumpOffset : Nat
  deriving DecidableEq, Repr

def readGetDataByOffset (memory : Memory) (address : Nat) : GetDataByOffset where
  header := memory.bytesAt address sizeofParameterHeader
  dumpSize := memory.readLe (address + 16) 8
  dumpBuffer := memory.readLe (address + 24) 8
  dumpOffset := memory.readLe (address + 32) 8

def GetDataByOffset.encode (request : GetDataByOffset) : List UInt8 :=
  request.header ++ toBytes 8 request.dumpSize ++ toBytes 8 request.dumpBuffer ++
    toBytes 8 request.dumpOffset

section Handler

variable (width : Nat) (smmIsBufferOutsideSmmValid : Nat → Nat → Bool)

def smmCoreDumpCopyData (database : List UInt8) (state : HandlerState)
    (request : GetDataByOffset) : HandlerState × GetDataByOffset :=
  if request.dumpOffset ≥ database.length then
    (state, { request with dumpOffset := database.length })
  else
    let dumpSize :=
      if database.length - request.dumpOffset < request.dumpSize then
        database.length - request.dumpOffset
      else request.dumpSize
    (state.copyDatabase database (toUintn width request.dumpBuffer) request.dumpOffset
        (toUintn width dumpSize),
      { request with
        dumpSize := dumpSize
        dumpOffset := (request.dumpOffset + dumpSize) % 2 ^ 64 })

def smmCoreDumpHandlerGetInfo (database : List UInt8) (commBuffer : Nat)
    (state : HandlerState) : HandlerState :=
  (state.write (commBuffer + 16) (toBytes 8 database.length)).write (commBuffer + 8)
    (toBytes 8 0)

def smmCoreDumpHandlerGetDataByOffset (database : List UInt8) (commBuffer : Nat)
    (state : HandlerState) : HandlerState :=
  let request := readGetDataByOffset state.memory commBuffer
  let target : Range := ⟨toUintn width request.dumpBuffer, toUintn width request.dumpSize⟩
  if smmIsBufferOutsideSmmValid target.start target.length then
    let (state, reply) := smmCoreDumpCopyData width database (state.accept target) request
    (state.write commBuffer reply.encode).write (commBuffer + 8) (toBytes 8 0)
  else state.write (commBuffer + 8) (toBytes 8 (accessDenied width))

/-- The handler returns `EFI_SUCCESS` in all cases; its effect is the state.  A `NULL`
pointer is `none`. -/
def smmCoreDumpHandler (mSmmCoreDatabase : Option (List UInt8))
    (commBuffer commBufferSize : Option Nat) (memory : Memory) : HandlerState :=
  let state : HandlerState := ⟨memory, [], [], []⟩
  match mSmmCoreDatabase, commBuffer, commBufferSize with
  | some database, some commBuffer, some tempCommBufferSize =>
      if tempCommBufferSize < sizeofParameterHeader then state
      else if smmIsBufferOutsideSmmValid commBuffer tempCommBufferSize then
        let state := (state.accept ⟨commBuffer, tempCommBufferSize⟩).write (commBuffer + 8)
          (toBytes 8 (2 ^ 64 - 1))
        let command := state.memory.readLe commBuffer 4
        if command = commandGetInfo then
          if tempCommBufferSize ≠ sizeofGetInfo then state
          else smmCoreDumpHandlerGetInfo database commBuffer state
        else if command = commandGetDataByOffset then
          if tempCommBufferSize ≠ sizeofGetDataByOffset then state
          else smmCoreDumpHandlerGetDataByOffset width smmIsBufferOutsideSmmValid database
            commBuffer state
        else state
      else state
  | _, _, _ => state

end Handler

/-! ## Ranges that the handler touches -/

/-- Each write lies in one accepted range, each database read in the database. -/
structure HandlerState.Safe (databaseSize : Nat) (state : HandlerState) : Prop where
  writes : ∀ range ∈ state.writes, ∃ outer ∈ state.accepted, range.Inside outer
  reads : ∀ range ∈ state.databaseReads, range.start + range.length ≤ databaseSize

theorem inside_field {address offset size : Nat} (value : Nat) (fits : offset + 8 ≤ size) :
    Range.Inside ⟨address + offset, (toBytes 8 value).length⟩ ⟨address, size⟩ := by
  refine ⟨Nat.le_add_right _ _, ?_⟩
  rw [length_toBytes]
  dsimp only
  omega

section Steps

variable {databaseSize : Nat} {state : HandlerState} {outer : Range}

theorem HandlerState.Safe.accept (safe : state.Safe databaseSize) (range : Range) :
    (state.accept range).Safe databaseSize := by
  refine ⟨fun written member => ?_, safe.reads⟩
  obtain ⟨outer, listed, inside⟩ := safe.writes written member
  exact ⟨outer, List.mem_append_left _ listed, inside⟩

theorem HandlerState.Safe.write (safe : state.Safe databaseSize)
    (listed : outer ∈ state.accepted) {address : Nat} {bytes : List UInt8}
    (inside : Range.Inside ⟨address, bytes.length⟩ outer) :
    (state.write address bytes).Safe databaseSize := by
  refine ⟨fun written member => ?_, safe.reads⟩
  rw [HandlerState.writes_write, List.mem_append, List.mem_singleton] at member
  rcases member with earlier | rfl
  · exact safe.writes written earlier
  · exact ⟨outer, listed, inside⟩

theorem HandlerState.Safe.copyDatabase (safe : state.Safe databaseSize)
    (database : List UInt8) (listed : outer ∈ state.accepted)
    {dumpBuffer dumpOffset count : Nat} (inside : Range.Inside ⟨dumpBuffer, count⟩ outer)
    (bound : dumpOffset + count ≤ databaseSize) :
    (state.copyDatabase database dumpBuffer dumpOffset count).Safe databaseSize := by
  refine ⟨fun written member => ?_, fun read member => ?_⟩
  · rw [HandlerState.writes_copyDatabase, List.mem_append, List.mem_singleton] at member
    rcases member with earlier | rfl
    · exact safe.writes written earlier
    · exact ⟨outer, listed, inside⟩
  · rw [HandlerState.databaseReads_copyDatabase, List.mem_append,
      List.mem_singleton] at member
    rcases member with earlier | rfl
    · exact safe.reads read earlier
    · exact bound

end Steps

def copyCount (databaseSize : Nat) (request : GetDataByOffset) : Nat :=
  min request.dumpSize (databaseSize - request.dumpOffset)

/-- A data request that gets to the copy, from the communication buffer as it was handed
over: the command and its size, and both checks. -/
structure ReachesCopy (width : Nat) (smmIsBufferOutsideSmmValid : Nat → Nat → Bool)
    (database : List UInt8) (commBuffer commBufferSize : Nat) (memory : Memory) : Prop where
  size : commBufferSize = sizeofGetDataByOffset
  commBuffer_valid : smmIsBufferOutsideSmmValid commBuffer commBufferSize = true
  command : memory.readLe commBuffer 4 = commandGetDataByOffset
  target_valid : smmIsBufferOutsideSmmValid
    (toUintn width (readGetDataByOffset memory commBuffer).dumpBuffer)
    (toUintn width (readGetDataByOffset memory commBuffer).dumpSize) = true
  offset : (readGetDataByOffset memory commBuffer).dumpOffset < database.length

/-- What a request copies is no longer than the DumpSize that was checked, which was
narrowed to UINTN, or lies in the communication buffer. -/
def CopyFits (width : Nat) (database : List UInt8) (commBuffer : Nat) (memory : Memory) :
    Prop :=
  let request := readGetDataByOffset memory commBuffer
  copyCount database.length request ≤ toUintn width request.dumpSize ∨
    Range.Inside ⟨toUintn width request.dumpBuffer, copyCount database.length request⟩
      ⟨commBuffer, sizeofGetDataByOffset⟩

theorem toUintn_of_lt {width value : Nat} (fits : value < 256 ^ width) :
    toUintn width value = value := Nat.mod_eq_of_lt fits

theorem readGetDataByOffset_write (memory : Memory) (commBuffer status : Nat) :
    (memory.write (commBuffer + 8) (toBytes 8 status)).readLe commBuffer 4 =
        memory.readLe commBuffer 4 ∧
      (readGetDataByOffset (memory.write (commBuffer + 8) (toBytes 8 status))
        commBuffer).dumpSize = (readGetDataByOffset memory commBuffer).dumpSize ∧
      (readGetDataByOffset (memory.write (commBuffer + 8) (toBytes 8 status))
        commBuffer).dumpBuffer = (readGetDataByOffset memory commBuffer).dumpBuffer ∧
      (readGetDataByOffset (memory.write (commBuffer + 8) (toBytes 8 status))
        commBuffer).dumpOffset = (readGetDataByOffset memory commBuffer).dumpOffset := by
  refine ⟨?_, ?_, ?_, ?_⟩
  all_goals
    refine Memory.readLe_write_of_disjoint _ _ _ _ _ ?_
    rw [length_toBytes]
    omega

section Copy

variable {width : Nat} {smmIsBufferOutsideSmmValid : Nat → Nat → Bool}
variable {database : List UInt8} {commBuffer : Nat} {state : HandlerState}

theorem smmCoreDumpCopyData_eq (fits : database.length < 256 ^ width)
    (request : GetDataByOffset) (inside : request.dumpOffset < database.length) :
    smmCoreDumpCopyData width database state request =
      (state.copyDatabase database (toUintn width request.dumpBuffer) request.dumpOffset
          (copyCount database.length request),
        { request with
          dumpSize := copyCount database.length request
          dumpOffset :=
            (request.dumpOffset + copyCount database.length request) % 2 ^ 64 }) := by
  have count : (if database.length - request.dumpOffset < request.dumpSize then
      database.length - request.dumpOffset else request.dumpSize) =
      copyCount database.length request := by
    unfold copyCount
    split <;> omega
  have narrow : toUintn width (copyCount database.length request) =
      copyCount database.length request := by
    apply toUintn_of_lt
    unfold copyCount
    omega
  simp only [smmCoreDumpCopyData, if_neg (Nat.not_le.mpr inside), count, narrow]

theorem length_encode_reply (memory : Memory) :
    (smmCoreDumpCopyData width database state
      (readGetDataByOffset memory commBuffer)).2.encode.length = sizeofGetDataByOffset := by
  have header : (memory.bytesAt commBuffer sizeofParameterHeader).length = 16 := by
    simp [sizeofParameterHeader]
  unfold smmCoreDumpCopyData
  split <;>
    simp [GetDataByOffset.encode, readGetDataByOffset, header, sizeofGetDataByOffset]

theorem HandlerState.Safe.reply {databaseSize : Nat} (safe : state.Safe databaseSize)
    (listed : ⟨commBuffer, sizeofGetDataByOffset⟩ ∈ state.accepted) {reply : List UInt8}
    (length : reply.length = sizeofGetDataByOffset) (status : Nat) :
    ((state.write commBuffer reply).write (commBuffer + 8) (toBytes 8 status)).Safe
      databaseSize := by
  have replied : (state.write commBuffer reply).Safe databaseSize :=
    safe.write listed ⟨Nat.le_refl _, by dsimp only; omega⟩
  refine replied.write ?_ (inside_field status (by decide : 8 + 8 ≤ sizeofGetDataByOffset))
  rwa [HandlerState.accepted_write]

/-- The answer to a data request, from a safe state in which the communication buffer is
what was accepted. -/
theorem safe_getDataByOffset_iff (fits : database.length < 256 ^ width)
    (accepted : state.accepted = [⟨commBuffer, sizeofGetDataByOffset⟩])
    (safe : state.Safe database.length) :
    (smmCoreDumpHandlerGetDataByOffset width smmIsBufferOutsideSmmValid database commBuffer
        state).Safe database.length ↔
      (smmIsBufferOutsideSmmValid
          (toUintn width (readGetDataByOffset state.memory commBuffer).dumpBuffer)
          (toUintn width (readGetDataByOffset state.memory commBuffer).dumpSize) = true →
        (readGetDataByOffset state.memory commBuffer).dumpOffset < database.length →
        CopyFits width database commBuffer state.memory) := by
  set request := readGetDataByOffset state.memory commBuffer with requestEq
  set target : Range := ⟨toUintn width request.dumpBuffer, toUintn width request.dumpSize⟩
    with targetEq
  have reply := @length_encode_reply width database commBuffer (state.accept target) state.memory
  have granted := safe.accept target
  have inTarget : target ∈ (state.accept target).accepted := by simp
  have inBuffer : ⟨commBuffer, sizeofGetDataByOffset⟩ ∈ (state.accept target).accepted := by
    simp [accepted]
  simp only [smmCoreDumpHandlerGetDataByOffset, ← requestEq, ← targetEq] at reply ⊢
  by_cases valid : smmIsBufferOutsideSmmValid target.start target.length = true
  · rw [if_pos valid]
    by_cases inside : request.dumpOffset < database.length
    · -- The copy is made, and its range decides.
      rw [smmCoreDumpCopyData_eq fits request inside] at reply ⊢
      dsimp only at reply ⊢
      constructor
      · intro whole _ _
        obtain ⟨outer, listed, start, finish⟩ := whole.writes
          ⟨toUintn width request.dumpBuffer, copyCount database.length request⟩ (by simp)
        simp only [HandlerState.accepted_write, HandlerState.accepted_copyDatabase,
          HandlerState.accepted_accept, accepted, List.mem_append,
          List.mem_singleton] at listed
        rcases listed with rfl | rfl
        · exact Or.inr ⟨start, finish⟩
        · exact Or.inl (Nat.le_of_add_le_add_left finish)
      · intro copyFits
        have bound : request.dumpOffset + copyCount database.length request ≤
            database.length := by
          unfold copyCount
          omega
        have copied : ((state.accept target).copyDatabase database
            (toUintn width request.dumpBuffer) request.dumpOffset
            (copyCount database.length request)).Safe database.length := by
          rcases copyFits valid inside with short | within
          · exact granted.copyDatabase database inTarget
              ⟨Nat.le_refl _, Nat.add_le_add_left short _⟩ bound
          · exact granted.copyDatabase database inBuffer within bound
        exact copied.reply (by simp [accepted]) reply 0
    · refine ⟨fun _ _ below => absurd below inside, fun _ => ?_⟩
      rw [smmCoreDumpCopyData, if_pos (Nat.not_lt.mp inside)] at reply ⊢
      exact granted.reply inBuffer reply 0
  · rw [if_neg valid]
    have listed : ⟨commBuffer, sizeofGetDataByOffset⟩ ∈ state.accepted := by simp [accepted]
    exact ⟨fun _ accept => absurd accept valid, fun _ => safe.write listed
      (inside_field _ (by decide : 8 + 8 ≤ sizeofGetDataByOffset))⟩

end Copy

/-- For a UINTN of any width, every content of memory and every argument: the handler
writes accepted ranges only and reads inside its database, exactly when a data request
that gets to the copy copies no more than the narrowed DumpSize, or into the
communication buffer. -/
theorem smmCoreDumpHandler_safe_iff (width : Nat)
    (smmIsBufferOutsideSmmValid : Nat → Nat → Bool) (mSmmCoreDatabase : Option (List UInt8))
    (commBuffer commBufferSize : Option Nat) (memory : Memory)
    (fits : ∀ database ∈ mSmmCoreDatabase, database.length < 256 ^ width) :
    (smmCoreDumpHandler width smmIsBufferOutsideSmmValid mSmmCoreDatabase commBuffer
        commBufferSize memory).Safe ((mSmmCoreDatabase.map List.length).getD 0) ↔
      ∀ database ∈ mSmmCoreDatabase, ∀ address ∈ commBuffer, ∀ size ∈ commBufferSize,
        ReachesCopy width smmIsBufferOutsideSmmValid database address size memory →
          CopyFits width database address memory := by
  have untouched : ∀ databaseSize, HandlerState.Safe databaseSize ⟨memory, [], [], []⟩ :=
    fun _ => ⟨by simp, by simp⟩
  cases mSmmCoreDatabase with
  | none => exact ⟨fun _ => by simp, fun _ => untouched _⟩
  | some database =>
  cases commBuffer with
  | none => exact ⟨fun _ => by simp, fun _ => untouched _⟩
  | some address =>
  cases commBufferSize with
  | none => exact ⟨fun _ => by simp, fun _ => untouched _⟩
  | some size =>
  simp only [Option.mem_def, Option.some.injEq, forall_eq', Option.map_some,
    Option.getD_some] at fits ⊢
  obtain ⟨command, dumpSize, dumpBuffer, dumpOffset⟩ :=
    readGetDataByOffset_write memory address (2 ^ 64 - 1)
  simp only [smmCoreDumpHandler]
  by_cases short : size < sizeofParameterHeader
  · rw [if_pos short]
    refine ⟨fun _ reaches => ?_, fun _ => untouched _⟩
    rw [reaches.size] at short
    exact absurd short (by decide)
  rw [if_neg short]
  by_cases valid : smmIsBufferOutsideSmmValid address size = true
  swap
  · rw [if_neg valid]
    exact ⟨fun _ reaches => absurd reaches.commBuffer_valid valid, fun _ => untouched _⟩
  rw [if_pos valid]
  simp only [HandlerState.memory_write, HandlerState.memory_accept, command]
  set state := (HandlerState.mk memory [] [] []).accept ⟨address, size⟩ |>.write (address + 8)
    (toBytes 8 (2 ^ 64 - 1)) with stateEq
  have accepted : state.accepted = [⟨address, size⟩] := rfl
  have listed : ⟨address, size⟩ ∈ state.accepted := by simp [accepted]
  have status : state.Safe database.length := by
    dsimp only [sizeofParameterHeader] at short
    exact HandlerState.Safe.write ((untouched database.length).accept ⟨address, size⟩)
      (List.mem_append_right _ (List.mem_singleton_self _)) (inside_field _ (by omega))
  by_cases info : memory.readLe address 4 = commandGetInfo
  · rw [if_pos info]
    refine ⟨fun _ reaches => ?_, fun _ => ?_⟩
    · rw [reaches.command] at info
      exact absurd info (by decide)
    · split
      · exact status
      · rename_i exact_
        have infoSize : size = sizeofGetInfo := by simpa using exact_
        subst infoSize
        have filled : (state.write (address + 16) (toBytes 8 database.length)).Safe
            database.length :=
          status.write listed (inside_field _ (by decide : 16 + 8 ≤ sizeofGetInfo))
        refine filled.write ?_ (inside_field _ (by decide : 8 + 8 ≤ sizeofGetInfo))
        rwa [HandlerState.accepted_write]
  rw [if_neg info]
  by_cases data : memory.readLe address 4 = commandGetDataByOffset
  swap
  · rw [if_neg data]
    exact ⟨fun _ reaches => absurd reaches.command data, fun _ => status⟩
  rw [if_pos data]
  by_cases sized : size = sizeofGetDataByOffset
  swap
  · rw [if_pos sized]
    exact ⟨fun _ reaches => absurd reaches.size sized, fun _ => status⟩
  subst sized
  rw [if_neg (fun differs => differs rfl),
    safe_getDataByOffset_iff fits accepted status]
  have stored : state.memory = memory.write (address + 8) (toBytes 8 (2 ^ 64 - 1)) := rfl
  simp only [CopyFits, copyCount, stored, dumpSize, dumpBuffer, dumpOffset]
  exact ⟨fun safe reaches => safe reaches.target_valid reaches.offset,
    fun safe target offset => safe ⟨rfl, valid, data, target, offset⟩⟩

/-- With a UINTN as wide as the fields of a request nothing is narrowed. -/
theorem copyFits_of_64 (database : List UInt8) (commBuffer : Nat) (memory : Memory) :
    CopyFits 8 database commBuffer memory := by
  have field : (readGetDataByOffset memory commBuffer).dumpSize < 256 ^ 8 :=
    Memory.readLe_lt _ _ _
  refine Or.inl ?_
  rw [toUintn_of_lt field]
  exact Nat.min_le_left _ _

/-- A data request whose DumpSize is 16 bytes modulo 2^32. -/
def wideRequest : Memory :=
  Memory.ofBytesAt 0x1000 (toBytes 4 commandGetDataByOffset ++ toBytes 4 40 ++ toBytes 8 0 ++
    toBytes 8 0x100000010 ++ toBytes 8 0x5000 ++ toBytes 8 0)

/-- SMRAM is at 0x5010, right behind the 16 bytes. -/
def outsideSmram (address length : Nat) : Bool :=
  address + length ≤ 0x5010 || 0x6010 ≤ address

theorem smmCoreDumpHandler_safe_iff_wideRequest :
    (smmCoreDumpHandler 4 outsideSmram (some (List.replicate 100 0xAA)) (some 0x1000)
        (some 40) wideRequest).Safe 100 ↔
      ∀ database ∈ some (List.replicate 100 (0xAA : UInt8)), ∀ address ∈ some 0x1000,
        ∀ size ∈ some 40,
        ReachesCopy 4 outsideSmram database address size wideRequest →
          CopyFits 4 database address wideRequest :=
  smmCoreDumpHandler_safe_iff 4 outsideSmram (some (List.replicate 100 0xAA)) (some 0x1000)
    (some 40) wideRequest (by simp)

/-- On a 32-bit UINTN, 16 bytes are checked and 100 are written, over SMRAM. -/
theorem smmCoreDumpHandler_wideRequest :
    (smmCoreDumpHandler 4 outsideSmram (some (List.replicate 100 0xAA)) (some 0x1000)
        (some 40) wideRequest).accepted = [⟨0x1000, 40⟩, ⟨0x5000, 16⟩] ∧
      ¬ (smmCoreDumpHandler 4 outsideSmram (some (List.replicate 100 0xAA)) (some 0x1000)
        (some 40) wideRequest).Safe 100 := by
  have accepted : (smmCoreDumpHandler 4 outsideSmram (some (List.replicate 100 0xAA))
      (some 0x1000) (some 40) wideRequest).accepted = [⟨0x1000, 40⟩, ⟨0x5000, 16⟩] := by
    decide +kernel
  have copied : ⟨0x5000, 100⟩ ∈ (smmCoreDumpHandler 4 outsideSmram
      (some (List.replicate 100 0xAA)) (some 0x1000) (some 40) wideRequest).writes := by
    decide +kernel
  refine ⟨accepted, fun safe => ?_⟩
  obtain ⟨outer, listed, inside⟩ := safe.writes _ copied
  rw [accepted] at listed
  simp only [List.mem_cons, List.not_mem_nil, or_false] at listed
  rcases listed with rfl | rfl
  · exact absurd inside (by decide)
  · exact absurd inside (by decide)

end AppEfi.SmmCore
