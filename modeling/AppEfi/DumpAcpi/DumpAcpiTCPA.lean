import AppEfi.Lib.DepthFirst
import AppEfi.Lib.Dumped
import AppEfi.Lib.RecordWalk
import Mathlib.Data.Fintype.Prod

/-!
# The events of a TCPA log area

DumpTcpaLogArea and DumpTcpaPcrEvent.  The size of an event is added up in a UINT32 and the
place of the next one in a UINTN of `w` bits.  Two lengths are read before the event is known
to be one.
-/

set_option autoImplicit false

namespace AppEfi.DumpAcpi

open AppEfi.DepthFirst
open AppEfi.Dumped
open AppEfi.RecordWalk hiding visit

inductive TcpaReport where
  | pcrEvent (address : Nat) (versionInfo : Option UInt32) (pcrIndex eventType : UInt32)
  | pcrValue (value : List UInt8)
  | event (data : List UInt8)
  | platformSpecific (eventId : UInt32) (data : List UInt8)
  deriving DecidableEq, Repr

/-- What a call of DumpTcpaPcrEvent prints and reads, and `*TcpaPcrEventSize` behind it. -/
structure PcrEventDump where
  events : List (Dumped TcpaReport)
  size : UInt32
  deriving DecidableEq, Repr

/-- What DumpTcpaPcrEvent finds before it asks for the terminator. -/
structure PcrEventView where
  reads : List (Nat × Nat)
  versionInfo : Option UInt32
  pcrIndex : UInt32
  eventType : UInt32
  valueLength : UInt32
  value : Nat
  event : Nat
  size : UInt32

def terminator : UInt32 := 0xFFFFFFFF

section Dump

variable (w version : Nat) (memory : Memory)

def tcpaField (address : Nat) : UInt32 := UInt32.ofNat (memory.readLe address 4)

def dumpTcpaPcrEventStructPcrValue (length : UInt32) (value : Nat) : List (Dumped TcpaReport) :=
  if value % 2 ^ w = 0 then []
  else [.read ⟨value, length.toNat⟩, .report (.pcrValue (memory.bytesAt value length.toNat))]

def dumpTcpaPcrEventStructEventUnknown (event : Nat) : List (Dumped TcpaReport) :=
  if event % 2 ^ w = 0 then []
  else
    [.read ⟨event, 4⟩, .read ⟨event + 4, (tcpaField memory event).toNat⟩,
      .report (.event (memory.bytesAt (event + 4) (tcpaField memory event).toNat))]

def dumpTcpaPcrEventStructEventPlatformSpecific (event : Nat) : List (Dumped TcpaReport) :=
  if event % 2 ^ w = 0 then []
  else
    dumpTcpaPcrEventStructEventUnknown w memory event ++
      [.read ⟨event + 4, 4⟩, .read ⟨event + 8, 4⟩,
        .read ⟨event + 12, (tcpaField memory (event + 8)).toNat⟩,
        .report (.platformSpecific (tcpaField memory (event + 4))
          (memory.bytesAt (event + 12) (tcpaField memory (event + 8)).toNat))]

/-- TCPA_PCR_EVENT_STRUCT. -/
def viewV1 (pcrEvent : Nat) : PcrEventView :=
  let valueLength := tcpaField memory (pcrEvent + 12)
  let behindValue : UInt32 := 12 + (4 + valueLength)
  let event := pcrEvent + behindValue.toNat
  { reads := [(0, 1), (1, 1), (12, 4), (behindValue.toNat, 4), (8, 4), (4, 4)]
    versionInfo := some (tcpaField memory pcrEvent)
    pcrIndex := tcpaField memory (pcrEvent + 4)
    eventType := tcpaField memory (pcrEvent + 8)
    valueLength
    value := pcrEvent + 16
    event
    size := behindValue + (4 + tcpaField memory event) }

/-- TCPA_V2_PCR_EVENT_STRUCT. -/
def viewV2 (pcrEvent : Nat) : PcrEventView where
  reads := [(28, 4), (4, 4), (0, 4)]
  versionInfo := none
  pcrIndex := tcpaField memory pcrEvent
  eventType := tcpaField memory (pcrEvent + 4)
  valueLength := 20
  value := pcrEvent + 8
  event := pcrEvent + 28
  size := 28 + (4 + tcpaField memory (pcrEvent + 28))

def dumpEventStruct (eventType : UInt32) (event : Nat) : List (Dumped TcpaReport) :=
  if eventType = 6 ∧ version < 2 then dumpTcpaPcrEventStructEventPlatformSpecific w memory event
  else dumpTcpaPcrEventStructEventUnknown w memory event

def dumpView (pcrEvent : Nat) (view : PcrEventView) : PcrEventDump :=
  if view.pcrIndex = terminator then ⟨fieldReads pcrEvent view.reads, 0⟩
  else
    { events := fieldReads pcrEvent view.reads ++
        .report (.pcrEvent pcrEvent view.versionInfo view.pcrIndex view.eventType) ::
          (dumpTcpaPcrEventStructPcrValue w memory view.valueLength view.value ++
            dumpEventStruct w version memory view.eventType view.event)
      size := view.size }

/-- `pcrEvent` is not NULL. -/
def dumpTcpaPcrEvent (pcrEvent : Nat) : PcrEventDump :=
  if version < 2 then
    if memory pcrEvent ≠ 1 then ⟨fieldReads pcrEvent [(0, 1)], 0⟩
    else if memory (pcrEvent + 1) = 0 then ⟨fieldReads pcrEvent [(0, 1), (1, 1)], 0⟩
    else dumpView w version memory pcrEvent (viewV1 memory pcrEvent)
  else dumpView w version memory pcrEvent (viewV2 memory pcrEvent)

end Dump

/-- `PcrEvent` and `PcrEventStructSize` of the loop. -/
structure Cursor (w : Nat) where
  pcrEvent : BitVec w
  size : UInt32
  deriving DecidableEq, Repr

section Loop

variable {w : Nat} (version : Nat) (memory : Memory)

/-- For NULL the call leaves the size alone. -/
def dumpCursor (cursor : Cursor w) : PcrEventDump :=
  if cursor.pcrEvent = 0 then ⟨[], cursor.size⟩
  else dumpTcpaPcrEvent w version memory cursor.pcrEvent.toNat

def Cursor.step (cursor : Cursor w) (size : UInt32) : Cursor w :=
  ⟨cursor.pcrEvent + BitVec.ofNat w size.toNat, size⟩

/-- The loop of DumpTcpaLogArea up to `limit`. -/
def logAreaLoop (limit : Nat) : Nat → Cursor w → Option (List (Dumped TcpaReport))
  | 0, _ => none
  | fuel + 1, cursor =>
      if cursor.pcrEvent.toNat < limit then
        let dump := dumpCursor version memory cursor
        if dump.size = 0 then some dump.events
        else (logAreaLoop limit fuel (cursor.step dump.size)).map (dump.events ++ ·)
      else some []

/-- `PcrEventStructSize` is `stale` before the first call. -/
def dumpTcpaLogArea (w version : Nat) (memory : Memory) (fuel laml lasa : Nat)
    (stale : UInt32) : Option (List (Dumped TcpaReport)) :=
  if laml = 0 then some []
  else logAreaLoop version memory ((laml + lasa) % 2 ^ w) fuel ⟨BitVec.ofNat w laml, stale⟩

end Loop

/-- A log area of any content. -/
structure LogArea (w : Nat) where
  memory : Memory
  address : Nat
  length : Nat
  stale : UInt32
  notNull : address ≠ 0
  inside : address + length ≤ 2 ^ w

namespace LogArea

variable {w : Nat} (area : LogArea w) (version : Nat)

def place : Range := ⟨area.address, area.length⟩

def finish : Nat := area.address + area.length

def dump (fuel : Nat) : Option (List (Dumped TcpaReport)) :=
  dumpTcpaLogArea w version area.memory fuel area.address area.length area.stale

def Terminates : Prop := ∃ fuel events, area.dump version fuel = some events

end LogArea

/-! ## When the loop ends -/

/-- A turn of the loop, and where it goes on. -/
structure LogTurn (w : Nat) where
  events : List (Dumped TcpaReport)
  next : Option (Cursor w)

section Turns

variable {w : Nat} (version : Nat) (memory : Memory) (limit : Nat)

/-- Behind the limit there is no turn. -/
def logTurns (cursor : Cursor w) : List (LogTurn w) :=
  if cursor.pcrEvent.toNat < limit then
    let dump := dumpCursor version memory cursor
    [⟨dump.events, if dump.size = 0 then none else some (cursor.step dump.size)⟩]
  else []

/-- No event that the sizes lead to leads back to itself. -/
def LogArea.LeadsNowhereTwice (area : LogArea w) (version : Nat) : Prop :=
  LoopFree (logTurns version area.memory (area.finish % 2 ^ w)) LogTurn.next
    ⟨BitVec.ofNat w area.address, area.stale⟩

theorem logAreaLoop_eq_visit (fuel : Nat) (cursor : Cursor w) :
    logAreaLoop version memory limit fuel cursor =
      (visit (logTurns version memory limit) LogTurn.next fuel cursor).map
        (List.flatMap LogTurn.events) := by
  induction fuel generalizing cursor with
  | zero => rfl
  | succ fuel ih =>
      rw [logAreaLoop, visit, logTurns]
      by_cases inside : cursor.pcrEvent.toNat < limit
      · rw [if_pos inside, if_pos inside]
        dsimp only
        by_cases last : (dumpCursor version memory cursor).size = 0
        · rw [if_pos last, if_pos last]
          simp [visitItems]
        · rw [if_neg last, if_neg last, ih]
          simp only [visitItems, Option.elim_some, Option.bind_eq_bind]
          cases visit (logTurns version memory limit) LogTurn.next fuel
              (cursor.step (dumpCursor version memory cursor).size) with
          | none => rfl
          | some rest => simp
      · rw [if_neg inside, if_neg inside]
        rfl

instance finite_cursor : Finite (Cursor w) := by
  refine Finite.of_injective
    (fun cursor : Cursor w => (cursor.pcrEvent.toFin, cursor.size.toFin)) ?_
  rintro ⟨first, size⟩ ⟨second, other⟩ same
  simp only [Prod.mk.injEq, BitVec.toFin_inj, UInt32.toFin_inj] at same
  rw [same.1, same.2]

end Turns

theorem terminates_iff {w : Nat} (area : LogArea w) (version : Nat) :
    area.Terminates version ↔ area.LeadsNowhereTwice version := by
  rw [LogArea.LeadsNowhereTwice, ← exists_visit_iff, LogArea.Terminates]
  simp only [LogArea.dump, dumpTcpaLogArea, if_neg area.notNull, logAreaLoop_eq_visit,
    Option.map_eq_some_iff, LogArea.finish]
  constructor
  · rintro ⟨fuel, _, turns, run, _⟩
    exact ⟨fuel, turns, run⟩
  · rintro ⟨fuel, turns, run⟩
    exact ⟨fuel, _, turns, run, rfl⟩

theorem lt_of_leads {w version limit : Nat} {memory : Memory} {cursor next : Cursor w}
    (room : limit + 2 ^ 32 ≤ 2 ^ w)
    (leads : Leads (logTurns version memory limit) LogTurn.next cursor next) :
    cursor.pcrEvent.toNat < next.pcrEvent.toNat := by
  obtain ⟨turn, listed, goesOn⟩ := leads
  rw [logTurns] at listed
  split at listed
  · rename_i below
    obtain rfl := List.mem_singleton.mp listed
    dsimp only at goesOn
    split at goesOn
    · cases goesOn
    · rename_i more
      obtain rfl := Option.some.inj goesOn
      have bound := (dumpCursor version memory cursor).size.toNat_lt
      have positive : 0 < (dumpCursor version memory cursor).size.toNat := by
        rw [Nat.pos_iff_ne_zero]
        exact fun zero => more (UInt32.toNat_inj.mp zero)
      rw [Cursor.step, BitVec.toNat_add, BitVec.toNat_ofNat, Nat.mod_eq_of_lt (b := 2 ^ w)]
      · rw [Nat.mod_eq_of_lt (by omega)]
        omega
      · rw [Nat.mod_eq_of_lt (by omega)]
        omega
  · cases listed

/-- Below the last 4 GiB no place wraps. -/
theorem terminates_of_room {w : Nat} (area : LogArea w) (version : Nat)
    (room : area.finish + 2 ^ 32 ≤ 2 ^ w) : area.Terminates version := by
  rw [terminates_iff, LogArea.LeadsNowhereTwice]
  rintro ⟨cursor, _, back⟩
  have near : area.finish % 2 ^ w + 2 ^ 32 ≤ 2 ^ w := by
    have le := Nat.mod_le area.finish (2 ^ w)
    omega
  have rises : ∀ first second : Cursor w, Relation.TransGen
      (Leads (logTurns version area.memory (area.finish % 2 ^ w)) LogTurn.next) first second →
        first.pcrEvent.toNat < second.pcrEvent.toNat := by
    intro first second path
    induction path with
    | single leads => exact lt_of_leads near leads
    | tail _ leads ih => exact Nat.lt_trans ih (lt_of_leads near leads)
  exact Nat.lt_irrefl _ (rises cursor cursor back)

/-! ## Logs -/

/-- Of an event of version 2 the VersionInfo does not count. -/
structure TcpaEvent where
  versionInfo : UInt32
  pcrIndex : UInt32
  eventType : UInt32
  value : List UInt8
  event : List UInt8
  deriving DecidableEq, Repr

namespace TcpaEvent

variable (version : Nat) (memory : Memory)

def valueOffset : Nat := if version < 2 then 16 else 8

def length (entry : TcpaEvent) : Nat :=
  valueOffset version + entry.value.length + 4 + entry.event.length

/-- The EventData of a platform specific event. -/
def platformSize (entry : TcpaEvent) : Nat := LittleEndian.ofBytes ((entry.event.drop 4).take 4)

def HeaderAt (address : Nat) (entry : TcpaEvent) : Prop :=
  if version < 2 then
    memory address = 1 ∧ memory (address + 1) ≠ 0 ∧
      memory.readLe address 4 = entry.versionInfo.toNat ∧
      memory.readLe (address + 4) 4 = entry.pcrIndex.toNat ∧
      memory.readLe (address + 8) 4 = entry.eventType.toNat ∧
      memory.readLe (address + 12) 4 = entry.value.length
  else
    entry.value.length = 20 ∧ memory.readLe address 4 = entry.pcrIndex.toNat ∧
      memory.readLe (address + 4) 4 = entry.eventType.toNat

structure StoredAt (address : Nat) (entry : TcpaEvent) : Prop where
  fits : entry.length version < 2 ^ 32
  used : entry.pcrIndex ≠ terminator
  header : entry.HeaderAt version memory address
  value : memory.Holds (address + valueOffset version) entry.value
  eventSize : memory.readLe (address + valueOffset version + entry.value.length) 4 =
    entry.event.length
  event : memory.Holds (address + valueOffset version + entry.value.length + 4) entry.event
  platform : version < 2 → entry.eventType = 6 → 8 + entry.platformSize ≤ entry.event.length

/-- What an event deserves. -/
def reports (address : Nat) (entry : TcpaEvent) : List TcpaReport :=
  [.pcrEvent address (if version < 2 then some entry.versionInfo else none) entry.pcrIndex
      entry.eventType,
    .pcrValue entry.value, .event entry.event] ++
    if entry.eventType = 6 ∧ version < 2 then
      [.platformSpecific (UInt32.ofNat (LittleEndian.ofBytes (entry.event.take 4)))
        ((entry.event.drop 8).take entry.platformSize)]
    else []

end TcpaEvent

/-- Events with a rest of 0xFF bytes behind them. -/
structure TcpaLog (w version : Nat) extends LogArea w where
  entries : List TcpaEvent
  fill : Nat
  filled : address + total (TcpaEvent.length version) entries + fill = toLogArea.finish
  stored : ∀ entry ∈ placed (TcpaEvent.length version) address entries,
    entry.2.StoredAt version memory entry.1
  fillBytes : ∀ index < fill,
    memory (address + total (TcpaEvent.length version) entries + index) = 0xFF

namespace TcpaLog

variable {w version : Nat} (log : TcpaLog w version)

def placedEntries : List (Nat × TcpaEvent) :=
  placed (TcpaEvent.length version) log.address log.entries

/-- The dump ends, reports the events once each and in order, and reads inside the area. -/
def DumpsEvents : Prop :=
  ∃ fuel events, log.dump version fuel = some events ∧
    reports events = log.placedEntries.flatMap (fun entry => entry.2.reports version entry.1) ∧
    ReadsInside log.place events

/-- The area ends at an address, and the rest has room for what is read of an event of
version 2.  An area up to the top of the address space is not looked at. -/
def RestIsRead : Prop :=
  log.finish < 2 ^ w ∧ (version < 2 ∨ log.fill = 0 ∨ 32 ≤ log.fill) ∨
    log.finish = 2 ^ w ∧ log.entries = []

end TcpaLog

section Events

variable {w version : Nat} {memory : Memory} {address : Nat} {entry : TcpaEvent}

theorem tcpaField_eq {value : UInt32} (field : memory.readLe address 4 = value.toNat) :
    tcpaField memory address = value := by
  rw [tcpaField, field, UInt32.ofNat_toNat]

theorem toNat_tcpaField {value : Nat} (field : memory.readLe address 4 = value)
    (fits : value < 2 ^ 32) : (tcpaField memory address).toNat = value := by
  rw [tcpaField, field, UInt32.toNat_ofNat', Nat.mod_eq_of_lt fits]

/-- What the code finds of a stored event. -/
structure Finds (version address : Nat) (entry : TcpaEvent) (view : PcrEventView) : Prop where
  reads : ∀ field ∈ view.reads, field.1 + field.2 ≤ entry.length version
  versionInfo : view.versionInfo = if version < 2 then some entry.versionInfo else none
  pcrIndex : view.pcrIndex = entry.pcrIndex
  eventType : view.eventType = entry.eventType
  valueLength : view.valueLength.toNat = entry.value.length
  value : view.value = address + TcpaEvent.valueOffset version
  event : view.event = address + TcpaEvent.valueOffset version + entry.value.length
  size : view.size.toNat = entry.length version

theorem finds_viewV1 (first : version < 2) (stored : entry.StoredAt version memory address) :
    Finds version address entry (viewV1 memory address) := by
  obtain ⟨fits, used, header, _, eventSize, _, _⟩ := stored
  have offset : TcpaEvent.valueOffset version = 16 := if_pos first
  have length : entry.length version = 16 + entry.value.length + 4 + entry.event.length := by
    rw [TcpaEvent.length, offset]
  rw [offset] at eventSize
  rw [TcpaEvent.HeaderAt, if_pos first] at header
  obtain ⟨_, _, versionInfo, pcrIndex, eventType, valueLength⟩ := header
  have valueLength := toNat_tcpaField valueLength (by omega)
  have behindValue : (12 + (4 + tcpaField memory (address + 12))).toNat =
      16 + entry.value.length := by
    rw [UInt32.toNat_add, UInt32.toNat_add, valueLength]
    change (12 + (4 + entry.value.length) % 2 ^ 32) % 2 ^ 32 = _
    omega
  have event : (viewV1 memory address).event = address + 16 + entry.value.length := by
    rw [viewV1, behindValue, Nat.add_assoc]
  have size := toNat_tcpaField eventSize (by omega)
  refine
    { reads := ?_
      versionInfo := ?_
      pcrIndex := tcpaField_eq pcrIndex
      eventType := tcpaField_eq eventType
      valueLength := valueLength
      value := ?_
      event := ?_
      size := ?_ }
  · rw [viewV1, behindValue, length]
    simp only [List.forall_mem_cons, List.not_mem_nil, false_implies, implies_true, and_true]
    omega
  · rw [if_pos first, viewV1, tcpaField_eq versionInfo]
  · rw [offset]
    rfl
  · rw [event, offset]
  · have sum : (viewV1 memory address).size =
        12 + (4 + tcpaField memory (address + 12)) +
          (4 + tcpaField memory (viewV1 memory address).event) := rfl
    rw [sum, event, UInt32.toNat_add, behindValue, UInt32.toNat_add, size, length]
    change (16 + entry.value.length + (4 + entry.event.length) % 2 ^ 32) % 2 ^ 32 = _
    omega

theorem finds_viewV2 (second : ¬ version < 2) (stored : entry.StoredAt version memory address) :
    Finds version address entry (viewV2 memory address) := by
  obtain ⟨fits, used, header, _, eventSize, _, _⟩ := stored
  have offset : TcpaEvent.valueOffset version = 8 := if_neg second
  rw [TcpaEvent.HeaderAt, if_neg second] at header
  obtain ⟨valueLength, pcrIndex, eventType⟩ := header
  have length : entry.length version = 32 + entry.event.length := by
    rw [TcpaEvent.length, offset, valueLength]
  have event : address + 8 + entry.value.length = address + 28 := by rw [valueLength]
  rw [offset, event] at eventSize
  have size := toNat_tcpaField eventSize (by omega)
  refine
    { reads := ?_
      versionInfo := (if_neg second).symm
      pcrIndex := tcpaField_eq pcrIndex
      eventType := tcpaField_eq eventType
      valueLength := valueLength.symm
      value := ?_
      event := ?_
      size := ?_ }
  · rw [viewV2, length]
    simp only [List.forall_mem_cons, List.not_mem_nil, false_implies, implies_true, and_true]
    omega
  · rw [offset]
    rfl
  · rw [offset, event]
    rfl
  · rw [viewV2, UInt32.toNat_add, UInt32.toNat_add, size, length]
    change (28 + (4 + entry.event.length) % 2 ^ 32) % 2 ^ 32 = _
    omega

/-- A stored event goes through the checks of its version. -/
theorem dumpTcpaPcrEvent_stored (w : Nat) (stored : entry.StoredAt version memory address) :
    ∃ view, Finds version address entry view ∧
      dumpTcpaPcrEvent w version memory address = dumpView w version memory address view := by
  have header := stored.header
  rw [TcpaEvent.HeaderAt] at header
  rw [dumpTcpaPcrEvent]
  by_cases first : version < 2
  · rw [if_pos first] at header ⊢
    rw [if_neg (not_not.mpr header.1), if_neg header.2.1]
    exact ⟨_, finds_viewV1 first stored, rfl⟩
  · rw [if_neg first]
    exact ⟨_, finds_viewV2 first stored, rfl⟩

/-- The event at `event`, with its bytes behind its size. -/
structure EventAt (memory : Memory) (event : Nat) (entry : TcpaEvent) : Prop where
  size : (tcpaField memory event).toNat = entry.event.length
  bytes : memory.Holds (event + 4) entry.event

section Structs

variable {w event : Nat} {outer : Range}

theorem dumpTcpaPcrEventStructEventUnknown_eq (proper : event % 2 ^ w ≠ 0)
    (here : EventAt memory event entry) :
    dumpTcpaPcrEventStructEventUnknown w memory event =
      [.read ⟨event, 4⟩, .read ⟨event + 4, entry.event.length⟩, .report (.event entry.event)] := by
  rw [dumpTcpaPcrEventStructEventUnknown, if_neg proper, here.size, here.bytes.bytesAt_eq rfl]

theorem dumpTcpaPcrEventStructEventPlatformSpecific_eq (proper : event % 2 ^ w ≠ 0)
    (here : EventAt memory event entry) (fits : 8 + entry.platformSize ≤ entry.event.length) :
    dumpTcpaPcrEventStructEventPlatformSpecific w memory event =
      [.read ⟨event, 4⟩, .read ⟨event + 4, entry.event.length⟩, .report (.event entry.event),
        .read ⟨event + 4, 4⟩, .read ⟨event + 8, 4⟩, .read ⟨event + 12, entry.platformSize⟩,
        .report (.platformSpecific (UInt32.ofNat (LittleEndian.ofBytes (entry.event.take 4)))
          ((entry.event.drop 8).take entry.platformSize))] := by
  have eventId := here.bytes.bytesAt_slice 0 4 (by omega)
  have dataSize := here.bytes.bytesAt_slice 4 4 (by omega)
  have data := here.bytes.bytesAt_slice 8 entry.platformSize fits
  rw [List.drop_zero, Nat.add_zero] at eventId
  rw [Nat.add_assoc] at dataSize data
  have small : entry.platformSize < 2 ^ 32 :=
    Nat.lt_of_lt_of_le (LittleEndian.ofBytes_lt _)
      (Nat.pow_le_pow_right (by omega) (List.length_take_le 4 _))
  have size : (tcpaField memory (event + 8)).toNat = entry.platformSize := by
    refine toNat_tcpaField ?_ small
    rw [Memory.readLe, dataSize, TcpaEvent.platformSize]
  rw [dumpTcpaPcrEventStructEventPlatformSpecific, if_neg proper,
    dumpTcpaPcrEventStructEventUnknown_eq proper here, size, data, tcpaField, Memory.readLe,
    eventId]
  rfl

theorem dumpTcpaPcrEventStructPcrValue_eq {length : UInt32} {value : Nat}
    (proper : value % 2 ^ w ≠ 0) (size : length.toNat = entry.value.length)
    (held : memory.Holds value entry.value) :
    dumpTcpaPcrEventStructPcrValue w memory length value =
      [.read ⟨value, entry.value.length⟩, .report (.pcrValue entry.value)] := by
  rw [dumpTcpaPcrEventStructPcrValue, if_neg proper, size, held.bytesAt_eq rfl]

theorem reports_dumpEventStruct (proper : event % 2 ^ w ≠ 0) (here : EventAt memory event entry)
    (fits : version < 2 → entry.eventType = 6 → 8 + entry.platformSize ≤ entry.event.length) :
    reports (dumpEventStruct w version memory entry.eventType event) = .event entry.event ::
      if entry.eventType = 6 ∧ version < 2 then
        [.platformSpecific (UInt32.ofNat (LittleEndian.ofBytes (entry.event.take 4)))
          ((entry.event.drop 8).take entry.platformSize)]
      else [] := by
  rw [dumpEventStruct]
  split
  · rename_i platform
    have inside := fits platform.2 platform.1
    rw [dumpTcpaPcrEventStructEventPlatformSpecific_eq proper here inside]
    rfl
  · rw [dumpTcpaPcrEventStructEventUnknown_eq proper here]
    rfl

theorem readsInside_dumpEventStruct (proper : event % 2 ^ w ≠ 0)
    (here : EventAt memory event entry)
    (fits : version < 2 → entry.eventType = 6 → 8 + entry.platformSize ≤ entry.event.length)
    (inside : Range.Inside ⟨event, 4 + entry.event.length⟩ outer) :
    ReadsInside outer (dumpEventStruct w version memory entry.eventType event) := by
  simp only [Range.Inside] at inside
  rw [dumpEventStruct]
  split
  · rename_i platform
    have data := fits platform.2 platform.1
    rw [dumpTcpaPcrEventStructEventPlatformSpecific_eq proper here data]
    simp only [readsInside_report, readsInside_read, readsInside_nil, Range.Inside, and_true]
    omega
  · rw [dumpTcpaPcrEventStructEventUnknown_eq proper here]
    simp only [readsInside_report, readsInside_read, readsInside_nil, Range.Inside, and_true]
    omega

end Structs

/-- A call for a stored event reports it and reads inside it. -/
structure DumpsEvent (version address : Nat) (entry : TcpaEvent) (dump : PcrEventDump) : Prop where
  size : dump.size.toNat = entry.length version
  reports : reports dump.events = entry.reports version address
  inside : ReadsInside ⟨address, entry.length version⟩ dump.events

theorem dumpsEvent_stored {w : Nat} (notNull : address ≠ 0)
    (below : address + entry.length version ≤ 2 ^ w)
    (stored : entry.StoredAt version memory address) :
    DumpsEvent version address entry (dumpTcpaPcrEvent w version memory address) := by
  obtain ⟨view, finds, same⟩ := dumpTcpaPcrEvent_stored w stored
  have length : entry.length version =
    TcpaEvent.valueOffset version + entry.value.length + 4 + entry.event.length := rfl
  have proper : ∀ place, address ≤ place → place < address + entry.length version →
      place % 2 ^ w ≠ 0 := by
    intro place lower upper
    rw [Nat.mod_eq_of_lt (by omega)]
    omega
  have event : EventAt memory view.event entry := by
    have fits := stored.fits
    refine ⟨toNat_tcpaField ?_ (by omega), ?_⟩
    · rw [finds.event]
      exact stored.eventSize
    · rw [finds.event]
      exact stored.event
  have properEvent : view.event % 2 ^ w ≠ 0 := by
    rw [finds.event]
    exact proper _ (by omega) (by omega)
  have value : dumpTcpaPcrEventStructPcrValue w memory view.valueLength view.value =
      [.read ⟨view.value, entry.value.length⟩, .report (.pcrValue entry.value)] := by
    refine dumpTcpaPcrEventStructPcrValue_eq ?_ finds.valueLength ?_
    · rw [finds.value]
      exact proper _ (by omega) (by omega)
    · rw [finds.value]
      exact stored.value
  have used : view.pcrIndex ≠ terminator := by
    rw [finds.pcrIndex]
    exact stored.used
  have reads : ReadsInside ⟨address, entry.length version⟩
      (fieldReads address view.reads : List (Dumped TcpaReport)) :=
    readsInside_fieldReads finds.reads (Nat.le_refl _) (Nat.le_refl _)
  have place : Range.Inside ⟨view.event, 4 + entry.event.length⟩
      ⟨address, entry.length version⟩ := by
    simp only [Range.Inside, finds.event]
    omega
  rw [same, dumpView, if_neg used, value, finds.versionInfo, finds.pcrIndex, finds.eventType]
  refine ⟨finds.size, ?_, ?_⟩
  · simp [reports_dumpEventStruct properEvent event stored.platform, TcpaEvent.reports]
  · have struct := readsInside_dumpEventStruct properEvent event stored.platform place
    simp only [readsInside_append, readsInside_report, readsInside_read, List.cons_append,
      List.nil_append, Range.Inside, finds.value]
    exact ⟨reads, by omega, struct⟩

end Events

/-! ## Runs -/

section Runs

variable {w version limit : Nat} {memory : Memory}

theorem logAreaLoop_mono {fuel more : Nat} {cursor : Cursor w} {events : List (Dumped TcpaReport)}
    (le : fuel ≤ more) (run : logAreaLoop version memory limit fuel cursor = some events) :
    logAreaLoop version memory limit more cursor = some events := by
  rw [logAreaLoop_eq_visit, Option.map_eq_some_iff] at run ⊢
  obtain ⟨turns, visited, same⟩ := run
  exact ⟨turns, visit_mono le visited, same⟩

theorem toNat_ofNat_of_lt {place : Nat} (small : place < 2 ^ w) :
    (BitVec.ofNat w place).toNat = place := by
  rw [BitVec.toNat_ofNat, Nat.mod_eq_of_lt small]

/-- One turn at an address. -/
theorem logAreaLoop_succ {place : Nat} (size : UInt32) (notNull : place ≠ 0) (small : place < 2 ^ w)
    (below : place < limit) (fuel : Nat) :
    logAreaLoop version memory limit (fuel + 1) ⟨BitVec.ofNat w place, size⟩ =
      if (dumpTcpaPcrEvent w version memory place).size = 0 then
        some (dumpTcpaPcrEvent w version memory place).events
      else
        (logAreaLoop version memory limit fuel
          ⟨BitVec.ofNat w (place + (dumpTcpaPcrEvent w version memory place).size.toNat),
            (dumpTcpaPcrEvent w version memory place).size⟩).map
          ((dumpTcpaPcrEvent w version memory place).events ++ ·) := by
  have here := toNat_ofNat_of_lt small
  have proper : BitVec.ofNat w place ≠ 0 := by
    intro null
    rw [null] at here
    exact notNull (by simpa using here.symm)
  have dump : dumpCursor version memory ⟨BitVec.ofNat w place, size⟩ =
      dumpTcpaPcrEvent w version memory place := by
    rw [dumpCursor, if_neg proper, here]
  rw [logAreaLoop, here, if_pos below]
  simp only [dump, Cursor.step, ← BitVec.ofNat_add]

def dumpPlaced (w version : Nat) (memory : Memory) (entry : Nat × TcpaEvent) :
    List (Dumped TcpaReport) :=
  (dumpTcpaPcrEvent w version memory entry.1).events

theorem logAreaLoop_entries (entries : List TcpaEvent) {start : Nat} (size : UInt32)
    (notNull : start ≠ 0) (below : start + total (TcpaEvent.length version) entries ≤ limit)
    (room : limit < 2 ^ w)
    (stored : ∀ entry ∈ placed (TcpaEvent.length version) start entries,
      entry.2.StoredAt version memory entry.1) :
    ∃ after, ∀ fuel,
      logAreaLoop version memory limit (entries.length + fuel) ⟨BitVec.ofNat w start, size⟩ =
        (logAreaLoop version memory limit fuel
          ⟨BitVec.ofNat w (start + total (TcpaEvent.length version) entries), after⟩).map
          ((placed (TcpaEvent.length version) start entries).flatMap
            (dumpPlaced w version memory) ++ ·) := by
  induction entries generalizing start size with
  | nil =>
      refine ⟨size, fun fuel => ?_⟩
      rw [List.length_nil, Nat.zero_add, total_nil, Nat.add_zero]
      exact Option.map_id_fun'.symm ▸ rfl
  | cons entry rest ih =>
      rw [placed, List.forall_mem_cons] at stored
      rw [total_cons, ← Nat.add_assoc] at below
      have positive : 0 < entry.length version := by
        rw [TcpaEvent.length]
        omega
      have here : entry.StoredAt version memory start := stored.1
      have own := dumpsEvent_stored (w := w) notNull (by omega) here
      have more : (dumpTcpaPcrEvent w version memory start).size ≠ 0 := by
        intro zero
        have size := own.size
        rw [zero] at size
        exact absurd size (Nat.ne_of_lt positive)
      obtain ⟨after, later⟩ := ih (dumpTcpaPcrEvent w version memory start).size (by omega) below
        stored.2
      refine ⟨after, fun fuel => ?_⟩
      rw [List.length_cons, Nat.add_right_comm, logAreaLoop_succ size notNull (by omega) (by omega),
        if_neg more, own.size, later, total_cons, ← Nat.add_assoc, Option.map_map, placed,
        List.flatMap_cons]
      refine congrArg (fun joined => Option.map joined _) (funext fun behind => ?_)
      rw [Function.comp_apply, List.append_assoc, dumpPlaced]

/-- The call at a rest of 0xFF bytes. -/
theorem dumpTcpaPcrEvent_v1_rest (first : version < 2) {place : Nat} (rest : memory place = 0xFF) :
    dumpTcpaPcrEvent w version memory place = ⟨fieldReads place [(0, 1)], 0⟩ := by
  rw [dumpTcpaPcrEvent, if_pos first, rest]
  rfl

theorem dumpTcpaPcrEvent_v2_rest (second : ¬ version < 2) {place : Nat}
    (rest : ∀ index < 4, memory (place + index) = 0xFF) :
    dumpTcpaPcrEvent w version memory place = ⟨fieldReads place [(28, 4), (4, 4), (0, 4)], 0⟩ := by
  have bytes : memory.bytesAt place 4 = [0xFF, 0xFF, 0xFF, 0xFF] := by
    simp only [Memory.bytesAt, Nat.add_assoc]
    rw [← Nat.add_zero place, rest 0 (by omega), Nat.add_zero, rest 1 (by omega),
      rest 2 (by omega), rest 3 (by omega)]
  have index : tcpaField memory place = terminator := by
    rw [tcpaField, Memory.readLe, bytes]
    rfl
  rw [dumpTcpaPcrEvent, if_neg second, dumpView, viewV2, if_pos index]

/-- The length of an event of version 2 is read before anything else. -/
theorem mem_dumpTcpaPcrEvent_v2 (second : ¬ version < 2) (place : Nat) :
    .read ⟨place + 28, 4⟩ ∈ (dumpTcpaPcrEvent w version memory place).events := by
  have first : Dumped.read ⟨place + 28, 4⟩ ∈
      (fieldReads place (viewV2 memory place).reads : List (Dumped TcpaReport)) :=
    List.mem_cons_self
  rw [dumpTcpaPcrEvent, if_neg second, dumpView]
  split
  · exact first
  · exact List.mem_append_left _ first

/-- Whatever comes behind it. -/
theorem mem_logAreaLoop_v2 (second : ¬ version < 2) {place : Nat} {size : UInt32}
    (notNull : place ≠ 0) (small : place < 2 ^ w) (below : place < limit) {fuel : Nat}
    {events : List (Dumped TcpaReport)}
    (run : logAreaLoop version memory limit fuel ⟨BitVec.ofNat w place, size⟩ = some events) :
    .read ⟨place + 28, 4⟩ ∈ events := by
  have here := @mem_dumpTcpaPcrEvent_v2 w version memory second place
  cases fuel with
  | zero => cases run
  | succ fuel =>
      rw [logAreaLoop_succ size notNull small below] at run
      split at run
      · cases run
        exact here
      · obtain ⟨later, _, rfl⟩ := Option.map_eq_some_iff.mp run
        exact List.mem_append_left _ here

end Runs

namespace TcpaLog

variable {w version : Nat} (log : TcpaLog w version)

def restStart : Nat := log.address + total (TcpaEvent.length version) log.entries

def entryEvents : List (Dumped TcpaReport) :=
  log.placedEntries.flatMap (dumpPlaced w version log.memory)

theorem filled_eq : log.restStart + log.fill = log.address + log.length := log.filled

theorem entry_stored {entry : Nat × TcpaEvent} (listed : entry ∈ log.placedEntries)
    (room : log.finish < 2 ^ w) :
    DumpsEvent version entry.1 entry.2 (dumpTcpaPcrEvent w version log.memory entry.1) := by
  have bounds := placed_bounds listed
  have filled := log.filled
  have notNull := log.notNull
  exact dumpsEvent_stored (by omega) (by omega) (log.stored entry listed)

theorem reports_entryEvents (room : log.finish < 2 ^ w) :
    reports log.entryEvents =
      log.placedEntries.flatMap fun entry => entry.2.reports version entry.1 := by
  rw [entryEvents, reports_flatMap]
  exact List.flatMap_congr fun entry listed => (log.entry_stored listed room).reports

theorem readsInside_entryEvents (room : log.finish < 2 ^ w) :
    ReadsInside log.place log.entryEvents := by
  rw [entryEvents, readsInside_flatMap]
  intro entry listed
  have bounds := placed_bounds listed
  have filled := log.filled
  refine (log.entry_stored listed room).inside.mono ?_
  simp only [Range.Inside, LogArea.place, LogArea.finish] at filled ⊢
  omega

/-- The dump is that of the events, and then that of the rest. -/
theorem exists_rest (room : log.finish < 2 ^ w) :
    ∃ after : UInt32, log.DumpsEvents ↔ ∃ fuel events,
      logAreaLoop version log.memory log.finish fuel ⟨BitVec.ofNat w log.restStart, after⟩ =
          some events ∧ reports events = [] ∧ ReadsInside log.place events := by
  have filled := log.filled
  have limit : log.finish % 2 ^ w = log.finish := Nat.mod_eq_of_lt room
  obtain ⟨after, run⟩ := logAreaLoop_entries log.entries log.stale log.notNull
    (Nat.le_of_add_right_le (Nat.le_of_eq filled)) room log.stored
  refine ⟨after, ?_⟩
  have own := log.reports_entryEvents room
  have inside := log.readsInside_entryEvents room
  simp only [DumpsEvents, LogArea.dump, dumpTcpaLogArea, if_neg log.notNull]
  change (∃ fuel events, logAreaLoop version log.memory (log.finish % 2 ^ w) fuel _ = _ ∧ _) ↔ _
  rw [limit]
  constructor
  · rintro ⟨fuel, events, ends, reported, reads⟩
    have longer := logAreaLoop_mono (Nat.le_add_left fuel log.entries.length) ends
    rw [run fuel, Option.map_eq_some_iff] at longer
    obtain ⟨behind, rest, rfl⟩ := longer
    have both := reports_append log.entryEvents behind
    rw [own] at both
    refine ⟨fuel, behind, rest, ?_, (readsInside_append.mp reads).2⟩
    exact List.self_eq_append_right.mp (reported.symm.trans both)
  · rintro ⟨fuel, behind, rest, none, reads⟩
    refine ⟨log.entries.length + fuel, log.entryEvents ++ behind, ?_, ?_, ?_⟩
    · rw [run fuel]
      exact congrArg (Option.map _) rest
    · rw [reports_append, own, none, List.append_nil]
    · exact readsInside_append.mpr ⟨inside, reads⟩

/-- The rest is passed over exactly when the first event of version 2 could be there. -/
theorem rest_iff (room : log.finish < 2 ^ w) (after : UInt32) :
    (∃ fuel events,
      logAreaLoop version log.memory log.finish fuel ⟨BitVec.ofNat w log.restStart, after⟩ =
          some events ∧ reports events = [] ∧ ReadsInside log.place events) ↔
      version < 2 ∨ log.fill = 0 ∨ 32 ≤ log.fill := by
  have filled := log.filled_eq
  have finish : log.finish = log.address + log.length := rfl
  have notNull : log.restStart ≠ 0 := Nat.ne_of_gt
    (Nat.lt_of_lt_of_le (Nat.pos_of_ne_zero log.notNull) (Nat.le_add_right _ _))
  have behind : log.address ≤ log.restStart := Nat.le_add_right _ _
  by_cases none : log.fill = 0
  · refine iff_of_true ⟨1, [], ?_, rfl, readsInside_nil⟩ (Or.inr (Or.inl none))
    have here : (BitVec.ofNat w log.restStart).toNat = log.restStart :=
      toNat_ofNat_of_lt (by omega)
    rw [logAreaLoop, here, if_neg (by omega)]
  have rest : ∀ index < log.fill, log.memory (log.restStart + index) = 0xFF := log.fillBytes
  have below : log.restStart < log.finish := by omega
  have turn := @logAreaLoop_succ w version log.finish log.memory log.restStart after notNull
    (Nat.lt_trans below room) below
  by_cases first : version < 2
  · refine iff_of_true ⟨1, fieldReads log.restStart [(0, 1)], ?_, reports_fieldReads _ _, ?_⟩
      (Or.inl first)
    · have byte : log.memory log.restStart = 0xFF := rest 0 (Nat.pos_of_ne_zero none)
      rw [turn, dumpTcpaPcrEvent_v1_rest first byte]
      rfl
    · have upper : log.restStart + 1 ≤ log.address + log.length := by omega
      exact readsInside_fieldReads (by decide) behind upper
  constructor
  · rintro ⟨fuel, events, run, _, reads⟩
    right
    right
    have listed := mem_logAreaLoop_v2 first notNull (Nat.lt_trans below room) below run
    have inside := reads _ listed
    simp only [Dumped.Inside, Range.Inside, LogArea.place] at inside
    omega
  · rintro (version1 | empty | large)
    · exact absurd version1 first
    · exact absurd empty none
    · refine ⟨1, fieldReads log.restStart [(28, 4), (4, 4), (0, 4)], ?_, reports_fieldReads _ _, ?_⟩
      · rw [turn, dumpTcpaPcrEvent_v2_rest first fun index less => rest index (by omega)]
        rfl
      · have upper : log.restStart + 32 ≤ log.address + log.length := by omega
        exact readsInside_fieldReads (by decide) behind upper

/-- An area up to the top of the address space has an end of zero. -/
theorem dumpsEvents_top (top : log.finish = 2 ^ w) : log.DumpsEvents ↔ log.entries = [] := by
  have finish : log.address + log.length = 2 ^ w := top
  have nothing : ∀ fuel, log.dump version (fuel + 1) = some [] := by
    intro fuel
    rw [LogArea.dump, dumpTcpaLogArea, if_neg log.notNull, finish, Nat.mod_self, logAreaLoop,
      if_neg (Nat.not_lt_zero _)]
  constructor
  · rintro ⟨fuel, events, run, reported, _⟩
    have empty : events = [] := by
      cases fuel with
      | zero =>
          rw [LogArea.dump, dumpTcpaLogArea, if_neg log.notNull] at run
          cases run
      | succ fuel =>
          rw [nothing] at run
          exact (Option.some.inj run).symm
    rw [empty, reports_nil, placedEntries] at reported
    cases all : log.entries with
    | nil => rfl
    | cons entry rest =>
        rw [all, placed, List.flatMap_cons, TcpaEvent.reports] at reported
        cases reported
  · intro none
    refine ⟨1, [], nothing 0, ?_, readsInside_nil⟩
    rw [placedEntries, none]
    rfl

theorem dumpsEvents_iff : log.DumpsEvents ↔ log.RestIsRead := by
  rw [RestIsRead]
  by_cases room : log.finish < 2 ^ w
  · obtain ⟨after, split⟩ := log.exists_rest room
    rw [split, log.rest_iff room after]
    simp [room, Nat.ne_of_lt room]
  · have top : log.finish = 2 ^ w := Nat.le_antisymm log.inside (Nat.not_lt.mp room)
    rw [log.dumpsEvents_top top]
    simp [top]

end TcpaLog

/-- For the area of a version, any content, and for a log of a version. -/
theorem dumpTcpaLogArea_iff {w version : Nat} (area : LogArea w) (log : TcpaLog w version) :
    (area.Terminates version ↔ area.LeadsNowhereTwice version) ∧
      (area.finish + 2 ^ 32 ≤ 2 ^ w → area.Terminates version) ∧
      (log.DumpsEvents ↔ log.RestIsRead) :=
  ⟨terminates_iff area version, terminates_of_room area version, log.dumpsEvents_iff⟩

/-! ## Areas that are not dumped rightly -/

/-- An event without data and four bytes of the rest. -/
def paddedLog : TcpaLog 32 2 where
  memory := Memory.ofBytesAt 0x1000 (List.replicate 32 0 ++ List.replicate 4 0xFF)
  address := 0x1000
  length := 36
  stale := 0
  notNull := Memory.secondPage_ne_null
  inside := by decide
  entries := [⟨0, 0, 0, List.replicate 20 0, []⟩]
  fill := 4
  filled := by decide
  stored := by
    rw [placed, placed, List.forall_mem_singleton]
    exact
      { fits := by decide
        used := by decide
        header := by
          rw [TcpaEvent.HeaderAt, if_neg (by decide)]
          decide
        value := by
          unfold Memory.Holds
          decide
        eventSize := by decide
        event := rfl
        platform := by decide }
  fillBytes := by decide

/-- Two events of which the second one has a size of 2^32 - 32. -/
def circularArea : LogArea 32 where
  memory := Memory.ofBytesAt 0x1000 (List.replicate 60 0 ++ [0xC0, 0xFF, 0xFF, 0xFF])
  address := 0x1000
  length := 64
  stale := 0
  notNull := Memory.secondPage_ne_null
  inside := by decide

theorem not_dumps_padded_circular :
    ¬ paddedLog.DumpsEvents ∧ ¬ circularArea.Terminates 2 := by
  constructor
  · rw [TcpaLog.dumpsEvents_iff]
    have behind : paddedLog.finish < 2 ^ 32 := by decide
    rintro (⟨_, version1 | empty | large⟩ | ⟨top, _⟩)
    · exact absurd version1 (by decide)
    · exact absurd empty (by decide)
    · exact absurd large (by decide)
    · exact Nat.ne_of_lt behind top
  · rw [terminates_iff]
    intro free
    have first : Leads (logTurns 2 circularArea.memory 0x1040) LogTurn.next
        (⟨0x1000#32, 0⟩ : Cursor 32) ⟨0x1020#32, 32⟩ := by
      unfold Leads
      decide +kernel
    have second : Leads (logTurns 2 circularArea.memory 0x1040) LogTurn.next
        (⟨0x1020#32, 32⟩ : Cursor 32) ⟨0x1000#32, 0xFFFFFFE0⟩ := by
      unfold Leads
      decide +kernel
    have third : Leads (logTurns 2 circularArea.memory 0x1040) LogTurn.next
        (⟨0x1000#32, 0xFFFFFFE0⟩ : Cursor 32) ⟨0x1020#32, 32⟩ := by
      unfold Leads
      decide +kernel
    exact free ⟨⟨0x1020#32, 32⟩, .single first, (Relation.TransGen.single second).tail third⟩

end AppEfi.DumpAcpi
