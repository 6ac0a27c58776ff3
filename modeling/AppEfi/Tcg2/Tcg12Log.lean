import AppEfi.Tcg2.ExpectedDigests

/-!
# Logs in the TCG 1.2 format

The other branches of `DumpEventLog`: every event has a SHA-1 digest of fixed size, so the walk
needs no table of digest sizes.
-/

set_option autoImplicit false

namespace AppEfi.Tcg2

open AppEfi.LittleEndian
open AppEfi.RecordWalk

/-- `TCG_PCR_EVENT`. -/
structure PcrEvent where
  pcrIndex : UInt32
  eventType : UInt32
  digest : List UInt8
  event : List UInt8
  digest_length : digest.length = 20
  event_length : event.length < 2 ^ 32

namespace PcrEvent

def encode (event : PcrEvent) : List UInt8 :=
  toBytes 4 event.pcrIndex.toNat ++ toBytes 4 event.eventType.toNat ++ event.digest ++
    toBytes 4 event.event.length ++ event.event

def size (event : PcrEvent) : Nat := event.encode.length

theorem size_eq (event : PcrEvent) : event.size = sizeofTcgPcrEventHdr + event.event.length := by
  simp only [size, encode, List.length_append, length_toBytes, event.digest_length,
    sizeofTcgPcrEventHdr]

theorem size_pos (event : PcrEvent) : 0 < event.size := by
  rw [size_eq, sizeofTcgPcrEventHdr]
  omega

/-- An event that is printed when this PCR is asked for. -/
def isListed (pcrIndex : UInt32) (event : PcrEvent) : Bool :=
  pcrIndex = pcrIndexAll ∨ pcrIndex = event.pcrIndex

/-- An event that extended the PCR. -/
def isMeasured (pcrIndex : UInt32) (event : PcrEvent) : Bool :=
  pcrIndex = event.pcrIndex ∧ event.eventType ≠ evNoAction

end PcrEvent

/-- The final events table with TCG 1.2 events. -/
structure FinalPcrEvents where
  version : UInt64
  events : List PcrEvent
  events_length : events.length < 2 ^ 64

def FinalPcrEvents.encode (table : FinalPcrEvents) : List UInt8 :=
  toBytes 8 table.version.toNat ++ toBytes 8 table.events.length ++
    table.events.flatMap PcrEvent.encode

/-- A log at a location, with the final events at `table`. -/
structure StoredLog12 (memory : Memory) (location table : Nat) (events : List PcrEvent)
    (finalEvents : Option FinalPcrEvents) : Prop where
  notNull : 0 < location
  log_stored : memory.Holds location (events.flatMap PcrEvent.encode)
  final_stored : ∀ final ∈ finalEvents, memory.Holds table final.encode

/-- `EventLogLastEntry`, which is zero for a log without events. -/
def lastEntry12 (location : Nat) (events : List PcrEvent) : Nat :=
  (starts PcrEvent.size location events).getLastD 0

def finalEventList12 (finalEvents : Option FinalPcrEvents) : List PcrEvent :=
  (finalEvents.map FinalPcrEvents.events).getD []

/-- The lines of the events that are asked for. -/
def listedEvents (pcrIndex : UInt32) (location : Nat) (events : List PcrEvent) : List Printed :=
  ((placed PcrEvent.size location events).filter fun entry => entry.2.isListed pcrIndex).map
    fun entry => .event entry.1

def measuredDigests12 (pcrIndex : UInt32) (events : List PcrEvent) : List (List UInt8) :=
  (events.filter (PcrEvent.isMeasured pcrIndex)).map PcrEvent.digest

section Stored

variable {memory : Memory} {address location table : Nat} {event : PcrEvent}
variable {events : List PcrEvent} {finalEvents : Option FinalPcrEvents}

theorem PcrEvent.parts_stored (stored : memory.Holds address event.encode) :
    readU32 memory address = event.pcrIndex ∧ readU32 memory (address + 4) = event.eventType ∧
      memory.Holds (address + 8) event.digest ∧ getPcrEventSize memory address = event.size := by
  simp only [PcrEvent.encode, Memory.holds_append, length_toBytes, List.length_append,
    event.digest_length] at stored
  obtain ⟨⟨⟨⟨pcr, kind⟩, digest⟩, size⟩, _⟩ := stored
  refine ⟨readU32_of_holds pcr, readU32_of_holds kind, digest, ?_⟩
  have length : memory.readLe (address + 28) 4 = event.event.length :=
    size.readLe_eq (by simpa using event.event_length)
  rw [getPcrEventSize, length, PcrEvent.size_eq]

theorem forEachEvent_stored {State : Type} (stored : StoredLog12 memory location table events
    finalEvents) (body : State → Nat → State) (state : State) :
    ∃ finish, forEachEvent memory body location (lastEntry12 location events) state =
      some ((starts PcrEvent.size location events).foldl body state, finish) := by
  have follows : ∀ entry ∈ placed PcrEvent.size location events,
      entry.1 + getPcrEventSize memory entry.1 = entry.1 + entry.2.size := by
    intro entry listed
    rw [(PcrEvent.parts_stored (holds_of_mem_placed stored.log_stored listed)).2.2.2]
  refine ⟨location + total PcrEvent.size events, ?_⟩
  by_cases empty : events = []
  · subst empty
    have positive := stored.notNull
    exact whileLoop_records _ _ _ _ [] location _ state nofun
      (decide_eq_false (Nat.not_le.mpr positive)) (Nat.zero_le _)
  · obtain ⟨inside, behind, enough⟩ :=
      lastStart_bounds 0 empty (fun event _ => event.size_pos) location
    refine whileLoop_records _ _ _ _ events location _ state ?_
      (decide_eq_false (Nat.not_le.mpr behind)) enough
    intro entry listed
    exact ⟨decide_eq_true (inside entry listed), follows entry listed⟩

theorem FinalPcrEvents.parts_stored {final : FinalPcrEvents}
    (stored : memory.Holds table final.encode) :
    memory.readLe (table + 8) 8 = final.events.length ∧
      memory.Holds (table + sizeofFinalEventsTable) (final.events.flatMap PcrEvent.encode) := by
  simp only [FinalPcrEvents.encode, Memory.holds_append, length_toBytes,
    List.length_append] at stored
  exact ⟨stored.1.2.readLe_eq (by simpa using final.events_length), stored.2⟩

theorem forEachFinalEvent_stored12 {State : Type} {final : FinalPcrEvents}
    (stored : memory.Holds table final.encode) (body : State → Nat → State) (state : State) :
    forEachFinalEvent memory body (getPcrEventSize memory) (some table) state =
      (starts PcrEvent.size (table + sizeofFinalEventsTable) final.events).foldl body state := by
  obtain ⟨count, held⟩ := FinalPcrEvents.parts_stored stored
  rw [forEachFinalEvent, count]
  apply forLoop_records
  intro entry listed
  have inside := mem_placed_of_mem_dropLast listed
  rw [(PcrEvent.parts_stored (holds_of_mem_placed held inside)).2.2.2]

/-! ## The bodies of the loops -/

theorem listedEvents_cons (pcrIndex : UInt32) (address : Nat) (event : PcrEvent)
    (rest : List PcrEvent) :
    listedEvents pcrIndex address (event :: rest) =
      (if event.isListed pcrIndex then [.event address] else []) ++
        listedEvents pcrIndex (address + event.size) rest := by
  rw [listedEvents, placed, List.filter_cons]
  split <;> rfl

theorem foldl_listEvent {pcrIndex : UInt32}
    (stored : memory.Holds address (events.flatMap PcrEvent.encode)) (printed : List Printed) :
    (starts PcrEvent.size address events).foldl (listEvent memory .event pcrIndex) printed =
      printed ++ listedEvents pcrIndex address events := by
  induction events generalizing address printed with
  | nil => exact (List.append_nil printed).symm
  | cons event rest ih =>
      rw [List.flatMap_cons, Memory.holds_append] at stored
      have pcr := (PcrEvent.parts_stored stored.1).1
      have behind := @ih (address + event.size) stored.2
      rw [starts_cons, List.foldl_cons, behind, listEvent, pcr, listedEvents_cons,
        PcrEvent.isListed, ← List.append_assoc]
      simp only [decide_eq_true_eq]
      split
      · rfl
      · rw [List.append_nil]

section Measure

variable {crypt : BaseCrypt} {getHashSizeFromAlgo : UInt16 → UInt16}
variable {allocatePool : Nat → Bool} {pcrIndex : UInt32}

theorem foldl_measureEvent (standard : StandardSizes getHashSizeFromAlgo)
    (stored : memory.Holds address (events.flatMap PcrEvent.encode)) (state : Extend) :
    (starts PcrEvent.size address events).foldl
        (measureEvent crypt getHashSizeFromAlgo allocatePool memory pcrIndex) state =
      (measuredDigests12 pcrIndex events).foldl
        (extendDigest crypt getHashSizeFromAlgo allocatePool tpmAlgSha1) state := by
  rw [measuredDigests12, List.foldl_map, List.foldl_filter]
  apply foldl_starts
  intro entry listed current
  obtain ⟨pcr, kind, digest, _⟩ := PcrEvent.parts_stored (holds_of_mem_placed stored listed)
  have length : entry.2.digest.length = (getHashSizeFromAlgo tpmAlgSha1).toNat := by
    rw [entry.2.digest_length, standard.1]
    rfl
  rw [measureEvent, pcr, kind, extendEvent, digest.bytesAt_eq length, PcrEvent.isMeasured]
  simp only [decide_eq_true_eq]

end Measure

end Stored

/-- For every log and final table in the TCG 1.2 format, each event that is asked for is listed
once, and the digest that is calculated is the SHA-1 PCR that the events make. -/
theorem dumpEventLog_tcg12 (crypt : BaseCrypt) (getHashSizeFromAlgo : UInt16 → UInt16)
    (standard : StandardSizes getHashSizeFromAlgo) (allocatePool : Nat → Bool)
    (allocates : ∀ call, allocatePool call = true) (memory : Memory) (location table : Nat)
    (events : List PcrEvent) (finalEvents : Option FinalPcrEvents) (pcrIndex : UInt32)
    (stored : StoredLog12 memory location table events finalEvents) :
    dumpEventLog crypt getHashSizeFromAlgo allocatePool memory .tcg12 location
        (lastEntry12 location events) (finalEvents.map fun _ => table) pcrIndex false =
      some (.logFormat .tcg12 location :: (listedEvents pcrIndex location events ++
        listFinalEventsTable memory (finalEvents.map fun _ => table) ::
          listedEvents pcrIndex (table + sizeofFinalEventsTable) (finalEventList12 finalEvents))) ∧
    dumpEventLog crypt getHashSizeFromAlgo allocatePool memory .tcg12 location
        (lastEntry12 location events) (finalEvents.map fun _ => table) pcrIndex true =
      some [.logFormat .tcg12 location,
        .calculated pcrIndex (pcrValue crypt.sha1 sizeofTcgDigest
          (measuredDigests12 pcrIndex (events ++ finalEventList12 finalEvents))),
        .pcr pcrIndex tpmAlgSha1] := by
  constructor
  · obtain ⟨finish, walk⟩ := forEachEvent_stored stored (listEvent memory .event pcrIndex) []
    rw [foldl_listEvent stored.log_stored, List.nil_append] at walk
    simp only [dumpEventLog, Bool.false_eq_true, if_false, listEvents, walk, Option.bind_eq_bind,
      Option.bind_some]
    cases finalEvents with
    | none => rfl
    | some final =>
        have held := stored.final_stored final rfl
        rw [Option.map_some, forEachFinalEvent_stored12 held,
          foldl_listEvent (FinalPcrEvents.parts_stored held).2, List.append_assoc]
        rfl
  · have found : getHashInfo crypt tpmAlgSha1 = some ⟨tpmAlgSha1, crypt.sha1⟩ := rfl
    obtain ⟨finish, walk⟩ := forEachEvent_stored stored
      (measureEvent crypt getHashSizeFromAlgo allocatePool memory pcrIndex)
      ⟨List.replicate sizeofTcgDigest 0, 0⟩
    rw [foldl_measureEvent standard stored.log_stored] at walk
    have both : forEachFinalEvent memory
        (measureEvent crypt getHashSizeFromAlgo allocatePool memory pcrIndex)
        (getPcrEventSize memory) (finalEvents.map fun _ => table)
        ((measuredDigests12 pcrIndex events).foldl
          (extendDigest crypt getHashSizeFromAlgo allocatePool tpmAlgSha1)
          ⟨List.replicate sizeofTcgDigest 0, 0⟩) =
        (measuredDigests12 pcrIndex (events ++ finalEventList12 finalEvents)).foldl
          (extendDigest crypt getHashSizeFromAlgo allocatePool tpmAlgSha1)
          ⟨List.replicate sizeofTcgDigest 0 ++ [], 0⟩ := by
      rw [measuredDigests12, measuredDigests12, List.filter_append, List.map_append,
        List.foldl_append, List.append_nil]
      cases finalEvents with
      | none => rfl
      | some final =>
          have held := stored.final_stored final rfl
          rw [Option.map_some, forEachFinalEvent_stored12 held,
            foldl_measureEvent standard (FinalPcrEvents.parts_stored held).2]
          rfl
    have length := length_pcrValue standard found
      (measuredDigests12 pcrIndex (events ++ finalEventList12 finalEvents))
    rw [foldl_extendDigest standard found _ _ _ _ (fun call _ _ => allocates call)
      (by rw [standard.1]; rfl)] at both
    rw [standard.1] at length
    simp only [dumpEventLog, if_true, calculateExpected, walk, Option.bind_eq_bind,
      Option.bind_some, both, List.append_nil]
    exact congrArg (fun digest => some [Printed.logFormat .tcg12 location,
      .calculated pcrIndex digest, .pcr pcrIndex tpmAlgSha1]) (List.take_of_length_le length.le)

theorem sampleEvent_length (byte : UInt8) : [byte].length < 2 ^ 32 :=
  Nat.one_lt_two_pow (by decide)

def sampleEvent (pcrIndex eventType : UInt32) (byte : UInt8) : PcrEvent where
  pcrIndex := pcrIndex
  eventType := eventType
  digest := List.replicate 20 byte
  event := [byte]
  digest_length := List.length_replicate
  event_length := sampleEvent_length byte

/-- Two events of PCR 7, an EV_NO_ACTION of it and one of PCR 0. -/
def fourEvents : List PcrEvent :=
  [sampleEvent 7 8 1, sampleEvent 7 evNoAction 2, sampleEvent 0 8 3, sampleEvent 7 4 4]

theorem lateEvent_length : [sampleEvent 7 4 5].length < 2 ^ 64 :=
  Nat.one_lt_two_pow (by decide)

def lateEvent : FinalPcrEvents := ⟨1, [sampleEvent 7 4 5], lateEvent_length⟩

/-- The final events stand behind the log. -/
def fiveEventsMemory : Memory :=
  Memory.ofBytesAt 0x1000 (fourEvents.flatMap PcrEvent.encode ++ lateEvent.encode)

theorem storedLog12_fiveEvents :
    StoredLog12 fiveEventsMemory 0x1000 0x1084 fourEvents (some lateEvent) := by
  have held := Memory.holds_ofBytesAt 0x1000
    (fourEvents.flatMap PcrEvent.encode ++ lateEvent.encode)
  have length : (fourEvents.flatMap PcrEvent.encode).length = 132 := by decide +kernel
  rw [Memory.holds_append, length] at held
  refine ⟨by decide, held.1, ?_⟩
  rintro final ⟨rfl⟩
  exact held.2

theorem dumpEventLog_tcg12_fiveEvents :
    dumpEventLog (constCrypt 1) standardHashSize (fun _ => true) fiveEventsMemory .tcg12 0x1000
        (lastEntry12 0x1000 fourEvents) (some 0x1084) 7 false =
      some (.logFormat .tcg12 0x1000 :: (listedEvents 7 0x1000 fourEvents ++
        listFinalEventsTable fiveEventsMemory (some 0x1084) ::
          listedEvents 7 (0x1084 + sizeofFinalEventsTable) lateEvent.events)) ∧
    dumpEventLog (constCrypt 1) standardHashSize (fun _ => true) fiveEventsMemory .tcg12 0x1000
        (lastEntry12 0x1000 fourEvents) (some 0x1084) 7 true =
      some [.logFormat .tcg12 0x1000,
        .calculated 7 (pcrValue (constCrypt 1).sha1 sizeofTcgDigest
          (measuredDigests12 7 (fourEvents ++ lateEvent.events))),
        .pcr 7 tpmAlgSha1] :=
  dumpEventLog_tcg12 (constCrypt 1) standardHashSize ⟨rfl, rfl⟩ (fun _ => true) (fun _ => rfl)
    fiveEventsMemory 0x1000 0x1084 fourEvents (some lateEvent) 7 storedLog12_fiveEvents

end AppEfi.Tcg2
