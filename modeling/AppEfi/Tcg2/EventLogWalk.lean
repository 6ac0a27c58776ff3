import AppEfi.Tcg2.EventSize

/-!
# The walk over a crypto-agile log

The loop of `DumpEventLog` over the events of a TCG_2 log.  It stays in step
with the records on every log whose digests, those of the last event apart, have
the sizes `GetHashSizeFromAlgo` returns.  A Spec-ID header that declares another
size for some algorithm (any size but zero for an algorithm the function does not
know) admits a log on which the loop loses the records after one event.
-/

set_option autoImplicit false

namespace AppEfi.Tcg2

open AppEfi.LittleEndian
open AppEfi.RecordWalk

section Loop

variable {State : Type} (getHashSizeFromAlgo : UInt16 → UInt16) (memory : Memory)

/-- `while ((UINTN)TcgPcrEvent2 <= EventLogLastEntry)` of the TCG_2 branch, from
the end of the Spec-ID structure.  Each step is at least 16 bytes, so the bytes
up to the last entry are fuel enough. -/
def forEachEvent2 (body : State → Nat → State)
    (eventLogLocation eventLogLastEntry : Nat) (state : State) : Option (State × Nat) :=
  let tcgEfiSpecIdEventStruct := eventLogLocation + sizeofTcgPcrEventHdr
  let tcgPcrEvent2 := tcgEfiSpecIdEventStruct +
    getTcgEfiSpecIdEventStructSize memory tcgEfiSpecIdEventStruct
  whileLoop (fun position => decide (position ≤ eventLogLastEntry))
    (fun position => position + getPcrEvent2Size getHashSizeFromAlgo memory position)
    body (eventLogLastEntry + 1 - tcgPcrEvent2) tcgPcrEvent2 state

/-- The addresses at which the loop takes an event to start. -/
def eventLogWalk (eventLogLocation eventLogLastEntry : Nat) : Option (List Nat) :=
  (forEachEvent2 getHashSizeFromAlgo memory visit eventLogLocation eventLogLastEntry
    []).map Prod.fst

theorem forEachEvent2_terminates (body : State → Nat → State)
    (eventLogLocation eventLogLastEntry : Nat) (state : State) :
    ∃ result, forEachEvent2 getHashSizeFromAlgo memory body eventLogLocation
      eventLogLastEntry state = some result := by
  apply whileLoop_terminates
  · intro current running
    have below : current ≤ eventLogLastEntry := by simpa using running
    have step := le_getPcrEvent2Size getHashSizeFromAlgo memory current
    exact ⟨by omega, Nat.lt_succ_of_le below⟩
  · exact Nat.le_refl _

end Loop

section Stored

variable {State : Type} {getHashSizeFromAlgo : UInt16 → UInt16} {memory : Memory}
variable {log : EventLog} {location : Nat}

theorem firstEvent_eq (stored : memory.Holds location log.encode) :
    location + sizeofTcgPcrEventHdr +
        getTcgEfiSpecIdEventStructSize memory (location + sizeofTcgPcrEventHdr) =
      log.firstEvent location := by
  rw [getTcgEfiSpecIdEventStructSize_eq (EventLog.specId_stored stored), EventLog.firstEvent]

/-- On a stored log the loop runs once at each event start, in order.  The step of the
last event leaves the loop whatever its digests are, so only the digests in front of it
have to be known. -/
theorem forEachEvent2_stored (stored : memory.Holds location log.encode)
    (known : ∀ event ∈ log.events.dropLast, event.Known getHashSizeFromAlgo)
    (body : State → Nat → State) (state : State) :
    ∃ exit, forEachEvent2 getHashSizeFromAlgo memory body location (log.lastEntry location)
      state = some ((log.eventStarts location).foldl body state, exit) := by
  have events := EventLog.events_stored stored
  simp only [forEachEvent2, firstEvent_eq stored]
  rcases List.eq_nil_or_concat' log.events with empty | ⟨before, last, split⟩
  · refine ⟨log.firstEvent location, ?_⟩
    rw [log.lastEntry_of_nil location empty, EventLog.eventStarts, empty]
    have behind : location < log.firstEvent location := by
      simp only [EventLog.firstEvent, sizeofTcgPcrEventHdr]
      omega
    exact whileLoop_records _ _ _ _ [] _ _ _ (by simp [placed])
      (decide_eq_false (Nat.not_le.mpr behind)) (Nat.zero_le _)
  · rw [split] at events known
    rw [List.dropLast_concat] at known
    rw [log.lastEntry_of_concat location before last split, EventLog.eventStarts, split]
    have count := length_le_total (fun event => (PcrEvent2.encode event).length) before
      fun event _ => event.length_encode_pos
    set first := log.firstEvent location with firstEq
    set lastEntry := first + total (fun event => (PcrEvent2.encode event).length) before
      with lastEq
    refine ⟨_, whileLoop_records_last _ _ _ _ before last first _ state ?_ ?_ ?_ ?_⟩
    · intro entry member
      have bounds := placed_bounds member
      have held := holds_of_mem_placed events
        (mem_placed_of_mem_dropLast (by rwa [List.dropLast_concat]))
      refine ⟨by simp only [decide_eq_true_eq]; omega, ?_⟩
      rw [getPcrEvent2Size_stored held (known entry.2 (mem_of_mem_placed member))]
    · exact decide_eq_true (Nat.le_refl _)
    · have step := le_getPcrEvent2Size getHashSizeFromAlgo memory lastEntry
      simp only [decide_eq_false_iff_not, ← lastEq]
      omega
    · omega

theorem eventLogWalk_stored (stored : memory.Holds location log.encode)
    (known : ∀ event ∈ log.events.dropLast, event.Known getHashSizeFromAlgo) :
    eventLogWalk getHashSizeFromAlgo memory location (log.lastEntry location) =
      some (log.eventStarts location) := by
  obtain ⟨exit, walk⟩ := forEachEvent2_stored stored known visit []
  rw [eventLogWalk, walk, Option.map_some, foldl_visit]
  rfl

/-- A declared table that agrees with `GetHashSizeFromAlgo` makes every
conforming event known. -/
theorem PcrEvent2.Conforms.known {specId : SpecIdEvent} {event : PcrEvent2}
    (conforms : event.Conforms specId)
    (agrees : ∀ declared ∈ specId.algorithms,
      getHashSizeFromAlgo declared.algorithmId = declared.digestSize) :
    event.Known getHashSizeFromAlgo := by
  intro entry member
  obtain ⟨declared, listed, alg, size⟩ := conforms entry member
  rw [← alg, agrees declared listed, size]

end Stored

/-! ## A header that disagrees with `GetHashSizeFromAlgo` -/

/-- An event with one digest of a declared algorithm.  Its digest and its data
are all `0xFF`, so that an EventSize read from a wrong place is large. -/
def strayEvent (declared : AlgorithmSize) (dataLength : Nat)
    (fits : dataLength < 2 ^ 32) : PcrEvent2 where
  pcrIndex := 1
  eventType := 1
  digests := [⟨declared.algorithmId, List.replicate declared.digestSize.toNat 0xFF⟩]
  event := List.replicate dataLength 0xFF
  digests_length := by simp
  event_length := by simpa using fits

theorem strayEvent_conforms {specId : SpecIdEvent} {declared : AlgorithmSize}
    (listed : declared ∈ specId.algorithms) (dataLength : Nat) (fits : dataLength < 2 ^ 32) :
    (strayEvent declared dataLength fits).Conforms specId := by
  intro entry member
  simp only [strayEvent, List.mem_singleton] at member
  subst member
  exact ⟨declared, listed, rfl, by simp⟩

theorem readLe_four_ge_of_last {memory : Memory} {address : Nat}
    (last : memory (address + 3) = 0xFF) : 255 * 2 ^ 24 ≤ memory.readLe address 4 := by
  have lastByte : (memory (address + 3)).toNat = 255 := by rw [last]; rfl
  simp only [Memory.readLe, Memory.bytesAt, ofBytes_cons, ofBytes_nil, Nat.add_assoc,
    Nat.reduceAdd]
  omega

theorem readLe_four_ge_of_first {memory : Memory} {address : Nat}
    (first : memory address = 0xFF) : 255 ≤ memory.readLe address 4 := by
  have firstByte : (memory address).toNat = 255 := by rw [first]; rfl
  simp only [Memory.readLe, Memory.bytesAt, ofBytes_cons]
  omega

section Stray

variable {getHashSizeFromAlgo : UInt16 → UInt16} {memory : Memory} {address : Nat}

/-- The data length for which the misread EventSize overshoots the next event
whatever size `GetHashSizeFromAlgo` returns. -/
def strayDataLength (getHashSizeFromAlgo : UInt16 → UInt16) (declared : AlgorithmSize) : Nat :=
  (getHashSizeFromAlgo declared.algorithmId).toNat - declared.digestSize.toNat + 4

theorem strayDataLength_lt (getHashSizeFromAlgo : UInt16 → UInt16) (declared : AlgorithmSize) :
    strayDataLength getHashSizeFromAlgo declared < 2 ^ 32 := by
  have bound := (getHashSizeFromAlgo declared.algorithmId).toNat_lt
  unfold strayDataLength
  omega

theorem getPcrEvent2Size_stray {declared : AlgorithmSize}
    (disagrees : getHashSizeFromAlgo declared.algorithmId ≠ declared.digestSize)
    (stored : memory.Holds address
      (strayEvent declared (strayDataLength getHashSizeFromAlgo declared)
        (strayDataLength_lt getHashSizeFromAlgo declared)).encode) :
    (strayEvent declared (strayDataLength getHashSizeFromAlgo declared)
        (strayDataLength_lt getHashSizeFromAlgo declared)).encode.length <
      getPcrEvent2Size getHashSizeFromAlgo memory address := by
  set event := strayEvent declared (strayDataLength getHashSizeFromAlgo declared)
    (strayDataLength_lt getHashSizeFromAlgo declared) with eventEq
  obtain ⟨_, _, _, digests, _, data⟩ := PcrEvent2.parts_stored stored
  have count := digestCount_stored stored
  set known := (getHashSizeFromAlgo declared.algorithmId).toNat with knownEq
  set size := declared.digestSize.toNat with sizeEq
  have differ : known ≠ size := fun same => disagrees (UInt16.toNat_inj.mp same)
  have knownBound : known < 2 ^ 16 := (getHashSizeFromAlgo declared.algorithmId).toNat_lt
  have sizeBound : size < 2 ^ 16 := declared.digestSize.toNat_lt
  have dataLength : strayDataLength getHashSizeFromAlgo declared = known - size + 4 := rfl
  have digestsEq : digestsLength event.digests = 2 + size := by
    simp [eventEq, strayEvent, digestsLength, sizeEq]
  have alg : readAlg memory (address + 12) = declared.algorithmId := by
    simp only [eventEq, strayEvent, List.flatMap_cons, List.flatMap_nil, List.append_nil,
      TaggedDigest.encode, Memory.holds_append] at digests
    exact readAlg_of_holds digests.1
  -- Bytes of the digest and of the event data, both filled with 0xFF.
  have digestByte : ∀ index, index < size → memory (address + 14 + index) = 0xFF := by
    intro index bound
    simp only [eventEq, strayEvent, List.flatMap_cons, List.flatMap_nil, List.append_nil,
      TaggedDigest.encode, Memory.holds_append, length_toBytes] at digests
    have byte := digests.2.apply index (by simpa using bound)
    simpa using byte
  have dataByte : ∀ index, index < known - size + 4 →
      memory (address + 12 + (2 + size) + 4 + index) = 0xFF := by
    intro index bound
    rw [digestsEq] at data
    have byte := data.apply index (by simpa [eventEq, strayEvent, dataLength] using bound)
    simpa [eventEq, strayEvent] using byte
  have step : getPcrEvent2Size getHashSizeFromAlgo memory address =
      18 + known + memory.readLe (address + 14 + known) 4 := by
    simp only [getPcrEvent2Size, count, alg]
    simp only [eventEq, strayEvent, List.length_singleton, skipDigests, ← knownEq,
      Nat.add_sub_cancel]
    omega
  rw [step, event.length_encode, digestsEq]
  have eventLength : event.event.length = known - size + 4 := by
    simp [eventEq, strayEvent, dataLength]
  rw [eventLength]
  by_cases near : known < size ∧ size ≤ known + 3
  · have large := readLe_four_ge_of_first (digestByte known near.1)
    omega
  · have last : memory (address + 14 + known + 3) = 0xFF := by
      rcases Nat.lt_or_ge known size with less | more
      · have byte := digestByte (known + 3) (by omega)
        rwa [← Nat.add_assoc] at byte
      · have byte := dataByte (known - size - 1) (by omega)
        rw [← byte]
        congr 1
        omega
    have large := readLe_four_ge_of_last last
    omega

end Stray

def strayLog (getHashSizeFromAlgo : UInt16 → UInt16) (specId : SpecIdEvent)
    (declared : AlgorithmSize) (second : PcrEvent2) : EventLog where
  headerPcrIndex := 0
  headerEventType := 3
  headerDigest := List.replicate 20 0
  specId := specId
  events := [strayEvent declared (strayDataLength getHashSizeFromAlgo declared)
    (strayDataLength_lt getHashSizeFromAlgo declared), second]
  headerDigest_length := zeroDigest_length

theorem strayLog_conforms (getHashSizeFromAlgo : UInt16 → UInt16) {specId : SpecIdEvent}
    {declared : AlgorithmSize} (listed : declared ∈ specId.algorithms) {second : PcrEvent2}
    (conforms : second.Conforms specId) :
    (strayLog getHashSizeFromAlgo specId declared second).Conforms := by
  intro event member
  simp only [strayLog, List.mem_cons, List.not_mem_nil, or_false] at member
  rcases member with rfl | rfl
  · exact strayEvent_conforms listed _ _
  · exact conforms

theorem forEachEvent2_stray {State : Type} {getHashSizeFromAlgo : UInt16 → UInt16}
    {memory : Memory} {location : Nat} {specId : SpecIdEvent} {declared : AlgorithmSize}
    {second : PcrEvent2}
    (disagrees : getHashSizeFromAlgo declared.algorithmId ≠ declared.digestSize)
    (stored : memory.Holds location
      (strayLog getHashSizeFromAlgo specId declared second).encode)
    (body : State → Nat → State) (state : State) :
    ∃ exit, forEachEvent2 getHashSizeFromAlgo memory body location
        ((strayLog getHashSizeFromAlgo specId declared second).lastEntry location) state =
      some (body state
        ((strayLog getHashSizeFromAlgo specId declared second).firstEvent location), exit) := by
  set log := strayLog getHashSizeFromAlgo specId declared second with logEq
  set first := log.firstEvent location with firstEq
  have lastEntry := log.lastEntry_of_concat location [_] second rfl
  rw [total_cons, total_nil, Nat.add_zero, ← firstEq] at lastEntry
  have events := EventLog.events_stored stored
  rw [← firstEq] at events
  simp only [logEq, strayLog, List.flatMap_cons, Memory.holds_append] at events
  have overshoots := getPcrEvent2Size_stray disagrees events.1
  simp only [forEachEvent2, firstEvent_eq stored, ← firstEq]
  have runs : first ≤ log.lastEntry location := by omega
  obtain ⟨fuel, fuelEq⟩ : ∃ fuel, log.lastEntry location + 1 - first = fuel + 1 :=
    ⟨log.lastEntry location - first, by omega⟩
  have leaves : ¬ first + getPcrEvent2Size getHashSizeFromAlgo memory first ≤
      log.lastEntry location := by omega
  rw [fuelEq, whileLoop, if_pos (by simpa using runs)]
  refine ⟨first + getPcrEvent2Size getHashSizeFromAlgo memory first, ?_⟩
  cases fuel <;> rw [whileLoop, if_neg (by simpa using leaves)]

/-! ## The walk against the header's table -/

/-- The sizes that `GetHashSizeFromAlgo` of Tpm2CommandLib knows. -/
def standardHashSize (hashAlgo : UInt16) : UInt16 :=
  if hashAlgo = 0x0004 then 20
  else if hashAlgo = 0x000B then 32
  else if hashAlgo = 0x000C then 48
  else if hashAlgo = 0x000D then 64
  else if hashAlgo = 0x0012 then 32
  else 0

def bareEvent (pcrIndex : UInt32) : PcrEvent2 where
  pcrIndex := pcrIndex
  eventType := 1
  digests := []
  event := []
  digests_length := by simp
  event_length := noEvent_length

theorem bareEvent_conforms (specId : SpecIdEvent) (pcrIndex : UInt32) :
    (bareEvent pcrIndex).Conforms specId := by
  intro entry member
  simp [bareEvent] at member

/-- The walk follows every log in which each digest stored in front of the last event has
the size `GetHashSizeFromAlgo` returns.  A header that declares another size for some
algorithm admits a log that it loses. -/
theorem eventLogWalk_follows (getHashSizeFromAlgo : UInt16 → UInt16) :
    (∀ (log : EventLog) (memory : Memory) (location : Nat),
      memory.Holds location log.encode →
      (∀ event ∈ log.events.dropLast, event.Known getHashSizeFromAlgo) →
        eventLogWalk getHashSizeFromAlgo memory location (log.lastEntry location) =
          some (log.eventStarts location)) ∧
      ∀ specId : SpecIdEvent,
        (∃ declared ∈ specId.algorithms,
          getHashSizeFromAlgo declared.algorithmId ≠ declared.digestSize) →
        ∃ (log : EventLog) (memory : Memory) (location : Nat),
          log.specId = specId ∧ log.Conforms ∧ memory.Holds location log.encode ∧
            eventLogWalk getHashSizeFromAlgo memory location (log.lastEntry location) ≠
              some (log.eventStarts location) := by
  constructor
  · intro log memory location stored known
    exact eventLogWalk_stored stored known
  · rintro specId ⟨declared, listed, disagrees⟩
    set log := strayLog getHashSizeFromAlgo specId declared (bareEvent 0) with logEq
    have stored := Memory.holds_ofBytesAt 0 log.encode
    refine ⟨log, _, 0, rfl,
      strayLog_conforms getHashSizeFromAlgo listed (bareEvent_conforms specId 0), stored, ?_⟩
    intro walk
    obtain ⟨exit, once⟩ := forEachEvent2_stray disagrees stored visit []
    rw [eventLogWalk, once, Option.map_some, Option.some.injEq] at walk
    have lengths := congrArg List.length walk
    simp [visit, EventLog.eventStarts, logEq, strayLog] at lengths

def sha3SpecId : SpecIdEvent where
  fixedFields := List.replicate 24 0
  algorithms := [⟨0x000B, 32⟩, ⟨0x0027, 32⟩]
  vendorInfo := []
  fixedFields_length := specIdFields_length
  vendorInfo_length := noVendorInfo_length
  fits := by simp

def sha3Event : PcrEvent2 where
  pcrIndex := 0
  eventType := 1
  digests := [⟨0x0027, List.replicate 32 0xAB⟩]
  event := []
  digests_length := by simp
  event_length := noEvent_length

def sha3Log : EventLog where
  headerPcrIndex := 0
  headerEventType := 3
  headerDigest := List.replicate 20 0
  specId := sha3SpecId
  events := [sha3Event, bareEvent 0]
  headerDigest_length := zeroDigest_length

def sha256Event : PcrEvent2 where
  pcrIndex := 0
  eventType := 1
  digests := [⟨0x000B, List.replicate 32 0xCD⟩]
  event := [1, 2, 3]
  digests_length := by simp
  event_length := by simp

/-- A log that stores a SHA3-256 digest, but in its last event only. -/
def sha3LastLog : EventLog := { sha3Log with events := [sha256Event, bareEvent 1, sha3Event] }

theorem eventLogWalk_follows_sha3LastLog :
    eventLogWalk standardHashSize (Memory.ofBytesAt 0 sha3LastLog.encode) 0
        (sha3LastLog.lastEntry 0) = some (sha3LastLog.eventStarts 0) := by
  refine (eventLogWalk_follows standardHashSize).1 sha3LastLog _ 0
    (Memory.holds_ofBytesAt 0 _) ?_
  intro event member
  rcases List.mem_pair.mp member with rfl | rfl
  · simp [PcrEvent2.Known, sha256Event, standardHashSize]
  · simp [PcrEvent2.Known, bareEvent]

/-- `GetHashSizeFromAlgo` does not know SHA3-256, so the loop takes four bytes of
the first event's digest for its EventSize and never reaches the second event. -/
theorem eventLogWalk_sha3Log :
    sha3Log.Conforms ∧
      eventLogWalk standardHashSize (Memory.ofBytesAt 0 sha3Log.encode) 0
        (sha3Log.lastEntry 0) ≠ some (sha3Log.eventStarts 0) := by
  decide +kernel

end AppEfi.Tcg2
