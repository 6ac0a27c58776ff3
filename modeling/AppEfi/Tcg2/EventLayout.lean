import AppEfi.Lib.RecordWalk

/-!
# The crypto-agile event log as a format

What a well-formed log is, apart from the code that reads it: a Spec-ID header
event that declares a table of algorithms with their digest sizes, then events
whose digests have declared sizes.  `encode` gives the packed bytes of each
structure in the layout of the `TCG_*` structures that Tcg2DumpLog.c uses.
-/

set_option autoImplicit false

namespace AppEfi.Tcg2

open AppEfi.LittleEndian
open AppEfi.RecordWalk

/-- `TCG_EfiSpecIdEventAlgorithmSize`. -/
structure AlgorithmSize where
  algorithmId : UInt16
  digestSize : UInt16
  deriving DecidableEq, Repr

def AlgorithmSize.encode (entry : AlgorithmSize) : List UInt8 :=
  toBytes 2 entry.algorithmId.toNat ++ toBytes 2 entry.digestSize.toNat

/-- `sizeof (TCG_EfiSpecIDEventStruct)`: signature, platformClass, the version
bytes and uintnSize. -/
def sizeofTcgEfiSpecIdEventStruct : Nat := 24

/-- `sizeof (TCG_PCR_EVENT_HDR)`: PCRIndex, EventType, a SHA-1 digest, EventSize. -/
def sizeofTcgPcrEventHdr : Nat := 32

/-- `TCG_EfiSpecIDEventStruct` with the table and the vendor information that
follow it, small enough for the header event's EventSize.  No walker reads
`fixedFields`. -/
structure SpecIdEvent where
  fixedFields : List UInt8
  algorithms : List AlgorithmSize
  vendorInfo : List UInt8
  fixedFields_length : fixedFields.length = sizeofTcgEfiSpecIdEventStruct
  vendorInfo_length : vendorInfo.length < 2 ^ 8
  fits : 29 + algorithms.length * 4 + vendorInfo.length < 2 ^ 32

def SpecIdEvent.encode (specId : SpecIdEvent) : List UInt8 :=
  specId.fixedFields ++ toBytes 4 specId.algorithms.length ++
    specId.algorithms.flatMap AlgorithmSize.encode ++
    toBytes 1 specId.vendorInfo.length ++ specId.vendorInfo

/-- One tagged digest of an event, `TPMT_HA` with the digest's own length. -/
structure TaggedDigest where
  hashAlg : UInt16
  digest : List UInt8
  deriving DecidableEq, Repr

def TaggedDigest.encode (entry : TaggedDigest) : List UInt8 :=
  toBytes 2 entry.hashAlg.toNat ++ entry.digest

structure PcrEvent2 where
  pcrIndex : UInt32
  eventType : UInt32
  digests : List TaggedDigest
  event : List UInt8
  digests_length : digests.length < 2 ^ 32
  event_length : event.length < 2 ^ 32

theorem specIdFields_length :
    (List.replicate 24 (0 : UInt8)).length = sizeofTcgEfiSpecIdEventStruct := rfl

theorem noVendorInfo_length : ([] : List UInt8).length < 2 ^ 8 := Nat.two_pow_pos 8

theorem noEvent_length : ([] : List UInt8).length < 2 ^ 32 := Nat.two_pow_pos 32

def PcrEvent2.encode (event : PcrEvent2) : List UInt8 :=
  toBytes 4 event.pcrIndex.toNat ++ toBytes 4 event.eventType.toNat ++
    toBytes 4 event.digests.length ++ event.digests.flatMap TaggedDigest.encode ++
    toBytes 4 event.event.length ++ event.event

def PcrEvent2.digestOf (event : PcrEvent2) (hashAlg : UInt16) : Option (List UInt8) :=
  (event.digests.find? fun entry => entry.hashAlg == hashAlg).map TaggedDigest.digest

/-- Every digest has the size that the Spec-ID table declares for its algorithm. -/
def PcrEvent2.Conforms (specId : SpecIdEvent) (event : PcrEvent2) : Prop :=
  ∀ entry ∈ event.digests, ∃ declared ∈ specId.algorithms,
    declared.algorithmId = entry.hashAlg ∧
      declared.digestSize.toNat = entry.digest.length

instance (specId : SpecIdEvent) (event : PcrEvent2) : Decidable (event.Conforms specId) :=
  inferInstanceAs (Decidable (∀ entry ∈ event.digests, ∃ declared ∈ specId.algorithms,
    declared.algorithmId = entry.hashAlg ∧
      declared.digestSize.toNat = entry.digest.length))

/-- A crypto-agile log: the Spec-ID header event (`TCG_PCR_EVENT_HDR`, whose
EventSize covers the Spec-ID structure) and the events. -/
structure EventLog where
  headerPcrIndex : UInt32
  headerEventType : UInt32
  headerDigest : List UInt8
  specId : SpecIdEvent
  events : List PcrEvent2
  headerDigest_length : headerDigest.length = 20

theorem zeroDigest_length : (List.replicate 20 (0 : UInt8)).length = 20 := List.length_replicate

def EventLog.encodeHeader (log : EventLog) : List UInt8 :=
  toBytes 4 log.headerPcrIndex.toNat ++ toBytes 4 log.headerEventType.toNat ++
    log.headerDigest ++ toBytes 4 log.specId.encode.length

def EventLog.encode (log : EventLog) : List UInt8 :=
  log.encodeHeader ++ log.specId.encode ++ log.events.flatMap PcrEvent2.encode

def EventLog.Conforms (log : EventLog) : Prop :=
  ∀ event ∈ log.events, event.Conforms log.specId

instance (log : EventLog) : Decidable log.Conforms :=
  inferInstanceAs (Decidable (∀ event ∈ log.events, event.Conforms log.specId))

def EventLog.firstEvent (log : EventLog) (location : Nat) : Nat :=
  location + sizeofTcgPcrEventHdr + log.specId.encode.length

def EventLog.eventStarts (log : EventLog) (location : Nat) : List Nat :=
  starts (fun event => (PcrEvent2.encode event).length) (log.firstEvent location) log.events

/-- `EventLogLastEntry`: the start of the log's last entry, which is the Spec-ID
event itself when nothing was logged after it. -/
def EventLog.lastEntry (log : EventLog) (location : Nat) : Nat :=
  (log.eventStarts location).getLastD location

/-- `EFI_TCG2_FINAL_EVENTS_TABLE`. -/
structure FinalEvents where
  version : UInt64
  events : List PcrEvent2
  events_length : events.length < 2 ^ 64

def sizeofFinalEventsTable : Nat := 16

def FinalEvents.encode (table : FinalEvents) : List UInt8 :=
  toBytes 8 table.version.toNat ++ toBytes 8 table.events.length ++
    table.events.flatMap PcrEvent2.encode

def FinalEvents.Conforms (specId : SpecIdEvent) (table : FinalEvents) : Prop :=
  ∀ event ∈ table.events, event.Conforms specId

/-! ## Lengths -/

@[simp] theorem AlgorithmSize.length_encode (entry : AlgorithmSize) :
    entry.encode.length = 4 := by
  simp [AlgorithmSize.encode]

@[simp] theorem TaggedDigest.length_encode (entry : TaggedDigest) :
    entry.encode.length = 2 + entry.digest.length := by
  simp [TaggedDigest.encode]

theorem length_flatMap_algorithms (algorithms : List AlgorithmSize) :
    (algorithms.flatMap AlgorithmSize.encode).length = algorithms.length * 4 := by
  induction algorithms with
  | nil => rfl
  | cons entry rest ih =>
      rw [List.flatMap_cons, List.length_append, ih, List.length_cons,
        AlgorithmSize.length_encode]
      omega

theorem SpecIdEvent.length_encode (specId : SpecIdEvent) :
    specId.encode.length =
      24 + 4 + specId.algorithms.length * 4 + 1 + specId.vendorInfo.length := by
  simp only [SpecIdEvent.encode, List.length_append, length_toBytes,
    length_flatMap_algorithms, specId.fixedFields_length, sizeofTcgEfiSpecIdEventStruct]

def digestsLength (digests : List TaggedDigest) : Nat :=
  total (fun entry => (TaggedDigest.encode entry).length) digests

theorem PcrEvent2.length_encode (event : PcrEvent2) :
    event.encode.length = 12 + digestsLength event.digests + 4 + event.event.length := by
  simp only [PcrEvent2.encode, List.length_append, length_toBytes, length_flatMap_encode,
    digestsLength]

theorem PcrEvent2.length_encode_pos (event : PcrEvent2) : 0 < event.encode.length := by
  rw [event.length_encode]
  omega

@[simp] theorem EventLog.length_encodeHeader (log : EventLog) :
    log.encodeHeader.length = sizeofTcgPcrEventHdr := by
  simp [EventLog.encodeHeader, log.headerDigest_length, sizeofTcgPcrEventHdr]

/-! ## Where the parts of a stored log lie -/

section Stored

variable {memory : Memory} {location : Nat}

theorem EventLog.specId_stored {log : EventLog} (stored : memory.Holds location log.encode) :
    memory.Holds (location + sizeofTcgPcrEventHdr) log.specId.encode := by
  rw [EventLog.encode, Memory.holds_append, Memory.holds_append] at stored
  simpa using stored.1.2

theorem EventLog.events_stored {log : EventLog} (stored : memory.Holds location log.encode) :
    memory.Holds (log.firstEvent location) (log.events.flatMap PcrEvent2.encode) := by
  rw [EventLog.encode, Memory.holds_append] at stored
  simpa [EventLog.firstEvent, Nat.add_assoc] using stored.2

theorem FinalEvents.count_stored {table : FinalEvents}
    (stored : memory.Holds location table.encode) :
    memory.readLe (location + 8) 8 = table.events.length := by
  simp only [FinalEvents.encode, Memory.holds_append, length_toBytes] at stored
  exact stored.1.2.readLe_eq (by simpa using table.events_length)

theorem FinalEvents.events_stored {table : FinalEvents}
    (stored : memory.Holds location table.encode) :
    memory.Holds (location + sizeofFinalEventsTable)
      (table.events.flatMap PcrEvent2.encode) := by
  simp only [FinalEvents.encode, Memory.holds_append, List.length_append,
    length_toBytes] at stored
  exact stored.2

end Stored

theorem EventLog.lastEntry_of_concat (log : EventLog) (location : Nat)
    (before : List PcrEvent2) (last : PcrEvent2) (split : log.events = before ++ [last]) :
    log.lastEntry location =
      log.firstEvent location +
        total (fun event => (PcrEvent2.encode event).length) before := by
  unfold EventLog.lastEntry EventLog.eventStarts
  rw [split, starts_append]
  simp

theorem EventLog.lastEntry_of_nil (log : EventLog) (location : Nat)
    (empty : log.events = []) : log.lastEntry location = location := by
  unfold EventLog.lastEntry EventLog.eventStarts
  rw [empty]
  rfl

end AppEfi.Tcg2
