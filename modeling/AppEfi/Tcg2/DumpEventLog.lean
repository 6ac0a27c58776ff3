import AppEfi.Tcg2.EventLogWalk
import Mathlib.Data.List.Forall2

/-!
# `DumpEventLog`

Both modes of `DumpEventLog` of Tcg2DumpLog.c for both log formats: the listing
of the events and the calculation of a PCR's expected digests.  What is printed
is a list of `Printed` items.  The hash library, `GetHashSizeFromAlgo` and the
outcome of each `AllocatePool` call are parameters.
-/

set_option autoImplicit false

namespace AppEfi.Tcg2

open AppEfi.LittleEndian
open AppEfi.RecordWalk

def tpmAlgSha1 : UInt16 := 0x0004

def tpmAlgSha256 : UInt16 := 0x000B

def evNoAction : UInt32 := 0x00000003

def pcrIndexAll : UInt32 := 0xFFFFFFFF

inductive EventLogFormat where
  | tcg12
  | tcg2
  deriving DecidableEq, Repr

/-- The two hashes of BaseCryptLib that the tool links. -/
structure BaseCrypt where
  sha1 : List UInt8 → List UInt8
  sha256 : List UInt8 → List UInt8
  length_sha1 : ∀ data, (sha1 data).length = 20
  length_sha256 : ∀ data, (sha256 data).length = 32

/-- `EFI_HASH_INFO`, with Init, Update and Final as one function of the data. -/
structure HashInfo where
  hashAlg : UInt16
  hash : List UInt8 → List UInt8

def mHashInfo (crypt : BaseCrypt) : List HashInfo :=
  [⟨tpmAlgSha1, crypt.sha1⟩, ⟨tpmAlgSha256, crypt.sha256⟩]

def getHashInfo (crypt : BaseCrypt) (hashAlg : UInt16) : Option HashInfo :=
  (mHashInfo crypt).find? fun info => hashAlg == info.hashAlg

/-- One call that prints. -/
inductive Printed where
  | logFormat (eventLogFormat : EventLogFormat) (eventLogLocation : Nat)
  | event (eventHdr : Nat)
  | specIdEvent (tcgEfiSpecIdEventStruct : Nat)
  | event2 (tcgPcrEvent2 : Nat)
  | finalEventsTableNotFound
  | finalEventsTable (location version numberOfEvents : Nat)
  /-- "Tcg2Event Calculated" with its PCRIndex and Digest. -/
  | calculated (pcrIndex : UInt32) (digest : List UInt8)
  | pcr (pcrIndex : UInt32) (hashAlgo : UInt16)
  deriving DecidableEq, Repr

/-- The digest buffer of a calculation and the number of `AllocatePool` calls so far. -/
structure Extend where
  digest : List UInt8
  allocations : Nat
  deriving DecidableEq, Repr

def overwrite (buffer bytes : List UInt8) : List UInt8 := bytes ++ buffer.drop bytes.length

def readU32 (memory : Memory) (address : Nat) : UInt32 :=
  UInt32.ofNat (memory.readLe address 4)

section Calculate

variable (crypt : BaseCrypt) (getHashSizeFromAlgo : UInt16 → UInt16)
variable (allocatePool : Nat → Bool)

/-- `ExtendEvent` with the bytes at NewDigest. -/
def extendDigest (hashAlg : UInt16) (state : Extend) (newDigest : List UInt8) : Extend :=
  let digestSize := (getHashSizeFromAlgo hashAlg).toNat
  match getHashInfo crypt hashAlg with
  | none =>
      { state with digest := overwrite state.digest (List.replicate digestSize 0xFF) }
  | some hashInfo =>
      if allocatePool state.allocations then
        { digest := overwrite state.digest
            (hashInfo.hash (state.digest.take digestSize ++ newDigest)),
          allocations := state.allocations + 1 }
      else
        { digest := overwrite state.digest (List.replicate digestSize 0xFF),
          allocations := state.allocations + 1 }

variable (memory : Memory)

def extendEvent (hashAlg : UInt16) (tcgDigest : Extend) (newDigest : Nat) : Extend :=
  extendDigest crypt getHashSizeFromAlgo allocatePool hashAlg tcgDigest
    (memory.bytesAt newDigest (getHashSizeFromAlgo hashAlg).toNat)

/-- The body of both TCG_1_2 calculation loops. -/
def measureEvent (pcrIndex : UInt32) (tcgDigest : Extend) (eventHdr : Nat) : Extend :=
  if pcrIndex = readU32 memory eventHdr ∧ readU32 memory (eventHdr + 4) ≠ evNoAction then
    extendEvent crypt getHashSizeFromAlgo allocatePool memory tpmAlgSha1 tcgDigest
      (eventHdr + 8)
  else tcgDigest

/-- The body of both TCG_2 calculation loops. -/
def measureEvent2 (pcrIndex : UInt32) (hashAlg : UInt16) (hashDigest : Extend)
    (tcgPcrEvent2 : Nat) : Extend :=
  if pcrIndex = readU32 memory tcgPcrEvent2 ∧
      readU32 memory (tcgPcrEvent2 + 4) ≠ evNoAction then
    match getDigestFromPcrEvent2 getHashSizeFromAlgo memory tcgPcrEvent2 hashAlg with
    | none => hashDigest
    | some digestBuffer =>
        extendEvent crypt getHashSizeFromAlgo allocatePool memory hashAlg hashDigest
          digestBuffer
  else hashDigest

/-- `sizeof(TCG_PCR_EVENT_HDR) + EventSize`. -/
def getPcrEventSize (tcgPcrEvent : Nat) : Nat :=
  sizeofTcgPcrEventHdr + memory.readLe (tcgPcrEvent + 28) 4

section Loops

variable {State : Type} (body : State → Nat → State)

/-- `while ((UINTN)EventHdr <= EventLogLastEntry)` of the TCG_1_2 branches. -/
def forEachEvent (eventLogLocation eventLogLastEntry : Nat) (state : State) :
    Option (State × Nat) :=
  whileLoop (fun position => decide (position ≤ eventLogLastEntry))
    (fun position => position + getPcrEventSize memory position) body
    (eventLogLastEntry + 1 - eventLogLocation) eventLogLocation state

/-- The loop over the final events table, whose entries have the size `next` gives;
`none` is a `NULL` table. -/
def forEachFinalEvent (size : Nat → Nat) (finalEventsTable : Option Nat) (state : State) :
    State :=
  match finalEventsTable with
  | none => state
  | some table =>
      forLoop (fun position => position + size position) body
        (memory.readLe (table + 8) 8) (table + sizeofFinalEventsTable) state

end Loops

def sizeofTcgDigest : Nat := 20

def sizeofTpmuHa : Nat := 64

/-- The calculation for one algorithm of a TCG_2 log: HashDigest behind both loops. -/
def calculateDigest (eventLogLocation eventLogLastEntry : Nat)
    (finalEventsTable : Option Nat) (pcrIndex : UInt32) (hashAlg : UInt16)
    (allocations : Nat) : Option Extend := do
  let measure := measureEvent2 crypt getHashSizeFromAlgo allocatePool memory pcrIndex hashAlg
  let (hashDigest, _) ← forEachEvent2 getHashSizeFromAlgo memory measure eventLogLocation
    eventLogLastEntry ⟨List.replicate sizeofTpmuHa 0, allocations⟩
  some (forEachFinalEvent memory measure (getPcrEvent2Size getHashSizeFromAlgo memory)
    finalEventsTable hashDigest)

/-- `for (AlgoIndex = 0; AlgoIndex < numberOfAlgorithms; AlgoIndex++)` from the
table entry at `digestSize`. -/
def calculateDigests (eventLogLocation eventLogLastEntry : Nat)
    (finalEventsTable : Option Nat) (pcrIndex : UInt32) :
    Nat → Nat → Nat → Option (List Printed)
  | 0, _, _ => some []
  | count + 1, digestSize, allocations => do
      let hashAlg := readAlg memory digestSize
      let hashDigest ← calculateDigest crypt getHashSizeFromAlgo allocatePool memory
        eventLogLocation eventLogLastEntry finalEventsTable pcrIndex hashAlg allocations
      let rest ← calculateDigests eventLogLocation eventLogLastEntry finalEventsTable
        pcrIndex count (digestSize + 4) hashDigest.allocations
      some (.calculated pcrIndex
          (hashDigest.digest.take (memory.readLe (digestSize + 2) 2)) ::
        .pcr pcrIndex hashAlg :: rest)

/-- The `CalculateExpected` half. -/
def calculateExpected (eventLogFormat : EventLogFormat)
    (eventLogLocation eventLogLastEntry : Nat) (finalEventsTable : Option Nat)
    (pcrIndex : UInt32) : Option (List Printed) :=
  match eventLogFormat with
  | .tcg12 => do
      let measure := measureEvent crypt getHashSizeFromAlgo allocatePool memory pcrIndex
      let (tcgDigest, _) ← forEachEvent memory measure eventLogLocation eventLogLastEntry
        ⟨List.replicate sizeofTcgDigest 0, 0⟩
      let tcgDigest :=
        forEachFinalEvent memory measure (getPcrEventSize memory) finalEventsTable tcgDigest
      some [.calculated pcrIndex (tcgDigest.digest.take sizeofTcgDigest),
        .pcr pcrIndex tpmAlgSha1]
  | .tcg2 =>
      let tcgEfiSpecIdEventStruct := eventLogLocation + sizeofTcgPcrEventHdr
      calculateDigests crypt getHashSizeFromAlgo allocatePool memory eventLogLocation
        eventLogLastEntry finalEventsTable pcrIndex
        (getTcgSpecIdNumberOfAlgorithms memory tcgEfiSpecIdEventStruct)
        (getTcgSpecIdDigestSize tcgEfiSpecIdEventStruct) 0

/-- The listing loops' body: print the records of the selected PCR. -/
def listEvent (item : Nat → Printed) (pcrIndex : UInt32) (printed : List Printed)
    (address : Nat) : List Printed :=
  if pcrIndex = pcrIndexAll ∨ pcrIndex = readU32 memory address then
    printed ++ [item address]
  else printed

def listFinalEventsTable (finalEventsTable : Option Nat) : Printed :=
  match finalEventsTable with
  | none => .finalEventsTableNotFound
  | some table =>
      .finalEventsTable table (memory.readLe table 8) (memory.readLe (table + 8) 8)

/-- The listing half. -/
def listEvents (eventLogFormat : EventLogFormat) (eventLogLocation eventLogLastEntry : Nat)
    (finalEventsTable : Option Nat) (pcrIndex : UInt32) : Option (List Printed) :=
  match eventLogFormat with
  | .tcg12 => do
      let list := listEvent memory .event pcrIndex
      let (printed, _) ← forEachEvent memory list eventLogLocation eventLogLastEntry []
      some (forEachFinalEvent memory list (getPcrEventSize memory) finalEventsTable
        (printed ++ [listFinalEventsTable memory finalEventsTable]))
  | .tcg2 => do
      let list := listEvent memory .event2 pcrIndex
      let (printed, _) ← forEachEvent2 getHashSizeFromAlgo memory list eventLogLocation
        eventLogLastEntry
        [.event eventLogLocation, .specIdEvent (eventLogLocation + sizeofTcgPcrEventHdr)]
      some (forEachFinalEvent memory list (getPcrEvent2Size getHashSizeFromAlgo memory)
        finalEventsTable (printed ++ [listFinalEventsTable memory finalEventsTable]))

def dumpEventLog (eventLogFormat : EventLogFormat) (eventLogLocation eventLogLastEntry : Nat)
    (finalEventsTable : Option Nat) (pcrIndex : UInt32) (calculate : Bool) :
    Option (List Printed) := do
  let printed ←
    if calculate then
      calculateExpected crypt getHashSizeFromAlgo allocatePool memory eventLogFormat
        eventLogLocation eventLogLastEntry finalEventsTable pcrIndex
    else
      listEvents getHashSizeFromAlgo memory eventLogFormat eventLogLocation
        eventLogLastEntry finalEventsTable pcrIndex
  some (.logFormat eventLogFormat eventLogLocation :: printed)

end Calculate

/-! ## The function returns on every memory content -/

section Terminates

variable (crypt : BaseCrypt) (getHashSizeFromAlgo : UInt16 → UInt16)
variable (allocatePool : Nat → Bool) (memory : Memory)

theorem forEachEvent_terminates {State : Type} (body : State → Nat → State)
    (eventLogLocation eventLogLastEntry : Nat) (state : State) :
    ∃ result, forEachEvent memory body eventLogLocation eventLogLastEntry state =
      some result := by
  apply whileLoop_terminates
  · intro current running
    have below : current ≤ eventLogLastEntry := by simpa using running
    have step : sizeofTcgPcrEventHdr ≤ getPcrEventSize memory current := Nat.le_add_right _ _
    unfold sizeofTcgPcrEventHdr at step
    exact ⟨by omega, Nat.lt_succ_of_le below⟩
  · exact Nat.le_refl _

theorem calculateDigest_terminates (eventLogLocation eventLogLastEntry : Nat)
    (finalEventsTable : Option Nat) (pcrIndex : UInt32) (hashAlg : UInt16)
    (allocations : Nat) :
    ∃ hashDigest, calculateDigest crypt getHashSizeFromAlgo allocatePool memory
      eventLogLocation eventLogLastEntry finalEventsTable pcrIndex hashAlg allocations =
        some hashDigest := by
  obtain ⟨result, walk⟩ := forEachEvent2_terminates getHashSizeFromAlgo memory
    (measureEvent2 crypt getHashSizeFromAlgo allocatePool memory pcrIndex hashAlg)
    eventLogLocation eventLogLastEntry ⟨List.replicate sizeofTpmuHa 0, allocations⟩
  simp [calculateDigest, walk]

theorem calculateDigests_terminates (eventLogLocation eventLogLastEntry : Nat)
    (finalEventsTable : Option Nat) (pcrIndex : UInt32) (count digestSize allocations : Nat) :
    ∃ printed, calculateDigests crypt getHashSizeFromAlgo allocatePool memory
      eventLogLocation eventLogLastEntry finalEventsTable pcrIndex count digestSize
        allocations = some printed := by
  induction count generalizing digestSize allocations with
  | zero => exact ⟨[], rfl⟩
  | succ count ih =>
      obtain ⟨hashDigest, one⟩ := calculateDigest_terminates crypt getHashSizeFromAlgo
        allocatePool memory eventLogLocation eventLogLastEntry finalEventsTable pcrIndex
        (readAlg memory digestSize) allocations
      obtain ⟨rest, others⟩ := ih (digestSize + 4) hashDigest.allocations
      simp [calculateDigests, one, others]

/-- `DumpEventLog` returns for every memory content, in both modes and formats. -/
theorem dumpEventLog_terminates (eventLogFormat : EventLogFormat)
    (eventLogLocation eventLogLastEntry : Nat) (finalEventsTable : Option Nat)
    (pcrIndex : UInt32) (calculate : Bool) :
    ∃ printed, dumpEventLog crypt getHashSizeFromAlgo allocatePool memory eventLogFormat
      eventLogLocation eventLogLastEntry finalEventsTable pcrIndex calculate =
        some printed := by
  cases calculate with
  | true =>
      cases eventLogFormat with
      | tcg12 =>
          obtain ⟨result, walk⟩ := forEachEvent_terminates memory
            (measureEvent crypt getHashSizeFromAlgo allocatePool memory pcrIndex)
            eventLogLocation eventLogLastEntry ⟨List.replicate sizeofTcgDigest 0, 0⟩
          simp [dumpEventLog, calculateExpected, walk]
      | tcg2 =>
          obtain ⟨printed, digests⟩ := calculateDigests_terminates crypt getHashSizeFromAlgo
            allocatePool memory eventLogLocation eventLogLastEntry finalEventsTable pcrIndex
            (getTcgSpecIdNumberOfAlgorithms memory (eventLogLocation + sizeofTcgPcrEventHdr))
            (getTcgSpecIdDigestSize (eventLogLocation + sizeofTcgPcrEventHdr)) 0
          simp [dumpEventLog, calculateExpected, digests]
  | false =>
      cases eventLogFormat with
      | tcg12 =>
          obtain ⟨result, walk⟩ := forEachEvent_terminates memory
            (listEvent memory .event pcrIndex) eventLogLocation eventLogLastEntry []
          simp [dumpEventLog, listEvents, walk]
      | tcg2 =>
          obtain ⟨result, walk⟩ := forEachEvent2_terminates getHashSizeFromAlgo memory
            (listEvent memory .event2 pcrIndex) eventLogLocation eventLogLastEntry
            [.event eventLogLocation, .specIdEvent (eventLogLocation + sizeofTcgPcrEventHdr)]
          simp [dumpEventLog, listEvents, walk]

end Terminates

/-! ## What the calculation is for -/

/-- The digests of one algorithm that a PCR was extended with, in log order. -/
def measuredDigests (pcrIndex : UInt32) (hashAlg : UInt16) (events : List PcrEvent2) :
    List (List UInt8) :=
  events.filterMap fun event =>
    if event.pcrIndex = pcrIndex ∧ event.eventType ≠ evNoAction then event.digestOf hashAlg
    else none

theorem measuredDigests_append (pcrIndex : UInt32) (hashAlg : UInt16)
    (first second : List PcrEvent2) :
    measuredDigests pcrIndex hashAlg (first ++ second) =
      measuredDigests pcrIndex hashAlg first ++ measuredDigests pcrIndex hashAlg second :=
  List.filterMap_append

/-- The value of a PCR of `size` bytes that was reset to zeros and extended with `digests`. -/
def pcrValue (hash : List UInt8 → List UInt8) (size : Nat) (digests : List (List UInt8)) :
    List UInt8 :=
  digests.foldl (fun previous digest => hash (previous ++ digest)) (List.replicate size 0)

/-- An algorithm of `mHashInfo`. -/
def Supported (hashAlg : UInt16) : Prop := hashAlg = tpmAlgSha1 ∨ hashAlg = tpmAlgSha256

instance (hashAlg : UInt16) : Decidable (Supported hashAlg) :=
  inferInstanceAs (Decidable (_ ∨ _))

theorem getHashInfo_of_not_supported {crypt : BaseCrypt} {hashAlg : UInt16}
    (unsupported : ¬ Supported hashAlg) : getHashInfo crypt hashAlg = none := by
  obtain ⟨notSha1, notSha256⟩ := not_or.mp unsupported
  simp [getHashInfo, mHashInfo, notSha1, notSha256]

theorem getHashInfo_of_supported (crypt : BaseCrypt) {hashAlg : UInt16}
    (supported : Supported hashAlg) : ∃ info, getHashInfo crypt hashAlg = some info := by
  rcases supported with rfl | rfl
  · exact ⟨⟨tpmAlgSha1, crypt.sha1⟩, rfl⟩
  · exact ⟨⟨tpmAlgSha256, crypt.sha256⟩, rfl⟩

theorem supported_of_getHashInfo {crypt : BaseCrypt} {hashAlg : UInt16} {info : HashInfo}
    (found : getHashInfo crypt hashAlg = some info) : Supported hashAlg := by
  by_contra unsupported
  rw [getHashInfo_of_not_supported unsupported] at found
  cases found

/-! ## The digest buffer -/

section Buffer

variable {crypt : BaseCrypt} {getHashSizeFromAlgo : UInt16 → UInt16}
variable {allocatePool : Nat → Bool} {hashAlg : UInt16}

/-- `GetHashSizeFromAlgo` returns the output lengths of the linked hashes. -/
def StandardSizes (getHashSizeFromAlgo : UInt16 → UInt16) : Prop :=
  getHashSizeFromAlgo tpmAlgSha1 = 20 ∧ getHashSizeFromAlgo tpmAlgSha256 = 32

theorem length_hash (standard : StandardSizes getHashSizeFromAlgo) {info : HashInfo}
    (found : getHashInfo crypt hashAlg = some info) (data : List UInt8) :
    (info.hash data).length = (getHashSizeFromAlgo hashAlg).toNat := by
  rcases supported_of_getHashInfo found with rfl | rfl
  · cases found
    rw [crypt.length_sha1, standard.1]
    rfl
  · cases found
    rw [crypt.length_sha256, standard.2]
    rfl

theorem length_pcrValue (standard : StandardSizes getHashSizeFromAlgo) {info : HashInfo}
    (found : getHashInfo crypt hashAlg = some info) (digests : List (List UInt8)) :
    (pcrValue info.hash (getHashSizeFromAlgo hashAlg).toNat digests).length =
      (getHashSizeFromAlgo hashAlg).toNat := by
  rcases List.eq_nil_or_concat' digests with rfl | ⟨before, last, rfl⟩
  · simp [pcrValue]
  · rw [pcrValue, List.foldl_append]
    exact length_hash standard found _

/-- With a context allocated for each digest, the buffer's first bytes are extended as
a PCR is and its other bytes stay. -/
theorem foldl_extendDigest (standard : StandardSizes getHashSizeFromAlgo) {info : HashInfo}
    (found : getHashInfo crypt hashAlg = some info) (digests : List (List UInt8))
    (value rest : List UInt8) (allocations : Nat)
    (allocates : ∀ call, allocations ≤ call → call < allocations + digests.length →
      allocatePool call = true)
    (length : value.length = (getHashSizeFromAlgo hashAlg).toNat) :
    digests.foldl (extendDigest crypt getHashSizeFromAlgo allocatePool hashAlg)
        ⟨value ++ rest, allocations⟩ =
      ⟨digests.foldl (fun previous digest => info.hash (previous ++ digest)) value ++ rest,
        allocations + digests.length⟩ := by
  induction digests generalizing value allocations with
  | nil => rfl
  | cons digest digests ih =>
      have hashed := length_hash standard found (value ++ digest)
      have step : extendDigest crypt getHashSizeFromAlgo allocatePool hashAlg
          ⟨value ++ rest, allocations⟩ digest =
          ⟨info.hash (value ++ digest) ++ rest, allocations + 1⟩ := by
        have allocated := allocates allocations (Nat.le_refl _) (by simp)
        simp only [extendDigest, found, allocated, if_true, ← length, List.take_left']
        rw [overwrite, hashed, ← length, List.drop_left]
      have later : ∀ call, allocations + 1 ≤ call →
          call < allocations + 1 + digests.length → allocatePool call = true := by
        intro call behind below
        exact allocates call (by omega) (by rw [List.length_cons]; omega)
      rw [List.foldl_cons, List.foldl_cons, step, ih _ _ later hashed, List.length_cons,
        Nat.add_assoc, Nat.add_comm 1]

theorem allocations_foldl_extendDigest {info : HashInfo}
    (found : getHashInfo crypt hashAlg = some info) (digests : List (List UInt8))
    (state : Extend) :
    (digests.foldl (extendDigest crypt getHashSizeFromAlgo allocatePool hashAlg)
        state).allocations = state.allocations + digests.length := by
  induction digests generalizing state with
  | nil => rfl
  | cons digest digests ih =>
      have step : (extendDigest crypt getHashSizeFromAlgo allocatePool hashAlg state
          digest).allocations = state.allocations + 1 := by
        simp only [extendDigest, found]
        split <;> rfl
      rw [List.foldl_cons, ih, step, List.length_cons]
      omega

end Buffer

/-! ## The calculation on a stored log -/

theorem readU32_of_holds {memory : Memory} {address : Nat} {value : UInt32}
    (held : memory.Holds address (toBytes 4 value.toNat)) : readU32 memory address = value := by
  unfold readU32
  rw [held.readLe_eq (by simpa using value.toNat_lt), UInt32.ofNat_toNat]

def finalEventList (finalEvents : Option FinalEvents) : List PcrEvent2 :=
  (finalEvents.map FinalEvents.events).getD []

/-- The stored log and final table that one call of `DumpEventLog` is given. -/
structure StoredLog (memory : Memory) (location table : Nat) (log : EventLog)
    (finalEvents : Option FinalEvents) : Prop where
  log_stored : memory.Holds location log.encode
  final_stored : ∀ final ∈ finalEvents, memory.Holds table final.encode

/-- Every digest that the calculation for one PCR and algorithm steps over has the size
that `GetHashSizeFromAlgo` returns for it.  The walk over a table does not use the
step of the table's last event. -/
structure StepsKnown (getHashSizeFromAlgo : UInt16 → UInt16) (log : EventLog)
    (finalEvents : Option FinalEvents) (pcrIndex : UInt32) (hashAlg : UInt16) : Prop where
  in_log : ∀ event ∈ log.events.dropLast, event.Known getHashSizeFromAlgo
  in_final : ∀ event ∈ (finalEventList finalEvents).dropLast,
    event.Known getHashSizeFromAlgo
  in_search : ∀ event ∈ log.events ++ finalEventList finalEvents,
    event.pcrIndex = pcrIndex → event.eventType ≠ evNoAction →
      ∀ entry ∈ event.steppedOver hashAlg,
        (getHashSizeFromAlgo entry.hashAlg).toNat = entry.digest.length

theorem StepsKnown.of_known {getHashSizeFromAlgo : UInt16 → UInt16} {log : EventLog}
    {finalEvents : Option FinalEvents}
    (known : ∀ event ∈ log.events ++ finalEventList finalEvents,
      event.Known getHashSizeFromAlgo) (pcrIndex : UInt32) (hashAlg : UInt16) :
    StepsKnown getHashSizeFromAlgo log finalEvents pcrIndex hashAlg where
  in_log event member := known event (List.mem_append_left _ (List.dropLast_subset _ member))
  in_final event member := known event (List.mem_append_right _ (List.dropLast_subset _ member))
  in_search event member _ _ entry searched :=
    known event member entry (PcrEvent2.mem_of_mem_steppedOver searched)

section Stored

variable {crypt : BaseCrypt} {getHashSizeFromAlgo : UInt16 → UInt16}
variable {allocatePool : Nat → Bool} {memory : Memory} {location : Nat}
variable {pcrIndex : UInt32} {hashAlg : UInt16}

theorem measureEvent2_stored {event : PcrEvent2} {address : Nat}
    (stored : memory.Holds address event.encode)
    (searched : event.pcrIndex = pcrIndex → event.eventType ≠ evNoAction →
      ∀ entry ∈ event.steppedOver hashAlg,
        (getHashSizeFromAlgo entry.hashAlg).toNat = entry.digest.length)
    (sized : ∀ digest ∈ event.digestOf hashAlg,
      digest.length = (getHashSizeFromAlgo hashAlg).toNat) (state : Extend) :
    measureEvent2 crypt getHashSizeFromAlgo allocatePool memory pcrIndex hashAlg state address =
      match (if event.pcrIndex = pcrIndex ∧ event.eventType ≠ evNoAction then
          event.digestOf hashAlg else none) with
      | none => state
      | some digest =>
          extendDigest crypt getHashSizeFromAlgo allocatePool hashAlg state digest := by
  obtain ⟨pcr, kind, _⟩ := PcrEvent2.parts_stored stored
  simp only [measureEvent2, readU32_of_holds pcr, readU32_of_holds kind,
    eq_comm (a := pcrIndex)]
  by_cases selected : event.pcrIndex = pcrIndex ∧ event.eventType ≠ evNoAction
  · have found := getDigestFromPcrEvent2_stored stored (searched selected.1 selected.2)
    rw [if_pos selected, if_pos selected]
    cases carried : event.digestOf hashAlg with
    | none =>
        rw [carried] at found
        dsimp only at found
        rw [found]
    | some digest =>
        rw [carried] at found
        obtain ⟨pointer, search, held⟩ := found
        rw [search]
        simp only [extendEvent, held.bytesAt_eq (sized digest carried)]
  · rw [if_neg selected, if_neg selected]

theorem foldl_measureEvent2_stored {events : List PcrEvent2} {address : Nat}
    (stored : memory.Holds address (events.flatMap PcrEvent2.encode))
    (searched : ∀ event ∈ events, event.pcrIndex = pcrIndex → event.eventType ≠ evNoAction →
      ∀ entry ∈ event.steppedOver hashAlg,
        (getHashSizeFromAlgo entry.hashAlg).toNat = entry.digest.length)
    (sized : ∀ event ∈ events, ∀ digest ∈ event.digestOf hashAlg,
      digest.length = (getHashSizeFromAlgo hashAlg).toNat) (state : Extend) :
    (starts (fun event => (PcrEvent2.encode event).length) address events).foldl
        (measureEvent2 crypt getHashSizeFromAlgo allocatePool memory pcrIndex hashAlg) state =
      (measuredDigests pcrIndex hashAlg events).foldl
        (extendDigest crypt getHashSizeFromAlgo allocatePool hashAlg) state := by
  rw [measuredDigests, List.foldl_filterMap]
  apply foldl_starts
  intro entry member current
  have listed := mem_of_mem_placed member
  rw [measureEvent2_stored (holds_of_mem_placed stored member) (searched entry.2 listed)
    (sized entry.2 listed)]
  split <;> simp_all

theorem forEachFinalEvent_stored {State : Type} {table : FinalEvents} {address : Nat}
    (stored : memory.Holds address table.encode)
    (known : ∀ event ∈ table.events.dropLast, event.Known getHashSizeFromAlgo)
    (body : State → Nat → State) (state : State) :
    forEachFinalEvent memory body (getPcrEvent2Size getHashSizeFromAlgo memory)
        (some address) state =
      (starts (fun event => (PcrEvent2.encode event).length)
        (address + sizeofFinalEventsTable) table.events).foldl body state := by
  rw [forEachFinalEvent, FinalEvents.count_stored stored]
  apply forLoop_records
  intro entry member
  rw [getPcrEvent2Size_stored
    (holds_of_mem_placed (FinalEvents.events_stored stored)
      (mem_placed_of_mem_dropLast member))
    (known entry.2 (mem_of_mem_placed member))]

variable {log : EventLog} {finalEvents : Option FinalEvents} {table : Nat}

/-- Where the calculation for one algorithm steps by known sizes, it is a fold over the
measured digests of the log and then of the final table. -/
theorem calculateDigest_stored (stored : StoredLog memory location table log finalEvents)
    (steps : StepsKnown getHashSizeFromAlgo log finalEvents pcrIndex hashAlg)
    (sized : ∀ event ∈ log.events ++ finalEventList finalEvents,
      ∀ digest ∈ event.digestOf hashAlg, digest.length = (getHashSizeFromAlgo hashAlg).toNat)
    (allocations : Nat) :
    calculateDigest crypt getHashSizeFromAlgo allocatePool memory location
        (log.lastEntry location) (finalEvents.map fun _ => table) pcrIndex hashAlg
        allocations =
      some ((measuredDigests pcrIndex hashAlg
          (log.events ++ finalEventList finalEvents)).foldl
        (extendDigest crypt getHashSizeFromAlgo allocatePool hashAlg)
        ⟨List.replicate sizeofTpmuHa 0, allocations⟩) := by
  obtain ⟨exit, walk⟩ := forEachEvent2_stored stored.log_stored steps.in_log
    (measureEvent2 crypt getHashSizeFromAlgo allocatePool memory pcrIndex hashAlg)
    ⟨List.replicate sizeofTpmuHa 0, allocations⟩
  rw [EventLog.eventStarts, foldl_measureEvent2_stored
    (EventLog.events_stored stored.log_stored)
    (fun event member => steps.in_search event (List.mem_append_left _ member))
    fun event member => sized event (List.mem_append_left _ member)] at walk
  simp only [calculateDigest, walk, Option.bind_eq_bind, Option.bind_some, Option.some.injEq]
  rw [measuredDigests_append, List.foldl_append]
  cases finalEvents with
  | none => rfl
  | some final =>
      have held := stored.final_stored final rfl
      rw [Option.map_some, forEachFinalEvent_stored held steps.in_final,
        foldl_measureEvent2_stored (FinalEvents.events_stored held)
          (fun event member => steps.in_search event (List.mem_append_right _ member))
          fun event member => sized event (List.mem_append_right _ member)]
      rfl

/-- Whatever the memory holds, an algorithm that is not supported allocates no context. -/
theorem calculateDigest_unsupported (unsupported : ¬ Supported hashAlg)
    {eventLogLocation eventLogLastEntry : Nat} {finalEventsTable : Option Nat}
    {allocations : Nat} {hashDigest : Extend}
    (run : calculateDigest crypt getHashSizeFromAlgo allocatePool memory eventLogLocation
      eventLogLastEntry finalEventsTable pcrIndex hashAlg allocations = some hashDigest) :
    hashDigest.allocations = allocations := by
  have keeps : ∀ (state : Extend) (position : Nat), state.allocations = allocations →
      (measureEvent2 crypt getHashSizeFromAlgo allocatePool memory pcrIndex hashAlg state
        position).allocations = allocations := by
    intro state position same
    rw [measureEvent2]
    split
    · cases getDigestFromPcrEvent2 getHashSizeFromAlgo memory position hashAlg with
      | none => exact same
      | some digestBuffer =>
          simp only [extendEvent, extendDigest, getHashInfo_of_not_supported unsupported]
          exact same
    · exact same
  simp only [calculateDigest, Option.bind_eq_bind, Option.bind_eq_some_iff,
    Option.some.injEq] at run
  obtain ⟨result, walk, rfl⟩ := run
  have logged := whileLoop_invariant _ _ _ keeps _ _ _ _ walk rfl
  cases finalEventsTable with
  | none => exact logged
  | some table => exact forLoop_invariant _ _ keeps _ _ _ logged

end Stored

/-! ## The calculated digests of all declared algorithms -/

/-- The digests of the "Tcg2Event Calculated" items, one for each declared algorithm. -/
def calculatedDigests (printed : List Printed) : List (List UInt8) :=
  printed.filterMap fun item =>
    match item with
    | .calculated _ digest => some digest
    | _ => none

section Algorithms

variable {crypt : BaseCrypt} {getHashSizeFromAlgo : UInt16 → UInt16}
variable {allocatePool : Nat → Bool} {memory : Memory}
variable {eventLogLocation eventLogLastEntry : Nat} {finalEventsTable : Option Nat}
variable {pcrIndex : UInt32}

theorem calculateDigests_cons {declared : AlgorithmSize} {rest : List AlgorithmSize}
    {address allocations : Nat} {printed : List Printed}
    (stored : memory.Holds address ((declared :: rest).flatMap AlgorithmSize.encode))
    (run : calculateDigests crypt getHashSizeFromAlgo allocatePool memory eventLogLocation
      eventLogLastEntry finalEventsTable pcrIndex (declared :: rest).length address
      allocations = some printed) :
    ∃ hashDigest others,
      memory.Holds (address + 4) (rest.flatMap AlgorithmSize.encode) ∧
      calculateDigest crypt getHashSizeFromAlgo allocatePool memory eventLogLocation
        eventLogLastEntry finalEventsTable pcrIndex declared.algorithmId allocations =
          some hashDigest ∧
      calculateDigests crypt getHashSizeFromAlgo allocatePool memory eventLogLocation
        eventLogLastEntry finalEventsTable pcrIndex rest.length (address + 4)
        hashDigest.allocations = some others ∧
      calculatedDigests printed =
        hashDigest.digest.take declared.digestSize.toNat :: calculatedDigests others := by
  rw [List.flatMap_cons, Memory.holds_append, AlgorithmSize.length_encode,
    AlgorithmSize.encode, Memory.holds_append, length_toBytes] at stored
  obtain ⟨⟨alg, size⟩, tail⟩ := stored
  rw [List.length_cons, calculateDigests] at run
  simp only [readAlg_of_holds alg, size.readLe_eq (by simpa using declared.digestSize.toNat_lt),
    Option.bind_eq_bind, Option.bind_eq_some_iff, Option.some.injEq] at run
  obtain ⟨hashDigest, one, others, loop, rfl⟩ := run
  exact ⟨hashDigest, others, tail, one, loop, rfl⟩

/-- The calculation for each algorithm starts behind the allocations of those before it. -/
theorem calculatedDigests_entries (cost : AlgorithmSize → Nat)
    {algorithms : List AlgorithmSize} {address allocations : Nat} {printed : List Printed}
    (stored : memory.Holds address (algorithms.flatMap AlgorithmSize.encode))
    (costs : ∀ declared ∈ algorithms, ∀ before hashDigest,
      calculateDigest crypt getHashSizeFromAlgo allocatePool memory eventLogLocation
        eventLogLastEntry finalEventsTable pcrIndex declared.algorithmId before =
          some hashDigest →
      hashDigest.allocations = before + cost declared)
    (run : calculateDigests crypt getHashSizeFromAlgo allocatePool memory eventLogLocation
      eventLogLastEntry finalEventsTable pcrIndex algorithms.length address allocations =
        some printed) :
    List.Forall₂
      (fun declared digest => ∃ before hashDigest,
        before + cost declared ≤ allocations + total cost algorithms ∧
          calculateDigest crypt getHashSizeFromAlgo allocatePool memory eventLogLocation
            eventLogLastEntry finalEventsTable pcrIndex declared.algorithmId before =
              some hashDigest ∧
          digest = hashDigest.digest.take declared.digestSize.toNat)
      algorithms (calculatedDigests printed) := by
  induction algorithms generalizing address allocations printed with
  | nil =>
      cases run
      exact List.Forall₂.nil
  | cons declared rest ih =>
      obtain ⟨hashDigest, others, tail, one, loop, digests⟩ :=
        calculateDigests_cons stored run
      have used := costs declared (by simp) _ _ one
      have behind := ih tail (fun entry member => costs entry (by simp [member])) loop
      rw [digests, total_cons]
      refine List.Forall₂.cons ⟨allocations, hashDigest, by omega, one, rfl⟩ ?_
      refine behind.imp ?_
      rintro entry digest ⟨before, entryDigest, fits, entryRun, taken⟩
      exact ⟨before, entryDigest, by omega, entryRun, taken⟩

/-- Algorithms that are not supported allocate nothing, so the first supported one
starts with the allocations the loop started with. -/
theorem calculatedDigests_first {algorithms : List AlgorithmSize} {first : AlgorithmSize}
    {address allocations : Nat} {printed : List Printed}
    {Right : AlgorithmSize → List UInt8 → Prop}
    (stored : memory.Holds address (algorithms.flatMap AlgorithmSize.encode))
    (found : algorithms.find? (fun declared => Supported declared.algorithmId) = some first)
    (run : calculateDigests crypt getHashSizeFromAlgo allocatePool memory eventLogLocation
      eventLogLastEntry finalEventsTable pcrIndex algorithms.length address allocations =
        some printed)
    (right : List.Forall₂ Right algorithms (calculatedDigests printed)) :
    ∃ hashDigest,
      calculateDigest crypt getHashSizeFromAlgo allocatePool memory eventLogLocation
        eventLogLastEntry finalEventsTable pcrIndex first.algorithmId allocations =
          some hashDigest ∧
        Right first (hashDigest.digest.take first.digestSize.toNat) := by
  induction algorithms generalizing address printed with
  | nil => cases found
  | cons declared rest ih =>
      obtain ⟨hashDigest, others, tail, one, loop, digests⟩ :=
        calculateDigests_cons stored run
      rw [digests, List.forall₂_cons] at right
      by_cases supported : Supported declared.algorithmId
      · simp only [List.find?_cons, supported, decide_true, Option.some.injEq] at found
        subst found
        exact ⟨hashDigest, one, right.1⟩
      · simp only [List.find?_cons, supported, decide_false] at found
        rw [calculateDigest_unsupported supported one] at loop
        exact ih tail found loop right.2

end Algorithms

end AppEfi.Tcg2
