import AppEfi.Tcg2.DumpEventLog

/-!
# Calculated digests and PCR values

The digests that `DumpEventLog` calculates, compared with the PCR values that
the events of the log and of the final events table produce.  They are equal in
every run that steps by true digest sizes and gets its hash contexts; a header
with a size that `GetHashSizeFromAlgo` does not return admits a log on which they
differ.
-/

set_option autoImplicit false

namespace AppEfi.Tcg2

open AppEfi.LittleEndian
open AppEfi.RecordWalk

/-- In one run of the calculation, each calculated digest of a supported algorithm is the
value that the measured events give the PCR. -/
def CalculatesPcrValue (crypt : BaseCrypt) (getHashSizeFromAlgo : UInt16 → UInt16)
    (allocatePool : Nat → Bool) (memory : Memory) (location table : Nat) (log : EventLog)
    (finalEvents : Option FinalEvents) (pcrIndex : UInt32) : Prop :=
  ∃ printed,
    dumpEventLog crypt getHashSizeFromAlgo allocatePool memory .tcg2 location
      (log.lastEntry location) (finalEvents.map fun _ => table) pcrIndex true =
        some printed ∧
    List.Forall₂
      (fun declared digest => ∀ info ∈ getHashInfo crypt declared.algorithmId,
        digest = pcrValue info.hash (getHashSizeFromAlgo declared.algorithmId).toNat
          (measuredDigests pcrIndex declared.algorithmId
            (log.events ++ finalEventList finalEvents)))
      log.specId.algorithms (calculatedDigests printed)

/-- Every run under the header, for each hash library, log and final table. -/
def CalculatesPcrValues (getHashSizeFromAlgo : UInt16 → UInt16) (allocatePool : Nat → Bool)
    (specId : SpecIdEvent) : Prop :=
  ∀ (crypt : BaseCrypt) (memory : Memory) (location table : Nat) (log : EventLog)
    (finalEvents : Option FinalEvents) (pcrIndex : UInt32),
    log.specId = specId → log.Conforms → (∀ final ∈ finalEvents, final.Conforms specId) →
    StoredLog memory location table log finalEvents →
    CalculatesPcrValue crypt getHashSizeFromAlgo allocatePool memory location table log
      finalEvents pcrIndex

/-- The hash contexts that the calculation for one declared algorithm allocates. -/
def hashContexts (pcrIndex : UInt32) (events : List PcrEvent2) (declared : AlgorithmSize) :
    Nat :=
  if Supported declared.algorithmId then
    (measuredDigests pcrIndex declared.algorithmId events).length
  else 0

/-- The run steps by true digest sizes and gets its hash contexts. -/
structure CalculationKnown (getHashSizeFromAlgo : UInt16 → UInt16)
    (allocatePool : Nat → Bool) (log : EventLog) (finalEvents : Option FinalEvents)
    (pcrIndex : UInt32) : Prop where
  sizes : ∀ declared ∈ log.specId.algorithms, Supported declared.algorithmId →
    getHashSizeFromAlgo declared.algorithmId = declared.digestSize
  steps : ∀ declared ∈ log.specId.algorithms, Supported declared.algorithmId →
    StepsKnown getHashSizeFromAlgo log finalEvents pcrIndex declared.algorithmId
  contexts : ∀ call,
    call < total (hashContexts pcrIndex (log.events ++ finalEventList finalEvents))
      log.specId.algorithms →
    allocatePool call = true

section Run

variable {crypt : BaseCrypt} {getHashSizeFromAlgo : UInt16 → UInt16}
variable {allocatePool : Nat → Bool} {memory : Memory} {location table : Nat}
variable {log : EventLog} {finalEvents : Option FinalEvents} {pcrIndex : UInt32}

theorem dumpEventLog_calculate (stored : StoredLog memory location table log finalEvents)
    {printed : List Printed}
    (run : dumpEventLog crypt getHashSizeFromAlgo allocatePool memory .tcg2 location
      (log.lastEntry location) (finalEvents.map fun _ => table) pcrIndex true =
        some printed) :
    ∃ items address,
      memory.Holds address (log.specId.algorithms.flatMap AlgorithmSize.encode) ∧
      calculateDigests crypt getHashSizeFromAlgo allocatePool memory location
        (log.lastEntry location) (finalEvents.map fun _ => table) pcrIndex
        log.specId.algorithms.length address 0 = some items ∧
      calculatedDigests printed = calculatedDigests items := by
  have header := EventLog.specId_stored stored.log_stored
  have count := getTcgSpecIdNumberOfAlgorithms_eq header
  simp only [dumpEventLog, if_true, calculateExpected, count, Option.bind_eq_bind,
    Option.bind_eq_some_iff, Option.some.injEq] at run
  obtain ⟨items, loop, rfl⟩ := run
  exact ⟨items, _, (SpecIdEvent.parts_stored header).2.1, loop, rfl⟩

end Run

/-! ## Known steps and allocated contexts are enough -/

theorem conforming_event {log : EventLog} {finalEvents : Option FinalEvents}
    (conforms : log.Conforms) (finalConforms : ∀ final ∈ finalEvents, final.Conforms log.specId) :
    ∀ event ∈ log.events ++ finalEventList finalEvents, event.Conforms log.specId := by
  intro event member
  rcases List.mem_append.mp member with logged | final
  · exact conforms event logged
  · cases finalEvents with
    | none => simp [finalEventList] at final
    | some table => exact finalConforms table rfl event final

section Known

variable {crypt : BaseCrypt} {getHashSizeFromAlgo : UInt16 → UInt16}
variable {allocatePool : Nat → Bool} {memory : Memory} {location table : Nat}
variable {log : EventLog} {finalEvents : Option FinalEvents} {pcrIndex : UInt32}

theorem calculateDigest_known (conforms : log.Conforms)
    (finalConforms : ∀ final ∈ finalEvents, final.Conforms log.specId)
    (stored : StoredLog memory location table log finalEvents) {hashAlg : UInt16}
    (agrees : ∀ declared ∈ log.specId.algorithms, declared.algorithmId = hashAlg →
      getHashSizeFromAlgo hashAlg = declared.digestSize)
    (steps : StepsKnown getHashSizeFromAlgo log finalEvents pcrIndex hashAlg)
    (allocations : Nat) :
    calculateDigest crypt getHashSizeFromAlgo allocatePool memory location
        (log.lastEntry location) (finalEvents.map fun _ => table) pcrIndex hashAlg
        allocations =
      some ((measuredDigests pcrIndex hashAlg
          (log.events ++ finalEventList finalEvents)).foldl
        (extendDigest crypt getHashSizeFromAlgo allocatePool hashAlg)
        ⟨List.replicate sizeofTpmuHa 0, allocations⟩) := by
  refine calculateDigest_stored stored steps ?_ allocations
  intro event member digest carried
  exact digestOf_length (conforming_event conforms finalConforms event member) agrees carried

/-- The buffer that starts as zeros ends with the PCR's value in front. -/
theorem take_foldl_extendDigest (standard : StandardSizes getHashSizeFromAlgo)
    {hashAlg : UInt16} {info : HashInfo} (found : getHashInfo crypt hashAlg = some info)
    (digests : List (List UInt8)) (allocations : Nat)
    (allocates : ∀ call, allocations ≤ call → call < allocations + digests.length →
      allocatePool call = true) :
    (digests.foldl (extendDigest crypt getHashSizeFromAlgo allocatePool hashAlg)
        ⟨List.replicate sizeofTpmuHa 0, allocations⟩).digest.take
        (getHashSizeFromAlgo hashAlg).toNat =
      pcrValue info.hash (getHashSizeFromAlgo hashAlg).toNat digests := by
  -- The buffer is the zero digest of this algorithm and the rest of the union.
  have fits : (getHashSizeFromAlgo hashAlg).toNat ≤ sizeofTpmuHa := by
    rcases supported_of_getHashInfo found with same | same
    · rw [same, standard.1]
      decide
    · rw [same, standard.2]
      decide
  obtain ⟨spare, spareEq⟩ := Nat.exists_eq_add_of_le fits
  rw [spareEq, List.replicate_add,
    foldl_extendDigest standard found _ _ _ _ allocates (by simp)]
  exact List.take_left' (length_pcrValue standard found digests)

theorem calculatesPcrValue_of_known (standard : StandardSizes getHashSizeFromAlgo)
    (conforms : log.Conforms) (finalConforms : ∀ final ∈ finalEvents, final.Conforms log.specId)
    (stored : StoredLog memory location table log finalEvents)
    (known : CalculationKnown getHashSizeFromAlgo allocatePool log finalEvents pcrIndex) :
    CalculatesPcrValue crypt getHashSizeFromAlgo allocatePool memory location table log
      finalEvents pcrIndex := by
  obtain ⟨printed, run⟩ := dumpEventLog_terminates crypt getHashSizeFromAlgo allocatePool
    memory .tcg2 location (log.lastEntry location) (finalEvents.map fun _ => table) pcrIndex
    true
  have folds : ∀ declared ∈ log.specId.algorithms, Supported declared.algorithmId →
      ∀ before, calculateDigest crypt getHashSizeFromAlgo allocatePool memory location
        (log.lastEntry location) (finalEvents.map fun _ => table) pcrIndex
        declared.algorithmId before =
      some ((measuredDigests pcrIndex declared.algorithmId
          (log.events ++ finalEventList finalEvents)).foldl
        (extendDigest crypt getHashSizeFromAlgo allocatePool declared.algorithmId)
        ⟨List.replicate sizeofTpmuHa 0, before⟩) := by
    intro declared listed supported before
    refine calculateDigest_known conforms finalConforms stored ?_
      (known.steps declared listed supported) before
    intro other member same
    rw [← same]
    exact known.sizes other member (by rwa [same])
  have costs : ∀ declared ∈ log.specId.algorithms, ∀ before hashDigest,
      calculateDigest crypt getHashSizeFromAlgo allocatePool memory location
        (log.lastEntry location) (finalEvents.map fun _ => table) pcrIndex
        declared.algorithmId before = some hashDigest →
      hashDigest.allocations =
        before + hashContexts pcrIndex (log.events ++ finalEventList finalEvents) declared := by
    intro declared listed before hashDigest one
    rw [hashContexts]
    by_cases supported : Supported declared.algorithmId
    · obtain ⟨info, found⟩ := getHashInfo_of_supported crypt supported
      rw [folds declared listed supported before, Option.some.injEq] at one
      rw [if_pos supported, ← one, allocations_foldl_extendDigest found]
    · rw [if_neg supported, calculateDigest_unsupported supported one, Nat.add_zero]
  obtain ⟨items, address, held, loop, digests⟩ := dumpEventLog_calculate stored run
  have entries := calculatedDigests_entries _ held costs loop
  refine ⟨printed, run, ?_⟩
  rw [digests]
  refine ((List.forall₂_and_left _ _).mpr ⟨fun _ listed => listed, entries⟩).imp ?_
  rintro declared digest ⟨listed, before, hashDigest, fits, one, rfl⟩ info found
  have supported := supported_of_getHashInfo found
  rw [folds declared listed supported before, Option.some.injEq] at one
  rw [hashContexts, if_pos supported, Nat.zero_add] at fits
  rw [← one, ← known.sizes declared listed supported]
  exact take_foldl_extendDigest standard found _ _ fun call _ below =>
    known.contexts call (Nat.lt_of_lt_of_le below fits)

end Known

/-! ## Logs that show a disagreement -/

def constCrypt (byte : UInt8) : BaseCrypt where
  sha1 := fun _ => List.replicate 20 byte
  sha256 := fun _ => List.replicate 32 byte
  length_sha1 := by simp
  length_sha256 := by simp

def measuredEvent (declared : AlgorithmSize) : PcrEvent2 where
  pcrIndex := 0
  eventType := 1
  digests := [⟨declared.algorithmId, List.replicate declared.digestSize.toNat 0⟩]
  event := []
  digests_length := by simp
  event_length := noEvent_length

theorem measuredEvent_conforms {specId : SpecIdEvent} {declared : AlgorithmSize}
    (listed : declared ∈ specId.algorithms) : (measuredEvent declared).Conforms specId := by
  intro entry member
  simp only [measuredEvent, List.mem_singleton] at member
  subst member
  exact ⟨declared, listed, rfl, by simp⟩

theorem measuredDigests_measuredEvents (declared : AlgorithmSize) (count : Nat) :
    measuredDigests 0 declared.algorithmId (List.replicate count (measuredEvent declared)) =
      List.replicate count (List.replicate declared.digestSize.toNat 0) := by
  induction count with
  | zero => rfl
  | succ count ih =>
      rw [List.replicate_succ, List.replicate_succ, ← List.singleton_append,
        measuredDigests_append, ih]
      simp [measuredDigests, measuredEvent, PcrEvent2.digestOf, evNoAction]

/-- A log of measured events of one algorithm. -/
def measuredLog (specId : SpecIdEvent) (declared : AlgorithmSize) (count : Nat) : EventLog where
  headerPcrIndex := 0
  headerEventType := 3
  headerDigest := List.replicate 20 0
  specId := specId
  events := List.replicate count (measuredEvent declared)
  headerDigest_length := zeroDigest_length

theorem measuredLog_conforms {specId : SpecIdEvent} {declared : AlgorithmSize}
    (listed : declared ∈ specId.algorithms) (count : Nat) :
    (measuredLog specId declared count).Conforms := by
  intro event member
  rw [List.eq_of_mem_replicate member]
  exact measuredEvent_conforms listed

theorem measuredDigests_measuredLog (specId : SpecIdEvent) (declared : AlgorithmSize)
    (count : Nat) :
    measuredDigests 0 declared.algorithmId
        ((measuredLog specId declared (count + 1)).events ++ finalEventList none) =
      List.replicate count (List.replicate declared.digestSize.toNat 0) ++
        [List.replicate declared.digestSize.toNat 0] := by
  rw [← List.replicate_succ', ← measuredDigests_measuredEvents]
  simp [measuredLog, finalEventList]

section Disagreement

variable {getHashSizeFromAlgo : UInt16 → UInt16} {allocatePool : Nat → Bool}
variable {specId : SpecIdEvent} {hashAlg : UInt16}

theorem pcrValue_constCrypt (standard : StandardSizes getHashSizeFromAlgo) {byte : UInt8}
    {info : HashInfo} (found : getHashInfo (constCrypt byte) hashAlg = some info)
    (size : Nat) (before : List (List UInt8)) (last : List UInt8) :
    pcrValue info.hash size (before ++ [last]) =
      List.replicate (getHashSizeFromAlgo hashAlg).toNat byte := by
  rw [pcrValue, List.foldl_append]
  rcases supported_of_getHashInfo found with rfl | rfl
  · cases found
    rw [standard.1]
    rfl
  · cases found
    rw [standard.2]
    rfl

theorem supported_size_pos (standard : StandardSizes getHashSizeFromAlgo)
    (supported : Supported hashAlg) : 0 < (getHashSizeFromAlgo hashAlg).toNat := by
  rcases supported with rfl | rfl
  · rw [standard.1]
    decide
  · rw [standard.2]
    decide

/-- The walk over a stray log sees no event of PCR 0, so no digest is extended. -/
theorem calculateDigest_stray {crypt : BaseCrypt} {memory : Memory} {location : Nat}
    {declared : AlgorithmSize} {second : PcrEvent2}
    (disagrees : getHashSizeFromAlgo declared.algorithmId ≠ declared.digestSize)
    (stored : memory.Holds location
      (strayLog getHashSizeFromAlgo specId declared second).encode) (allocations : Nat) :
    calculateDigest crypt getHashSizeFromAlgo allocatePool memory location
        ((strayLog getHashSizeFromAlgo specId declared second).lastEntry location) none 0
        hashAlg allocations =
      some ⟨List.replicate sizeofTpmuHa 0, allocations⟩ := by
  obtain ⟨exit, walk⟩ := forEachEvent2_stray disagrees stored
    (measureEvent2 crypt getHashSizeFromAlgo allocatePool memory 0 hashAlg)
    ⟨List.replicate sizeofTpmuHa 0, allocations⟩
  have events := EventLog.events_stored stored
  simp only [strayLog, List.flatMap_cons, Memory.holds_append] at events
  have pcr := readU32_of_holds (PcrEvent2.parts_stored events.1).1
  have skipped : measureEvent2 crypt getHashSizeFromAlgo allocatePool memory 0 hashAlg
      ⟨List.replicate sizeofTpmuHa 0, allocations⟩
      ((strayLog getHashSizeFromAlgo specId declared second).firstEvent location) =
      ⟨List.replicate sizeofTpmuHa 0, allocations⟩ := by
    rw [measureEvent2, if_neg]
    rintro ⟨same, _⟩
    exact absurd (same.trans pcr) (by simp [strayEvent])
  rw [skipped] at walk
  simp only [calculateDigest, walk]
  rfl

/-- A supported algorithm under a header that disagrees with `GetHashSizeFromAlgo`. -/
theorem agrees_of_calculatesPcrValues (standard : StandardSizes getHashSizeFromAlgo)
    (calculates : CalculatesPcrValues getHashSizeFromAlgo allocatePool specId)
    {supported : AlgorithmSize} (supportedListed : supported ∈ specId.algorithms)
    (isSupported : Supported supported.algorithmId) {declared : AlgorithmSize}
    (listed : declared ∈ specId.algorithms) :
    getHashSizeFromAlgo declared.algorithmId = declared.digestSize := by
  by_contra disagrees
  set log := strayLog getHashSizeFromAlgo specId declared (measuredEvent supported) with logEq
  have logStored := Memory.holds_ofBytesAt 0 log.encode
  have stored : StoredLog (Memory.ofBytesAt 0 log.encode) 0 0 log none :=
    ⟨logStored, by simp⟩
  obtain ⟨printed, run, right⟩ := calculates (constCrypt 1) _ 0 0 log none 0 rfl
    (strayLog_conforms getHashSizeFromAlgo listed (measuredEvent_conforms supportedListed))
    (by simp) stored
  obtain ⟨items, address, held, loop, digests⟩ := dumpEventLog_calculate stored run
  have nothing : ∀ declared ∈ log.specId.algorithms, ∀ before hashDigest,
      calculateDigest (constCrypt 1) getHashSizeFromAlgo allocatePool
        (Memory.ofBytesAt 0 log.encode) 0 (log.lastEntry 0)
        ((none : Option FinalEvents).map fun _ => 0) 0 declared.algorithmId before =
          some hashDigest →
      hashDigest.allocations = before + 0 := by
    intro other _ before hashDigest one
    rw [Option.map_none, logEq, calculateDigest_stray disagrees logStored,
      Option.some.injEq] at one
    rw [← one]
    rfl
  have entries := calculatedDigests_entries (fun _ => 0) held nothing loop
  rw [digests] at right
  -- The calculated digest is zero; the expected one is an output of the hash.
  have differs := List.Forall₂.mp (S := fun entry _ => entry ≠ supported ∧ True) ?_
    entries right
  · exact ((List.forall₂_and_left _ _).mp differs).1 supported supportedListed rfl
  · rintro entry digest ⟨before, hashDigest, _, one, taken⟩ expected
    refine ⟨?_, trivial⟩
    rintro rfl
    obtain ⟨info, found⟩ := getHashInfo_of_supported (constCrypt 1) isSupported
    have measured : measuredDigests 0 entry.algorithmId (log.events ++ finalEventList none) =
        [] ++ [List.replicate entry.digestSize.toNat 0] := by
      simp [logEq, strayLog, finalEventList, measuredDigests, strayEvent, measuredEvent,
        PcrEvent2.digestOf, evNoAction]
    have value := expected info found
    rw [measured, pcrValue_constCrypt standard found] at value
    rw [Option.map_none, logEq, calculateDigest_stray disagrees logStored,
      Option.some.injEq] at one
    have positive := supported_size_pos standard isSupported
    have one_mem : (1 : UInt8) ∈ digest := by
      rw [value, List.mem_replicate]
      exact ⟨by omega, rfl⟩
    rw [taken, ← one] at one_mem
    have zero := List.eq_of_mem_replicate (List.mem_of_mem_take one_mem)
    exact absurd zero (by decide)

/-- The last extension cannot allocate its hash context, and fills the digest with `0xFF`. -/
theorem take_foldl_extendDigest_fails {crypt : BaseCrypt} {info : HashInfo}
    (found : getHashInfo crypt hashAlg = some info) (before : List (List UInt8))
    (fails : ¬ allocatePool before.length = true) (last : List UInt8) :
    ((before ++ [last]).foldl
        (extendDigest crypt getHashSizeFromAlgo allocatePool hashAlg)
        ⟨List.replicate sizeofTpmuHa 0, 0⟩).digest.take (getHashSizeFromAlgo hashAlg).toNat =
      List.replicate (getHashSizeFromAlgo hashAlg).toNat 0xFF := by
  rw [List.foldl_append]
  set extended := before.foldl
    (extendDigest crypt getHashSizeFromAlgo allocatePool hashAlg)
    ⟨List.replicate sizeofTpmuHa 0, 0⟩ with extendedEq
  have calls : extended.allocations = before.length := by
    rw [extendedEq, allocations_foldl_extendDigest found, Nat.zero_add]
  simp [extendDigest, found, calls, fails, overwrite]

/-- A log with one more event than allocations that succeed. -/
theorem allocates_of_calculatesPcrValues (standard : StandardSizes getHashSizeFromAlgo)
    (calculates : CalculatesPcrValues getHashSizeFromAlgo allocatePool specId)
    (agrees : ∀ declared ∈ specId.algorithms,
      getHashSizeFromAlgo declared.algorithmId = declared.digestSize)
    {supported : AlgorithmSize} (supportedListed : supported ∈ specId.algorithms)
    (isSupported : Supported supported.algorithmId) (call : Nat) :
    allocatePool call = true := by
  by_contra fails
  obtain ⟨first, firstFound⟩ : ∃ first,
      specId.algorithms.find? (fun declared => Supported declared.algorithmId) =
        some first := by
    rw [← Option.isSome_iff_exists, List.find?_isSome]
    exact ⟨supported, supportedListed, by simpa using isSupported⟩
  have firstListed := List.mem_of_find?_eq_some firstFound
  have firstSupported : Supported first.algorithmId := by
    simpa using List.find?_some firstFound
  obtain ⟨info, found⟩ := getHashInfo_of_supported (constCrypt 0) firstSupported
  set log := measuredLog specId first (call + 1) with logEq
  have conforms : log.Conforms := measuredLog_conforms firstListed _
  have stored : StoredLog (Memory.ofBytesAt 0 log.encode) 0 0 log none :=
    ⟨Memory.holds_ofBytesAt 0 log.encode, by simp⟩
  have noFinal : ∀ final ∈ (none : Option FinalEvents), final.Conforms log.specId := by simp
  have known := StepsKnown.of_known (fun event member =>
    (conforming_event conforms noFinal event member).known agrees) 0 first.algorithmId
  obtain ⟨printed, run, right⟩ :=
    calculates (constCrypt 0) _ 0 0 log none 0 rfl conforms (by simp) stored
  obtain ⟨items, address, held, loop, digests⟩ := dumpEventLog_calculate stored run
  rw [digests] at right
  obtain ⟨hashDigest, one, value⟩ := calculatedDigests_first held firstFound loop right
  have expected := value info found
  rw [measuredDigests_measuredLog, pcrValue_constCrypt standard found,
    ← agrees first firstListed] at expected
  rw [calculateDigest_known conforms noFinal stored (fun other member same => by
    rw [← same, agrees other member]) known, Option.some.injEq,
    measuredDigests_measuredLog] at one
  rw [← one, take_foldl_extendDigest_fails found _ (by rwa [List.length_replicate])] at expected
  -- The hash gives zeros.
  have positive := supported_size_pos standard firstSupported
  have byte : (0xFF : UInt8) ∈
      List.replicate (getHashSizeFromAlgo first.algorithmId).toNat (0 : UInt8) := by
    rw [← expected, List.mem_replicate]
    exact ⟨by omega, rfl⟩
  exact absurd (List.eq_of_mem_replicate byte) (by decide)

end Disagreement

/-- With standard sizes for the two supported algorithms, the calculated digests are the
PCR values in every run that steps by true digest sizes and gets its hash contexts.
Under a header with a supported algorithm, a declared size that `GetHashSizeFromAlgo`
does not return or an allocation that can fail makes some run go wrong. -/
theorem dumpEventLog_calculatesPcrValues (getHashSizeFromAlgo : UInt16 → UInt16)
    (allocatePool : Nat → Bool) (standard : StandardSizes getHashSizeFromAlgo) :
    (∀ (crypt : BaseCrypt) (memory : Memory) (location table : Nat) (log : EventLog)
      (finalEvents : Option FinalEvents) (pcrIndex : UInt32),
      log.Conforms → (∀ final ∈ finalEvents, final.Conforms log.specId) →
      StoredLog memory location table log finalEvents →
      CalculationKnown getHashSizeFromAlgo allocatePool log finalEvents pcrIndex →
        CalculatesPcrValue crypt getHashSizeFromAlgo allocatePool memory location table log
          finalEvents pcrIndex) ∧
      ∀ specId : SpecIdEvent, (∃ declared ∈ specId.algorithms, Supported declared.algorithmId) →
        (∃ declared ∈ specId.algorithms,
          getHashSizeFromAlgo declared.algorithmId ≠ declared.digestSize) ∨
            (∃ call, allocatePool call = false) →
          ¬ CalculatesPcrValues getHashSizeFromAlgo allocatePool specId := by
  constructor
  · intro crypt memory location table log finalEvents pcrIndex conforms finalConforms stored
      known
    exact calculatesPcrValue_of_known standard conforms finalConforms stored known
  · rintro specId ⟨supported, listed, isSupported⟩ wrong calculates
    have agrees : ∀ declared ∈ specId.algorithms,
        getHashSizeFromAlgo declared.algorithmId = declared.digestSize := fun _ member =>
      agrees_of_calculatesPcrValues standard calculates listed isSupported member
    rcases wrong with ⟨declared, member, disagrees⟩ | ⟨call, fails⟩
    · exact disagrees (agrees declared member)
    · have allocated :=
        allocates_of_calculatesPcrValues standard calculates agrees listed isSupported call
      rw [fails] at allocated
      cases allocated

/-- A final events table with one SHA-256 event. -/
def sha256FinalEvents : FinalEvents where
  version := 1
  events := [sha256Event]
  events_length := by simp

/-- The log and the table back to back. -/
def sha3LastMemory : Memory :=
  Memory.ofBytesAt 0 (sha3LastLog.encode ++ sha256FinalEvents.encode)

theorem sha3LastMemory_stored :
    StoredLog sha3LastMemory 0 sha3LastLog.encode.length sha3LastLog
      (some sha256FinalEvents) := by
  have held := Memory.holds_ofBytesAt 0 (sha3LastLog.encode ++ sha256FinalEvents.encode)
  rw [Memory.holds_append, Nat.zero_add] at held
  refine ⟨held.1, ?_⟩
  rintro final ⟨⟩
  exact held.2

theorem sha3LastLog_known :
    CalculationKnown standardHashSize (fun _ => true) sha3LastLog (some sha256FinalEvents)
      0 where
  sizes := by decide
  steps := by
    intro declared listed supported
    refine ⟨?_, ?_, ?_⟩
    · intro event member
      rcases List.mem_pair.mp member with rfl | rfl
      · simp [PcrEvent2.Known, sha256Event, standardHashSize]
      · simp [PcrEvent2.Known, bareEvent]
    · simp [finalEventList, sha256FinalEvents]
    · intro event member
      -- No event here has a second digest.
      have short : event.digests.length ≤ 1 := by
        simp only [sha3LastLog, sha256FinalEvents, finalEventList, Option.map_some,
          Option.getD_some, List.cons_append, List.nil_append, List.mem_cons,
          List.not_mem_nil, or_false] at member
        rcases member with rfl | rfl | rfl | rfl <;> decide
      intro _ _ entry searched
      have none_ : event.digests.dropLast = [] := by
        rw [← List.length_eq_zero_iff, List.length_dropLast]
        omega
      simp [PcrEvent2.steppedOver, none_] at searched
  contexts _ _ := rfl

/-- The SHA3-256 digest in the log's last event does no harm: PCR 0 is extended with the
SHA-256 digests of the first event and of the final table. -/
theorem dumpEventLog_calculatesPcrValues_sha3LastLog :
    CalculatesPcrValue (constCrypt 1) standardHashSize (fun _ => true) sha3LastMemory 0
      sha3LastLog.encode.length sha3LastLog (some sha256FinalEvents) 0 :=
  (dumpEventLog_calculatesPcrValues standardHashSize (fun _ => true) ⟨by decide, by decide⟩).1
    (constCrypt 1) sha3LastMemory 0 sha3LastLog.encode.length sha3LastLog
    (some sha256FinalEvents) 0 (by decide)
    (by rintro final ⟨⟩ event member; revert event; decide) sha3LastMemory_stored
    sha3LastLog_known

/-- A SHA3-256 event of PCR 1 and a SHA-256 event of PCR 0. -/
def sha3ThenSha256Log : EventLog where
  headerPcrIndex := 0
  headerEventType := 3
  headerDigest := List.replicate 20 0
  specId := sha3SpecId
  events := [{ sha3Event with pcrIndex := 1 }, measuredEvent ⟨0x000B, 32⟩]
  headerDigest_length := zeroDigest_length

/-- `GetHashSizeFromAlgo` does not know SHA3-256.  The walk loses the records on the
event of PCR 1 and the SHA-256 digest of PCR 0 stays at its reset value. -/
theorem dumpEventLog_sha3ThenSha256Log :
    sha3ThenSha256Log.Conforms ∧
      (dumpEventLog (constCrypt 1) standardHashSize (fun _ => true)
          (Memory.ofBytesAt 0 sha3ThenSha256Log.encode) .tcg2 0
          (sha3ThenSha256Log.lastEntry 0) none 0 true).map calculatedDigests =
        some [List.replicate 32 0, List.replicate 32 0] ∧
      pcrValue (constCrypt 1).sha256 32
          (measuredDigests 0 tpmAlgSha256 sha3ThenSha256Log.events) =
        List.replicate 32 1 := by
  decide +kernel

end AppEfi.Tcg2
