import AppEfi.Tcg2.EventLayout

/-!
# Record sizes and digests of `TCG_PCR_EVENT2`

`GetTcgEfiSpecIdEventStructSize`, `GetPcrEvent2Size` and
`GetDigestFromPcrEvent2` of Tcg2DumpLog.c.  Both event functions step over a
digest by `GetHashSizeFromAlgo`, an edk2 library function that is a parameter
here; on an event whose digests have the sizes it returns they agree with the
layout.
-/

set_option autoImplicit false

namespace AppEfi.Tcg2

open AppEfi.LittleEndian
open AppEfi.RecordWalk

def readAlg (memory : Memory) (address : Nat) : UInt16 :=
  UInt16.ofNat (memory.readLe address 2)

def getTcgSpecIdNumberOfAlgorithms (memory : Memory) (tcgEfiSpecIdEventStruct : Nat) : Nat :=
  memory.readLe (tcgEfiSpecIdEventStruct + sizeofTcgEfiSpecIdEventStruct) 4

def getTcgSpecIdDigestSize (tcgEfiSpecIdEventStruct : Nat) : Nat :=
  tcgEfiSpecIdEventStruct + sizeofTcgEfiSpecIdEventStruct + 4

def getTcgEfiSpecIdEventStructSize (memory : Memory) (tcgEfiSpecIdEventStruct : Nat) : Nat :=
  let numberOfAlgorithms :=
    memory.readLe (tcgEfiSpecIdEventStruct + sizeofTcgEfiSpecIdEventStruct) 4
  let digestSize := tcgEfiSpecIdEventStruct + sizeofTcgEfiSpecIdEventStruct + 4
  let vendorInfoSize := digestSize + numberOfAlgorithms * 4
  sizeofTcgEfiSpecIdEventStruct + 4 + numberOfAlgorithms * 4 + 1 +
    memory.readLe vendorInfoSize 1

section Event

variable (getHashSizeFromAlgo : UInt16 → UInt16) (memory : Memory)

/-- The digest loop of `GetPcrEvent2Size` from its (HashAlgo, DigestBuffer): the
last DigestBuffer. -/
def skipDigests : Nat → UInt16 → Nat → Nat
  | 0, _, digestBuffer => digestBuffer
  | count + 1, hashAlgo, digestBuffer =>
      let digestSize := (getHashSizeFromAlgo hashAlgo).toNat
      skipDigests count (readAlg memory (digestBuffer + digestSize))
        (digestBuffer + digestSize + 2)

def getPcrEvent2Size (tcgPcrEvent2 : Nat) : Nat :=
  let digestCount := memory.readLe (tcgPcrEvent2 + 8) 4
  let hashAlgo := readAlg memory (tcgPcrEvent2 + 12)
  let digestBuffer :=
    skipDigests getHashSizeFromAlgo memory digestCount hashAlgo (tcgPcrEvent2 + 14) - 2
  let eventSize := memory.readLe digestBuffer 4
  let eventBuffer := digestBuffer + 4
  eventBuffer + eventSize - tcgPcrEvent2

/-- The search loop of `GetDigestFromPcrEvent2`. -/
def findDigest (hashAlg : UInt16) : Nat → UInt16 → Nat → Option Nat
  | 0, _, _ => none
  | count + 1, hashAlgo, digestBuffer =>
      let digestSize := (getHashSizeFromAlgo hashAlgo).toNat
      if hashAlg = hashAlgo then some digestBuffer
      else
        findDigest hashAlg count (readAlg memory (digestBuffer + digestSize))
          (digestBuffer + digestSize + 2)

/-- The digest's address, `none` for `NULL`. -/
def getDigestFromPcrEvent2 (tcgPcrEvent2 : Nat) (hashAlg : UInt16) : Option Nat :=
  let digestCount := memory.readLe (tcgPcrEvent2 + 8) 4
  let hashAlgo := readAlg memory (tcgPcrEvent2 + 12)
  findDigest getHashSizeFromAlgo memory hashAlg digestCount hashAlgo (tcgPcrEvent2 + 14)

end Event

/-- Every digest of the event has the size that `GetHashSizeFromAlgo` returns for
its algorithm. -/
def PcrEvent2.Known (getHashSizeFromAlgo : UInt16 → UInt16) (event : PcrEvent2) : Prop :=
  ∀ entry ∈ event.digests, (getHashSizeFromAlgo entry.hashAlg).toNat = entry.digest.length

/-- The digests whose sizes the search for `hashAlg` steps by: those in front of the
digest it finds, less the event's last one, behind which it looks at nothing. -/
def PcrEvent2.steppedOver (event : PcrEvent2) (hashAlg : UInt16) : List TaggedDigest :=
  event.digests.dropLast.takeWhile fun entry => entry.hashAlg != hashAlg

theorem PcrEvent2.mem_of_mem_steppedOver {event : PcrEvent2} {hashAlg : UInt16}
    {entry : TaggedDigest} (member : entry ∈ event.steppedOver hashAlg) :
    entry ∈ event.digests :=
  List.dropLast_subset _ ((List.takeWhile_prefix _).subset member)

/-! ## The Spec-ID structure -/

theorem readAlg_of_holds {memory : Memory} {address : Nat} {alg : UInt16}
    (held : memory.Holds address (toBytes 2 alg.toNat)) : readAlg memory address = alg := by
  unfold readAlg
  rw [held.readLe_eq (by simpa using alg.toNat_lt), UInt16.ofNat_toNat]

section SpecId

variable {memory : Memory} {address : Nat} {specId : SpecIdEvent}

theorem SpecIdEvent.parts_stored (stored : memory.Holds address specId.encode) :
    memory.Holds (address + 24) (toBytes 4 specId.algorithms.length) ∧
      memory.Holds (address + 28) (specId.algorithms.flatMap AlgorithmSize.encode) ∧
      memory.Holds (address + 28 + specId.algorithms.length * 4)
        (toBytes 1 specId.vendorInfo.length) := by
  have fixed : specId.fixedFields.length = 24 := specId.fixedFields_length
  simp only [SpecIdEvent.encode, Memory.holds_append, List.length_append, length_toBytes,
    length_flatMap_algorithms, fixed] at stored
  obtain ⟨⟨⟨⟨_, count⟩, table⟩, vendor⟩, _⟩ := stored
  exact ⟨count, table, by simpa [Nat.add_assoc] using vendor⟩

theorem getTcgSpecIdNumberOfAlgorithms_eq (stored : memory.Holds address specId.encode) :
    getTcgSpecIdNumberOfAlgorithms memory address = specId.algorithms.length :=
  (SpecIdEvent.parts_stored stored).1.readLe_eq (by have := specId.fits; omega)

theorem getTcgEfiSpecIdEventStructSize_eq (stored : memory.Holds address specId.encode) :
    getTcgEfiSpecIdEventStructSize memory address = specId.encode.length := by
  obtain ⟨_, _, vendor⟩ := SpecIdEvent.parts_stored stored
  have count := getTcgSpecIdNumberOfAlgorithms_eq stored
  have vendorSize : memory.readLe (address + 28 + specId.algorithms.length * 4) 1 =
      specId.vendorInfo.length :=
    vendor.readLe_eq (by simpa using specId.vendorInfo_length)
  unfold getTcgSpecIdNumberOfAlgorithms at count
  simp only [getTcgEfiSpecIdEventStructSize, count]
  rw [specId.length_encode]
  simp only [sizeofTcgEfiSpecIdEventStruct]
  rw [vendorSize]

end SpecId

/-! ## The digest loops on a stored event -/

section Digests

variable {getHashSizeFromAlgo : UInt16 → UInt16} {memory : Memory}

/-- HashAlgo always holds the two bytes before DigestBuffer, so the loop's state
is one address. -/
theorem skipDigests_stored (digests : List TaggedDigest) (address : Nat)
    (stored : memory.Holds address (digests.flatMap TaggedDigest.encode))
    (known : ∀ entry ∈ digests,
      (getHashSizeFromAlgo entry.hashAlg).toNat = entry.digest.length) :
    skipDigests getHashSizeFromAlgo memory digests.length (readAlg memory address)
        (address + 2) =
      address + digestsLength digests + 2 := by
  induction digests generalizing address with
  | nil => simp [skipDigests, digestsLength]
  | cons entry rest ih =>
      rw [List.flatMap_cons, Memory.holds_append, TaggedDigest.length_encode] at stored
      obtain ⟨head, tail⟩ := stored
      rw [TaggedDigest.encode, Memory.holds_append] at head
      have size := known entry (by simp)
      have step := ih (address + (2 + entry.digest.length)) tail
        fun other member => known other (by simp [member])
      rw [List.length_cons, skipDigests, readAlg_of_holds head.1, size]
      simp only [Nat.add_assoc] at step ⊢
      rw [step, digestsLength, digestsLength, total_cons, TaggedDigest.length_encode]
      omega

theorem findDigest_stored (digests : List TaggedDigest) (address : Nat) (hashAlg : UInt16)
    (stored : memory.Holds address (digests.flatMap TaggedDigest.encode))
    (known : ∀ entry ∈ digests.dropLast.takeWhile fun entry => entry.hashAlg != hashAlg,
      (getHashSizeFromAlgo entry.hashAlg).toNat = entry.digest.length) :
    match digests.find? fun entry => entry.hashAlg == hashAlg with
    | some entry =>
        ∃ pointer,
          findDigest getHashSizeFromAlgo memory hashAlg digests.length
            (readAlg memory address) (address + 2) = some pointer ∧
          memory.Holds pointer entry.digest
    | none =>
        findDigest getHashSizeFromAlgo memory hashAlg digests.length
          (readAlg memory address) (address + 2) = none := by
  induction digests generalizing address with
  | nil => rfl
  | cons entry rest ih =>
      rw [List.flatMap_cons, Memory.holds_append, TaggedDigest.length_encode] at stored
      obtain ⟨head, tail⟩ := stored
      rw [TaggedDigest.encode, Memory.holds_append, length_toBytes] at head
      rw [List.length_cons, List.find?_cons, findDigest, readAlg_of_holds head.1]
      by_cases found : entry.hashAlg = hashAlg
      · simp only [found, beq_self_eq_true, if_true]
        exact ⟨address + 2, rfl, head.2⟩
      · have differs : (entry.hashAlg == hashAlg) = false := by simpa using found
        simp only [differs, if_neg (Ne.symm found)]
        cases rest with
        | nil => rfl
        | cons next others =>
            -- The search goes on behind this digest, so its size has to be known.
            rw [List.dropLast_cons_cons, List.takeWhile_cons_of_pos (by simpa using found)]
              at known
            have step := ih (address + (2 + entry.digest.length)) tail
              fun other member => known other (by simp [member])
            rw [known entry (by simp)]
            simpa only [Nat.add_assoc, Nat.add_comm 2] using step

end Digests

section StoredEvent

variable {getHashSizeFromAlgo : UInt16 → UInt16} {memory : Memory} {address : Nat}
variable {event : PcrEvent2}

theorem PcrEvent2.parts_stored (stored : memory.Holds address event.encode) :
    memory.Holds address (toBytes 4 event.pcrIndex.toNat) ∧
      memory.Holds (address + 4) (toBytes 4 event.eventType.toNat) ∧
      memory.Holds (address + 8) (toBytes 4 event.digests.length) ∧
      memory.Holds (address + 12) (event.digests.flatMap TaggedDigest.encode) ∧
      memory.Holds (address + 12 + digestsLength event.digests)
        (toBytes 4 event.event.length) ∧
      memory.Holds (address + 12 + digestsLength event.digests + 4) event.event := by
  simp only [PcrEvent2.encode, Memory.holds_append, List.length_append, length_toBytes,
    length_flatMap_encode] at stored
  obtain ⟨⟨⟨⟨⟨pcr, kind⟩, count⟩, digests⟩, size⟩, data⟩ := stored
  refine ⟨pcr, kind, count, digests, ?_, ?_⟩
  · simpa [digestsLength, Nat.add_assoc] using size
  · simpa [digestsLength, Nat.add_assoc] using data

theorem digestCount_stored (stored : memory.Holds address event.encode) :
    memory.readLe (address + 8) 4 = event.digests.length :=
  (PcrEvent2.parts_stored stored).2.2.1.readLe_eq (by simpa using event.digests_length)

theorem getPcrEvent2Size_stored (stored : memory.Holds address event.encode)
    (known : event.Known getHashSizeFromAlgo) :
    getPcrEvent2Size getHashSizeFromAlgo memory address = event.encode.length := by
  obtain ⟨_, _, _, digests, size, _⟩ := PcrEvent2.parts_stored stored
  have skipped := skipDigests_stored event.digests (address + 12) digests known
  have eventSize := size.readLe_eq (by simpa using event.event_length)
  simp only [getPcrEvent2Size, digestCount_stored stored]
  rw [skipped, Nat.add_sub_cancel, eventSize, event.length_encode]
  omega

/-- Where the search steps by known sizes, `GetDigestFromPcrEvent2` finds the digest of
the algorithm when there is one and nothing else. -/
theorem getDigestFromPcrEvent2_stored (stored : memory.Holds address event.encode)
    {hashAlg : UInt16}
    (known : ∀ entry ∈ event.steppedOver hashAlg,
      (getHashSizeFromAlgo entry.hashAlg).toNat = entry.digest.length) :
    match event.digestOf hashAlg with
    | some digest =>
        ∃ pointer,
          getDigestFromPcrEvent2 getHashSizeFromAlgo memory address hashAlg = some pointer ∧
          memory.Holds pointer digest
    | none => getDigestFromPcrEvent2 getHashSizeFromAlgo memory address hashAlg = none := by
  obtain ⟨_, _, _, digests, _, _⟩ := PcrEvent2.parts_stored stored
  have found := findDigest_stored event.digests (address + 12) hashAlg digests known
  simp only [getDigestFromPcrEvent2, digestCount_stored stored, PcrEvent2.digestOf]
  cases search : event.digests.find? fun entry => entry.hashAlg == hashAlg with
  | none =>
      rw [search] at found
      exact found
  | some entry =>
      rw [search] at found
      exact found

/-- A conforming event's digest of an algorithm has the size declared for it. -/
theorem digestOf_length {specId : SpecIdEvent} (conforms : event.Conforms specId)
    {hashAlg : UInt16} {digest : List UInt8}
    (agrees : ∀ declared ∈ specId.algorithms, declared.algorithmId = hashAlg →
      getHashSizeFromAlgo hashAlg = declared.digestSize)
    (found : event.digestOf hashAlg = some digest) :
    digest.length = (getHashSizeFromAlgo hashAlg).toNat := by
  unfold PcrEvent2.digestOf at found
  obtain ⟨entry, search, rfl⟩ := Option.map_eq_some_iff.mp found
  have alg : entry.hashAlg = hashAlg := by
    simpa using List.find?_some search
  obtain ⟨declared, listed, same, size⟩ := conforms entry (List.mem_of_find?_eq_some search)
  rw [agrees declared listed (same.trans alg), size]

end StoredEvent

/-- Whatever the memory holds, a step of the walk moves forward by at least the
fixed part of a record. -/
theorem le_getPcrEvent2Size (getHashSizeFromAlgo : UInt16 → UInt16) (memory : Memory)
    (tcgPcrEvent2 : Nat) :
    16 ≤ getPcrEvent2Size getHashSizeFromAlgo memory tcgPcrEvent2 := by
  have forward : ∀ (count : Nat) (hashAlgo : UInt16) (digestBuffer : Nat),
      digestBuffer ≤ skipDigests getHashSizeFromAlgo memory count hashAlgo digestBuffer := by
    intro count
    induction count with
    | zero => intro hashAlgo digestBuffer; exact Nat.le_refl _
    | succ count ih =>
        intro hashAlgo digestBuffer
        rw [skipDigests]
        exact Nat.le_trans (by omega) (ih _ _)
  have loop := forward (memory.readLe (tcgPcrEvent2 + 8) 4)
    (readAlg memory (tcgPcrEvent2 + 12)) (tcgPcrEvent2 + 14)
  simp only [getPcrEvent2Size]
  omega

end AppEfi.Tcg2
