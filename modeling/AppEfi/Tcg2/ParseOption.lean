import AppEfi.Tcg2.EventLogWalk
import AppEfi.Tcg2.ParseEventData

/-!
# What the parse option reads

`Tcg2DumpLog -PARSE` hands a file to the TCG_2 branch of `DumpEventLog` with the
last byte of the buffer for the last entry.  Every function of the walk is given
here by the ranges that it reads: headers, the Spec-ID structure, digests, sizes
and the data, which `ParseEventData` reads as hex and by the event's type.
-/

set_option autoImplicit false

namespace AppEfi.Tcg2

open AppEfi.LittleEndian
open AppEfi.RecordWalk

section Reads

variable (getHashSizeFromAlgo : UInt16 → UInt16) (text : TextReads) (memory : Memory)

def dumpEventReads (eventHdr : Nat) : List Range :=
  ⟨eventHdr, sizeofTcgPcrEventHdr⟩ ::
    parseEventDataReads text memory (memory.readLe (eventHdr + 4) 4)
      (eventHdr + sizeofTcgPcrEventHdr) (memory.readLe (eventHdr + 28) 4)

def dumpTcgEfiSpecIdEventStructReads (tcgEfiSpecIdEventStruct : Nat) : List Range :=
  let numberOfAlgorithms := getTcgSpecIdNumberOfAlgorithms memory tcgEfiSpecIdEventStruct
  let digestSize := getTcgSpecIdDigestSize tcgEfiSpecIdEventStruct
  let vendorInfoSize := digestSize + numberOfAlgorithms * 4
  [⟨tcgEfiSpecIdEventStruct, sizeofTcgEfiSpecIdEventStruct⟩,
    ⟨tcgEfiSpecIdEventStruct + sizeofTcgEfiSpecIdEventStruct, 4⟩,
    ⟨digestSize, numberOfAlgorithms * 4⟩, ⟨vendorInfoSize, 1⟩,
    ⟨vendorInfoSize + 1, memory.readLe vendorInfoSize 1⟩]

def getTcgEfiSpecIdEventStructSizeReads (tcgEfiSpecIdEventStruct : Nat) : List Range :=
  let numberOfAlgorithms := getTcgSpecIdNumberOfAlgorithms memory tcgEfiSpecIdEventStruct
  [⟨tcgEfiSpecIdEventStruct + sizeofTcgEfiSpecIdEventStruct, 4⟩,
    ⟨getTcgSpecIdDigestSize tcgEfiSpecIdEventStruct + numberOfAlgorithms * 4, 1⟩]

/-- The digest loop of `DumpEvent2`: a digest and the next algorithm. -/
def dumpDigestReads : Nat → UInt16 → Nat → List Range
  | 0, _, _ => []
  | count + 1, hashAlgo, digestBuffer =>
      let digestSize := (getHashSizeFromAlgo hashAlgo).toNat
      ⟨digestBuffer, digestSize⟩ :: ⟨digestBuffer + digestSize, 2⟩ ::
        dumpDigestReads count (readAlg memory (digestBuffer + digestSize))
          (digestBuffer + digestSize + 2)

/-- The digest loop of `GetPcrEvent2Size`: the next algorithm only. -/
def skipDigestReads : Nat → UInt16 → Nat → List Range
  | 0, _, _ => []
  | count + 1, hashAlgo, digestBuffer =>
      let digestSize := (getHashSizeFromAlgo hashAlgo).toNat
      ⟨digestBuffer + digestSize, 2⟩ ::
        skipDigestReads count (readAlg memory (digestBuffer + digestSize))
          (digestBuffer + digestSize + 2)

def dumpEvent2Reads (tcgPcrEvent2 : Nat) : List Range :=
  let dumped := dumpEvent2 getHashSizeFromAlgo memory tcgPcrEvent2
  [⟨tcgPcrEvent2, 12⟩, ⟨tcgPcrEvent2 + 12, 2⟩] ++
    dumpDigestReads getHashSizeFromAlgo memory dumped.digestCount
      (readAlg memory (tcgPcrEvent2 + 12)) (tcgPcrEvent2 + 14) ++
    ⟨dumped.eventBuffer - 4, 4⟩ ::
      parseEventDataReads text memory dumped.eventType dumped.eventBuffer dumped.eventSize

def getPcrEvent2SizeReads (tcgPcrEvent2 : Nat) : List Range :=
  let digestCount := memory.readLe (tcgPcrEvent2 + 8) 4
  let hashAlgo := readAlg memory (tcgPcrEvent2 + 12)
  [⟨tcgPcrEvent2 + 8, 4⟩, ⟨tcgPcrEvent2 + 12, 2⟩] ++
    skipDigestReads getHashSizeFromAlgo memory digestCount hashAlgo (tcgPcrEvent2 + 14) ++
    [⟨skipDigests getHashSizeFromAlgo memory digestCount hashAlgo (tcgPcrEvent2 + 14) - 2, 4⟩]

/-- One turn of the loop over the events. -/
def eventReads (tcgPcrEvent2 : Nat) : List Range :=
  dumpEvent2Reads getHashSizeFromAlgo text memory tcgPcrEvent2 ++
    getPcrEvent2SizeReads getHashSizeFromAlgo memory tcgPcrEvent2

def readEvent (reads : List Range) (tcgPcrEvent2 : Nat) : List Range :=
  reads ++ eventReads getHashSizeFromAlgo text memory tcgPcrEvent2

/-- What is read before the loop. -/
def headerReads (buffer : Nat) : List Range :=
  let tcgEfiSpecIdEventStruct := buffer + sizeofTcgPcrEventHdr
  dumpEventReads text memory buffer ++
    dumpTcgEfiSpecIdEventStructReads memory tcgEfiSpecIdEventStruct ++
    getTcgEfiSpecIdEventStructSizeReads memory tcgEfiSpecIdEventStruct

/-- `DumpEventLog` on the buffer of a file. -/
def parseReads (buffer bufferSize : Nat) : Option (List Range) :=
  (forEachEvent2 getHashSizeFromAlgo memory (readEvent getHashSizeFromAlgo text memory) buffer
    (buffer + bufferSize - 1) (headerReads text memory buffer)).map Prod.fst

end Reads

/-- The contents of a file that is one complete log.  `eventSize` is the size in
the header of the first event; it need not be the size of the Spec-ID structure. -/
structure LogFile where
  header : List UInt8
  eventSize : UInt32
  fixedFields : List UInt8
  algorithms : List AlgorithmSize
  vendorInfo : List UInt8
  events : List PcrEvent2
  header_length : header.length = 28
  fixedFields_length : fixedFields.length = sizeofTcgEfiSpecIdEventStruct
  algorithms_length : algorithms.length < 2 ^ 32
  vendorInfo_length : vendorInfo.length < 2 ^ 8

def LogFile.encode (file : LogFile) : List UInt8 :=
  file.header ++ toBytes 4 file.eventSize.toNat ++ file.fixedFields ++
    toBytes 4 file.algorithms.length ++ file.algorithms.flatMap AlgorithmSize.encode ++
    toBytes 1 file.vendorInfo.length ++ file.vendorInfo ++
    file.events.flatMap PcrEvent2.encode

def LogFile.eventsOffset (file : LogFile) : Nat :=
  60 + file.algorithms.length * 4 + 1 + file.vendorInfo.length

/-- What the type of the event at `start` says of the length of its data ends before
`limit`. -/
def PcrEvent2.TypedDataEnds (text : TextReads) (memory : Memory) (limit start : Nat)
    (event : PcrEvent2) : Prop :=
  Tcg2.TypedDataEnds text memory limit (eventData event.eventType.toNat)
    (start + (12 + digestsLength event.digests + 4)) event.event.length

instance decidablePcrEvent2TypedDataEnds (text : TextReads) (memory : Memory)
    (limit start : Nat) (event : PcrEvent2) :
    Decidable (event.TypedDataEnds text memory limit start) :=
  inferInstanceAs (Decidable (Tcg2.TypedDataEnds _ _ _ _ _ _))

/-- The buffer holds a complete log, the data of its first event end in it, and so do the
structures that the data of each event are taken for. -/
structure CompleteLog (getHashSizeFromAlgo : UInt16 → UInt16) (text : TextReads)
    (memory : Memory) (buffer : Nat) (content : List UInt8) (file : LogFile) : Prop where
  encoded : content = file.encode
  known : ∀ event ∈ file.events, event.Known getHashSizeFromAlgo
  headerData : sizeofTcgPcrEventHdr + file.eventSize.toNat ≤ content.length
  headerType : TypedDataEnds text memory (buffer + content.length)
    (eventData (memory.readLe (buffer + 4) 4)) (buffer + sizeofTcgPcrEventHdr)
    file.eventSize.toNat
  eventTypes : ∀ entry ∈ placed (fun event => (PcrEvent2.encode event).length)
    (buffer + file.eventsOffset) file.events,
    entry.2.TypedDataEnds text memory (buffer + content.length) entry.1

/-! ## The extent of a record's reads -/

section Extent

variable {getHashSizeFromAlgo : UInt16 → UInt16} {text : TextReads} {memory : Memory}

theorem dumpDigestReads_extent (count : Nat) :
    ∀ entry, ∀ range ∈ dumpDigestReads getHashSizeFromAlgo memory count (readAlg memory entry)
        (entry + 2),
      entry ≤ range.start ∧ range.start + range.length ≤
        digestEntry getHashSizeFromAlgo memory entry count + 2 := by
  induction count with
  | zero =>
      intro entry range member
      cases member
  | succ count ih =>
      intro entry range member
      have onward := @digestEntry_mono getHashSizeFromAlgo memory
        (entry + 2 + (getHashSizeFromAlgo (readAlg memory entry)).toNat) 0 count
        (Nat.zero_le count)
      rw [digestEntry] at onward
      rw [digestEntry_succ]
      simp only [dumpDigestReads, List.mem_cons] at member
      rcases member with rfl | rfl | later
      · dsimp only
        omega
      · dsimp only
        omega
      · have bounds := ih _ range later
        omega

theorem skipDigestReads_subset (count : Nat) :
    ∀ hashAlgo digestBuffer,
      skipDigestReads getHashSizeFromAlgo memory count hashAlgo digestBuffer ⊆
        dumpDigestReads getHashSizeFromAlgo memory count hashAlgo digestBuffer := by
  induction count with
  | zero =>
      intro hashAlgo digestBuffer
      exact List.Subset.refl _
  | succ count ih =>
      intro hashAlgo digestBuffer range member
      simp only [skipDigestReads, dumpDigestReads, List.mem_cons] at member ⊢
      rcases member with rfl | later
      · exact Or.inr (Or.inl rfl)
      · exact Or.inr (Or.inr (ih _ _ later))

/-- A record is read up to its last byte and, by the type of its data, where the structure
of that type leads. -/
theorem eventReads_extent (tcgPcrEvent2 : Nat) :
    ∀ range ∈ eventReads getHashSizeFromAlgo text memory tcgPcrEvent2,
      tcgPcrEvent2 ≤ range.start ∧ range.start + range.length ≤
          tcgPcrEvent2 + getPcrEvent2Size getHashSizeFromAlgo memory tcgPcrEvent2 ∨
        range ∈ parseEventDataReads text memory
          (dumpEvent2 getHashSizeFromAlgo memory tcgPcrEvent2).eventType
          (dumpEvent2 getHashSizeFromAlgo memory tcgPcrEvent2).eventBuffer
          (dumpEvent2 getHashSizeFromAlgo memory tcgPcrEvent2).eventSize := by
  have recordEnd := eventEnd_dumpEvent2 getHashSizeFromAlgo memory tcgPcrEvent2
  have eventBuffer := eventBuffer_dumpEvent2 getHashSizeFromAlgo memory tcgPcrEvent2
  have forward := @digestEntry_mono getHashSizeFromAlgo memory (tcgPcrEvent2 + 12) 0 _
    (Nat.zero_le (memory.readLe (tcgPcrEvent2 + 8) 4))
  have skipped := @skipDigests_eq getHashSizeFromAlgo memory
    (memory.readLe (tcgPcrEvent2 + 8) 4) (tcgPcrEvent2 + 12)
  rw [digestEntry] at forward
  have digests : ∀ range ∈ dumpDigestReads getHashSizeFromAlgo memory
      (memory.readLe (tcgPcrEvent2 + 8) 4) (readAlg memory (tcgPcrEvent2 + 12))
      (tcgPcrEvent2 + 14),
      tcgPcrEvent2 ≤ range.start ∧ range.start + range.length ≤
        tcgPcrEvent2 + getPcrEvent2Size getHashSizeFromAlgo memory tcgPcrEvent2 := by
    intro range member
    have bounds := dumpDigestReads_extent _ (tcgPcrEvent2 + 12) range member
    omega
  intro range member
  simp only [eventReads, dumpEvent2Reads, getPcrEvent2SizeReads, List.mem_append,
    List.mem_cons, List.not_mem_nil, or_false, skipped, Nat.add_sub_cancel] at member
  rcases member with ((((rfl | rfl) | digest) | (rfl | typed)) | (((rfl | rfl) | next) | rfl))
  · exact Or.inl (by dsimp only; omega)
  · exact Or.inl (by dsimp only; omega)
  · exact Or.inl (digests range digest)
  · exact Or.inl (by dsimp only; omega)
  · exact Or.inr typed
  · exact Or.inl (by dsimp only; omega)
  · exact Or.inl (by dsimp only; omega)
  · exact Or.inl (digests range (skipDigestReads_subset _ _ _ next))
  · exact Or.inl (by dsimp only; omega)

/-- One turn of the loop stays in the buffer exactly when the record ends in it and what
the type of its data leads to does too. -/
theorem eventReads_inside_iff {tcgPcrEvent2 buffer bufferSize : Nat}
    (after : buffer ≤ tcgPcrEvent2) :
    ReadsInside (eventReads getHashSizeFromAlgo text memory tcgPcrEvent2) buffer bufferSize ↔
      tcgPcrEvent2 + getPcrEvent2Size getHashSizeFromAlgo memory tcgPcrEvent2 ≤
          buffer + bufferSize ∧
        TypedDataEnds text memory (buffer + bufferSize)
          (eventData (dumpEvent2 getHashSizeFromAlgo memory tcgPcrEvent2).eventType)
          (dumpEvent2 getHashSizeFromAlgo memory tcgPcrEvent2).eventBuffer
          (dumpEvent2 getHashSizeFromAlgo memory tcgPcrEvent2).eventSize := by
  have recordEnd := eventEnd_dumpEvent2 getHashSizeFromAlgo memory tcgPcrEvent2
  have extent := @eventReads_extent getHashSizeFromAlgo text memory tcgPcrEvent2
  have eventBuffer := eventBuffer_dumpEvent2 getHashSizeFromAlgo memory tcgPcrEvent2
  have forward := @digestEntry_mono getHashSizeFromAlgo memory (tcgPcrEvent2 + 12) 0 _
    (Nat.zero_le (memory.readLe (tcgPcrEvent2 + 8) 4))
  rw [digestEntry] at forward
  set dumped := dumpEvent2 getHashSizeFromAlgo memory tcgPcrEvent2 with dumpedEq
  have sizeRead : (⟨dumped.eventBuffer - 4, 4⟩ : Range) ∈
      eventReads getHashSizeFromAlgo text memory tcgPcrEvent2 := by
    simp [eventReads, dumpEvent2Reads, dumpedEq]
  have typedRead : parseEventDataReads text memory dumped.eventType dumped.eventBuffer
      dumped.eventSize ⊆ eventReads getHashSizeFromAlgo text memory tcgPcrEvent2 := by
    intro range member
    simp only [eventReads, dumpEvent2Reads, ← dumpedEq, List.mem_append, List.mem_cons]
    exact Or.inl (Or.inr (Or.inr member))
  constructor
  · intro inside
    have typed := inside.subset typedRead
    have sizeInside := inside.range sizeRead (Nat.succ_pos 3)
    have dataInside := typed.range List.mem_cons_self
    dsimp only at sizeInside dataInside
    have ends : tcgPcrEvent2 + getPcrEvent2Size getHashSizeFromAlgo memory tcgPcrEvent2 ≤
        buffer + bufferSize := by omega
    exact ⟨ends, (parseEventDataReads_inside_iff _ (by omega) (by omega)).mp typed⟩
  · rintro ⟨ends, typedEnds⟩
    have typed := (parseEventDataReads_inside_iff dumped.eventType (by omega) (by omega)).mpr
      typedEnds
    intro range member
    rcases extent range member with bounds | listed
    · intro address afterStart before
      omega
    · exact typed range listed

/-- Where `DumpEvent2` finds the data of a stored event. -/
theorem dumpEvent2_data {event : PcrEvent2} {address : Nat}
    (stored : memory.Holds address event.encode) (known : event.Known getHashSizeFromAlgo) :
    (dumpEvent2 getHashSizeFromAlgo memory address).eventType = event.eventType.toNat ∧
      (dumpEvent2 getHashSizeFromAlgo memory address).eventBuffer =
        address + (12 + digestsLength event.digests + 4) ∧
      (dumpEvent2 getHashSizeFromAlgo memory address).eventSize = event.event.length := by
  obtain ⟨_, kind, _, digests, _, _⟩ := PcrEvent2.parts_stored stored
  have eventEnd := eventEnd_dumpEvent2 getHashSizeFromAlgo memory address
  have eventBuffer := eventBuffer_dumpEvent2 getHashSizeFromAlgo memory address
  have skipped := @skipDigests_eq getHashSizeFromAlgo memory event.digests.length (address + 12)
  rw [skipDigests_stored event.digests (address + 12) digests known] at skipped
  rw [digestCount_stored stored] at eventBuffer
  rw [getPcrEvent2Size_stored stored known, event.length_encode] at eventEnd
  exact ⟨kind.readLe_eq event.eventType.toNat_lt, by omega, by omega⟩

end Extent

/-! ## Any bytes are a record -/

section Decoded

variable (getHashSizeFromAlgo : UInt16 → UInt16) (memory : Memory)

theorem holds_uint32 (address : Nat) :
    memory.Holds address (toBytes 4 (UInt32.ofNat (memory.readLe address 4)).toNat) := by
  have value : (UInt32.ofNat (memory.readLe address 4)).toNat = memory.readLe address 4 :=
    UInt32.toNat_ofNat_of_lt' (memory.readLe_lt address 4)
  rw [value]
  exact memory.holds_readLe address 4

theorem holds_uint16 (address : Nat) :
    memory.Holds address (toBytes 2 (UInt16.ofNat (memory.readLe address 2)).toNat) := by
  have value : (UInt16.ofNat (memory.readLe address 2)).toNat = memory.readLe address 2 :=
    UInt16.toNat_ofNat_of_lt' (memory.readLe_lt address 2)
  rw [value]
  exact memory.holds_readLe address 2

theorem exists_digests (count : Nat) :
    ∀ entry, ∃ digests : List TaggedDigest, digests.length = count ∧
      memory.Holds entry (digests.flatMap TaggedDigest.encode) ∧
      (∀ tagged ∈ digests,
        (getHashSizeFromAlgo tagged.hashAlg).toNat = tagged.digest.length) := by
  induction count with
  | zero =>
      intro entry
      exact ⟨[], rfl, rfl, by simp⟩
  | succ count ih =>
      intro entry
      let tagged : TaggedDigest :=
        { hashAlg := readAlg memory entry
          digest := memory.bytesAt (entry + 2)
            (getHashSizeFromAlgo (readAlg memory entry)).toNat }
      obtain ⟨rest, number, held, sizes⟩ := ih (entry + tagged.encode.length)
      refine ⟨tagged :: rest, by rw [List.length_cons, number], ?_, ?_⟩
      · rw [List.flatMap_cons, Memory.holds_append]
        refine ⟨?_, held⟩
        rw [TaggedDigest.encode, Memory.holds_append, length_toBytes]
        exact ⟨holds_uint16 memory entry, memory.holds_bytesAt _ _⟩
      · intro other member
        rcases List.mem_cons.mp member with rfl | later
        · exact (memory.length_bytesAt _ _).symm
        · exact sizes other later

theorem exists_algorithms (count : Nat) :
    ∀ address, ∃ algorithms : List AlgorithmSize, algorithms.length = count ∧
      memory.Holds address (algorithms.flatMap AlgorithmSize.encode) := by
  induction count with
  | zero =>
      intro address
      exact ⟨[], rfl, rfl⟩
  | succ count ih =>
      intro address
      obtain ⟨rest, number, held⟩ := ih (address + 4)
      refine ⟨{ algorithmId := UInt16.ofNat (memory.readLe address 2)
                digestSize := UInt16.ofNat (memory.readLe (address + 2) 2) } :: rest,
        by rw [List.length_cons, number], ?_⟩
      rw [List.flatMap_cons, Memory.holds_append, AlgorithmSize.length_encode]
      refine ⟨?_, held⟩
      rw [AlgorithmSize.encode, Memory.holds_append, length_toBytes]
      exact ⟨holds_uint16 memory address, holds_uint16 memory (address + 2)⟩

theorem exists_event (address : Nat) :
    ∃ event : PcrEvent2, memory.Holds address event.encode ∧ event.Known getHashSizeFromAlgo := by
  obtain ⟨digests, number, held, sizes⟩ := exists_digests getHashSizeFromAlgo memory
    (memory.readLe (address + 8) 4) (address + 12)
  let event : PcrEvent2 :=
    { pcrIndex := UInt32.ofNat (memory.readLe address 4)
      eventType := UInt32.ofNat (memory.readLe (address + 4) 4)
      digests := digests
      event := memory.bytesAt (address + 12 + digestsLength digests + 4)
        (memory.readLe (address + 12 + digestsLength digests) 4)
      digests_length := number ▸ memory.readLe_lt (address + 8) 4
      event_length := by
        rw [Memory.length_bytesAt]
        exact memory.readLe_lt _ 4 }
  refine ⟨event, ?_, sizes⟩
  simp only [PcrEvent2.encode, Memory.holds_append, List.length_append, length_toBytes,
    length_flatMap_encode]
  refine ⟨⟨⟨⟨⟨holds_uint32 memory address, holds_uint32 memory (address + 4)⟩, ?_⟩, held⟩, ?_⟩, ?_⟩
  · show memory.Holds (address + 8) (toBytes 4 digests.length)
    rw [number]
    exact memory.holds_readLe _ 4
  · show memory.Holds (address + (12 + digestsLength digests)) (toBytes 4 event.event.length)
    rw [show event.event.length = memory.readLe (address + 12 + digestsLength digests) 4 from
      memory.length_bytesAt _ _, ← Nat.add_assoc]
    exact memory.holds_readLe _ 4
  · show memory.Holds (address + (12 + digestsLength digests + 4)) event.event
    rw [← Nat.add_assoc, ← Nat.add_assoc]
    exact memory.holds_bytesAt _ _

end Decoded

/-! ## The loop over the file -/

section Walk

variable {getHashSizeFromAlgo : UInt16 → UInt16} {text : TextReads} {memory : Memory}

/-- A loop that reads nothing outside the buffer has walked complete events up to
the end of the buffer. -/
theorem events_of_inside {buffer bufferSize : Nat} (nonempty : 0 < bufferSize) (fuel : Nat) :
    ∀ position reads result,
      whileLoop (fun current => decide (current ≤ buffer + bufferSize - 1))
          (fun current => current + getPcrEvent2Size getHashSizeFromAlgo memory current)
          (readEvent getHashSizeFromAlgo text memory) fuel position reads = some result →
        ReadsInside result.1 buffer bufferSize → buffer ≤ position →
          position ≤ buffer + bufferSize →
          ∃ events : List PcrEvent2, memory.Holds position (events.flatMap PcrEvent2.encode) ∧
            (∀ event ∈ events, event.Known getHashSizeFromAlgo) ∧
            (∀ entry ∈ placed (fun event => (PcrEvent2.encode event).length) position events,
              entry.2.TypedDataEnds text memory (buffer + bufferSize) entry.1) ∧
            position + total (fun event => (PcrEvent2.encode event).length) events =
              buffer + bufferSize := by
  have stopped : ∀ position, ¬ position ≤ buffer + bufferSize - 1 →
      position ≤ buffer + bufferSize →
        ∃ events : List PcrEvent2, memory.Holds position (events.flatMap PcrEvent2.encode) ∧
          (∀ event ∈ events, event.Known getHashSizeFromAlgo) ∧
          (∀ entry ∈ placed (fun event => (PcrEvent2.encode event).length) position events,
            entry.2.TypedDataEnds text memory (buffer + bufferSize) entry.1) ∧
          position + total (fun event => (PcrEvent2.encode event).length) events =
            buffer + bufferSize := by
    intro position past within
    refine ⟨[], rfl, by simp, by simp [placed], ?_⟩
    rw [total_nil]
    omega
  induction fuel with
  | zero =>
      intro position reads result run inside _ within
      rw [whileLoop] at run
      split at run
      · cases run
      · next past => exact stopped position (by simpa using past) within
  | succ fuel ih =>
      intro position reads result run inside after within
      rw [whileLoop] at run
      split at run
      · next running =>
          have kept : readEvent getHashSizeFromAlgo text memory reads position ⊆ result.1 :=
            whileLoop_invariant _ _ _
              (fun state current part => List.Subset.trans part (List.subset_append_left _ _))
              fuel _ _ result run (List.Subset.refl _)
          have here : ReadsInside (eventReads getHashSizeFromAlgo text memory position) buffer
              bufferSize :=
            inside.subset (List.Subset.trans (List.subset_append_right _ _) kept)
          obtain ⟨ends, typed⟩ := (eventReads_inside_iff after).mp here
          obtain ⟨event, held, known⟩ := exists_event getHashSizeFromAlgo memory position
          obtain ⟨kind, data, length⟩ := dumpEvent2_data held known
          have size := getPcrEvent2Size_stored held known
          obtain ⟨rest, restHeld, restKnown, restTyped, finish⟩ :=
            ih _ _ result run inside (by omega) ends
          rw [size] at restHeld restTyped finish
          rw [kind, data, length] at typed
          refine ⟨event :: rest, ?_, ?_, ?_, ?_⟩
          · rw [List.flatMap_cons, Memory.holds_append]
            exact ⟨held, restHeld⟩
          · exact List.forall_mem_cons.mpr ⟨known, restKnown⟩
          · exact List.forall_mem_cons.mpr ⟨typed, restTyped⟩
          · rw [total_cons, ← Nat.add_assoc]
            exact finish
      · next past => exact stopped position (by simpa using past) within

theorem mem_foldl_readEvent (positions : List Nat) :
    ∀ reads range, range ∈ positions.foldl (readEvent getHashSizeFromAlgo text memory) reads →
      range ∈ reads ∨
        ∃ position ∈ positions, range ∈ eventReads getHashSizeFromAlgo text memory position := by
  induction positions with
  | nil =>
      intro reads range member
      exact Or.inl member
  | cons position rest ih =>
      intro reads range member
      rcases ih _ range member with first | ⟨other, listed, read⟩
      · rcases List.mem_append.mp first with before | here
        · exact Or.inl before
        · exact Or.inr ⟨position, List.mem_cons_self, here⟩
      · exact Or.inr ⟨other, List.mem_cons_of_mem _ listed, read⟩

end Walk

/-! ## The file -/

section File

variable {text : TextReads} {memory : Memory} {buffer : Nat}

theorem LogFile.length_encode (file : LogFile) :
    file.encode.length =
      file.eventsOffset + total (fun event => (PcrEvent2.encode event).length) file.events := by
  have algorithms := length_flatMap_algorithms file.algorithms
  simp only [LogFile.encode, List.length_append, length_toBytes, algorithms,
    length_flatMap_encode PcrEvent2.encode, file.header_length, file.fixedFields_length,
    LogFile.eventsOffset, sizeofTcgEfiSpecIdEventStruct]

theorem LogFile.holds_iff (file : LogFile) :
    memory.Holds buffer file.encode ↔
      memory.Holds buffer file.header ∧
      memory.Holds (buffer + 28) (toBytes 4 file.eventSize.toNat) ∧
      memory.Holds (buffer + 32) file.fixedFields ∧
      memory.Holds (buffer + 56) (toBytes 4 file.algorithms.length) ∧
      memory.Holds (buffer + 60) (file.algorithms.flatMap AlgorithmSize.encode) ∧
      memory.Holds (buffer + 60 + file.algorithms.length * 4)
        (toBytes 1 file.vendorInfo.length) ∧
      memory.Holds (buffer + 60 + file.algorithms.length * 4 + 1) file.vendorInfo ∧
      memory.Holds (buffer + file.eventsOffset) (file.events.flatMap PcrEvent2.encode) := by
  simp only [LogFile.encode, Memory.holds_append, List.length_append, length_toBytes,
    length_flatMap_algorithms, file.header_length, file.fixedFields_length,
    LogFile.eventsOffset, sizeofTcgEfiSpecIdEventStruct, Nat.add_assoc, Nat.reduceAdd, and_assoc]

theorem LogFile.counts_stored {file : LogFile} (stored : memory.Holds buffer file.encode) :
    memory.readLe (buffer + 28) 4 = file.eventSize.toNat ∧
      memory.readLe (buffer + 56) 4 = file.algorithms.length ∧
      memory.readLe (buffer + 60 + file.algorithms.length * 4) 1 = file.vendorInfo.length := by
  obtain ⟨_, eventSize, _, count, _, vendorSize, _, _⟩ := file.holds_iff.mp stored
  refine ⟨?_, ?_, ?_⟩
  · exact eventSize.readLe_eq file.eventSize.toNat_lt
  · exact count.readLe_eq file.algorithms_length
  · exact vendorSize.readLe_eq file.vendorInfo_length

theorem headerReads_eq (text : TextReads) (memory : Memory) (buffer : Nat) :
    headerReads text memory buffer =
      ⟨buffer, 32⟩ :: parseEventDataReads text memory (memory.readLe (buffer + 4) 4)
          (buffer + 32) (memory.readLe (buffer + 28) 4) ++
        [⟨buffer + 32, 24⟩, ⟨buffer + 56, 4⟩,
          ⟨buffer + 60, memory.readLe (buffer + 56) 4 * 4⟩,
          ⟨buffer + 60 + memory.readLe (buffer + 56) 4 * 4, 1⟩,
          ⟨buffer + 60 + memory.readLe (buffer + 56) 4 * 4 + 1,
            memory.readLe (buffer + 60 + memory.readLe (buffer + 56) 4 * 4) 1⟩] ++
        [⟨buffer + 56, 4⟩, ⟨buffer + 60 + memory.readLe (buffer + 56) 4 * 4, 1⟩] := rfl

theorem firstEvent_offset (memory : Memory) (buffer : Nat) :
    buffer + sizeofTcgPcrEventHdr +
        getTcgEfiSpecIdEventStructSize memory (buffer + sizeofTcgPcrEventHdr) =
      buffer + 60 + memory.readLe (buffer + 56) 4 * 4 + 1 +
        memory.readLe (buffer + 60 + memory.readLe (buffer + 56) 4 * 4) 1 := by
  simp only [getTcgEfiSpecIdEventStructSize, sizeofTcgPcrEventHdr,
    sizeofTcgEfiSpecIdEventStruct, Nat.add_assoc, Nat.reduceAdd]
  omega

/-- Before the loop, the data of the first event, what their type leads to and the
Spec-ID structure must end in the buffer. -/
theorem headerReads_inside_iff (text : TextReads) (memory : Memory) (buffer bufferSize : Nat) :
    ReadsInside (headerReads text memory buffer) buffer bufferSize ↔
      32 + memory.readLe (buffer + 28) 4 ≤ bufferSize ∧
      TypedDataEnds text memory (buffer + bufferSize)
        (eventData (memory.readLe (buffer + 4) 4)) (buffer + 32)
        (memory.readLe (buffer + 28) 4) ∧
      60 + memory.readLe (buffer + 56) 4 * 4 + 1 +
        memory.readLe (buffer + 60 + memory.readLe (buffer + 56) 4 * 4) 1 ≤ bufferSize := by
  rw [headerReads_eq, readsInside_append, readsInside_append, readsInside_cons]
  simp only [readsInside_cons, readsInside_nil, and_true]
  constructor
  · rintro ⟨⟨⟨fixed, typed⟩, specId⟩, _⟩
    have data := typed.range List.mem_cons_self
    dsimp only at data fixed
    exact ⟨by omega,
      (parseEventDataReads_inside_iff _ (Nat.le_add_right _ _) (by omega)).mp typed, by omega⟩
  · rintro ⟨data, typedEnds, specIdEnd⟩
    have typed := (parseEventDataReads_inside_iff _ (Nat.le_add_right _ _) (by omega)).mpr
      typedEnds
    exact ⟨⟨⟨by omega, typed⟩, by omega⟩, by omega⟩

theorem completeLog_of_inside {getHashSizeFromAlgo : UInt16 → UInt16} {content : List UInt8}
    (loaded : memory.Holds buffer content) {reads : List Range} {stop : Nat}
    (run : forEachEvent2 getHashSizeFromAlgo memory (readEvent getHashSizeFromAlgo text memory)
      buffer (buffer + content.length - 1) (headerReads text memory buffer) =
        some (reads, stop))
    (inside : ReadsInside reads buffer content.length) :
    ∃ file, CompleteLog getHashSizeFromAlgo text memory buffer content file := by
  have kept : headerReads text memory buffer ⊆ reads :=
    whileLoop_invariant _ _ _
      (fun state current part => List.Subset.trans part (List.subset_append_left _ _))
      _ _ _ (reads, stop) run (List.Subset.refl _)
  obtain ⟨dataEnd, headerTyped, specIdEnd⟩ :=
    (headerReads_inside_iff text memory buffer _).mp (inside.subset kept)
  simp only [forEachEvent2, firstEvent_offset] at run
  obtain ⟨events, eventsHeld, known, eventsTyped, finish⟩ :=
    events_of_inside (by omega) _ _ _ _ run inside (by omega) (by omega)
  obtain ⟨algorithms, number, algorithmsHeld⟩ :=
    exists_algorithms memory (memory.readLe (buffer + 56) 4) (buffer + 60)
  let file : LogFile :=
    { header := memory.bytesAt buffer 28
      eventSize := UInt32.ofNat (memory.readLe (buffer + 28) 4)
      fixedFields := memory.bytesAt (buffer + 32) sizeofTcgEfiSpecIdEventStruct
      algorithms := algorithms
      vendorInfo := memory.bytesAt (buffer + 60 + algorithms.length * 4 + 1)
        (memory.readLe (buffer + 60 + algorithms.length * 4) 1)
      events := events
      header_length := memory.length_bytesAt _ _
      fixedFields_length := memory.length_bytesAt _ _
      algorithms_length := number ▸ memory.readLe_lt (buffer + 56) 4
      vendorInfo_length := by
        rw [Memory.length_bytesAt]
        exact memory.readLe_lt _ 1 }
  have vendorLength : file.vendorInfo.length =
      memory.readLe (buffer + 60 + algorithms.length * 4) 1 := memory.length_bytesAt _ _
  have offset : file.eventsOffset = 60 + memory.readLe (buffer + 56) 4 * 4 + 1 +
      memory.readLe (buffer + 60 + memory.readLe (buffer + 56) 4 * 4) 1 := by
    rw [LogFile.eventsOffset, vendorLength, show file.algorithms.length = _ from number]
  have stored : memory.Holds buffer file.encode := by
    rw [file.holds_iff]
    refine ⟨memory.holds_bytesAt _ _, holds_uint32 memory _, memory.holds_bytesAt _ _, ?_,
      algorithmsHeld, ?_, memory.holds_bytesAt _ _, ?_⟩
    · rw [show file.algorithms.length = _ from number]
      exact memory.holds_readLe _ 4
    · rw [vendorLength]
      exact memory.holds_readLe _ 1
    · rw [offset, ← Nat.add_assoc, ← Nat.add_assoc, ← Nat.add_assoc]
      exact eventsHeld
  have sameLength : content.length = file.encode.length := by
    rw [file.length_encode, offset]
    show content.length = _ + total _ events
    omega
  have eventSize : file.eventSize.toNat = memory.readLe (buffer + 28) 4 :=
    UInt32.toNat_ofNat_of_lt' (memory.readLe_lt _ 4)
  refine ⟨file, ?_, known, ?_, ?_, ?_⟩
  · rw [← loaded, sameLength]
    exact stored
  · rw [eventSize]
    exact dataEnd
  · rw [eventSize]
    exact headerTyped
  · rw [offset, ← Nat.add_assoc, ← Nat.add_assoc, ← Nat.add_assoc]
    exact eventsTyped

theorem inside_of_completeLog {getHashSizeFromAlgo : UInt16 → UInt16} {content : List UInt8}
    (loaded : memory.Holds buffer content) {reads : List Range} {stop : Nat}
    (run : forEachEvent2 getHashSizeFromAlgo memory (readEvent getHashSizeFromAlgo text memory)
      buffer (buffer + content.length - 1) (headerReads text memory buffer) =
        some (reads, stop)) {file : LogFile}
    (complete : CompleteLog getHashSizeFromAlgo text memory buffer content file) :
    ReadsInside reads buffer content.length := by
  obtain ⟨rfl, known, dataEnd, headerTyped, eventsTyped⟩ := complete
  obtain ⟨eventSize, count, vendorSize⟩ := LogFile.counts_stored loaded
  have eventsHeld := (file.holds_iff.mp loaded).2.2.2.2.2.2.2
  have length := file.length_encode
  have few := length_le_total (fun event => (PcrEvent2.encode event).length) file.events
    fun event _ => event.length_encode_pos
  have first : buffer + 60 + memory.readLe (buffer + 56) 4 * 4 + 1 +
      memory.readLe (buffer + 60 + memory.readLe (buffer + 56) 4 * 4) 1 =
        buffer + file.eventsOffset := by
    rw [count, vendorSize, LogFile.eventsOffset]
    omega
  have offset : 0 < file.eventsOffset := by
    rw [LogFile.eventsOffset]
    omega
  simp only [forEachEvent2, firstEvent_offset, first] at run
  rw [whileLoop_records _ _ _ (fun event => (PcrEvent2.encode event).length) file.events] at run
  · obtain ⟨rfl, rfl⟩ := Prod.mk.inj (Option.some.inj run)
    have header : ReadsInside (headerReads text memory buffer) buffer file.encode.length := by
      apply (headerReads_inside_iff text memory buffer _).mpr
      rw [eventSize]
      exact ⟨dataEnd, headerTyped, by omega⟩
    intro range member address after before
    rcases mem_foldl_readEvent _ _ range member with early | ⟨position, started, read⟩
    · exact header range early address after before
    · obtain ⟨⟨start, event⟩, placedEvent, rfl⟩ := List.mem_map.mp started
      have held := holds_of_mem_placed eventsHeld placedEvent
      have eventKnown := known event (mem_of_mem_placed placedEvent)
      have size := getPcrEvent2Size_stored held eventKnown
      obtain ⟨kind, data, dataLength⟩ := dumpEvent2_data held eventKnown
      have within := placed_bounds placedEvent
      have typed := eventsTyped _ placedEvent
      dsimp only at within held size kind data dataLength typed
      refine (eventReads_inside_iff (by omega)).mpr ⟨?_, ?_⟩ range read address after before
      · dsimp only
        omega
      · rw [kind, data, dataLength]
        exact typed
  · intro entry member
    have held := holds_of_mem_placed eventsHeld member
    have within := placed_bounds member
    have positive := entry.2.length_encode_pos
    refine ⟨?_, ?_⟩
    · apply decide_eq_true
      omega
    · rw [getPcrEvent2Size_stored held (known entry.2 (mem_of_mem_placed member))]
  · apply decide_eq_false
    omega
  · omega

end File

/-- The walk ends on every file, and the bytes that it reads (headers, Spec-ID
structure, digests, sizes and data, as hex and by type) are the file's own exactly when
the file is one complete log whose data end in it. -/
theorem parseReads_inside_iff (getHashSizeFromAlgo : UInt16 → UInt16) (text : TextReads)
    {memory : Memory} {buffer : Nat} {content : List UInt8}
    (loaded : memory.Holds buffer content) :
    ∃ reads, parseReads getHashSizeFromAlgo text memory buffer content.length = some reads ∧
      (ReadsInside reads buffer content.length ↔
        ∃ file, CompleteLog getHashSizeFromAlgo text memory buffer content file) := by
  obtain ⟨⟨reads, stop⟩, run⟩ := forEachEvent2_terminates getHashSizeFromAlgo memory
    (readEvent getHashSizeFromAlgo text memory) buffer (buffer + content.length - 1)
    (headerReads text memory buffer)
  refine ⟨reads, by rw [parseReads, run, Option.map_some], ?_⟩
  constructor
  · intro inside
    exact completeLog_of_inside loaded run inside
  · rintro ⟨file, complete⟩
    exact inside_of_completeLog loaded run complete

/-! ## Two files -/

/-- The UEFI_VARIABLE_DATA of a variable named B with two bytes of data. -/
def bootVariableData : List UInt8 :=
  List.replicate 16 0x11 ++ toBytes 8 1 ++ toBytes 8 2 ++ [0x42, 0, 0xAA, 0xBB]

/-- An EFI_IMAGE_LOAD_EVENT whose device path is an end node. -/
def imageLoadData : List UInt8 := List.replicate 32 0 ++ [0x7F, 0xFF, 4, 0]

/-- A log without algorithms, with a separator, a boot variable and a loaded image. -/
def shortFile : LogFile where
  header := [0, 0, 0, 0, 3, 0, 0, 0] ++ List.replicate 20 0
  eventSize := 29
  fixedFields := List.replicate 24 0
  algorithms := []
  vendorInfo := []
  events :=
    [{ pcrIndex := 0, eventType := 4, digests := [], event := [0, 0, 0, 0]
       digests_length := by decide, event_length := by decide },
      { pcrIndex := 1, eventType := 0x80000002, digests := [], event := bootVariableData
        digests_length := by decide, event_length := by decide },
      { pcrIndex := 2, eventType := 0x80000003, digests := [], event := imageLoadData
        digests_length := by decide, event_length := by decide }]
  header_length := rfl
  fixedFields_length := rfl
  algorithms_length := by decide
  vendorInfo_length := by decide

/-- `ConvertDevicePathToText` reads the four bytes of an end node; no string is printed. -/
def endNodeText : TextReads where
  asciiString _ := 0
  devicePath _ := 4

theorem parseReads_inside_iff_shortFile :
    ∃ reads,
      parseReads (fun _ => 0) endNodeText (Memory.ofBytesAt 0x1000 shortFile.encode) 0x1000
        shortFile.encode.length = some reads ∧
      ReadsInside reads 0x1000 shortFile.encode.length := by
  obtain ⟨reads, run, inside⟩ := parseReads_inside_iff (fun _ => 0) endNodeText
    (Memory.holds_ofBytesAt 0x1000 shortFile.encode)
  refine ⟨reads, run, inside.mpr ⟨shortFile, rfl, ?_, by decide +kernel, by decide +kernel,
    by decide +kernel⟩⟩
  intro event member entry digest
  simp only [shortFile, List.mem_cons, List.not_mem_nil, or_false] at member
  rcases member with rfl | rfl | rfl <;> cases digest

/-- The log cut off behind the EventSize of its first event, which says 0x100. -/
def cutFile : List UInt8 :=
  shortFile.encode.take 73 ++ toBytes 4 0x100

/-- The data of the cut event are read behind the end of the file. -/
theorem parseReads_cutFile :
    ∃ reads,
      parseReads (fun _ => 0) endNodeText (Memory.ofBytesAt 0x1000 cutFile) 0x1000
        cutFile.length = some reads ∧
      cutFile.length = 77 ∧ ⟨0x104D, 0x100⟩ ∈ reads ∧
      ¬ ReadsInside reads 0x1000 cutFile.length := by
  refine ⟨_, rfl, rfl, by decide, ?_⟩
  intro inside
  have beyond := inside ⟨0x104D, 0x100⟩ (by decide) 0x104D (by decide) (by decide)
  exact absurd beyond.2 (by decide)

end AppEfi.Tcg2
