import AppEfi.Tcg2.EventSize

/-!
# One layout for three loops

`DumpEvent2` of Tcg2DumpLog.c beside `GetPcrEvent2Size` and
`GetDigestFromPcrEvent2`.  Each of them threads a pointer through the digests of
a record; the record may be any memory.
-/

set_option autoImplicit false

namespace AppEfi.Tcg2

open AppEfi.LittleEndian
open AppEfi.RecordWalk

section Layout

variable (getHashSizeFromAlgo : UInt16 → UInt16) (memory : Memory)

/-- The lines of `DumpEvent2`, up to the call of `ParseEventData`. -/
structure DumpedEvent2 where
  pcrIndex : Nat
  eventType : Nat
  digestCount : Nat
  digests : List (UInt16 × List UInt8)
  eventSize : Nat
  eventBuffer : Nat

/-- The digest loop of `DumpEvent2`: what it prints and its last DigestBuffer. -/
def dumpDigests : Nat → UInt16 → Nat → List (UInt16 × List UInt8) × Nat
  | 0, _, digestBuffer => ([], digestBuffer)
  | count + 1, hashAlgo, digestBuffer =>
      let digestSize := (getHashSizeFromAlgo hashAlgo).toNat
      let digest := memory.bytesAt digestBuffer digestSize
      let (rest, last) := dumpDigests count (readAlg memory (digestBuffer + digestSize))
        (digestBuffer + digestSize + 2)
      ((hashAlgo, digest) :: rest, last)

def dumpEvent2 (tcgPcrEvent2 : Nat) : DumpedEvent2 :=
  let digestCount := memory.readLe (tcgPcrEvent2 + 8) 4
  let hashAlgo := readAlg memory (tcgPcrEvent2 + 12)
  let (digests, last) :=
    dumpDigests getHashSizeFromAlgo memory digestCount hashAlgo (tcgPcrEvent2 + 14)
  let digestBuffer := last - 2
  { pcrIndex := memory.readLe tcgPcrEvent2 4
    eventType := memory.readLe (tcgPcrEvent2 + 4) 4
    digestCount := digestCount
    digests := digests
    eventSize := memory.readLe digestBuffer 4
    eventBuffer := digestBuffer + 4 }

/-! ## The layout -/

/-- The address of the digest entry with this index, counted from the entry at
`first`; every entry is an algorithm and a digest of that algorithm's size. -/
def digestEntry (first : Nat) : Nat → Nat
  | 0 => first
  | index + 1 =>
      let entry := digestEntry first index
      entry + 2 + (getHashSizeFromAlgo (readAlg memory entry)).toNat

def digestAt (entry : Nat) : UInt16 × List UInt8 :=
  (readAlg memory entry,
    memory.bytesAt (entry + 2) (getHashSizeFromAlgo (readAlg memory entry)).toNat)

/-- What the three functions say about the record at an address: they agree on
where its digests and its event data are. -/
structure AgreeOnLayout (tcgPcrEvent2 : Nat) (dumped : DumpedEvent2) : Prop where
  digests : dumped.digests = (List.range dumped.digestCount).map fun index =>
    digestAt getHashSizeFromAlgo memory
      (digestEntry getHashSizeFromAlgo memory (tcgPcrEvent2 + 12) index)
  event : dumped.eventBuffer =
    digestEntry getHashSizeFromAlgo memory (tcgPcrEvent2 + 12) dumped.digestCount + 4
  size : dumped.eventBuffer + dumped.eventSize =
    tcgPcrEvent2 + getPcrEvent2Size getHashSizeFromAlgo memory tcgPcrEvent2
  first : ∀ hashAlg pointer,
    getDigestFromPcrEvent2 getHashSizeFromAlgo memory tcgPcrEvent2 hashAlg = some pointer →
      ∃ index < dumped.digestCount,
        pointer = digestEntry getHashSizeFromAlgo memory (tcgPcrEvent2 + 12) index + 2 ∧
        readAlg memory (digestEntry getHashSizeFromAlgo memory (tcgPcrEvent2 + 12) index) =
          hashAlg ∧
        ∀ earlier < index,
          readAlg memory (digestEntry getHashSizeFromAlgo memory (tcgPcrEvent2 + 12) earlier) ≠
            hashAlg
  before : ∀ hashAlg pointer,
    getDigestFromPcrEvent2 getHashSizeFromAlgo memory tcgPcrEvent2 hashAlg = some pointer →
      pointer + (getHashSizeFromAlgo hashAlg).toNat + 4 ≤ dumped.eventBuffer
  absent : ∀ hashAlg,
    getDigestFromPcrEvent2 getHashSizeFromAlgo memory tcgPcrEvent2 hashAlg = none ↔
      ∀ index < dumped.digestCount,
        readAlg memory (digestEntry getHashSizeFromAlgo memory (tcgPcrEvent2 + 12) index) ≠
          hashAlg

end Layout

section Loops

variable {getHashSizeFromAlgo : UInt16 → UInt16} {memory : Memory}

theorem digestEntry_succ (first index : Nat) :
    digestEntry getHashSizeFromAlgo memory first (index + 1) =
      digestEntry getHashSizeFromAlgo memory
        (first + 2 + (getHashSizeFromAlgo (readAlg memory first)).toNat) index := by
  induction index with
  | zero => rfl
  | succ index ih =>
      rw [digestEntry, ih]
      rfl

theorem digestEntry_mono (first : Nat) {index other : Nat} (ordered : index ≤ other) :
    digestEntry getHashSizeFromAlgo memory first index ≤
      digestEntry getHashSizeFromAlgo memory first other := by
  induction ordered with
  | refl => exact Nat.le_refl _
  | step _ ih =>
      apply Nat.le_trans ih
      simp only [digestEntry]
      omega

theorem dumpDigests_eq (count : Nat) :
    ∀ entry,
      dumpDigests getHashSizeFromAlgo memory count (readAlg memory entry) (entry + 2) =
        ((List.range count).map fun index =>
            digestAt getHashSizeFromAlgo memory
              (digestEntry getHashSizeFromAlgo memory entry index),
          digestEntry getHashSizeFromAlgo memory entry count + 2) := by
  induction count with
  | zero =>
      intro entry
      rfl
  | succ count ih =>
      intro entry
      have later : ∀ index,
          digestAt getHashSizeFromAlgo memory
              (digestEntry getHashSizeFromAlgo memory entry (index + 1)) =
            digestAt getHashSizeFromAlgo memory
              (digestEntry getHashSizeFromAlgo memory
                (entry + 2 + (getHashSizeFromAlgo (readAlg memory entry)).toNat) index) := by
        intro index
        rw [digestEntry_succ]
      rw [dumpDigests, ih, List.range_succ_eq_map, List.map_cons, List.map_map,
        digestEntry_succ]
      simp only [Function.comp_def, Nat.succ_eq_add_one, later]
      rfl

theorem skipDigests_eq (count : Nat) :
    ∀ entry,
      skipDigests getHashSizeFromAlgo memory count (readAlg memory entry) (entry + 2) =
        digestEntry getHashSizeFromAlgo memory entry count + 2 := by
  induction count with
  | zero =>
      intro entry
      rfl
  | succ count ih =>
      intro entry
      rw [skipDigests, ih, digestEntry_succ]

theorem findDigest_eq_some (hashAlg : UInt16) (count : Nat) :
    ∀ entry pointer,
      findDigest getHashSizeFromAlgo memory hashAlg count (readAlg memory entry) (entry + 2) =
          some pointer →
        ∃ index < count,
          pointer = digestEntry getHashSizeFromAlgo memory entry index + 2 ∧
          readAlg memory (digestEntry getHashSizeFromAlgo memory entry index) = hashAlg ∧
          ∀ earlier < index,
            readAlg memory (digestEntry getHashSizeFromAlgo memory entry earlier) ≠ hashAlg := by
  induction count with
  | zero =>
      intro entry pointer found
      cases found
  | succ count ih =>
      intro entry pointer found
      rw [findDigest] at found
      by_cases here : hashAlg = readAlg memory entry
      · rw [if_pos here] at found
        refine ⟨0, Nat.succ_pos _, (Option.some.inj found).symm, here.symm, ?_⟩
        intro earlier impossible
        exact absurd impossible (Nat.not_lt_zero _)
      · rw [if_neg here] at found
        obtain ⟨index, bound, address, alg, others⟩ := ih _ _ found
        refine ⟨index + 1, Nat.succ_lt_succ bound, ?_, ?_, ?_⟩
        · rw [digestEntry_succ]
          exact address
        · rw [digestEntry_succ]
          exact alg
        · intro earlier small
          cases earlier with
          | zero => exact Ne.symm here
          | succ earlier =>
              rw [digestEntry_succ]
              exact others earlier (Nat.lt_of_succ_lt_succ small)

theorem findDigest_eq_none_iff (hashAlg : UInt16) (count : Nat) :
    ∀ entry,
      findDigest getHashSizeFromAlgo memory hashAlg count (readAlg memory entry) (entry + 2) =
          none ↔
        ∀ index < count,
          readAlg memory (digestEntry getHashSizeFromAlgo memory entry index) ≠ hashAlg := by
  induction count with
  | zero =>
      intro entry
      simp [findDigest]
  | succ count ih =>
      intro entry
      rw [findDigest]
      by_cases here : hashAlg = readAlg memory entry
      · rw [if_pos here]
        constructor
        · intro found
          cases found
        · intro others
          exact absurd here.symm (others 0 (Nat.succ_pos _))
      · rw [if_neg here, ih]
        constructor
        · intro others index bound
          cases index with
          | zero => exact Ne.symm here
          | succ index =>
              rw [digestEntry_succ]
              exact others index (Nat.lt_of_succ_lt_succ bound)
        · intro others index bound
          have next := others (index + 1) (Nat.succ_lt_succ bound)
          rwa [digestEntry_succ] at next

end Loops

/-- On a record that holds an event with digests of the sizes that
`GetHashSizeFromAlgo` returns, the entries are the event's. -/
theorem digestEntry_stored {getHashSizeFromAlgo : UInt16 → UInt16} {memory : Memory}
    (digests : List TaggedDigest) :
    ∀ first, memory.Holds first (digests.flatMap TaggedDigest.encode) →
      (∀ entry ∈ digests, (getHashSizeFromAlgo entry.hashAlg).toNat = entry.digest.length) →
        ∀ index (bound : index < digests.length),
          memory.Holds (digestEntry getHashSizeFromAlgo memory first index)
            digests[index].encode := by
  induction digests with
  | nil =>
      intro first _ _ index bound
      exact absurd bound (Nat.not_lt_zero _)
  | cons entry rest ih =>
      intro first held sizes index bound
      rw [List.flatMap_cons, Memory.holds_append, TaggedDigest.length_encode] at held
      cases index with
      | zero => exact held.1
      | succ index =>
          have head := held.1
          rw [TaggedDigest.encode, Memory.holds_append] at head
          have size := sizes entry List.mem_cons_self
          rw [digestEntry_succ, readAlg_of_holds head.1, size, Nat.add_assoc]
          exact ih _ held.2 (fun other member => sizes other (List.mem_cons_of_mem _ member))
            index (Nat.lt_of_succ_lt_succ bound)

theorem eventBuffer_dumpEvent2 (getHashSizeFromAlgo : UInt16 → UInt16) (memory : Memory)
    (tcgPcrEvent2 : Nat) :
    (dumpEvent2 getHashSizeFromAlgo memory tcgPcrEvent2).eventBuffer =
      digestEntry getHashSizeFromAlgo memory (tcgPcrEvent2 + 12)
        (memory.readLe (tcgPcrEvent2 + 8) 4) + 4 := by
  have dumped := @dumpDigests_eq getHashSizeFromAlgo memory
    (memory.readLe (tcgPcrEvent2 + 8) 4) (tcgPcrEvent2 + 12)
  simp only [dumpEvent2, dumped, Nat.add_sub_cancel]

theorem eventEnd_dumpEvent2 (getHashSizeFromAlgo : UInt16 → UInt16) (memory : Memory)
    (tcgPcrEvent2 : Nat) :
    (dumpEvent2 getHashSizeFromAlgo memory tcgPcrEvent2).eventBuffer +
        (dumpEvent2 getHashSizeFromAlgo memory tcgPcrEvent2).eventSize =
      tcgPcrEvent2 + getPcrEvent2Size getHashSizeFromAlgo memory tcgPcrEvent2 := by
  have dumped := @dumpDigests_eq getHashSizeFromAlgo memory
    (memory.readLe (tcgPcrEvent2 + 8) 4) (tcgPcrEvent2 + 12)
  have skipped := @skipDigests_eq getHashSizeFromAlgo memory
    (memory.readLe (tcgPcrEvent2 + 8) 4) (tcgPcrEvent2 + 12)
  have forward := @digestEntry_mono getHashSizeFromAlgo memory (tcgPcrEvent2 + 12) 0 _
    (Nat.zero_le (memory.readLe (tcgPcrEvent2 + 8) 4))
  rw [digestEntry] at forward
  simp only [getPcrEvent2Size, dumpEvent2, dumped, skipped, Nat.add_sub_cancel]
  omega

/-- The three functions agree on every record, whatever its counts, sizes and
algorithms are, and on a stored event they agree with its digests. -/
theorem dumpEvent2_agreesOnLayout (getHashSizeFromAlgo : UInt16 → UInt16) (memory : Memory)
    (tcgPcrEvent2 : Nat) :
    AgreeOnLayout getHashSizeFromAlgo memory tcgPcrEvent2
        (dumpEvent2 getHashSizeFromAlgo memory tcgPcrEvent2) ∧
      ∀ event : PcrEvent2, memory.Holds tcgPcrEvent2 event.encode →
        event.Known getHashSizeFromAlgo →
          (dumpEvent2 getHashSizeFromAlgo memory tcgPcrEvent2).digestCount =
              event.digests.length ∧
            ∀ index (bound : index < event.digests.length),
              memory.Holds
                (digestEntry getHashSizeFromAlgo memory (tcgPcrEvent2 + 12) index)
                event.digests[index].encode := by
  have count : (dumpEvent2 getHashSizeFromAlgo memory tcgPcrEvent2).digestCount =
      memory.readLe (tcgPcrEvent2 + 8) 4 := rfl
  have dumped := @dumpDigests_eq getHashSizeFromAlgo memory
    (memory.readLe (tcgPcrEvent2 + 8) 4) (tcgPcrEvent2 + 12)
  have eventBuffer := eventBuffer_dumpEvent2 getHashSizeFromAlgo memory tcgPcrEvent2
  refine ⟨⟨?_, ?_, ?_, ?_, ?_, ?_⟩, ?_⟩
  · rw [count]
    simp only [dumpEvent2, dumped]
  · rw [count, eventBuffer]
  · exact eventEnd_dumpEvent2 getHashSizeFromAlgo memory tcgPcrEvent2
  · intro hashAlg pointer found
    exact findDigest_eq_some hashAlg _ _ pointer found
  · intro hashAlg pointer found
    obtain ⟨index, bound, address, alg, _⟩ := findDigest_eq_some hashAlg _ _ pointer found
    have next := @digestEntry_mono getHashSizeFromAlgo memory (tcgPcrEvent2 + 12) _ _
      (Nat.succ_le_of_lt bound)
    rw [digestEntry, alg, ← address] at next
    rw [eventBuffer]
    exact Nat.add_le_add_right next 4
  · intro hashAlg
    exact findDigest_eq_none_iff hashAlg _ _
  · intro event stored known
    obtain ⟨_, _, _, digests, _, _⟩ := PcrEvent2.parts_stored stored
    rw [count, digestCount_stored stored]
    exact ⟨rfl, digestEntry_stored event.digests (tcgPcrEvent2 + 12) digests known⟩

end AppEfi.Tcg2
