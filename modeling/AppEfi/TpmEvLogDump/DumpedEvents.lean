import AppEfi.TpmEvLogDump.EfiMain

/-!
# The dump of a stored log

What `efi_main` prints for the parts of a stored TCG_2 log, from the bytes of a
digest up to the events before the last entry.  The test in a byte loop compares
the moving position plus the whole length, so it passes for every byte exactly
when the bytes are no more than one longer than what lies behind them up to the
last entry.
-/

set_option autoImplicit false

namespace AppEfi.TpmEvLogDump

open AppEfi.LittleEndian
open AppEfi.Printing
open AppEfi.RecordWalk
open AppEfi.Tcg2

/-! ## What a dump of each event prints -/

def bytesPrinted (bytes : List UInt8) : List Printed := bytes.map Printed.byte

def digestPrinted (entry : TaggedDigest) : List Printed :=
  .digestsAlgId entry.hashAlg :: bytesPrinted entry.digest

def eventPrinted (event : PcrEvent2) : List Printed :=
  .pcrIndex event.pcrIndex.toNat :: .eventType event.eventType.toNat ::
    .digestsCount event.digests.length :: (event.digests.flatMap digestPrinted ++
      .eventSize event.event.length :: bytesPrinted event.event)

def algorithmPrinted (entry : AlgorithmSize) : List Printed :=
  [.algorithmId entry.algorithmId.toNat, .digestSize entry.digestSize.toNat]

/-- The number in `width` bytes of the Spec-ID event's fixed fields. -/
def specIdField (specId : SpecIdEvent) (offset width : Nat) : Nat :=
  ofBytes ((specId.fixedFields.drop offset).take width)

def specIdPrinted (specId : SpecIdEvent) : List Printed :=
  .signature (specId.fixedFields.take 16) :: .platformClass (specIdField specId 16 4) ::
    .specVersionMinor (specIdField specId 20 1) ::
    .specVersionMajor (specIdField specId 21 1) ::
    .specErrata (specIdField specId 22 1) :: .uintnSize (specIdField specId 23 1) ::
    .numberOfAlgorithms specId.algorithms.length ::
    (specId.algorithms.flatMap algorithmPrinted ++
      [.vendorInfoSize specId.vendorInfo.length])

def headerPrinted (log : EventLog) : List Printed :=
  (.pcrIndex log.headerPcrIndex.toNat :: .eventType log.headerEventType.toNat ::
    (bytesPrinted log.headerDigest ++ [.eventSize log.specId.encode.length])) ++
      (specIdPrinted log.specId ++ bytesPrinted log.specId.vendorInfo)

/-- Every digest has the length that the code takes for its algorithm. -/
def Supported (event : PcrEvent2) : Prop :=
  ∀ entry ∈ event.digests, entry.digest.length = getDigestAlgLength entry.hashAlg

instance (event : PcrEvent2) : Decidable (Supported event) :=
  inferInstanceAs (Decidable (∀ entry ∈ event.digests,
    entry.digest.length = getDigestAlgLength entry.hashAlg))

/-! ## The byte loops -/

section Bytes

variable {memory : Memory} {pos : Nat} {lastAddr length : Nat}

theorem dumpByte_prints (byte : UInt8) (held : memory pos = byte) :
    Prints (dumpByte memory pos) [.byte byte] (pos + 1) := by
  rw [dumpByte, held, prints_print_bind]
  exact prints_pure _

theorem holds_cons {byte : UInt8} {rest : List UInt8}
    (held : memory.Holds pos (byte :: rest)) :
    memory pos = byte ∧ memory.Holds (pos + 1) rest := by
  have split := (Memory.holds_append memory pos [byte] rest).mp held
  exact ⟨split.1.apply 0 (by simp), split.2⟩

theorem dumpBytes_prints {bytes : List UInt8} (held : memory.Holds pos bytes) :
    Prints (times (dumpByte memory) bytes.length pos) (bytesPrinted bytes)
      (pos + bytes.length) := by
  induction bytes generalizing pos with
  | nil => exact prints_pure pos
  | cons byte rest ih =>
      obtain ⟨here, later⟩ := holds_cons held
      have step := (dumpByte_prints byte here).bind (ih later)
      rwa [Nat.add_assoc, Nat.add_comm 1] at step

theorem dumpBytesBefore_prints {bytes : List UInt8} (held : memory.Holds pos bytes)
    (inside : bytes = [] ∨ pos + bytes.length + length ≤ lastAddr + 1) :
    Prints (times (dumpByteBefore memory lastAddr length) bytes.length pos)
      (bytesPrinted bytes) (pos + bytes.length) := by
  induction bytes generalizing pos with
  | nil => exact prints_pure pos
  | cons byte rest ih =>
      obtain ⟨here, later⟩ := holds_cons held
      simp only [reduceCtorEq, false_or, List.length_cons] at inside
      have tested : Prints (dumpByteBefore memory lastAddr length pos) [.byte byte]
          (pos + 1) := by
        rw [dumpByteBefore, if_neg (by omega)]
        exact dumpByte_prints byte here
      have step := tested.bind (ih later (Or.inr (by omega)))
      rwa [Nat.add_assoc, Nat.add_comm 1] at step

/-- The last byte's test is the one that fails first. -/
theorem dumpBytesBefore_spoiled (count : Nat) (some : 0 < count)
    (beyond : lastAddr + 1 < pos + count + length) :
    Spoiled .eventTooLarge (times (dumpByteBefore memory lastAddr length) count pos) := by
  induction count generalizing pos with
  | zero => exact absurd some (Nat.lt_irrefl 0)
  | succ count ih =>
      by_cases here : pos + length > lastAddr
      · refine Spoiled.bind ?_
        rw [dumpByteBefore, if_pos here, spoiled_print_bind]
        exact Or.inl rfl
      · have tested : Prints (dumpByteBefore memory lastAddr length pos)
            [.byte (memory pos)] (pos + 1) := by
          rw [dumpByteBefore, if_neg here]
          exact dumpByte_prints _ rfl
        exact tested.bind_spoiled (ih (by omega) (by omega))

end Bytes

/-! ## Digests -/

section Digests

variable {memory : Memory} {pos lastAddr : Nat} {entry : TaggedDigest}

/-- The bytes of a digest at `pos` pass the test against the last entry. -/
def DigestInReach (lastAddr : Nat) (entry : Nat × TaggedDigest) : Prop :=
  entry.2.digest.length ≤ 1 + (lastAddr - (entry.1 + entry.2.encode.length))

theorem dumpTpmtHa_prints (stored : memory.Holds pos entry.encode)
    (supported : entry.digest.length = getDigestAlgLength entry.hashAlg)
    (before : pos + entry.encode.length ≤ lastAddr) (reach : DigestInReach lastAddr (pos, entry)) :
    Prints (dumpTpmtHa memory (dumpByteBefore memory lastAddr) pos) (digestPrinted entry)
      (pos + entry.encode.length) := by
  rw [TaggedDigest.encode, Memory.holds_append, length_toBytes] at stored
  obtain ⟨alg, digest⟩ := stored
  simp only [DigestInReach, TaggedDigest.length_encode] at before reach ⊢
  rw [dumpTpmtHa, readAlg_of_holds alg, ← supported, digestPrinted, prints_print_bind,
    ← Nat.add_assoc]
  refine dumpBytesBefore_prints digest ?_
  by_cases empty : entry.digest = []
  · exact Or.inl empty
  · exact Or.inr (by omega)

theorem dumpTpmtHa_spoiled (stored : memory.Holds pos entry.encode)
    (supported : entry.digest.length = getDigestAlgLength entry.hashAlg)
    (reach : ¬ DigestInReach lastAddr (pos, entry)) :
    Spoiled .eventTooLarge (dumpTpmtHa memory (dumpByteBefore memory lastAddr) pos) := by
  rw [TaggedDigest.encode, Memory.holds_append, length_toBytes] at stored
  simp only [DigestInReach, TaggedDigest.length_encode] at reach
  rw [dumpTpmtHa, readAlg_of_holds stored.1, ← supported, spoiled_print_bind]
  exact Or.inr (dumpBytesBefore_spoiled _ (by omega) (by omega))

/-- Without the test, as in the last entry. -/
theorem dumpTpmtHa_untested_prints (stored : memory.Holds pos entry.encode)
    (supported : entry.digest.length = getDigestAlgLength entry.hashAlg) :
    Prints (dumpTpmtHa memory (fun _ => dumpByte memory) pos) (digestPrinted entry)
      (pos + entry.encode.length) := by
  rw [TaggedDigest.encode, Memory.holds_append, length_toBytes] at stored
  rw [dumpTpmtHa, readAlg_of_holds stored.1, ← supported, digestPrinted, prints_print_bind,
    TaggedDigest.length_encode, ← Nat.add_assoc]
  exact dumpBytes_prints stored.2

end Digests

/-! ## Events -/

section Events

variable {memory : Memory} {pos lastAddr : Nat} {event : PcrEvent2}

/-- The digests of an event at `event.1` pass the test against the last entry. -/
def EventInReach (lastAddr : Nat) (event : Nat × PcrEvent2) : Prop :=
  ∀ entry ∈ placed (fun entry => (TaggedDigest.encode entry).length) (event.1 + 12)
    event.2.digests, DigestInReach lastAddr entry

theorem dumpDigests_prints (stored : memory.Holds pos event.encode)
    (supported : Supported event) (before : pos + event.encode.length ≤ lastAddr)
    (reach : EventInReach lastAddr (pos, event)) :
    Prints (times (dumpTpmtHa memory (dumpByteBefore memory lastAddr)) event.digests.length
        (pos + 12))
      (event.digests.flatMap digestPrinted) (pos + 12 + digestsLength event.digests) := by
  obtain ⟨_, _, _, digests, _, _⟩ := PcrEvent2.parts_stored stored
  rw [event.length_encode] at before
  refine times_prints _ _ fun entry member => ?_
  have bounds := (placed_bounds member).2
  rw [← digestsLength] at bounds
  exact dumpTpmtHa_prints (holds_of_mem_placed digests member)
    (supported _ (mem_of_mem_placed member)) (by omega) (reach entry member)

theorem dumpOtherEvent_prints (stored : memory.Holds pos event.encode)
    (supported : Supported event) (before : pos + event.encode.length ≤ lastAddr)
    (reach : EventInReach lastAddr (pos, event)) :
    Prints (dumpOtherEvent memory lastAddr pos) (eventPrinted event)
      (pos + event.encode.length) := by
  obtain ⟨pcr, kind, _, _, size, data⟩ := PcrEvent2.parts_stored stored
  have count := digestCount_stored stored
  have digests := dumpDigests_prints stored supported before reach
  rw [event.length_encode] at before ⊢
  rw [dumpOtherEvent, eventPrinted, pcr.readLe_eq event.pcrIndex.toNat_lt,
    kind.readLe_eq event.eventType.toNat_lt, count]
  simp only [prints_print_bind]
  refine digests.bind ?_
  rw [size.readLe_eq event.event_length, prints_print_bind, if_neg (by omega)]
  have bytes := dumpBytes_prints data
  simp only [Nat.add_assoc] at bytes ⊢
  exact bytes

theorem dumpOtherEvent_spoiled (stored : memory.Holds pos event.encode)
    (supported : Supported event) (before : pos + event.encode.length ≤ lastAddr)
    (reach : ¬ EventInReach lastAddr (pos, event)) :
    Spoiled .eventTooLarge (dumpOtherEvent memory lastAddr pos) := by
  obtain ⟨_, _, _, digests, _, _⟩ := PcrEvent2.parts_stored stored
  rw [event.length_encode] at before
  rw [dumpOtherEvent, digestCount_stored stored]
  simp only [spoiled_print_bind]
  refine Or.inr (Or.inr (Or.inr (Spoiled.bind ?_)))
  refine times_spoiled (fun entry => (TaggedDigest.encode entry).length) digestPrinted _ _
    (DigestInReach lastAddr) (fun entry member inReach => ?_) (fun entry member beyond => ?_)
    reach
  · have bounds := (placed_bounds member).2
    rw [← digestsLength] at bounds
    exact dumpTpmtHa_prints (holds_of_mem_placed digests member)
      (supported _ (mem_of_mem_placed member)) (by omega) inReach
  · exact dumpTpmtHa_spoiled (holds_of_mem_placed digests member)
      (supported _ (mem_of_mem_placed member)) beyond

end Events

end AppEfi.TpmEvLogDump
