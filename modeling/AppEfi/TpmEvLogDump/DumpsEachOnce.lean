import AppEfi.TpmEvLogDump.DumpedEvents

/-!
# Every event once

When `efi_main` dumps a stored TCG_2 log without fault: its header event and each
event behind it once, in order, up to the one at the last-entry address.
-/

set_option autoImplicit false

namespace AppEfi.TpmEvLogDump

open AppEfi.LittleEndian
open AppEfi.Printing
open AppEfi.RecordWalk
open AppEfi.Tcg2

/-! ## The header event -/

section Header

variable {memory : Memory} {location lastAddr : Nat} {log : EventLog}

theorem specIdField_eq {address : Nat} {specId : SpecIdEvent}
    (held : memory.Holds address specId.fixedFields) (offset width : Nat)
    (within : offset + width ≤ 24) :
    memory.readLe (address + offset) width = specIdField specId offset width := by
  have length : specId.fixedFields.length = 24 := specId.fixedFields_length
  rw [Memory.readLe, held.bytesAt_slice offset width (by omega), specIdField]

theorem dumpPcrEventStruc_prints (stored : memory.Holds location log.encode) :
    Prints (dumpPcrEventStruc memory location)
      (.pcrIndex log.headerPcrIndex.toNat :: .eventType log.headerEventType.toNat ::
        (bytesPrinted log.headerDigest ++ [.eventSize log.specId.encode.length])) () := by
  rw [EventLog.encode, Memory.holds_append, Memory.holds_append, EventLog.encodeHeader] at stored
  have header := stored.1.1
  simp only [Memory.holds_append, List.length_append, length_toBytes,
    log.headerDigest_length] at header
  obtain ⟨⟨⟨pcr, kind⟩, digest⟩, size⟩ := header
  have fits : log.specId.encode.length < 256 ^ 4 := by
    have fits := log.specId.fits
    rw [log.specId.length_encode]
    omega
  have bytes := dumpBytes_prints digest
  rw [log.headerDigest_length] at bytes
  rw [dumpPcrEventStruc, pcr.readLe_eq log.headerPcrIndex.toNat_lt,
    kind.readLe_eq log.headerEventType.toNat_lt, size.readLe_eq fits]
  simp only [prints_print_bind]
  exact bytes.bind (prints_print _)

theorem dumpAlgorithms_prints {address : Nat} {algorithms : List AlgorithmSize}
    (stored : memory.Holds address (algorithms.flatMap AlgorithmSize.encode)) :
    Prints (times (dumpAlgorithmSize memory) algorithms.length address)
      (algorithms.flatMap algorithmPrinted) (address + algorithms.length * 4) := by
  rw [← length_flatMap_algorithms, length_flatMap_encode]
  refine times_prints _ _ fun entry member => ?_
  have held := holds_of_mem_placed stored member
  rw [AlgorithmSize.encode, Memory.holds_append, length_toBytes] at held
  rw [dumpAlgorithmSize, held.1.readLe_eq entry.2.algorithmId.toNat_lt,
    held.2.readLe_eq entry.2.digestSize.toNat_lt, algorithmPrinted, prints_print_bind,
    prints_print_bind, AlgorithmSize.length_encode]
  exact prints_pure _

theorem specId_parts (stored : memory.Holds location log.encode) :
    memory.Holds (location + 32) log.specId.fixedFields ∧
      memory.Holds (location + 56) (toBytes 4 log.specId.algorithms.length) ∧
      memory.Holds (location + 60) (log.specId.algorithms.flatMap AlgorithmSize.encode) ∧
      memory.Holds (location + 60 + log.specId.algorithms.length * 4)
        (toBytes 1 log.specId.vendorInfo.length) ∧
      memory.Holds (location + 60 + log.specId.algorithms.length * 4 + 1)
        log.specId.vendorInfo := by
  have fixed : log.specId.fixedFields.length = 24 := log.specId.fixedFields_length
  have held := EventLog.specId_stored stored
  simp only [SpecIdEvent.encode, Memory.holds_append, List.length_append, length_toBytes,
    length_flatMap_algorithms, fixed, sizeofTcgPcrEventHdr, Nat.add_assoc,
    Nat.reduceAdd] at held ⊢
  obtain ⟨⟨⟨⟨fields, count⟩, table⟩, size⟩, vendor⟩ := held
  simp only [← Nat.add_assoc, Nat.reduceAdd] at *
  exact ⟨fields, count, table, size, vendor⟩

theorem dumpEfiSpecIdEvent_prints (stored : memory.Holds location log.encode) :
    Prints (dumpEfiSpecIdEvent memory location)
      ((.pcrIndex log.headerPcrIndex.toNat :: .eventType log.headerEventType.toNat ::
        (bytesPrinted log.headerDigest ++ [.eventSize log.specId.encode.length])) ++
          specIdPrinted log.specId)
      (location + 60 + log.specId.algorithms.length * 4) := by
  obtain ⟨fields, count, table, size, -⟩ := specId_parts stored
  have algorithms : memory.readLe (location + 32 + 24) 4 = log.specId.algorithms.length :=
    count.readLe_eq (by have := log.specId.fits; omega)
  have signature := fields.bytesAt_slice 0 16 (by rw [log.specId.fixedFields_length]; decide)
  have fieldAt := specIdField_eq fields
  have vendorInfoSize : memory.readLe (location + 60 + log.specId.algorithms.length * 4) 1 =
      log.specId.vendorInfo.length :=
    size.readLe_eq log.specId.vendorInfo_length
  refine (dumpPcrEventStruc_prints stored).bind ?_
  simp only [sizeofTcgPcrEventStruc, sizeofTcgEfiSpecIDEventStruct, specIdPrinted]
  rw [Nat.add_zero, List.drop_zero] at signature
  rw [signature, fieldAt 16 4 (by decide), fieldAt 20 1 (by decide), fieldAt 21 1 (by decide),
    fieldAt 22 1 (by decide), fieldAt 23 1 (by decide), algorithms]
  simp only [prints_print_bind]
  refine (dumpAlgorithms_prints table).bind ?_
  rw [vendorInfoSize, prints_print_bind]
  exact prints_pure _

/-- The vendor information passes the test against the last entry. -/
def VendorInfoInReach (log : EventLog) (location lastAddr : Nat) : Prop :=
  log.specId.vendorInfo = [] ∨
    log.firstEvent location + log.specId.vendorInfo.length ≤ lastAddr + 1

theorem dumpFirstEvent_prints (stored : memory.Holds location log.encode)
    (reach : VendorInfoInReach log location lastAddr) :
    Prints (dumpFirstEvent memory location lastAddr) (headerPrinted log)
      (log.firstEvent location) := by
  obtain ⟨-, -, -, size, vendor⟩ := specId_parts stored
  have vendorInfoSize := size.readLe_eq log.specId.vendorInfo_length
  have first : log.firstEvent location = location + 60 + log.specId.algorithms.length * 4 + 1 +
      log.specId.vendorInfo.length := by
    rw [EventLog.firstEvent, log.specId.length_encode, sizeofTcgPcrEventHdr]
    omega
  rw [headerPrinted, ← List.append_assoc, first]
  refine (dumpEfiSpecIdEvent_prints stored).bind ?_
  rw [vendorInfoSize]
  refine dumpBytesBefore_prints vendor ?_
  rwa [VendorInfoInReach, first] at reach

theorem dumpFirstEvent_spoiled (stored : memory.Holds location log.encode)
    (reach : ¬ VendorInfoInReach log location lastAddr) :
    Spoiled .eventTooLarge (dumpFirstEvent memory location lastAddr) := by
  obtain ⟨-, -, -, size, -⟩ := specId_parts stored
  refine (dumpEfiSpecIdEvent_prints stored).bind_spoiled ?_
  rw [size.readLe_eq log.specId.vendorInfo_length]
  simp only [VendorInfoInReach, EventLog.firstEvent, log.specId.length_encode,
    sizeofTcgPcrEventHdr, not_or, not_le] at reach
  have positive := List.length_pos_of_ne_nil reach.1
  exact dumpBytesBefore_spoiled _ positive (by omega)

end Header

/-! ## The events before the last entry -/

section Others

variable {memory : Memory} {first lastAddr : Nat} {events : List PcrEvent2}

theorem lt_of_mem_placed {event : Nat × PcrEvent2}
    (member : event ∈ placed (fun event => (PcrEvent2.encode event).length) first events)
    (behind : lastAddr = first + total (fun event => (PcrEvent2.encode event).length) events) :
    event.1 + event.2.encode.length ≤ lastAddr ∧ event.1 < lastAddr := by
  have bounds := (placed_bounds member).2
  have positive := event.2.length_encode_pos
  omega

theorem dumpOtherEvents_prints (fuel : Nat)
    (stored : memory.Holds first (events.flatMap PcrEvent2.encode))
    (supported : ∀ event ∈ events, Supported event)
    (behind : lastAddr = first + total (fun event => (PcrEvent2.encode event).length) events)
    (reach : ∀ event ∈ placed (fun event => (PcrEvent2.encode event).length) first events,
      EventInReach lastAddr event)
    (enough : events.length < fuel) :
    Prints (repeatWhile (fun pos => decide (pos < lastAddr)) (dumpOtherEvent memory lastAddr)
      fuel first) (events.flatMap eventPrinted) lastAddr := by
  subst behind
  refine repeatWhile_prints events first fuel (fun event member => ?_) (by simp)
    (fun event member => ?_) enough
  · simpa using (lt_of_mem_placed member rfl).2
  · exact dumpOtherEvent_prints (holds_of_mem_placed stored member)
      (supported _ (mem_of_mem_placed member)) (lt_of_mem_placed member rfl).1
      (reach event member)

theorem dumpOtherEvents_spoiled (fuel : Nat)
    (stored : memory.Holds first (events.flatMap PcrEvent2.encode))
    (supported : ∀ event ∈ events, Supported event)
    (behind : lastAddr = first + total (fun event => (PcrEvent2.encode event).length) events)
    (reached : fuel ≤ events.length ∨
      ¬ ∀ event ∈ placed (fun event => (PcrEvent2.encode event).length) first events,
        EventInReach lastAddr event) :
    Spoiled .eventTooLarge (repeatWhile (fun pos => decide (pos < lastAddr))
      (dumpOtherEvent memory lastAddr) fuel first) := by
  refine repeatWhile_spoiled (fun event => (PcrEvent2.encode event).length) eventPrinted
    events first fuel (EventInReach lastAddr) (fun event member => ?_)
    (fun event member inReach => ?_) (fun event member beyond => ?_) reached
  · simpa using (lt_of_mem_placed member behind).2
  · exact dumpOtherEvent_prints (holds_of_mem_placed stored member)
      (supported _ (mem_of_mem_placed member)) (lt_of_mem_placed member behind).1 inReach
  · exact dumpOtherEvent_spoiled (holds_of_mem_placed stored member)
      (supported _ (mem_of_mem_placed member)) (lt_of_mem_placed member behind).1 beyond

end Others

/-! ## The last entry -/

section Last

variable {memory : Memory} {pos fuel : Nat}

theorem dumpLastDigests_prints {count : Nat} {digests : List TaggedDigest} (i : UInt8)
    (stored : memory.Holds pos (digests.flatMap TaggedDigest.encode))
    (supported : ∀ entry ∈ digests, entry.digest.length = getDigestAlgLength entry.hashAlg)
    (remaining : i.toNat + digests.length = count) (small : count < 2 ^ 8)
    (enough : digests.length < fuel) :
    Prints (dumpLastDigests memory count fuel i pos) (digests.flatMap digestPrinted)
      (pos + digestsLength digests) := by
  induction digests generalizing pos i fuel with
  | nil =>
      obtain ⟨fuel, rfl⟩ := Nat.exists_eq_succ_of_ne_zero (Nat.ne_of_gt enough)
      rw [dumpLastDigests, if_neg (by simp at remaining; omega)]
      exact prints_pure pos
  | cons entry rest ih =>
      obtain ⟨fuel, rfl⟩ := Nat.exists_eq_succ_of_ne_zero (Nat.ne_zero_of_lt enough)
      rw [List.flatMap_cons, Memory.holds_append] at stored
      rw [List.length_cons] at remaining enough
      have next : (i + 1).toNat = i.toNat + 1 := by
        rw [UInt8.toNat_add]
        exact Nat.mod_eq_of_lt (by simp; omega)
      have first := dumpTpmtHa_untested_prints stored.1 (supported entry (by simp))
      have later := ih (i + 1) stored.2
        (fun other member => supported other (by simp [member])) (by omega)
        (Nat.lt_of_succ_lt_succ enough)
      rw [dumpLastDigests, if_pos (by omega), digestsLength, total_cons, ← Nat.add_assoc]
      exact first.bind later

/-- Whatever lies at the position, the untested dump of a digest comes to its end. -/
theorem dumpTpmtHa_untested_ends (memory : Memory) (pos : Nat) :
    ∃ lines next, Prints (dumpTpmtHa memory (fun _ => dumpByte memory) pos) lines next := by
  have digest := dumpBytes_prints (Memory.holds_bytesAt memory (pos + 2)
    (getDigestAlgLength (readAlg memory pos)))
  rw [Memory.length_bytesAt] at digest
  exact ⟨_, _, (prints_print_bind _ _).mpr digest⟩

/-- The UINT8 counter never gets to a count of 256 or more. -/
theorem dumpLastDigests_spoiled {count : Nat} (large : 2 ^ 8 ≤ count) (i : UInt8) :
    Spoiled .eventTooLarge (dumpLastDigests memory count fuel i pos) := by
  induction fuel generalizing pos i with
  | zero => exact Or.inr rfl
  | succ fuel ih =>
      have below := i.toNat_lt
      obtain ⟨_, _, digest⟩ := dumpTpmtHa_untested_ends memory pos
      rw [dumpLastDigests, if_pos (by omega)]
      exact digest.bind_spoiled (ih _)

variable {event : PcrEvent2}

theorem dumpLastEntryEvent_prints (fuel : Nat) (stored : memory.Holds pos event.encode)
    (supported : Supported event) (small : event.digests.length < 2 ^ 8)
    (enough : event.digests.length < fuel) :
    Prints (dumpLastEntryEvent memory fuel pos) (.dumpLastEntryEvent :: eventPrinted event)
      (pos + event.encode.length) := by
  obtain ⟨pcr, kind, _, digests, size, data⟩ := PcrEvent2.parts_stored stored
  have loop := dumpLastDigests_prints 0 digests supported (Nat.zero_add _) small enough
  rw [dumpLastEntryEvent, eventPrinted, pcr.readLe_eq event.pcrIndex.toNat_lt,
    kind.readLe_eq event.eventType.toNat_lt, digestCount_stored stored, event.length_encode]
  simp only [prints_print_bind]
  refine loop.bind ?_
  rw [size.readLe_eq event.event_length, prints_print_bind]
  have bytes := dumpBytes_prints data
  simp only [Nat.add_assoc] at bytes ⊢
  exact bytes

theorem dumpLastEntryEvent_spoiled (stored : memory.Holds pos event.encode)
    (large : 2 ^ 8 ≤ event.digests.length) :
    Spoiled .eventTooLarge (dumpLastEntryEvent memory fuel pos) := by
  rw [dumpLastEntryEvent, digestCount_stored stored]
  simp only [spoiled_print_bind]
  exact Or.inr (Or.inr (Or.inr (Or.inr (dumpLastDigests_spoiled large 0).bind)))

end Last

/-! ## The whole log -/

def logPrinted (log : EventLog) (location : Nat) : List Printed :=
  .firstEntryAddr location :: .lastEntryAddr (log.lastEntry location) ::
    (headerPrinted log ++ log.events.flatMap eventPrinted)

/-- The run ends without an error, and but for the line before the last entry it prints
the header event and then each event of the log. -/
structure DumpsEachOnce (log : EventLog) (location : Nat) (run : Dump Nat) : Prop where
  ends : run.outcome ≠ .unfinished
  noError : .eventTooLarge ∉ run.lines
  events : run.lines.filter (fun line => line != .dumpLastEntryEvent) = logPrinted log location

/-- No run of bytes that is tested is more than one longer than what lies behind it up to
the last entry, and the last entry's digests can be counted in a UINT8. -/
structure WithinReach (log : EventLog) (location : Nat) : Prop where
  events : log.events ≠ []
  vendorInfo : log.specId.vendorInfo.length ≤
    1 + (log.lastEntry location - log.firstEvent location)
  digests : ∀ event ∈ placed (fun event => (PcrEvent2.encode event).length)
      (log.firstEvent location) log.events.dropLast,
    ∀ entry ∈ placed (fun entry => (TaggedDigest.encode entry).length) (event.1 + 12)
        event.2.digests,
      entry.2.digest.length ≤
        1 + (log.lastEntry location - (entry.1 + entry.2.encode.length))
  lastCount : ∀ last ∈ log.events.getLast?, last.digests.length < 2 ^ 8

theorem mem_logPrinted (log : EventLog) (location : Nat) {line : Printed}
    (member : line ∈ logPrinted log location) :
    line ≠ .eventTooLarge ∧ line ≠ .dumpLastEntryEvent := by
  simp only [logPrinted, headerPrinted, specIdPrinted, algorithmPrinted, eventPrinted,
    digestPrinted, bytesPrinted, List.mem_cons, List.mem_append, List.mem_flatMap, List.mem_map,
    List.not_mem_nil, or_false] at member
  constructor <;> rintro rfl <;> simp at member

section Log

variable {memory : Memory} {location : Nat} {log : EventLog}

theorem not_dumpsEachOnce_of_spoiled {run : Dump Nat} (spoiled : Spoiled .eventTooLarge run) :
    ¬ DumpsEachOnce log location run := by
  intro dumps
  rcases spoiled with printed | endless
  · exact dumps.noError printed
  · exact dumps.ends endless

theorem dumpsEachOnce_of_prints {run : Dump Nat} {status : Nat} (front back : List Printed)
    (prints : Prints run (front ++ .dumpLastEntryEvent :: back) status)
    (printed : front ++ back = logPrinted log location) : DumpsEachOnce log location run := by
  have listed : ∀ line, line ∈ front ∨ line ∈ back →
      line ≠ .eventTooLarge ∧ line ≠ .dumpLastEntryEvent := by
    intro line member
    apply mem_logPrinted log location
    rwa [← printed, List.mem_append]
  rw [prints]
  refine ⟨by simp, ?_, ?_⟩
  · intro member
    rw [List.mem_append, List.mem_cons] at member
    rcases member with inFront | same | inBack
    · exact (listed _ (Or.inl inFront)).1 rfl
    · exact absurd same (by decide)
    · exact (listed _ (Or.inr inBack)).1 rfl
  · rw [List.filter_append, List.filter_cons_of_neg (by simp), ← List.filter_append, printed]
    refine List.filter_eq_self.mpr fun line member => ?_
    exact bne_iff_ne.mpr (mem_logPrinted log location member).2

theorem concat_stored {before : List PcrEvent2} {last : PcrEvent2}
    (stored : memory.Holds location log.encode) (split : log.events = before ++ [last]) :
    memory.Holds (log.firstEvent location) (before.flatMap PcrEvent2.encode) ∧
      memory.Holds (log.lastEntry location) last.encode := by
  have events := EventLog.events_stored stored
  rw [split, List.flatMap_append, Memory.holds_append, length_flatMap_encode,
    ← log.lastEntry_of_concat location before last split, List.flatMap_singleton] at events
  exact events

theorem dumpTcg2_dumps {before : List PcrEvent2} {last : PcrEvent2}
    (stored : memory.Holds location log.encode)
    (supported : ∀ event ∈ log.events, Supported event)
    (split : log.events = before ++ [last]) (reach : WithinReach log location) :
    DumpsEachOnce log location (dumpTcg2 memory (before.length + last.digests.length + 1)
      location (log.lastEntry location)) := by
  have behind := log.lastEntry_of_concat location before last split
  obtain ⟨beforeStored, lastStored⟩ := concat_stored stored split
  have vendorInfo := reach.vendorInfo
  have digests := reach.digests
  rw [split, List.dropLast_concat] at digests
  have small := reach.lastCount last (by rw [split, List.getLast?_concat]; rfl)
  rw [split] at supported
  have vendorInReach : VendorInfoInReach log location (log.lastEntry location) :=
    Or.inr (by omega)
  have header := dumpFirstEvent_prints stored vendorInReach
  have others := dumpOtherEvents_prints (before.length + last.digests.length + 1) beforeStored
    (fun event member => supported event (by simp [member])) behind digests (by omega)
  have lastEntry := dumpLastEntryEvent_prints (before.length + last.digests.length + 1)
    lastStored (supported last (by simp)) small (by omega)
  have prints : Prints (dumpTcg2 memory (before.length + last.digests.length + 1) location
      (log.lastEntry location))
      ((.firstEntryAddr location :: .lastEntryAddr (log.lastEntry location) ::
        (headerPrinted log ++ before.flatMap eventPrinted)) ++
          .dumpLastEntryEvent :: eventPrinted last) efiSuccess := by
    rw [dumpTcg2, List.cons_append, prints_print_bind, List.cons_append, prints_print_bind,
      List.append_assoc]
    exact header.bind (others.bind (lastEntry.bind_pure efiSuccess))
  exact dumpsEachOnce_of_prints _ _ prints (by simp [logPrinted, split])

/-- Without events the header event is dumped again as the last entry. -/
theorem not_dumpsEachOnce_of_nil {fuel : Nat} (stored : memory.Holds location log.encode)
    (empty : log.events = []) :
    ¬ DumpsEachOnce log location
      (dumpTcg2 memory fuel location (log.lastEntry location)) := by
  intro dumps
  have atStart := log.lastEntry_of_nil location empty
  rw [atStart] at dumps
  have clean : ¬ Spoiled .eventTooLarge (dumpTcg2 memory fuel location location) :=
    fun spoiled => not_dumpsEachOnce_of_spoiled spoiled dumps
  simp only [dumpTcg2, spoiled_print_bind, reduceCtorEq, false_or] at clean
  have header := dumpFirstEvent_prints stored
    (by_contra fun beyond => clean (dumpFirstEvent_spoiled stored beyond).bind)
  cases fuel with
  | zero => exact clean (header.bind_spoiled (Or.inr rfl))
  | succ fuel =>
      have behind : ¬ log.firstEvent location < location := by
        rw [EventLog.firstEvent]
        omega
      have skipped : Prints (repeatWhile (fun pos => decide (pos < location))
          (dumpOtherEvent memory location) (fuel + 1) (log.firstEvent location)) []
          (log.firstEvent location) := by
        rw [repeatWhile, if_neg (by simpa using behind)]
        exact prints_pure _
      obtain ⟨more, dumped⟩ := lines_bind (dumpLastEntryEvent memory (fuel + 1) location)
        fun _ => (pure efiSuccess : Dump Nat)
      have events := dumps.events
      rw [dumpTcg2, lines_print_bind, lines_print_bind, header.bind_eq] at events
      rw [skipped.bind_eq, dumped, dumpLastEntryEvent] at events
      have kept : (headerPrinted log).filter (fun line => line != .dumpLastEntryEvent) =
          headerPrinted log := by
        refine List.filter_eq_self.mpr fun line member => bne_iff_ne.mpr ?_
        exact (mem_logPrinted log location (by simp [logPrinted, member])).2
      -- The PCR index of the second dump is one line too many.
      simp [logPrinted, atStart, empty, kept] at events

theorem withinReach_of_dumps {fuel : Nat} (stored : memory.Holds location log.encode)
    (supported : ∀ event ∈ log.events, Supported event)
    (dumps : DumpsEachOnce log location
      (dumpTcg2 memory fuel location (log.lastEntry location))) :
    WithinReach log location := by
  rcases List.eq_nil_or_concat' log.events with empty | ⟨before, last, split⟩
  · exact absurd dumps (not_dumpsEachOnce_of_nil stored empty)
  have behind := log.lastEntry_of_concat location before last split
  obtain ⟨beforeStored, lastStored⟩ := concat_stored stored split
  have supportedBefore : ∀ event ∈ before, Supported event :=
    fun event member => supported event (by simp [split, member])
  have clean : ¬ Spoiled .eventTooLarge
      (dumpTcg2 memory fuel location (log.lastEntry location)) :=
    fun spoiled => not_dumpsEachOnce_of_spoiled spoiled dumps
  simp only [dumpTcg2, spoiled_print_bind, reduceCtorEq, false_or] at clean
  have vendorInfo : VendorInfoInReach log location (log.lastEntry location) :=
    by_contra fun beyond => clean (dumpFirstEvent_spoiled stored beyond).bind
  have cleanBehind := fun spoiled =>
    clean ((dumpFirstEvent_prints stored vendorInfo).bind_spoiled spoiled)
  have enough : before.length < fuel := by_contra fun short => cleanBehind
    (dumpOtherEvents_spoiled fuel beforeStored supportedBefore behind
      (Or.inl (Nat.not_lt.mp short))).bind
  have digests : ∀ event ∈ placed (fun event => (PcrEvent2.encode event).length)
      (log.firstEvent location) before, EventInReach (log.lastEntry location) event :=
    by_contra fun beyond => cleanBehind
      (dumpOtherEvents_spoiled fuel beforeStored supportedBefore behind (Or.inr beyond)).bind
  have others := dumpOtherEvents_prints fuel beforeStored supportedBefore behind digests enough
  have small : last.digests.length < 2 ^ 8 := by_contra fun large => cleanBehind
    (others.bind_spoiled (dumpLastEntryEvent_spoiled lastStored (Nat.not_lt.mp large)).bind)
  refine ⟨by simp [split], ?_, ?_, ?_⟩
  · rcases vendorInfo with empty | inside
    · simp [empty]
    · omega
  · rw [split, List.dropLast_concat]
    exact digests
  · intro other isLast
    rw [split, List.getLast?_concat] at isLast
    obtain rfl : last = other := Option.some.inj isLast
    exact small

theorem efiMain_eq {getEventLog : GetEventLog} {startAddr lastAddr : Nat}
    (found : getEventLog .tcg2 = .ok (startAddr, lastAddr)) (fuel : Nat) :
    efiMain memory (.ok getEventLog) fuel = dumpTcg2 memory fuel startAddr lastAddr := by
  simp only [efiMain, found]

end Log

/-- For every stored TCG_2 log over the supported algorithms: `efi_main` dumps each event
once and without an error exactly when the log is within the reach of its tests. -/
theorem efiMain_dumps_iff (memory : Memory) (location : Nat) (log : EventLog)
    (getEventLog : GetEventLog) (stored : memory.Holds location log.encode)
    (supported : ∀ event ∈ log.events, Supported event)
    (found : getEventLog .tcg2 = .ok (location, log.lastEntry location)) :
    (∃ fuel, DumpsEachOnce log location (efiMain memory (.ok getEventLog) fuel)) ↔
      WithinReach log location := by
  simp only [efiMain_eq found]
  constructor
  · rintro ⟨fuel, dumps⟩
    exact withinReach_of_dumps stored supported dumps
  · intro reach
    rcases List.eq_nil_or_concat' log.events with empty | ⟨before, last, split⟩
    · exact absurd empty reach.events
    · exact ⟨_, dumpTcg2_dumps stored supported split reach⟩

/-- A SHA-256 measurement of `dataLength` bytes. -/
def sha256Event (dataLength : Nat) (fits : dataLength < 2 ^ 32) : PcrEvent2 where
  pcrIndex := 7
  eventType := 4
  digests := [⟨0x000B, List.replicate 32 0xAB⟩]
  event := List.replicate dataLength 0
  digests_length := by simp
  event_length := by simpa using fits

def sha256SpecId : SpecIdEvent where
  fixedFields := List.replicate 24 0
  algorithms := [⟨0x000B, 32⟩]
  vendorInfo := []
  fixedFields_length := specIdFields_length
  vendorInfo_length := noVendorInfo_length
  fits := by simp

/-- Two measurements, the first of them of `dataLength` bytes. -/
def sha256Log (dataLength : Nat) (fits : dataLength < 2 ^ 32) : EventLog where
  headerPcrIndex := 0
  headerEventType := 3
  headerDigest := List.replicate 20 0
  specId := sha256SpecId
  events := [sha256Event dataLength fits, sha256Event 4 (by decide)]
  headerDigest_length := zeroDigest_length

theorem efiMain_dumps_iff_sha256Log :
    ∃ fuel, DumpsEachOnce (sha256Log 27 (by decide)) 0x1000
      (efiMain (Memory.ofBytesAt 0x1000 (sha256Log 27 (by decide)).encode)
        (.ok fun _ => .ok (0x1000, (sha256Log 27 (by decide)).lastEntry 0x1000)) fuel) :=
  (efiMain_dumps_iff _ _ (sha256Log 27 (by decide)) _ (Memory.holds_ofBytesAt _ _)
    (by decide +kernel) rfl).mpr
      ⟨by decide +kernel, by decide +kernel, by decide +kernel, by decide +kernel⟩

/-- The digest of an event with four bytes of data, as a separator has, is taken to be
too large when the event is the one before the last. -/
theorem efiMain_sha256Log :
    (sha256Log 4 (by decide)).Conforms ∧
      (∀ event ∈ (sha256Log 4 (by decide)).events, Supported event) ∧
      .eventTooLarge ∈ (efiMain (Memory.ofBytesAt 0x1000 (sha256Log 4 (by decide)).encode)
        (.ok fun _ => .ok (0x1000, (sha256Log 4 (by decide)).lastEntry 0x1000)) 3).lines ∧
      ¬ ∃ fuel, DumpsEachOnce (sha256Log 4 (by decide)) 0x1000
        (efiMain (Memory.ofBytesAt 0x1000 (sha256Log 4 (by decide)).encode)
          (.ok fun _ => .ok (0x1000, (sha256Log 4 (by decide)).lastEntry 0x1000)) fuel) := by
  have supported : ∀ event ∈ (sha256Log 4 (by decide)).events, Supported event := by
    decide +kernel
  refine ⟨by decide +kernel, supported, by decide +kernel, ?_⟩
  rintro ⟨fuel, dumps⟩
  rw [efiMain_eq rfl] at dumps
  have reach := withinReach_of_dumps (Memory.holds_ofBytesAt _ _) supported dumps
  exact absurd reach.digests (by decide +kernel)

end AppEfi.TpmEvLogDump
