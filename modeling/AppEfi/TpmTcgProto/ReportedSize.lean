import AppEfi.TpmTcgProto.EfiMain

/-!
# The size that is reported

Whether `efi_main` comes to its end on a stored last entry and what it reports there.  The
sum of its digest loop is right; what is added before it is the number of the digests where
the size of that number belongs.
-/

set_option autoImplicit false

namespace AppEfi.TpmTcgProto

open AppEfi.LittleEndian
open AppEfi.Printing
open AppEfi.RecordWalk
open AppEfi.Tcg2
open AppEfi.TpmEvLogDump (GetEventLog Supported efiSuccess)

/-- A TCG_2 log in memory, of which only the last event is looked at. -/
structure StoredLog where
  memory : Memory
  startAddr : Nat
  lastAddr : Nat
  last : PcrEvent2
  stored : memory.Holds lastAddr last.encode
  supported : Supported last
  ordered : startAddr ≤ lastAddr
  inSpace : lastAddr + last.encode.length ≤ 2 ^ 64

/-- The bytes that the log occupies. -/
def StoredLog.occupied (log : StoredLog) : Nat :=
  log.lastAddr - log.startAddr + log.last.encode.length

/-- The protocol of a firmware that has the log. -/
def StoredLog.protocol (log : StoredLog) (cap : Capability) (tcg12 : Except Nat (Nat × Nat)) :
    Tcg2Protocol where
  getCapability := .ok cap
  getEventLog
    | .tcg2 => .ok (log.startAddr, log.lastAddr)
    | .tcg12 => tcg12

/-- `efi_main` comes to its end and the total that it reports is this one. -/
def ReportsSize (occupied : Nat) (run : Nat → Dump Nat) : Prop :=
  ∃ fuel, (run fuel).outcome = .done efiSuccess ∧
    ∀ shown : Int, .totalEventSize shown ∈ (run fuel).lines ↔ shown = occupied

/-! ## The digest loop -/

section Digests

variable {memory : Memory} {count fuel pos size : Nat}

theorem dumpDigests_prints {digests : List TaggedDigest} (i : UInt8)
    (stored : memory.Holds pos (digests.flatMap TaggedDigest.encode))
    (supported : ∀ entry ∈ digests, entry.digest.length = getDigestAlgLength entry.hashAlg)
    (remaining : i.toNat + digests.length = count) (small : count < 2 ^ 8)
    (enough : digests.length < fuel) :
    Prints (dumpDigests memory count fuel i pos size)
      (digests.map fun entry => .algId entry.hashAlg)
      (pos + digestsLength digests, size + digestsLength digests) := by
  induction digests generalizing pos size i fuel with
  | nil =>
      obtain ⟨fuel, rfl⟩ := Nat.exists_eq_succ_of_ne_zero (Nat.ne_of_gt enough)
      rw [List.length_nil, Nat.add_zero] at remaining
      rw [dumpDigests, if_neg (by omega)]
      exact prints_pure _
  | cons entry rest ih =>
      obtain ⟨fuel, rfl⟩ := Nat.exists_eq_succ_of_ne_zero (Nat.ne_zero_of_lt enough)
      rw [List.flatMap_cons, Memory.holds_append, TaggedDigest.length_encode] at stored
      rw [List.length_cons] at remaining enough
      have alg := stored.1
      rw [TaggedDigest.encode, Memory.holds_append] at alg
      have next : (i + 1).toNat = i.toNat + 1 := by
        rw [UInt8.toNat_add]
        exact Nat.mod_eq_of_lt (by simp; omega)
      have later := @ih fuel (pos + (2 + entry.digest.length)) (size + (2 + entry.digest.length))
        (i + 1) stored.2 (fun other member => supported other (by simp [member])) (by omega)
        (Nat.lt_of_succ_lt_succ enough)
      rw [dumpDigests, if_pos (by omega), readAlg_of_holds alg.1, ← supported entry (by simp)]
      simp only [sizeofTpmtHa, List.map_cons, prints_print_bind, digestsLength, total_cons,
        TaggedDigest.length_encode, ← Nat.add_assoc] at later ⊢
      exact later

/-- Without the fuel for the count, or with a count that the UINT8 counter never gets to. -/
theorem dumpDigests_unfinished (i : UInt8) (behind : Nat × Nat)
    (short : 2 ^ 8 ≤ count ∨ i.toNat + fuel ≤ count) :
    (dumpDigests memory count fuel i pos size).outcome ≠ .done behind := by
  induction fuel generalizing pos size i with
  | zero => exact fun ends => nomatch ends
  | succ fuel ih =>
      have below := i.toNat_lt
      have next : (i + 1).toNat ≤ i.toNat + 1 := by
        rw [UInt8.toNat_add]
        exact Nat.mod_le _ _
      rw [dumpDigests, if_pos (by omega), Ne, outcome_bind_eq_done]
      rintro ⟨_, _, ends⟩
      exact ih (i + 1) (by omega) ends

end Digests

/-! ## The sum -/

theorem shown_lt (percentD : PercentD) (value : Nat) : percentD.shown value < 2 ^ 31 := by
  rw [percentD.shown_eq]
  exact Int.bmod_lt (Nat.two_pow_pos 32)

theorem shown_of_lt (percentD : PercentD) {value : Nat} (below : value < 2 ^ 31) :
    percentD.shown value = value := by
  rw [percentD.shown_eq]
  exact Int.bmod_eq_of_le (by omega) (by omega)

/-- From 2^31 on a value below 2^32 is shown as a negative number. -/
theorem shown_neg (percentD : PercentD) {value : Nat} (above : 2 ^ 31 ≤ value)
    (below : value < 2 ^ 32) : percentD.shown value < 0 := by
  have residue : (value : Int) % (2 ^ 32 : Nat) = value :=
    Int.emod_eq_of_lt (Int.natCast_nonneg value) (by exact_mod_cast below)
  rw [percentD.shown_eq, Int.bmod_neg _ _ (by omega), residue]
  omega

/-- The number of the digests is added to an event of `12 + rest` bytes where 4 belongs. -/
theorem shown_totalEventSize_iff (percentD : PercentD) {startAddr lastAddr count rest : Nat}
    (ordered : startAddr ≤ lastAddr) (small : count < 2 ^ 8) :
    percentD.shown (totalEventSize startAddr lastAddr (4 + 4 + count + rest)) =
        ((lastAddr - startAddr + (12 + rest) : Nat) : Int) ↔
      count = 4 ∧ lastAddr - startAddr + (12 + rest) < 2 ^ 31 := by
  by_cases below : lastAddr - startAddr + (12 + rest) < 2 ^ 31
  · have total : totalEventSize startAddr lastAddr (4 + 4 + count + rest) =
        lastAddr - startAddr + (8 + count + rest) := by
      rw [totalEventSize]
      omega
    rw [total]
    by_cases shown : lastAddr - startAddr + (8 + count + rest) < 2 ^ 31
    · rw [shown_of_lt percentD shown]
      omega
    · have negative := shown_neg percentD (Nat.not_lt.mp shown) (by omega)
      omega
  · have less := shown_lt percentD (totalEventSize startAddr lastAddr (4 + 4 + count + rest))
    omega

/-! ## The report -/

section Report

variable (percentD : PercentD) (log : StoredLog) (cap : Capability)

theorem mem_printedIf {condition : Bool} {line other : Printed} :
    other ∈ printedIf condition line ↔ condition = true ∧ other = line := by
  cases condition <;> simp [printedIf]

theorem totalEventSize_not_mem_capabilityLines (shown : Int) :
    .totalEventSize shown ∉ capabilityLines cap := by
  simp [capabilityLines, mem_printedIf]

theorem efiMain_eq (tcg12 : Except Nat (Nat × Nat)) (fuel : Nat) :
    efiMain percentD log.memory (.ok (log.protocol cap tcg12)) fuel =
      printAll (capabilityLines cap) >>= fun _ =>
        dumpTcg2 percentD log.memory fuel log.startAddr log.lastAddr := rfl

/-- What the dump of the last entry adds up. -/
def StoredLog.reported (log : StoredLog) : Int :=
  percentD.shown (totalEventSize log.startAddr log.lastAddr
    (4 + 4 + log.last.digests.length +
      (digestsLength log.last.digests + 4 + log.last.event.length)))

theorem dumpAddresses_prints (format : TpmEvLogDump.EventLogFormat) (startAddr lastAddr : Nat) :
    Prints (dumpAddresses format startAddr lastAddr)
      [.getEventLog format, .firstEntryAddr startAddr, .lastEntryAddr lastAddr,
        .dumpLastEntryEvent] () := rfl

def StoredLog.lastEntryLines (log : StoredLog) : List Printed :=
  .pcrIndex log.last.pcrIndex.toNat :: .eventType log.last.eventType.toNat ::
    .digests log.last.digests.length ::
    ((log.last.digests.map fun entry => .algId entry.hashAlg) ++
      [.eventDataSize log.last.event.length, .totalEventSize (log.reported percentD)])

theorem dumpTcg2_prints {fuel : Nat} (small : log.last.digests.length < 2 ^ 8)
    (enough : log.last.digests.length < fuel) :
    Prints (dumpTcg2 percentD log.memory fuel log.startAddr log.lastAddr)
      ([.getEventLog .tcg2, .firstEntryAddr log.startAddr, .lastEntryAddr log.lastAddr,
        .dumpLastEntryEvent] ++ log.lastEntryLines percentD) efiSuccess := by
  obtain ⟨pcr, kind, _, digests, size, _⟩ := PcrEvent2.parts_stored log.stored
  have loop := @dumpDigests_prints log.memory _ fuel (log.lastAddr + 12)
    (4 + 4 + log.last.digests.length) _ 0 digests log.supported (Nat.zero_add _) small enough
  rw [dumpTcg2, pcr.readLe_eq log.last.pcrIndex.toNat_lt,
    kind.readLe_eq log.last.eventType.toNat_lt, digestCount_stored log.stored]
  refine (dumpAddresses_prints _ _ _).bind ?_
  simp only [StoredLog.lastEntryLines, prints_print_bind]
  refine loop.bind ?_
  rw [size.readLe_eq log.last.event_length]
  simp only [prints_print_bind, StoredLog.reported, Nat.add_assoc]
  exact prints_pure _

theorem mem_lines_of_done {run : Dump Nat} {lines : List Printed} {value : Nat}
    (prints : Prints run lines value) (shown : Int) :
    .totalEventSize shown ∈ (printAll (capabilityLines cap) >>= fun _ => run).lines ↔
      .totalEventSize shown ∈ lines := by
  have printed : Prints (printAll (capabilityLines cap)) (capabilityLines cap) () := rfl
  rw [printed.bind_eq, prints, List.mem_append]
  simp [totalEventSize_not_mem_capabilityLines]

theorem dumpTcg2_unfinished {fuel : Nat} (value : Nat)
    (short : 2 ^ 8 ≤ log.last.digests.length ∨ fuel ≤ log.last.digests.length) :
    (dumpTcg2 percentD log.memory fuel log.startAddr log.lastAddr).outcome ≠ .done value := by
  intro ends
  rw [dumpTcg2, digestCount_stored log.stored] at ends
  simp only [outcome_bind_eq_done] at ends
  obtain ⟨_, _, _, _, _, _, _, _, behind, loop, _⟩ := ends
  exact dumpDigests_unfinished 0 behind (by simpa using short) loop

theorem reportsSize_iff (tcg12 : Except Nat (Nat × Nat)) (occupied : Nat) :
    ReportsSize occupied (efiMain percentD log.memory (.ok (log.protocol cap tcg12))) ↔
      log.last.digests.length < 2 ^ 8 ∧ log.reported percentD = occupied := by
  have listed : ∀ shown, .totalEventSize shown ∈ [.getEventLog .tcg2,
      .firstEntryAddr log.startAddr, .lastEntryAddr log.lastAddr, .dumpLastEntryEvent] ++
        log.lastEntryLines percentD ↔ shown = log.reported percentD := by
    intro shown
    simp [StoredLog.lastEntryLines]
  constructor
  · rintro ⟨fuel, ends, total⟩
    rw [efiMain_eq, outcome_bind_eq_done] at ends
    obtain ⟨_, _, dumped⟩ := ends
    have enough := not_or.mp fun short => dumpTcg2_unfinished percentD log _ short dumped
    have prints := dumpTcg2_prints percentD log (Nat.not_le.mp enough.1) (Nat.not_le.mp enough.2)
    have reported := (total (log.reported percentD)).mp
      ((mem_lines_of_done cap prints _).mpr ((listed _).mpr rfl))
    exact ⟨Nat.not_le.mp enough.1, reported⟩
  · rintro ⟨small, reported⟩
    have prints := dumpTcg2_prints percentD log small (Nat.lt_succ_self _)
    refine ⟨_, outcome_bind_eq_done.mpr ⟨(), rfl, congrArg Program.outcome prints⟩, ?_⟩
    intro shown
    rw [efiMain_eq, mem_lines_of_done cap prints, listed, reported]

end Report

/-- `efi_main` comes to its end and reports the bytes that the log occupies exactly when
the last event has four digests and the log less than 2 GiB. -/
theorem efiMain_reportsSize_iff (percentD : PercentD) (log : StoredLog) (cap : Capability)
    (tcg12 : Except Nat (Nat × Nat)) :
    ReportsSize log.occupied
        (efiMain percentD log.memory (.ok (log.protocol cap tcg12))) ↔
      log.last.digests.length = 4 ∧ log.occupied < 2 ^ 31 := by
  have length : log.last.encode.length =
      12 + (digestsLength log.last.digests + 4 + log.last.event.length) := by
    rw [log.last.length_encode]
    omega
  rw [reportsSize_iff, StoredLog.occupied, length, StoredLog.reported]
  constructor
  · rintro ⟨small, reported⟩
    exact (shown_totalEventSize_iff percentD log.ordered small).mp reported
  · rintro ⟨four, below⟩
    have small : log.last.digests.length < 2 ^ 8 := by omega
    exact ⟨small, (shown_totalEventSize_iff percentD log.ordered small).mpr ⟨four, below⟩⟩

/-! ## An event with two digests -/

theorem separatorData_length : ([0, 0, 0, 0] : List UInt8).length < 2 ^ 32 := by decide

/-- SHA-1 and SHA-256, with the 4 bytes of data that EV_SEPARATOR has. -/
def twoBanks : PcrEvent2 where
  pcrIndex := 7
  eventType := 4
  digests := [⟨0x0004, List.replicate 20 0⟩, ⟨0x000B, List.replicate 32 0⟩]
  event := [0, 0, 0, 0]
  digests_length := by decide
  event_length := separatorData_length

def twoBanksLog : StoredLog where
  memory := Memory.ofBytesAt 0x1000 twoBanks.encode
  startAddr := 0x0F00
  lastAddr := 0x1000
  last := twoBanks
  stored := Memory.holds_ofBytesAt _ _
  supported := by decide
  ordered := by decide
  inSpace := by decide

def tpm20 : Capability := ⟨(1, 1), (1, 1), 3, 1, 3, 2, 3⟩

/-- The log occupies 332 bytes and 330 are reported. -/
theorem not_reportsSize_twoBanks :
    twoBanksLog.occupied = 332 ∧
      ¬ ReportsSize twoBanksLog.occupied (efiMain .int32 twoBanksLog.memory
        (.ok (twoBanksLog.protocol tpm20 (.error 14)))) := by
  refine ⟨by decide, fun reports => ?_⟩
  have reported := ((reportsSize_iff _ _ _ _ _).mp reports).2
  exact absurd reported (by decide)

end AppEfi.TpmTcgProto
