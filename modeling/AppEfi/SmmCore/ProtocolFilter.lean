import AppEfi.SmmCore.RoundTrip

/-!
# The tool's own protocol entry

Both passes over `mSmmCoreProtocolDatabase` leave out the entry of `gEfiCallerIdGuid`,
and they do it with a `break`.  What stands behind that entry is left out with it.
-/

set_option autoImplicit false

namespace AppEfi.SmmCore

open AppEfi.LittleEndian
open AppEfi.RecordWalk

/-! ## A prefix that is a filter -/

theorem takeWhile_eq_filter_iff {Entry : Type} (keep : Entry → Bool) (entries : List Entry) :
    entries.takeWhile keep = entries.filter keep ↔
      entries.Pairwise fun earlier later => keep later = true → keep earlier = true := by
  induction entries with
  | nil => simp
  | cons entry rest ih =>
      by_cases kept : keep entry = true
      · rw [List.takeWhile_cons_of_pos kept, List.filter_cons_of_pos kept, List.pairwise_cons,
          List.cons_inj_right, ih]
        exact (and_iff_right fun _ _ _ => kept).symm
      · rw [List.takeWhile_cons_of_neg kept, List.filter_cons_of_neg kept, List.pairwise_cons,
          eq_comm, List.filter_eq_nil_iff]
        constructor
        · intro none
          refine ⟨fun later member keeps => absurd keeps (none later member), ?_⟩
          refine List.pairwise_of_forall_mem_list fun earlier _ later member keeps => ?_
          exact absurd keeps (none later member)
        · rintro ⟨first, _⟩ later member keeps
          exact kept (first later member keeps)

theorem takeWhile_prefix_filter {Entry : Type} (keep : Entry → Bool) (entries : List Entry) :
    entries.takeWhile keep <+: entries.filter keep := by
  induction entries with
  | nil => exact List.prefix_refl []
  | cons entry rest ih =>
      by_cases kept : keep entry = true
      · rw [List.takeWhile_cons_of_pos kept, List.filter_cons_of_pos kept]
        exact (List.prefix_cons_inj entry).mpr ih
      · rw [List.takeWhile_cons_of_neg kept]
        exact List.nil_prefix

section Filter

variable {width : Nat} (env : Environment width) (images : List (ImageStruct width))
variable (entries : List (ProtocolEntry width))

def ProtocolEntry.recordSize (entry : ProtocolEntry width) : Nat :=
  (DatabaseRecord.protocol (entry.record env images)).size

def ProtocolEntry.recordBytes (entry : ProtocolEntry width) : List UInt8 :=
  (DatabaseRecord.protocol (entry.record env images)).encode

/-- The size pass counts the records of all other entries, and the data pass writes
them in the order of the list, each with its length, and nothing else. -/
structure DumpsOthers (data : Nat) (memory : Memory) : Prop where
  counted : getSmmProtocolDatabaseSize env entries =
    total (ProtocolEntry.recordSize env images) (otherProtocolEntries env entries)
  emitted : getSmmProtocolDatabaseData env images entries data
      (getSmmProtocolDatabaseSize env entries) memory =
    (memory.write data
        ((otherProtocolEntries env entries).flatMap (ProtocolEntry.recordBytes env images)),
      total (ProtocolEntry.recordSize env images) (otherProtocolEntries env entries))
  lengths : ∀ entry ∈ placed (ProtocolEntry.recordSize env images) data
      (otherProtocolEntries env entries),
    (getSmmProtocolDatabaseData env images entries data
        (getSmmProtocolDatabaseSize env entries) memory).1.readLe (entry.1 + 4) 4 =
      ProtocolEntry.recordSize env images entry.2

/-- Nothing but the tool's own entry again stands behind the tool's own entry. -/
def NothingBehindOwnEntry : Prop :=
  entries.Pairwise fun earlier later =>
    earlier.protocolId = env.gEfiCallerIdGuid → later.protocolId = env.gEfiCallerIdGuid

/-- Header.Length has 32 bits and the size of the database is a UINTN. -/
structure OthersFit : Prop where
  length : ∀ entry ∈ otherProtocolEntries env entries,
    ProtocolEntry.recordSize env images entry < 2 ^ 32
  total : total (ProtocolEntry.recordSize env images) (otherProtocolEntries env entries) <
    256 ^ width

variable {env images entries}

theorem dumpedProtocolEntries_eq_iff :
    dumpedProtocolEntries env entries = otherProtocolEntries env entries ↔
      NothingBehindOwnEntry env entries := by
  rw [dumpedProtocolEntries, otherProtocolEntries, takeWhile_eq_filter_iff, NothingBehindOwnEntry]
  simp only [ne_eq, decide_not, Bool.not_eq_true', decide_eq_false_iff_not, not_imp_not]

theorem recordSize_pos (entry : ProtocolEntry width) :
    0 < ProtocolEntry.recordSize env images entry :=
  Nat.lt_of_lt_of_le (by decide) (DatabaseRecord.size_pos _)

theorem recordSize_eq (entry : ProtocolEntry width) :
    ProtocolEntry.recordSize env images entry =
      sizeofProtocolRecord width + entry.protocols.length * sizeofAddressStruct width +
        entry.notify.length * sizeofAddressStruct width := by
  simp [ProtocolEntry.recordSize, DatabaseRecord.size, ProtocolRecord.size,
    ProtocolEntry.record]

theorem toUintn_le (value : Nat) : toUintn width value ≤ value := Nat.mod_le _ _

/-- A size pass that wraps counts too little. -/
theorem getSmmProtocolDatabaseSize_le :
    getSmmProtocolDatabaseSize env entries ≤
      total (ProtocolEntry.recordSize env images) (dumpedProtocolEntries env entries) := by
  refine Nat.le_trans (toUintn_le _) (List.sum_le_sum fun entry _ => ?_)
  rw [recordSize_eq]
  exact Nat.add_le_add (Nat.add_le_add_left (toUintn_le _) _) (toUintn_le _)

theorem getSmmProtocolDatabaseSize_eq
    (fits : total (ProtocolEntry.recordSize env images) (dumpedProtocolEntries env entries) <
      256 ^ width) :
    getSmmProtocolDatabaseSize env entries =
      total (ProtocolEntry.recordSize env images) (dumpedProtocolEntries env entries) := by
  refine toUintn_sum _ _ _ fits fun entry _ small => ?_
  rw [recordSize_eq] at small ⊢
  rw [getSmmProtocolInterfacesSizeOnProtocolEntry, getSmmProtocolNotifySizeOnProtocolEntry,
    toUintn_of_lt (by omega), toUintn_of_lt (by omega)]

theorem counted_iff :
    getSmmProtocolDatabaseSize env entries =
        total (ProtocolEntry.recordSize env images) (otherProtocolEntries env entries) ↔
      NothingBehindOwnEntry env entries ∧
        total (ProtocolEntry.recordSize env images) (otherProtocolEntries env entries) <
          256 ^ width := by
  constructor
  · intro counted
    -- What the `break` drops would have counted as well.
    obtain ⟨dropped, split⟩ : dumpedProtocolEntries env entries <+:
      otherProtocolEntries env entries := takeWhile_prefix_filter _ entries
    have below := @getSmmProtocolDatabaseSize_le width env images entries
    have sum := counted
    rw [← split, total_append] at sum
    have few := length_le_total (ProtocolEntry.recordSize env images) dropped
      fun entry _ => recordSize_pos entry
    have none : dropped = [] := List.eq_nil_of_length_eq_zero (by omega)
    rw [none, List.append_nil] at split
    refine ⟨dumpedProtocolEntries_eq_iff.mp split, ?_⟩
    rw [← counted]
    exact Nat.mod_lt _ (Nat.pow_pos (by decide))
  · rintro ⟨last, fits⟩
    rw [← dumpedProtocolEntries_eq_iff.mpr last] at fits ⊢
    exact getSmmProtocolDatabaseSize_eq fits

theorem map_protocol_of_clearReserved {written : List (DatabaseRecord width)}
    {records : List (ProtocolRecord width)}
    (same : written.map DatabaseRecord.clearReserved = records.map .protocol) :
    written = records.map .protocol := by
  induction written generalizing records with
  | nil => exact same
  | cons first rest ih =>
      cases records with
      | nil => cases same
      | cons record records =>
          rw [List.map_cons, List.map_cons, List.cons.injEq] at same
          rw [List.map_cons, ih same.2]
          cases first with
          | protocol first => exact congrArg (· :: _) same.1
          | image _ => cases same.1
          | handle _ => cases same.1
          | smi _ => cases same.1
          | child _ => cases same.1

theorem emitted_of_fit (uintn : 0 < width) (last : NothingBehindOwnEntry env entries)
    (fit : OthersFit env images entries) (data : Nat) (memory : Memory) :
    getSmmProtocolDatabaseData env images entries data
        (getSmmProtocolDatabaseSize env entries) memory =
      (memory.write data
          ((otherProtocolEntries env entries).flatMap (ProtocolEntry.recordBytes env images)),
        total (ProtocolEntry.recordSize env images) (otherProtocolEntries env entries)) := by
  have counted := counted_iff.mpr ⟨last, fit.total⟩
  have dumped := dumpedProtocolEntries_eq_iff.mpr last
  have short : ∀ entry ∈ dumpedProtocolEntries env entries,
      ProtocolEntry.recordSize env images entry < 2 ^ 32 := dumped ▸ fit.length
  obtain ⟨written, same, pass⟩ := getSmmProtocolDatabaseData_eq uintn entries short data memory
  have records : written = ((otherProtocolEntries env entries).map fun entry =>
      entry.record env images).map .protocol :=
    map_protocol_of_clearReserved (by rw [same, dumped, List.map_map]; rfl)
  rw [counted, total, ← dumped]
  refine pass.trans ?_
  rw [records, dumped, List.map_map, List.flatMap_map]
  rfl

theorem lengths_of_emitted (fit : OthersFit env images entries) {data : Nat}
    {memory : Memory} {entry : Nat × ProtocolEntry width}
    (member : entry ∈ placed (ProtocolEntry.recordSize env images) data
      (otherProtocolEntries env entries)) :
    (memory.write data
        ((otherProtocolEntries env entries).flatMap
          (ProtocolEntry.recordBytes env images))).readLe (entry.1 + 4) 4 =
      ProtocolEntry.recordSize env images entry.2 := by
  have sizes : ProtocolEntry.recordSize env images =
      fun entry => (ProtocolEntry.recordBytes env images entry).length := by
    funext entry
    exact (DatabaseRecord.length_encode _).symm
  have short := fit.length entry.2 (mem_of_mem_placed member)
  rw [sizes] at member
  have held := holds_of_mem_placed (Memory.holds_write memory data _) member
  exact (DatabaseRecord.holds_header held).2.readLe_eq short

/-- The passes dump every protocol but the tool's own exactly when its entry stands behind
the others, as far as the records fit their Header.Length and the size a UINTN. -/
theorem getSmmProtocolDatabaseData_others_iff (uintn : 0 < width) (data : Nat)
    (memory : Memory) :
    DumpsOthers env images entries data memory ↔
      NothingBehindOwnEntry env entries ∧ OthersFit env images entries := by
  constructor
  · intro dumps
    obtain ⟨last, fits⟩ := counted_iff.mp dumps.counted
    refine ⟨last, ?_, fits⟩
    intro entry member
    rw [← map_snd_placed (ProtocolEntry.recordSize env images) data
      (otherProtocolEntries env entries)] at member
    obtain ⟨stored, listed, rfl⟩ := List.mem_map.mp member
    rw [← dumps.lengths stored listed]
    exact Memory.readLe_lt _ _ _
  · rintro ⟨last, fit⟩
    have emitted := emitted_of_fit uintn last fit data memory
    refine ⟨counted_iff.mpr ⟨last, fit.total⟩, emitted, ?_⟩
    intro entry member
    rw [emitted]
    exact lengths_of_emitted fit member

end Filter

/-! ## The tool's entry before another one -/

section Concrete

def ownGuid : Guid := ⟨List.replicate 16 1, length_onesGuid⟩

def filterEnvironment : Environment 8 where
  gEfiCallerIdGuid := ownGuid
  gEfiSmmSwDispatch2ProtocolGuid := ⟨List.replicate 16 2, rfl⟩
  mProtocolFuncStruct := []
  load := fun _ => uintn 8 0

def emptyEntry (protocolId : Guid) : ProtocolEntry 8 := ⟨protocolId, [], []⟩

def otherGuid : Guid := ⟨List.replicate 16 3, rfl⟩

theorem getSmmProtocolDatabaseData_others_iff_ownLast :
    DumpsOthers filterEnvironment [] [emptyEntry otherGuid, emptyEntry ownGuid] 0x1000
      (fun _ => 0) :=
  (getSmmProtocolDatabaseData_others_iff (by decide) 0x1000 fun _ => 0).mpr
    ⟨by unfold NothingBehindOwnEntry; decide, ⟨by decide, by decide⟩⟩

/-- The tool's entry is the first one: nothing is dumped. -/
theorem getSmmProtocolDatabaseData_ownFirst :
    ¬ DumpsOthers filterEnvironment [] [emptyEntry ownGuid, emptyEntry otherGuid] 0x1000
      (fun _ => 0) := by
  intro dumps
  have counted := dumps.counted
  revert counted
  decide

end Concrete

end AppEfi.SmmCore
