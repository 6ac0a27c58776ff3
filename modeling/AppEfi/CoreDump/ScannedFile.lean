import AppEfi.CoreDump.SupportFile

/-!
# When the file is read

A volume for which nothing is returned leaves the outputs and the locals alone.  The first
volume that does not is recorded, the second ends the scan, whether they yield the file or
are without a pool.
-/

set_option autoImplicit false

namespace AppEfi.CoreDump

/-! ## What a volume leaves alone -/

/-- The outputs and the locals are the same; only new pools were freed. -/
structure Frame (state after : State) : Prop where
  thisVol : after.thisVol = state.thisVol
  bufferSize : after.bufferSize = state.bufferSize
  buffer : after.buffer = state.buffer
  tempBufferSize : after.tempBufferSize = state.tempBufferSize
  tempBuffer : after.tempBuffer = state.tempBuffer
  pools : state.pools <+: after.pools
  freed : ∀ pointer ∈ after.freed, pointer ∈ state.freed ∨
    ∃ id, state.pools.length ≤ id ∧ id < after.pools.length ∧ pointer = .pool id

theorem Frame.refl (state : State) : Frame state state :=
  ⟨rfl, rfl, rfl, rfl, rfl, List.prefix_refl _, fun _ freed => Or.inl freed⟩

theorem Frame.trans {state between after : State} (first : Frame state between)
    (second : Frame between after) : Frame state after := by
  refine ⟨second.thisVol.trans first.thisVol, second.bufferSize.trans first.bufferSize,
    second.buffer.trans first.buffer, second.tempBufferSize.trans first.tempBufferSize,
    second.tempBuffer.trans first.tempBuffer, first.pools.trans second.pools, ?_⟩
  intro pointer freed
  have grown := first.pools.length_le
  have more := second.pools.length_le
  rcases second.freed pointer freed with before | ⟨id, new, below, rfl⟩
  · rcases first.freed pointer before with old | ⟨id, new, below, rfl⟩
    · exact Or.inl old
    · exact Or.inr ⟨id, new, Nat.lt_of_lt_of_le below more, rfl⟩
  · exact Or.inr ⟨id, Nat.le_trans grown new, below, rfl⟩

/-- A pool that is allocated and freed again. -/
theorem frame_allocate_freePool (state : State) (pool : List UInt8) :
    Frame state ((state.allocate pool).freePool (.pool state.pools.length)) := by
  refine ⟨rfl, rfl, rfl, rfl, rfl, List.prefix_append _ _, ?_⟩
  intro pointer freed
  rcases List.mem_cons.mp freed with rfl | before
  · exact Or.inr ⟨_, Nat.le_refl _, by simp [State.freePool, State.allocate], rfl⟩
  · exact Or.inl before

theorem Frame.clean_of_null {start after : State} (frame : Frame start after)
    (start_freed : ∀ pointer ∈ start.freed, pointer = .callers) (null : start.buffer = .null) :
    after.Clean := by
  rw [State.Clean, frame.buffer, null]
  refine ⟨nofun, fun freed => ?_⟩
  rcases frame.freed _ freed with old | ⟨id, _, _, same⟩
  · exact nomatch start_freed _ old
  · cases same

@[simp] theorem isOk_ok (done : Unit) : Except.isOk (.ok done : EfiStatus) = true := rfl

@[simp] theorem isOk_error (status : Nat) : Except.isOk (.error status : EfiStatus) = false := rfl

section Volumes

variable {bits : Nat} {volume : Volume} {state : State}

/-- No error comes back for the volume. -/
def Volume.answers (volume : Volume) : Bool := volume.yields || volume.allocationFails

/-- The three ways in which ReadFileFromVol comes back. -/
inductive ComesBack (bits : Nat) (volume : Volume) (state : State) : EfiStatus × State → Prop where
  | yields (yields : volume.yields = true) :
      ComesBack bits volume state (.ok (), state.received bits volume)
  | stale (yields : volume.yields = false) (fails : volume.allocationFails = true) :
      ComesBack bits volume state (.ok (), state)
  | error {status : Nat} {after : State} (answers : volume.answers = false)
      (frame : Frame state after) : ComesBack bits volume state (.error status, after)

theorem readFileFromVol_comesBack (handled : volume.handleProtocol = .ok ()) :
    ComesBack bits volume state (readFileFromVol bits volume state) := by
  rw [readFileFromVol]
  cases opened : volume.openVolume with
  | error status =>
      refine .error ?_ (Frame.refl state)
      simp [Volume.answers, Volume.yields, Volume.allocationFails, opened]
  | ok _ =>
  cases file : volume.openFile with
  | error status =>
      refine .error ?_ (Frame.refl state)
      simp [Volume.answers, Volume.yields, Volume.allocationFails, file]
  | ok _ =>
  cases info : volume.infoAllocated with
  | false =>
      refine .stale ?_ ?_
      · simp [Volume.yields, info]
      · simp [Volume.allocationFails, handled, opened, file, info]
  | true =>
  cases got : volume.getInfo with
  | error status =>
      refine .error ?_ (Frame.refl state)
      simp [Volume.answers, Volume.yields, Volume.allocationFails, info, got]
  | ok _ =>
  cases buffer : volume.bufferAllocated with
  | false =>
      refine .stale ?_ ?_
      · simp [Volume.yields, buffer]
      · simp [Volume.allocationFails, handled, opened, file, got, buffer]
  | true =>
  cases read : volume.read with
  | error status =>
      refine .error ?_ (frame_allocate_freePool state _)
      simp [Volume.answers, Volume.yields, Volume.allocationFails, info, buffer, read]
  | ok _ =>
      refine .yields ?_
      simp [Volume.yields, handled, opened, file, info, got, buffer, read]

theorem answers_of_error {status : Nat} (error : volume.handleProtocol = .error status) :
    volume.answers = false := by
  simp [Volume.answers, Volume.yields, Volume.allocationFails, error]

/-- The state behind a volume that answers, before it is recorded. -/
def State.behind (state : State) (bits : Nat) (volume : Volume) : State :=
  if volume.yields then state.received bits volume else state

theorem behind_of_yields (yields : volume.yields = true) :
    state.behind bits volume = state.received bits volume :=
  if_pos yields

theorem behind_of_not_yields (yields : volume.yields = false) :
    state.behind bits volume = state := by
  rw [State.behind, yields, if_neg Bool.false_ne_true]

/-- One volume of the scan. -/
theorem scan_cons (index : Nat) (rest : List Volume) :
    (volume.answers = false ∧ ∃ after, Frame state after ∧
      scan bits index (volume :: rest) state = scan bits (index + 1) rest after) ∨
    (volume.answers = true ∧ scan bits index (volume :: rest) state =
      match (state.behind bits volume).thisVol with
      | some _ => (.error efiNoMapping, ((state.behind bits volume).freePool
          (state.behind bits volume).tempBuffer).freePool (state.behind bits volume).buffer)
      | none => scan bits (index + 1) rest ((state.behind bits volume).record index)) := by
  rw [scan]
  cases handled : volume.handleProtocol with
  | error status => exact Or.inl ⟨answers_of_error handled, state, Frame.refl state, rfl⟩
  | ok _ =>
      have back := @readFileFromVol_comesBack bits volume state handled
      generalize readFileFromVol bits volume state = result at back
      cases back with
      | yields yields =>
          refine Or.inr ⟨by rw [Volume.answers, yields, Bool.true_or], ?_⟩
          exact behind_of_yields yields ▸ rfl
      | stale yields fails =>
          refine Or.inr ⟨by rw [Volume.answers, fails, Bool.or_true], ?_⟩
          exact behind_of_not_yields yields ▸ rfl
      | error answers frame => exact Or.inl ⟨answers, _, frame, rfl⟩

theorem behind_thisVol : (state.behind bits volume).thisVol = state.thisVol := by
  rw [State.behind]
  split <;> rfl

/-! ## The scan -/

/-- Behind a recorded volume one more that answers ends the scan. -/
theorem scan_recorded {volumes : List Volume} {index vol : Nat}
    (recorded : state.thisVol = some vol) :
    (volumes.any Volume.answers = false → ∃ after, Frame state after ∧
      scan bits index volumes state = (.ok (), after)) ∧
    (volumes.any Volume.answers = true → ∃ after, ¬ State.Clean after ∧
      scan bits index volumes state = (.error efiNoMapping, after)) := by
  induction volumes generalizing index state with
  | nil =>
      refine ⟨fun _ => ⟨state, Frame.refl state, ?_⟩, (nomatch ·)⟩
      rw [scan, recorded]
  | cons volume rest ih =>
      rcases @scan_cons bits volume state index rest with
        ⟨silent, after, frame, run⟩ | ⟨answers, run⟩
      · rw [run, List.any_cons, silent, Bool.false_or]
        obtain ⟨none, some⟩ := @ih after (index + 1) (frame.thisVol.trans recorded)
        refine ⟨fun quiet => ?_, some⟩
        obtain ⟨last, more, ends⟩ := none quiet
        exact ⟨last, frame.trans more, ends⟩
      · rw [run, List.any_cons, answers, Bool.true_or, behind_thisVol, recorded]
        refine ⟨(nomatch ·), fun _ => ⟨_, fun clean => clean.2 ?_, rfl⟩⟩
        exact List.mem_cons_self

/-- The volumes that answer, with their places. -/
def answering (index : Nat) (volumes : List Volume) : List (Volume × Nat) :=
  (volumes.zipIdx index).filter fun entry => entry.1.answers

/-- What a scan comes to, by the volumes that answer. -/
inductive ScanEnds (bits : Nat) (state : State) :
    List (Volume × Nat) → EfiStatus × State → Prop where
  | none {after : State} (frame : Frame state after) :
      ScanEnds bits state [] (.error efiNotFound, after)
  | one {entry : Volume × Nat} {before after : State} (first : Frame state before)
      (rest : Frame ((before.behind bits entry.1).record entry.2) after) :
      ScanEnds bits state [entry] (.ok (), after)
  | more {first second : Volume × Nat} {rest : List (Volume × Nat)} {after : State}
      (dirty : ¬ after.Clean) :
      ScanEnds bits state (first :: second :: rest) (.error efiNoMapping, after)

theorem ScanEnds.of_frame {between : State} {entries : List (Volume × Nat)}
    {outcome : EfiStatus × State} (frame : Frame state between)
    (ends : ScanEnds bits between entries outcome) : ScanEnds bits state entries outcome := by
  cases ends with
  | none more => exact .none (frame.trans more)
  | one first rest => exact .one (frame.trans first) rest
  | more dirty => exact .more dirty

theorem any_answers_iff (index : Nat) (volumes : List Volume) :
    volumes.any Volume.answers = true ↔ answering index volumes ≠ [] := by
  induction volumes generalizing index with
  | nil => simp [answering]
  | cons volume rest ih =>
      rw [List.any_cons, answering, List.zipIdx_cons, List.filter_cons]
      cases answers : volume.answers with
      | false =>
          rw [Bool.false_or, if_neg Bool.false_ne_true]
          exact ih (index + 1)
      | true => simp

theorem scan_ends {volumes : List Volume} {index : Nat} (cleared : state.thisVol = none) :
    ScanEnds bits state (answering index volumes) (scan bits index volumes state) := by
  induction volumes generalizing index state with
  | nil =>
      rw [scan, cleared]
      exact .none (Frame.refl state)
  | cons volume rest ih =>
      rcases @scan_cons bits volume state index rest with
        ⟨silent, after, frame, run⟩ | ⟨answers, run⟩
      · rw [run, answering, List.zipIdx_cons, List.filter_cons, if_neg (by simp [silent])]
        exact (ih (frame.thisVol.trans cleared)).of_frame frame
      · rw [run, behind_thisVol, cleared, answering, List.zipIdx_cons, List.filter_cons,
          if_pos answers]
        have behind := @scan_recorded bits ((state.behind bits volume).record index) rest
          (index + 1) index rfl
        by_cases some : rest.any Volume.answers = true
        · obtain ⟨last, dirty, ends⟩ := behind.2 some
          obtain ⟨second, others, listed⟩ :=
            List.exists_cons_of_ne_nil ((any_answers_iff (index + 1) rest).mp some)
          rw [answering] at listed
          rw [ends, listed]
          exact .more dirty
        · have quiet := Bool.eq_false_iff.mpr some
          obtain ⟨last, frame, ends⟩ := behind.1 quiet
          have listed := not_not.mp (mt (any_answers_iff (index + 1) rest).mpr some)
          rw [answering] at listed
          rw [ends, listed]
          exact .one (Frame.refl state) frame

/-! ## The file's bytes -/

theorem length_readBytes_iff (space : 2 < 2 ^ bits) :
    (volume.readBytes bits).length = volume.content.length ↔
      volume.content.length + 2 < 2 ^ bits := by
  rw [Volume.readBytes, List.length_take, Volume.tempBufferSize]
  generalize volume.content.length = length
  generalize 2 ^ bits = modulus at space ⊢
  by_cases fits : length + 2 < modulus
  · rw [Nat.mod_eq_of_lt (by omega : length < modulus), Nat.mod_eq_of_lt fits]
    omega
  · by_cases below : length < modulus
    · rw [Nat.mod_eq_of_lt below, Nat.mod_eq_sub_mod (Nat.not_lt.mp fits),
        Nat.mod_eq_of_lt (by omega)]
      omega
    · have lt := Nat.mod_lt (length % modulus + 2) (by omega : 0 < modulus)
      omega

theorem readBytes_eq (space : 2 < 2 ^ bits) (fits : volume.content.length + 2 < 2 ^ bits) :
    volume.readBytes bits = volume.content := by
  have length := (length_readBytes_iff space).mpr fits
  exact List.IsPrefix.eq_of_length (List.take_prefix _ _) length

variable {entry : Volume × Nat} {start before after : State}

/-- What is recorded for a volume that yields the file stays in the outputs. -/
theorem recorded_outputs (yields : entry.1.yields = true)
    (rest : Frame ((before.behind bits entry.1).record entry.2) after) :
    after.thisVol = some entry.2 ∧ after.bufferSize = some (entry.1.readBytes bits).length ∧
      after.buffer = .pool before.pools.length ∧
      after.pools[before.pools.length]? = some (entry.1.readPool bits) := by
  rw [behind_of_yields yields] at rest
  refine ⟨rest.thisVol, rest.bufferSize, rest.buffer, ?_⟩
  obtain ⟨more, pools⟩ := rest.pools
  rw [← pools]
  simp [State.record, State.received, State.allocate]

theorem recorded_clean (start_freed : ∀ pointer ∈ start.freed, pointer = .callers)
    (first : Frame start before) (yields : entry.1.yields = true)
    (rest : Frame ((before.behind bits entry.1).record entry.2) after) : after.Clean := by
  have buffer := (recorded_outputs yields rest).2.2.1
  rw [State.Clean, buffer]
  refine ⟨nofun, fun freed => ?_⟩
  rw [behind_of_yields yields] at rest
  rcases rest.freed _ freed with old | ⟨id, new, _, same⟩
  · rcases first.freed _ old with callers | ⟨id, _, below, same⟩
    · exact nomatch start_freed _ callers
    · rw [← Pointer.pool.inj same] at below
      exact Nat.lt_irrefl _ below
  · rw [← Pointer.pool.inj same] at new
    simp only [State.record, State.received, State.allocate, List.length_append,
      List.length_singleton] at new
    exact Nat.not_succ_le_self _ new

theorem describes_iff (space : 2 < 2 ^ bits)
    (start_freed : ∀ pointer ∈ start.freed, pointer = .callers) (first : Frame start before)
    (yields : entry.1.yields = true)
    (rest : Frame ((before.behind bits entry.1).record entry.2) after) :
    Describes entry after ↔ entry.1.content.length + 2 < 2 ^ bits := by
  obtain ⟨thisVol, bufferSize, buffer, pool⟩ := recorded_outputs yields rest
  constructor
  · intro describes
    have length := describes.bufferSize
    rw [bufferSize] at length
    exact (length_readBytes_iff space).mp (Option.some.inj length)
  · intro fits
    have bytes := readBytes_eq space fits
    rw [bytes] at bufferSize
    refine ⟨thisVol, bufferSize, ⟨_, _, buffer, pool, ?_⟩,
      recorded_clean start_freed first yields rest⟩
    rw [Volume.readPool, bytes, List.take_left']
    rfl

end Volumes

/-! ## Volumes that are one answer -/

theorem not_allocationFails_of_yields {volume : Volume} (yields : volume.yields = true) :
    volume.allocationFails = false := by
  simp only [Volume.yields, Bool.and_eq_true] at yields
  simp [Volume.allocationFails, yields]

theorem yielding_eq_filter (volumes : List Volume) :
    yielding volumes = (answering 0 volumes).filter fun entry => entry.1.yields := by
  rw [answering, List.filter_filter, yielding]
  refine List.filter_congr fun entry _ => ?_
  cases yields : entry.1.yields <;> simp [Volume.answers, yields]

theorem exists_mem_answering {volumes : List Volume} {volume : Volume}
    (member : volume ∈ volumes) (answers : volume.answers = true) :
    ∃ index, (volume, index) ∈ answering 0 volumes := by
  rw [← List.zipIdx_map_fst 0 volumes] at member
  obtain ⟨entry, listed, rfl⟩ := List.mem_map.mp member
  exact ⟨entry.2, List.mem_filter.mpr ⟨listed, answers⟩⟩

/-! ## The whole function -/

/-- No pool is missing, the file is on one volume at most and fits a buffer, and what the
caller had in `*Buffer` is fit to stay there where no handle is found. -/
structure ReadWhen (systems : FileSystems) (caller : Caller) : Prop where
  allocations : ∀ volume ∈ systems.volumes, volume.allocationFails = false
  once : (yielding systems.volumes).length ≤ 1
  fits : ∀ volume ∈ systems.volumes, volume.yields = true →
    volume.content.length + 2 < 2 ^ systems.bits
  callers : systems.located = none → caller.state.Clean

section Whole

variable {bits : Nat} {start : State} {volumes : List Volume} {outcome : EfiStatus × State}

theorem answering_eq_yielding
    (allocations : ∀ volume ∈ volumes, volume.allocationFails = false) :
    answering 0 volumes = yielding volumes := by
  rw [yielding_eq_filter, eq_comm, List.filter_eq_self]
  intro entry listed
  obtain ⟨member, answers⟩ := List.mem_filter.mp listed
  have works := allocations _ (List.fst_mem_of_mem_zipIdx member)
  rwa [Volume.answers, works, Bool.or_false] at answers

theorem scanned_of_reads (space : 2 < 2 ^ bits)
    (start_freed : ∀ pointer ∈ start.freed, pointer = .callers)
    (ends : ScanEnds bits start (answering 0 volumes) outcome)
    (reads : ReadsTheFile volumes outcome) :
    (∀ volume ∈ volumes, volume.allocationFails = false) ∧ (yielding volumes).length ≤ 1 ∧
      ∀ volume ∈ volumes, volume.yields = true → volume.content.length + 2 < 2 ^ bits := by
  have listed := fun (volume : Volume) (member : volume ∈ volumes) =>
    @exists_mem_answering volumes volume member
  have yielded := yielding_eq_filter volumes
  generalize answering 0 volumes = entries at ends listed yielded
  cases ends with
  | none frame =>
      have silent : ∀ volume ∈ volumes, volume.answers ≠ true :=
        fun volume member answers => nomatch (listed volume member answers).choose_spec
      simp only [Volume.answers, ne_eq, Bool.or_eq_true, not_or] at silent
      refine ⟨fun volume member => Bool.eq_false_iff.mpr (silent volume member).2, ?_,
        fun volume member yields => absurd yields (silent volume member).1⟩
      rw [yielded]
      exact Nat.zero_le 1
  | @one entry before after first rest =>
      obtain ⟨other, single⟩ := reads.success.mp rfl
      have same := single
      rw [yielded, List.filter_singleton] at same
      cases yields : entry.1.yields with
      | false =>
          rw [yields] at same
          cases same
      | true =>
          rw [yields] at same
          obtain rfl : entry = other := List.singleton_inj.mp same
          have here : entry ∈ yielding volumes := by
            rw [single]
            exact List.mem_singleton_self _
          have describes := reads.describes rfl entry here
          have fits := (describes_iff space start_freed first yields rest).mp describes
          have only : ∀ volume ∈ volumes, volume.answers = true → volume = entry.1 := by
            intro volume member answers
            obtain ⟨index, found⟩ := listed volume member answers
            exact congrArg Prod.fst (List.mem_singleton.mp found)
          refine ⟨fun volume member => ?_, by rw [single]; exact Nat.le_refl 1,
            fun volume member found => ?_⟩
          · by_contra fails
            have missing : volume.allocationFails = true := by simpa using fails
            have there := only volume member (by rw [Volume.answers, missing, Bool.or_true])
            rw [there, not_allocationFails_of_yields yields] at missing
            cases missing
          · rw [only volume member (by rw [Volume.answers, found, Bool.true_or])]
            exact fits
  | more dirty => exact absurd (reads.clean nofun) dirty

theorem reads_of_scanned (space : 2 < 2 ^ bits)
    (start_freed : ∀ pointer ∈ start.freed, pointer = .callers) (start_null : start.buffer = .null)
    (ends : ScanEnds bits start (answering 0 volumes) outcome)
    (allocations : ∀ volume ∈ volumes, volume.allocationFails = false)
    (once : (yielding volumes).length ≤ 1)
    (fits : ∀ volume ∈ volumes, volume.yields = true → volume.content.length + 2 < 2 ^ bits) :
    ReadsTheFile volumes outcome := by
  have only : ∀ entry ∈ yielding volumes, entry.1.content.length + 2 < 2 ^ bits := by
    intro entry listed
    obtain ⟨member, yields⟩ := List.mem_filter.mp listed
    exact fits _ (List.fst_mem_of_mem_zipIdx member) yields
  have each : ∀ entry ∈ yielding volumes, entry.1.yields = true :=
    fun entry listed => (List.mem_filter.mp listed).2
  rw [answering_eq_yielding allocations] at ends
  generalize listed : yielding volumes = entries at ends once only each
  cases ends with
  | none frame =>
      refine ⟨⟨nofun, fun found => ?_⟩, nofun, fun _ => ?_⟩
      · obtain ⟨entry, single⟩ := found
        rw [listed] at single
        cases single
      · exact frame.clean_of_null start_freed start_null
  | @one entry before after first rest =>
      refine ⟨⟨fun _ => ⟨entry, listed⟩, fun _ => rfl⟩, fun _ other found => ?_,
        fun fails => absurd rfl fails⟩
      rw [listed] at found
      obtain rfl := List.mem_singleton.mp found
      have here := List.mem_singleton_self other
      exact (describes_iff space start_freed first (each other here) rest).mpr (only other here)
  | more dirty => exact absurd once (by simp)

end Whole

section Function

variable (systems : FileSystems) (caller : Caller)

theorem not_located (located : systems.located = none) :
    ReadsTheFile systems.volumes (readFileToBufferEx systems caller) ↔
      ReadWhen systems caller := by
  have volumes : systems.volumes = [] := by rw [FileSystems.volumes, located, Option.getD_none]
  have run : readFileToBufferEx systems caller = (.error efiNotFound, caller.state) := by
    rw [readFileToBufferEx, located]
  rw [run, volumes]
  constructor
  · intro reads
    refine ⟨?_, ?_, ?_, fun _ => reads.clean nofun⟩
    · simp [volumes]
    · simp [volumes, yielding]
    · simp [volumes]
  · intro conditions
    exact ⟨⟨nofun, fun found => nomatch found.choose_spec⟩, nofun,
      fun _ => conditions.callers located⟩

theorem located_volumes {volumes : List Volume} (located : systems.located = some volumes) :
    ReadsTheFile systems.volumes (readFileToBufferEx systems caller) ↔
      ReadWhen systems caller := by
  have same : systems.volumes = volumes := by rw [FileSystems.volumes, located, Option.getD_some]
  have space : 2 < 2 ^ systems.bits := by
    rcases systems.bits_eq with bits | bits <;> rw [bits] <;> decide
  have ends := @scan_ends systems.bits
    { caller.state with thisVol := none, bufferSize := some 0, buffer := .null } volumes 0 rfl
  have run : readFileToBufferEx systems caller = scan systems.bits 0 volumes
      { caller.state with thisVol := none, bufferSize := some 0, buffer := .null } := by
    rw [readFileToBufferEx, located]
  rw [run]
  constructor
  · intro reads
    rw [same] at reads
    obtain ⟨allocations, once, fits⟩ := scanned_of_reads space caller.freed_callers ends reads
    rw [← same] at allocations once fits
    exact ⟨allocations, once, fits, fun none => nomatch located.symm.trans none⟩
  · intro conditions
    have allocations := conditions.allocations
    have once := conditions.once
    have fits := conditions.fits
    rw [same] at allocations once fits ⊢
    exact reads_of_scanned space caller.freed_callers rfl ends allocations once fits

end Function

/-- The scan succeeds for exactly one volume with the file, describes it, and otherwise leaves
a clean `*Buffer`, exactly under the conditions above. -/
theorem readFileToBufferEx_reads_iff (systems : FileSystems) (caller : Caller) :
    ReadsTheFile systems.volumes (readFileToBufferEx systems caller) ↔
      ReadWhen systems caller := by
  cases located : systems.located with
  | none => exact not_located systems caller located
  | some volumes => exact located_volumes systems caller located

/-! ## A volume without a pool for the file -/

/-- There is no pool for the data of the file. -/
def withoutPool : Volume where
  handleProtocol := .ok ()
  openVolume := .ok ()
  openFile := .ok ()
  infoAllocated := true
  getInfo := .ok ()
  bufferAllocated := false
  read := .ok ()
  content := [0x41]
  content_length := by decide

def oneVolume : FileSystems := ⟨64, some [withoutPool], Or.inr rfl⟩

def newCaller : Caller := ⟨none, none, .null, [], by simp⟩

/-- Success, with an uninitialised `*Buffer`. -/
theorem not_reads_withoutPool :
    (readFileToBufferEx oneVolume newCaller).1 = .ok () ∧
      (readFileToBufferEx oneVolume newCaller).2.buffer = .uninitialised ∧
      ¬ ReadsTheFile oneVolume.volumes (readFileToBufferEx oneVolume newCaller) := by
  refine ⟨rfl, rfl, fun reads => ?_⟩
  obtain ⟨entry, single⟩ := reads.success.mp rfl
  cases single

end AppEfi.CoreDump
