import AppEfi.AtaInfo.AtaPioDataIn

/-!
# What a transfer reads

The polls only add accesses that are no data, so the one invariant of the transfer loop is
about its own reads: each comes right behind a successful poll for DRQ and a check of the
status, and goes to the place behind the words so far.
-/

set_option autoImplicit false

namespace AppEfi.AtaInfo

open AppEfi.Dialogue

/-! ## Accesses that are no data -/

def Access.Quiet : Access → Prop
  | .readWMultiple _ _ _ => False
  | _ => True

/-- Such accesses do not change it. -/
def QuietlyKept (Invariant : List Access → Prop) : Prop :=
  ∀ history access, Access.Quiet access → Invariant history → Invariant (history ++ [access])

section Polls

variable {device : Device} {Invariant : List Access → Prop} (quiet : QuietlyKept Invariant)

include quiet

theorem ideWritePortB_keeps (port : Port) (data : UInt8) :
    Triple Invariant (ideWritePortB port data) fun _ => Invariant :=
  Triple.tell fun history holds => quiet history _ trivial holds

theorem stall_keeps (microseconds : Nat) :
    Triple Invariant (tell (.stall microseconds)) fun _ => Invariant :=
  Triple.tell fun history holds => quiet history _ trivial holds

/-- The value was read last. -/
def ReadLast (port : Port) (value : UInt8) (history : List Access) : Prop :=
  ∃ earlier, history = earlier ++ [.readB port value]

omit quiet in
theorem forget {Value : Type} {Further : List Access → Prop} {program : Driver Value}
    {post : Value → List Access → Prop} (triple : Triple Invariant program post) :
    Triple (fun history => Invariant history ∧ Further history) program post :=
  triple.consequence (fun _ both => both.1) (fun _ _ holds => holds)

theorem ideReadPortB_keeps (port : Port) :
    Triple Invariant (ideReadPortB device port) fun value history =>
      Invariant history ∧ ReadLast port value history :=
  Triple.ask fun history _ holds => ⟨quiet history _ trivial holds, history, rfl⟩

/-- A poll ends with success right behind a read of the wanted bits. -/
theorem poll_keeps (port : Port) (mask wanted : UInt8) (delay : Nat) :
    Triple Invariant (poll device port mask wanted delay) fun status history =>
      Invariant history ∧ (status = .success →
        ∃ value, ReadLast port value history ∧ value &&& mask = wanted) := by
  induction delay with
  | zero => exact Triple.pure fun _ holds => ⟨holds, nofun⟩
  | succ delay ih =>
      have again := (stall_keeps quiet 30).bind fun _ => ih
      rw [poll]
      refine (ideReadPortB_keeps quiet port).bind fun register => Triple.ite ?_ fun _ =>
        Triple.ite (fun _ => ?_) fun _ => forget again
      · intro ready
        exact Triple.pure fun _ holds => ⟨holds.1, fun _ => ⟨register, holds.2, ready⟩⟩
      · refine (forget (ideReadPortB_keeps quiet .reg1)).bind fun errorRegister =>
          Triple.ite (fun _ => ?_) fun _ => forget again
        exact Triple.pure fun _ holds => ⟨holds.1, nofun⟩

theorem pollBsyClear_keeps (delay : Nat) :
    Triple Invariant (pollBsyClear device delay) fun _ => Invariant := by
  induction delay with
  | zero => exact Triple.pure fun _ holds => holds
  | succ delay ih =>
      rw [pollBsyClear]
      refine (ideReadPortB_keeps quiet .reg).bind fun register => Triple.ite (fun _ => ?_)
        fun _ => forget ((stall_keeps quiet 30).bind fun _ => ih)
      exact Triple.pure fun _ holds => holds.1

theorem checkErrorStatus_keeps :
    Triple Invariant (checkErrorStatus device) fun _ => Invariant := by
  refine (ideReadPortB_keeps quiet .reg).bind fun register => Triple.ite (fun _ => ?_) fun _ => ?_
  · exact Triple.pure fun _ holds => holds.1
  · exact Triple.pure fun _ holds => holds.1

end Polls

/-! ## The words so far -/

section Words

variable {history : List Access} {access : Access}

theorem wordsRead_quiet (quiet : access.Quiet) :
    wordsRead (history ++ [access]) = wordsRead history := by
  cases access <;> simp_all [wordsRead, Access.Quiet]

theorem stores_quiet (quiet : access.Quiet) : stores (history ++ [access]) = stores history := by
  cases access <;> simp_all [stores, Access.Quiet]

theorem wordsRead_concat (port : Port) (place : Nat) (words : List UInt16) :
    wordsRead (history ++ [.readWMultiple port place words]) = wordsRead history ++ words := by
  simp [wordsRead]

theorem stores_concat (port : Port) (place : Nat) (words : List UInt16) :
    stores (history ++ [.readWMultiple port place words]) =
      stores history ++ words.zipIdx place := by
  simp [stores]

theorem readsWhenReady_quiet (quiet : access.Quiet) (ready : ReadsWhenReady history) :
    ReadsWhenReady (history ++ [access]) := by
  intro before port place words upTo
  rcases List.prefix_concat_iff.mp upTo with whole | earlier
  · obtain ⟨-, last⟩ := List.append_inj' whole rfl
    obtain rfl := List.singleton_inj.mp last
    exact quiet.elim
  · exact ready before port place words earlier

theorem readsWhenReady_concat (place : Nat) (words : List UInt16)
    (ready : ReadsWhenReady history) (seen : SeenReady history) :
    ReadsWhenReady (history ++ [.readWMultiple .data place words]) := by
  intro before port other found upTo
  rcases List.prefix_concat_iff.mp upTo with whole | earlier
  · obtain ⟨rfl, last⟩ := List.append_inj' whole rfl
    cases last
    exact ⟨rfl, seen⟩
  · exact ready before port other found earlier

/-- The invariant of the transfer loop, with WordCount. -/
structure Sound (wordCount : Nat) (history : List Access) : Prop where
  ready : ReadsWhenReady history
  contiguous : stores history = (wordsRead history).zipIdx
  counted : (wordsRead history).length = wordCount

theorem Sound.keeps {wordCount count : Nat} (sound : Sound wordCount history)
    (inside : wordCount ≤ count) : Keeps count history :=
  ⟨sound.ready, sound.contiguous, Nat.le_trans (Nat.le_of_eq sound.counted) inside⟩

theorem sound_quietlyKept (wordCount : Nat) : QuietlyKept (Sound wordCount) := by
  intro history access quiet sound
  refine ⟨readsWhenReady_quiet quiet sound.ready, ?_, ?_⟩
  · rw [stores_quiet quiet, wordsRead_quiet quiet, sound.contiguous]
  · rw [wordsRead_quiet quiet, sound.counted]

theorem Sound.concat {wordCount : Nat} (sound : Sound wordCount history)
    (seen : SeenReady history) (words : List UInt16) :
    Sound (wordCount + words.length)
      (history ++ [.readWMultiple .data wordCount words]) := by
  refine ⟨readsWhenReady_concat _ _ sound.ready seen, ?_, ?_⟩
  · rw [stores_concat, wordsRead_concat, sound.contiguous, List.zipIdx_append, sound.counted,
      Nat.zero_add]
  · rw [wordsRead_concat, List.length_append, sound.counted]

end Words

/-! ## The transfer loop -/

section Transfer

variable {device : Device}

theorem checkErrorStatus_seen (wordCount : Nat) :
    Triple (fun history => Sound wordCount history ∧
        ∃ value, ReadLast .alt value history ∧ value &&& (bsy ||| drq) = drq)
      (checkErrorStatus device) fun status history =>
        Sound wordCount history ∧ (status = .success → SeenReady history) := by
  have read : Triple (fun history => Sound wordCount history ∧
        ∃ value, ReadLast .alt value history ∧ value &&& (bsy ||| drq) = drq)
      (ideReadPortB device .reg) fun status history => Sound wordCount history ∧
        (status &&& (err ||| dwf ||| corr) = 0 → SeenReady history) := by
    refine Triple.ask fun history status => ?_
    rintro ⟨sound, value, ⟨earlier, rfl⟩, ready⟩
    refine ⟨sound_quietlyKept wordCount _ _ trivial sound, fun clear => ?_⟩
    exact ⟨earlier, value, status, List.append_assoc _ _ _, ready, clear⟩
  refine read.bind fun status => Triple.ite (fun clear => ?_) fun _ => ?_
  · exact Triple.pure fun _ holds => ⟨holds.1, fun _ => holds.2 clear⟩
  · exact Triple.pure fun _ holds => ⟨holds.1, nofun⟩

theorem ideReadPortWMultiple_sound (wordCount count : Nat) :
    Triple (fun history => Sound wordCount history ∧ SeenReady history)
      (ideReadPortWMultiple device .data count wordCount)
      fun _ => Sound (wordCount + count) := by
  rintro history ⟨sound, seen⟩
  have next := sound.concat seen ((List.range count).map (device.word history .data))
  rwa [List.length_map, List.length_range] at next

/-- What the loop has come to when it returns. -/
structure Returns (count : Nat) (enough : Prop) (result : Option Status)
    (history : List Access) : Prop where
  keeps : Keeps count history
  complete : result = some .success → (wordsRead history).length = count
  ends : enough → result ≠ none

theorem fails_triple {wordCount count : Nat} (inside : wordCount ≤ count) (enough : Prop)
    {Further : List Access → Prop} :
    Triple (fun history => Sound wordCount history ∧ Further history)
      (pure (some .deviceError) : Driver (Option Status)) (Returns count enough) :=
  Triple.pure fun _ holds => ⟨holds.1.keeps inside, nofun, fun _ => nofun⟩

theorem transfer_triple (byteCount : UInt32) (fuel : Nat) {wordCount increment : Nat}
    (inside : wordCount ≤ byteCount.toNat / 2) (positive : 0 < increment) :
    Triple (Sound wordCount) (transfer device byteCount fuel wordCount increment wordCount)
      (Returns (byteCount.toNat / 2) (byteCount.toNat / 2 - wordCount < fuel)) := by
  induction fuel generalizing wordCount increment with
  | zero =>
      exact Triple.pure fun _ holds => ⟨holds.keeps inside, nofun, fun enough => nomatch enough⟩
  | succ fuel ih =>
      rw [transfer]
      refine Triple.ite (fun more => ?_) fun done => ?_
      · refine (poll_keeps (sound_quietlyKept wordCount) .alt _ _ _).bind fun status =>
          Triple.ite (fun _ => fails_triple inside _) fun success => ?_
        have polled := not_not.mp success
        refine Triple.bind ((checkErrorStatus_seen wordCount).consequence
          (fun _ holds => ⟨holds.1, holds.2 polled⟩) fun _ _ holds => holds) fun status =>
            Triple.ite (fun _ => fails_triple inside _) fun success => ?_
        have checked := not_not.mp success
        have block : ∀ next, next = (if wordCount + increment > byteCount.toNat / 2 then
            byteCount.toNat / 2 - wordCount else increment) →
              0 < next ∧ wordCount + next ≤ byteCount.toNat / 2 := by
          rintro next rfl
          split <;> omega
        obtain ⟨some, fits⟩ := block _ rfl
        refine Triple.bind ((ideReadPortWMultiple_sound wordCount _).consequence
          (fun _ holds => ⟨holds.1, holds.2 checked⟩) fun _ _ holds => holds) fun _ => ?_
        refine (ih fits some).consequence (fun _ holds => holds) fun _ _ returns => ?_
        exact ⟨returns.keeps, returns.complete, fun enough => returns.ends (by omega)⟩
      · have all : wordCount = byteCount.toNat / 2 := by omega
        refine (poll_keeps (sound_quietlyKept wordCount) .reg _ _ _).bind fun _ =>
          (forget (checkErrorStatus_keeps (sound_quietlyKept wordCount))).bind fun status => ?_
        exact Triple.pure fun _ holds =>
          ⟨holds.keeps inside, fun _ => holds.counted.trans all, fun _ => nofun⟩

theorem sendCommand_triple (command : AtaCommand) (byteCount : UInt32) (fuel : Nat) :
    Triple (Sound 0) (sendCommand device command byteCount fuel)
      (Returns (byteCount.toNat / 2) (byteCount.toNat / 2 < fuel)) := by
  have kept := sound_quietlyKept 0
  refine (poll_keeps kept .alt _ _ _).bind fun status =>
    Triple.ite (fun _ => fails_triple (Nat.zero_le _) _) fun _ => ?_
  refine (forget (ideWritePortB_keeps kept _ _)).bind fun _ => ?_
  refine (ideWritePortB_keeps kept _ _).bind fun _ => ?_
  refine (ideWritePortB_keeps kept _ _).bind fun _ => ?_
  refine (ideWritePortB_keeps kept _ _).bind fun _ => ?_
  refine (ideWritePortB_keeps kept _ _).bind fun _ => ?_
  refine (ideWritePortB_keeps kept _ _).bind fun _ => ?_
  exact transfer_triple byteCount fuel (Nat.zero_le _) (by decide)

theorem ataPioDataIn_triple (ideDev : IdeDev) (command : AtaCommand) (byteCount : UInt32)
    (fuel : Nat) :
    Triple (Sound 0) (ataPioDataIn device ideDev command byteCount fuel)
      (Returns (byteCount.toNat / 2) (byteCount.toNat / 2 < fuel)) := by
  have kept := sound_quietlyKept 0
  have send := @sendCommand_triple device command byteCount fuel
  have fails : Triple (Sound 0) (pure (some .deviceError) : Driver (Option Status))
      (Returns (byteCount.toNat / 2) (byteCount.toNat / 2 < fuel)) :=
    Triple.pure fun _ holds => ⟨holds.keeps (Nat.zero_le _), nofun, fun _ => nofun⟩
  refine (pollBsyClear_keeps kept _).bind fun status => Triple.ite (fun _ => fails) fun _ => ?_
  refine (ideWritePortB_keeps kept _ _).bind fun _ =>
    Triple.ite (fun _ => ?_) fun _ => send
  exact (poll_keeps kept .reg _ _ _).bind fun status =>
    Triple.ite (fun _ => forget fails) fun _ => forget send

end Transfer

theorem sound_nil : Sound 0 [] := by
  refine ⟨fun before port place words upTo => ?_, rfl, rfl⟩
  have length := upTo.length_le
  simp at length

/-- Whatever the device answers, for every count of bytes. -/
theorem ataPioDataIn_transfers (device : Device) (ideDev : IdeDev) (command : AtaCommand)
    (byteCount : UInt32) :
    Transfers (byteCount.toNat / 2)
      (fun fuel => ataPioDataIn device ideDev command byteCount fuel []) := by
  have run := fun fuel => @ataPioDataIn_triple device ideDev command byteCount fuel [] sound_nil
  exact ⟨⟨byteCount.toNat / 2 + 1, (run _).ends (Nat.lt_succ_self _)⟩,
    fun fuel => (run fuel).keeps, fun fuel => (run fuel).complete⟩

end AppEfi.AtaInfo
