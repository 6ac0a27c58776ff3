import AppEfi.Lib.Runs
import AppEfi.LsEfi.LsEfiSupport

/-!
# What is written and read back

Which resources the functions leave, and what they make of the disk.
-/

set_option autoImplicit false

namespace AppEfi.LsEfi.Support

open AppEfi.Dialogue
open AppEfi.Ledger
open AppEfi.Runs

/-! ## Resources -/

/-- The buffer that the caller gets, or that nobody has. -/
def ReadStatus.left : ReadStatus → Multiset Resource
  | .readFailed tempBuffer => {.pool tempBuffer}
  | .success buffer _ => {.pool buffer}
  | _ => 0

section Resources

variable {shell : Shell}

theorem closeFile_owns (handle : Nat) :
    Owns Call.move {.file handle} (tell (Call.closeFile handle)) fun _ => 0 := Owns.tell rfl rfl

theorem freePool_owns (buffer : Nat) :
    Owns Call.move {.pool buffer} (tell (Call.freePool buffer)) fun _ => 0 := Owns.tell rfl rfl

theorem openFileByName_owns (fileName : Argument) (create : Bool) :
    Owns Call.move 0
      (ask (shell.openFileByName fileName create) (.openFileByName fileName create))
      fun handle => handle.elim 0 fun handle => {.file handle} :=
  Owns.ask (fun handle => by cases handle <;> rfl) fun handle => by cases handle <;> rfl

theorem readOpened_owns (handle : Nat) :
    Owns Call.move {.file handle} (readOpened shell handle) ReadStatus.left := by
  have size : Owns Call.move {.file handle}
      (ask (shell.getFileSize handle) (.getFileSize handle)) fun _ => {.file handle} :=
    Owns.ask (fun _ => rfl) fun _ => rfl
  refine size.bind fun fileSize => ?_
  cases fileSize with
  | none => exact (closeFile_owns handle).bind fun _ => Owns.pure rfl
  | some tempBufferSize =>
      have allocate : Owns Call.move 0
          (ask (shell.allocateZeroPool tempBufferSize) (.allocateZeroPool tempBufferSize))
          fun buffer => buffer.elim 0 fun buffer => {.pool buffer} :=
        Owns.ask (fun buffer => by cases buffer <;> rfl) fun buffer => by cases buffer <;> rfl
      refine (allocate.more {.file handle}).bind fun buffer => ?_
      cases buffer with
      | none =>
          rw [Option.elim_none, zero_add]
          exact (closeFile_owns handle).bind fun _ => Owns.pure rfl
      | some tempBuffer =>
          have read : Owns Call.move {.pool tempBuffer, .file handle}
              (ask (shell.readFile handle tempBufferSize)
                (.readFile handle tempBuffer tempBufferSize))
              fun _ => {.pool tempBuffer, .file handle} := Owns.ask (fun _ => rfl) fun _ => rfl
          have close := (closeFile_owns handle).frame {.pool tempBuffer}
          rw [add_comm, zero_add] at close
          refine read.bind fun data => ?_
          cases data with
          | none => exact close.bind fun _ => Owns.pure rfl
          | some data => exact close.bind fun _ => Owns.pure rfl

theorem readFileToBuffer_owns (fileName : Argument) :
    Owns Call.move 0 (readFileToBuffer shell fileName) ReadStatus.left := by
  refine Owns.ite (fun _ => (openFileByName_owns fileName false).bind fun handle => ?_)
    fun _ => Owns.pure rfl
  cases handle with
  | none => exact Owns.pure rfl
  | some handle => exact readOpened_owns handle

end Resources

/-! ## Contents -/

/-- A handle at the start of a file, on a disk that has other contents in this file only. -/
structure Disk.At (disk : Disk) (files : Argument → Option (List UInt8)) (handle : Nat)
    (fileName : Argument) (contents : List UInt8) : Prop where
  position : disk.handles handle = some (fileName, 0)
  files : disk.files = Function.update files fileName (some contents)

section Contents

variable {shell : Shell} {start : Disk} {files : Argument → Option (List UInt8)}
variable {fileName : Argument} {contents : List UInt8} {handle : Nat}

theorem Disk.after_concat (history : List Call) (call : Call) :
    start.after (history ++ [call]) = (start.after history).step call := by
  simp only [Disk.after, List.foldl_append, List.foldl_cons, List.foldl_nil]

theorem Disk.At.contents_eq {disk : Disk} (stands : disk.At files handle fileName contents) :
    disk.files fileName = some contents := by
  rw [stands.files, Function.update_self]

theorem Disk.At.change {disk : Disk} (stands : disk.At files handle fileName contents)
    (turn : Nat → List UInt8 → List UInt8 × Nat) :
    (disk.change handle turn).files =
        Function.update files fileName (some (turn 0 contents).1) ∧
      (disk.change handle turn).handles handle = some (fileName, (turn 0 contents).2) := by
  rw [Disk.change, stands.position]
  simp only [stands.contents_eq, Option.getD_some, Function.update_self, and_true]
  rw [stands.files, Function.update_idem]

theorem overlay_nil (data : List UInt8) : overlay [] 0 data = data := by
  simp [overlay]

theorem resize_zero (contents : List UInt8) : resize contents 0 = [] := by
  simp [resize]

/-- Calls that leave the handle and the file. -/
theorem triple_keeps {Value : Type} {answer : List Call → Value} {event : Value → Call}
    {told : Value → Prop}
    (keeps : ∀ disk value, Disk.step disk (event value) = disk)
    (tells : ∀ history, (start.after history).At files handle fileName contents →
      told (answer history)) :
    Triple (fun history => (start.after history).At files handle fileName contents)
      (ask answer event) fun value history =>
        (start.after history).At files handle fileName contents ∧ told value := by
  refine Triple.answered fun history stands => ⟨?_, tells history stands⟩
  rw [Disk.after_concat, keeps]
  exact stands

theorem triple_closeFile {left : Argument → Option (List UInt8)} :
    Triple (fun history => (start.after history).files = left) (tell (Call.closeFile handle))
      fun _ history => (start.after history).files = left :=
  fun history same =>
    (congrArg Disk.files (Disk.after_concat history (.closeFile handle))).trans same

theorem triple_closeAt :
    Triple (fun history => (start.after history).At files handle fileName contents)
      (tell (Call.closeFile handle)) fun _ history =>
        (start.after history).files = Function.update files fileName (some contents) :=
  triple_closeFile.consequence (fun _ stands => stands.files) fun _ _ same => same

theorem triple_freePool (fileInfo : Nat) :
    Triple (fun history => (start.after history).At files handle fileName contents)
      (tell (Call.freePool fileInfo)) fun _ history =>
        (start.after history).At files handle fileName contents := by
  intro history stands
  have kept : start.after (history ++ [.freePool fileInfo]) = start.after history :=
    Disk.after_concat history (.freePool fileInfo)
  exact kept ▸ stands

theorem readFile_reads (honest : shell.Honest start) (tempBuffer : Nat) :
    Triple (fun history => (start.after history).At files handle fileName contents)
      (ask (shell.readFile handle contents.length)
        (.readFile handle tempBuffer contents.length)) fun data history =>
        (start.after history).files = Function.update files fileName (some contents) ∧
          ∀ bytes, data = some bytes → bytes = contents := by
  refine Triple.answered fun history stands => ⟨?_, fun bytes told => ?_⟩
  · rw [Disk.after_concat]
    cases shell.readFile handle contents.length history with
    | none => exact stands.files
    | some data => exact (stands.change fun position bytes => (bytes, position + data.length)).1
  · have read := honest.reads history handle contents.length bytes fileName 0 contents told
      stands.position stands.contents_eq
    rwa [List.drop_zero, List.take_length] at read

theorem readOpened_reads (honest : shell.Honest start) :
    Triple (fun history => (start.after history).At files handle fileName contents)
      (readOpened shell handle) fun status history =>
        (start.after history).files = Function.update files fileName (some contents) ∧
          ∀ buffer data, status = .success buffer data → data = contents := by
  have size := @triple_keeps start files fileName contents handle _ (shell.getFileSize handle)
    (.getFileSize handle) (fun fileSize => ∀ size, fileSize = some size → size = contents.length)
    (fun _ _ => rfl) fun history stands size told =>
      honest.size history handle size fileName 0 contents told stands.position stands.contents_eq
  have allocate := @triple_keeps start files fileName contents handle _
    (shell.allocateZeroPool contents.length) (.allocateZeroPool contents.length)
    (fun _ => True) (fun _ buffer => by cases buffer <;> rfl) fun _ _ => trivial
  refine size.bind fun fileSize => Triple.known fun told => ?_
  cases fileSize with
  | none =>
      exact triple_closeAt.bind fun _ => Triple.pure fun history same => ⟨same, nofun⟩
  | some tempBufferSize =>
      obtain rfl := told tempBufferSize rfl
      refine allocate.bind fun buffer => Triple.known fun _ => ?_
      cases buffer with
      | none =>
          exact triple_closeAt.bind fun _ => Triple.pure fun history same => ⟨same, nofun⟩
      | some tempBuffer =>
          refine (readFile_reads honest tempBuffer).bind fun data => Triple.known fun told => ?_
          cases data with
          | none =>
              exact triple_closeFile.bind fun _ => Triple.pure fun history same => ⟨same, nofun⟩
          | some bytes =>
              refine triple_closeFile.bind fun _ => Triple.pure fun history same => ⟨same, ?_⟩
              rintro buffer data ⟨rfl, rfl⟩
              exact told _ rfl

/-- Reading changes no file, and what is read is what the file has. -/
theorem readFileToBuffer_reads (honest : shell.Honest start) (fileName : Argument) :
    Triple (fun history => (start.after history).files = files)
      (readFileToBuffer shell fileName) fun status history =>
        (start.after history).files = files ∧
          ∀ buffer data, status = .success buffer data → files fileName = some data := by
  refine Triple.ite (fun _ => ?_) fun _ => Triple.pure fun history same => ⟨same, nofun⟩
  have opened : Triple (fun history => (start.after history).files = files)
      (ask (shell.openFileByName fileName false) (.openFileByName fileName false))
      fun handle history => (start.after history).files = files ∧
        ∀ number, handle = some number → ∃ contents, files fileName = some contents ∧
          (start.after history).At files number fileName contents := by
    refine Triple.answered fun history same => ?_
    rw [Disk.after_concat]
    cases told : shell.openFileByName fileName false history with
    | none => exact ⟨same, nofun⟩
    | some handle =>
        refine ⟨same, ?_⟩
        rintro number ⟨rfl⟩
        obtain ⟨contents, exists_⟩ :=
          Option.ne_none_iff_exists'.mp (honest.opens history fileName handle told)
        rw [same] at exists_
        refine ⟨contents, exists_, Function.update_self _ _ _, ?_⟩
        rw [← exists_, Function.update_eq_self]
        exact same
  refine opened.bind fun handle => ?_
  cases handle with
  | none => exact Triple.pure fun history holds => ⟨holds.1, nofun⟩
  | some handle =>
      rintro history ⟨-, stands⟩
      obtain ⟨contents, known, stands⟩ := stands handle rfl
      have read := readOpened_reads honest history stands
      rw [← known, Function.update_eq_self] at read
      refine ⟨read.1, fun buffer data success => ?_⟩
      rw [known, read.2 buffer data success]

/-- Only the file is changed, and it has the contents if they are told of. -/
def Disk.Left (disk : Disk) (files : Argument → Option (List UInt8)) (fileName : Argument)
    (told : Prop) (contents : List UInt8) : Prop :=
  ∃ left, disk.files = Function.update files fileName left ∧ (told → left = some contents)

theorem setFileInfo_empties (fileInfo : Nat) :
    Triple (fun history => (start.after history).At files handle fileName contents)
      (ask (shell.setFileInfo handle) (.setFileInfo handle fileInfo 0)) fun success history =>
        (start.after history).At files handle fileName (if success then [] else contents) := by
  refine Triple.answered fun history stands => ?_
  rw [Disk.after_concat]
  cases shell.setFileInfo handle history with
  | false => exact stands
  | true =>
      have emptied := stands.change fun position bytes => (resize bytes 0, position)
      rw [resize_zero] at emptied
      exact ⟨emptied.2, emptied.1⟩

theorem emptyContents_empties (fileInfo : Nat) :
    Triple (fun history => (start.after history).At files handle fileName contents)
      (emptyContents shell handle fileInfo contents.length) fun emptied history =>
        if emptied then (start.after history).At files handle fileName []
        else (start.after history).files = Function.update files fileName (some contents) := by
  refine Triple.ite (fun _ => ?_) fun empty => ?_
  · refine (setFileInfo_empties fileInfo).bind fun success => Triple.ite ?_ fun failed => ?_
    · rintro rfl
      exact (triple_freePool fileInfo).bind fun _ => Triple.pure fun history stands => stands
    · rw [if_neg failed]
      refine (triple_freePool fileInfo).bind fun _ => ?_
      exact triple_closeAt.bind fun _ => Triple.pure fun history same => same
  · obtain rfl := List.eq_nil_of_length_eq_zero (not_ne_iff.mp empty)
    exact (triple_freePool fileInfo).bind fun _ => Triple.pure fun history stands => stands

theorem writeFile_writes (data : List UInt8) :
    Triple (fun history => (start.after history).At files handle fileName [])
      (ask (shell.writeFile handle data) (.writeFile handle data)) fun success history =>
        (start.after history).files =
          Function.update files fileName (some (if success then data else [])) := by
  refine Triple.answered fun history stands => ?_
  rw [Disk.after_concat]
  cases shell.writeFile handle data history with
  | false => exact stands.files
  | true =>
      have written := stands.change fun position bytes =>
        (overlay bytes position data, position + data.length)
      rw [overlay_nil] at written
      exact written.1

theorem writeOpened_writes (honest : shell.Honest start) (data : List UInt8) :
    Triple (fun history => (start.after history).At files handle fileName contents)
      (writeOpened shell handle data) fun status history =>
        (start.after history).Left files fileName (status = .success) data := by
  have info := @triple_keeps start files fileName contents handle _ (shell.getFileInfo handle)
    (.getFileInfo handle) (fun info => ∀ fileInfo size, info = some (fileInfo, size) →
      size = contents.length) (fun _ info => by cases info <;> rfl)
    fun history stands fileInfo size told =>
      honest.info history handle fileInfo size fileName 0 contents told stands.position
        stands.contents_eq
  refine info.bind fun info => Triple.known fun told => ?_
  cases info with
  | none =>
      exact triple_closeAt.bind fun _ => Triple.pure fun history same => ⟨_, same, nofun⟩
  | some info =>
      obtain ⟨fileInfo, size⟩ := info
      obtain rfl := told fileInfo size rfl
      refine (emptyContents_empties fileInfo).bind fun emptied => Triple.ite ?_ fun failed => ?_
      · rintro rfl
        refine (writeFile_writes data).bind fun success => triple_closeFile.bind fun _ =>
          Triple.pure fun history same => ⟨_, same, fun written => ?_⟩
        cases success with
        | false => nomatch written
        | true => rfl
      · simp only [if_neg failed]
        exact Triple.pure fun history same => ⟨_, same, nofun⟩

/-- Writing changes no other file, and behind a success the file has what was written. -/
theorem writeFileFromBuffer_writes (honest : shell.Honest start) (fileName : Argument)
    (data : List UInt8) :
    Triple (fun history => (start.after history).files = files)
      (writeFileFromBuffer shell fileName data) fun status history =>
        (start.after history).Left files fileName (status = .success) data := by
  have stays (status : WriteStatus) (failed : status ≠ .success) :
      Triple (fun history => (start.after history).files = files)
        (pure status : Calls WriteStatus) fun status history =>
          (start.after history).Left files fileName (status = .success) data := by
    refine Triple.pure fun history same =>
      ⟨files fileName, ?_, fun success => absurd success failed⟩
    rw [Function.update_eq_self, same]
  refine Triple.ite (fun _ => ?_) fun _ => stays .notFound (fun same => by cases same)
  have opened : Triple (fun history => (start.after history).files = files)
      (ask (shell.openFileByName fileName true) (.openFileByName fileName true))
      fun handle history => handle.elim ((start.after history).files = files) fun number =>
        (start.after history).At files number fileName ((files fileName).getD []) := by
    refine Triple.answered fun history same => ?_
    rw [Disk.after_concat]
    cases shell.openFileByName fileName true history with
    | none => exact same
    | some handle =>
        subst same
        exact ⟨Function.update_self _ _ _, rfl⟩
  refine opened.bind fun handle => ?_
  cases handle with
  | none => exact stays .openFailed (fun same => by cases same)
  | some handle => exact writeOpened_writes honest data

end Contents

theorem Disk.shell_honest (start : Disk) : start.shell.Honest start where
  opens history fileName handle opened := by
    simp only [Disk.shell, Bool.false_eq_true, false_or, Option.ite_none_right_eq_some] at opened
    exact Option.isSome_iff_ne_none.mp opened.1
  size history handle fileSize fileName position contents told stands known := by
    simp only [Disk.shell, Disk.size, stands, known, Option.getD_some, Option.some.injEq] at told
    exact told.symm
  info history handle fileInfo fileSize fileName position contents told stands known := by
    simp only [Disk.shell, Disk.size, stands, known, Option.getD_some, Option.some.injEq,
      Prod.mk.injEq] at told
    exact told.2.symm
  reads history handle size data fileName position contents told stands known := by
    simp only [Disk.shell, stands, known, Option.bind_some, Option.map_some,
      Option.some.injEq] at told
    exact told.symm

/-! ## Runs -/

inductive Operation where
  | read (fileName : Argument)
  | write (fileName : Argument) (data : List UInt8)

namespace Operation

def perform (shell : Shell) : Operation → List Call → List Call
  | .read fileName, history => (readFileToBuffer shell fileName history).2
  | .write fileName data, history => (writeFileFromBuffer shell fileName data history).2

/-- No write of the file fails. -/
def Keeps (shell : Shell) (fileName : Argument) : Operation → List Call → Prop
  | .read _, _ => True
  | .write other data, history =>
      other = fileName → (writeFileFromBuffer shell other data history).1 = .success

/-- What a write makes of the file. -/
def writes (fileName : Argument) : Operation → Option (List UInt8)
  | .read _ => none
  | .write other data => if other = fileName then some data else none

end Operation

theorem contents_perform {shell : Shell} {start : Disk} (honest : shell.Honest start)
    (fileName : Argument) (operation : Operation) (history : List Call)
    (keeps : operation.Keeps shell fileName history) :
    (start.after (operation.perform shell history)).files fileName =
      ((operation.writes fileName).map some).getD ((start.after history).files fileName) := by
  cases operation with
  | read other => 
      rw [Operation.perform, (readFileToBuffer_reads honest other history rfl).1]
      rfl
  | write other data =>
      obtain ⟨left, same, success⟩ := writeFileFromBuffer_writes honest other data history rfl
      rw [Operation.perform, same, Operation.writes]
      by_cases named : other = fileName
      · rw [if_pos named, success (keeps named), named, Function.update_self]
        rfl
      · rw [if_neg named, Function.update_of_ne (Ne.symm named)]
        rfl

/-- What is read of a file is what the last write of it has written, whatever was read and
written besides.  -/
theorem readFileToBuffer_run {shell : Shell} {start : Disk} (honest : shell.Honest start)
    (fileName : Argument) (operations : List Operation) (history : List Call)
    (keeps : EveryStep (fun operation calls => operation.perform shell calls)
      (fun operation calls => operation.Keeps shell fileName calls) history operations)
    (buffer : Nat) (data : List UInt8)
    (read : (readFileToBuffer shell fileName
      (run (fun operation calls => operation.perform shell calls) history operations)).1 =
        .success buffer data) :
    (operations.reverse.findSome? (Operation.writes fileName)).or
      ((start.after history).files fileName) = some data := by
  have known := (readFileToBuffer_reads honest fileName _ rfl).2 buffer data read
  have last := view_run_of_every (fun calls => (start.after calls).files fileName)
    (fun operation calls keeps => contents_perform honest fileName operation calls keeps)
    operations history keeps
  rw [last] at known
  have writes : operations.reverse.findSome?
      (fun operation => (operation.writes fileName).map some) =
        (operations.reverse.findSome? (Operation.writes fileName)).map some :=
    (List.map_findSome? ..).symm
  rw [writes] at known
  cases lastWrite : operations.reverse.findSome? (Operation.writes fileName) with
  | none => simpa [lastWrite] using known
  | some bytes => simpa [lastWrite] using known

theorem readFileToBuffer_run_oneFile :
    ([Operation.write (char16 ['a']) [1, 2], .read (char16 ['a']), .write (char16 ['b']) [3]]
        |>.reverse.findSome? (Operation.writes (char16 ['a']))).or
      ((oneFile.after []).files (char16 ['a'])) = some [1, 2] :=
  readFileToBuffer_run oneFile.shell_honest (char16 ['a'])
    [.write (char16 ['a']) [1, 2], .read (char16 ['a']), .write (char16 ['b']) [3]] []
    ⟨fun _ => by decide, trivial, fun _ => by decide, trivial⟩ 18 [1, 2] (by decide)

end AppEfi.LsEfi.Support
