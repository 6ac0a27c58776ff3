import AppEfi.EsrtFmpDump.DumpFmpData

/-!
# The pools of the FMP commands

Every pool that is asked for is given back on every way through the loops, but for the pool of
an image.
-/

set_option autoImplicit false

namespace AppEfi.Fmp

open AppEfi.Dialogue
open AppEfi.Ledger
open AppEfi.LsEfi (Argument)

section Pools

variable {firmware : Firmware}

theorem freePool_owns (buffer : Nat) :
    Owns Call.move {buffer} (tell (Call.freePool buffer)) fun _ => 0 := Owns.tell rfl rfl

theorem examine_owns (buffer : Nat) :
    Owns Call.move {buffer} (tell (Call.examine buffer)) fun _ => {buffer} := Owns.tell rfl rfl

theorem print_owns (lines : List Line) (held : Multiset Nat) :
    Owns Call.move held (tell (Call.print lines)) fun _ => held :=
  Owns.beside (Owns.tell rfl rfl) held

theorem allocatePool_owns (size : Nat) :
    Owns Call.move 0 (ask (firmware.allocatePool size) (.allocatePool size)) fun buffer =>
      buffer.elim 0 fun buffer => {buffer} :=
  Owns.ask (fun buffer => by cases buffer <;> rfl) fun buffer => by cases buffer <;> rfl

def Asked.pools : Asked → Multiset Nat
  | .skipped => 0
  | .outOfResources => 0
  | .failed buffer => {buffer}
  | .told _ buffer info => poolOf info.packageVersionName + {buffer}

theorem askImageInfo_owns (handle : Nat) :
    Owns Call.move 0 (askImageInfo firmware handle) Asked.pools := by
  have protocol : Owns Call.move 0
      (ask (firmware.handleProtocol handle) (.handleProtocol handle)) fun _ => 0 :=
    Owns.ask (fun _ => rfl) fun _ => rfl
  refine protocol.bind fun fmp => ?_
  cases fmp with
  | none => exact Owns.pure rfl
  | some fmp =>
      have size : Owns Call.move 0
          (ask (firmware.getImageInfoSize fmp) (.getImageInfoSize fmp)) fun _ => 0 :=
        Owns.ask (fun _ => rfl) fun _ => rfl
      refine size.bind fun imageInfoSize => ?_
      cases imageInfoSize with
      | none => exact Owns.pure rfl
      | some imageInfoSize =>
          refine (allocatePool_owns imageInfoSize).bind fun buffer => ?_
          cases buffer with
          | none => exact Owns.pure rfl
          | some buffer =>
              have info : Owns Call.move {buffer}
                  (ask (firmware.getImageInfo fmp imageInfoSize)
                    (.getImageInfo fmp imageInfoSize buffer)) fun info =>
                    (info.elim 0 fun info => poolOf info.packageVersionName) + {buffer} :=
                Owns.ask (fun _ => rfl) fun _ => rfl
              refine info.bind fun info => ?_
              cases info with
              | none => exact Owns.pure (zero_add _).symm
              | some info => exact Owns.pure rfl

theorem freeName_owns (name : Option (Nat × List UInt16)) :
    Owns Call.move (poolOf name) (freeName name) fun _ => 0 := by
  cases name with
  | none => exact Owns.pure rfl
  | some name => exact freePool_owns name.1

theorem dumpWithName_owns (name : Option (Nat × List UInt16)) (lines : List Line) :
    Owns Call.move (poolOf name) (dumpWithName name lines) fun _ => poolOf name := by
  cases name with
  | none => exact print_owns lines _
  | some name => exact (examine_owns name.1).bind fun _ => print_owns lines _

theorem dumpFmp_owns (index fmp buffer : Nat) (info : ImageInfo) :
    Owns Call.move (poolOf info.packageVersionName + {buffer})
      (dumpFmp firmware index fmp buffer info) fun _ => 0 := by
  have examine := (examine_owns buffer).frame (poolOf info.packageVersionName)
  have free := (freeName_owns info.packageVersionName).frame {buffer}
  have package : Owns Call.move 0 (ask (firmware.getPackageInfo fmp) (.getPackageInfo fmp))
      fun package => package.elim 0 fun package => poolOf package.packageVersionName :=
    Owns.ask (fun _ => rfl) fun _ => rfl
  rw [add_comm] at examine
  rw [zero_add] at free
  refine (print_owns _ _).bind fun _ => examine.bind fun _ => ?_
  refine ((dumpWithName_owns info.packageVersionName _).frame {buffer}).bind fun _ => ?_
  refine free.bind fun _ => (freePool_owns buffer).bind fun _ => package.bind fun package => ?_
  cases package with
  | none => exact print_owns _ _
  | some package =>
      exact (dumpWithName_owns package.packageVersionName _).bind fun _ =>
        freeName_owns package.packageVersionName

/-- What a turn of the loop does beside the buffer of the handles. -/
theorem askImageInfo_beside (handle handleBuffer : Nat) :
    Owns Call.move {handleBuffer} (askImageInfo firmware handle) fun asked =>
      asked.pools + {handleBuffer} :=
  (askImageInfo_owns handle).more {handleBuffer}

theorem dumpFmpsFrom_owns (handleBuffer index : Nat) (handles : List Nat) :
    Owns Call.move {handleBuffer} (dumpFmpsFrom firmware handleBuffer index handles)
      fun _ => 0 := by
  induction handles generalizing index with
  | nil => exact (print_owns _ _).bind fun _ => freePool_owns handleBuffer
  | cons handle rest ih =>
      refine (examine_owns handleBuffer).bind fun _ => ?_
      refine (askImageInfo_beside handle handleBuffer).bind fun asked => ?_
      cases asked with
      | skipped =>
          rw [Asked.pools, zero_add]
          exact ih (index + 1)
      | outOfResources =>
          rw [Asked.pools, zero_add]
          exact freePool_owns handleBuffer
      | failed buffer =>
          have free := (freePool_owns buffer).frame {handleBuffer}
          rw [zero_add] at free
          exact (print_owns _ _).bind fun _ => free.bind fun _ => ih (index + 1)
      | told fmp buffer info =>
          have dump := (@dumpFmp_owns firmware index fmp buffer info).frame {handleBuffer}
          rw [zero_add] at dump
          exact dump.bind fun _ => ih (index + 1)

theorem locateHandles_owns :
    Owns Call.move 0 (locateHandles firmware) fun found =>
      found.elim 0 fun found => {found.1} :=
  Owns.ask (fun found => by cases found <;> rfl) fun found => by cases found <;> rfl

theorem dumpFmpData_owns : Owns Call.move 0 (dumpFmpData firmware) fun _ => 0 := by
  refine (print_owns _ _).bind fun _ => locateHandles_owns.bind fun found => ?_
  cases found with
  | none => exact print_owns _ _
  | some found => exact dumpFmpsFrom_owns found.1 0 found.2

theorem findAmong_owns (imageTypeId handleBuffer : Nat) (handles : List Nat) :
    Owns Call.move {handleBuffer} (findAmong firmware imageTypeId handleBuffer handles)
      fun _ => 0 := by
  induction handles with
  | nil => exact (freePool_owns handleBuffer).bind fun _ => Owns.pure rfl
  | cons handle rest ih =>
      refine (examine_owns handleBuffer).bind fun _ => ?_
      refine (askImageInfo_beside handle handleBuffer).bind fun asked => ?_
      cases asked with
      | skipped =>
          rw [Asked.pools, zero_add]
          exact ih
      | outOfResources =>
          rw [Asked.pools, zero_add]
          exact (freePool_owns handleBuffer).bind fun _ =>
            (print_owns _ _).bind fun _ => Owns.pure rfl
      | failed buffer =>
          have free := (freePool_owns buffer).frame {handleBuffer}
          rw [zero_add] at free
          exact free.bind fun _ => ih
      | told fmp buffer info =>
          have freeName := (freeName_owns info.packageVersionName).frame ({buffer} + {handleBuffer})
          have examine := (examine_owns buffer).frame {handleBuffer}
          have free := (freePool_owns buffer).frame {handleBuffer}
          rw [zero_add, ← add_assoc] at freeName
          rw [zero_add] at free
          refine freeName.bind fun _ => examine.bind fun _ => free.bind fun _ => ?_
          refine Owns.ite (fun _ => ?_) fun _ => ih
          exact (freePool_owns handleBuffer).bind fun _ => Owns.pure rfl

theorem findFmpFromImageTypeId_owns (imageTypeId : Nat) :
    Owns Call.move 0 (findFmpFromImageTypeId firmware imageTypeId) fun _ => 0 := by
  refine locateHandles_owns.bind fun found => ?_
  cases found with
  | none => exact (print_owns _ _).bind fun _ => Owns.pure rfl
  | some found => exact findAmong_owns imageTypeId found.1 found.2

/-- The pool of the image, which nobody has any more. -/
def ImageStatus.image : ImageStatus → Option Nat
  | .getImageFailed image => some image
  | .written image _ _ => some image
  | _ => none

def lost (image : Option Nat) : Multiset Nat := image.elim 0 fun image => {image}

theorem saveImage_owns (imageTypeId imageIndex : Nat) (imageName : Argument)
    (fmp imageSize image : Nat) :
    Owns Call.move {image}
      (saveImage firmware imageTypeId imageIndex imageName fmp imageSize image) fun status =>
      lost status.image := by
  have get : Owns Call.move {image}
      (ask (firmware.getImage fmp imageIndex imageSize)
        (.getImage fmp imageIndex imageSize image)) fun _ => {image} :=
    Owns.ask (fun _ => rfl) fun _ => rfl
  refine get.bind fun data => ?_
  cases data with
  | none => exact (print_owns _ _).bind fun _ => Owns.pure rfl
  | some data =>
      have write : Owns Call.move 0 (embed Call.file? .file
          (LsEfi.Support.writeFileFromBuffer firmware.shell imageName data)) fun _ => 0 :=
        Owns.embed fun _ => rfl
      refine (examine_owns image).bind fun _ => (write.beside {image}).bind fun written => ?_
      exact (print_owns _ _).bind fun _ => Owns.pure rfl

theorem dumpFmpImage_owns (imageTypeId imageIndex : Nat) (imageName : Argument) :
    Owns Call.move 0 (dumpFmpImage firmware imageTypeId imageIndex imageName) fun status =>
      lost status.image := by
  refine (findFmpFromImageTypeId_owns imageTypeId).bind fun fmp => ?_
  cases fmp with
  | none => exact (print_owns _ _).bind fun _ => Owns.pure rfl
  | some fmp =>
      refine Owns.ite (fun _ => (print_owns _ _).bind fun _ => Owns.pure rfl) fun _ => ?_
      have size : Owns Call.move 0
          (ask (firmware.getImageSize fmp imageIndex) (.getImageSize fmp imageIndex))
          fun _ => 0 := Owns.ask (fun _ => rfl) fun _ => rfl
      refine size.bind fun imageSize => ?_
      cases imageSize with
      | none => exact (print_owns _ _).bind fun _ => Owns.pure rfl
      | some imageSize =>
          refine (allocatePool_owns imageSize).bind fun image => ?_
          cases image with
          | none => exact (print_owns _ _).bind fun _ => Owns.pure rfl
          | some image => exact saveImage_owns imageTypeId imageIndex imageName fmp imageSize image

inductive Command where
  | data
  | image (imageTypeId imageIndex : Nat) (imageName : Argument)

def Command.perform (firmware : Firmware) : Command → Calls (Option Nat)
  | .data => do
      dumpFmpData firmware
      pure none
  | .image imageTypeId imageIndex imageName => do
      let status ← dumpFmpImage firmware imageTypeId imageIndex imageName
      pure status.image

theorem perform_owns (command : Command) :
    Owns Call.move 0 (command.perform firmware) lost := by
  cases command with
  | data => exact dumpFmpData_owns.bind fun _ => Owns.pure rfl
  | image imageTypeId imageIndex imageName =>
      exact (dumpFmpImage_owns imageTypeId imageIndex imageName).bind fun status => Owns.pure rfl

/-- The value tells the pools of the images that were got. -/
def performAll (firmware : Firmware) : List Command → Calls (List Nat)
  | [] => pure []
  | command :: rest => do
      let image ← command.perform firmware
      let images ← performAll firmware rest
      pure (image.toList ++ images)

theorem performAll_owns (commands : List Command) :
    Owns Call.move 0 (performAll firmware commands) fun images => (images : Multiset Nat) := by
  induction commands with
  | nil => exact Owns.pure rfl
  | cons command rest ih =>
      refine (perform_owns command).bind fun image => (ih.more (lost image)).bind fun images => ?_
      refine Owns.pure ?_
      cases image with
      | none => exact (add_zero _).symm
      | some image =>
          rw [Option.toList_some, List.singleton_append, ← Multiset.cons_coe,
            ← Multiset.singleton_add, add_comm]
          rfl

/-- In every run of dumps only pools that are held are read, handed out and freed, and at its end
the pools of the images are held, one for each image that was got. -/
theorem performAll_pools (firmware : Firmware) (commands : List Command) :
    Orderly Call.move (performAll firmware commands []).2 ∧
      held Call.move (performAll firmware commands []).2 =
        ((performAll firmware commands []).1 : Multiset Nat) := by
  have owns := @performAll_owns firmware commands 0 [] ⟨orderly_nil, rfl⟩
  exact ⟨owns.1, owns.2.trans (add_zero _)⟩

end Pools

end AppEfi.Fmp
