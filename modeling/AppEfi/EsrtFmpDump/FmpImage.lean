import AppEfi.EsrtFmpDump.FmpPools
import AppEfi.LsEfi.WrittenFiles

/-!
# The image that is saved

FMPs that answer the same whenever they are asked, and a pool that does not run out: the image
comes from the first FMP that lists its type, and a dump that tells of success has left exactly
the image in the file.
-/

set_option autoImplicit false

namespace AppEfi.Fmp

open AppEfi.Dialogue
open AppEfi.LsEfi (Argument)
open AppEfi.LsEfi.Support (Disk writeFileFromBuffer writeFileFromBuffer_writes)

/-! ## Descriptors -/

/-- A descriptor of the image type is among those that are told of. -/
def Lists (info : ImageInfo) (imageTypeId : Nat) : Prop :=
  ∃ index < info.descriptorCount.toNat,
    imageTypeIdAt info.data (info.descriptorSize * index) = imageTypeId

instance decidableLists (info : ImageInfo) (imageTypeId : Nat) :
    Decidable (Lists info imageTypeId) := inferInstanceAs (Decidable (∃ _ < _, _))

theorem listsFrom_iff {info : ImageInfo} {imageTypeId offset count : Nat} :
    listsFrom info imageTypeId offset count = true ↔
      ∃ index < count, imageTypeIdAt info.data (offset + info.descriptorSize * index) =
        imageTypeId := by
  induction count generalizing offset with
  | zero => simp [listsFrom]
  | succ count ih =>
      rw [listsFrom]
      by_cases here : imageTypeIdAt info.data offset = imageTypeId
      · rw [if_pos here]
        exact ⟨fun _ => ⟨0, Nat.succ_pos count, here⟩, fun _ => rfl⟩
      · rw [if_neg here, ih]
        constructor
        · rintro ⟨index, below, found⟩
          refine ⟨index + 1, Nat.succ_lt_succ below, ?_⟩
          rwa [Nat.mul_succ, Nat.add_comm (_ * _), ← Nat.add_assoc]
        · rintro ⟨index, below, found⟩
          cases index with
          | zero => exact absurd found here
          | succ index =>
              refine ⟨index, Nat.lt_of_succ_lt_succ below, ?_⟩
              rwa [Nat.mul_succ, Nat.add_comm (_ * _), ← Nat.add_assoc] at found

theorem isThisFmpImageInfo_iff {info : ImageInfo} {imageTypeId : Nat} :
    isThisFmpImageInfo info imageTypeId = true ↔ Lists info imageTypeId := by
  rw [isThisFmpImageInfo, listsFrom_iff, Lists]
  simp only [Nat.zero_add]

/-! ## Steady firmware -/

/-- Answers that do not depend on what passed before. -/
structure Devices where
  handles : Option (List Nat)
  handleProtocol : Nat → Option Nat
  imageInfo : Nat → Option (Nat × Option ImageInfo)
  image : Nat → Nat → Option (List UInt8)

/-- A system that has enough pool. -/
structure Firmware.Steady (firmware : Firmware) (devices : Devices) : Prop where
  handles : ∀ history, (firmware.locateHandleBuffer history).map (·.2) = devices.handles
  handleProtocol : ∀ handle history,
    firmware.handleProtocol handle history = devices.handleProtocol handle
  imageInfoSize : ∀ fmp history,
    firmware.getImageInfoSize fmp history = (devices.imageInfo fmp).map (·.1)
  imageInfo : ∀ fmp size history,
    firmware.getImageInfo fmp size history = (devices.imageInfo fmp).bind (·.2)
  allocates : ∀ size history, firmware.allocatePool size history ≠ none
  image : ∀ fmp imageIndex size history data,
    firmware.getImage fmp imageIndex size history = some data →
      devices.image fmp imageIndex = some data

/-- The FMP of a handle with what it tells. -/
def Devices.told (devices : Devices) (handle : Nat) : Option (Nat × ImageInfo) :=
  (devices.handleProtocol handle).bind fun fmp =>
    ((devices.imageInfo fmp).bind (·.2)).map fun info => (fmp, info)

/-- The FMP of a handle if it lists the image type. -/
def Devices.lister (devices : Devices) (imageTypeId handle : Nat) : Option Nat :=
  (devices.told handle).bind fun told =>
    if Lists told.2 imageTypeId then some told.1 else none

def Devices.find (devices : Devices) (imageTypeId : Nat) : Option Nat :=
  (devices.handles.getD []).findSome? (devices.lister imageTypeId)

section Find

variable {firmware : Firmware} {devices : Devices} {pre : List Call → Prop}

/-- A fact about what passed before that no call of the FMPs changes. -/
def Blind (pre : List Call → Prop) : Prop :=
  ∀ history call, call.file? = none → pre history → pre (history ++ [call])

theorem triple_call {event : Call} (blind : Blind pre) (other : event.file? = none) :
    Triple pre (tell event) fun _ => pre :=
  Triple.tell fun history holds => blind history event other holds

/-- A question with the answer that the firmware always has. -/
theorem triple_known {Value : Type} {answer : List Call → Value} {event : Value → Call}
    (fact : Value → Prop) (blind : Blind pre) (other : ∀ value, (event value).file? = none)
    (steady : ∀ history, fact (answer history)) :
    Triple pre (ask answer event) fun value history => pre history ∧ fact value :=
  Triple.answered fun history holds => ⟨blind history _ (other _) holds, steady history⟩

def Asked.Tells (devices : Devices) (handle : Nat) : Asked → Prop
  | .outOfResources => False
  | .told fmp _ info => devices.told handle = some (fmp, info)
  | .skipped | .failed _ => devices.told handle = none

theorem askImageInfo_tells (steady : firmware.Steady devices) (blind : Blind pre)
    (handle : Nat) :
    Triple pre (askImageInfo firmware handle) fun asked history =>
      pre history ∧ asked.Tells devices handle := by
  refine (triple_known (· = devices.handleProtocol handle) blind (fun _ => rfl)
    (steady.handleProtocol handle)).bind fun fmp => Triple.known fun isFmp => ?_
  cases fmp with
  | none =>
      refine Triple.pure fun history holds => ⟨holds, ?_⟩
      rw [Asked.Tells, Devices.told, ← isFmp, Option.bind_none]
  | some fmp =>
      have told : devices.told handle =
          ((devices.imageInfo fmp).bind (·.2)).map fun info => (fmp, info) := by
        rw [Devices.told, ← isFmp, Option.bind_some]
      refine (triple_known (· = (devices.imageInfo fmp).map (·.1)) blind (fun _ => rfl)
        (steady.imageInfoSize fmp)).bind fun size => Triple.known fun isSize => ?_
      cases size with
      | none =>
          refine Triple.pure fun history holds => ⟨holds, ?_⟩
          rw [Asked.Tells, told, Option.map_eq_none_iff.mp isSize.symm]
          rfl
      | some size =>
          refine (triple_known (· ≠ none) blind (fun _ => rfl)
            (steady.allocates size)).bind fun buffer => Triple.known fun some_ => ?_
          cases buffer with
          | none => exact absurd rfl some_
          | some buffer =>
              refine (triple_known (· = (devices.imageInfo fmp).bind (·.2)) blind (fun _ => rfl)
                (steady.imageInfo fmp size)).bind fun info => Triple.known fun isInfo => ?_
              cases info with
              | none =>
                  refine Triple.pure fun history holds => ⟨holds, ?_⟩
                  rw [Asked.Tells, told, ← isInfo]
                  rfl
              | some info =>
                  refine Triple.pure fun history holds => ⟨holds, ?_⟩
                  rw [Asked.Tells, told, ← isInfo]
                  rfl

theorem freeName_blind (blind : Blind pre) (name : Option (Nat × List UInt16)) :
    Triple pre (freeName name) fun _ => pre := by
  cases name with
  | none => exact Triple.pure fun history holds => holds
  | some name => exact triple_call blind rfl

theorem findAmong_finds (steady : firmware.Steady devices) (blind : Blind pre)
    (imageTypeId handleBuffer : Nat) (handles : List Nat) :
    Triple pre (findAmong firmware imageTypeId handleBuffer handles) fun fmp history =>
      pre history ∧ fmp = handles.findSome? (devices.lister imageTypeId) := by
  induction handles with
  | nil =>
      exact (triple_call blind rfl).bind fun _ => Triple.pure fun history holds => ⟨holds, rfl⟩
  | cons handle rest ih =>
      have skip (none_ : devices.lister imageTypeId handle = none) :
          Triple pre (findAmong firmware imageTypeId handleBuffer rest) fun fmp history =>
            pre history ∧ fmp = (handle :: rest).findSome? (devices.lister imageTypeId) := by
        rw [List.findSome?_cons, none_]
        exact ih
      refine (triple_call blind rfl).bind fun _ =>
        (askImageInfo_tells steady blind handle).bind fun asked => Triple.known fun told => ?_
      cases asked with
      | skipped => exact skip (by rw [Devices.lister, told, Option.bind_none])
      | outOfResources => exact told.elim
      | failed buffer =>
          exact (triple_call blind rfl).bind fun _ =>
            skip (by rw [Devices.lister, told, Option.bind_none])
      | told fmp buffer info =>
          refine (freeName_blind blind _).bind fun _ => (triple_call blind rfl).bind fun _ =>
            (triple_call blind rfl).bind fun _ => Triple.ite (fun lists => ?_) fun other => ?_
          · refine (triple_call blind rfl).bind fun _ =>
              Triple.pure fun history holds => ⟨holds, ?_⟩
            rw [List.findSome?_cons, Devices.lister, told, Option.bind_some,
              if_pos (isThisFmpImageInfo_iff.mp lists)]
          · have unlisted : ¬ Lists info imageTypeId := fun lists =>
              other (isThisFmpImageInfo_iff.mpr lists)
            exact skip (by rw [Devices.lister, told, Option.bind_some, if_neg unlisted])

theorem findFmpFromImageTypeId_finds (steady : firmware.Steady devices) (blind : Blind pre)
    (imageTypeId : Nat) :
    Triple pre (findFmpFromImageTypeId firmware imageTypeId) fun fmp history =>
      pre history ∧ fmp = devices.find imageTypeId := by
  refine (triple_known (fun found => found.map (·.2) = devices.handles) blind (fun _ => rfl)
    steady.handles).bind fun found => Triple.known fun isFound => ?_
  cases found with
  | none =>
      refine (triple_call blind rfl).bind fun _ => Triple.pure fun history holds => ⟨holds, ?_⟩
      rw [Devices.find, ← isFound]
      rfl
  | some found =>
      refine (findAmong_finds steady blind imageTypeId found.1 found.2).consequence
        (fun _ holds => holds) ?_
      rintro fmp history ⟨holds, same⟩
      refine ⟨holds, ?_⟩
      rw [same, Devices.find, ← isFound]
      rfl

end Find

/-! ## Files -/

section Files

variable {firmware : Firmware} {devices : Devices} {start : Disk}
variable {files : Argument → Option (List UInt8)} {shell : LsEfi.Support.Shell}

/-- The disk behind the calls of WriteFileFromBuffer. -/
def diskAfter (start : Disk) (history : List Call) : Disk :=
  start.after (history.filterMap Call.file?)

theorem blind_disk (fact : Disk → Prop) : Blind fun history => fact (diskAfter start history) := by
  intro history call other holds
  have kept : diskAfter start (history ++ [call]) = diskAfter start history := by
    rw [diskAfter, List.filterMap_append, List.filterMap_cons, other, List.filterMap_nil,
      List.append_nil, diskAfter]
  exact kept ▸ holds

section Adds

/-- No word is asked for: only that nothing is taken back. -/
def silent (_ : LsEfi.Support.Call) : Option Unit := none

theorem tell_adds (call : LsEfi.Support.Call) : Adds silent (tell call) fun _ _ => True :=
  Adds.tell trivial

theorem ask_adds {Value : Type} {answer : List LsEfi.Support.Call → Value}
    {event : Value → LsEfi.Support.Call} : Adds silent (ask answer event) fun _ _ => True :=
  Adds.ask fun _ => trivial

theorem emptyContents_adds (handle fileInfo fileSize : Nat) :
    Adds silent (LsEfi.Support.emptyContents shell handle fileInfo fileSize) fun _ _ => True := by
  refine Adds.ite (fun _ => ?_) fun _ => (tell_adds _).bind fun _ _ _ => Adds.pure trivial
  refine ask_adds.bind fun success _ _ => Adds.ite (fun _ => ?_) fun _ => ?_
  · exact (tell_adds _).bind fun _ _ _ => Adds.pure trivial
  · exact (tell_adds _).bind fun _ _ _ => (tell_adds _).bind fun _ _ _ => Adds.pure trivial

theorem writeOpened_adds (handle : Nat) (data : List UInt8) :
    Adds silent (LsEfi.Support.writeOpened shell handle data) fun _ _ => True := by
  refine ask_adds.bind fun info _ _ => ?_
  cases info with
  | none => exact (tell_adds _).bind fun _ _ _ => Adds.pure trivial
  | some info =>
      refine (emptyContents_adds handle info.1 info.2).bind fun emptied _ _ =>
        Adds.ite (fun _ => ?_) fun _ => Adds.pure trivial
      exact ask_adds.bind fun _ _ _ => (tell_adds _).bind fun _ _ _ => Adds.pure trivial

theorem writeFileFromBuffer_adds (fileName : Argument) (data : List UInt8) :
    Adds silent (writeFileFromBuffer shell fileName data) fun _ _ => True := by
  refine Adds.ite (fun _ => ask_adds.bind fun handle _ _ => ?_) fun _ => Adds.pure trivial
  cases handle with
  | none => exact Adds.pure trivial
  | some handle => exact writeOpened_adds handle data

end Adds

/-- What a dump has done to the files, and where its image comes from. -/
def ImageStatus.Saved (devices : Devices) (imageTypeId imageIndex : Nat) (imageName : Argument)
    (files : Argument → Option (List UInt8)) (disk : Disk) : ImageStatus → Prop
  | .written _ data status =>
      disk.Left files imageName (status = .success) data ∧
        ∃ fmp, devices.find imageTypeId = some fmp ∧ devices.image fmp imageIndex = some data
  | .noFmp => disk.files = files ∧ devices.find imageTypeId = none
  | _ => disk.files = files ∧ devices.find imageTypeId ≠ none

theorem saveImage_saves (steady : firmware.Steady devices) (honest : firmware.shell.Honest start)
    {imageTypeId imageIndex fmp : Nat} (found : devices.find imageTypeId = some fmp)
    (imageName : Argument) (imageSize image : Nat) :
    Triple (fun history => (diskAfter start history).files = files)
      (saveImage firmware imageTypeId imageIndex imageName fmp imageSize image)
      fun status history =>
        status.Saved devices imageTypeId imageIndex imageName files (diskAfter start history) := by
  have blind := @blind_disk start fun disk => disk.files = files
  have listed := ne_of_eq_of_ne found (Option.some_ne_none fmp)
  refine (triple_known (fun data => ∀ bytes, data = some bytes →
    devices.image fmp imageIndex = some bytes) blind (fun _ => rfl)
    (steady.image fmp imageIndex imageSize)).bind fun data => Triple.known fun isData => ?_
  cases data with
  | none =>
      exact (triple_call blind rfl).bind fun _ => Triple.pure fun history same => ⟨same, listed⟩
  | some data =>
      have same : ∀ call, Call.file? (.file call) = some call := fun _ => rfl
      have write : Triple (fun history => (diskAfter start history).files = files)
          (embed Call.file? .file (writeFileFromBuffer firmware.shell imageName data))
          fun written history =>
            (diskAfter start history).Left files imageName (written.1 = .success) data :=
        Triple.embed same (writeFileFromBuffer_adds imageName data)
          (writeFileFromBuffer_writes honest imageName data)
      refine (triple_call blind rfl).bind fun _ => write.bind fun written => ?_
      have kept := @blind_disk start fun disk =>
        disk.Left files imageName (written.1 = .success) data
      exact (triple_call kept rfl).bind fun _ => Triple.pure fun history left =>
        ⟨left, fmp, found, isData data rfl⟩

theorem getFmpImage_saves (steady : firmware.Steady devices)
    (honest : firmware.shell.Honest start) {imageTypeId imageIndex fmp : Nat}
    (found : devices.find imageTypeId = some fmp) (imageName : Argument) :
    Triple (fun history => (diskAfter start history).files = files)
      (getFmpImage firmware imageTypeId imageIndex imageName fmp) fun status history =>
        status.Saved devices imageTypeId imageIndex imageName files (diskAfter start history) := by
  have blind := @blind_disk start fun disk => disk.files = files
  have listed := ne_of_eq_of_ne found (Option.some_ne_none fmp)
  refine (triple_known (fun _ => True) blind (fun _ => rfl) fun _ => trivial).bind
    fun imageSize => Triple.known fun _ => ?_
  cases imageSize with
  | none =>
      exact (triple_call blind rfl).bind fun _ => Triple.pure fun history same => ⟨same, listed⟩
  | some imageSize =>
      refine (triple_known (fun _ => True) blind (fun _ => rfl) fun _ => trivial).bind
        fun image => Triple.known fun _ => ?_
      cases image with
      | none =>
          exact (triple_call blind rfl).bind fun _ =>
            Triple.pure fun history same => ⟨same, listed⟩
      | some image => exact saveImage_saves steady honest found imageName imageSize image

/-- A dump that succeeds leaves in the file exactly what the first FMP that lists the type gives
as its image, and every dump leaves all other files as they are. -/
theorem dumpFmpImage_saves {firmware : Firmware} {devices : Devices} {start : Disk}
    (steady : firmware.Steady devices) (honest : firmware.shell.Honest start)
    (imageTypeId imageIndex : Nat) (imageName : Argument) (history : List Call) :
    (dumpFmpImage firmware imageTypeId imageIndex imageName history).1.Saved devices imageTypeId
      imageIndex imageName (diskAfter start history).files
      (diskAfter start (dumpFmpImage firmware imageTypeId imageIndex imageName history).2) := by
  have blind := @blind_disk start fun disk => disk.files = (diskAfter start history).files
  have saves : Triple
      (fun calls => (diskAfter start calls).files = (diskAfter start history).files)
      (dumpFmpImage firmware imageTypeId imageIndex imageName) fun status calls =>
        status.Saved devices imageTypeId imageIndex imageName (diskAfter start history).files
          (diskAfter start calls) := by
    refine (findFmpFromImageTypeId_finds steady blind imageTypeId).bind fun fmp =>
      Triple.known fun found => ?_
    cases fmp with
    | none =>
        exact (triple_call blind rfl).bind fun _ =>
          Triple.pure fun calls same => ⟨same, found.symm⟩
    | some fmp =>
        refine Triple.ite (fun _ => ?_) fun _ =>
          getFmpImage_saves steady honest found.symm imageName
        exact (triple_call blind rfl).bind fun _ => Triple.pure fun calls same =>
          ⟨same, ne_of_eq_of_ne found.symm (Option.some_ne_none fmp)⟩
  exact saves history rfl

end Files

/-- One FMP with one image of type 0x33. -/
def oneImage : ImageInfo where
  data := Memory.ofBytesAt 4 (LittleEndian.toBytes 16 0x33)
  descriptorVersion := 1
  descriptorCount := 1
  descriptorSize := 88
  packageVersion := 0
  packageVersionName := none

def oneFmp : Firmware where
  locateHandleBuffer history := some (history.length, [5])
  handleProtocol _ _ := some 7
  getImageInfoSize _ _ := some 88
  allocatePool _ history := some history.length
  getImageInfo _ _ _ := some oneImage
  getPackageInfo _ _ := none
  getImageSize _ _ _ := some 3
  getImage _ _ _ _ := some [1, 2, 3]
  getEsrtEntry _ _ := none
  getVariable2 _ _ := none
  shell := LsEfi.Support.oneFile.shell

def oneFmpDevices : Devices where
  handles := some [5]
  handleProtocol _ := some 7
  imageInfo _ := some (88, some oneImage)
  image _ _ := some [1, 2, 3]

theorem oneFmp_steady : oneFmp.Steady oneFmpDevices where
  handles _ := rfl
  handleProtocol _ _ := rfl
  imageInfoSize _ _ := rfl
  imageInfo _ _ _ := rfl
  allocates _ _ := nofun
  image _ _ _ _ _ told := told

theorem dumpFmpImage_saves_oneFmp :
    (dumpFmpImage oneFmp 0x33 1 (LsEfi.char16 ['a']) []).1.Saved oneFmpDevices 0x33 1
      (LsEfi.char16 ['a']) (diskAfter LsEfi.Support.oneFile []).files
      (diskAfter LsEfi.Support.oneFile (dumpFmpImage oneFmp 0x33 1 (LsEfi.char16 ['a']) []).2) :=
  dumpFmpImage_saves oneFmp_steady LsEfi.Support.oneFile.shell_honest 0x33 1
    (LsEfi.char16 ['a']) []

end AppEfi.Fmp
