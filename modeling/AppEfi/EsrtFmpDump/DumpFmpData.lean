import AppEfi.EsrtFmpDump.CapsuleVolumes
import AppEfi.LsEfi.LsEfiSupport

/-!
# Firmware management protocols

EsrtFmpDump.c shows what the FMPs of the system say of their images, and LsEfiDump.c, with the
same DumpFmpData, also saves an image.  The calls of an FMP and of the pool services pass in
order; a GUID is the number of its 16 bytes, and the ImageInfo buffer of an FMP is read at
offsets.
-/

set_option autoImplicit false

namespace AppEfi.Fmp

open AppEfi.Dialogue
open AppEfi.Ledger
open AppEfi.LsEfi (Argument)
open AppEfi.LsEfi.Support (WriteStatus)

inductive Line where
  | banner (title : String)
  | blank
  | notFound
  | outOfResource
  | imageInfo (index : Nat)
  | imageInfoFailed (index : Nat)
  | packageInfoFailed (index : Nat)
  | descriptor (index : Nat)
  | field (name : String) (value : Nat)
  | status (value : Nat) (text : String)
  /-- A text by its address. -/
  | textAt (name : String) (address : Nat)
  | packageVersionName (name : Option (List UInt16))
  | noFmp (imageTypeId : Nat)
  | imageIndexTooBig (imageIndex : Nat)
  | getImageFailed
  | allocateFailed (size : Nat)
  | esrtEntry (index : Nat)
  | esrtNotFound
  | esrtProtocolNotFound
  | repositoryCorrupt
  | variable_ (name : String) (size : Option Nat)
  | dumped (imageTypeId imageIndex : Nat) (imageName : Argument) (status : WriteStatus)
  deriving DecidableEq

/-! ## Image descriptors -/

section Descriptors

/-- EFI_FIRMWARE_IMAGE_DESCRIPTOR at an offset of the ImageInfo buffer. -/
def imageTypeIdAt (data : Memory) (offset : Nat) : Nat := data.readLe (offset + 4) 16

def lastAttemptStatusToString (lastAttemptStatus : Nat) : String :=
  ["Success", "Error: Unsuccessful", "Error: Insufficient Resources", "Error: Incorrect Version",
    "Error: Invalid Format", "Error: Auth Error", "Error: Power Event AC",
    "Error: Power Event Battery"].getD lastAttemptStatus "Error: Unknown"

def attributeLines (name : String) (attributes : Nat) : List Line :=
  [.field name attributes,
    .field "IMAGE_UPDATABLE" (attributes &&& 0x1),
    .field "RESET_REQUIRED" (attributes &&& 0x2),
    .field "AUTHENTICATION_REQUIRED" (attributes &&& 0x4),
    .field "IN_USE" (attributes &&& 0x8),
    .field "UEFI_IMAGE" (attributes &&& 0x10)]

/-- The fields that came with the later versions of the descriptor. -/
def laterFields (data : Memory) (descriptorVersion offset : Nat) : List Line :=
  if 1 < descriptorVersion then
    .field "LowestSupportedImageVersion" (data.readLe (offset + 88) 4) ::
      if 2 < descriptorVersion then
        let lastAttemptStatus := data.readLe (offset + 96) 4
        [.field "LastAttemptVersion" (data.readLe (offset + 92) 4),
          .status lastAttemptStatus (lastAttemptStatusToString lastAttemptStatus),
          .field "HardwareInstance" (data.readLe (offset + 104) 8)]
      else []
  else []

def dumpDescriptor (data : Memory) (descriptorVersion index offset : Nat) : List Line :=
  let compatibilities := data.readLe (offset + 80) 8
  [.descriptor index,
    .field "ImageIndex" (data.readLe offset 1),
    .field "ImageTypeId" (imageTypeIdAt data offset),
    .field "ImageId" (data.readLe (offset + 24) 8),
    .textAt "ImageIdName" (data.readLe (offset + 32) 8),
    .field "Version" (data.readLe (offset + 40) 4),
    .textAt "VersionName" (data.readLe (offset + 48) 8),
    .field "Size" (data.readLe (offset + 56) 8)] ++
  attributeLines "AttributesSupported" (data.readLe (offset + 64) 8) ++
  attributeLines "AttributesSetting" (data.readLe (offset + 72) 8) ++
  [.field "Compatibilities" compatibilities,
    .field "COMPATIB_CHECK_SUPPORTED" (compatibilities &&& 0x1)] ++
  laterFields data descriptorVersion offset

/-- What a successful GetImageInfo leaves in its arguments. -/
structure ImageInfo where
  /-- The ImageInfo buffer. -/
  data : Memory
  descriptorVersion : Nat
  descriptorCount : UInt8
  descriptorSize : Nat
  packageVersion : Nat
  /-- A pool and the text in it. -/
  packageVersionName : Option (Nat × List UInt16)

def dumpDescriptors (info : ImageInfo) : Nat → Nat → Nat → List Line
  | _, _, 0 => []
  | index, offset, count + 1 =>
      dumpDescriptor info.data info.descriptorVersion index offset ++
        dumpDescriptors info (index + 1) (offset + info.descriptorSize) count

def dumpFmpImageInfo (info : ImageInfo) : List Line :=
  [.field "DescriptorVersion" info.descriptorVersion,
    .field "DescriptorCount" info.descriptorCount.toNat,
    .field "DescriptorSize" info.descriptorSize,
    .field "PackageVersion" info.packageVersion,
    .packageVersionName (info.packageVersionName.map (·.2))] ++
  dumpDescriptors info 0 0 info.descriptorCount.toNat

/-- The loop of IsThisFmpImageInfo. -/
def listsFrom (info : ImageInfo) (imageTypeId : Nat) : Nat → Nat → Bool
  | _, 0 => false
  | offset, count + 1 =>
      if imageTypeIdAt info.data offset = imageTypeId then true
      else listsFrom info imageTypeId (offset + info.descriptorSize) count

def isThisFmpImageInfo (info : ImageInfo) (imageTypeId : Nat) : Bool :=
  listsFrom info imageTypeId 0 info.descriptorCount.toNat

structure PackageInfo where
  packageVersion : Nat
  packageVersionName : Option (Nat × List UInt16)
  packageVersionNameMaxLen : Nat
  attributesSupported : Nat
  attributesSetting : Nat

/-- The one of LsEfiDump.c has no lines for IN_USE and UEFI_IMAGE. -/
def dumpFmpPackageInfo (info : PackageInfo) : List Line :=
  [.field "PackageVersion" info.packageVersion,
    .packageVersionName (info.packageVersionName.map (·.2)),
    .field "PackageVersionNameMaxLen" info.packageVersionNameMaxLen] ++
  attributeLines "AttributesSupported" info.attributesSupported ++
  attributeLines "AttributesSetting" info.attributesSetting

end Descriptors

/-! ## ESRT entries -/

/-- EFI_SYSTEM_RESOURCE_ENTRY. -/
structure EsrtEntry where
  fwClass : Nat
  fwType : Nat
  fwVersion : Nat
  lowestSupportedFwVersion : Nat
  capsuleFlags : Nat
  lastAttemptVersion : Nat
  lastAttemptStatus : Nat
  deriving DecidableEq

def sizeofEsrtEntry : Nat := 40

def esrtEntryAt (memory : Memory) (address : Nat) : EsrtEntry where
  fwClass := memory.readLe address 16
  fwType := memory.readLe (address + 16) 4
  fwVersion := memory.readLe (address + 20) 4
  lowestSupportedFwVersion := memory.readLe (address + 24) 4
  capsuleFlags := memory.readLe (address + 28) 4
  lastAttemptVersion := memory.readLe (address + 32) 4
  lastAttemptStatus := memory.readLe (address + 36) 4

def fwTypeToString (fwType : Nat) : String :=
  ["Unknown", "SystemFirmware", "DeviceFirmware", "UefiDriver"].getD fwType "Invalid"

def dumpEsrtEntry (entry : EsrtEntry) : List Line :=
  [.field "FwClass" entry.fwClass,
    .status entry.fwType (fwTypeToString entry.fwType),
    .field "FwVersion" entry.fwVersion,
    .field "LowestSupportedFwVersion" entry.lowestSupportedFwVersion,
    .field "CapsuleFlags" entry.capsuleFlags,
    .field "PERSIST_ACROSS_RESET" (entry.capsuleFlags &&& 0x00010000),
    .field "POPULATE_SYSTEM_TABLE" (entry.capsuleFlags &&& 0x00020000),
    .field "INITIATE_RESET" (entry.capsuleFlags &&& 0x00040000),
    .field "LastAttemptVersion" entry.lastAttemptVersion,
    .status entry.lastAttemptStatus (lastAttemptStatusToString entry.lastAttemptStatus)]

/-- The loop over the entries of a table, with the numbers in front. -/
def dumpEsrtEntries (memory : Memory) (address : Nat) : Nat → Nat → List Line
  | _, 0 => []
  | index, count + 1 =>
      .esrtEntry index :: dumpEsrtEntry (esrtEntryAt memory address) ++
        dumpEsrtEntries memory (address + sizeofEsrtEntry) (index + 1) count

def dumpEsrt (memory : Memory) (esrt : Nat) : List Line :=
  let fwResourceCount := memory.readLe esrt 4
  [.field "FwResourceCount" fwResourceCount,
    .field "FwResourceCountMax" (memory.readLe (esrt + 4) 4),
    .field "FwResourceVersion" (memory.readLe (esrt + 8) 8)] ++
  dumpEsrtEntries memory (esrt + 16) 0 fwResourceCount

def dumpEsrtRepository (esrtRepository : Memory) (repositorySize : Nat) : List Line :=
  if repositorySize % sizeofEsrtEntry ≠ 0 then [.repositoryCorrupt]
  else dumpEsrtEntries esrtRepository 0 0 (repositorySize / sizeofEsrtEntry)

/-! ## Calls -/

/-- A call with its answer; without one the status is an error, and of GetImageInfo and GetImage
with a size of zero any status but EFI_BUFFER_TOO_SMALL. -/
inductive Call where
  /-- The pool of the handles, and the handles. -/
  | locateHandleBuffer (found : Option (Nat × List Nat))
  | handleProtocol (handle : Nat) (fmp : Option Nat)
  | getImageInfoSize (fmp : Nat) (imageInfoSize : Option Nat)
  | allocatePool (size : Nat) (buffer : Option Nat)
  | getImageInfo (fmp imageInfoSize buffer : Nat) (info : Option ImageInfo)
  | getPackageInfo (fmp : Nat) (info : Option PackageInfo)
  | getImageSize (fmp imageIndex : Nat) (imageSize : Option Nat)
  | getImage (fmp imageIndex imageSize image : Nat) (data : Option (List UInt8))
  | getEsrtEntry (fwClass : Nat) (entry : Option EsrtEntry)
  /-- GetVariable2: the pool of the data, their size and the data. -/
  | getVariable2 (name : String) (found : Option (Nat × Nat × Memory))
  /-- The code reads what is in a pool. -/
  | examine (buffer : Nat)
  | freePool (buffer : Nat)
  | print (lines : List Line)
  | printCapsules (lines : List CapsuleLine)
  /-- WriteFileFromBuffer's. -/
  | file (call : LsEfi.Support.Call)

def poolOf (name : Option (Nat × List UInt16)) : Multiset Nat :=
  name.elim 0 fun name => {name.1}

def Call.move : Call → Move Nat
  | .locateHandleBuffer (some (handleBuffer, _)) => Move.acquire handleBuffer
  | .allocatePool _ (some buffer) => Move.acquire buffer
  | .getImageInfo _ _ buffer info =>
      { takes := {buffer}
        gives := (info.elim 0 fun info => poolOf info.packageVersionName) + {buffer} }
  | .getPackageInfo _ info =>
      { takes := 0, gives := info.elim 0 fun info => poolOf info.packageVersionName }
  | .getImage _ _ _ image _ => Move.use image
  | .getVariable2 _ (some (esrtRepository, _)) => Move.acquire esrtRepository
  | .examine buffer => Move.use buffer
  | .freePool buffer => Move.release buffer
  | _ => Move.keep

/-- The calls of WriteFileFromBuffer, which keeps a ledger of its own. -/
def Call.file? : Call → Option LsEfi.Support.Call
  | .file call => some call
  | _ => none

/-- The services, by what passed before. -/
structure Firmware where
  locateHandleBuffer : List Call → Option (Nat × List Nat)
  handleProtocol : Nat → List Call → Option Nat
  getImageInfoSize : Nat → List Call → Option Nat
  allocatePool : Nat → List Call → Option Nat
  getImageInfo : Nat → Nat → List Call → Option ImageInfo
  getPackageInfo : Nat → List Call → Option PackageInfo
  getImageSize : Nat → Nat → List Call → Option Nat
  getImage : Nat → Nat → Nat → List Call → Option (List UInt8)
  getEsrtEntry : Nat → List Call → Option EsrtEntry
  getVariable2 : String → List Call → Option (Nat × Nat × Memory)
  shell : LsEfi.Support.Shell

abbrev Calls := Dialogue Call

section Dumps

variable (firmware : Firmware)

/-- What the body of the loop over the handles has of a handle. -/
inductive Asked where
  | skipped
  | outOfResources
  | failed (buffer : Nat)
  | told (fmp buffer : Nat) (info : ImageInfo)

def locateHandles : Calls (Option (Nat × List Nat)) :=
  ask firmware.locateHandleBuffer .locateHandleBuffer

/-- HandleProtocol, the size, the buffer and the ImageInfo, as in DumpFmpData and in
FindFmpFromImageTypeId. -/
def askImageInfo (handle : Nat) : Calls Asked := do
  match ← ask (firmware.handleProtocol handle) (.handleProtocol handle) with
  | none => pure .skipped
  | some fmp => do
      match ← ask (firmware.getImageInfoSize fmp) (.getImageInfoSize fmp) with
      | none => pure .skipped
      | some imageInfoSize => do
          match ← ask (firmware.allocatePool imageInfoSize) (.allocatePool imageInfoSize) with
          | none => pure .outOfResources
          | some buffer => do
              match ← ask (firmware.getImageInfo fmp imageInfoSize)
                  (.getImageInfo fmp imageInfoSize buffer) with
              | none => pure (.failed buffer)
              | some info => pure (.told fmp buffer info)

def freeName : Option (Nat × List UInt16) → Calls Unit
  | none => pure ()
  | some (pool, _) => tell (.freePool pool)

/-- A dump of a text that may be in a pool. -/
def dumpWithName (name : Option (Nat × List UInt16)) (lines : List Line) : Calls Unit := do
  match name with
  | none => tell (.print lines)
  | some (pool, _) => do
      tell (.examine pool)
      tell (.print lines)

/-- The part behind a successful GetImageInfo. -/
def dumpFmp (index fmp buffer : Nat) (info : ImageInfo) : Calls Unit := do
  tell (.print [.imageInfo index])
  tell (.examine buffer)
  dumpWithName info.packageVersionName (dumpFmpImageInfo info)
  freeName info.packageVersionName
  tell (.freePool buffer)
  match ← ask (firmware.getPackageInfo fmp) (.getPackageInfo fmp) with
  | none => tell (.print [.packageInfoFailed index])
  | some package => do
      dumpWithName package.packageVersionName
        (.imageInfo index :: dumpFmpPackageInfo package)
      freeName package.packageVersionName

def dumpFmpsFrom (handleBuffer : Nat) : Nat → List Nat → Calls Unit
  | _, [] => do
      tell (.print [.blank])
      tell (.freePool handleBuffer)
  | index, handle :: rest => do
      tell (.examine handleBuffer)
      match ← askImageInfo firmware handle with
      | .skipped => dumpFmpsFrom handleBuffer (index + 1) rest
      | .outOfResources => tell (.freePool handleBuffer)
      | .failed buffer => do
          tell (.print [.imageInfoFailed index])
          tell (.freePool buffer)
          dumpFmpsFrom handleBuffer (index + 1) rest
      | .told fmp buffer info => do
          dumpFmp firmware index fmp buffer info
          dumpFmpsFrom handleBuffer (index + 1) rest

def dumpFmpData : Calls Unit := do
  tell (.print [.banner "FMP DATA"])
  match ← locateHandles firmware with
  | none => tell (.print [.notFound])
  | some (handleBuffer, handles) => dumpFmpsFrom firmware handleBuffer 0 handles

/-- The loop of FindFmpFromImageTypeId and what is behind it. -/
def findAmong (imageTypeId handleBuffer : Nat) : List Nat → Calls (Option Nat)
  | [] => do
      tell (.freePool handleBuffer)
      pure none
  | handle :: rest => do
      tell (.examine handleBuffer)
      match ← askImageInfo firmware handle with
      | .skipped => findAmong imageTypeId handleBuffer rest
      | .outOfResources => do
          tell (.freePool handleBuffer)
          tell (.print [.outOfResource])
          pure none
      | .failed buffer => do
          tell (.freePool buffer)
          findAmong imageTypeId handleBuffer rest
      | .told fmp buffer info => do
          freeName info.packageVersionName
          tell (.examine buffer)
          tell (.freePool buffer)
          if isThisFmpImageInfo info imageTypeId then do
            tell (.freePool handleBuffer)
            pure (some fmp)
          else findAmong imageTypeId handleBuffer rest

def findFmpFromImageTypeId (imageTypeId : Nat) : Calls (Option Nat) := do
  match ← locateHandles firmware with
  | none => do
      tell (.print [.notFound])
      pure none
  | some (handleBuffer, handles) => findAmong firmware imageTypeId handleBuffer handles

/-- How DumpFmpImage returns, with the pool that it has got for the image. -/
inductive ImageStatus where
  | noFmp
  | imageIndexTooBig
  | getImageSizeFailed
  | outOfResources
  | getImageFailed (image : Nat)
  | written (image : Nat) (data : List UInt8) (status : WriteStatus)

/-- The part with the image's pool, which nothing frees. -/
def saveImage (imageTypeId imageIndex : Nat) (imageName : Argument) (fmp imageSize image : Nat) :
    Calls ImageStatus := do
  match ← ask (firmware.getImage fmp imageIndex imageSize)
      (.getImage fmp imageIndex imageSize image) with
  | none => do
      tell (.print [.getImageFailed])
      pure (.getImageFailed image)
  | some data => do
      tell (.examine image)
      let (status, _) ← embed Call.file? .file
        (LsEfi.Support.writeFileFromBuffer firmware.shell imageName data)
      tell (.print [.dumped imageTypeId imageIndex imageName status])
      pure (.written image data status)

def getFmpImage (imageTypeId imageIndex : Nat) (imageName : Argument) (fmp : Nat) :
    Calls ImageStatus := do
  match ← ask (firmware.getImageSize fmp imageIndex) (.getImageSize fmp imageIndex) with
  | none => do
      tell (.print [.getImageFailed])
      pure .getImageSizeFailed
  | some imageSize => do
      match ← ask (firmware.allocatePool imageSize) (.allocatePool imageSize) with
      | none => do
          tell (.print [.allocateFailed imageSize])
          pure .outOfResources
      | some image => saveImage firmware imageTypeId imageIndex imageName fmp imageSize image

def dumpFmpImage (imageTypeId imageIndex : Nat) (imageName : Argument) : Calls ImageStatus := do
  match ← findFmpFromImageTypeId firmware imageTypeId with
  | none => do
      tell (.print [.noFmp imageTypeId])
      pure .noFmp
  | some fmp =>
      if 0xFF < imageIndex then do
        tell (.print [.imageIndexTooBig imageIndex])
        pure .imageIndexTooBig
      else getFmpImage firmware imageTypeId imageIndex imageName fmp

end Dumps

end AppEfi.Fmp
