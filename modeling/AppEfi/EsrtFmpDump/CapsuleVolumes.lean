import AppEfi.HobList.ListedHobs

/-!
# Capsule volumes

DumpCapsuleVolumeHobData goes from one capsule HOB to the next with GetNextHob and shows the
capsule at the base address of each: of an FMP capsule the offsets of all its items, and of its
payloads, which come behind the drivers, the image headers.
-/

set_option autoImplicit false

namespace AppEfi.Fmp

open AppEfi.Fields
open AppEfi.HobList (Hob Stored hobTypeAt endOfHobList getNextHob typeUefiCapsule)
open AppEfi.RecordWalk

inductive CapsuleLine where
  | volumeHob (index baseAddress length : Nat)
  | banner
  | header (capsuleGuid : Nat) (name : String) (headerSize flags capsuleImageSize : Nat)
  | persistAcrossReset (flag : Nat)
  | populateSystemTable (flag : Nat)
  | initiateReset (flag : Nat)
  | windowsUx (version checksum imageType mode offsetX offsetY : Nat)
  | fmpCapsule (version embeddedDriverCount payloadItemCount : Nat)
  | itemOffset (index offset : Nat)
  | imageHeader (version updateImageTypeId updateImageIndex updateImageSize
      updateVendorCodeSize : Nat)
  | updateHardwareInstance (instance_ : Nat)
  | blank
  deriving DecidableEq

/-- The GUIDs of the two formats, which GUIDs the ESRT protocol has an entry of, and
EFI_FIRMWARE_MANAGEMENT_CAPSULE_IMAGE_HEADER_INIT_VERSION of the package with the header. -/
structure CapsuleConstants where
  windowsUx : Nat
  fmp : Nat
  esrt : Nat → Bool
  initVersion : Nat

section Dump

variable (memory : Memory) (constants : CapsuleConstants)

def getCapsuleName (guid : Nat) : String :=
  if guid = constants.windowsUx then "Windows UX Capsule"
  else if guid = constants.fmp then "UEFI FMP Capsule"
  else if constants.esrt guid then "RSRT Capsule (unknown format)"
  else "Unknown Capsule"

def dumpWindowsUxCapsule (displayCapsule : Nat) : List CapsuleLine :=
  let imagePayload := displayCapsule + 28
  [.windowsUx (memory.readLe imagePayload 1) (memory.readLe (imagePayload + 1) 1)
    (memory.readLe (imagePayload + 2) 1) (memory.readLe (imagePayload + 4) 4)
    (memory.readLe (imagePayload + 8) 4) (memory.readLe (imagePayload + 12) 4)]

def dumpImageHeader (imageHeader : Nat) : List CapsuleLine :=
  let version := memory.readLe imageHeader 4
  .imageHeader version (memory.readLe (imageHeader + 4) 16) (memory.readLe (imageHeader + 20) 1)
    (memory.readLe (imageHeader + 24) 4) (memory.readLe (imageHeader + 28) 4) ::
  if constants.initVersion ≤ version then
    [.updateHardwareInstance (memory.readLe (imageHeader + 32) 8)]
  else []

/-- ItemOffsetList[Index]. -/
def itemOffsetAt (fmpCapsuleHeader index : Nat) : Nat :=
  memory.readLe (fmpCapsuleHeader + 8 + 8 * index) 8

def dumpFmpCapsule (capsuleHeader : Nat) : List CapsuleLine :=
  let fmpCapsuleHeader := capsuleHeader + memory.readLe (capsuleHeader + 16) 4
  let embeddedDriverCount := memory.readLe (fmpCapsuleHeader + 4) 2
  let payloadItemCount := memory.readLe (fmpCapsuleHeader + 6) 2
  .fmpCapsule (memory.readLe fmpCapsuleHeader 4) embeddedDriverCount payloadItemCount ::
  (List.range' 0 embeddedDriverCount).map (fun index =>
    .itemOffset index (itemOffsetAt memory fmpCapsuleHeader index)) ++
  (List.range' embeddedDriverCount payloadItemCount).flatMap fun index =>
    .itemOffset index (itemOffsetAt memory fmpCapsuleHeader index) ::
      dumpImageHeader memory constants
        (fmpCapsuleHeader + itemOffsetAt memory fmpCapsuleHeader index)

def dumpCapsuleVolumeHob (hob : Nat) : List CapsuleLine :=
  let capsuleHeader := memory.readLe (hob + 8) 8
  let capsuleGuid := memory.readLe capsuleHeader 16
  let flags := memory.readLe (capsuleHeader + 20) 4
  [.banner,
    .header capsuleGuid (getCapsuleName constants capsuleGuid)
      (memory.readLe (capsuleHeader + 16) 4) flags (memory.readLe (capsuleHeader + 24) 4),
    .persistAcrossReset (flags &&& 0x00010000),
    .populateSystemTable (flags &&& 0x00020000),
    .initiateReset (flags &&& 0x00040000)] ++
  (if capsuleGuid = constants.windowsUx then dumpWindowsUxCapsule memory capsuleHeader
    else if capsuleGuid = constants.fmp then dumpFmpCapsule memory constants capsuleHeader
    else []) ++
  [.blank]

/-- GetNextHob: the first HOB of a type from a HOB on, this one included, if the list has one.
The outer `none` is for want of fuel. -/
def getNextHobOf (hobType : Nat) : Nat → Nat → Option (Option Nat)
  | 0, _ => none
  | fuel + 1, hob =>
      if endOfHobList memory hob then some none
      else if hobTypeAt memory hob = hobType then some (some hob)
      else getNextHobOf hobType fuel (getNextHob memory hob)

/-- The loop of DumpCapsuleVolumeHobData, with a bound on each search. -/
def dumpVolumesFrom (bound : Nat) : Nat → Nat → Nat → Option (List CapsuleLine)
  | 0, _, _ => none
  | fuel + 1, index, start =>
      match getNextHobOf memory typeUefiCapsule bound start with
      | none => none
      | some none => some []
      | some (some hob) =>
          (dumpVolumesFrom bound fuel (index + 1) (getNextHob memory hob)).map fun rest =>
            .volumeHob index (memory.readLe (hob + 8) 8) (memory.readLe (hob + 16) 8) ::
              dumpCapsuleVolumeHob memory constants hob ++ rest

def dumpCapsuleVolumeHobData (fuel hobList : Nat) : Option (List CapsuleLine) :=
  dumpVolumesFrom memory constants fuel fuel 0 hobList

end Dump

/-! ## The format -/

/-- EFI_FIRMWARE_MANAGEMENT_CAPSULE_IMAGE_HEADER, which has a hardware instance from
`initVersion` on. -/
structure ImageHeader where
  version : Nat
  updateImageTypeId : Nat
  updateImageIndex : Nat
  updateImageSize : Nat
  updateVendorCodeSize : Nat
  updateHardwareInstance : Nat

namespace ImageHeader

variable (constants : CapsuleConstants)

def fields (header : ImageHeader) : List Field :=
  [⟨4, header.version⟩, ⟨16, header.updateImageTypeId⟩, ⟨1, header.updateImageIndex⟩, ⟨3, 0⟩,
    ⟨4, header.updateImageSize⟩, ⟨4, header.updateVendorCodeSize⟩] ++
  if constants.initVersion ≤ header.version then [⟨8, header.updateHardwareInstance⟩] else []

def lines (header : ImageHeader) : List CapsuleLine :=
  .imageHeader header.version header.updateImageTypeId header.updateImageIndex
    header.updateImageSize header.updateVendorCodeSize ::
  if constants.initVersion ≤ header.version then
    [.updateHardwareInstance header.updateHardwareInstance]
  else []

end ImageHeader

/-- What stands behind the capsule header.  Drivers and payloads come with their offsets. -/
inductive Content where
  | windowsUx (version checksum imageType mode offsetX offsetY : Nat)
  | fmp (version : Nat) (drivers : List Nat) (payloads : List (Nat × ImageHeader))
  | unknown (guid : Nat)

def Content.guid (constants : CapsuleConstants) : Content → Nat
  | .windowsUx .. => constants.windowsUx
  | .fmp .. => constants.fmp
  | .unknown guid => guid

structure Capsule where
  headerSize : Nat
  flags : Nat
  capsuleImageSize : Nat
  content : Content

def Capsule.headerFields (constants : CapsuleConstants) (capsule : Capsule) : List Field :=
  [⟨16, capsule.content.guid constants⟩, ⟨4, capsule.headerSize⟩, ⟨4, capsule.flags⟩,
    ⟨4, capsule.capsuleImageSize⟩]

def windowsUxFields (version checksum imageType mode offsetX offsetY : Nat) : List Field :=
  [⟨1, version⟩, ⟨1, checksum⟩, ⟨1, imageType⟩, ⟨1, 0⟩, ⟨4, mode⟩, ⟨4, offsetX⟩, ⟨4, offsetY⟩]

def fmpFields (version : Nat) (drivers : List Nat) (payloads : List (Nat × ImageHeader)) :
    List Field :=
  [⟨4, version⟩, ⟨2, drivers.length⟩, ⟨2, payloads.length⟩]

def itemFields (drivers : List Nat) (payloads : List (Nat × ImageHeader)) : List Field :=
  (drivers ++ payloads.map (·.1)).map fun offset => ⟨8, offset⟩

/-- A structure lies at an address, and its values fit its fields. -/
structure Lies (memory : Memory) (address : Nat) (fields : List Field) : Prop where
  held : memory.Holds address (encode fields)
  fits : ∀ field ∈ fields, field.Fits

/-- The FMP header with its item offsets behind the capsule header, and each image header at the
offset of its payload. -/
structure LiesFmp (constants : CapsuleConstants) (memory : Memory) (address version : Nat)
    (drivers : List Nat) (payloads : List (Nat × ImageHeader)) : Prop where
  header : Lies memory address (fmpFields version drivers payloads)
  items : Lies memory (address + 8) (itemFields drivers payloads)
  payloads : ∀ payload ∈ payloads, Lies memory (address + payload.1) (payload.2.fields constants)

/-- A capsule in memory. -/
def Content.Lies (constants : CapsuleConstants) (memory : Memory) (address headerSize : Nat) :
    Content → Prop
  | .windowsUx version checksum imageType mode offsetX offsetY =>
      Fmp.Lies memory (address + 28)
        (windowsUxFields version checksum imageType mode offsetX offsetY)
  | .fmp version drivers payloads =>
      constants.fmp ≠ constants.windowsUx ∧
        LiesFmp constants memory (address + headerSize) version drivers payloads
  | .unknown guid => guid ≠ constants.windowsUx ∧ guid ≠ constants.fmp

structure Capsule.Lies (constants : CapsuleConstants) (memory : Memory) (address : Nat)
    (capsule : Capsule) : Prop where
  header : Fmp.Lies memory address (capsule.headerFields constants)
  content : capsule.content.Lies constants memory address capsule.headerSize

def payloadLines (constants : CapsuleConstants) (index : Nat) :
    List (Nat × ImageHeader) → List CapsuleLine
  | [] => []
  | (offset, header) :: rest =>
      .itemOffset index offset :: header.lines constants ++
        payloadLines constants (index + 1) rest

def driverLines (index : Nat) : List Nat → List CapsuleLine
  | [] => []
  | offset :: rest => .itemOffset index offset :: driverLines (index + 1) rest

def Content.lines (constants : CapsuleConstants) : Content → List CapsuleLine
  | .windowsUx version checksum imageType mode offsetX offsetY =>
      [.windowsUx version checksum imageType mode offsetX offsetY]
  | .fmp version drivers payloads =>
      .fmpCapsule version drivers.length payloads.length :: driverLines 0 drivers ++
        payloadLines constants drivers.length payloads
  | .unknown _ => []

def Capsule.lines (constants : CapsuleConstants) (capsule : Capsule) : List CapsuleLine :=
  [.banner,
    .header (capsule.content.guid constants)
      (getCapsuleName constants (capsule.content.guid constants)) capsule.headerSize
      capsule.flags capsule.capsuleImageSize,
    .persistAcrossReset (capsule.flags &&& 0x00010000),
    .populateSystemTable (capsule.flags &&& 0x00020000),
    .initiateReset (capsule.flags &&& 0x00040000)] ++
  capsule.content.lines constants ++ [.blank]

end AppEfi.Fmp
