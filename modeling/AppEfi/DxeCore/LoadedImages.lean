import AppEfi.CoreDump.CoreLists
import AppEfi.CoreDump.SupportGuid

/-!
# The loaded images

GetLoadedImage of DxeCoreDump.c: it prints the IMAGE DATABASE section, fills mImageStruct, by
which addresses are named later, and finds the image of the DXE core.  The name of an image
comes from GetDriverNameString, which asks libraries.
-/

set_option autoImplicit false

namespace AppEfi.DxeCore

/-- `IMAGE_STRUCT`. -/
structure ImageStruct where
  imageBase : Nat
  imageSize : Nat
  nameString : List UInt16
  deriving DecidableEq, Repr

/-- The calls of Print, with what they print of the core.  A title stands for its rules too. -/
inductive Line where
  | title (text : String)
  | loadedImage (name : Option (List UInt16))
  | imageRange (imageBase imageSize : Nat)
  | entryPoint (entryPoint : Nat)
  | realImageBase (imageBase : Nat)
  | handle (handle : Nat)
  | handleInterface (protocol : List UInt8) (interface : Nat)
  | protocol (name : List UInt8)
  | entryInterface (interface : Nat)
  | image (name : List UInt16)
  | path (devicePath : Nat)
  | event (event : Nat)
  | eventGroup (name : List UInt8)
  | timer (triggerTime period : Nat)
  | notify (type notifyTpl notifyFunction : Nat)
  | newline
  /-- The ASSERT of `CR`. -/
  | badSignature
  /-- The ASSERT_EFI_ERROR behind InternalPeCoffGetEntryPoint. -/
  | badEntryPoint
  deriving DecidableEq, Repr

/-- EFI_LOADED_IMAGE_PROTOCOL, with the EntryPoint of the LOADED_IMAGE_PRIVATE_DATA around it
when that has its signature. -/
structure LoadedImage where
  imageBase : Nat
  imageSize : Nat
  filePath : Nat
  entryPoint : Option Nat
  /-- GetDriverNameString. -/
  nameString : Option (List UInt16)
  /-- CompareMem of FilePath with mDxeCoreFilePath. -/
  isDxeCore : Bool
  deriving DecidableEq

/-- LocateHandleBuffer, with what HandleProtocol gives for each handle, and AllocateZeroPool. -/
structure ImageServices where
  handles : Option (List (Option LoadedImage))
  allocated : Bool
  /-- EntryPointInImage before it is set. -/
  entryPointInImage : Nat

/-- The lines, mImageStruct, and whether mDxeCoreLoadedImage is not NULL. -/
structure ImageDatabase where
  lines : List Line
  mImageStruct : List ImageStruct
  dxeCoreFound : Bool
  deriving DecidableEq

section Images

variable (width : Nat) (memory : Memory)

/-- The entry point by the PE or the TE header. -/
def internalPeCoffGetEntryPoint (pe32Data : Nat) : Option Nat :=
  let hdr :=
    if memory.readLe pe32Data 2 = 0x5A4D then
      pe32Data + (memory.readLe (pe32Data + 60) 4 &&& 0xFFFF)
    else pe32Data
  if memory.readLe hdr 2 = 0x5A56 then
    some ((pe32Data + memory.readLe (hdr + 8) 4 + 40 + 256 ^ width - memory.readLe (hdr + 6) 2) %
      256 ^ width)
  else if memory.readLe hdr 4 = 0x00004550 then
    some ((pe32Data + memory.readLe (hdr + 40) 4) % 256 ^ width)
  else none

namespace LoadedImage

variable (image : LoadedImage)

/-- The entry point is not in the image, as in the emulation environment. -/
def isEmulated : Bool :=
  let entryPoint := image.entryPoint.getD 0
  entryPoint ≠ 0 ∧ (entryPoint < image.imageBase ∨
    (image.imageBase + image.imageSize) % 256 ^ width ≤ entryPoint)

/-- `RealImageBase`. -/
def realImageBase (entryPointInImage : Nat) : Nat :=
  if image.isEmulated width then
    (image.imageBase + image.entryPoint.getD 0 + 256 ^ width - entryPointInImage) % 256 ^ width
  else image.imageBase

def print (entryPointInImage : Nat) (asserts : Bool) : List Line :=
  let entryPoint := image.entryPoint.getD 0
  let realImageBase := image.realImageBase width entryPointInImage
  [.loadedImage image.nameString] ++ (if asserts then [.badEntryPoint] else []) ++
    [.imageRange image.imageBase image.imageSize] ++
    (if entryPoint ≠ 0 then [.entryPoint entryPoint] else []) ++
    (if realImageBase ≠ image.imageBase then [.realImageBase realImageBase] else []) ++
    [.newline, .path image.filePath]

/-- AddImageStruct, whose StrnCpyS takes 36 characters. -/
def addImageStruct (entryPointInImage : Nat) : ImageStruct where
  imageBase := image.realImageBase width entryPointInImage
  imageSize := image.imageSize
  nameString := (image.nameString.getD []).take 36

end LoadedImage

/-- The loop over the handles, in which EntryPointInImage keeps its value. -/
def getLoadedImages : List (Option LoadedImage) → Nat → ImageDatabase
  | [], _ => ⟨[], [], false⟩
  | none :: rest, entryPointInImage => getLoadedImages rest entryPointInImage
  | some image :: rest, entryPointInImage =>
      let found :=
        if image.isEmulated width then
          internalPeCoffGetEntryPoint width memory image.imageBase
        else some entryPointInImage
      let entryPointInImage := found.getD entryPointInImage
      let behind := getLoadedImages rest entryPointInImage
      ⟨image.print width entryPointInImage found.isNone ++ behind.lines,
        image.addImageStruct width entryPointInImage :: behind.mImageStruct,
        image.isDxeCore || behind.dxeCoreFound⟩

def getLoadedImage (services : ImageServices) : ImageDatabase :=
  match services.handles with
  | none => ⟨[], [], false⟩
  | some handles =>
      if services.allocated then
        getLoadedImages width memory handles services.entryPointInImage
      else ⟨[], [], false⟩

end Images

/-! ## The images that are listed -/

namespace LoadedImage

variable (width : Nat) (memory : Memory) (image : LoadedImage)

/-- What an image deserves.  Where the entry point is in the image, none is looked for. -/
def lines : List Line :=
  image.print width ((internalPeCoffGetEntryPoint width memory image.imageBase).getD 0) false

def struct : ImageStruct :=
  image.addImageStruct width ((internalPeCoffGetEntryPoint width memory image.imageBase).getD 0)

/-- An image whose entry point is elsewhere has a PE or a TE header. -/
def HasEntryPoint : Prop :=
  image.isEmulated width = true →
    (internalPeCoffGetEntryPoint width memory image.imageBase).isSome = true

end LoadedImage

section Listed

variable {width : Nat} {memory : Memory} {image : LoadedImage}

/-- Where the entry point is in the image, EntryPointInImage does not matter. -/
theorem realImageBase_congr {first second : Nat}
    (same : image.isEmulated width = true → first = second) :
    image.realImageBase width first = image.realImageBase width second := by
  rw [LoadedImage.realImageBase, LoadedImage.realImageBase]
  by_cases emulated : image.isEmulated width = true
  · rw [same emulated]
  · rw [if_neg emulated, if_neg emulated]

theorem print_congr {first second : Nat} {asserts : Bool}
    (same : image.isEmulated width = true → first = second) :
    image.print width first asserts = image.print width second asserts := by
  rw [LoadedImage.print, LoadedImage.print, realImageBase_congr same]

theorem addImageStruct_congr {first second : Nat}
    (same : image.isEmulated width = true → first = second) :
    image.addImageStruct width first = image.addImageStruct width second := by
  rw [LoadedImage.addImageStruct, LoadedImage.addImageStruct, realImageBase_congr same]

/-- Each image once, in the order of the handles. -/
theorem getLoadedImages_eq (handles : List (Option LoadedImage))
    (entries : ∀ image, some image ∈ handles → image.HasEntryPoint width memory)
    (entryPointInImage : Nat) :
    getLoadedImages width memory handles entryPointInImage =
      ⟨(handles.filterMap id).flatMap (LoadedImage.lines width memory),
        (handles.filterMap id).map (LoadedImage.struct width memory),
        (handles.filterMap id).any LoadedImage.isDxeCore⟩ := by
  induction handles generalizing entryPointInImage with
  | nil => rfl
  | cons handle rest ih =>
      have behind := ih fun image listed => entries image (List.mem_cons_of_mem _ listed)
      cases handle with
      | none =>
          rw [getLoadedImages, behind]
          rfl
      | some image =>
          have entry := entries image List.mem_cons_self
          by_cases emulated : image.isEmulated width = true
          · obtain ⟨found, isFound⟩ := Option.isSome_iff_exists.mp (entry emulated)
            rw [getLoadedImages, if_pos emulated, behind, isFound, List.filterMap_cons]
            simp [LoadedImage.lines, LoadedImage.struct, isFound]
          · have none (other : Nat) : image.isEmulated width = true → other =
                (internalPeCoffGetEntryPoint width memory image.imageBase).getD 0 :=
              fun also => absurd also emulated
            rw [getLoadedImages, if_neg emulated, behind, List.filterMap_cons]
            simp [LoadedImage.lines, LoadedImage.struct, print_congr (none _),
              addImageStruct_congr (none _)]

end Listed

end AppEfi.DxeCore
