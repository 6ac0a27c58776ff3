import AppEfi.PeiCore.PeiCoreDumpApp

/-!
# The images that addresses are attributed to

`DumpImageData` passes 0 for ImageSize, so that no address lies in an image that
`AddImageStruct` recorded, and the app never fills the table that it looks names up in.
The true size of an image is a parameter: the code has it nowhere.
-/

set_option autoImplicit false

namespace AppEfi.PeiCore

open AppEfi.SmmCore (Guid Uintn uintn ImageStruct addressToImageRef addressToImageName
  unknownName)

section Attribution

variable {width : Nat} (services : PeiServices width) (privateData : CoreInstance width)

/-- The file handles that `DumpImageData` comes to. -/
def dispatchedPeims : List Nat :=
  privateData.fv.flatMap fun fv =>
    fv.fvFileHandles.takeWhile fun fileHandle => fileHandle ≠ 0

/-- From the first byte of a PEIM's image to its last. -/
def InImage (imageSize : Nat → Nat) (fileHandle : Nat) (address : Uintn width) : Prop :=
  (driverImage services fileHandle).imageBase.val ≤ address.val ∧
    address.val < (driverImage services fileHandle).imageBase.val + imageSize fileHandle

/-- `AddressToImageNameEx`, for the DEBUG output of `DumpPpiPtrs`. -/
def addressToImageNameEx (images : List (ImageStruct width)) (address : Uintn width)
    (ppi : Guid) : List UInt16 :=
  let name := addressToImageName images address
  if name ≠ unknownName then name
  else
    match services.mPpiFuncStruct.find? fun entry => entry.1 = ppi with
    | some (_, funcOffset) =>
        addressToImageName images (services.load (uintn width (address.val + funcOffset)).val)
    | none => unknownName

/-- The element of `mImageStruct` that a reference names; -1 names none. -/
def imageIndex (imageRef : Uintn width) : Option Nat :=
  if imageRef = uintn width (256 ^ width - 1) then none else some imageRef.val

/-- What the dump says about an address: the references of a notify function and of the
interface of a PPI, the names in the DEBUG output, and the names that the app prints. -/
structure AttributedTo (address : Uintn width) (ppi : Guid) (peim : Option Nat)
    (name : List UInt16) : Prop where
  notifyRef : imageIndex (addressToImageRef (dumpImageData services privateData) address) = peim
  interfaceRef : imageIndex
    (addressToImageRefEx services (dumpImageData services privateData) address ppi) = peim
  notifyName : addressToImageName (dumpImageData services privateData) address = name
  interfaceName :
    addressToImageNameEx services (dumpImageData services privateData) address ppi = name
  notifyPrinted : mImageStruct.getImageRefName
    (toUint64 (addressToImageRef (dumpImageData services privateData) address)) = name
  interfacePrinted : mImageStruct.getImageRefName
    (toUint64 (addressToImageRefEx services (dumpImageData services privateData) address ppi)) =
      name

/-- An address in the image of a PEIM is attributed to it, and one in no image to none. -/
structure AttributesAddress (imageSize : Nat → Nat) (address : Uintn width) (ppi : Guid) :
    Prop where
  inside : ∀ index fileHandle, (dispatchedPeims privateData)[index]? = some fileHandle →
    InImage services imageSize fileHandle address →
      AttributedTo services privateData address ppi (some index)
        (driverImage services fileHandle).nameString.characters
  outside : (∀ fileHandle ∈ dispatchedPeims privateData,
      ¬ InImage services imageSize fileHandle address) →
    AttributedTo services privateData address ppi none unknownName

variable {services privateData}

/-! ## No size is recorded -/

theorem imageSize_dumpImageData :
    ∀ image ∈ dumpImageData services privateData, image.imageSize = uintn width 0 := by
  have added : ∀ (images : List (ImageStruct width)) (fileHandle : Nat),
      (∀ image ∈ images, image.imageSize = uintn width 0) →
        ∀ image ∈ addImageStruct (calcTotalPeimCount privateData) images
          (driverImage services fileHandle), image.imageSize = uintn width 0 := by
    intro images fileHandle zero image listed
    rw [addImageStruct] at listed
    split at listed
    · exact zero image listed
    · rcases List.mem_append.mp listed with before | last
      · exact zero image before
      · rw [List.mem_singleton.mp last]
        rfl
  unfold dumpImageData
  split
  · intro image listed
    cases listed
  · apply List.foldlRecOn (motive := fun images : List (ImageStruct width) =>
      ∀ image ∈ images, image.imageSize = uintn width 0)
    · intro image listed
      cases listed
    · intro images zero fv _
      apply List.foldlRecOn (motive := fun images : List (ImageStruct width) =>
        ∀ image ∈ images, image.imageSize = uintn width 0)
      · exact zero
      · intro images zero fileHandle _
        exact added images fileHandle zero

theorem contains_eq_false {image : ImageStruct width} (zero : image.imageSize = uintn width 0)
    (address : Uintn width) : image.contains address = false := by
  have size : (uintn width 0).val = 0 := Nat.zero_mod _
  have base : uintn width (image.imageBase.val + image.imageSize.val) = image.imageBase := by
    rw [zero, size, Nat.add_zero]
    exact Fin.ext (SmmCore.val_uintn image.imageBase.isLt)
  rw [ImageStruct.contains, base, Bool.and_eq_false_iff, decide_eq_false_iff_not,
    decide_eq_false_iff_not, Fin.le_def, Fin.lt_def]
  omega

theorem addressToImageRef_dumpImageData (address : Uintn width) :
    addressToImageRef (dumpImageData services privateData) address =
      uintn width (256 ^ width - 1) := by
  have none : (dumpImageData services privateData).findIdx?
      (fun image => image.contains address) = none :=
    List.findIdx?_eq_none_iff.mpr fun image listed =>
      contains_eq_false (imageSize_dumpImageData image listed) address
  rw [addressToImageRef, none]

theorem addressToImageName_dumpImageData (address : Uintn width) :
    addressToImageName (dumpImageData services privateData) address = unknownName := by
  have none : (dumpImageData services privateData).find?
      (fun image => image.contains address) = none :=
    List.find?_eq_none.mpr fun image listed => by
      rw [contains_eq_false (imageSize_dumpImageData image listed) address]
      exact Bool.false_ne_true
  rw [addressToImageName, none]

theorem addressToImageRefEx_dumpImageData (address : Uintn width) (ppi : Guid) :
    addressToImageRefEx services (dumpImageData services privateData) address ppi =
      uintn width (256 ^ width - 1) := by
  simp only [addressToImageRefEx, addressToImageRef_dumpImageData, ne_eq, not_true_eq_false,
    if_false]
  split <;> rfl

theorem addressToImageNameEx_dumpImageData (address : Uintn width) (ppi : Guid) :
    addressToImageNameEx services (dumpImageData services privateData) address ppi =
      unknownName := by
  simp only [addressToImageNameEx, addressToImageName_dumpImageData, ne_eq, not_true_eq_false,
    if_false]
  split <;> rfl

theorem attributedTo_none (address : Uintn width) (ppi : Guid) :
    AttributedTo services privateData address ppi none unknownName where
  notifyRef := by rw [addressToImageRef_dumpImageData, imageIndex, if_pos rfl]
  interfaceRef := by rw [addressToImageRefEx_dumpImageData, imageIndex, if_pos rfl]
  notifyName := addressToImageName_dumpImageData address
  interfaceName := addressToImageNameEx_dumpImageData address ppi
  notifyPrinted := rfl
  interfacePrinted := rfl

/-- Every address is attributed to none, which is right for those in no image. -/
theorem attributesAddress_iff (imageSize : Nat → Nat) (address : Uintn width) (ppi : Guid) :
    AttributesAddress services privateData imageSize address ppi ↔
      ∀ fileHandle ∈ dispatchedPeims privateData,
        ¬ InImage services imageSize fileHandle address := by
  constructor
  · intro attributes fileHandle listed inImage
    obtain ⟨index, found⟩ := List.mem_iff_getElem?.mp listed
    have toPeim := (attributes.inside index fileHandle found inImage).notifyRef
    rw [(attributedTo_none address ppi).notifyRef] at toPeim
    cases toPeim
  · intro outside
    refine ⟨fun index fileHandle found inImage => ?_, fun _ => attributedTo_none address ppi⟩
    exact absurd inImage (outside fileHandle (List.mem_of_getElem? found))

end Attribution

/-! ## Two PEIMs of a page each -/

def twoPeims : CoreInstance 8 :=
  { instanceWith 0 with fv := [⟨[1, 2]⟩] }

def pageServices : PeiServices 8 where
  poolAvailable := true
  getDriverNameString fileHandle :=
    (some emptyNameString, peiCoreDumpGuid, uintn 8 (fileHandle * 0x1000))
  load _ := uintn 8 0
  mPpiFuncStruct := []

/-- The images are disjoint, and the address is the first byte of the second one. -/
theorem attributesAddress_secondPeim :
    (dispatchedPeims twoPeims).Pairwise (fun first second => ∀ address,
        InImage pageServices (fun _ => 0x1000) first address →
          ¬ InImage pageServices (fun _ => 0x1000) second address) ∧
      InImage pageServices (fun _ => 0x1000) 2 (uintn 8 0x2000) ∧
      ¬ AttributesAddress pageServices twoPeims (fun _ => 0x1000) (uintn 8 0x2000)
        peiCoreDumpGuid := by
  have peims : dispatchedPeims twoPeims = [1, 2] := by decide
  have base : ∀ fileHandle < 3, (driverImage pageServices fileHandle).imageBase.val =
      fileHandle * 0x1000 := by decide
  refine ⟨?_, ?_, ?_⟩
  · rw [peims, List.pairwise_pair]
    intro address first second
    rw [InImage, base 1 (by decide)] at first
    rw [InImage, base 2 (by decide)] at second
    omega
  · rw [InImage, base 2 (by decide)]
    decide
  · intro attributes
    have toPeim := (attributes.inside 1 2 (by rw [peims]; rfl) (by
      rw [InImage, base 2 (by decide)]
      decide)).notifyRef
    rw [(attributedTo_none _ peiCoreDumpGuid).notifyRef] at toPeim
    cases toPeim

end AppEfi.PeiCore
