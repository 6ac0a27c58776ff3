import AppEfi.Lib.Alignment
import AppEfi.SmmCore.Database

/-!
# The HOB that PeiCoreDump builds

`DumpImageData` collects the images of all firmware volumes, then
`BuildPeiCoreDatabase` sizes the database, creates a GUID HOB for it and fills in
the image records, the PPI record and the memory record.  A UINTN of the PEI phase
has `width` bytes; the fields of the records are UINT64.
-/

set_option autoImplicit false

namespace AppEfi.PeiCore

open AppEfi.LittleEndian
open AppEfi.RecordWalk
open AppEfi.SmmCore (Guid NameString Uintn uintn signature32 encodeHeader encodeUintn
  ImageStruct ImageRecord addressToImageRef sizeofImageRecord)

/-! ## The PEI core -/

section State

variable (width : Nat)

/-- `EFI_PEI_PPI_DESCRIPTOR` and `EFI_PEI_NOTIFY_DESCRIPTOR`, which are laid out alike. -/
structure PpiDescriptor where
  flags : Uintn width
  guid : Guid
  address : Uintn width

/-- `PEI_PPI_DATABASE`.  The pointers of each list are its CurrentCount first ones;
`none` is NULL. -/
structure PpiData where
  ppiList : List (Option (PpiDescriptor width))
  ppiListMaxCount : Uintn width
  ppiListLastDispatchedCount : Uintn width
  callbackNotifyList : List (Option (PpiDescriptor width))
  callbackNotifyListMaxCount : Uintn width
  dispatchNotifyList : List (Option (PpiDescriptor width))
  dispatchNotifyListMaxCount : Uintn width
  dispatchNotifyListLastDispatchedCount : Uintn width

/-- `PEI_CORE_FV_HANDLE`: PeimCount file handles, of which 0 is NULL. -/
structure FvHandle where
  fvFileHandles : List Nat

/-- `PEI_CORE_INSTANCE`. -/
structure CoreInstance where
  fv : List FvHandle
  ppiData : PpiData width
  physicalMemoryBegin : Uintn 8
  physicalMemoryLength : Uintn 8
  freePhysicalMemoryTop : Uintn 8

/-- What the code gets from the PEI services: the pool, the name, GUID and image of a
file, a UINTN load, and `mPpiFuncStruct`. -/
structure PeiServices where
  poolAvailable : Bool
  getDriverNameString : Nat → Option NameString × Guid × Uintn width
  load : Nat → Uintn width
  mPpiFuncStruct : List (Guid × Nat)

end State

section Counts

variable {width : Nat} (privateData : CoreInstance width)

def calcTotalPeimCount : Nat :=
  privateData.fv.foldl (fun total fv => total + fv.fvFileHandles.length) 0

def calcTotalPpiDataCount : Nat :=
  privateData.ppiData.ppiList.length + privateData.ppiData.callbackNotifyList.length +
    privateData.ppiData.dispatchNotifyList.length

end Counts

/-! ## The images -/

section Images

variable {width : Nat}

def emptyNameString : NameString := ⟨[], NameString.short_nil, NameString.terminated_nil⟩

def zeroGuid : Guid := ⟨List.replicate 16 0, SmmCore.length_zeroGuid⟩

/-- The element that `AddImageStruct` fills; EntryPoint and ImageSize are zero. -/
def driverImage (services : PeiServices width) (fileHandle : Nat) : ImageStruct width :=
  let driver := services.getDriverNameString fileHandle
  { fileGuid := driver.2.1
    entryPoint := uintn width 0
    imageBase := driver.2.2
    imageSize := uintn width 0
    loadedImageBase := driver.2.2
    nameString := driver.1.getD emptyNameString }

/-- `mImageStructCountMax` elements were allocated. -/
def addImageStruct (mImageStructCountMax : Nat) (mImageStruct : List (ImageStruct width))
    (image : ImageStruct width) : List (ImageStruct width) :=
  if mImageStruct.length ≥ mImageStructCountMax then mImageStruct
  else mImageStruct ++ [image]

/-- `mImageStruct`, up to `mImageStructCount`.  A NULL file handle ends its volume. -/
def dumpImageData (services : PeiServices width) (privateData : CoreInstance width) :
    List (ImageStruct width) :=
  if services.poolAvailable = false then []
  else
    privateData.fv.foldl
      (fun images fv =>
        (fv.fvFileHandles.takeWhile fun fileHandle => fileHandle ≠ 0).foldl
          (fun images fileHandle =>
            addImageStruct (calcTotalPeimCount privateData) images
              (driverImage services fileHandle))
          images)
      []

/-- The search of `AddressToImageRef`, and through the functions of two PPIs. -/
def addressToImageRefEx (services : PeiServices width) (images : List (ImageStruct width))
    (address : Uintn width) (protocol : Guid) : Uintn width :=
  let imageRef := addressToImageRef images address
  if imageRef ≠ uintn width (256 ^ width - 1) then imageRef
  else
    match services.mPpiFuncStruct.find? fun entry => entry.1 = protocol with
    | some (_, funcOffset) =>
        addressToImageRef images (services.load (uintn width (address.val + funcOffset)).val)
    | none => uintn width (256 ^ width - 1)

end Images

/-! ## Records -/

def imageSignature : Nat := signature32 'P' 'C' 'I' 'D'

def ppiSignature : Nat := signature32 'P' 'C' 'P' 'D'

def memoryInfoSignature : Nat := signature32 'P' 'C' 'M' 'I'

/-- `PEI_CORE_PPI_STRUCTURE`, with Ppi or Notify as `address`. -/
structure PpiStruct where
  flags : Uintn 8
  guid : Guid
  address : Uintn 8
  imageRef : Uintn 8
  deriving DecidableEq

/-- `PEI_CORE_PPI_DATABASE_STRUCTURE` and the three arrays behind it. -/
structure PpiRecord where
  ppiList : List PpiStruct
  ppiListMaxCount : Uintn 8
  ppiListLastDispatchedCount : Uintn 8
  callbackNotifyList : List PpiStruct
  callbackNotifyListMaxCount : Uintn 8
  dispatchNotifyList : List PpiStruct
  dispatchNotifyListMaxCount : Uintn 8
  dispatchNotifyListLastDispatchedCount : Uintn 8
  deriving DecidableEq

/-- `PEI_CORE_MEMORY_INFO_STRUCTURE`. -/
structure MemoryInfoRecord where
  physicalMemoryBegin : Uintn 8
  physicalMemoryLength : Uintn 8
  freePhysicalMemoryTop : Uintn 8
  deriving DecidableEq

def sizeofPpiStruct : Nat := 40

def sizeofPpiRecord : Nat := 76

def sizeofMemoryInfoRecord : Nat := 36

def encodeImageRecord (record : ImageRecord 8) : List UInt8 :=
  encodeHeader imageSignature (sizeofImageRecord 8) ++ record.fileGuid.val ++
    record.nameString.encode ++ encodeUintn record.entryPoint ++
    encodeUintn record.imageBase ++ encodeUintn record.imageSize ++
    encodeUintn record.realImageBase

def PpiStruct.encode (entry : PpiStruct) : List UInt8 :=
  encodeUintn entry.flags ++ entry.guid.val ++ encodeUintn entry.address ++
    encodeUintn entry.imageRef

def PpiRecord.entries (record : PpiRecord) : List PpiStruct :=
  record.ppiList ++ record.callbackNotifyList ++ record.dispatchNotifyList

def PpiRecord.size (record : PpiRecord) : Nat :=
  sizeofPpiRecord + record.entries.length * sizeofPpiStruct

def PpiRecord.encode (record : PpiRecord) : List UInt8 :=
  encodeHeader ppiSignature record.size ++
    toBytes 8 record.ppiList.length ++ encodeUintn record.ppiListMaxCount ++
    encodeUintn record.ppiListLastDispatchedCount ++
    toBytes 8 record.callbackNotifyList.length ++
    encodeUintn record.callbackNotifyListMaxCount ++
    toBytes 8 record.dispatchNotifyList.length ++
    encodeUintn record.dispatchNotifyListMaxCount ++
    encodeUintn record.dispatchNotifyListLastDispatchedCount ++
    record.entries.flatMap PpiStruct.encode

def MemoryInfoRecord.encode (record : MemoryInfoRecord) : List UInt8 :=
  encodeHeader memoryInfoSignature sizeofMemoryInfoRecord ++
    encodeUintn record.physicalMemoryBegin ++ encodeUintn record.physicalMemoryLength ++
    encodeUintn record.freePhysicalMemoryTop

/-! ## The fill passes -/

section Fill

variable {width : Nat}

def toUint64 (value : Uintn width) : Uintn 8 := uintn 8 value.val

def imageRecord (image : ImageStruct width) : ImageRecord 8 where
  fileGuid := image.fileGuid
  nameString := image.nameString
  entryPoint := toUint64 image.entryPoint
  imageBase := toUint64 image.loadedImageBase
  imageSize := toUint64 image.imageSize
  realImageBase := toUint64 image.imageBase

def zeroImageRecord : ImageRecord 8 where
  fileGuid := zeroGuid
  nameString := emptyNameString
  entryPoint := uintn 8 0
  imageBase := uintn 8 0
  imageSize := uintn 8 0
  realImageBase := uintn 8 0

variable (services : PeiServices width) (privateData : CoreInstance width)
variable (images : List (ImageStruct width))

def buildImageDatabaseData : List (ImageRecord 8) :=
  images.map imageRecord ++
    List.replicate (calcTotalPeimCount privateData - images.length) zeroImageRecord

def zeroPpiStruct : PpiStruct := ⟨uintn 8 0, zeroGuid, uintn 8 0, uintn 8 0⟩

def ppiDescriptorPpi : Nat := 0x10

def ppiDescriptorNotifyTypes : Nat := 0x60

/-- What `BuildPpiData` leaves in one element of the zeroed array. -/
def buildPpiStruct : Option (PpiDescriptor width) → PpiStruct
  | none => zeroPpiStruct
  | some ppi =>
      if ppi.flags.val &&& ppiDescriptorPpi ≠ 0 then
        ⟨toUint64 ppi.flags, ppi.guid, toUint64 ppi.address,
          toUint64 (addressToImageRefEx services images ppi.address ppi.guid)⟩
      else if ppi.flags.val &&& ppiDescriptorNotifyTypes ≠ 0 then
        ⟨toUint64 ppi.flags, ppi.guid, toUint64 ppi.address,
          toUint64 (addressToImageRef images ppi.address)⟩
      else { zeroPpiStruct with flags := toUint64 ppi.flags }

def buildPpiData (ptrs : List (Option (PpiDescriptor width))) : List PpiStruct :=
  ptrs.map (buildPpiStruct services images)

def buildPpiDatabaseData : PpiRecord where
  ppiList := buildPpiData services images privateData.ppiData.ppiList
  ppiListMaxCount := toUint64 privateData.ppiData.ppiListMaxCount
  ppiListLastDispatchedCount := toUint64 privateData.ppiData.ppiListLastDispatchedCount
  callbackNotifyList := buildPpiData services images privateData.ppiData.callbackNotifyList
  callbackNotifyListMaxCount := toUint64 privateData.ppiData.callbackNotifyListMaxCount
  dispatchNotifyList := buildPpiData services images privateData.ppiData.dispatchNotifyList
  dispatchNotifyListMaxCount := toUint64 privateData.ppiData.dispatchNotifyListMaxCount
  dispatchNotifyListLastDispatchedCount :=
    toUint64 privateData.ppiData.dispatchNotifyListLastDispatchedCount

def buildMemoryInfoData : MemoryInfoRecord where
  physicalMemoryBegin := privateData.physicalMemoryBegin
  physicalMemoryLength := privateData.physicalMemoryLength
  freePhysicalMemoryTop := privateData.freePhysicalMemoryTop

end Fill

/-! ## The HOB -/

def peiCoreDumpGuid : Guid :=
  ⟨toBytes 4 0x122065da ++ toBytes 2 0xb058 ++ toBytes 2 0x4fbc ++
    [0xb2, 0x33, 0x34, 0x4f, 0xfc, 0xa9, 0x93, 0xb5], rfl⟩

def sizeofHobGuidType : Nat := 24

/-- `CreateHob` for a GUID HOB.  It may fail; a HOB that it creates has the length
rounded up to a multiple of 8. -/
structure HobService where
  createHob : Nat → Memory → Option (Nat × Memory)
  created : ∀ length memory hob after, createHob length memory = some (hob, after) →
    after.readLe (hob + 2) 2 = alignValue length 8

section Hob

variable {width : Nat}
variable (services : PeiServices width) (privateData : CoreInstance width)

/-- The three sizes are UINTNs. -/
def imageDatabaseSize : Nat :=
  calcTotalPeimCount privateData * sizeofImageRecord 8 % 256 ^ width

def ppiDatabaseSize : Nat :=
  (sizeofPpiRecord + calcTotalPpiDataCount privateData * sizeofPpiStruct) % 256 ^ width

/-- The length that `BuildPeiCoreDatabase` asks for, cast to UINT16. -/
def requestedLength : Nat :=
  (sizeofHobGuidType + imageDatabaseSize privateData + ppiDatabaseSize privateData +
    sizeofMemoryInfoRecord) % 256 ^ width % 2 ^ 16

/-- The stores of `BuildPeiCoreDatabase`, by their offset in the HOB. -/
def databaseWrites : List (Nat × List UInt8) :=
  let images := dumpImageData services privateData
  let data := sizeofHobGuidType
  [(8, peiCoreDumpGuid.val),
   (data, (buildImageDatabaseData privateData images).flatMap encodeImageRecord),
   (data + imageDatabaseSize privateData,
    (buildPpiDatabaseData services privateData images).encode),
   (data + imageDatabaseSize privateData + ppiDatabaseSize privateData,
    (buildMemoryInfoData privateData).encode)]

/-- The HOB and the memory with it, if there is one. -/
def buildPeiCoreDatabase (service : HobService) (memory : Memory) : Option (Nat × Memory) :=
  (service.createHob (requestedLength privateData) memory).map fun created =>
    (created.1, (databaseWrites services privateData).foldl
      (fun memory store => memory.write (created.1 + store.1) store.2) created.2)

end Hob

/-! ## Lengths -/

section Lengths

variable {width : Nat}

theorem length_addImageStruct_le {mImageStructCountMax : Nat}
    {images : List (ImageStruct width)} (image : ImageStruct width)
    (within : images.length ≤ mImageStructCountMax) :
    (addImageStruct mImageStructCountMax images image).length ≤ mImageStructCountMax := by
  unfold addImageStruct
  split
  · exact within
  · rw [List.length_append, List.length_singleton]
    omega

/-- The guard of `AddImageStruct` holds over both loops. -/
theorem length_dumpImageData_le (services : PeiServices width)
    (privateData : CoreInstance width) :
    (dumpImageData services privateData).length ≤ calcTotalPeimCount privateData := by
  unfold dumpImageData
  split
  · exact Nat.zero_le _
  · apply List.foldlRecOn (motive := fun images : List (ImageStruct width) =>
      images.length ≤ calcTotalPeimCount privateData)
    · exact Nat.zero_le _
    · intro images within fv _
      apply List.foldlRecOn (motive := fun images : List (ImageStruct width) =>
        images.length ≤ calcTotalPeimCount privateData)
      · exact within
      · intro images within fileHandle _
        exact length_addImageStruct_le _ within

theorem length_encodeImageRecord (record : ImageRecord 8) :
    (encodeImageRecord record).length = sizeofImageRecord 8 := by
  simp only [encodeImageRecord, List.length_append, SmmCore.length_encodeHeader,
    record.fileGuid.property, SmmCore.NameString.length_encode, SmmCore.length_encodeUintn,
    sizeofImageRecord]

theorem PpiStruct.length_encode (entry : PpiStruct) :
    entry.encode.length = sizeofPpiStruct := by
  simp only [PpiStruct.encode, List.length_append, entry.guid.property,
    SmmCore.length_encodeUintn, sizeofPpiStruct]

theorem PpiRecord.length_encode (record : PpiRecord) : record.encode.length = record.size := by
  simp only [PpiRecord.encode, List.length_append, SmmCore.length_encodeHeader, length_toBytes,
    SmmCore.length_encodeUintn, SmmCore.length_flatMap_entries PpiStruct.length_encode,
    PpiRecord.size, sizeofPpiRecord]

theorem MemoryInfoRecord.length_encode (record : MemoryInfoRecord) :
    record.encode.length = sizeofMemoryInfoRecord := by
  simp only [MemoryInfoRecord.encode, List.length_append, SmmCore.length_encodeHeader,
    SmmCore.length_encodeUintn, sizeofMemoryInfoRecord]

variable (services : PeiServices width) (privateData : CoreInstance width)

theorem length_buildImageDatabaseData {images : List (ImageStruct width)}
    (within : images.length ≤ calcTotalPeimCount privateData) :
    (buildImageDatabaseData privateData images).length = calcTotalPeimCount privateData := by
  rw [buildImageDatabaseData, List.length_append, List.length_map, List.length_replicate]
  omega

theorem length_imageBytes :
    ((buildImageDatabaseData privateData (dumpImageData services privateData)).flatMap
      encodeImageRecord).length = calcTotalPeimCount privateData * sizeofImageRecord 8 := by
  rw [SmmCore.length_flatMap_entries length_encodeImageRecord,
    length_buildImageDatabaseData privateData (length_dumpImageData_le services privateData)]

theorem length_ppiBytes (images : List (ImageStruct width)) :
    (buildPpiDatabaseData services privateData images).encode.length =
      sizeofPpiRecord + calcTotalPpiDataCount privateData * sizeofPpiStruct := by
  rw [PpiRecord.length_encode]
  simp only [PpiRecord.size, PpiRecord.entries, buildPpiDatabaseData, buildPpiData,
    List.length_append, List.length_map, calcTotalPpiDataCount]

end Lengths

/-! ## Room for the records -/

section Room

variable {width : Nat} (services : PeiServices width) (privateData : CoreInstance width)

/-- The bytes of the HOB header and of all records. -/
def databaseSize : Nat :=
  sizeofHobGuidType + calcTotalPeimCount privateData * sizeofImageRecord 8 +
    (sizeofPpiRecord + calcTotalPpiDataCount privateData * sizeofPpiStruct) +
    sizeofMemoryInfoRecord

/-- Every store ends inside the HOB. -/
def StoresInside (hobLength : Nat) : Prop :=
  ∀ store ∈ databaseWrites services privateData, store.1 + store.2.length ≤ hobLength

theorem hobLengths_le_uintns (wide : 2 ≤ width) : 2 ^ 16 ≤ 256 ^ width :=
  calc
    2 ^ 16 = 256 ^ 2 := rfl
    _ ≤ 256 ^ width := Nat.pow_le_pow_right (Nat.succ_pos 255) wide

/-- The sizes of the image and the PPI records are exact when they are below 64 KiB. -/
theorem partSizes_eq (wide : 2 ≤ width)
    (images : calcTotalPeimCount privateData * sizeofImageRecord 8 < 2 ^ 16)
    (ppis : sizeofPpiRecord + calcTotalPpiDataCount privateData * sizeofPpiStruct < 2 ^ 16) :
    imageDatabaseSize privateData = calcTotalPeimCount privateData * sizeofImageRecord 8 ∧
      ppiDatabaseSize privateData =
        sizeofPpiRecord + calcTotalPpiDataCount privateData * sizeofPpiStruct := by
  have modulus := hobLengths_le_uintns wide
  exact ⟨Nat.mod_eq_of_lt (Nat.lt_of_lt_of_le images modulus),
    Nat.mod_eq_of_lt (Nat.lt_of_lt_of_le ppis modulus)⟩

theorem sizes_of_lt (wide : 2 ≤ width) (fits : databaseSize privateData < 2 ^ 16) :
    imageDatabaseSize privateData = calcTotalPeimCount privateData * sizeofImageRecord 8 ∧
      ppiDatabaseSize privateData =
        sizeofPpiRecord + calcTotalPpiDataCount privateData * sizeofPpiStruct ∧
      requestedLength privateData = databaseSize privateData := by
  have modulus := hobLengths_le_uintns wide
  have parts := fits
  unfold databaseSize at parts
  obtain ⟨imageSize, ppiSize⟩ := partSizes_eq privateData wide (by omega) (by omega)
  refine ⟨imageSize, ppiSize, ?_⟩
  rw [requestedLength, imageSize, ppiSize, Nat.mod_eq_of_lt (Nat.lt_of_lt_of_le parts modulus),
    Nat.mod_eq_of_lt parts, databaseSize]

theorem storesInside_iff (hobLength : Nat) :
    StoresInside services privateData hobLength ↔
      8 + 16 ≤ hobLength ∧
      sizeofHobGuidType + calcTotalPeimCount privateData * sizeofImageRecord 8 ≤ hobLength ∧
      sizeofHobGuidType + imageDatabaseSize privateData +
        (sizeofPpiRecord + calcTotalPpiDataCount privateData * sizeofPpiStruct) ≤ hobLength ∧
      sizeofHobGuidType + imageDatabaseSize privateData + ppiDatabaseSize privateData +
        sizeofMemoryInfoRecord ≤ hobLength := by
  simp only [StoresInside, databaseWrites, List.forall_mem_cons, length_imageBytes,
    length_ppiBytes, MemoryInfoRecord.length_encode, peiCoreDumpGuid.property,
    List.not_mem_nil, false_implies, implies_true, and_true]

theorem databaseSize_lt_of_storesInside (wide : 2 ≤ width) {hobLength : Nat}
    (bits : hobLength < 2 ^ 16) (inside : StoresInside services privateData hobLength) :
    databaseSize privateData < 2 ^ 16 := by
  obtain ⟨-, imageEnd, ppiEnd, memoryInfoEnd⟩ :=
    (storesInside_iff services privateData hobLength).mp inside
  obtain ⟨imageSize, ppiSize⟩ := partSizes_eq privateData wide (by omega) (by omega)
  rw [imageSize, ppiSize] at memoryInfoEnd
  exact Nat.lt_of_le_of_lt memoryInfoEnd bits

/-- The number of bytes of the HOB header and the fill passes. -/
def writtenLength : Nat :=
  sizeofHobGuidType +
    (((databaseWrites services privateData).drop 1).map fun store => store.2.length).sum

theorem writtenLength_eq : writtenLength services privateData = databaseSize privateData := by
  simp only [writtenLength, databaseWrites, List.drop_succ_cons, List.drop_zero, List.map_cons,
    List.map_nil, List.sum_cons, List.sum_nil, length_imageBytes, length_ppiBytes,
    MemoryInfoRecord.length_encode, databaseSize]
  omega

/-- All records lie in the HOB, and the length asked for is that of the records, exactly
when header and records take less than 64 KiB. -/
theorem buildPeiCoreDatabase_fitsHob_iff (wide : 2 ≤ width) (service : HobService)
    {memory after : Memory} {hob : Nat}
    (created : service.createHob (requestedLength privateData) memory = some (hob, after)) :
    (StoresInside services privateData (after.readLe (hob + 2) 2) ∧
      requestedLength privateData = writtenLength services privateData) ↔
        databaseSize privateData < 2 ^ 16 := by
  constructor
  · intro fits
    exact databaseSize_lt_of_storesInside services privateData wide
      (after.readLe_lt (hob + 2) 2) fits.1
  · intro small
    obtain ⟨imageSize, ppiSize, requested⟩ := sizes_of_lt privateData wide small
    rw [service.created _ _ _ _ created, writtenLength_eq, storesInside_iff, imageSize, ppiSize,
      requested]
    have room : databaseSize privateData ≤ alignValue (databaseSize privateData) 8 :=
      le_alignValue (Nat.succ_pos 7)
    unfold databaseSize sizeofHobGuidType at room ⊢
    refine ⟨⟨?_, ?_, ?_, ?_⟩, rfl⟩
    all_goals omega

end Room

/-! ## A small and a large database -/

/-- A HOB at `hob` with its header, if its length has 16 bits. -/
def hobServiceAt (hob : Nat) : HobService where
  createHob length memory :=
    if alignValue length 8 < 2 ^ 16 then
      some (hob, (memory.write hob (toBytes 2 4)).write (hob + 2)
        (toBytes 2 (alignValue length 8)))
    else none
  created := by
    intro length memory found after result
    split at result
    · next bits =>
        obtain ⟨rfl, rfl⟩ := Prod.mk.inj (Option.some.inj result)
        exact (Memory.holds_write _ _ _).readLe_eq bits
    · cases result

theorem hobServiceAt_createHob {length : Nat} (hob : Nat) (bits : alignValue length 8 < 2 ^ 16)
    (memory : Memory) :
    (hobServiceAt hob).createHob length memory =
      some (hob, (memory.write hob (toBytes 2 4)).write (hob + 2)
        (toBytes 2 (alignValue length 8))) :=
  if_pos bits

def instanceWith (peims : Nat) : CoreInstance 8 where
  fv := [⟨List.replicate peims 1⟩]
  ppiData :=
    { ppiList := [some ⟨uintn 8 ppiDescriptorPpi, peiCoreDumpGuid, uintn 8 0x2000⟩]
      ppiListMaxCount := uintn 8 64
      ppiListLastDispatchedCount := uintn 8 1
      callbackNotifyList := []
      callbackNotifyListMaxCount := uintn 8 16
      dispatchNotifyList := []
      dispatchNotifyListMaxCount := uintn 8 8
      dispatchNotifyListLastDispatchedCount := uintn 8 0 }
  physicalMemoryBegin := uintn 8 0
  physicalMemoryLength := uintn 8 0x10000000
  freePhysicalMemoryTop := uintn 8 0x10000000

def sampleServices : PeiServices 8 where
  poolAvailable := true
  getDriverNameString _ := (some emptyNameString, peiCoreDumpGuid, uintn 8 0x2000)
  load _ := uintn 8 0
  mPpiFuncStruct := []

theorem databaseSize_instanceWith (peims : Nat) :
    databaseSize (instanceWith peims) = 24 + peims * 132 + (76 + 40) + 36 := by
  have count : calcTotalPeimCount (instanceWith peims) = peims := by
    rw [calcTotalPeimCount, instanceWith, List.foldl_cons, List.foldl_nil, Nat.zero_add,
      List.length_replicate]
  rw [databaseSize, count]
  rfl

theorem buildPeiCoreDatabase_fitsHob_iff_threePeims :
    StoresInside sampleServices (instanceWith 3)
        (((Memory.write (fun _ => 0) 0x1000 (toBytes 2 4)).write 0x1002
          (toBytes 2 576)).readLe 0x1002 2) ∧
      requestedLength (instanceWith 3) = writtenLength sampleServices (instanceWith 3) :=
  (buildPeiCoreDatabase_fitsHob_iff sampleServices (instanceWith 3) (by decide)
    (hobServiceAt 0x1000) (hobServiceAt_createHob 0x1000 (by decide) (fun _ => 0))).mpr
    (by rw [databaseSize_instanceWith]; decide)

/-- 500 PEIMs: 66176 bytes are written into a HOB of 640. -/
theorem buildPeiCoreDatabase_overflowsHob :
    ∃ after,
      (hobServiceAt 0x1000).createHob (requestedLength (instanceWith 500)) (fun _ => 0) =
        some (0x1000, after) ∧
      after.readLe 0x1002 2 = 640 ∧
      writtenLength sampleServices (instanceWith 500) = 66176 ∧
      ¬ StoresInside sampleServices (instanceWith 500) (after.readLe 0x1002 2) := by
  have requested : requestedLength (instanceWith 500) = 640 := by decide +kernel
  have size := databaseSize_instanceWith 500
  have created := @hobServiceAt_createHob 640 0x1000 (by decide) (fun _ => 0)
  rw [← requested] at created
  refine ⟨_, created, ?_, ?_, ?_⟩
  · rw [requested]
    exact (hobServiceAt 0x1000).created 640 (fun _ => 0) 0x1000 _
      (hobServiceAt_createHob 0x1000 (by decide) _)
  · rw [writtenLength_eq, size]
  · intro inside
    have small := databaseSize_lt_of_storesInside sampleServices (instanceWith 500) (by decide)
      (Memory.readLe_lt _ _ _) inside
    rw [size] at small
    exact absurd small (by decide)

end AppEfi.PeiCore
