import AppEfi.PeiCore.PeiCoreDumpHob
import AppEfi.SmmCore.Walkers

/-!
# The walkers of the PEI core dump

PeiCoreDumpApp.c over `mPeiCoreDatabase`: every walker goes from record to record by
Header.Length.  That of the images goes on to the end of the data, the two others
break at the first record of their kind.  `none` means that `fuel` records did not
end the walk.
-/

set_option autoImplicit false

namespace AppEfi.PeiCore

open AppEfi.LittleEndian
open AppEfi.RecordWalk
open AppEfi.SmmCore (Guid Uintn ImageRecord ImageTable PrintedAddress encodeHeader
  sizeofImageRecord hasSignature readUintn readGuid readName walkDatabase)

/-! ## What is printed -/

structure PrintedImage where
  nameString : List UInt16
  imageBase : Uintn 8
  fileGuid : Guid
  deriving DecidableEq

/-- The line below the flags of an entry. -/
inductive PrintedInterface where
  | ppi (guid : Guid) (interface : PrintedAddress 8)
  | notify (guid : Guid) (interface : PrintedAddress 8)
  deriving DecidableEq

structure PrintedPpi where
  index : Nat
  flags : Uintn 8
  interface : Option PrintedInterface
  deriving DecidableEq

structure PrintedPpiDatabase where
  ppiListCurrentCount : Nat
  ppiListMaxCount : Uintn 8
  ppiListLastDispatchedCount : Uintn 8
  callbackNotifyListCurrentCount : Nat
  callbackNotifyListMaxCount : Uintn 8
  dispatchNotifyListCurrentCount : Nat
  dispatchNotifyListMaxCount : Uintn 8
  dispatchNotifyListLastDispatchedCount : Uintn 8
  ppiList : List PrintedPpi
  callbackNotifyList : List PrintedPpi
  dispatchNotifyList : List PrintedPpi
  deriving DecidableEq

/-- The app declares `mImageStruct` but never fills it. -/
def mImageStruct : ImageTable 8 := ⟨[], 0⟩

def printInterface (entry : PpiStruct) : Option PrintedInterface :=
  if entry.flags.val &&& ppiDescriptorPpi ≠ 0 then
    some (.ppi entry.guid (mImageStruct.print entry.address entry.imageRef))
  else if entry.flags.val &&& ppiDescriptorNotifyTypes ≠ 0 then
    some (.notify entry.guid (mImageStruct.print entry.address entry.imageRef))
  else none

/-- Entries without flags are skipped. -/
def printPpiPtrs (entries : List PpiStruct) : List PrintedPpi :=
  entries.zipIdx.filterMap fun (entry, index) =>
    if entry.flags.val = 0 then none else some ⟨index, entry.flags, printInterface entry⟩

/-! ## Walkers -/

section Walkers

variable (memory : Memory)

def printImage (position : Nat) : PrintedImage where
  nameString := (readName memory (position + 28)).characters
  imageBase := readUintn memory (position + 108)
  fileGuid := readGuid memory (position + 12)

/-- The records visited, the images printed, and the position behind the loop. -/
def dumpPeiLoadedImage (mPeiCoreDatabase mPeiCoreDatabaseSize fuel : Nat) :
    Option ((List Nat × List PrintedImage) × Nat) :=
  walkDatabase memory
    (fun both position =>
      (visit both.1 position,
        both.2 ++
          if hasSignature memory imageSignature position then
            if readGuid memory (position + 12) ≠ zeroGuid then [printImage memory position]
            else []
          else []))
    mPeiCoreDatabase mPeiCoreDatabaseSize fuel ([], [])

/-- The loops that break at the first record with `signature`: the records visited and
the position of that record, if it is before the end. -/
def findRecord (signature mPeiCoreDatabase mPeiCoreDatabaseSize fuel : Nat) :
    Option (List Nat × Option Nat) :=
  (whileLoop
    (fun position => decide (position < mPeiCoreDatabase + mPeiCoreDatabaseSize) &&
      !hasSignature memory signature position)
    (fun position => position + memory.readLe (position + 4) 4)
    visit fuel mPeiCoreDatabase []).map fun walked =>
      if walked.2 < mPeiCoreDatabase + mPeiCoreDatabaseSize then
        (visit walked.1 walked.2, some walked.2)
      else (walked.1, none)

def readPpiStruct (address : Nat) : PpiStruct where
  flags := readUintn memory address
  guid := readGuid memory (address + 8)
  address := readUintn memory (address + 24)
  imageRef := readUintn memory (address + 32)

def dumpPpiPtrsOnPpiDatabaseStruct (ppiStruct currentCount : Nat) : List PrintedPpi :=
  printPpiPtrs (readEntries (readPpiStruct memory) sizeofPpiStruct ppiStruct currentCount)

/-- The counts, then `DumpPpiOnPpiDatabaseStruct`. -/
def printPpiDatabase (position : Nat) : PrintedPpiDatabase :=
  let ppiListCurrentCount := memory.readLe (position + 12) 8
  let callbackNotifyListCurrentCount := memory.readLe (position + 36) 8
  let dispatchNotifyListCurrentCount := memory.readLe (position + 52) 8
  let ppiStruct := position + sizeofPpiRecord
  let callbackNotify := ppiStruct + ppiListCurrentCount * sizeofPpiStruct
  let dispatchNotify := callbackNotify + callbackNotifyListCurrentCount * sizeofPpiStruct
  { ppiListCurrentCount := ppiListCurrentCount
    ppiListMaxCount := readUintn memory (position + 20)
    ppiListLastDispatchedCount := readUintn memory (position + 28)
    callbackNotifyListCurrentCount := callbackNotifyListCurrentCount
    callbackNotifyListMaxCount := readUintn memory (position + 44)
    dispatchNotifyListCurrentCount := dispatchNotifyListCurrentCount
    dispatchNotifyListMaxCount := readUintn memory (position + 60)
    dispatchNotifyListLastDispatchedCount := readUintn memory (position + 68)
    ppiList := dumpPpiPtrsOnPpiDatabaseStruct memory ppiStruct ppiListCurrentCount
    callbackNotifyList :=
      dumpPpiPtrsOnPpiDatabaseStruct memory callbackNotify callbackNotifyListCurrentCount
    dispatchNotifyList :=
      dumpPpiPtrsOnPpiDatabaseStruct memory dispatchNotify dispatchNotifyListCurrentCount }

def dumpPpiDatabase (mPeiCoreDatabase mPeiCoreDatabaseSize fuel : Nat) :
    Option (List Nat × Option PrintedPpiDatabase) :=
  (findRecord memory ppiSignature mPeiCoreDatabase mPeiCoreDatabaseSize fuel).map
    fun found => (found.1, found.2.map (printPpiDatabase memory))

def printMemoryInfo (position : Nat) : MemoryInfoRecord where
  physicalMemoryBegin := readUintn memory (position + 12)
  physicalMemoryLength := readUintn memory (position + 20)
  freePhysicalMemoryTop := readUintn memory (position + 28)

def dumpMemoryInfo (mPeiCoreDatabase mPeiCoreDatabaseSize fuel : Nat) :
    Option (List Nat × Option MemoryInfoRecord) :=
  (findRecord memory memoryInfoSignature mPeiCoreDatabase mPeiCoreDatabaseSize fuel).map
    fun found => (found.1, found.2.map (printMemoryInfo memory))

def getGuidHobDataSize (hob : Nat) : Nat :=
  (memory.readLe (hob + 2) 2 + (2 ^ 16 - sizeofHobGuidType)) % 2 ^ 16

end Walkers

/-! ## The records of a database -/

inductive DatabaseRecord where
  | image (record : ImageRecord 8)
  | ppi (record : PpiRecord)
  | memoryInfo (record : MemoryInfoRecord)

def DatabaseRecord.encode : DatabaseRecord → List UInt8
  | .image record => encodeImageRecord record
  | .ppi record => record.encode
  | .memoryInfo record => record.encode

def DatabaseRecord.signature : DatabaseRecord → Nat
  | .image _ => imageSignature
  | .ppi _ => ppiSignature
  | .memoryInfo _ => memoryInfoSignature

def DatabaseRecord.size : DatabaseRecord → Nat
  | .image _ => sizeofImageRecord 8
  | .ppi record => record.size
  | .memoryInfo _ => sizeofMemoryInfoRecord

def ImageRecord.printed (record : ImageRecord 8) : PrintedImage where
  nameString := record.nameString.characters
  imageBase := record.imageBase
  fileGuid := record.fileGuid

/-- An image without a GUID is not printed. -/
def DatabaseRecord.imageLines : DatabaseRecord → List PrintedImage
  | .image record => if record.fileGuid ≠ zeroGuid then [ImageRecord.printed record] else []
  | _ => []

def PpiRecord.printed (record : PpiRecord) : PrintedPpiDatabase where
  ppiListCurrentCount := record.ppiList.length
  ppiListMaxCount := record.ppiListMaxCount
  ppiListLastDispatchedCount := record.ppiListLastDispatchedCount
  callbackNotifyListCurrentCount := record.callbackNotifyList.length
  callbackNotifyListMaxCount := record.callbackNotifyListMaxCount
  dispatchNotifyListCurrentCount := record.dispatchNotifyList.length
  dispatchNotifyListMaxCount := record.dispatchNotifyListMaxCount
  dispatchNotifyListLastDispatchedCount := record.dispatchNotifyListLastDispatchedCount
  ppiList := printPpiPtrs record.ppiList
  callbackNotifyList := printPpiPtrs record.callbackNotifyList
  dispatchNotifyList := printPpiPtrs record.dispatchNotifyList

theorem DatabaseRecord.length_encode (record : DatabaseRecord) :
    record.encode.length = record.size := by
  cases record with
  | image record => exact length_encodeImageRecord record
  | ppi record => exact record.length_encode
  | memoryInfo record => exact record.length_encode

theorem DatabaseRecord.encode_header (record : DatabaseRecord) :
    ∃ rest, record.encode = encodeHeader record.signature record.size ++ rest := by
  cases record
  all_goals
    simp only [encode, encodeImageRecord, PpiRecord.encode, MemoryInfoRecord.encode,
      List.append_assoc]
    exact ⟨_, rfl⟩

theorem DatabaseRecord.signature_lt (record : DatabaseRecord) :
    record.signature < 256 ^ 4 := by
  cases record with
  | image record => exact (by decide : imageSignature < 256 ^ 4)
  | ppi record => exact (by decide : ppiSignature < 256 ^ 4)
  | memoryInfo record => exact (by decide : memoryInfoSignature < 256 ^ 4)

theorem DatabaseRecord.size_pos (record : DatabaseRecord) : 0 < record.size := by
  cases record with
  | image record => exact Nat.succ_pos _
  | ppi record => exact Nat.add_pos_left (Nat.succ_pos 75) _
  | memoryInfo record => exact Nat.succ_pos _

section Holds

variable {memory : Memory} {position : Nat}

theorem DatabaseRecord.holds_header {record : DatabaseRecord}
    (held : memory.Holds position record.encode) :
    memory.Holds position (toBytes 4 record.signature) ∧
      memory.Holds (position + 4) (toBytes 4 record.size) := by
  obtain ⟨rest, split⟩ := record.encode_header
  exact SmmCore.holds_encodeHeader split held

theorem hasSignature_of_holds {record : DatabaseRecord}
    (held : memory.Holds position record.encode) (signature : Nat) :
    hasSignature memory signature position = decide (record.signature = signature) := by
  rw [hasSignature, (DatabaseRecord.holds_header held).1.readLe_eq record.signature_lt]

theorem printImage_of_holds {record : ImageRecord 8}
    (held : memory.Holds position (encodeImageRecord record)) :
    readGuid memory (position + 12) = record.fileGuid ∧
      printImage memory position = ImageRecord.printed record := by
  simp only [encodeImageRecord, Memory.holds_append, List.length_append,
    SmmCore.length_encodeHeader, record.fileGuid.property, SmmCore.NameString.length_encode,
    SmmCore.length_encodeUintn, SmmCore.nameStringLength, Nat.reduceAdd, Nat.reduceMul] at held
  obtain ⟨⟨⟨⟨⟨⟨-, fileGuid⟩, nameString⟩, -⟩, imageBase⟩, -⟩, -⟩ := held
  have guidRead := SmmCore.readGuid_of_holds fileGuid
  refine ⟨guidRead, ?_⟩
  rw [printImage, guidRead, SmmCore.readName_of_holds nameString,
    SmmCore.readUintn_of_holds imageBase, ImageRecord.printed]

theorem readPpiStruct_of_holds (address : Nat) (entry : PpiStruct)
    (held : memory.Holds address entry.encode) : readPpiStruct memory address = entry := by
  simp only [PpiStruct.encode, Memory.holds_append, List.length_append, entry.guid.property,
    SmmCore.length_encodeUintn, Nat.reduceAdd] at held
  obtain ⟨⟨⟨flags, guid⟩, ppi⟩, imageRef⟩ := held
  rw [readPpiStruct, SmmCore.readUintn_of_holds flags, SmmCore.readGuid_of_holds guid,
    SmmCore.readUintn_of_holds ppi, SmmCore.readUintn_of_holds imageRef]

theorem printMemoryInfo_of_holds {record : MemoryInfoRecord}
    (held : memory.Holds position record.encode) :
    printMemoryInfo memory position = record := by
  simp only [MemoryInfoRecord.encode, Memory.holds_append, List.length_append,
    SmmCore.length_encodeHeader, SmmCore.length_encodeUintn, Nat.reduceAdd] at held
  obtain ⟨⟨⟨-, begins⟩, length⟩, top⟩ := held
  rw [printMemoryInfo, SmmCore.readUintn_of_holds begins, SmmCore.readUintn_of_holds length,
    SmmCore.readUintn_of_holds top]

theorem dumpPpiPtrs_of_holds {entries : List PpiStruct} {address : Nat}
    (held : memory.Holds address (entries.flatMap PpiStruct.encode)) :
    dumpPpiPtrsOnPpiDatabaseStruct memory address entries.length = printPpiPtrs entries := by
  rw [dumpPpiPtrsOnPpiDatabaseStruct,
    readEntries_of_holds PpiStruct.length_encode readPpiStruct_of_holds entries address held]

theorem printPpiDatabase_of_holds {record : PpiRecord} (short : record.size < 2 ^ 32)
    (held : memory.Holds position record.encode) :
    printPpiDatabase memory position = record.printed := by
  have total : record.entries.length = record.ppiList.length +
      record.callbackNotifyList.length + record.dispatchNotifyList.length := by
    rw [PpiRecord.entries, List.length_append, List.length_append]
  rw [PpiRecord.size, total] at short
  have count : ∀ {address entries : Nat}, entries < 2 ^ 32 →
      memory.Holds address (toBytes 8 entries) → memory.readLe address 8 = entries := by
    intro address entries small there
    exact there.readLe_eq (Nat.lt_trans small (by decide))
  simp only [PpiRecord.encode, PpiRecord.entries, List.flatMap_append, Memory.holds_append,
    List.length_append, SmmCore.length_encodeHeader, length_toBytes,
    SmmCore.length_encodeUintn, SmmCore.length_flatMap_entries PpiStruct.length_encode,
    Nat.reduceAdd] at held
  obtain ⟨⟨⟨⟨⟨⟨⟨⟨⟨-, ppiCount⟩, ppiMax⟩, ppiLast⟩, callbackCount⟩, callbackMax⟩,
    dispatchCount⟩, dispatchMax⟩, dispatchLast⟩, ⟨ppiList, callbackList⟩, dispatchList⟩ := held
  unfold sizeofPpiStruct at short
  have ppiRead := count (by omega) ppiCount
  have callbackRead := count (by omega) callbackCount
  have dispatchRead := count (by omega) dispatchCount
  have third : position + 76 + (record.ppiList.length * sizeofPpiStruct +
      record.callbackNotifyList.length * sizeofPpiStruct) =
      position + 76 + record.ppiList.length * sizeofPpiStruct +
        record.callbackNotifyList.length * sizeofPpiStruct := (Nat.add_assoc _ _ _).symm
  rw [third] at dispatchList
  simp only [printPpiDatabase, ppiRead, callbackRead, dispatchRead, sizeofPpiRecord,
    dumpPpiPtrs_of_holds ppiList, dumpPpiPtrs_of_holds callbackList,
    dumpPpiPtrs_of_holds dispatchList, SmmCore.readUintn_of_holds ppiMax,
    SmmCore.readUintn_of_holds ppiLast, SmmCore.readUintn_of_holds callbackMax,
    SmmCore.readUintn_of_holds dispatchMax, SmmCore.readUintn_of_holds dispatchLast,
    PpiRecord.printed]

end Holds

end AppEfi.PeiCore
