import AppEfi.SmmCore.Database
import Mathlib.Data.List.TakeWhile

/-!
# The walkers of the app

SmmCoreDumpApp.c from `AddImageStruct` to `DumpRootSmiHandler`.  Every walker goes
over all records of `mSmmCoreDatabase`, by their Header.Length, and prints those of
its kind.  What is printed is kept as data; `none` means that `fuel` records did not
end the walk.
-/

set_option autoImplicit false

namespace AppEfi.SmmCore

open AppEfi.LittleEndian
open AppEfi.RecordWalk

/-! ## Fields -/

section Fields

variable {width : Nat} (memory : Memory)

def readUintn (address : Nat) : Uintn width :=
  ⟨memory.readLe address width, memory.readLe_lt address width⟩

def readGuid (address : Nat) : Guid :=
  ⟨memory.bytesAt address 16, memory.length_bytesAt address 16⟩

def readName (address : Nat) : NameString where
  characters := (readEntries (fun location => UInt16.ofNat (memory.readLe location 2)) 2
    address nameStringLength).takeWhile fun character => character ≠ 0
  short := by
    refine Nat.le_trans (List.takeWhile_prefix _).length_le ?_
    rw [readEntries, List.length_map, List.length_range]
  terminated := fun member => by simpa using List.mem_takeWhile_imp member

theorem readName_characters (address : Nat) : (readName memory address).characters =
    (readEntries (fun location => UInt16.ofNat (memory.readLe location 2)) 2 address
      nameStringLength).takeWhile fun character => character ≠ 0 := rfl

def readImageRecord (position : Nat) : ImageRecord width where
  fileGuid := readGuid memory (position + 12)
  nameString := readName memory (position + 28)
  entryPoint := readUintn memory (position + 100)
  imageBase := readUintn memory (position + (100 + width))
  imageSize := readUintn memory (position + (100 + 2 * width))
  realImageBase := readUintn memory (position + (100 + 3 * width))

def readHandleProtocolStruct (address : Nat) : HandleProtocolStruct width where
  guid := readGuid memory address
  interface := readUintn memory (address + 16)
  imageRef := readUintn memory (address + (16 + width))

def readAddressStruct (address : Nat) : AddressStruct width where
  address := readUintn memory address
  imageRef := readUintn memory (address + width)

def readSmiHandlerStruct (address : Nat) : SmiHandlerStruct width where
  smiHandle := readUintn memory address
  handler := readUintn memory (address + width)
  imageRef := readUintn memory (address + 2 * width)

end Fields

/-! ## The table of images -/

section ImageTable

variable {width : Nat}

/-- `mImageStruct`, of `mImageStructCountMax` elements, and `mImageStructCount`. -/
structure ImageTable (width : Nat) where
  mImageStruct : List (ImageStruct width)
  mImageStructCount : Nat

def zeroImageStruct : ImageStruct width where
  fileGuid := ⟨List.replicate 16 0, length_zeroGuid⟩
  entryPoint := uintn width 0
  imageBase := uintn width 0
  imageSize := uintn width 0
  loadedImageBase := uintn width 0
  nameString := ⟨[], NameString.short_nil, NameString.terminated_nil⟩

/-- What `AddImageStruct` stores; EntryPoint stays zero. -/
def ImageRecord.imageStruct (record : ImageRecord width) : ImageStruct width where
  fileGuid := record.fileGuid
  entryPoint := uintn width 0
  imageBase := record.realImageBase
  imageSize := record.imageSize
  loadedImageBase := record.imageBase
  nameString := record.nameString

def ImageTable.addImageStruct (table : ImageTable width) (record : ImageRecord width) :
    ImageTable width :=
  if table.mImageStructCount ≥ table.mImageStruct.length then table
  else
    ⟨table.mImageStruct.set table.mImageStructCount record.imageStruct,
      table.mImageStructCount + 1⟩

def ImageTable.getImageRefName (table : ImageTable width) (imageRef : Uintn width) :
    List UInt16 :=
  match table.mImageStruct[imageRef.val]? with
  | none => unknownName
  | some image => image.nameString.characters

/-- An address with the image name in parentheses, if there is one. -/
structure PrintedAddress (width : Nat) where
  address : Uintn width
  imageName : Option (List UInt16)
  deriving DecidableEq

def ImageTable.print (table : ImageTable width) (address imageRef : Uintn width) :
    PrintedAddress width where
  address := address
  imageName :=
    if address.val ≠ 0 ∧ table.getImageRefName imageRef ≠ unknownName then
      some (table.getImageRefName imageRef)
    else none

end ImageTable

/-! ## The walks -/

section Walks

variable {width : Nat} (memory : Memory)

/-- `while (Struct < mSmmCoreDatabase + mSmmCoreDatabaseSize)`. -/
def walkDatabase {State : Type} (body : State → Nat → State)
    (mSmmCoreDatabase mSmmCoreDatabaseSize fuel : Nat) (state : State) :
    Option (State × Nat) :=
  whileLoop (fun position => decide (position < mSmmCoreDatabase + mSmmCoreDatabaseSize))
    (fun position => position + memory.readLe (position + 4) 4) body fuel mSmmCoreDatabase
    state

/-- A walker that only prints. -/
def dumpRecords {Line : Type} (selects : Nat → Bool) (print : Nat → List Line)
    (mSmmCoreDatabase mSmmCoreDatabaseSize fuel : Nat) : Option (List Line × Nat) :=
  walkDatabase memory
    (fun printed position => if selects position then printed ++ print position else printed)
    mSmmCoreDatabase mSmmCoreDatabaseSize fuel []

def hasSignature (signature position : Nat) : Bool :=
  memory.readLe position 4 = signature

/-- The images that are printed, the table, and the end of the second walk. -/
def dumpSmmLoadedImage (poolAvailable : Bool)
    (mSmmCoreDatabase mSmmCoreDatabaseSize fuel : Nat) :
    Option (List (ImageRecord width) × ImageTable width × Nat) :=
  match walkDatabase memory
      (fun count position =>
        if hasSignature memory imageSignature position then count + 1 else count)
      mSmmCoreDatabase mSmmCoreDatabaseSize fuel 0 with
  | none => none
  | some (mImageStructCountMax, position) =>
      if poolAvailable = false then some ([], ⟨[], 0⟩, position)
      else
        (walkDatabase memory
          (fun (printed, table) position =>
            if hasSignature memory imageSignature position then
              let image := readImageRecord memory position
              (printed ++ [image], table.addImageStruct image)
            else (printed, table))
          mSmmCoreDatabase mSmmCoreDatabaseSize fuel
          ([], ⟨List.replicate mImageStructCountMax zeroImageStruct, 0⟩)).map
        fun ((printed, table), position) => (printed, table, position)

structure PrintedHandle (width : Nat) where
  handle : Uintn width
  protocols : List (Guid × PrintedAddress width)
  deriving DecidableEq

variable (table : ImageTable width)

def dumpProtocolInterfacesOnHandleStruct (position : Nat) :
    List (Guid × PrintedAddress width) :=
  (readEntries (readHandleProtocolStruct memory) (sizeofHandleProtocolStruct width)
    (position + sizeofHandleRecord width)
    (memory.readLe (position + (12 + width)) width)).map fun protocol =>
      (protocol.guid, table.print protocol.interface protocol.imageRef)

def dumpHandleDatabase (mSmmCoreDatabase mSmmCoreDatabaseSize fuel : Nat) :
    Option (List (PrintedHandle width) × Nat) :=
  dumpRecords memory (hasSignature memory handleSignature)
    (fun position => [⟨readUintn memory (position + 12),
      dumpProtocolInterfacesOnHandleStruct memory table position⟩])
    mSmmCoreDatabase mSmmCoreDatabaseSize fuel

structure PrintedProtocol (width : Nat) where
  guid : Guid
  interfaces : List (PrintedAddress width)
  notifies : List (PrintedAddress width)
  deriving DecidableEq

def dumpProtocolInterfacesOnProtocolStruct (position : Nat) : List (PrintedAddress width) :=
  (readEntries (readAddressStruct memory) (sizeofAddressStruct width)
    (position + sizeofProtocolRecord width) (memory.readLe (position + 28) width)).map
      fun interface => table.print interface.address interface.imageRef

def dumpProtocolNotifyOnProtocolStruct (position : Nat) : List (PrintedAddress width) :=
  (readEntries (readAddressStruct memory) (sizeofAddressStruct width)
    (position + sizeofProtocolRecord width +
      memory.readLe (position + 28) width * sizeofAddressStruct width)
    (memory.readLe (position + (28 + width)) width)).map
      fun notify => table.print notify.address notify.imageRef

def dumpProtocolDatabase (mSmmCoreDatabase mSmmCoreDatabaseSize fuel : Nat) :
    Option (List (PrintedProtocol width) × Nat) :=
  dumpRecords memory (hasSignature memory protocolSignature)
    (fun position => [⟨readGuid memory (position + 12),
      dumpProtocolInterfacesOnProtocolStruct memory table position,
      dumpProtocolNotifyOnProtocolStruct memory table position⟩])
    mSmmCoreDatabase mSmmCoreDatabaseSize fuel

structure PrintedSmiHandler (width : Nat) where
  smiHandle : Uintn width
  handler : PrintedAddress width
  deriving DecidableEq

structure PrintedSmiEntry (width : Nat) where
  handlerType : Guid
  handlers : List (PrintedSmiHandler width)
  deriving DecidableEq

def isRootHandler (position : Nat) : Bool :=
  memory.readLe (position + 12) 1 ≠ 0

/-- The loop over the handlers in both walkers of SMI records. -/
def dumpHandlersOnSmiStruct (position : Nat) : List (PrintedSmiHandler width) :=
  (readEntries (readSmiHandlerStruct memory) (sizeofSmiHandlerStruct width)
    (position + sizeofSmiRecord width) (memory.readLe (position + 32) width)).map
      fun handler => ⟨handler.smiHandle, table.print handler.handler handler.imageRef⟩

def dumpSmiHandler (mSmmCoreDatabase mSmmCoreDatabaseSize fuel : Nat) :
    Option (List (PrintedSmiEntry width) × Nat) :=
  dumpRecords memory
    (fun position => hasSignature memory smiSignature position && !isRootHandler memory position)
    (fun position => [⟨readGuid memory (position + 16),
      dumpHandlersOnSmiStruct memory table position⟩])
    mSmmCoreDatabase mSmmCoreDatabaseSize fuel

def dumpRootSmiHandler (mSmmCoreDatabase mSmmCoreDatabaseSize fuel : Nat) :
    Option (List (PrintedSmiHandler width) × Nat) :=
  dumpRecords memory
    (fun position => hasSignature memory smiSignature position && isRootHandler memory position)
    (dumpHandlersOnSmiStruct memory table) mSmmCoreDatabase mSmmCoreDatabaseSize fuel

end Walks

/-! ## Reading back -/

section ReadBack

variable {width : Nat} {memory : Memory}

theorem readUintn_of_holds {address : Nat} {value : Uintn width}
    (held : memory.Holds address (encodeUintn value)) : readUintn memory address = value :=
  Fin.ext (held.readLe_eq value.isLt)

theorem readGuid_of_holds {address : Nat} {guid : Guid}
    (held : memory.Holds address guid.val) : readGuid memory address = guid :=
  Subtype.ext (held.bytesAt_eq guid.property)

theorem NameString.encode_eq (name : NameString) :
    name.encode = (name.characters ++
      List.replicate (nameStringLength - name.characters.length) 0).flatMap
        (fun character : UInt16 => toBytes 2 character.toNat) ++ [0, 0] := by
  have short := name.short
  have zeros : ∀ count, (List.replicate count (0 : UInt16)).flatMap
      (fun character => toBytes 2 character.toNat) = List.replicate (2 * count) 0 := by
    intro count
    induction count with
    | zero => rfl
    | succ count ih =>
        rw [List.replicate_succ, List.flatMap_cons, ih, Nat.mul_succ, Nat.add_comm _ 2,
          List.replicate_add]
        rfl
  rw [NameString.encode, List.flatMap_append, zeros, List.append_assoc]
  congr 1
  have split : 2 * (nameStringLength + 1) - 2 * name.characters.length =
      2 * (nameStringLength - name.characters.length) + 2 := by
    omega
  rw [split, List.replicate_add]
  rfl

theorem readName_of_holds {address : Nat} {name : NameString}
    (held : memory.Holds address name.encode) : readName memory address = name := by
  rw [NameString.encode_eq, Memory.holds_append] at held
  set padded := name.characters ++
    List.replicate (nameStringLength - name.characters.length) 0 with paddedEq
  have length : padded.length = nameStringLength := by
    have short := name.short
    rw [paddedEq, List.length_append, List.length_replicate]
    omega
  have read := @readEntries_of_holds _ memory
    (fun character : UInt16 => toBytes 2 character.toNat)
    (fun location => UInt16.ofNat (memory.readLe location 2)) 2
    (fun character => length_toBytes 2 character.toNat)
    (fun location character there => by
      rw [there.readLe_eq character.toNat_lt, UInt16.ofNat_toNat])
    padded address held.1
  rw [length] at read
  have characters : (readName memory address).characters = name.characters := by
    have nonzero : ∀ character ∈ name.characters, decide (character ≠ 0) = true :=
      fun character member => decide_eq_true fun zero => name.terminated (zero ▸ member)
    rw [readName_characters, read, paddedEq, List.takeWhile_append_of_pos nonzero,
      List.takeWhile_replicate]
    simp
  cases name
  cases found : readName memory address
  simp_all

/-- The fields of a header that the walkers read. -/
theorem holds_encodeHeader {position signature size : Nat} {bytes rest : List UInt8}
    (split : bytes = encodeHeader signature size ++ rest) (held : memory.Holds position bytes) :
    memory.Holds position (toBytes 4 signature) ∧
      memory.Holds (position + 4) (toBytes 4 size) := by
  simp only [split, encodeHeader, Memory.holds_append, length_toBytes] at held
  exact held.1.1

theorem readImageRecord_of_holds {position : Nat} {record : ImageRecord width}
    (held : memory.Holds position record.encode) : readImageRecord memory position = record := by
  simp only [ImageRecord.encode, Memory.holds_append, List.length_append, length_encodeHeader,
    record.fileGuid.property, NameString.length_encode, length_encodeUintn, nameStringLength,
    Nat.reduceAdd, Nat.reduceMul] at held
  obtain ⟨⟨⟨⟨⟨⟨-, fileGuid⟩, nameString⟩, entryPoint⟩, imageBase⟩, imageSize⟩,
    realImageBase⟩ := held
  have third : 100 + width + width = 100 + 2 * width := by omega
  have fourth : 100 + width + width + width = 100 + 3 * width := by omega
  rw [fourth] at realImageBase
  rw [third] at imageSize
  rw [readImageRecord, readGuid_of_holds fileGuid, readName_of_holds nameString,
    readUintn_of_holds entryPoint, readUintn_of_holds imageBase, readUintn_of_holds imageSize,
    readUintn_of_holds realImageBase]

theorem readHandleProtocolStruct_of_holds (address : Nat) (entry : HandleProtocolStruct width)
    (held : memory.Holds address entry.encode) :
    readHandleProtocolStruct memory address = entry := by
  simp only [HandleProtocolStruct.encode, Memory.holds_append, List.length_append,
    entry.guid.property, length_encodeUintn] at held
  rw [readHandleProtocolStruct, readGuid_of_holds held.1.1, readUintn_of_holds held.1.2,
    readUintn_of_holds held.2]

theorem readAddressStruct_of_holds (address : Nat) (entry : AddressStruct width)
    (held : memory.Holds address entry.encode) : readAddressStruct memory address = entry := by
  simp only [AddressStruct.encode, Memory.holds_append, length_encodeUintn] at held
  rw [readAddressStruct, readUintn_of_holds held.1, readUintn_of_holds held.2]

theorem readSmiHandlerStruct_of_holds (address : Nat) (entry : SmiHandlerStruct width)
    (held : memory.Holds address entry.encode) :
    readSmiHandlerStruct memory address = entry := by
  simp only [SmiHandlerStruct.encode, Memory.holds_append, List.length_append,
    length_encodeUintn, ← Nat.two_mul] at held
  rw [readSmiHandlerStruct, readUintn_of_holds held.1.1, readUintn_of_holds held.1.2,
    readUintn_of_holds held.2]

end ReadBack

end AppEfi.SmmCore
