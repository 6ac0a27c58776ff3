import AppEfi.Lib.RecordWalk
import AppEfi.SmmCore.Handler

/-!
# The records of the SMM core database

The packed structures of SmmCoreDumpComm.h and SmmChildDumpComm.h: what each
record says, its bytes, and its fields read back from a memory that holds them.
A UINTN has `width` bytes.
-/

set_option autoImplicit false

namespace AppEfi.SmmCore

open AppEfi.LittleEndian
open AppEfi.RecordWalk

abbrev Uintn (width : Nat) := Fin (256 ^ width)

def uintn (width value : Nat) : Uintn width :=
  ⟨value % 256 ^ width, Nat.mod_lt _ (Nat.pow_pos (by decide))⟩

theorem val_uintn {width value : Nat} (fits : value < 256 ^ width) :
    (uintn width value).val = value := Nat.mod_eq_of_lt fits

/-- `EFI_GUID`, as it lies in memory. -/
abbrev Guid := { bytes : List UInt8 // bytes.length = 16 }

theorem length_zeroGuid : (List.replicate 16 (0 : UInt8)).length = 16 := List.length_replicate

theorem length_onesGuid : (List.replicate 16 (1 : UInt8)).length = 16 := List.length_replicate

def nameStringLength : Nat := 35

/-- A `NameString`: its characters up to the NUL. -/
structure NameString where
  characters : List UInt16
  short : characters.length ≤ nameStringLength
  terminated : 0 ∉ characters
  deriving DecidableEq

theorem NameString.short_nil : ([] : List UInt16).length ≤ nameStringLength := Nat.zero_le _

theorem NameString.terminated_nil : (0 : UInt16) ∉ ([] : List UInt16) := List.not_mem_nil

/-- The whole array is zero behind the name. -/
def NameString.encode (name : NameString) : List UInt8 :=
  name.characters.flatMap (fun character => toBytes 2 character.toNat) ++
    List.replicate (2 * (nameStringLength + 1) - 2 * name.characters.length) 0

def signature32 (a b c d : Char) : Nat :=
  a.toNat + 2 ^ 8 * b.toNat + 2 ^ 16 * c.toNat + 2 ^ 24 * d.toNat

def imageSignature : Nat := signature32 'S' 'C' 'I' 'D'

def handleSignature : Nat := signature32 'S' 'C' 'H' 'D'

def protocolSignature : Nat := signature32 'S' 'C' 'P' 'D'

def smiSignature : Nat := signature32 'S' 'C' 'S' 'D'

def childSmiSignature : Nat := signature32 'C' 'D' 'S' 'D'

/-- The common header of every record; all revisions are 1. -/
def encodeHeader (signature length : Nat) : List UInt8 :=
  toBytes 4 signature ++ toBytes 4 length ++ toBytes 4 1

@[simp] theorem length_encodeHeader (signature length : Nat) :
    (encodeHeader signature length).length = 12 := by
  simp [encodeHeader]

/-! ## Structures -/

section Structures

variable (width : Nat)

/-- `SMM_CORE_IMAGE_DATABASE_STRUCTURE`. -/
structure ImageRecord where
  fileGuid : Guid
  nameString : NameString
  entryPoint : Uintn width
  imageBase : Uintn width
  imageSize : Uintn width
  realImageBase : Uintn width
  deriving DecidableEq

/-- `SMM_CORE_HANDLE_PROTOCOL_STRUCTURE`. -/
structure HandleProtocolStruct where
  guid : Guid
  interface : Uintn width
  imageRef : Uintn width
  deriving DecidableEq

/-- `SMM_CORE_HANDLE_DATABASE_STRUCTURE`. -/
structure HandleRecord where
  handle : Uintn width
  protocols : List (HandleProtocolStruct width)
  deriving DecidableEq

/-- `SMM_CORE_PROTOCOL_INTERFACE_STRUCTURE` and `SMM_CORE_PROTOCOL_NOTIFY_STRUCTURE`. -/
structure AddressStruct where
  address : Uintn width
  imageRef : Uintn width
  deriving DecidableEq

/-- `SMM_CORE_PROTOCOL_DATABASE_STRUCTURE`. -/
structure ProtocolRecord where
  guid : Guid
  interfaces : List (AddressStruct width)
  notifies : List (AddressStruct width)
  deriving DecidableEq

/-- `SMM_CORE_SMI_HANDLER_STRUCTURE`. -/
structure SmiHandlerStruct where
  smiHandle : Uintn width
  handler : Uintn width
  imageRef : Uintn width
  deriving DecidableEq

/-- `SMM_CORE_SMI_DATABASE_STRUCTURE`.  Nothing is ever stored in `reserved`. -/
structure SmiRecord where
  isRootHandler : Bool
  reserved : { bytes : List UInt8 // bytes.length = 3 }
  handlerType : Guid
  handlers : List (SmiHandlerStruct width)
  deriving DecidableEq

/-- `SMM_CHILD_SW_SMI_HANDLER_STRUCTURE`. -/
structure ChildSwStruct where
  smiHandle : Uintn width
  handler : Uintn width
  imageRef : Uintn width
  swSmiInputValue : Uintn width
  deriving DecidableEq

/-- `SMM_CHILD_SMI_DATABASE_STRUCTURE`. -/
structure ChildRecord where
  guid : Guid
  handlers : List (ChildSwStruct width)
  deriving DecidableEq

inductive DatabaseRecord where
  | image (record : ImageRecord width)
  | handle (record : HandleRecord width)
  | protocol (record : ProtocolRecord width)
  | smi (record : SmiRecord width)
  | child (record : ChildRecord width)
  deriving DecidableEq

def sizeofImageRecord : Nat := 12 + 16 + 2 * (nameStringLength + 1) + 4 * width

def sizeofHandleRecord : Nat := 12 + 2 * width

def sizeofHandleProtocolStruct : Nat := 16 + 2 * width

def sizeofProtocolRecord : Nat := 12 + 16 + 2 * width

def sizeofAddressStruct : Nat := 2 * width

def sizeofSmiRecord : Nat := 12 + 1 + 3 + 16 + width

def sizeofSmiHandlerStruct : Nat := 3 * width

def sizeofChildRecord : Nat := 12 + 16 + width

def sizeofChildSwStruct : Nat := 4 * width

end Structures

/-! ## Bytes -/

section Bytes

variable {width : Nat}

theorem sizeof_pos (uintn : 0 < width) :
    0 < sizeofHandleProtocolStruct width ∧ 0 < sizeofAddressStruct width ∧
      0 < sizeofSmiHandlerStruct width ∧ 0 < sizeofChildSwStruct width := by
  refine ⟨?_, ?_, ?_, ?_⟩
  · exact Nat.add_pos_left (by decide) _
  all_goals exact Nat.mul_pos (by decide) uintn

def encodeUintn (value : Uintn width) : List UInt8 := toBytes width value.val

@[simp] theorem length_encodeUintn (value : Uintn width) :
    (encodeUintn value).length = width := length_toBytes _ _

def ImageRecord.encode (record : ImageRecord width) : List UInt8 :=
  encodeHeader imageSignature (sizeofImageRecord width) ++ record.fileGuid.val ++
    record.nameString.encode ++ encodeUintn record.entryPoint ++
    encodeUintn record.imageBase ++ encodeUintn record.imageSize ++
    encodeUintn record.realImageBase

def HandleProtocolStruct.encode (entry : HandleProtocolStruct width) : List UInt8 :=
  entry.guid.val ++ encodeUintn entry.interface ++ encodeUintn entry.imageRef

def HandleRecord.size (record : HandleRecord width) : Nat :=
  sizeofHandleRecord width + record.protocols.length * sizeofHandleProtocolStruct width

def HandleRecord.encode (record : HandleRecord width) : List UInt8 :=
  encodeHeader handleSignature record.size ++ encodeUintn record.handle ++
    toBytes width record.protocols.length ++
    record.protocols.flatMap HandleProtocolStruct.encode

def AddressStruct.encode (entry : AddressStruct width) : List UInt8 :=
  encodeUintn entry.address ++ encodeUintn entry.imageRef

def ProtocolRecord.size (record : ProtocolRecord width) : Nat :=
  sizeofProtocolRecord width + record.interfaces.length * sizeofAddressStruct width +
    record.notifies.length * sizeofAddressStruct width

def ProtocolRecord.encode (record : ProtocolRecord width) : List UInt8 :=
  encodeHeader protocolSignature record.size ++ record.guid.val ++
    toBytes width record.interfaces.length ++ toBytes width record.notifies.length ++
    record.interfaces.flatMap AddressStruct.encode ++
    record.notifies.flatMap AddressStruct.encode

def SmiHandlerStruct.encode (entry : SmiHandlerStruct width) : List UInt8 :=
  encodeUintn entry.smiHandle ++ encodeUintn entry.handler ++ encodeUintn entry.imageRef

def SmiRecord.size (record : SmiRecord width) : Nat :=
  sizeofSmiRecord width + record.handlers.length * sizeofSmiHandlerStruct width

def SmiRecord.encode (record : SmiRecord width) : List UInt8 :=
  encodeHeader smiSignature record.size ++ toBytes 1 record.isRootHandler.toNat ++
    record.reserved.val ++ record.handlerType.val ++
    toBytes width record.handlers.length ++
    record.handlers.flatMap SmiHandlerStruct.encode

def ChildSwStruct.encode (entry : ChildSwStruct width) : List UInt8 :=
  encodeUintn entry.smiHandle ++ encodeUintn entry.handler ++
    encodeUintn entry.imageRef ++ encodeUintn entry.swSmiInputValue

def ChildRecord.size (record : ChildRecord width) : Nat :=
  sizeofChildRecord width + record.handlers.length * sizeofChildSwStruct width

def ChildRecord.encode (record : ChildRecord width) : List UInt8 :=
  encodeHeader childSmiSignature record.size ++ record.guid.val ++
    toBytes width record.handlers.length ++ record.handlers.flatMap ChildSwStruct.encode

def DatabaseRecord.encode : DatabaseRecord width → List UInt8
  | .image record => record.encode
  | .handle record => record.encode
  | .protocol record => record.encode
  | .smi record => record.encode
  | .child record => record.encode

def DatabaseRecord.signature : DatabaseRecord width → Nat
  | .image _ => imageSignature
  | .handle _ => handleSignature
  | .protocol _ => protocolSignature
  | .smi _ => smiSignature
  | .child _ => childSmiSignature

def DatabaseRecord.size : DatabaseRecord width → Nat
  | .image _ => sizeofImageRecord width
  | .handle record => record.size
  | .protocol record => record.size
  | .smi record => record.size
  | .child record => record.size

@[simp] theorem NameString.length_encode (name : NameString) :
    name.encode.length = 2 * (nameStringLength + 1) := by
  have short := name.short
  simp only [NameString.encode, List.length_append, List.length_flatMap, length_toBytes,
    List.map_const', List.sum_replicate_nat, List.length_replicate]
  omega

@[simp] theorem HandleProtocolStruct.length_encode (entry : HandleProtocolStruct width) :
    entry.encode.length = sizeofHandleProtocolStruct width := by
  simp only [HandleProtocolStruct.encode, List.length_append, entry.guid.property,
    length_encodeUintn, sizeofHandleProtocolStruct]
  omega

@[simp] theorem AddressStruct.length_encode (entry : AddressStruct width) :
    entry.encode.length = sizeofAddressStruct width := by
  simp only [AddressStruct.encode, List.length_append, length_encodeUintn,
    sizeofAddressStruct]
  omega

@[simp] theorem SmiHandlerStruct.length_encode (entry : SmiHandlerStruct width) :
    entry.encode.length = sizeofSmiHandlerStruct width := by
  simp only [SmiHandlerStruct.encode, List.length_append, length_encodeUintn,
    sizeofSmiHandlerStruct]
  omega

@[simp] theorem ChildSwStruct.length_encode (entry : ChildSwStruct width) :
    entry.encode.length = sizeofChildSwStruct width := by
  simp only [ChildSwStruct.encode, List.length_append, length_encodeUintn,
    sizeofChildSwStruct]
  omega

theorem length_flatMap_entries {Entry : Type} {encode : Entry → List UInt8} {size : Nat}
    (lengths : ∀ entry, (encode entry).length = size) (entries : List Entry) :
    (entries.flatMap encode).length = entries.length * size := by
  simp [List.length_flatMap, lengths]

theorem DatabaseRecord.length_encode (record : DatabaseRecord width) :
    record.encode.length = record.size := by
  cases record with
  | image record =>
      simp only [encode, ImageRecord.encode, List.length_append, length_encodeHeader,
        record.fileGuid.property, NameString.length_encode, length_encodeUintn, size,
        sizeofImageRecord]
      omega
  | handle record =>
      simp only [encode, HandleRecord.encode, List.length_append, length_encodeHeader,
        length_encodeUintn, length_toBytes,
        length_flatMap_entries HandleProtocolStruct.length_encode, size, HandleRecord.size,
        sizeofHandleRecord]
      omega
  | protocol record =>
      simp only [encode, ProtocolRecord.encode, List.length_append, length_encodeHeader,
        record.guid.property, length_toBytes,
        length_flatMap_entries AddressStruct.length_encode, size, ProtocolRecord.size,
        sizeofProtocolRecord]
      omega
  | smi record =>
      simp only [encode, SmiRecord.encode, List.length_append, length_encodeHeader,
        record.reserved.property, record.handlerType.property, length_toBytes,
        length_flatMap_entries SmiHandlerStruct.length_encode, size, SmiRecord.size,
        sizeofSmiRecord]
  | child record =>
      simp only [encode, ChildRecord.encode, List.length_append, length_encodeHeader,
        record.guid.property, length_toBytes,
        length_flatMap_entries ChildSwStruct.length_encode, size, ChildRecord.size,
        sizeofChildRecord]

theorem DatabaseRecord.encode_header (record : DatabaseRecord width) :
    ∃ rest, record.encode = encodeHeader record.signature record.size ++ rest := by
  cases record
  all_goals
    simp only [encode, ImageRecord.encode, HandleRecord.encode, ProtocolRecord.encode,
      SmiRecord.encode, ChildRecord.encode, List.append_assoc]
    exact ⟨_, rfl⟩

theorem DatabaseRecord.size_pos (record : DatabaseRecord width) : 12 ≤ record.size := by
  obtain ⟨rest, split⟩ := record.encode_header
  have length := record.length_encode
  rw [split, List.length_append, length_encodeHeader] at length
  omega

end Bytes

end AppEfi.SmmCore
