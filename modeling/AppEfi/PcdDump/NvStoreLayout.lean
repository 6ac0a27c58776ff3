import AppEfi.Lib.Alignment
import AppEfi.SmmCore.Records

/-!
# The NV-store default buffer as a format

The buffer of PcdDataBaseSignatureGuid.h: its header, a first PCD_DEFAULT_DATA
with a variable store, and PCD_DEFAULT_DATA records of deltas.  Variables are
aligned to 4 bytes and records to 8.  `DataSize` and `Length` may or may not
count the padding at the end of what they measure.
-/

set_option autoImplicit false

namespace AppEfi.PcdDump

open AppEfi.LittleEndian
open AppEfi.RecordWalk
open AppEfi.SmmCore (Guid signature32)

def pcdNvStoreDefaultBufferSignature : Nat := signature32 'N' 'S' 'D' 'B'

/-- `sizeof (PCD_NV_STORE_DEFAULT_BUFFER_HEADER)`. -/
def sizeofBufferHeader : Nat := 16

def sizeofVariableStoreHeader : Nat := 28

/-- `VARIABLE_HEADER` and `AUTHENTICATED_VARIABLE_HEADER`. -/
inductive VariableFormat where
  | normal
  | authenticated
  deriving DecidableEq

namespace VariableFormat

def headerSize : VariableFormat → Nat
  | normal => 32
  | authenticated => 60

/-- The offset of `NameSize`; `DataSize` follows it. -/
def nameSizeOffset : VariableFormat → Nat
  | normal => 8
  | authenticated => 36

theorem headerSize_eq (format : VariableFormat) :
    format.headerSize = format.nameSizeOffset + 24 := by
  cases format <;> rfl

theorem headerSize_le (format : VariableFormat) : 32 ≤ format.headerSize := by
  cases format <;> decide

end VariableFormat

/-- The signatures that name the two formats. -/
structure VariableGuids where
  normal : Guid
  authenticated : Guid
  different : normal ≠ authenticated

def VariableGuids.signature (guids : VariableGuids) : VariableFormat → Guid
  | .normal => guids.normal
  | .authenticated => guids.authenticated

/-- A variable with its padding to 4 bytes.  `fixedFields` is what stands before
`NameSize`. -/
structure Variable (format : VariableFormat) where
  fixedFields : List UInt8
  vendorGuid : Guid
  name : List UInt8
  data : List UInt8
  padding : List UInt8
  fixedFields_length : fixedFields.length = format.nameSizeOffset
  name_length : name.length < 2 ^ 32
  data_length : data.length < 2 ^ 32
  padded : format.headerSize + name.length + data.length + padding.length =
    alignValue (format.headerSize + name.length + data.length) 4

def Variable.encode {format : VariableFormat} (entry : Variable format) : List UInt8 :=
  entry.fixedFields ++ toBytes 4 entry.name.length ++ toBytes 4 entry.data.length ++
    entry.vendorGuid.val ++ entry.name ++ entry.data ++ entry.padding

/-- `PCD_DEFAULT_INFO`: a SkuId and a DefaultId. -/
abbrev DefaultInfo := { bytes : List UInt8 // bytes.length = 16 }

def encodeInfos (infos : List DefaultInfo) : List UInt8 := infos.flatMap Subtype.val

/-- A PCD_DEFAULT_DATA of deltas, with its padding to 8 bytes. -/
structure DeltaRecord where
  infos : List DefaultInfo
  deltas : List UInt32
  dataSize : UInt32
  padding : List UInt8
  infos_length : 4 + infos.length * 16 < 2 ^ 32
  padded : 8 + infos.length * 16 + deltas.length * 4 + padding.length =
    alignValue (8 + infos.length * 16 + deltas.length * 4) 8
  dataSize_above : 8 + infos.length * 16 + deltas.length * 4 ≤ dataSize.toNat
  dataSize_below : dataSize.toNat ≤ alignValue (8 + infos.length * 16 + deltas.length * 4) 8

def DeltaRecord.encode (record : DeltaRecord) : List UInt8 :=
  toBytes 4 record.dataSize.toNat ++ toBytes 4 (4 + record.infos.length * 16) ++
    encodeInfos record.infos ++ record.deltas.flatMap (fun delta => toBytes 4 delta.toNat) ++
    record.padding

/-- The whole buffer.  `storeFields` are the fields of the variable store's
header behind its signature. -/
structure NvStore where
  length : UInt32
  maxLength : UInt32
  reserved : UInt32
  dataSize : UInt32
  infos : List DefaultInfo
  format : VariableFormat
  storeFields : List UInt8
  entries : List (Variable format)
  padding : List UInt8
  records : List DeltaRecord
  infos_length : 4 + infos.length * 16 < 2 ^ 32
  storeFields_length : storeFields.length = 12

namespace NvStore

variable (store : NvStore)

/-- The first record up to the end of its last variable, padded to 4 bytes. -/
def firstSize : Nat :=
  8 + store.infos.length * 16 + sizeofVariableStoreHeader +
    total (fun entry => (Variable.encode entry).length) store.entries

def storeOffset : Nat := sizeofBufferHeader + 8 + store.infos.length * 16

def variablesOffset : Nat := store.storeOffset + sizeofVariableStoreHeader

def recordsOffset : Nat := sizeofBufferHeader + alignValue store.firstSize 8

def size : Nat :=
  store.recordsOffset + total (fun record => (DeltaRecord.encode record).length) store.records

/-- The sizes that the buffer states about itself are right, up to padding. -/
structure WellFormed : Prop where
  padded : store.firstSize + store.padding.length = alignValue store.firstSize 8
  dataSize_above : store.firstSize ≤ store.dataSize.toNat + 3
  dataSize_below : store.dataSize.toNat ≤ alignValue store.firstSize 8
  length_above : store.size < store.length.toNat + 8
  length_below : store.length.toNat ≤ store.size

def encode (guids : VariableGuids) : List UInt8 :=
  toBytes 4 pcdNvStoreDefaultBufferSignature ++ toBytes 4 store.length.toNat ++
    toBytes 4 store.maxLength.toNat ++ toBytes 4 store.reserved.toNat ++
    toBytes 4 store.dataSize.toNat ++ toBytes 4 (4 + store.infos.length * 16) ++
    encodeInfos store.infos ++ (guids.signature store.format).val ++ store.storeFields ++
    store.entries.flatMap Variable.encode ++ store.padding ++
    store.records.flatMap DeltaRecord.encode

end NvStore

/-! ## Lengths -/

@[simp] theorem length_encodeInfos (infos : List DefaultInfo) :
    (encodeInfos infos).length = infos.length * 16 := by
  induction infos with
  | nil => rfl
  | cons first rest ih =>
      unfold encodeInfos at ih ⊢
      rw [List.flatMap_cons, List.length_append, ih, first.property, List.length_cons]
      omega

theorem Variable.length_encode {format : VariableFormat} (entry : Variable format) :
    entry.encode.length =
      alignValue (format.headerSize + entry.name.length + entry.data.length) 4 := by
  rw [← entry.padded, format.headerSize_eq]
  simp only [Variable.encode, List.length_append, length_toBytes, entry.fixedFields_length,
    entry.vendorGuid.property]

theorem Variable.length_encode_bounds {format : VariableFormat} (entry : Variable format) :
    32 ≤ entry.encode.length ∧ entry.encode.length % 4 = 0 := by
  rw [entry.length_encode]
  constructor
  · have header := format.headerSize_le
    have padded := @le_alignValue
      (format.headerSize + entry.name.length + entry.data.length) 4 (by decide)
    omega
  · exact alignValue_mod _ 4

theorem DeltaRecord.length_encode (record : DeltaRecord) :
    record.encode.length =
      alignValue (8 + record.infos.length * 16 + record.deltas.length * 4) 8 := by
  have deltas : (record.deltas.flatMap fun delta => toBytes 4 delta.toNat).length =
      record.deltas.length * 4 := by
    simp [List.length_flatMap, List.map_const']
  rw [← record.padded]
  simp only [DeltaRecord.encode, List.length_append, length_toBytes, length_encodeInfos, deltas]

theorem DeltaRecord.length_encode_bounds (record : DeltaRecord) :
    8 ≤ record.encode.length ∧ record.encode.length % 8 = 0 := by
  rw [record.length_encode]
  constructor
  · have padded := @le_alignValue
      (8 + record.infos.length * 16 + record.deltas.length * 4) 8 (by decide)
    omega
  · exact alignValue_mod _ 8

theorem placed_mod {Record : Type} {length : Record → Nat} {alignment : Nat}
    {records : List Record} (aligned : ∀ record ∈ records, length record % alignment = 0) :
    ∀ position, position % alignment = 0 →
      ∀ entry ∈ placed length position records, entry.1 % alignment = 0 := by
  induction records with
  | nil =>
      intro position _ entry member
      cases member
  | cons record rest ih =>
      intro position start entry member
      rw [placed, List.mem_cons] at member
      rcases member with rfl | later
      · exact start
      · have next : (position + length record) % alignment = 0 := by
          rw [Nat.add_mod, start, aligned record List.mem_cons_self, Nat.zero_add, Nat.zero_mod]
        exact ih (fun other member => aligned other (List.mem_cons_of_mem _ member)) _ next
          entry later

end AppEfi.PcdDump
