import AppEfi.Lib.Reading
import AppEfi.PcdDump.SkuDelta

/-!
# What a PCD database dump reads

DumpPcdBinary and DumpPcdDatabase in PcdDump.c with all that they call, as programs that
list their reads of the database.  Offsets and counts of the header and the offsets in the
tokens are used as they are.  What is read again, such as a field of the header or a count in
the condition of a loop, is listed where it is read first.
-/

set_option autoImplicit false

namespace AppEfi.PcdDump

open AppEfi.Loop
open AppEfi.Reading

/-- What the dump takes from elsewhere: PCD_DATABASE_OFFSET_MASK, the PCD
PcdVpdBaseAddress, the 16 bytes of gPcdDataBaseSignatureGuid as a number, and whether
AllocateCopyPool succeeds for a token and a place in SkuIdTable. -/
structure DumpSettings where
  pcdDatabaseOffsetMask : Nat
  pcdVpdBaseAddress : Nat
  gPcdDataBaseSignatureGuid : Nat
  allocateCopyPool : Nat → Nat → Bool

/-! ## Tokens -/

/-- `LocalTokenNumber & PCD_TYPE_ALL_SET_WITHOUT_SKU`. -/
inductive PcdType where
  | data
  | string
  | hii
  | hiiString
  | vpd
  | unknown
  deriving DecidableEq, Repr

def pcdType (localTokenNumber : Nat) : PcdType :=
  match localTokenNumber / 2 ^ 28 &&& 0xD with
  | 0 => .data
  | 1 => .string
  | 4 => .vpd
  | 8 => .hii
  | 9 => .hiiString
  | _ => .unknown

/-- `LocalTokenNumber & PCD_DATUM_TYPE_ALL_SET`; an integer with its width. -/
inductive DatumType where
  | pointer
  | uint (width : Nat)
  | unknown
  deriving DecidableEq, Repr

def datumType (localTokenNumber : Nat) : DatumType :=
  match localTokenNumber / 2 ^ 24 % 16 with
  | 0 => .pointer
  | 1 => .uint 1
  | 2 => .uint 2
  | 4 => .uint 4
  | 8 => .uint 8
  | _ => .unknown

/-- `(LocalTokenNumber & PCD_TYPE_VPD) != 0`. -/
def isVpd (localTokenNumber : Nat) : Bool := localTokenNumber.testBit 30

/-! ## The header -/

section Header

/-- Offset and size of each field behind Signature, in the order of the Print calls. -/
def headerFields : List (Nat × Nat) :=
  [(16, 4), (20, 4), (24, 8), (32, 4), (36, 4), (40, 4), (44, 4), (48, 4), (52, 4), (56, 4),
    (60, 4), (64, 4), (68, 2), (70, 2), (72, 2)]

variable (memory : Memory) (pcdDatabaseInit : Nat)

def localTokenNumberTableOffset : Nat := memory.readLe (pcdDatabaseInit + 40) 4

def exMapTableOffset : Nat := memory.readLe (pcdDatabaseInit + 44) 4

def guidTableOffset : Nat := memory.readLe (pcdDatabaseInit + 48) 4

def stringTableOffset : Nat := memory.readLe (pcdDatabaseInit + 52) 4

def sizeTableOffset : Nat := memory.readLe (pcdDatabaseInit + 56) 4

def skuIdTableOffset : Nat := memory.readLe (pcdDatabaseInit + 60) 4

def pcdNameTableOffset : Nat := memory.readLe (pcdDatabaseInit + 64) 4

def localTokenCount : Nat := memory.readLe (pcdDatabaseInit + 68) 2

def exTokenCount : Nat := memory.readLe (pcdDatabaseInit + 70) 2

def readHeader : List (Nat × Nat) → Reading Unit
  | [] => pure ()
  | (offset, width) :: fields => do
      look memory (pcdDatabaseInit + offset) width
      readHeader fields

end Header

/-! ## The value of a token -/

section Value

variable (settings : DumpSettings) (memory : Memory) (pcdDatabaseInit : Nat)

/-- `LocalTokenNumberTable[Index]`. -/
def readLocalToken (index : Nat) : Reading Nat :=
  read memory (pcdDatabaseInit + localTokenNumberTableOffset memory pcdDatabaseInit + 4 * index) 4

/-- The loop of GetSizeTableIndex; both of its branches for a pointer add 2. -/
def getSizeTableIndex : Nat → Nat → Nat → Reading Nat
  | 0, _, sizeTableIdx => pure sizeTableIdx
  | count + 1, index, sizeTableIdx => do
      let localTokenNumber ← readLocalToken memory pcdDatabaseInit index
      getSizeTableIndex count (index + 1)
        (if datumType localTokenNumber = .pointer then sizeTableIdx + 2 else sizeTableIdx)

/-- What GetPtrTypeSize returns, and MaxSize. -/
structure PtrTypeSize where
  size : Nat
  maxSize : Nat
  deriving DecidableEq, Repr

def getPtrTypeSize (localTokenNumberTableIdx : Nat) : Reading PtrTypeSize := do
  let sizeTableIdx ← getSizeTableIndex memory pcdDatabaseInit localTokenNumberTableIdx 0 0
  let localTokenNumber ← readLocalToken memory pcdDatabaseInit localTokenNumberTableIdx
  let sizeTable := pcdDatabaseInit + sizeTableOffset memory pcdDatabaseInit
  let maxSize ← read memory (sizeTable + 2 * sizeTableIdx) 2
  if isVpd localTokenNumber then pure ⟨maxSize, maxSize⟩
  else do
    let size ← read memory (sizeTable + 2 * (sizeTableIdx + 1)) 2
    pure ⟨size, maxSize⟩

/-- `(UINTN)Data - (UINTN)PcdDatabaseInit >= PcdDatabaseInit->Length`. -/
def isUninitialized (data : Nat) : Bool :=
  decide (databaseLength memory pcdDatabaseInit ≤ (data + 2 ^ 64 - pcdDatabaseInit) % 2 ^ 64)

structure DumpedData where
  dataPtr : Nat
  dataSize : Nat
  deriving DecidableEq, Repr

def dumpPcdRawData (localTokenNumberTableIdx localTokenNumber data : Nat) : Reading DumpedData :=
  let uninitialized := isUninitialized memory pcdDatabaseInit data
  match datumType localTokenNumber with
  | .pointer => do
      let sizes ← getPtrTypeSize memory pcdDatabaseInit localTokenNumberTableIdx
      if uninitialized then pure ⟨0, 0⟩
      else do
        forIndexes (fun index => look memory (data + index) 1) sizes.size 0
        pure ⟨data, sizes.size⟩
  | .uint width =>
      if uninitialized then pure ⟨0, 0⟩
      else do
        look memory data width
        pure ⟨data, width⟩
  | .unknown => pure (if uninitialized then ⟨0, 0⟩ else ⟨data, 0⟩)

/-- A PCD with a variable: its DefaultValueOffset, behind the lines about the variable. -/
def dumpVariableHead (variableHead : Nat) : Reading Nat := do
  let guidTableIndex ← read memory (variableHead + 8) 2
  let stringIndex ← read memory variableHead 4
  readText memory 2 (pcdDatabaseInit + stringTableOffset memory pcdDatabaseInit + stringIndex)
  look memory (pcdDatabaseInit + guidTableOffset memory pcdDatabaseInit + 16 * guidTableIndex) 16
  look memory (variableHead + 12) 4
  look memory (variableHead + 16) 2
  read memory (variableHead + 4) 4

/-- `&StringTable[StringTableIdx]` for the index at an address. -/
def readStringHead (address : Nat) : Reading Nat := do
  let stringTableIdx ← read memory address 4
  pure (pcdDatabaseInit + stringTableOffset memory pcdDatabaseInit + stringTableIdx)

/-- Data behind the switch of DumpPcdData. -/
def locateData (localTokenNumber : Nat) : Reading Nat :=
  let address := pcdDatabaseInit + (localTokenNumber &&& settings.pcdDatabaseOffsetMask)
  match pcdType localTokenNumber with
  | .data => pure address
  | .string => readStringHead memory pcdDatabaseInit address
  | .hii => do
      let defaultValueOffset ← dumpVariableHead memory pcdDatabaseInit address
      pure (pcdDatabaseInit + defaultValueOffset)
  | .hiiString => do
      let defaultValueOffset ← dumpVariableHead memory pcdDatabaseInit address
      readStringHead memory pcdDatabaseInit (pcdDatabaseInit + defaultValueOffset)
  | .vpd => do
      let vpdOffset ← read memory address 4
      pure ((settings.pcdVpdBaseAddress + vpdOffset) % 2 ^ 32)
  | .unknown => pure 0

def dumpPcdData (localTokenNumberTableIdx localTokenNumber : Nat) : Reading DumpedData := do
  let data ← locateData settings memory pcdDatabaseInit localTokenNumber
  if data ≠ 0 then
    dumpPcdRawData memory pcdDatabaseInit localTokenNumberTableIdx localTokenNumber data
  else pure ⟨0, 0⟩

end Value

/-! ## The walks over the SKU deltas -/

section Walks

variable (memory : Memory) (pcdDatabaseInit : Nat)

/-- The loop over the deltas of a block, up to one at which the function returns. -/
def readDeltas (returns : PcdDataDelta → Bool) : Nat → Nat → Reading Bool
  | 0, _ => pure false
  | count + 1, deltaData => do
      let bits ← read memory deltaData 4
      if returns (pcdDataDelta bits) then pure true
      else readDeltas returns count (deltaData + 4)

def readBlock (returns : PcdDataDelta → Bool) (offset : Nat) : Reading Bool := do
  look memory (pcdDatabaseInit + offset + 16) 4
  readDeltas memory returns (deltaCount memory pcdDatabaseInit offset)
    (pcdDatabaseInit + offset + sizeofSkuDelta)

def isSkuPcdTurnReads (dataPtr dataSize offset : Nat) : Reading (Control Nat Bool) :=
  if offset < lengthForAllSkus memory pcdDatabaseInit then do
    let found ← readBlock memory pcdDatabaseInit (inData pcdDatabaseInit dataPtr dataSize) offset
    pure (if found then .stop true else .next (nextSkuDelta memory pcdDatabaseInit offset))
  else pure (.stop false)

def isSkuPcdReads (dataPtr dataSize : Nat) : Reading Bool :=
  if lengthForAllSkus memory pcdDatabaseInit ≤ databaseLength memory pcdDatabaseInit then
    pure false
  else repeatTurns (isSkuPcdTurnReads memory pcdDatabaseInit dataPtr dataSize)
    (firstSkuDelta memory pcdDatabaseInit)

/-- The loop of CopySkuPcdData and of DumpPcdDatabase over the blocks. -/
def walkSkuDeltas (block : Nat → Reading Unit) : Reading Unit :=
  if lengthForAllSkus memory pcdDatabaseInit ≤ databaseLength memory pcdDatabaseInit then
    pure ()
  else repeatTurns (fun offset =>
    if offset < lengthForAllSkus memory pcdDatabaseInit then do
      block offset
      pure (.next (nextSkuDelta memory pcdDatabaseInit offset))
    else pure (.stop ())) (firstSkuDelta memory pcdDatabaseInit)

def copySkuDeltaReads (skuId offset : Nat) : Reading Unit := do
  let own ← read memory (pcdDatabaseInit + offset) 8
  if own = skuId then do
    let _ ← readBlock memory pcdDatabaseInit (fun _ => false) offset
  else look memory (pcdDatabaseInit + offset + 16) 4

def copySkuPcdDataReads (skuId : Nat) : Reading Unit :=
  walkSkuDeltas memory pcdDatabaseInit (copySkuDeltaReads memory pcdDatabaseInit skuId)

def dumpSkuDeltaReads (offset : Nat) : Reading Unit := do
  look memory (pcdDatabaseInit + offset) 8
  look memory (pcdDatabaseInit + offset + 8) 8
  let _ ← readBlock memory pcdDatabaseInit (fun _ => false) offset

end Walks

/-! ## The dump -/

section Dump

variable (settings : DumpSettings) (memory : Memory) (pcdDatabaseInit : Nat)

/-- `SkuIdTable[Index]`. -/
def readSkuId (index : Nat) : Reading Nat :=
  read memory (pcdDatabaseInit + skuIdTableOffset memory pcdDatabaseInit + 8 * index) 8

/-- `index` is the place of `skuId` in SkuIdTable. -/
def dumpSkuPcdData (index skuId localTokenNumberTableIdx localTokenNumber : Nat)
    (data : DumpedData) : Reading Unit :=
  match datumType localTokenNumber with
  | .pointer =>
      if settings.allocateCopyPool localTokenNumberTableIdx index then do
        look memory data.dataPtr data.dataSize
        copySkuPcdDataReads memory pcdDatabaseInit skuId
      else pure ()
  | .uint width => do
      look memory data.dataPtr width
      copySkuPcdDataReads memory pcdDatabaseInit skuId
  | .unknown => pure ()

def dumpAllSkuPcdData (localTokenNumberTableIdx localTokenNumber : Nat) (data : DumpedData) :
    Reading Unit := do
  let count ← readSkuId memory pcdDatabaseInit 0
  forIndexes (fun index => do
    let skuId ← readSkuId memory pcdDatabaseInit index
    dumpSkuPcdData settings memory pcdDatabaseInit index skuId localTokenNumberTableIdx
      localTokenNumber data) count 1

/-- A name of a token, by the place of its index. -/
def dumpName (offset : Nat) : Reading Unit := do
  let name ← readStringHead memory pcdDatabaseInit (pcdDatabaseInit + offset)
  readText memory 1 name

def dumpPcdNames (index : Nat) : Reading Unit :=
  let pcdName := pcdNameTableOffset memory pcdDatabaseInit + 8 * index
  if pcdNameTableOffset memory pcdDatabaseInit ≠ 0 then do
    dumpName memory pcdDatabaseInit pcdName
    dumpName memory pcdDatabaseInit (pcdName + 4)
  else pure ()

def dumpLocalToken (index : Nat) : Reading Unit := do
  let localTokenNumber ← readLocalToken memory pcdDatabaseInit index
  dumpPcdNames memory pcdDatabaseInit index
  let data ← dumpPcdData settings memory pcdDatabaseInit index localTokenNumber
  let isSku ← isSkuPcdReads memory pcdDatabaseInit data.dataPtr data.dataSize
  if isSku then
    dumpAllSkuPcdData settings memory pcdDatabaseInit index localTokenNumber data
  else pure ()

/-- ExTokenNumber, TokenNumber and ExGuidIndex with its GUID. -/
def dumpExToken (index : Nat) : Reading Unit := do
  let exMap := pcdDatabaseInit + exMapTableOffset memory pcdDatabaseInit + 8 * index
  look memory exMap 4
  look memory (exMap + 4) 2
  let exGuidIndex ← read memory (exMap + 6) 2
  look memory (pcdDatabaseInit + guidTableOffset memory pcdDatabaseInit + 16 * exGuidIndex) 16

def dumpPcdDatabase : Reading Unit := do
  let signature ← read memory pcdDatabaseInit 16
  if signature = settings.gPcdDataBaseSignatureGuid then do
    readHeader memory pcdDatabaseInit headerFields
    let count ← readSkuId memory pcdDatabaseInit 0
    forIndexes (fun index => do let _ ← readSkuId memory pcdDatabaseInit index) count 1
    forIndexes (dumpLocalToken settings memory pcdDatabaseInit)
      (localTokenCount memory pcdDatabaseInit) 0
    forIndexes (dumpExToken memory pcdDatabaseInit) (exTokenCount memory pcdDatabaseInit) 0
    walkSkuDeltas memory pcdDatabaseInit (dumpSkuDeltaReads memory pcdDatabaseInit)
  else pure ()

/-- `file` is the buffer with the bytes of the file, `none` when ReadFileToBuffer fails. -/
def dumpPcdBinary (file : Option Range) : Reading Unit :=
  match file with
  | none => pure ()
  | some buffer => dumpPcdDatabase settings memory buffer.start

end Dump

end AppEfi.PcdDump
