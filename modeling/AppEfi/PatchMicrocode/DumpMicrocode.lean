import AppEfi.Lib.Reading
import AppEfi.Lib.WordSum

/-!
# The dump of a microcode image

DumpMicrocode in PatchMicrocode.c as a program that lists its reads and ends with the lines
that it prints.  The fields of the image are UINT32s, and a UINTN has 64 bits.  CalculateSum32
of BaseLib is a parameter, with what its documentation says of it.
-/

set_option autoImplicit false

namespace AppEfi.PatchMicrocode

open AppEfi.Reading

inductive MicrocodeLine where
  | microcodeHeader (headerVersion updateRevision date processorSignature checksum
      loaderRevision processorFlags dataSize totalSize : UInt32)
  | checkSum32 (value : UInt32)
  | extendedTableHeader (extendedSignatureCount extendedChecksum : UInt32)
  | extendedTable (index : Nat) (processorSignature processorFlag checksum : UInt32)
  deriving DecidableEq, Repr

/-- The source's TotalSize: 0 stands for 2000 bytes of data. -/
def checkedSize (dataSize : Nat) : Nat := if dataSize = 0 then 48 + 2000 else 48 + dataSize

/-- ExtendedTableLength, a difference of UINTNs, which wraps. -/
def extendedTableLength (totalSize dataSize : Nat) : Nat :=
  if dataSize + 48 ≤ totalSize then totalSize - (dataSize + 48)
  else totalSize + 2 ^ 64 - (dataSize + 48)

section Dump

variable (memory : Memory) (calculateSum32 : Nat → Nat → Reading UInt32)

def readWord (address : Nat) : Reading UInt32 := do
  let value ← read memory address 4
  pure (UInt32.ofNat value)

/-- The body of the loop over the entries. -/
def dumpExtendedTable (microcodeExtendedTable : Nat) (inCompleteCheckSum32 : UInt32)
    (index : Nat) : Reading (List MicrocodeLine) := do
  let processorSignature ← readWord memory (microcodeExtendedTable + 12 * index)
  let processorFlag ← readWord memory (microcodeExtendedTable + 12 * index + 4)
  let checksum ← readWord memory (microcodeExtendedTable + 12 * index + 8)
  let checkSum32 := inCompleteCheckSum32 + processorSignature + processorFlag + checksum
  pure [.extendedTable index processorSignature processorFlag checksum, .checkSum32 checkSum32]

def dumpExtendedTables (microcodeExtendedTable : Nat) (inCompleteCheckSum32 : UInt32) :
    Nat → Nat → Reading (List MicrocodeLine)
  | 0, _ => pure []
  | count + 1, index => do
      let lines ← dumpExtendedTable memory microcodeExtendedTable inCompleteCheckSum32 index
      let rest ← dumpExtendedTables microcodeExtendedTable inCompleteCheckSum32 count (index + 1)
      pure (lines ++ rest)

/-- The part of the function behind the tests of the sizes. -/
def dumpExtendedTableHeader (microcodeExtendedTableHeader length : Nat)
    (inCompleteCheckSum32 : UInt32) : Reading (List MicrocodeLine) := do
  let extendedSignatureCount ← readWord memory microcodeExtendedTableHeader
  let extendedChecksum ← readWord memory (microcodeExtendedTableHeader + 4)
  let checkSum32 ← calculateSum32 microcodeExtendedTableHeader length
  let entries ← dumpExtendedTables memory (microcodeExtendedTableHeader + 20)
    inCompleteCheckSum32 extendedSignatureCount.toNat 0
  pure (.extendedTableHeader extendedSignatureCount extendedChecksum ::
    .checkSum32 checkSum32 :: entries)

def dumpMicrocode (microcodeHeader : Nat) : Reading (List MicrocodeLine) := do
  let headerVersion ← readWord memory microcodeHeader
  let updateRevision ← readWord memory (microcodeHeader + 4)
  let date ← readWord memory (microcodeHeader + 8)
  let processorSignature ← readWord memory (microcodeHeader + 12)
  let checksum ← readWord memory (microcodeHeader + 16)
  let loaderRevision ← readWord memory (microcodeHeader + 20)
  let processorFlags ← readWord memory (microcodeHeader + 24)
  let dataSize ← readWord memory (microcodeHeader + 28)
  let totalSize ← readWord memory (microcodeHeader + 32)
  let sum ← calculateSum32 microcodeHeader (checkedSize dataSize.toNat)
  let inCompleteCheckSum32 := sum - processorSignature - processorFlags - checksum
  let checkSum32 := inCompleteCheckSum32 + processorSignature + processorFlags + checksum
  let lines := [.microcodeHeader headerVersion updateRevision date processorSignature checksum
    loaderRevision processorFlags dataSize totalSize, .checkSum32 checkSum32]
  let length := extendedTableLength totalSize.toNat dataSize.toNat
  if dataSize = 0 then pure lines
  else if length = 0 then pure lines
  else do
    let table ← dumpExtendedTableHeader memory calculateSum32
      (microcodeHeader + dataSize.toNat + 48) length inCompleteCheckSum32
    pure (lines ++ table)

/-- What CalculateSum32 ASSERTs of its arguments: a buffer and a length that are multiples of
4, and a length that the address space has room for. -/
structure SumArguments (buffer length : Nat) : Prop where
  notNull : buffer ≠ 0
  address : buffer % 4 = 0
  words : length % 4 = 0
  room : buffer + length ≤ 2 ^ 64

/-- The documentation of CalculateSum32.  An ASSERT stops the program before anything is
read. -/
structure SumsWords : Prop where
  sum : ∀ {buffer length : Nat} {value : UInt32}, SumArguments buffer length →
    (Ends (calculateSum32 buffer length) value ↔ value = memory.wordSum buffer (length / 4))
  words : ∀ {Good : Range → Prop} {buffer length : Nat}, SumArguments buffer length →
    (AllReads Good (calculateSum32 buffer length) ↔
      ∀ index < length / 4, Good ⟨buffer + 4 * index, 4⟩)
  stops : ∀ {buffer length : Nat} {value : UInt32}, ¬ SumArguments buffer length →
    ¬ Ends (calculateSum32 buffer length) value
  nothing : ∀ {Good : Range → Prop} {buffer length : Nat}, ¬ SumArguments buffer length →
    AllReads Good (calculateSum32 buffer length)

/-! ## The parts of an image -/

def dataSize (microcodeHeader : Nat) : Nat := (memory.wordAt (microcodeHeader + 28)).toNat

def totalSize (microcodeHeader : Nat) : Nat := (memory.wordAt (microcodeHeader + 32)).toNat

def extendedTableHeader (microcodeHeader : Nat) : Nat :=
  microcodeHeader + dataSize memory microcodeHeader + 48

def extendedSignatureCount (microcodeHeader : Nat) : Nat :=
  (memory.wordAt (extendedTableHeader memory microcodeHeader)).toNat

def extendedEntry (microcodeHeader index : Nat) : Nat :=
  extendedTableHeader memory microcodeHeader + 20 + 12 * index

/-- The sizes leave room for an extended table behind the data, and the image consists of
32-bit words. -/
structure HasExtendedTable (microcodeHeader : Nat) : Prop where
  data : dataSize memory microcodeHeader ≠ 0
  room : dataSize memory microcodeHeader + 48 < totalSize memory microcodeHeader
  dataWords : dataSize memory microcodeHeader % 4 = 0
  image : SumArguments microcodeHeader (totalSize memory microcodeHeader)

/-- The image with the processor signature, flags and checksum of an extended entry. -/
def patched (microcodeHeader index : Nat) : Memory :=
  ((memory.writeWord (microcodeHeader + 12)
      (memory.wordAt (extendedEntry memory microcodeHeader index))).writeWord
    (microcodeHeader + 24)
      (memory.wordAt (extendedEntry memory microcodeHeader index + 4))).writeWord
    (microcodeHeader + 16)
      (memory.wordAt (extendedEntry memory microcodeHeader index + 8))

/-- The sum over the header and the data. -/
def imageSum (microcodeHeader dataSize : Nat) : UInt32 :=
  memory.wordSum microcodeHeader (checkedSize dataSize / 4)

def headerLines (microcodeHeader : Nat) : List MicrocodeLine :=
  [.microcodeHeader (memory.wordAt microcodeHeader) (memory.wordAt (microcodeHeader + 4))
      (memory.wordAt (microcodeHeader + 8)) (memory.wordAt (microcodeHeader + 12))
      (memory.wordAt (microcodeHeader + 16)) (memory.wordAt (microcodeHeader + 20))
      (memory.wordAt (microcodeHeader + 24)) (memory.wordAt (microcodeHeader + 28))
      (memory.wordAt (microcodeHeader + 32)),
    .checkSum32 (imageSum memory microcodeHeader (dataSize memory microcodeHeader))]

def tableHeaderLines (microcodeHeader : Nat) : List MicrocodeLine :=
  [.extendedTableHeader (memory.wordAt (extendedTableHeader memory microcodeHeader))
      (memory.wordAt (extendedTableHeader memory microcodeHeader + 4)),
    .checkSum32 (memory.wordSum (extendedTableHeader memory microcodeHeader)
      ((totalSize memory microcodeHeader - (dataSize memory microcodeHeader + 48)) / 4))]

/-- What is printed of an entry, with the sum over the patched image. -/
def patchedLines (microcodeHeader index : Nat) : List MicrocodeLine :=
  [.extendedTable index (memory.wordAt (extendedEntry memory microcodeHeader index))
      (memory.wordAt (extendedEntry memory microcodeHeader index + 4))
      (memory.wordAt (extendedEntry memory microcodeHeader index + 8)),
    .checkSum32 (imageSum (patched memory microcodeHeader index) microcodeHeader
      (dataSize memory microcodeHeader))]

section Proofs

variable {memory calculateSum32} {Good : Range → Prop}

@[simp] theorem ends_readWord {address : Nat} {value : UInt32} :
    Ends (readWord memory address) value ↔ value = memory.wordAt address := by
  simp [readWord, Memory.wordAt]

@[simp] theorem allReads_readWord {address : Nat} :
    AllReads Good (readWord memory address) ↔ Good ⟨address, 4⟩ := by
  simp [readWord]

theorem HasExtendedTable.data_sumArguments {microcodeHeader : Nat}
    (table : HasExtendedTable memory microcodeHeader) :
    SumArguments microcodeHeader (checkedSize (dataSize memory microcodeHeader)) := by
  obtain ⟨notNull, buffer, length, end_⟩ := table.image
  have room := table.room
  have words := table.dataWords
  rw [checkedSize, if_neg table.data]
  exact ⟨notNull, buffer, by omega, by omega⟩

theorem HasExtendedTable.table_sumArguments {microcodeHeader : Nat}
    (table : HasExtendedTable memory microcodeHeader) :
    SumArguments (extendedTableHeader memory microcodeHeader)
      (totalSize memory microcodeHeader - (dataSize memory microcodeHeader + 48)) := by
  obtain ⟨notNull, buffer, length, end_⟩ := table.image
  have room := table.room
  have words := table.dataWords
  rw [extendedTableHeader]
  exact ⟨by omega, by omega, by omega, by omega⟩

/-! ### The difference formula -/

theorem twelve_le_words (dataSize : Nat) : 12 ≤ checkedSize dataSize / 4 := by
  rw [checkedSize]
  split <;> omega

/-- Replacing the three words is to take the old ones off the sum and to add the new ones. -/
theorem imageSum_patched (memory : Memory) (microcodeHeader index dataSize : Nat) :
    imageSum (patched memory microcodeHeader index) microcodeHeader dataSize =
      imageSum memory microcodeHeader dataSize - memory.wordAt (microcodeHeader + 12) -
            memory.wordAt (microcodeHeader + 24) - memory.wordAt (microcodeHeader + 16) +
          memory.wordAt (extendedEntry memory microcodeHeader index) +
        memory.wordAt (extendedEntry memory microcodeHeader index + 4) +
      memory.wordAt (extendedEntry memory microcodeHeader index + 8) := by
  have words := twelve_le_words dataSize
  rw [imageSum, imageSum, patched]
  generalize memory.wordAt (extendedEntry memory microcodeHeader index) = signature
  generalize memory.wordAt (extendedEntry memory microcodeHeader index + 4) = flags
  generalize memory.wordAt (extendedEntry memory microcodeHeader index + 8) = checksum
  generalize checkedSize dataSize / 4 = count at words ⊢
  have first := memory.wordSum_writeWord signature (Nat.lt_of_lt_of_le (by decide : 3 < 12) words)
    microcodeHeader
  have second := (memory.writeWord (microcodeHeader + 12) signature).wordSum_writeWord flags
    (Nat.lt_of_lt_of_le (by decide : 6 < 12) words) microcodeHeader
  have third := ((memory.writeWord (microcodeHeader + 12) signature).writeWord
    (microcodeHeader + 24) flags).wordSum_writeWord checksum
      (Nat.lt_of_lt_of_le (by decide : 4 < 12) words) microcodeHeader
  simp only [Nat.reduceMul] at first second third
  rw [third, second, first]
  rw [Memory.wordAt_writeWord_of_disjoint _ _ (by omega),
    Memory.wordAt_writeWord_of_disjoint _ _ (by omega),
    Memory.wordAt_writeWord_of_disjoint _ _ (by omega)]
  grind

/-! ### The lines -/

theorem ends_dumpExtendedTables (microcodeExtendedTable : Nat) (inCompleteCheckSum32 : UInt32)
    (lines : Nat → List MicrocodeLine)
    (each : ∀ index value, Ends (dumpExtendedTable memory microcodeExtendedTable
      inCompleteCheckSum32 index) value ↔ value = lines index) (count index : Nat)
    (value : List MicrocodeLine) :
    Ends (dumpExtendedTables memory microcodeExtendedTable inCompleteCheckSum32 count index)
        value ↔
      value = (List.range' index count).flatMap lines := by
  induction count generalizing index value with
  | zero => simp [dumpExtendedTables]
  | succ count ih =>
      rw [dumpExtendedTables, ends_bind, List.range'_succ, List.flatMap_cons]
      simp [each, ih]

/-- The sum over the image without the three words that an entry replaces. -/
def inCompleteSum (memory : Memory) (microcodeHeader : Nat) : UInt32 :=
  imageSum memory microcodeHeader (dataSize memory microcodeHeader) -
      memory.wordAt (microcodeHeader + 12) - memory.wordAt (microcodeHeader + 24) -
    memory.wordAt (microcodeHeader + 16)

theorem ends_dumpExtendedTable {microcodeHeader index : Nat} {value : List MicrocodeLine} :
    Ends (dumpExtendedTable memory (extendedTableHeader memory microcodeHeader + 20)
        (inCompleteSum memory microcodeHeader) index) value ↔
      value = patchedLines memory microcodeHeader index := by
  rw [patchedLines, imageSum_patched, ← inCompleteSum]
  simp [dumpExtendedTable, extendedEntry]

theorem ends_dumpExtendedTableHeader {microcodeHeader : Nat} {value : List MicrocodeLine}
    (sums : SumsWords memory calculateSum32) (table : HasExtendedTable memory microcodeHeader) :
    Ends (dumpExtendedTableHeader memory calculateSum32
        (extendedTableHeader memory microcodeHeader)
        (totalSize memory microcodeHeader - (dataSize memory microcodeHeader + 48))
        (inCompleteSum memory microcodeHeader)) value ↔
      value = tableHeaderLines memory microcodeHeader ++
        (List.range (extendedSignatureCount memory microcodeHeader)).flatMap
          (patchedLines memory microcodeHeader) := by
  have entries := ends_dumpExtendedTables (extendedTableHeader memory microcodeHeader + 20)
    (inCompleteSum memory microcodeHeader) (patchedLines memory microcodeHeader)
    (fun _ _ => ends_dumpExtendedTable)
  simp only [dumpExtendedTableHeader, ends_bind, ends_readWord, sums.sum table.table_sumArguments,
    exists_eq_left, entries, ends_pure]
  rw [List.range_eq_range']
  rfl

theorem dataSize_eq_zero {microcodeHeader : Nat} :
    dataSize memory microcodeHeader = 0 ↔ memory.wordAt (microcodeHeader + 28) = 0 := by
  rw [dataSize, ← UInt32.toNat_inj, UInt32.toNat_zero]

/-- The sum that is printed of the header takes off three words and adds them again. -/
theorem sum_sub_add (sum signature flags checksum : UInt32) :
    sum - signature - flags - checksum + signature + flags + checksum = sum := by
  grind

theorem extendedTableLength_of_le {totalSize dataSize : Nat} (le : dataSize + 48 ≤ totalSize) :
    extendedTableLength totalSize dataSize = totalSize - (dataSize + 48) :=
  if_pos le

end Proofs

/-- Each entry's lines show the sum of the image that is patched with it. -/
theorem dumpMicrocode_prints_patchedLines (microcodeHeader : Nat)
    (sums : SumsWords memory calculateSum32)
    (table : HasExtendedTable memory microcodeHeader) :
    Ends (dumpMicrocode memory calculateSum32 microcodeHeader)
      (headerLines memory microcodeHeader ++
        (tableHeaderLines memory microcodeHeader ++
          (List.range (extendedSignatureCount memory microcodeHeader)).flatMap
            (patchedLines memory microcodeHeader))) := by
  have data := table.data
  rw [Ne, dataSize_eq_zero] at data
  have length := extendedTableLength_of_le (Nat.le_of_lt table.room)
  have positive := Nat.sub_ne_zero_of_lt table.room
  have image := fun value => @SumsWords.sum _ _ sums _ _ value table.data_sumArguments
  have behind := (ends_dumpExtendedTableHeader sums table).mpr rfl
  rw [← length] at positive behind
  rw [dataSize] at image
  simp only [dumpMicrocode, ends_bind, ends_readWord, image, exists_eq_left, if_neg data,
    sum_sub_add]
  rw [if_neg]
  · simp only [ends_bind, ends_pure]
    exact ⟨_, behind, rfl⟩
  · exact positive

end Dump

/-! ## A sum that stops -/

section Words

variable (memory : Memory)

def addWords : Nat → Nat → UInt32 → Reading UInt32
  | 0, _, sum => pure sum
  | count + 1, address, sum => do
      let word ← readWord memory address
      addWords count (address + 4) (sum + word)

theorem ends_addWords {count address : Nat} {sum value : UInt32} :
    Ends (addWords memory count address sum) value ↔
      value = sum + memory.wordSum address count := by
  induction count generalizing address sum with
  | zero => simp [addWords, Memory.wordSum]
  | succ count ih =>
      rw [addWords, ends_bind, Memory.wordSum]
      simp only [ends_readWord, ih, exists_eq_left]
      rw [UInt32.add_assoc]

theorem allReads_addWords {Good : Range → Prop} {count address : Nat} {sum : UInt32} :
    AllReads Good (addWords memory count address sum) ↔
      ∀ index < count, Good ⟨address + 4 * index, 4⟩ := by
  induction count generalizing address sum with
  | zero => simp [addWords]
  | succ count ih =>
      rw [addWords, allReads_bind, Nat.forall_lt_succ_left]
      simp only [allReads_readWord, ends_readWord, forall_eq, ih, Nat.mul_zero, Nat.add_zero,
        Nat.mul_add, Nat.mul_one, Nat.add_assoc, Nat.add_comm 4]

instance decidableSumArguments (buffer length : Nat) : Decidable (SumArguments buffer length) :=
  decidable_of_iff
    (buffer ≠ 0 ∧ buffer % 4 = 0 ∧ length % 4 = 0 ∧ buffer + length ≤ 2 ^ 64)
    ⟨fun ⟨notNull, aligned, whole, room⟩ => ⟨notNull, aligned, whole, room⟩,
      fun sums => ⟨sums.notNull, sums.address, sums.words, sums.room⟩⟩

def sumOrAssert (buffer length : Nat) : Reading UInt32 :=
  if SumArguments buffer length then addWords memory (length / 4) buffer 0 else deadLoop

theorem sumOrAssert_sumsWords : SumsWords memory (sumOrAssert memory) where
  sum allowed := by rw [sumOrAssert, if_pos allowed, ends_addWords, UInt32.zero_add]
  words allowed := by rw [sumOrAssert, if_pos allowed, allReads_addWords]
  stops refused := by
    rw [sumOrAssert, if_neg refused]
    exact not_ends_deadLoop _
  nothing refused := by
    rw [sumOrAssert, if_neg refused]
    exact allReads_deadLoop

end Words

/-- An image with 4 bytes of data and an extended table of two entries. -/
def twoSignatures : Memory :=
  Memory.ofBytesAt 0x1000
    [1, 0, 0, 0, 2, 0, 0, 0, 0, 0, 0, 0, 0x11, 0, 0, 0, 0x22, 0, 0, 0, 1, 0, 0, 0, 0x33, 0, 0, 0,
      4, 0, 0, 0, 96, 0, 0, 0, 0, 0, 0, 0, 0, 0, 0, 0, 0, 0, 0, 0, 5, 0, 0, 0,
      2, 0, 0, 0, 0, 0, 0, 0, 0, 0, 0, 0, 0, 0, 0, 0, 0, 0, 0, 0,
      0x44, 0, 0, 0, 0x55, 0, 0, 0, 0x66, 0, 0, 0, 0x77, 0, 0, 0, 0x88, 0, 0, 0, 0x99, 0, 0, 0]

theorem dumpMicrocode_prints_patchedLines_twoSignatures :
    Ends (dumpMicrocode twoSignatures (sumOrAssert twoSignatures) 0x1000)
      (headerLines twoSignatures 0x1000 ++
        (tableHeaderLines twoSignatures 0x1000 ++
          [.extendedTable 0 0x44 0x55 0x66, .checkSum32 364,
            .extendedTable 1 0x77 0x88 0x99, .checkSum32 517])) := by
  have entries : (List.range (extendedSignatureCount twoSignatures 0x1000)).flatMap
      (patchedLines twoSignatures 0x1000) =
        [.extendedTable 0 0x44 0x55 0x66, .checkSum32 364,
          .extendedTable 1 0x77 0x88 0x99, .checkSum32 517] := by decide
  rw [← entries]
  exact dumpMicrocode_prints_patchedLines twoSignatures _ 0x1000
    (sumOrAssert_sumsWords twoSignatures) ⟨by decide, by decide, by decide, by decide⟩

end AppEfi.PatchMicrocode
