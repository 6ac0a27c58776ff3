import AppEfi.PatchMicrocode.DumpMicrocode

/-!
# The reads of a microcode dump

DumpMicrocode takes the sizes and the entry count from the file and does not look at
BufferSize.  Where CalculateSum32 does not take its arguments, the dump ends there.
-/

set_option autoImplicit false

namespace AppEfi.PatchMicrocode

open AppEfi.LittleEndian
open AppEfi.Reading

section Reads

variable (memory : Memory) (calculateSum32 : Nat → Nat → Reading UInt32)
variable (buffer bufferSize : Nat)

/-- Every read lies in the file, and the length of the extended table does not wrap where it
is computed. -/
structure DumpsInside : Prop where
  reads : ReadsInside ⟨buffer, bufferSize⟩ (dumpMicrocode memory calculateSum32 buffer)
  length : (∃ sum, Ends (calculateSum32 buffer (checkedSize (dataSize memory buffer))) sum) →
    dataSize memory buffer ≠ 0 → dataSize memory buffer + 48 ≤ totalSize memory buffer

/-- The two fields of the table's header, the words that are added, and the entries. -/
structure TableInside (tableOffset length count : Nat) : Prop where
  header : tableOffset + 8 ≤ bufferSize
  words : SumArguments (buffer + tableOffset) length → tableOffset + length ≤ bufferSize
  entries : SumArguments (buffer + tableOffset) length → count ≠ 0 →
    tableOffset + 20 + 12 * count ≤ bufferSize

/-- Header and data, the total size and the extended table fit the file. -/
structure ImageFits : Prop where
  words : checkedSize (dataSize memory buffer) ≤ bufferSize
  total : dataSize memory buffer ≠ 0 → dataSize memory buffer + 48 ≤ totalSize memory buffer
  table : dataSize memory buffer ≠ 0 →
    totalSize memory buffer ≠ dataSize memory buffer + 48 →
      TableInside buffer bufferSize (dataSize memory buffer + 48)
        (totalSize memory buffer - (dataSize memory buffer + 48))
        (extendedSignatureCount memory buffer)

/-- The sizes of the image and its entry count fit the file, as far as the dump comes. -/
structure SizesFit : Prop where
  fields : 36 ≤ bufferSize
  image : SumArguments buffer (checkedSize (dataSize memory buffer)) →
    ImageFits memory buffer bufferSize

section Proofs

variable {memory calculateSum32 buffer bufferSize}
variable {offset count : Nat}

theorem SumsWords.ends_iff (sums : SumsWords memory calculateSum32) {address length : Nat}
    {value : UInt32} :
    Ends (calculateSum32 address length) value ↔
      SumArguments address length ∧ value = memory.wordSum address (length / 4) := by
  by_cases allowed : SumArguments address length
  · rw [sums.sum allowed, and_iff_right allowed]
  · exact iff_of_false (sums.stops allowed) fun both => allowed both.1

theorem SumsWords.readsInside (sums : SumsWords memory calculateSum32) {length : Nat} :
    ReadsInside ⟨buffer, bufferSize⟩ (calculateSum32 (buffer + offset) length) ↔
      (SumArguments (buffer + offset) length → length = 0 ∨ offset + length ≤ bufferSize) := by
  by_cases allowed : SumArguments (buffer + offset) length
  · have words := allowed.words
    rw [ReadsInside, sums.words allowed, imp_iff_right allowed]
    simp only [Nat.add_assoc, Range.inside_offset]
    constructor
    · intro all
      by_cases some : length = 0
      · exact Or.inl some
      · have last := all (length / 4 - 1) (by omega)
        exact Or.inr (by omega)
    · intro inside index below
      omega
  · exact iff_of_true (sums.nothing allowed) fun also => absurd also allowed

theorem readsInside_dumpExtendedTable {sum : UInt32} {index : Nat} :
    ReadsInside ⟨buffer, bufferSize⟩ (dumpExtendedTable memory (buffer + offset) sum index) ↔
      offset + 12 * index + 12 ≤ bufferSize := by
  simp only [dumpExtendedTable, ReadsInside, allReads_bind, allReads_readWord, ends_readWord,
    forall_eq, allReads_pure, and_true, Nat.add_assoc, Range.inside_offset]
  omega

theorem exists_ends_dumpExtendedTable (memory : Memory) (table index : Nat) (sum : UInt32) :
    ∃ lines, Ends (dumpExtendedTable memory table sum index) lines := by
  simp [dumpExtendedTable]

theorem readsInside_dumpExtendedTables {sum : UInt32} {index : Nat} :
    ReadsInside ⟨buffer, bufferSize⟩
        (dumpExtendedTables memory (buffer + offset) sum count index) ↔
      count = 0 ∨ offset + 12 * (index + count) ≤ bufferSize := by
  induction count generalizing index with
  | zero => simp [dumpExtendedTables]
  | succ count ih =>
      obtain ⟨lines, ends⟩ := exists_ends_dumpExtendedTable memory (buffer + offset) index sum
      simp only [dumpExtendedTables, ReadsInside, allReads_bind, allReads_pure, implies_true,
        and_true, ih, readsInside_dumpExtendedTable]
      constructor
      · rintro ⟨first, rest⟩
        have later := rest lines ends
        omega
      · intro inside
        exact ⟨by omega, fun _ _ => by omega⟩

theorem readsInside_dumpExtendedTableHeader (sums : SumsWords memory calculateSum32)
    {length : Nat} {sum : UInt32} (positive : length ≠ 0) :
    ReadsInside ⟨buffer, bufferSize⟩
        (dumpExtendedTableHeader memory calculateSum32 (buffer + offset) length sum) ↔
      TableInside buffer bufferSize offset length (memory.wordAt (buffer + offset)).toNat := by
  simp only [dumpExtendedTableHeader, ReadsInside, allReads_bind, allReads_readWord,
    ends_readWord, forall_eq, sums.ends_iff, and_imp, sums.readsInside, allReads_pure,
    implies_true, and_true, Nat.add_assoc, Range.inside_offset, readsInside_dumpExtendedTables]
  generalize (memory.wordAt (buffer + offset)).toNat = count
  constructor
  · rintro ⟨_, header, words, entries⟩
    exact ⟨header, fun allowed => (words allowed).resolve_left positive,
      fun allowed some => by have inside := entries _ allowed rfl; omega⟩
  · rintro ⟨header, words, entries⟩
    exact ⟨by omega, header, fun allowed => Or.inr (words allowed),
      fun _ allowed _ => by have inside := entries allowed; omega⟩

/-- The table is read when the sizes leave a length for it. -/
theorem readsInside_dumpMicrocode (sums : SumsWords memory calculateSum32) :
    ReadsInside ⟨buffer, bufferSize⟩ (dumpMicrocode memory calculateSum32 buffer) ↔
      36 ≤ bufferSize ∧
        (SumArguments buffer (checkedSize (dataSize memory buffer)) →
          checkedSize (dataSize memory buffer) ≤ bufferSize ∧
            (dataSize memory buffer ≠ 0 →
              extendedTableLength (totalSize memory buffer) (dataSize memory buffer) ≠ 0 →
                TableInside buffer bufferSize (dataSize memory buffer + 48)
                  (extendedTableLength (totalSize memory buffer) (dataSize memory buffer))
                  (extendedSignatureCount memory buffer))) := by
  have sum := @SumsWords.readsInside _ _ buffer bufferSize 0 sums
  have table := @readsInside_dumpExtendedTableHeader _ _ buffer bufferSize
    (dataSize memory buffer + 48) sums
  have positive : checkedSize (dataSize memory buffer) ≠ 0 := by
    rw [checkedSize]
    split <;> omega
  have first : (⟨buffer, 4⟩ : Range).Inside ⟨buffer, bufferSize⟩ ↔ 4 ≤ bufferSize := by
    simp [Range.Inside]
  have header : extendedSignatureCount memory buffer =
      (memory.wordAt (buffer + (dataSize memory buffer + 48))).toNat := by
    rw [extendedSignatureCount, extendedTableHeader, Nat.add_assoc]
  rw [Nat.add_zero] at sum
  rw [header]
  simp only [dumpMicrocode, ReadsInside, allReads_bind, allReads_readWord, ends_readWord,
    forall_eq, sums.ends_iff, and_imp, sum, allReads_ite, allReads_pure, implies_true, and_true,
    Nat.add_assoc, Range.inside_offset, if_true_left, ← dataSize_eq_zero, first]
  rw [dataSize, totalSize] at *
  constructor
  · rintro ⟨_, _, _, _, _, _, _, _, last, words, behind⟩
    refine ⟨by omega, fun allowed => ⟨?_, fun data some => ?_⟩⟩
    · have inside := (words allowed).resolve_left positive
      omega
    · exact (table some).mp (behind _ allowed rfl data some)
  · rintro ⟨fields, image⟩
    refine ⟨by omega, by omega, by omega, by omega, by omega, by omega, by omega, by omega,
      by omega, fun allowed => Or.inr ?_, fun _ allowed _ data some => ?_⟩
    · rw [Nat.zero_add]
      exact (image allowed).1
    · exact (table some).mpr ((image allowed).2 data some)

end Proofs

/-- The dump keeps to the file exactly when the sizes and the count do. -/
theorem dumpMicrocode_inside_iff (sums : SumsWords memory calculateSum32) :
    DumpsInside memory calculateSum32 buffer bufferSize ↔ SizesFit memory buffer bufferSize := by
  have lengthEq := fun le => @extendedTableLength_of_le (totalSize memory buffer)
    (dataSize memory buffer) le
  constructor
  · rintro ⟨reads, length⟩
    obtain ⟨fields, image⟩ := (readsInside_dumpMicrocode sums).mp reads
    refine ⟨fields, fun allowed => ?_⟩
    obtain ⟨words, table⟩ := image allowed
    have total := length ⟨_, sums.ends_iff.mpr ⟨allowed, rfl⟩⟩
    refine ⟨words, total, fun data other => ?_⟩
    have le := total data
    rw [lengthEq le] at table
    exact table data (Nat.sub_ne_zero_of_lt (Nat.lt_of_le_of_ne le other.symm))
  · rintro ⟨fields, image⟩
    refine ⟨(readsInside_dumpMicrocode sums).mpr ⟨fields, fun allowed => ?_⟩, ?_⟩
    · obtain ⟨words, total, table⟩ := image allowed
      refine ⟨words, fun data some => ?_⟩
      have le := total data
      rw [lengthEq le] at some ⊢
      exact table data fun same => some (by rw [same, Nat.sub_self])
    · rintro ⟨sum, ends⟩
      exact (image (sums.ends_iff.mp ends).1).total

end Reads

/-- The image with two entries has 96 bytes. -/
theorem dumpMicrocode_inside_iff_twoSignatures :
    DumpsInside twoSignatures (sumOrAssert twoSignatures) 0x1000 96 := by
  refine (dumpMicrocode_inside_iff twoSignatures _ 0x1000 96
    (sumOrAssert_sumsWords twoSignatures)).mpr ⟨by decide, fun _ => ⟨by decide, ?_, ?_⟩⟩
  · exact fun _ => by decide
  · exact fun _ _ => ⟨by decide, fun _ => by decide, fun _ _ => by decide⟩

/-- An image with 4 bytes of data. -/
def fourBytesOfData (totalSize : Nat) : Memory :=
  Memory.ofBytesAt 0x1000 (List.replicate 28 0 ++ [4, 0, 0, 0] ++ toBytes 4 totalSize)

/-- In a file of 2048 bytes the length of the table wraps for a total size of 0, and the words
of the table are not those of the file for a total size of 4096. -/
theorem dumpMicrocode_totalZero :
    ¬ DumpsInside (fourBytesOfData 0) (sumOrAssert (fourBytesOfData 0)) 0x1000 2048 ∧
      ¬ ReadsInside ⟨0x1000, 2048⟩
        (dumpMicrocode (fourBytesOfData 4096) (sumOrAssert (fourBytesOfData 4096)) 0x1000) := by
  constructor
  · intro inside
    have sum : ∃ sum, Ends (sumOrAssert (fourBytesOfData 0) 0x1000 52) sum :=
      ⟨_, (sumOrAssert_sumsWords _).ends_iff.mpr ⟨by decide, rfl⟩⟩
    exact absurd (inside.length sum (by decide)) (by decide)
  · intro reads
    have image := (readsInside_dumpMicrocode (sumOrAssert_sumsWords _)).mp reads
    exact absurd ((image.2 (by decide)).2 (by decide) (by decide)).words (by decide)

end AppEfi.PatchMicrocode
