import AppEfi.Lib.SelectedBlocks
import AppEfi.PcdDump.DatabaseReads

/-!
# The slots of the size table

SizeTable says nowhere whose sizes an entry has.  GetSizeTableIndex counts the pointers before
a token each time it is asked, and GetPtrTypeSize reads from that entry on.  Every pointer has
two entries of its own by that, in the order of the tokens.
-/

set_option autoImplicit false

namespace AppEfi.PcdDump

open AppEfi.LittleEndian
open AppEfi.Reading
open AppEfi.SelectedBlocks

/-- Two entries of SizeTable for a pointer. -/
structure PointerSizes where
  maxSize : UInt16
  currentSize : UInt16
  deriving DecidableEq, Repr

def PointerSizes.encode (sizes : PointerSizes) : List UInt8 :=
  toBytes 2 sizes.maxSize.toNat ++ toBytes 2 sizes.currentSize.toNat

/-- "We consider current size is equal to MAX size" of a VPD PCD. -/
def PointerSizes.ptrTypeSize (sizes : PointerSizes) (vpd : Bool) : PtrTypeSize where
  size := if vpd then sizes.maxSize.toNat else sizes.currentSize.toNat
  maxSize := sizes.maxSize.toNat

theorem PointerSizes.length_encode (sizes : PointerSizes) : sizes.encode.length = 4 := by
  simp [PointerSizes.encode]

section Slots

variable (memory : Memory) (pcdDatabaseInit : Nat)

def sizeTable : Nat := pcdDatabaseInit + sizeTableOffset memory pcdDatabaseInit

abbrev IsPointer (token : Nat) : Prop :=
  datumType (localTokenAt memory pcdDatabaseInit token) = .pointer

/-- The tokens of type PCD_DATUM_TYPE_POINTER before `count`, in order. -/
def pointerTokens (count : Nat) : List Nat := entries (IsPointer memory pcdDatabaseInit) count

/-- `SizeTable[SizeTableIdx]` and the entry behind it. -/
def sizeSlot (token : Nat) : Range :=
  ⟨sizeTable memory pcdDatabaseInit + 2 * sizeTableIndex memory pcdDatabaseInit token, 4⟩

/-- LocalTokenNumberTable up to a token. -/
def tokensUpTo (token : Nat) : Range :=
  ⟨pcdDatabaseInit + localTokenNumberTableOffset memory pcdDatabaseInit, 4 * (token + 1)⟩

def ReadsOwnSlot (token : Nat) : Prop :=
  AllReads (fun range => range.Inside (tokensUpTo memory pcdDatabaseInit token) ∨
    range.Inside (sizeSlot memory pcdDatabaseInit token))
    (getPtrTypeSize memory pcdDatabaseInit token)

/-- The first `count` tokens have slots of their own for the pointers among them. -/
structure OwnSlots (count : Nat) : Prop where
  returns : ∀ token sizeTableIdx,
    Ends (getSizeTableIndex memory pcdDatabaseInit token 0 0) sizeTableIdx ↔
      sizeTableIdx = sizeTableIndex memory pcdDatabaseInit token
  consecutive : Range.Tiles (sizeTable memory pcdDatabaseInit)
    (sizeTable memory pcdDatabaseInit + 4 * (pointerTokens memory pcdDatabaseInit count).length)
    ((pointerTokens memory pcdDatabaseInit count).map (sizeSlot memory pcdDatabaseInit))
  disjoint : ∀ first ∈ pointerTokens memory pcdDatabaseInit count,
    ∀ second ∈ pointerTokens memory pcdDatabaseInit count, first ≠ second → ∀ address,
      (sizeSlot memory pcdDatabaseInit first).covers address = true →
        (sizeSlot memory pcdDatabaseInit second).covers address = false
  reads : ∀ token ∈ pointerTokens memory pcdDatabaseInit count,
    ReadsOwnSlot memory pcdDatabaseInit token
  sizes : ∀ own : Nat → PointerSizes,
    memory.Holds (sizeTable memory pcdDatabaseInit)
        ((pointerTokens memory pcdDatabaseInit count).flatMap fun token => (own token).encode) →
      ∀ token ∈ pointerTokens memory pcdDatabaseInit count, ∀ read,
        Ends (getPtrTypeSize memory pcdDatabaseInit token) read ↔
          read = (own token).ptrTypeSize (isVpd (localTokenAt memory pcdDatabaseInit token))

variable {memory} {pcdDatabaseInit}

/-- Two entries for each pointer that is counted are the four bytes of a block. -/
theorem sizeSlot_eq_block :
    sizeSlot memory pcdDatabaseInit =
      block (IsPointer memory pcdDatabaseInit) 4 (sizeTable memory pcdDatabaseInit) := by
  funext token
  have counted : sizeTableIndex memory pcdDatabaseInit token =
      2 * Nat.count (IsPointer memory pcdDatabaseInit) token := rfl
  rw [sizeSlot, block, counted, ← Nat.mul_assoc]

theorem readsOwnSlot (token : Nat) : ReadsOwnSlot memory pcdDatabaseInit token := by
  have listed : ∀ before ≤ token, Range.Inside
      ⟨pcdDatabaseInit + localTokenNumberTableOffset memory pcdDatabaseInit + 4 * before, 4⟩
      (tokensUpTo memory pcdDatabaseInit token) := by
    intro before le
    simp only [Range.Inside, tokensUpTo]
    omega
  rw [ReadsOwnSlot, getPtrTypeSize, allReads_bind]
  refine ⟨allReads_getSizeTableIndex fun before less => Or.inl ?_, fun sizeTableIdx ends => ?_⟩
  · rw [Nat.zero_add]
    exact listed before (Nat.le_of_lt less)
  obtain rfl := ends_getSizeTableIndex_zero.mp ends
  rw [allReads_bind]
  refine ⟨allReads_read.mpr (Or.inl (listed token (Nat.le_refl token))), fun number _ => ?_⟩
  dsimp only
  rw [allReads_bind]
  refine ⟨allReads_read.mpr (Or.inr ?_), fun maxSize _ => ?_⟩
  · simp only [Range.Inside, sizeSlot, sizeTable]
    omega
  split
  · exact allReads_pure _
  · rw [allReads_bind]
    refine ⟨allReads_read.mpr (Or.inr ?_), fun size _ => allReads_pure _⟩
    simp only [Range.Inside, sizeSlot, sizeTable]
    omega

/-- The sizes that are stored in a slot are those that come back. -/
theorem ptrTypeSizeAt_of_holds {token : Nat} {sizes : PointerSizes}
    (held : memory.Holds (sizeSlot memory pcdDatabaseInit token).start sizes.encode) :
    ptrTypeSizeAt memory pcdDatabaseInit token =
      sizes.ptrTypeSize (isVpd (localTokenAt memory pcdDatabaseInit token)) := by
  obtain ⟨first, second⟩ := (Memory.holds_append _ _ _ _).mp held
  rw [length_toBytes, sizeSlot, sizeTable] at second
  have maxSize : sizeInfoAt memory pcdDatabaseInit
      (sizeTableIndex memory pcdDatabaseInit token) = sizes.maxSize.toNat :=
    first.readLe_eq sizes.maxSize.toNat_lt
  have currentSize : sizeInfoAt memory pcdDatabaseInit
      (sizeTableIndex memory pcdDatabaseInit token + 1) = sizes.currentSize.toNat :=
    second.readLe_eq sizes.currentSize.toNat_lt
  rw [ptrTypeSizeAt, maxSize, currentSize, PointerSizes.ptrTypeSize]
  cases isVpd (localTokenAt memory pcdDatabaseInit token) <;> rfl

end Slots

/-- The slots of the pointers are disjoint and follow each other in the order of the tokens;
GetPtrTypeSize reads in its own only, and so the sizes of its own PCD. -/
theorem sizeTable_ownSlots (memory : Memory) (pcdDatabaseInit count : Nat) :
    OwnSlots memory pcdDatabaseInit count where
  returns _ _ := ends_getSizeTableIndex_zero
  consecutive := by
    rw [sizeSlot_eq_block]
    exact tiles_block _ 4 _ count
  disjoint first one second other different := by
    rw [sizeSlot_eq_block]
    exact block_disjoint (mem_entries.mp one).2 (mem_entries.mp other).2 different
  reads token _ := readsOwnSlot token
  sizes own held token listed read := by
    have here := holds_block (fun token => (own token).length_encode) held listed
    rw [← sizeSlot_eq_block] at here
    rw [ends_getPtrTypeSize, ptrTypeSizeAt_of_holds here]

/-! ## Three pointers among four tokens -/

/-- A POINTER, a UINT8, a POINTER of type VPD and one of type HII, with three slots behind
them. -/
def fourTokens : Memory := Memory.ofBytesAt 0x1000 (
  List.replicate 40 0 ++ toBytes 4 80 ++ List.replicate 12 0 ++ toBytes 4 96 ++
  List.replicate 20 0 ++
  toBytes 4 0x00000010 ++ toBytes 4 0x01000020 ++ toBytes 4 0x40000030 ++
  toBytes 4 0x80000040 ++
  PointerSizes.encode ⟨8, 5⟩ ++ PointerSizes.encode ⟨16, 12⟩ ++ PointerSizes.encode ⟨32, 7⟩)

def fourTokensSizes : Nat → PointerSizes
  | 0 => ⟨8, 5⟩
  | 2 => ⟨16, 12⟩
  | _ => ⟨32, 7⟩

theorem sizeTable_ownSlots_fourTokens :
    pointerTokens fourTokens 0x1000 4 = [0, 2, 3] ∧
      (∀ read, Ends (getPtrTypeSize fourTokens 0x1000 2) read ↔ read = ⟨16, 16⟩) ∧
      ∀ read, Ends (getPtrTypeSize fourTokens 0x1000 3) read ↔ read = ⟨7, 32⟩ := by
  have pointers : pointerTokens fourTokens 0x1000 4 = [0, 2, 3] := by decide
  have held : fourTokens.Holds (sizeTable fourTokens 0x1000)
      ((pointerTokens fourTokens 0x1000 4).flatMap fun token =>
        (fourTokensSizes token).encode) := by
    rw [pointers, Memory.Holds]
    decide
  have own := (sizeTable_ownSlots fourTokens 0x1000 4).sizes fourTokensSizes held
  exact ⟨pointers, own 2 (by rw [pointers]; decide), own 3 (by rw [pointers]; decide)⟩

end AppEfi.PcdDump
