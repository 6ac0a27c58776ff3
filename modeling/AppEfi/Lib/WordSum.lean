import AppEfi.Lib.Memory

/-!
# Sums of 32-bit words

The words from an address on are added in the arithmetic of a UINT32.  A word written among
them changes the sum by the new word less the old one.
-/

set_option autoImplicit false

namespace AppEfi

open AppEfi.LittleEndian

namespace Memory

section Words

variable (memory : Memory)

def wordAt (address : Nat) : UInt32 := UInt32.ofNat (memory.readLe address 4)

def writeWord (address : Nat) (value : UInt32) : Memory :=
  memory.write address (toBytes 4 value.toNat)

/-- The sum of `count` words. -/
def wordSum : Nat → Nat → UInt32
  | _, 0 => 0
  | address, count + 1 => memory.wordAt address + wordSum (address + 4) count

theorem wordAt_writeWord (address : Nat) (value : UInt32) :
    (memory.writeWord address value).wordAt address = value := by
  have small : value.toNat < 256 ^ 4 := value.toNat_lt
  rw [wordAt, writeWord, readLe_write_toBytes, Nat.mod_eq_of_lt small, UInt32.ofNat_toNat]

theorem wordAt_writeWord_of_disjoint {address start : Nat} (value : UInt32)
    (disjoint : start + 4 ≤ address ∨ address + 4 ≤ start) :
    (memory.writeWord address value).wordAt start = memory.wordAt start := by
  rw [wordAt, writeWord, readLe_write_field _ _ _ _ _ _ disjoint, wordAt]

theorem wordSum_writeWord_of_le {address start : Nat} (value : UInt32) (count : Nat)
    (behind : address + 4 ≤ start) :
    (memory.writeWord address value).wordSum start count = memory.wordSum start count := by
  induction count generalizing start with
  | zero => rfl
  | succ count ih =>
      have word := memory.wordAt_writeWord_of_disjoint value (Or.inr behind)
      have rest := ih (Nat.le_trans behind (Nat.le_add_right start 4))
      rw [wordSum, wordSum, word, rest]

theorem wordSum_writeWord (value : UInt32) {count index : Nat} (inside : index < count)
    (address : Nat) :
    (memory.writeWord (address + 4 * index) value).wordSum address count =
      memory.wordSum address count - memory.wordAt (address + 4 * index) + value := by
  induction count generalizing address index with
  | zero => cases inside
  | succ count ih =>
      rw [wordSum, wordSum]
      cases index with
      | zero =>
          have rest := memory.wordSum_writeWord_of_le value count (Nat.le_refl (address + 4))
          rw [Nat.mul_zero, Nat.add_zero, wordAt_writeWord, rest]
          grind
      | succ index =>
          have place : address + 4 * (index + 1) = address + 4 + 4 * index := by omega
          have first := memory.wordAt_writeWord_of_disjoint value
            (Or.inl (Nat.le_add_right (address + 4) (4 * index)))
          have rest := ih (Nat.lt_of_succ_lt_succ inside) (address + 4)
          rw [place, first, rest]
          grind

end Words

end Memory

end AppEfi
