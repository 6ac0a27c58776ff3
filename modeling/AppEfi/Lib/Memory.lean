import AppEfi.Lib.LittleEndian
import Mathlib.Data.List.Basic

/-!
# Flat byte memory

A memory is a total function from addresses to bytes, so that a read never
fails and a walk over garbage is still a definite computation.  `Holds` places
a byte string at an address; concatenation splits it, and a field written in
little-endian order is read back by `readLe`.
-/

set_option autoImplicit false

namespace AppEfi

open AppEfi.LittleEndian

abbrev Memory := Nat → UInt8

namespace Memory

/-- The `count` bytes from `address` on. -/
def bytesAt (memory : Memory) : Nat → Nat → List UInt8
  | _, 0 => []
  | address, count + 1 => memory address :: bytesAt memory (address + 1) count

/-- A little-endian load of `width` bytes. -/
def readLe (memory : Memory) (address width : Nat) : Nat :=
  ofBytes (memory.bytesAt address width)

/-- The bytes of `bytes` lie at `address`. -/
def Holds (memory : Memory) (address : Nat) (bytes : List UInt8) : Prop :=
  memory.bytesAt address bytes.length = bytes

/-- The memory that holds `bytes` at `base` and zero elsewhere. -/
def ofBytesAt (base : Nat) (bytes : List UInt8) : Memory := fun address =>
  if base ≤ address then bytes.getD (address - base) 0 else 0

theorem secondPage_ne_null : (0x1000 : Nat) ≠ 0 := by decide

/-- `CopyMem` from a byte string. -/
def write (memory : Memory) (address : Nat) (bytes : List UInt8) : Memory :=
  fun location =>
    if address ≤ location then
      bytes.getD (location - address) (memory location)
    else memory location

@[simp] theorem length_bytesAt (memory : Memory) (address count : Nat) :
    (memory.bytesAt address count).length = count := by
  induction count generalizing address with
  | zero => rfl
  | succ count ih => simp only [bytesAt, List.length_cons, ih]

theorem bytesAt_add (memory : Memory) (address first second : Nat) :
    memory.bytesAt address (first + second) =
      memory.bytesAt address first ++ memory.bytesAt (address + first) second := by
  induction first generalizing address with
  | zero => simp [bytesAt]
  | succ first ih =>
      rw [Nat.succ_add, bytesAt, bytesAt, ih, List.cons_append]
      rw [Nat.add_right_comm, Nat.add_assoc]

theorem bytesAt_eq_ofFn (memory : Memory) (address count : Nat) :
    memory.bytesAt address count =
      List.ofFn fun index : Fin count => memory (address + index.val) := by
  induction count generalizing address with
  | zero => rfl
  | succ count ih =>
      rw [bytesAt, ih, List.ofFn_succ]
      congr 2
      funext index
      simp [Nat.add_assoc, Nat.add_comm 1]

theorem bytesAt_congr (memory other : Memory) (address count : Nat)
    (same : ∀ location, address ≤ location → location < address + count →
      memory location = other location) :
    memory.bytesAt address count = other.bytesAt address count := by
  rw [bytesAt_eq_ofFn, bytesAt_eq_ofFn]
  congr 1
  funext index
  exact same _ (Nat.le_add_right _ _) (by omega)

theorem getElem_bytesAt (memory : Memory) (address count index : Nat)
    (bound : index < (memory.bytesAt address count).length) :
    (memory.bytesAt address count)[index] = memory (address + index) := by
  simp only [bytesAt_eq_ofFn, List.getElem_ofFn]

/-! ## Placed byte strings -/

@[simp] theorem holds_nil (memory : Memory) (address : Nat) :
    memory.Holds address [] := rfl

theorem holds_append (memory : Memory) (address : Nat) (first second : List UInt8) :
    memory.Holds address (first ++ second) ↔
      memory.Holds address first ∧ memory.Holds (address + first.length) second := by
  unfold Holds
  rw [List.length_append, bytesAt_add]
  exact List.append_eq_append_iff_of_size_eq_left (by simp)

theorem Holds.apply {memory : Memory} {address : Nat} {bytes : List UInt8}
    (held : memory.Holds address bytes) (index : Nat) (bound : index < bytes.length) :
    memory (address + index) = bytes[index] := by
  have read := getElem_bytesAt memory address bytes.length index (by simpa using bound)
  rw [← read]
  exact List.getElem_of_eq held _

theorem holds_iff (memory : Memory) (address : Nat) (bytes : List UInt8) :
    memory.Holds address bytes ↔
      ∀ index < bytes.length, bytes[index]? = some (memory (address + index)) := by
  constructor
  · intro held index bound
    rw [List.getElem?_eq_getElem bound, held.apply index bound]
  · intro same
    refine List.ext_getElem (by simp) fun index bound inside => ?_
    rw [getElem_bytesAt]
    exact (List.getElem_eq_iff inside).mpr (same index inside) |>.symm

theorem Holds.bytesAt_eq {memory : Memory} {address : Nat} {bytes : List UInt8}
    (held : memory.Holds address bytes) {count : Nat} (length : bytes.length = count) :
    memory.bytesAt address count = bytes := by
  subst length
  exact held

theorem Holds.bytesAt_slice {memory : Memory} {address : Nat} {bytes : List UInt8}
    (held : memory.Holds address bytes) (offset count : Nat)
    (within : offset + count ≤ bytes.length) :
    memory.bytesAt (address + offset) count = (bytes.drop offset).take count := by
  have front := List.take_append_drop offset bytes
  have back := List.take_append_drop count (bytes.drop offset)
  rw [← front, ← back, holds_append, holds_append, List.length_take_of_le (by omega)] at held
  exact held.2.1.bytesAt_eq (by simp only [List.length_take, List.length_drop]; omega)

theorem readLe_eq_of_bytesAt_eq {memory other : Memory} {address width : Nat} (count : Nat)
    (same : memory.bytesAt address count = other.bytesAt address count)
    (within : width ≤ count) : memory.readLe address width = other.readLe address width := by
  obtain ⟨rest, rfl⟩ := Nat.exists_eq_add_of_le within
  rw [bytesAt_add, bytesAt_add] at same
  rw [readLe, (List.append_inj same (by simp)).1, readLe]

theorem Holds.readLe_eq {memory : Memory} {address width value : Nat}
    (held : memory.Holds address (toBytes width value)) (fits : value < 256 ^ width) :
    memory.readLe address width = value := by
  unfold readLe
  rw [held.bytesAt_eq (by simp), ofBytes_toBytes_of_lt fits]

theorem holds_readLe (memory : Memory) (address width : Nat) :
    memory.Holds address (toBytes width (memory.readLe address width)) := by
  have bytes := toBytes_ofBytes (memory.bytesAt address width)
  rw [length_bytesAt] at bytes
  rw [readLe, bytes, Holds, length_bytesAt]

theorem holds_bytesAt (memory : Memory) (address count : Nat) :
    memory.Holds address (memory.bytesAt address count) := by
  rw [Holds, length_bytesAt]

theorem holds_of_bytesAt_eq {memory other : Memory} {address place count offset : Nat}
    {bytes : List UInt8} (same : memory.bytesAt address count = other.bytesAt place count)
    (within : offset + bytes.length ≤ count) (held : other.Holds (place + offset) bytes) :
    memory.Holds (address + offset) bytes := by
  obtain ⟨rest, rfl⟩ := Nat.exists_eq_add_of_le within
  rw [bytesAt_add, bytesAt_add, bytesAt_add, bytesAt_add] at same
  have front := (List.append_inj same (by simp)).1
  rw [Holds, (List.append_inj front (by simp)).2]
  exact held

theorem holds_ofBytesAt (base : Nat) (bytes : List UInt8) :
    (ofBytesAt base bytes).Holds base bytes := by
  unfold Holds
  apply List.ext_getElem (by simp)
  intro index bound _
  rw [getElem_bytesAt]
  simp only [length_bytesAt] at bound
  simp [ofBytesAt, List.getD_eq_getElem?_getD, bound]

/-! ## Writes -/

theorem write_apply_of_lt (memory : Memory) (address : Nat) (bytes : List UInt8)
    (location : Nat) (before : location < address) :
    memory.write address bytes location = memory location := by
  simp [write, Nat.not_le.mpr before]

theorem write_apply_of_ge (memory : Memory) (address : Nat) (bytes : List UInt8)
    (location : Nat) (after : address + bytes.length ≤ location) :
    memory.write address bytes location = memory location := by
  have outside : bytes.length ≤ location - address := by omega
  simp [write, List.getD_eq_getElem?_getD, outside]

theorem holds_write (memory : Memory) (address : Nat) (bytes : List UInt8) :
    (memory.write address bytes).Holds address bytes := by
  unfold Holds
  apply List.ext_getElem (by simp)
  intro index bound _
  rw [getElem_bytesAt]
  simp only [length_bytesAt] at bound
  simp [write, List.getD_eq_getElem?_getD, bound]

/-- A write leaves every range it does not meet as it was. -/
theorem bytesAt_write_of_disjoint (memory : Memory) (address : Nat) (bytes : List UInt8)
    (start count : Nat)
    (disjoint : start + count ≤ address ∨ address + bytes.length ≤ start) :
    (memory.write address bytes).bytesAt start count = memory.bytesAt start count := by
  apply bytesAt_congr
  intro location above below
  rcases disjoint with before | after
  · exact write_apply_of_lt _ _ _ _ (by omega)
  · exact write_apply_of_ge _ _ _ _ (by omega)

theorem holds_write_of_disjoint {memory : Memory} {address start : Nat}
    {bytes held : List UInt8} (holds : memory.Holds start held)
    (disjoint : start + held.length ≤ address ∨ address + bytes.length ≤ start) :
    (memory.write address bytes).Holds start held := by
  rw [Holds, bytesAt_write_of_disjoint _ _ _ _ _ disjoint]
  exact holds

theorem readLe_write_of_disjoint (memory : Memory) (address : Nat) (bytes : List UInt8)
    (start width : Nat)
    (disjoint : start + width ≤ address ∨ address + bytes.length ≤ start) :
    (memory.write address bytes).readLe start width = memory.readLe start width := by
  rw [readLe, bytesAt_write_of_disjoint _ _ _ _ _ disjoint, readLe]

theorem readLe_write_toBytes (memory : Memory) (address width value : Nat) :
    (memory.write address (toBytes width value)).readLe address width =
      value % 256 ^ width := by
  rw [readLe, (holds_write memory address (toBytes width value)).bytesAt_eq (by simp),
    ofBytes_toBytes]

theorem readLe_write_field (memory : Memory) (address width value start other : Nat)
    (disjoint : start + other ≤ address ∨ address + width ≤ start) :
    (memory.write address (toBytes width value)).readLe start other =
      memory.readLe start other :=
  readLe_write_of_disjoint _ _ _ _ _ (by rwa [length_toBytes])

theorem readLe_lt (memory : Memory) (address width : Nat) :
    memory.readLe address width < 256 ^ width := by
  have bound := ofBytes_lt (memory.bytesAt address width)
  rwa [length_bytesAt] at bound

/-! ## Sequences of writes -/

theorem write_append (memory : Memory) (address : Nat) (first second : List UInt8) :
    memory.write address (first ++ second) =
      (memory.write address first).write (address + first.length) second := by
  funext location
  by_cases before : location < address
  · rw [write_apply_of_lt _ _ _ _ before, write_apply_of_lt _ _ _ _ (by omega),
      write_apply_of_lt _ _ _ _ before]
  · by_cases inFirst : location < address + first.length
    · rw [write_apply_of_lt _ _ _ _ inFirst]
      have offset : location - address < first.length := by omega
      simp [write, Nat.not_lt.mp before, List.getElem?_append_left offset]
    · have offset : first.length ≤ location - address := by omega
      simp [write, Nat.not_lt.mp before, Nat.not_lt.mp inFirst,
        List.getElem?_append_right offset, List.getElem?_eq_none offset, Nat.sub_sub]

theorem write_comm (memory : Memory) {address other : Nat} (bytes replaced : List UInt8)
    (disjoint : address + bytes.length ≤ other ∨ other + replaced.length ≤ address) :
    (memory.write address bytes).write other replaced =
      (memory.write other replaced).write address bytes := by
  funext location
  by_cases inside : other ≤ location ∧ location < other + replaced.length
  · have held := fun base : Memory => (holds_write base other replaced).apply
      (location - other) (by omega)
    have place : other + (location - other) = location := by omega
    simp only [place] at held
    rcases disjoint with before | after
    · rw [held, write_apply_of_ge _ _ _ _ (by omega), held]
    · rw [held, write_apply_of_lt _ _ _ _ (by omega), held]
  · have skip : ∀ base : Memory, base.write other replaced location = base location := by
      intro base
      by_cases below : location < other
      · exact write_apply_of_lt _ _ _ _ below
      · exact write_apply_of_ge _ _ _ _ (by omega)
    rw [skip, write, write, skip]

theorem write_write (memory : Memory) (address : Nat) {old new : List UInt8}
    (same : old.length = new.length) :
    (memory.write address old).write address new = memory.write address new := by
  funext location
  by_cases before : location < address
  · rw [write_apply_of_lt _ _ _ _ before, write_apply_of_lt _ _ _ _ before,
      write_apply_of_lt _ _ _ _ before]
  · by_cases after : address + new.length ≤ location
    · rw [write_apply_of_ge _ _ _ _ after, write_apply_of_ge _ _ _ _ (by omega),
        write_apply_of_ge _ _ _ _ after]
    · have held := fun base : Memory => (holds_write base address new).apply
        (location - address) (by omega)
      have place : address + (location - address) = location := by omega
      simp only [place] at held
      rw [held, held]

theorem write_of_holds {memory : Memory} {address : Nat} {bytes : List UInt8}
    (held : memory.Holds address bytes) : memory.write address bytes = memory := by
  funext location
  by_cases before : location < address
  · exact write_apply_of_lt _ _ _ _ before
  · by_cases after : address + bytes.length ≤ location
    · exact write_apply_of_ge _ _ _ _ after
    · have there := held.apply (location - address) (by omega)
      have written := (holds_write memory address bytes).apply (location - address) (by omega)
      have place : address + (location - address) = location := by omega
      rw [place] at there written
      rw [written, there]

/-- Two writes with a gap between them, as one write that keeps the gap's bytes. -/
theorem write_gap (memory : Memory) (address gap : Nat) (first second : List UInt8) :
    (memory.write address first).write (address + (first.length + gap)) second =
      memory.write address
        (first ++ memory.bytesAt (address + first.length) gap ++ second) := by
  have kept : (memory.write address first).Holds (address + first.length)
      (memory.bytesAt (address + first.length) gap) := by
    rw [Holds, length_bytesAt, bytesAt_write_of_disjoint _ _ _ _ _ (Or.inr (Nat.le_refl _))]
  rw [write_append, write_append, write_of_holds kept, List.length_append, length_bytesAt]

end Memory

end AppEfi
