import AppEfi.Vtd.CheckPtEntry

/-!
# What the lists excuse

The range test of `ExistInRmrr` and `ExistInIoMmuMap` passes over a record only in
the gap of a range that wraps around.  So a record of the device excuses every other
address, in its range or not.
-/

set_option autoImplicit false

namespace AppEfi.Vtd

/-- The range reaches over the end of the address space, and the address is between
its wrapped end and its start. -/
def InGap (address base length : UInt64) : Prop :=
  2 ^ 64 ≤ base.toNat + length.toNat ∧ base.toNat + length.toNat - 2 ^ 64 ≤ address.toNat ∧
    address.toNat < base.toNat

theorem outsideRange_iff (address base length : UInt64) :
    outsideRange address base length = true ↔ InGap address base length := by
  have addressBound := address.toNat_lt
  have baseBound := base.toNat_lt
  have lengthBound := length.toNat_lt
  simp only [outsideRange, InGap, Bool.and_eq_true, decide_eq_true_eq, ge_iff_le,
    UInt64.lt_iff_toNat_lt, UInt64.le_iff_toNat_le, UInt64.toNat_add]
  by_cases wraps : base.toNat + length.toNat < 2 ^ 64
  · rw [Nat.mod_eq_of_lt wraps]
    omega
  · rw [Nat.mod_eq_sub_mod (by omega), Nat.mod_eq_of_lt (by omega)]
    omega

theorem not_outsideRange_iff (address base length : UInt64) :
    (!outsideRange address base length) = true ↔ ¬ InGap address base length := by
  rw [← outsideRange_iff, Bool.not_eq_true', Bool.not_eq_true]

def RmrrRecord.Contains (record : RmrrRecord) (address : UInt64) : Prop :=
  record.address.toNat ≤ address.toNat ∧
    address.toNat < record.address.toNat + record.length.toNat

def MapInfo.Contains (mapping : MapInfo) (address : UInt64) : Prop :=
  mapping.deviceAddress.toNat ≤ address.toNat ∧
    address.toNat < mapping.deviceAddress.toNat + mapping.numberOfPages.toNat * 0x1000

/-- The handle is the device, or no device that the application can locate. -/
def HandleLocation.MayBe (handle : HandleLocation) (location : PciLocation) : Prop :=
  ∀ mine, handle = .pci mine → mine = location

section Sound

variable (records : DmaRecords) (location : PciLocation) (address ioMmuAccess : UInt64)

def RmrrSound : Prop :=
  existInRmrr records location address = true →
    ∃ record ∈ records.rmrrRecord, record.location = location ∧ record.Contains address

/-- `belongs` says which handles stand for the device. -/
def MapSound (belongs : HandleLocation → Prop) : Prop :=
  existInIoMmuMap records location address ioMmuAccess = true →
    ∃ mapping ∈ records.maps, mapping.Contains address ∧
      ∃ info ∈ mapping.handleList, info.ioMmuAccess = ioMmuAccess ∧ belongs info.handle

theorem existInRmrr_iff :
    existInRmrr records location address = true ↔
      ∃ record ∈ records.rmrrRecord, record.location = location ∧
        ¬ InGap address record.address record.length := by
  simp only [existInRmrr, List.any_eq_true, List.mem_reverse, Bool.and_eq_true,
    not_outsideRange_iff, beq_iff_eq]
  constructor
  · rintro ⟨record, listed, inside, mine⟩
    exact ⟨record, listed, mine, inside⟩
  · rintro ⟨record, listed, mine, inside⟩
    exact ⟨record, listed, inside, mine⟩

theorem handleMatches_iff (info : MapHandleInfo) :
    handleMatches location ioMmuAccess info = true ↔
      info.ioMmuAccess = ioMmuAccess ∧ info.handle.MayBe location := by
  rw [handleMatches, Bool.and_eq_true, beq_iff_eq]
  apply and_congr_right
  intro _
  cases info.handle with
  | notPci => simp [HandleLocation.MayBe]
  | unknownPci => simp [HandleLocation.MayBe]
  | pci mine => simp [HandleLocation.MayBe]

theorem existInIoMmuMap_iff :
    existInIoMmuMap records location address ioMmuAccess = true ↔
      ∃ mapping ∈ records.maps,
        (∃ info ∈ mapping.handleList,
          info.ioMmuAccess = ioMmuAccess ∧ info.handle.MayBe location) ∧
        ¬ InGap address mapping.deviceAddress (efiPagesToSize mapping.numberOfPages) := by
  simp only [existInIoMmuMap, List.any_eq_true, List.mem_reverse, Bool.and_eq_true,
    not_outsideRange_iff, handleMatches_iff]
  constructor
  · rintro ⟨mapping, listed, inside, mine⟩
    exact ⟨mapping, listed, mine, inside⟩
  · rintro ⟨mapping, listed, mine, inside⟩
    exact ⟨mapping, listed, inside, mine⟩

theorem rmrrSound_iff :
    RmrrSound records location address ↔
      (∃ record ∈ records.rmrrRecord, record.location = location ∧
        record.Contains address) ∨
      ∀ record ∈ records.rmrrRecord, record.location = location →
        InGap address record.address record.length := by
  rw [RmrrSound, existInRmrr_iff, imp_iff_not_or, or_comm]
  apply or_congr_right
  simp only [not_exists, not_and, not_not]

theorem mapSound_iff (belongs : HandleLocation → Prop) :
    MapSound records location address ioMmuAccess belongs ↔
      (∃ mapping ∈ records.maps, mapping.Contains address ∧
        ∃ info ∈ mapping.handleList, info.ioMmuAccess = ioMmuAccess ∧ belongs info.handle) ∨
      ∀ mapping ∈ records.maps,
        (∃ info ∈ mapping.handleList,
          info.ioMmuAccess = ioMmuAccess ∧ info.handle.MayBe location) →
        InGap address mapping.deviceAddress (efiPagesToSize mapping.numberOfPages) := by
  rw [MapSound, existInIoMmuMap_iff, imp_iff_not_or, or_comm]
  apply or_congr_right
  simp only [not_exists, not_and, not_not]

end Sound

/-- `ExistInRmrr` and `ExistInIoMmuMap` say `TRUE` rightly exactly when the address is in
a range of the device, or in the gap of every range that is listed for it.  This is so
whether `belongs` takes the handles that `handleMatches` takes for the device or only
the handle of the device itself. -/
theorem existIn_sound_iff (records : DmaRecords) (location : PciLocation)
    (address ioMmuAccess : UInt64) (belongs : HandleLocation → Prop) :
    (RmrrSound records location address ↔
      (∃ record ∈ records.rmrrRecord, record.location = location ∧
        record.Contains address) ∨
      ∀ record ∈ records.rmrrRecord, record.location = location →
        InGap address record.address record.length) ∧
    (MapSound records location address ioMmuAccess belongs ↔
      (∃ mapping ∈ records.maps, mapping.Contains address ∧
        ∃ info ∈ mapping.handleList, info.ioMmuAccess = ioMmuAccess ∧
          belongs info.handle) ∨
      ∀ mapping ∈ records.maps,
        (∃ info ∈ mapping.handleList,
          info.ioMmuAccess = ioMmuAccess ∧ info.handle.MayBe location) →
        InGap address mapping.deviceAddress (efiPagesToSize mapping.numberOfPages)) :=
  ⟨rmrrSound_iff records location address,
    mapSound_iff records location address ioMmuAccess belongs⟩

/-- One page at 0x1000 for a device, as an RMRR and as a mapping. -/
def pageAt1000 : DmaRecords where
  exceptionRecord := []
  rmrrRecord := [⟨⟨0, 0, 2, 0⟩, 0x1000, 0x1000⟩]
  maps := [⟨0x1000, 1, [⟨.pci ⟨0, 0, 2, 0⟩, edkiiIoMmuAccessRead⟩]⟩]

/-- Both lists excuse 0x5000. -/
theorem existIn_pageAt1000 :
    ¬ RmrrSound pageAt1000 ⟨0, 0, 2, 0⟩ 0x5000 ∧
      ¬ MapSound pageAt1000 ⟨0, 0, 2, 0⟩ 0x5000 edkiiIoMmuAccessRead
        (·.MayBe ⟨0, 0, 2, 0⟩) := by
  constructor
  · intro sound
    obtain ⟨record, listed, -, -, below⟩ := sound (by decide)
    cases List.mem_singleton.mp listed
    revert below
    decide
  · intro sound
    obtain ⟨mapping, listed, ⟨-, below⟩, -⟩ := sound (by decide)
    cases List.mem_singleton.mp listed
    revert below
    decide

end AppEfi.Vtd
