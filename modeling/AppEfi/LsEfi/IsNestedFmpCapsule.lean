import AppEfi.Lib.Reading

/-!
# Nested FMP capsules

IsNestedFmpCapsule in LsEfiDump.c as a program that lists its reads of the capsule.  The ESRT
is given by the FwClass of its entries, and a GUID is the number of its 16 bytes.
-/

set_option autoImplicit false

namespace AppEfi.LsEfi

open AppEfi.Reading

section Capsule

variable (memory : Memory) (gEfiFmpCapsuleGuid : Nat)

/-- EsrtGuidFound. -/
def findEsrtGuid (capsuleHeader : UInt64) : List Nat → Reading Bool
  | [] => pure false
  | fwClass :: rest => do
      let capsuleGuid ← read memory capsuleHeader.toNat 16
      if fwClass = capsuleGuid then pure true else findEsrtGuid capsuleHeader rest

/-- The size is made from HeaderSize, where the place of the nested header is as well. -/
def nestedCapsuleSize (capsuleHeader headerSize : UInt64) : UInt64 :=
  let nestedCapsuleHeader := capsuleHeader + headerSize
  capsuleHeader + headerSize - nestedCapsuleHeader

/-- The part behind the search of the ESRT. -/
def checkNestedHeader (capsuleHeader : UInt64) : Reading Bool := do
  let headerSize ← read memory (capsuleHeader.toNat + 16) 4
  if nestedCapsuleSize capsuleHeader (UInt64.ofNat headerSize) < 28 then pure false
  else do
    let nestedGuid ← read memory (capsuleHeader + UInt64.ofNat headerSize).toNat 16
    pure (decide (nestedGuid = gEfiFmpCapsuleGuid))

/-- `none` is a system without an ESRT. -/
def isNestedFmpCapsule (esrt : Option (List Nat)) (capsuleHeader : UInt64) : Reading Bool := do
  let esrtGuidFound ← findEsrtGuid memory capsuleHeader (esrt.getD [])
  if esrtGuidFound then checkNestedHeader memory gEfiFmpCapsuleGuid capsuleHeader
  else pure false

/-! ## What a nested capsule is -/

def capsuleGuid (capsuleHeader : UInt64) : Nat := memory.readLe capsuleHeader.toNat 16

def headerSize (capsuleHeader : UInt64) : Nat := memory.readLe (capsuleHeader.toNat + 16) 4

def capsuleImageSize (capsuleHeader : UInt64) : Nat :=
  memory.readLe (capsuleHeader.toNat + 24) 4

/-- The header, and the image where it is longer. -/
def capsuleRange (capsuleHeader : UInt64) : Range :=
  ⟨capsuleHeader.toNat, max 28 (capsuleImageSize memory capsuleHeader)⟩

/-- The ESRT lists the capsule, which has room behind its header for another one, and that one
is an FMP capsule's. -/
structure HasNestedFmp (esrt : Option (List Nat)) (capsuleHeader : UInt64) : Prop where
  listed : capsuleGuid memory capsuleHeader ∈ esrt.getD []
  room : headerSize memory capsuleHeader + 28 ≤ capsuleImageSize memory capsuleHeader
  nestedGuid : memory.readLe (capsuleHeader.toNat + headerSize memory capsuleHeader) 16 =
    gEfiFmpCapsuleGuid

/-- The function tells the nested capsules, from reads of the capsule. -/
structure TellsNested (esrt : Option (List Nat)) (capsuleHeader : UInt64) : Prop where
  ends : ∃ nested,
    Ends (isNestedFmpCapsule memory gEfiFmpCapsuleGuid esrt capsuleHeader) nested
  nested_iff : ∀ nested,
    Ends (isNestedFmpCapsule memory gEfiFmpCapsuleGuid esrt capsuleHeader) nested →
      (nested = true ↔ HasNestedFmp memory gEfiFmpCapsuleGuid esrt capsuleHeader)
  reads : ReadsInside (capsuleRange memory capsuleHeader)
    (isNestedFmpCapsule memory gEfiFmpCapsuleGuid esrt capsuleHeader)

section Proofs

variable {memory gEfiFmpCapsuleGuid}
variable {capsuleHeader : UInt64} {esrt : Option (List Nat)} {nested : Bool}

theorem ends_findEsrtGuid {fwClasses : List Nat} :
    Ends (findEsrtGuid memory capsuleHeader fwClasses) nested ↔
      (nested = true ↔ capsuleGuid memory capsuleHeader ∈ fwClasses) := by
  induction fwClasses with
  | nil => simp [findEsrtGuid]
  | cons fwClass rest ih =>
      rw [findEsrtGuid, ends_bind]
      simp only [ends_read, exists_eq_left, ends_ite, ends_pure, ih, List.mem_cons]
      by_cases same : fwClass = memory.readLe capsuleHeader.toNat 16
      · simp [same, capsuleGuid]
      · simp [same, capsuleGuid, Ne.symm same]

theorem nestedCapsuleSize_eq (capsuleHeader headerSize : UInt64) :
    nestedCapsuleSize capsuleHeader headerSize = 0 := by
  rw [nestedCapsuleSize, UInt64.sub_self]

theorem ends_checkNestedHeader :
    Ends (checkNestedHeader memory gEfiFmpCapsuleGuid capsuleHeader) nested ↔
      nested = false := by
  simp [checkNestedHeader, nestedCapsuleSize_eq]

theorem ends_isNestedFmpCapsule :
    Ends (isNestedFmpCapsule memory gEfiFmpCapsuleGuid esrt capsuleHeader) nested ↔
      nested = false := by
  by_cases listed : capsuleGuid memory capsuleHeader ∈ esrt.getD [] <;>
    simp [isNestedFmpCapsule, ends_findEsrtGuid, ends_checkNestedHeader, listed]

theorem header_inside {offset width : Nat} (inside : offset + width ≤ 28) :
    (⟨capsuleHeader.toNat + offset, width⟩ : Range).Inside (capsuleRange memory capsuleHeader) := by
  rw [capsuleRange, Range.inside_offset]
  exact Nat.le_trans inside (Nat.le_max_left _ _)

theorem readsInside_findEsrtGuid (fwClasses : List Nat) :
    ReadsInside (capsuleRange memory capsuleHeader)
      (findEsrtGuid memory capsuleHeader fwClasses) := by
  have guid : (⟨capsuleHeader.toNat, 16⟩ : Range).Inside (capsuleRange memory capsuleHeader) :=
    @header_inside memory capsuleHeader 0 16 (by decide)
  induction fwClasses with
  | nil => exact allReads_pure _
  | cons fwClass rest ih =>
      refine allReads_bind.mpr ⟨allReads_read.mpr guid, fun value _ => ?_⟩
      split
      · exact allReads_pure _
      · exact ih

theorem readsInside_isNestedFmpCapsule :
    ReadsInside (capsuleRange memory capsuleHeader)
      (isNestedFmpCapsule memory gEfiFmpCapsuleGuid esrt capsuleHeader) := by
  refine allReads_bind.mpr ⟨readsInside_findEsrtGuid _, fun found _ => ?_⟩
  have size : ReadsInside (capsuleRange memory capsuleHeader)
      (checkNestedHeader memory gEfiFmpCapsuleGuid capsuleHeader) := by
    simp [checkNestedHeader, nestedCapsuleSize_eq, header_inside]
  split
  · exact size
  · exact allReads_pure _

end Proofs

/-- The function is right about the capsules that are not nested, and about no other. -/
theorem isNestedFmpCapsule_tells_iff (esrt : Option (List Nat)) (capsuleHeader : UInt64) :
    TellsNested memory gEfiFmpCapsuleGuid esrt capsuleHeader ↔
      ¬ HasNestedFmp memory gEfiFmpCapsuleGuid esrt capsuleHeader := by
  constructor
  · intro tells has
    exact absurd ((tells.nested_iff false (ends_isNestedFmpCapsule.mpr rfl)).mpr has) (by decide)
  · intro none
    refine ⟨⟨false, ends_isNestedFmpCapsule.mpr rfl⟩, fun nested ends => ?_,
      readsInside_isNestedFmpCapsule⟩
    rw [ends_isNestedFmpCapsule.mp ends]
    exact iff_of_false (by decide) none

end Capsule

/-- A capsule header with the GUID 1 and the sizes 28 and 56, and one with the GUID 2. -/
def nestedCapsule : Memory :=
  Memory.ofBytesAt 0x1000
    ([1] ++ List.replicate 15 0 ++ [28, 0, 0, 0, 0, 0, 0, 0, 56, 0, 0, 0] ++
      [2] ++ List.replicate 15 0)

/-- It is reported as not nested. -/
theorem isNestedFmpCapsule_nestedCapsule :
    HasNestedFmp nestedCapsule 2 (some [1]) 0x1000 ∧
      Ends (isNestedFmpCapsule nestedCapsule 2 (some [1]) 0x1000) false ∧
      ¬ TellsNested nestedCapsule 2 (some [1]) 0x1000 := by
  have nested : HasNestedFmp nestedCapsule 2 (some [1]) 0x1000 :=
    ⟨by decide, by decide, by decide⟩
  have ends : Ends (isNestedFmpCapsule nestedCapsule 2 (some [1]) 0x1000) false :=
    ends_isNestedFmpCapsule.mpr rfl
  refine ⟨nested, ends, fun tells => ?_⟩
  exact absurd ((tells.nested_iff false ends).mpr nested) (by decide)

end AppEfi.LsEfi
