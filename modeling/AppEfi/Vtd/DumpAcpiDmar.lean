import AppEfi.Lib.BoundedWalk
import AppEfi.Vtd.DeviceScopePath

/-!
# The dump of the DMAR table

`DumpAcpiDMAR` and the loops of `DumpDmarDrhd`, `DumpDmarRmrr`, `DumpDmarAtsr` and
`DumpDmarDeviceScopeEntry` of VtdDump.c over a table whose lengths nobody has checked.
The loops count down what is left in a signed `INTN`, so a structure that is too long
ends them and one of length zero does not.
-/

set_option autoImplicit false

namespace AppEfi.Vtd

open BoundedWalk

def dmarTypeRmrr : Nat := 1

def dmarTypeAtsr : Nat := 2

def sizeofDmarRmrrHeader : Nat := 24

def sizeofDmarAtsrHeader : Nat := 8

inductive DmarItem where
  /-- A remapping structure; of an unknown type nothing is printed. -/
  | structure (type address : Nat)
  | deviceScope (address pciPathNumber : Nat)
  deriving DecidableEq, Repr

section Dump

variable (memory : Memory)

def structureType (dmarHeader : Nat) : Nat := memory.readLe dmarHeader 2

def structureLength (dmarHeader : Nat) : Nat := memory.readLe (dmarHeader + 2) 2

/-- `(Length - sizeof (...)) / sizeof (EFI_ACPI_DMAR_PCI_PATH)` in `UINTN`. -/
def pciPathNumber (dmarDeviceScopeEntry : Nat) : Nat :=
  (scopeLength memory dmarDeviceScopeEntry + 2 ^ 64 - sizeofDeviceScopeHeader) % 2 ^ 64 / 2

/-- The device scope loop of a structure, with `len` bytes to go. -/
def dumpDeviceScopes : Nat → Int → Nat → Option (List DmarItem)
  | 0, len, _ => if 0 < len then none else some []
  | fuel + 1, len, dmarDeviceScopeEntry =>
      if 0 < len then do
        let rest ← dumpDeviceScopes fuel (len - scopeLength memory dmarDeviceScopeEntry)
          (dmarDeviceScopeEntry + scopeLength memory dmarDeviceScopeEntry)
        some (.deviceScope dmarDeviceScopeEntry (pciPathNumber memory dmarDeviceScopeEntry) ::
          rest)
      else some []

/-- The scopes of a structure with a header of `sizeofHeader` bytes. -/
def dumpStructureScopes (sizeofHeader fuel dmarHeader : Nat) : Option (List DmarItem) :=
  dumpDeviceScopes memory fuel ((structureLength memory dmarHeader : Int) - sizeofHeader)
    (dmarHeader + sizeofHeader)

def dumpDmarDrhd : Nat → Nat → Option (List DmarItem) :=
  dumpStructureScopes memory sizeofDmarDrhdHeader

def dumpDmarRmrr : Nat → Nat → Option (List DmarItem) :=
  dumpStructureScopes memory sizeofDmarRmrrHeader

def dumpDmarAtsr : Nat → Nat → Option (List DmarItem) :=
  dumpStructureScopes memory sizeofDmarAtsrHeader

/-- The switch of the loop; `DumpDmarRhsa` and `DumpDmarAndd` have no loop. -/
def dumpDmarByType (fuel dmarHeader : Nat) : Option (List DmarItem) :=
  if structureType memory dmarHeader = dmarTypeDrhd then dumpDmarDrhd memory fuel dmarHeader
  else if structureType memory dmarHeader = dmarTypeRmrr then
    dumpDmarRmrr memory fuel dmarHeader
  else if structureType memory dmarHeader = dmarTypeAtsr then
    dumpDmarAtsr memory fuel dmarHeader
  else some []

def dumpDmarStructure (fuel dmarHeader : Nat) : Option (List DmarItem) :=
  (dumpDmarByType memory fuel dmarHeader).map
    (.structure (structureType memory dmarHeader) dmarHeader :: ·)

/-- The loop of `DumpAcpiDMAR`, with `dmarLen` bytes to go. -/
def dumpDmarStructures (scopeFuel : Nat) : Nat → Int → Nat → Option (List DmarItem)
  | 0, dmarLen, _ => if 0 < dmarLen then none else some []
  | fuel + 1, dmarLen, dmarHeader =>
      if 0 < dmarLen then do
        let own ← dumpDmarStructure memory scopeFuel dmarHeader
        let rest ← dumpDmarStructures scopeFuel fuel
          (dmarLen - structureLength memory dmarHeader)
          (dmarHeader + structureLength memory dmarHeader)
        some (own ++ rest)
      else some []

def tableLength (dmar : Nat) : Nat := memory.readLe (dmar + 4) 4

def dumpAcpiDmar (scopeFuel fuel dmar : Nat) : Option (List DmarItem) :=
  dumpDmarStructures memory scopeFuel fuel ((tableLength memory dmar : Int) - sizeofDmarHeader)
    (dmar + sizeofDmarHeader)

/-- Where the pointers are when an item is done: at the next structure, or behind the
last path hop and at the next device scope. -/
def DmarItem.moves : DmarItem → List Nat
  | .structure _ dmarHeader => [dmarHeader + structureLength memory dmarHeader]
  | .deviceScope dmarDeviceScopeEntry pciPathNumber =>
      [hopAt dmarDeviceScopeEntry pciPathNumber,
        dmarDeviceScopeEntry + scopeLength memory dmarDeviceScopeEntry]

/-- No pointer is behind `tableEnd` when the item is done. -/
def DmarItem.Inside (tableEnd : Nat) (item : DmarItem) : Prop :=
  ∀ position ∈ item.moves memory, position ≤ tableEnd

/-! ## The lengths of a table -/

/-- A structure that has device scopes, with the size of its header. -/
def HasScopes (dmarHeader sizeofHeader : Nat) : Prop :=
  structureType memory dmarHeader = dmarTypeDrhd ∧ sizeofHeader = sizeofDmarDrhdHeader ∨
    structureType memory dmarHeader = dmarTypeRmrr ∧ sizeofHeader = sizeofDmarRmrrHeader ∨
    structureType memory dmarHeader = dmarTypeAtsr ∧ sizeofHeader = sizeofDmarAtsrHeader

/-- The structures that a walk over the table comes to. -/
def TableReached (dmar dmarHeader : Nat) : Prop :=
  Reached (structureLength memory) (dmar + tableLength memory dmar) (dmar + sizeofDmarHeader)
      dmarHeader ∧
    dmarHeader < dmar + tableLength memory dmar

/-- Each structure has a length other than zero and ends in the table. -/
def StructuresInside (dmar : Nat) : Prop :=
  ∀ dmarHeader, TableReached memory dmar dmarHeader →
    0 < structureLength memory dmarHeader ∧
      dmarHeader + structureLength memory dmarHeader ≤ dmar + tableLength memory dmar

/-- Each device scope of a structure is at least `minimum` bytes long and ends in the
table. -/
def ScopesInside (minimum tableEnd dmarHeader sizeofHeader : Nat) : Prop :=
  ∀ entry, Reached (scopeLength memory) (dmarHeader + structureLength memory dmarHeader)
      (dmarHeader + sizeofHeader) entry →
    entry < dmarHeader + structureLength memory dmarHeader →
    minimum ≤ scopeLength memory entry ∧ entry + scopeLength memory entry ≤ tableEnd

end Dump

section Dump

variable {memory : Memory}

theorem dumpDeviceScopes_eq (fuel : Nat) (len : Int) (entry limit : Nat)
    (left : (entry : Int) + len = limit) :
    dumpDeviceScopes memory fuel len entry =
      walkItems (scopeLength memory) limit
        (fun entry => some [.deviceScope entry (pciPathNumber memory entry)]) fuel entry := by
  induction fuel generalizing len entry with
  | zero =>
      rw [dumpDeviceScopes, walkItems]
      exact if_congr (by omega) rfl rfl
  | succ fuel ih =>
      rw [dumpDeviceScopes, walkItems, ih _ _ (by push_cast; omega)]
      exact if_congr (by omega) rfl rfl

theorem dumpDmarStructures_eq (scopeFuel fuel : Nat) (dmarLen : Int) (dmarHeader limit : Nat)
    (left : (dmarHeader : Int) + dmarLen = limit) :
    dumpDmarStructures memory scopeFuel fuel dmarLen dmarHeader =
      walkItems (structureLength memory) limit (dumpDmarStructure memory scopeFuel) fuel
        dmarHeader := by
  induction fuel generalizing dmarLen dmarHeader with
  | zero =>
      rw [dumpDmarStructures, walkItems]
      exact if_congr (by omega) rfl rfl
  | succ fuel ih =>
      rw [dumpDmarStructures, walkItems, ih _ _ (by push_cast; omega)]
      exact if_congr (by omega) rfl rfl

theorem dumpStructureScopes_eq (sizeofHeader fuel dmarHeader : Nat) :
    dumpStructureScopes memory sizeofHeader fuel dmarHeader =
      walkItems (scopeLength memory) (dmarHeader + structureLength memory dmarHeader)
        (fun entry => some [.deviceScope entry (pciPathNumber memory entry)]) fuel
        (dmarHeader + sizeofHeader) :=
  dumpDeviceScopes_eq fuel _ _ _ (by push_cast; omega)

theorem dumpAcpiDmar_eq (scopeFuel fuel dmar : Nat) :
    dumpAcpiDmar memory scopeFuel fuel dmar =
      walkItems (structureLength memory) (dmar + tableLength memory dmar)
        (dumpDmarStructure memory scopeFuel) fuel (dmar + sizeofDmarHeader) :=
  dumpDmarStructures_eq scopeFuel fuel _ _ _ (by push_cast; omega)

theorem inside_structure_iff (memory : Memory) (tableEnd type dmarHeader : Nat) :
    (DmarItem.structure type dmarHeader).Inside memory tableEnd ↔
      dmarHeader + structureLength memory dmarHeader ≤ tableEnd := by
  simp [DmarItem.Inside, DmarItem.moves]

/-- A scope that is shorter than its header has about 2^63 hops. -/
theorem inside_deviceScope_iff {tableEnd entry : Nat} (near : tableEnd < entry + 2 ^ 63) :
    0 < scopeLength memory entry ∧
        (DmarItem.deviceScope entry (pciPathNumber memory entry)).Inside memory tableEnd ↔
      sizeofDeviceScopeHeader ≤ scopeLength memory entry ∧
        entry + scopeLength memory entry ≤ tableEnd := by
  have bound : scopeLength memory entry < 2 ^ 8 := (memory (entry + 1)).toNat_lt
  simp only [DmarItem.Inside, DmarItem.moves, List.mem_cons, List.not_mem_nil, or_false,
    forall_eq_or_imp, forall_eq, pciPathNumber, hopAt, sizeofDeviceScopeHeader]
  omega

theorem dumpStructureScopes_inside_iff {tableEnd dmarHeader : Nat} (sizeofHeader : Nat)
    (near : tableEnd < dmarHeader + 2 ^ 63) :
    (∃ fuel items, dumpStructureScopes memory sizeofHeader fuel dmarHeader = some items ∧
        ∀ item ∈ items, item.Inside memory tableEnd) ↔
      ScopesInside memory sizeofDeviceScopeHeader tableEnd dmarHeader sizeofHeader := by
  simp only [dumpStructureScopes_eq]
  rw [exists_walkItems_iff_of_body, ScopesInside]
  apply forall₂_congr
  intro entry reached
  apply forall_congr'
  intro _
  have after := reached.le
  rw [← inside_deviceScope_iff (by omega)]
  apply and_congr_right
  intro _
  simp only [Option.some.injEq, exists_eq_left', List.mem_singleton, forall_eq]

theorem dumpStructureScopes_mono {sizeofHeader fuel more dmarHeader : Nat}
    {items : List DmarItem} (le : fuel ≤ more)
    (run : dumpStructureScopes memory sizeofHeader fuel dmarHeader = some items) :
    dumpStructureScopes memory sizeofHeader more dmarHeader = some items := by
  rw [dumpStructureScopes_eq] at run ⊢
  exact walkItems_mono (fun _ _ same => same) le run

theorem HasScopes.unique {dmarHeader sizeofHeader other : Nat}
    (scopes : HasScopes memory dmarHeader sizeofHeader)
    (also : HasScopes memory dmarHeader other) : other = sizeofHeader := by
  simp only [HasScopes, dmarTypeDrhd, dmarTypeRmrr, dmarTypeAtsr] at scopes also
  omega

/-- The switch dumps the scopes of the structure, if it has any. -/
theorem dumpDmarByType_cases (memory : Memory) (dmarHeader : Nat) :
    (∃ sizeofHeader, HasScopes memory dmarHeader sizeofHeader ∧
        ∀ fuel, dumpDmarByType memory fuel dmarHeader =
          dumpStructureScopes memory sizeofHeader fuel dmarHeader) ∨
      (∀ sizeofHeader, ¬ HasScopes memory dmarHeader sizeofHeader) ∧
        ∀ fuel, dumpDmarByType memory fuel dmarHeader = some [] := by
  by_cases drhd : structureType memory dmarHeader = dmarTypeDrhd
  · exact Or.inl ⟨_, Or.inl ⟨drhd, rfl⟩, fun _ => if_pos drhd⟩
  by_cases rmrr : structureType memory dmarHeader = dmarTypeRmrr
  · exact Or.inl ⟨_, Or.inr (Or.inl ⟨rmrr, rfl⟩),
      fun _ => (if_neg drhd).trans (if_pos rmrr)⟩
  by_cases atsr : structureType memory dmarHeader = dmarTypeAtsr
  · exact Or.inl ⟨_, Or.inr (Or.inr ⟨atsr, rfl⟩),
      fun _ => (if_neg drhd).trans ((if_neg rmrr).trans (if_pos atsr))⟩
  · refine Or.inr ⟨?_, fun _ => (if_neg drhd).trans ((if_neg rmrr).trans (if_neg atsr))⟩
    rintro sizeofHeader (⟨type, -⟩ | ⟨type, -⟩ | ⟨type, -⟩)
    · exact drhd type
    · exact rmrr type
    · exact atsr type

theorem dumpDmarStructure_mono {fuel more dmarHeader : Nat} {items : List DmarItem}
    (le : fuel ≤ more) (run : dumpDmarStructure memory fuel dmarHeader = some items) :
    dumpDmarStructure memory more dmarHeader = some items := by
  rw [dumpDmarStructure, Option.map_eq_some_iff] at run ⊢
  obtain ⟨scopes, inner, same⟩ := run
  refine ⟨scopes, ?_, same⟩
  rcases dumpDmarByType_cases memory dmarHeader with
    ⟨sizeofHeader, -, byType⟩ | ⟨-, byType⟩
  · rw [byType] at inner ⊢
    exact dumpStructureScopes_mono le inner
  · rw [byType] at inner ⊢
    exact inner

theorem dumpDmarStructure_inside_iff {tableEnd dmarHeader : Nat}
    (near : tableEnd < dmarHeader + 2 ^ 63) :
    (∃ fuel items, dumpDmarStructure memory fuel dmarHeader = some items ∧
        ∀ item ∈ items, item.Inside memory tableEnd) ↔
      dmarHeader + structureLength memory dmarHeader ≤ tableEnd ∧
        ∀ sizeofHeader, HasScopes memory dmarHeader sizeofHeader →
          ScopesInside memory sizeofDeviceScopeHeader tableEnd dmarHeader sizeofHeader := by
  have split : (∃ fuel items, dumpDmarStructure memory fuel dmarHeader = some items ∧
        ∀ item ∈ items, item.Inside memory tableEnd) ↔
      dmarHeader + structureLength memory dmarHeader ≤ tableEnd ∧
        ∃ fuel items, dumpDmarByType memory fuel dmarHeader = some items ∧
          ∀ item ∈ items, item.Inside memory tableEnd := by
    rw [← inside_structure_iff memory tableEnd (structureType memory dmarHeader)]
    constructor
    · rintro ⟨fuel, items, run, good⟩
      obtain ⟨scopes, inner, rfl⟩ := Option.map_eq_some_iff.mp run
      obtain ⟨own, below⟩ := List.forall_mem_cons.mp good
      exact ⟨own, fuel, scopes, inner, below⟩
    · rintro ⟨own, fuel, scopes, inner, below⟩
      exact ⟨fuel, _, Option.map_eq_some_iff.mpr ⟨scopes, inner, rfl⟩,
        List.forall_mem_cons.mpr ⟨own, below⟩⟩
  rw [split]
  apply and_congr_right
  intro _
  rcases dumpDmarByType_cases memory dmarHeader with
    ⟨sizeofHeader, scopes, byType⟩ | ⟨none, byType⟩
  · simp only [byType]
    rw [dumpStructureScopes_inside_iff sizeofHeader near]
    constructor
    · intro inside other also
      rw [scopes.unique also]
      exact inside
    · exact fun all => all sizeofHeader scopes
  · simp only [byType]
    constructor
    · exact fun _ sizeofHeader scopes => absurd scopes (none sizeofHeader)
    · intro _
      refine ⟨0, [], rfl, ?_⟩
      intro item listed
      cases listed

/-- The dump ends with every pointer in the table exactly when each structure has a
length other than zero and ends in the table, and so does each device scope, with the
length of its header at least. -/
theorem dumpAcpiDmar_inside_iff (memory : Memory) (dmar : Nat) :
    (∃ scopeFuel fuel items, dumpAcpiDmar memory scopeFuel fuel dmar = some items ∧
        ∀ item ∈ items, item.Inside memory (dmar + tableLength memory dmar)) ↔
      StructuresInside memory dmar ∧
        ∀ dmarHeader, TableReached memory dmar dmarHeader →
          ∀ sizeofHeader, HasScopes memory dmarHeader sizeofHeader →
            ScopesInside memory sizeofDeviceScopeHeader (dmar + tableLength memory dmar)
              dmarHeader sizeofHeader := by
  have tableBound : tableLength memory dmar < 2 ^ 32 := Memory.readLe_lt memory (dmar + 4) 4
  simp only [dumpAcpiDmar_eq]
  rw [@exists_walkItems_iff DmarItem _ _ (dumpDmarStructure memory) _ dumpDmarStructure_mono,
    StructuresInside, ← forall_and]
  apply forall_congr'
  intro dmarHeader
  rw [← forall_and, TableReached, and_imp]
  apply forall_congr'
  intro reached
  have after := reached.le
  apply forall_congr'
  intro _
  rw [dumpDmarStructure_inside_iff (by omega), and_assoc]

end Dump

end AppEfi.Vtd
