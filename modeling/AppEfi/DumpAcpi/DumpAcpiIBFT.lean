import AppEfi.Lib.RecordWalk

/-!
# The structures of the IBFT

DumpAcpiIBFT and DumpIbftControlStruct where verbose output is on.  Both count the pairs by an
unsigned subtraction that takes two of them for granted, and of a NIC the device and function
are made by comparisons.  A UINTN has 8 bytes.
-/

set_option autoImplicit false

namespace AppEfi.DumpAcpi

open AppEfi.LittleEndian
open AppEfi.RecordWalk

/-- IBFT_CONTROL_NIC_TARGET_STRUCT. -/
structure NicTarget where
  nicOffset : UInt16
  targetOffset : UInt16
  deriving DecidableEq, Repr

def NicTarget.encode (pair : NicTarget) : List UInt8 :=
  toBytes 2 pair.nicOffset.toNat ++ toBytes 2 pair.targetOffset.toNat

/-- The three values of the line for the PCI device. -/
structure PciDevice where
  bus : Nat
  device : Nat
  function : Nat
  deriving DecidableEq, Repr

/-- `PciLocation & 0xFF, (PciLocation > 8) & 0x1F, (PciLocation > 13) & 0x7`. -/
def pciDevice (pciLocation : UInt16) : PciDevice where
  bus := pciLocation.toNat &&& 0xFF
  device := (if pciLocation.toNat > 8 then 1 else 0) &&& 0x1F
  function := (if pciLocation.toNat > 13 then 1 else 0) &&& 0x7

inductive IbftReport where
  | control (place : Nat) (length extensions initiatorOffset : UInt16)
      (pairs : List NicTarget)
  | initiator (place : Nat)
  | nic (place : Nat) (location : PciDevice)
  | target (place : Nat)
  | extensions (place : Nat)
  deriving DecidableEq, Repr

def ibftHeaderSize : Nat := 48

def sizeofIbftControlStructure : Nat := 18

def nic0Offset : Nat := 10

section Dump

variable (memory : Memory)

def ibftField (address : Nat) : UInt16 := UInt16.ofNat (memory.readLe address 2)

def ibftLength (ibftStructure : Nat) : UInt16 := ibftField memory (ibftStructure + 2)

def extensionsOffset (ibftStructure : Nat) : UInt16 := ibftField memory (ibftStructure + 6)

def initiatorOffset (ibftStructure : Nat) : UInt16 := ibftField memory (ibftStructure + 8)

def pciLocation (ibftStructure : Nat) : UInt16 := ibftField memory (ibftStructure + 96)

def readNicTarget (nicTarget : Nat) : NicTarget :=
  ⟨ibftField memory nicTarget, ibftField memory (nicTarget + 2)⟩

/-- `((Length - sizeof (CONTROL_STRUCTURE)) / sizeof (IBFT_CONTROL_NIC_TARGET_STRUCT)) + 2`. -/
def pairCount (ibftStructure : Nat) : Nat :=
  ((ibftLength memory ibftStructure).toNat + 2 ^ 64 - sizeofIbftControlStructure) % 2 ^ 64 / 4 + 2

/-- `*NicTarget++`, as often as the count says. -/
def nicTargets (ibftStructure : Nat) : List NicTarget :=
  readEntries (readNicTarget memory) 4 (ibftStructure + nic0Offset) (pairCount memory ibftStructure)

def dumpIbftControlStruct (ibftStructure : Nat) : List IbftReport :=
  if ibftStructure = 0 then []
  else
    [.control ibftStructure (ibftLength memory ibftStructure)
      (extensionsOffset memory ibftStructure) (initiatorOffset memory ibftStructure)
      (nicTargets memory ibftStructure)]

def dumpIbftInitiatorStruct (ibftStructure : Nat) : List IbftReport :=
  if ibftStructure = 0 then [] else [.initiator ibftStructure]

def dumpIbftNicStruct (ibftStructure : Nat) : List IbftReport :=
  if ibftStructure = 0 then []
  else [.nic ibftStructure (pciDevice (pciLocation memory ibftStructure))]

def dumpIbftTargetStruct (ibftStructure : Nat) : List IbftReport :=
  if ibftStructure = 0 then [] else [.target ibftStructure]

def dumpIbftExtensionsStruct (ibftStructure : Nat) : List IbftReport :=
  if ibftStructure = 0 then [] else [.extensions ibftStructure]

/-- A turn of the loop over the pairs. -/
def dumpNicTarget (ibft : Nat) (pair : NicTarget) : List IbftReport :=
  (if pair.nicOffset ≠ 0 then dumpIbftNicStruct memory (ibft + pair.nicOffset.toNat) else []) ++
    if pair.targetOffset ≠ 0 then dumpIbftTargetStruct (ibft + pair.targetOffset.toNat) else []

def dumpAcpiIBFT (ibft : Nat) : List IbftReport :=
  if ibft = 0 then []
  else
    let ibftStructure := ibft + ibftHeaderSize
    dumpIbftControlStruct memory ibftStructure ++
      (if initiatorOffset memory ibftStructure ≠ 0 then
        dumpIbftInitiatorStruct (ibft + (initiatorOffset memory ibftStructure).toNat)
      else []) ++
      (nicTargets memory ibftStructure).flatMap (dumpNicTarget memory ibft) ++
      if extensionsOffset memory ibftStructure ≠ 0 then
        dumpIbftExtensionsStruct (ibft + (extensionsOffset memory ibftStructure).toNat)
      else []

end Dump

/-! ## Tables -/

/-- A table whose control structure has any number of pairs behind its first ten bytes. -/
structure IbftTable where
  memory : Memory
  address : Nat
  notNull : address ≠ 0
  pairs : List NicTarget
  length : memory.readLe (address + 50) 2 = nic0Offset + 4 * pairs.length
  stored : memory.Holds (address + 58) (pairs.flatMap NicTarget.encode)

namespace IbftTable

variable (table : IbftTable)

/-- The structure at an offset, unless the offset is zero. -/
def structureAt (offset : UInt16) (report : Nat → IbftReport) : List IbftReport :=
  if offset = 0 then [] else [report (table.address + offset.toNat)]

def nicReport (ibftStructure : Nat) : IbftReport :=
  .nic ibftStructure (pciDevice (pciLocation table.memory ibftStructure))

/-- The control structure with the pairs, the initiator, then for each pair its NIC and its
target, and the extensions. -/
def reportsFor (pairs : List NicTarget) : List IbftReport :=
  let control := table.address + ibftHeaderSize
  let extensions := extensionsOffset table.memory control
  let initiator := initiatorOffset table.memory control
  .control control (ibftLength table.memory control) extensions initiator pairs ::
    (table.structureAt initiator .initiator ++
      pairs.flatMap (fun pair => table.structureAt pair.nicOffset table.nicReport ++
        table.structureAt pair.targetOffset .target) ++
      table.structureAt extensions .extensions)

/-- No other location is printed like this one. -/
def Determines (location : UInt16) : Prop :=
  ∀ other : UInt16, pciDevice other = pciDevice location → other = location

def location (pair : NicTarget) : UInt16 :=
  pciLocation table.memory (table.address + pair.nicOffset.toNat)

structure DumpsPairs : Prop where
  reports : dumpAcpiIBFT table.memory table.address = table.reportsFor table.pairs
  locations : ∀ pair ∈ table.pairs, pair.nicOffset ≠ 0 → Determines (table.location pair)

/-- Two pairs at least, and no NIC with a location above 13. -/
def SmallLocations : Prop :=
  2 ≤ table.pairs.length ∧
    ∀ pair ∈ table.pairs, pair.nicOffset ≠ 0 → (table.location pair).toNat ≤ 13

instance : Decidable table.SmallLocations := inferInstanceAs (Decidable (_ ∧ _))

end IbftTable

/-! ## Locations -/

theorem and_FF (value : Nat) : value &&& 0xFF = value % 2 ^ 8 :=
  Nat.and_two_pow_sub_one_eq_mod value 8

theorem pciDevice_eq_iff (first second : UInt16) :
    pciDevice first = pciDevice second ↔
      first.toNat % 2 ^ 8 = second.toNat % 2 ^ 8 ∧ (first.toNat > 8 ↔ second.toNat > 8) ∧
        (first.toNat > 13 ↔ second.toNat > 13) := by
  have bit : ∀ (one other : Prop) [Decidable one] [Decidable other] (mask : Nat), 1 &&& mask = 1 →
      ((if one then 1 else 0) &&& mask = (if other then 1 else 0) &&& mask ↔ (one ↔ other)) := by
    intro one other _ _ mask odd
    by_cases first : one
    · by_cases second : other
      · simp [first, second]
      · simp [first, second, odd]
    · by_cases second : other
      · simp [first, second, odd]
      · simp [first, second]
  rw [pciDevice, pciDevice, PciDevice.mk.injEq, and_FF, and_FF, bit _ _ _ rfl, bit _ _ _ rfl]

/-- Above 13 only the bus is left of a location. -/
theorem determines_iff (location : UInt16) :
    IbftTable.Determines location ↔ location.toNat ≤ 13 := by
  have bound := location.toNat_lt
  constructor
  · intro determines
    by_contra large
    -- another location with the same bus
    have other : ∃ value < 2 ^ 16, value ≠ location.toNat ∧ 13 < value ∧
        value % 2 ^ 8 = location.toNat % 2 ^ 8 := by
      by_cases room : location.toNat + 256 < 2 ^ 16
      · exact ⟨location.toNat + 256, room, by omega, by omega, by omega⟩
      · exact ⟨location.toNat - 256, by omega, by omega, by omega, by omega⟩
    obtain ⟨value, fits, differs, above, bus⟩ := other
    have toNat : (UInt16.ofNat value).toNat = value := UInt16.toNat_ofNat_of_lt' fits
    have same := determines (UInt16.ofNat value) (by
      rw [pciDevice_eq_iff, toNat]
      omega)
    rw [← same, toNat] at differs
    exact differs rfl
  · intro small other same
    rw [pciDevice_eq_iff] at same
    have below := other.toNat_lt
    exact UInt16.toNat_inj.mp (by omega)

/-! ## Pairs -/

section Pairs

variable {memory : Memory}

theorem readNicTarget_eq (place : Nat) (pair : NicTarget) (held : memory.Holds place pair.encode) :
    readNicTarget memory place = pair := by
  rw [NicTarget.encode, Memory.holds_append, length_toBytes] at held
  have nic := held.1.readLe_eq pair.nicOffset.toNat_lt
  have target := held.2.readLe_eq pair.targetOffset.toNat_lt
  rw [readNicTarget, ibftField, ibftField, nic, target, UInt16.ofNat_toNat, UInt16.ofNat_toNat]

end Pairs

namespace IbftTable

variable (table : IbftTable)

theorem toNat_ibftLength :
    (ibftLength table.memory (table.address + ibftHeaderSize)).toNat =
      nic0Offset + 4 * table.pairs.length := by
  have length := table.length
  have bound := Memory.readLe_lt table.memory (table.address + 50) 2
  rw [ibftLength, ibftField, ibftHeaderSize, Nat.add_assoc, UInt16.toNat_ofNat']
  exact (Nat.mod_eq_of_lt bound).trans length

/-- Fewer than two pairs make the subtraction wrap. -/
theorem pairCount_eq_iff :
    pairCount table.memory (table.address + ibftHeaderSize) = table.pairs.length ↔
      2 ≤ table.pairs.length := by
  have bound := Memory.readLe_lt table.memory (table.address + 50) 2
  rw [table.length, nic0Offset] at bound
  rw [pairCount, table.toNat_ibftLength, nic0Offset, sizeofIbftControlStructure]
  omega

theorem nicTargets_eq (two : 2 ≤ table.pairs.length) :
    nicTargets table.memory (table.address + ibftHeaderSize) = table.pairs := by
  rw [nicTargets, table.pairCount_eq_iff.mpr two]
  have lengths : ∀ pair : NicTarget, pair.encode.length = 4 := fun _ => rfl
  exact readEntries_of_holds lengths readNicTarget_eq table.pairs _ table.stored

theorem nicTargets_eq_iff :
    nicTargets table.memory (table.address + ibftHeaderSize) = table.pairs ↔
      2 ≤ table.pairs.length := by
  constructor
  · intro same
    rw [← table.pairCount_eq_iff]
    have lengths := congrArg List.length same
    rwa [nicTargets, readEntries, List.length_map, List.length_range] at lengths
  · exact table.nicTargets_eq

/-- The table is not at NULL, and so no structure is. -/
theorem dump_structureAt (offset : UInt16) (report : Nat → IbftReport) :
    (if offset ≠ 0 then
      if table.address + offset.toNat = 0 then [] else [report (table.address + offset.toNat)]
    else []) = table.structureAt offset report := by
  have notNull := table.notNull
  rw [structureAt, ite_not, if_neg (c := table.address + offset.toNat = 0) (by omega)]

theorem dumpNicTarget_eq (pair : NicTarget) :
    dumpNicTarget table.memory table.address pair =
      table.structureAt pair.nicOffset table.nicReport ++
        table.structureAt pair.targetOffset .target := by
  rw [← dump_structureAt, ← dump_structureAt]
  rfl

theorem dumpAcpiIBFT_eq :
    dumpAcpiIBFT table.memory table.address =
      table.reportsFor (nicTargets table.memory (table.address + ibftHeaderSize)) := by
  have notNull := table.notNull
  have control : table.address + ibftHeaderSize ≠ 0 := by omega
  have turns := funext table.dumpNicTarget_eq
  rw [dumpAcpiIBFT, if_neg notNull, reportsFor]
  dsimp only
  rw [turns, dumpIbftControlStruct, if_neg control, ← dump_structureAt, ← dump_structureAt]
  rfl

theorem reportsFor_injective : Function.Injective table.reportsFor := by
  intro first second same
  simp only [reportsFor, List.cons.injEq, IbftReport.control.injEq, true_and] at same
  exact same.1

/-- The dump lists the pairs and is in their order exactly when there are two, and the
locations are determined exactly when they are small. -/
theorem dumpAcpiIBFT_dumpsPairs_iff : table.DumpsPairs ↔ table.SmallLocations := by
  have reports : dumpAcpiIBFT table.memory table.address = table.reportsFor table.pairs ↔
      2 ≤ table.pairs.length := by
    rw [dumpAcpiIBFT_eq, table.reportsFor_injective.eq_iff, nicTargets_eq_iff]
  constructor
  · intro dumps
    refine ⟨reports.mp dumps.reports, fun pair listed used => ?_⟩
    exact (determines_iff _).mp (dumps.locations pair listed used)
  · rintro ⟨two, small⟩
    refine ⟨reports.mpr two, fun pair listed used => ?_⟩
    exact (determines_iff _).mpr (small pair listed used)

end IbftTable

/-- Two NICs, with the locations 0x1001 and 0x1801. -/
def twoNicsIbft : IbftTable where
  memory := Memory.ofBytesAt 0x1030
    ([1, 1, 18, 0, 0, 0, 0, 0, 0, 0, 72, 0, 0, 0, 174, 0, 0, 0] ++ List.replicate 102 0 ++
      [1, 0x10] ++ List.replicate 100 0 ++ [1, 0x18])
  address := 0x1000
  notNull := Memory.secondPage_ne_null
  pairs := [⟨72, 0⟩, ⟨174, 0⟩]
  length := by decide
  stored := by
    unfold Memory.Holds
    decide

theorem not_dumpsPairs_twoNics : ¬ twoNicsIbft.DumpsPairs := by
  intro dumps
  have same : pciDevice (twoNicsIbft.location ⟨174, 0⟩) =
      pciDevice (twoNicsIbft.location ⟨72, 0⟩) := by decide
  have one := dumps.locations ⟨72, 0⟩ List.mem_cons_self (by decide) _ same
  exact absurd one (by decide)

end AppEfi.DumpAcpi
