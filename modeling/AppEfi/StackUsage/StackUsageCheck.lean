import Mathlib.Data.UInt
import Mathlib.Order.Bounds.Basic

/-!
# The stack between two invocations

StackUsageCheckBegin and StackUsageCheckEnd of StackUsage.c.  The first fills the stack with a
signature up to 1KB below its own frame, the second looks for the lowest slot without it, in
the whole stack.  The HOB of the stack is found.
-/

set_option autoImplicit false

namespace AppEfi.StackUsage

def stackUsageSignature : UInt64 := 0x5A5A5A5AA5A5A5A5

def size1KB : Nat := 0x400

def size4KB : Nat := 0x1000

/-- The stack as its HOB gives it: gStackBase and gStackSize. -/
structure Stack where
  stackBase : Nat
  stackSize : Nat
  baseAligned : stackBase % 8 = 0
  sizeAligned : stackSize % 8 = 0
  fits : stackBase + stackSize < 2 ^ 64

/-- The slots by their addresses, and StackUsageStartPoint. -/
structure Machine where
  slots : Nat → UInt64
  startPoint : Option Nat

inductive BeginLine where
  | failToSetVariable
  | tooSmallSpace
  | tag (first last : Nat)
  deriving DecidableEq, Repr

inductive EndLine where
  | fullSpace
  | failToGetVariable
  | stackUsed (beginAddress endAddress used : Nat)
  deriving DecidableEq, Repr

/-- SetMem64. -/
def setMem64 (slots : Nat → UInt64) (buffer length : Nat) (value : UInt64) : Nat → UInt64 :=
  fun slot => if buffer ≤ slot ∧ slot < buffer + length then value else slots slot

section Check

variable (stack : Stack)

/-- `status` is the address of the local variable; `setVariable` tells whether SetVariable
succeeds. -/
def stackUsageCheckBegin (status : Nat) (setVariable : Bool) (machine : Machine) :
    Machine × BeginLine :=
  let beginAddress := status / 8 * 8
  if setVariable = false then (machine, .failToSetVariable)
  else
    let machine := { machine with startPoint := some beginAddress }
    if beginAddress - stack.stackBase ≤ size4KB then (machine, .tooSmallSpace)
    else
      let length := beginAddress - stack.stackBase - size1KB
      ({ machine with slots := setMem64 machine.slots stack.stackBase length stackUsageSignature },
        .tag stack.stackBase (stack.stackBase + length))

/-- The loop over the slots; 0 is the EndAddress that it is entered with. -/
def findEndAddress (slots : Nat → UInt64) (stackEnd ptr : Nat) : Nat :=
  if ptr < stackEnd then
    if slots ptr ≠ stackUsageSignature then ptr else findEndAddress slots stackEnd (ptr + 8)
  else 0
termination_by stackEnd - ptr

def stackUsageCheckEnd (machine : Machine) : EndLine :=
  let endAddress :=
    findEndAddress machine.slots (stack.stackBase + stack.stackSize) stack.stackBase
  if endAddress = 0 then .fullSpace
  else
    match machine.startPoint with
    | none => .failToGetVariable
    | some beginAddress =>
        .stackUsed beginAddress endAddress ((beginAddress + 2 ^ 64 - endAddress) % 2 ^ 64)

end Check

def EndLine.used : EndLine → Option Nat
  | .stackUsed _ _ used => some used
  | _ => none

/-! ## A measured program -/

/-- An invocation with `-begin` that has prepared the stack. -/
structure Prepared where
  stack : Stack
  status : Nat
  before : Machine
  inside : status < stack.stackBase + stack.stackSize
  room : size4KB < status / 8 * 8 - stack.stackBase

namespace Prepared

variable (prepared : Prepared)

def beginAddress : Nat := prepared.status / 8 * 8

def machine : Machine :=
  (stackUsageCheckBegin prepared.stack prepared.status true prepared.before).1

def StackSlot (slot : Nat) : Prop :=
  slot % 8 = 0 ∧ prepared.stack.stackBase ≤ slot ∧
    slot < prepared.stack.stackBase + prepared.stack.stackSize

/-- The prepared region ends 1KB below the address that is measured from. -/
def RegionSlot (slot : Nat) : Prop :=
  slot % 8 = 0 ∧ prepared.stack.stackBase ≤ slot ∧ slot < prepared.beginAddress - size1KB

/-- What the invocation with `-end` reports of the slots that the program has left. -/
def reported (left : Nat → UInt64) : Option Nat :=
  (stackUsageCheckEnd prepared.stack { prepared.machine with slots := left }).used

/-- The program has written these slots of the region and no others. -/
def Writes (written : Set Nat) (left : Nat → UInt64) : Prop :=
  ∀ slot, prepared.RegionSlot slot → slot ∉ written → left slot = prepared.machine.slots slot

end Prepared

/-- A slot of the region without the signature is measured to, and so is the deepest one that
has been written, if its value is another. -/
structure MeasuresRegion (prepared : Prepared) (left : Nat → UInt64) : Prop where
  lowest : ∀ slot,
    IsLeast {slot | prepared.RegionSlot slot ∧ left slot ≠ stackUsageSignature} slot → slot ≠ 0 →
      prepared.reported left = some (prepared.beginAddress - slot)
  deepest : ∀ written slot, prepared.Writes written left → IsLeast written slot →
    prepared.RegionSlot slot → slot ≠ 0 → left slot ≠ stackUsageSignature →
      prepared.reported left = some (prepared.beginAddress - slot)

/-- Where no slot of the region has been overwritten the margin of 1KB is reported. -/
structure ReportsUsage (prepared : Prepared) (left : Nat → UInt64) : Prop
    extends MeasuresRegion prepared left where
  minimum : (∀ slot, prepared.RegionSlot slot → left slot = stackUsageSignature) →
    prepared.reported left = some size1KB

/-- Where no slot of the region has been overwritten, it is measured to the lowest slot above
it without the signature, if there is one. -/
structure ReportsLowestSlot (prepared : Prepared) (left : Nat → UInt64) : Prop
    extends MeasuresRegion prepared left where
  above : (∀ slot, prepared.RegionSlot slot → left slot = stackUsageSignature) →
    ∀ slot, IsLeast {slot | prepared.StackSlot slot ∧ left slot ≠ stackUsageSignature} slot →
      prepared.reported left =
        some ((prepared.beginAddress + 2 ^ 64 - slot) % 2 ^ 64)
  margin : (∀ slot, prepared.RegionSlot slot → left slot = stackUsageSignature) →
    left (prepared.beginAddress - size1KB) ≠ stackUsageSignature →
      prepared.reported left = some size1KB
  full : (∀ slot, prepared.StackSlot slot → left slot = stackUsageSignature) →
    prepared.reported left = none

section Scan

variable {slots : Nat → UInt64} {stackEnd ptr : Nat}

theorem findEndAddress_of_all
    (all : ∀ slot, slot % 8 = ptr % 8 → ptr ≤ slot → slot < stackEnd →
      slots slot = stackUsageSignature) : findEndAddress slots stackEnd ptr = 0 := by
  induction ptr using findEndAddress.induct slots stackEnd with
  | case1 ptr inside other => exact absurd (all ptr rfl (Nat.le_refl _) inside) other
  | case2 ptr inside same ih =>
      rw [findEndAddress, if_pos inside, if_neg same]
      exact ih fun slot aligned after => all slot (by omega) (by omega)
  | case3 ptr outside => rw [findEndAddress, if_neg outside]

/-- The scan stops at the lowest slot without the signature, whatever is above it. -/
theorem findEndAddress_of_isLeast {slot : Nat}
    (least : IsLeast {slot | slot % 8 = ptr % 8 ∧ ptr ≤ slot ∧ slot < stackEnd ∧
      slots slot ≠ stackUsageSignature} slot) : findEndAddress slots stackEnd ptr = slot := by
  induction ptr using findEndAddress.induct slots stackEnd with
  | case1 ptr inside other =>
      rw [findEndAddress, if_pos inside, if_pos other]
      exact Nat.le_antisymm least.1.2.1 (least.2 ⟨rfl, Nat.le_refl _, inside, other⟩)
  | case2 ptr inside same ih =>
      rw [findEndAddress, if_pos inside, if_neg same]
      obtain ⟨⟨aligned, after, below, other⟩, lower⟩ := least
      have notHere : slot ≠ ptr := by
        rintro rfl
        exact same other
      refine ih ⟨⟨by omega, by omega, below, other⟩, ?_⟩
      rintro further ⟨furtherAligned, furtherAfter, furtherBelow, furtherOther⟩
      exact lower ⟨by omega, by omega, furtherBelow, furtherOther⟩
  | case3 ptr outside => exact absurd (Nat.lt_of_le_of_lt least.1.2.1 least.1.2.2.1) outside

end Scan

namespace Prepared

variable {prepared : Prepared} {left : Nat → UInt64} {slot : Nat}

theorem machine_eq (prepared : Prepared) :
    prepared.machine =
      { slots := setMem64 prepared.before.slots prepared.stack.stackBase
          (prepared.beginAddress - prepared.stack.stackBase - size1KB) stackUsageSignature
        startPoint := some prepared.beginAddress } := by
  have enough := Nat.not_le.mpr prepared.room
  rw [machine, stackUsageCheckBegin, if_neg (by decide)]
  simp only [enough, if_false]
  rfl

theorem reported_eq (prepared : Prepared) (left : Nat → UInt64) :
    prepared.reported left =
      let endAddress := findEndAddress left
        (prepared.stack.stackBase + prepared.stack.stackSize) prepared.stack.stackBase
      if endAddress = 0 then none
      else some ((prepared.beginAddress + 2 ^ 64 - endAddress) % 2 ^ 64) := by
  rw [reported, stackUsageCheckEnd, machine_eq]
  dsimp only
  split
  · rfl
  · rfl

theorem reported_of_isLeast
    (least : IsLeast {slot | prepared.StackSlot slot ∧ left slot ≠ stackUsageSignature} slot)
    (notZero : slot ≠ 0) :
    prepared.reported left = some ((prepared.beginAddress + 2 ^ 64 - slot) % 2 ^ 64) := by
  have aligned := prepared.stack.baseAligned
  have found : findEndAddress left (prepared.stack.stackBase + prepared.stack.stackSize)
      prepared.stack.stackBase = slot := by
    obtain ⟨⟨⟨slotAligned, after, below⟩, other⟩, lower⟩ := least
    refine findEndAddress_of_isLeast ⟨⟨by omega, after, below, other⟩, ?_⟩
    rintro further ⟨furtherAligned, furtherAfter, furtherBelow, furtherOther⟩
    exact lower ⟨⟨by omega, furtherAfter, furtherBelow⟩, furtherOther⟩
  rw [reported_eq, found]
  exact if_neg notZero

theorem reported_of_all
    (all : ∀ slot, prepared.StackSlot slot → left slot = stackUsageSignature) :
    prepared.reported left = none := by
  have aligned := prepared.stack.baseAligned
  have found : findEndAddress left (prepared.stack.stackBase + prepared.stack.stackSize)
      prepared.stack.stackBase = 0 :=
    findEndAddress_of_all fun slot slotAligned after below => all slot ⟨by omega, after, below⟩
  rw [reported_eq, found]
  rfl

theorem stackSlot_of_regionSlot (region : prepared.RegionSlot slot) : prepared.StackSlot slot := by
  obtain ⟨aligned, after, below⟩ := region
  have inside := prepared.inside
  have begins : prepared.beginAddress ≤ prepared.status := Nat.div_mul_le_self _ _
  exact ⟨aligned, after, by omega⟩

/-- Below the end of the region there is nothing of the stack but the region. -/
theorem regionSlot_of_lt (stackSlot : prepared.StackSlot slot)
    (below : slot < prepared.beginAddress - size1KB) : prepared.RegionSlot slot :=
  ⟨stackSlot.1, stackSlot.2.1, below⟩

theorem stackSlot_margin (prepared : Prepared) :
    prepared.StackSlot (prepared.beginAddress - size1KB) := by
  have inside := prepared.inside
  have room := prepared.room
  rw [StackSlot, beginAddress, size1KB]
  rw [size4KB] at room
  omega

theorem beginAddress_lt (prepared : Prepared) : prepared.beginAddress < 2 ^ 64 := by
  have inside := prepared.inside
  have fits := prepared.stack.fits
  have begins : prepared.beginAddress ≤ prepared.status := Nat.div_mul_le_self _ _
  omega

theorem beginAddress_sub (prepared : Prepared) (below : slot ≤ prepared.beginAddress) :
    (prepared.beginAddress + 2 ^ 64 - slot) % 2 ^ 64 = prepared.beginAddress - slot := by
  have bound := prepared.beginAddress_lt
  omega

/-- The lowest slot of the region is the lowest of the stack. -/
theorem isLeast_stack
    (least : IsLeast {slot | prepared.RegionSlot slot ∧ left slot ≠ stackUsageSignature} slot) :
    IsLeast {slot | prepared.StackSlot slot ∧ left slot ≠ stackUsageSignature} slot := by
  refine ⟨⟨stackSlot_of_regionSlot least.1.1, least.1.2⟩, ?_⟩
  rintro further ⟨stackSlot, other⟩
  by_contra lower
  have below : further < prepared.beginAddress - size1KB :=
    Nat.lt_trans (Nat.not_le.mp lower) least.1.1.2.2
  exact lower (least.2 ⟨regionSlot_of_lt stackSlot below, other⟩)

/-- A slot of the region that has not been written has the signature. -/
theorem slots_of_regionSlot (region : prepared.RegionSlot slot) :
    prepared.machine.slots slot = stackUsageSignature := by
  obtain ⟨_, after, below⟩ := region
  rw [machine_eq]
  exact if_pos ⟨after, by omega⟩

theorem reported_of_lowest
    (least : IsLeast {slot | prepared.RegionSlot slot ∧ left slot ≠ stackUsageSignature} slot)
    (notZero : slot ≠ 0) : prepared.reported left = some (prepared.beginAddress - slot) := by
  have below : slot ≤ prepared.beginAddress :=
    (Nat.le_of_lt least.1.1.2.2).trans (Nat.sub_le _ _)
  rw [reported_of_isLeast (isLeast_stack least) notZero, beginAddress_sub prepared below]

/-- Below the deepest written slot the region still has the signature. -/
theorem isLeast_of_deepest {written : Set Nat} (writes : prepared.Writes written left)
    (deepest : IsLeast written slot) (region : prepared.RegionSlot slot)
    (other : left slot ≠ stackUsageSignature) :
    IsLeast {slot | prepared.RegionSlot slot ∧ left slot ≠ stackUsageSignature} slot := by
  refine ⟨⟨region, other⟩, ?_⟩
  rintro further ⟨furtherRegion, furtherOther⟩
  by_contra lower
  have unwritten : further ∉ written := fun member => lower (deepest.2 member)
  apply furtherOther
  rw [writes further furtherRegion unwritten, slots_of_regionSlot furtherRegion]

end Prepared

section Report

variable (prepared : Prepared) (left : Nat → UInt64)

theorem measuresRegion : MeasuresRegion prepared left where
  lowest _ least notZero := Prepared.reported_of_lowest least notZero
  deepest _ _ writes deepest region notZero other :=
    Prepared.reported_of_lowest (Prepared.isLeast_of_deepest writes deepest region other) notZero

theorem reported_margin
    (untouched : ∀ slot, prepared.RegionSlot slot → left slot = stackUsageSignature)
    (other : left (prepared.beginAddress - size1KB) ≠ stackUsageSignature) :
    prepared.reported left = some size1KB := by
  have room := prepared.room
  have large : size4KB < prepared.beginAddress :=
    Nat.lt_of_lt_of_le room (Nat.sub_le _ _)
  have least : IsLeast {slot | prepared.StackSlot slot ∧ left slot ≠ stackUsageSignature}
      (prepared.beginAddress - size1KB) := by
    refine ⟨⟨prepared.stackSlot_margin, other⟩, ?_⟩
    rintro further ⟨stackSlot, furtherOther⟩
    by_contra lower
    exact furtherOther (untouched further
      (Prepared.regionSlot_of_lt stackSlot (Nat.not_le.mp lower)))
  have size : size1KB < size4KB := by decide
  have distance : prepared.beginAddress - (prepared.beginAddress - size1KB) = size1KB := by
    omega
  rw [Prepared.reported_of_isLeast least (by omega),
    prepared.beginAddress_sub (Nat.sub_le _ _), distance]

theorem reportsLowestSlot : ReportsLowestSlot prepared left where
  toMeasuresRegion := measuresRegion prepared left
  above untouched slot least := by
    refine Prepared.reported_of_isLeast least ?_
    rintro rfl
    -- The slot at 0 would be one of the region.
    refine least.1.2 (untouched 0 (Prepared.regionSlot_of_lt least.1.1 ?_))
    have large : size4KB < prepared.beginAddress :=
      Nat.lt_of_lt_of_le prepared.room (Nat.sub_le _ _)
    have size : size1KB < size4KB := by decide
    omega
  margin := reported_margin prepared left
  full := Prepared.reported_of_all

end Report

/-- An invocation whose frame is at 0x3800 in a stack from 0x1000 to 0x4000. -/
def preparedAt0x3800 : Prepared where
  stack :=
    { stackBase := 0x1000
      stackSize := 0x3000
      baseAligned := rfl
      sizeAligned := rfl
      fits := by decide }
  status := 0x3800
  before := { slots := fun _ => 0, startPoint := none }
  inside := by decide
  room := by decide

/-- The margin has been left with the signature, for instance by an invocation with `-begin`
further up. -/
theorem not_reportsUsage_signedMargin :
    ¬ ReportsUsage preparedAt0x3800 fun slot =>
      if slot < 0x3800 then stackUsageSignature else 0 := by
  intro reports
  have begins : preparedAt0x3800.beginAddress = 0x3800 := rfl
  have minimum := reports.minimum fun slot region => if_pos (by
    have below := region.2.2
    rw [begins, size1KB] at below
    omega)
  have least : IsLeast {slot | preparedAt0x3800.StackSlot slot ∧
      (if slot < 0x3800 then stackUsageSignature else 0) ≠ stackUsageSignature} 0x3800 := by
    refine ⟨⟨⟨rfl, by decide, by decide⟩, by decide⟩, ?_⟩
    rintro further ⟨_, other⟩
    by_contra lower
    exact other (if_pos (Nat.not_le.mp lower))
  have nothing := Option.some.inj
    ((Prepared.reported_of_isLeast least (by decide)).symm.trans minimum)
  rw [begins] at nothing
  exact absurd nothing (by decide)

end AppEfi.StackUsage
