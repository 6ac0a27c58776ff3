import AppEfi.BootOption.AddBootOption

/-!
# Adding a boot option that fails

`GetNewBootIndex` and `AddBootOption` where a read, an allocation or a write may fail.
BootOrder is written before the option is built, and nothing takes that back.
-/

set_option autoImplicit false

namespace AppEfi.BootOption

open AppEfi.LittleEndian

/-- How the services answer in one run.  `asserts` tells whether an ASSERT stops it; a NULL
from AllocateZeroPool stops it in either case, where it is written through. -/
structure Outcomes where
  readBootOrder : Bool
  allocateOrder : Bool
  writeOrder : Bool
  filePathList : Option DevicePath
  allocateOption : Bool
  writeOption : Bool
  asserts : Bool

/-- The variables behind a run, and whether it ended with the option written. -/
structure AddResult where
  store : Variables
  written : Bool

section Add

variable (outcomes : Outcomes) (store : Variables)

/-- The allocation and the write of a new BootOrder.  The index is `none` where the run
stops. -/
def writeBootOrder (newIndex : Nat) (newBuffer : List UInt8) : Option UInt16 × Variables :=
  if outcomes.allocateOrder = false then (none, store)
  else if outcomes.writeOrder then
    (some (UInt16.ofNat newIndex), store.set bootOrderName newBuffer)
  else if outcomes.asserts then (none, store)
  else (some (UInt16.ofNat newIndex), store)

/-- Any error of the read is taken for an absent variable. -/
def getNewBootIndexWith : Option UInt16 × Variables :=
  match if outcomes.readBootOrder then store bootOrderName else none with
  | none => writeBootOrder outcomes store 0 (toBytes 2 0)
  | some buffer =>
      match findNewIndex (buffer.length / 2) 0xFFFF 0 with
      | some newIndex => writeBootOrder outcomes store newIndex (toBytes 2 newIndex ++ buffer)
      | none => if outcomes.asserts then (none, store) else (some 0xFFFF, store)

/-- Without a device path its size is 0, and nothing is copied. -/
def encodeOptionWith (filePath : List UInt16) : Option DevicePath → List UInt8
  | some filePathList => encodeOption filePath filePathList
  | none => toBytes 4 loadOptionActive ++ toBytes 2 0 ++ encodeString filePath

def addBootOptionWith (filePath : List UInt16) : AddResult :=
  match getNewBootIndexWith outcomes store with
  | (none, store) => { store := store, written := false }
  | (some newBootIndex, store) =>
      if outcomes.allocateOption = true ∧ outcomes.writeOption = true then
        { store := store.set (optionName newBootIndex)
            (encodeOptionWith filePath outcomes.filePathList)
          written := true }
      else { store := store, written := false }

/-- BootOrder is as it was, unless the option is written. -/
def KeepsBootOrder (filePath : List UInt16) : Prop :=
  (addBootOptionWith outcomes store filePath).written = false →
    (addBootOptionWith outcomes store filePath).store bootOrderName = store bootOrderName

/-- The new BootOrder has been allocated and written, for an index that was found. -/
structure OrderWritten : Prop where
  allocated : outcomes.allocateOrder = true
  written : outcomes.writeOrder = true
  found : outcomes.readBootOrder = true → (bootOrder store).length < 0xFFFF

/-- What a run leaves that does not write the option: BootOrder as it was, or with the new
index in front of its entries where it has been written, and every other variable. -/
structure LeavesBootOrder (filePath : List UInt16) : Prop where
  others : (addBootOptionWith outcomes store filePath).written = false →
    ∀ name ≠ bootOrderName, (addBootOptionWith outcomes store filePath).store name = store name
  kept : (addBootOptionWith outcomes store filePath).written = false →
    ¬ OrderWritten outcomes store →
      (addBootOptionWith outcomes store filePath).store bootOrderName = store bootOrderName
  prepended : (addBootOptionWith outcomes store filePath).written = false →
    OrderWritten outcomes store →
      (outcomes.readBootOrder = false → store bootOrderName = none) →
        bootOrder (addBootOptionWith outcomes store filePath).store =
          (getNewBootIndex store).1 :: bootOrder store

end Add

section Proofs

variable {outcomes : Outcomes} {store : Variables} {filePath : List UInt16}

theorem findNewIndex_eq_none {entries : Nat} (remaining : Nat) :
    ∀ newIndex, newIndex + remaining ≤ entries →
      findNewIndex entries remaining newIndex = none := by
  induction remaining with
  | zero =>
      intro newIndex _
      rfl
  | succ remaining ih =>
      intro newIndex full
      rw [findNewIndex, matchesEntry_eq, if_pos (decide_eq_true (by omega))]
      exact ih (newIndex + 1) (by omega)

/-- A failed run has the variables that GetNewBootIndex left. -/
theorem store_of_failed
    (failed : (addBootOptionWith outcomes store filePath).written = false) :
    (addBootOptionWith outcomes store filePath).store =
      (getNewBootIndexWith outcomes store).2 := by
  rw [addBootOptionWith] at failed ⊢
  split at failed
  · next stopped =>
      simp only [stopped]
  · next found =>
      split at failed
      · cases failed
      · next notWritten =>
          simp only [found, if_neg notWritten]

theorem writeBootOrder_of_written (newIndex : Nat) (newBuffer : List UInt8)
    (allocated : outcomes.allocateOrder = true) (written : outcomes.writeOrder = true) :
    writeBootOrder outcomes store newIndex newBuffer =
      (some (UInt16.ofNat newIndex), store.set bootOrderName newBuffer) := by
  rw [writeBootOrder, if_neg (by simp [allocated]), if_pos written]

theorem writeBootOrder_of_not_written (newIndex : Nat) (newBuffer : List UInt8)
    (failed : ¬ (outcomes.allocateOrder = true ∧ outcomes.writeOrder = true)) :
    (writeBootOrder outcomes store newIndex newBuffer).2 = store := by
  rw [writeBootOrder]
  split
  · rfl
  · next allocated =>
      have notWritten : outcomes.writeOrder ≠ true := fun written =>
        failed ⟨by simpa using allocated, written⟩
      rw [if_neg notWritten]
      split
      · rfl
      · rfl

/-- GetNewBootIndex touches no variable but BootOrder. -/
theorem getNewBootIndexWith_of_ne {name : VariableName} (other : name ≠ bootOrderName) :
    (getNewBootIndexWith outcomes store).2 name = store name := by
  have write : ∀ newIndex newBuffer,
      (writeBootOrder outcomes store newIndex newBuffer).2 name = store name := by
    intro newIndex newBuffer
    by_cases done : outcomes.allocateOrder = true ∧ outcomes.writeOrder = true
    · rw [writeBootOrder_of_written newIndex newBuffer done.1 done.2]
      exact KeyedStore.set_of_ne store newBuffer other
    · rw [writeBootOrder_of_not_written newIndex newBuffer done]
  rw [getNewBootIndexWith]
  split
  · exact write _ _
  · split
    · exact write _ _
    · split
      · rfl
      · rfl

theorem getNewBootIndexWith_of_not_written (not : ¬ OrderWritten outcomes store) :
    (getNewBootIndexWith outcomes store).2 = store := by
  by_cases done : outcomes.allocateOrder = true ∧ outcomes.writeOrder = true
  · -- The write goes through, so that there is no index to write.
    have full : outcomes.readBootOrder = true ∧ 0xFFFF ≤ (bootOrder store).length := by
      by_contra room
      exact not ⟨done.1, done.2, fun read => by
        by_contra more
        exact room ⟨read, Nat.not_lt.mp more⟩⟩
    obtain ⟨read, full⟩ := full
    rw [getNewBootIndexWith, if_pos read]
    cases present : store bootOrderName with
    | none =>
        rw [bootOrder, present] at full
        exact absurd full (by decide)
    | some buffer =>
        rw [bootOrder, present, length_decodeOrder] at full
        dsimp only
        rw [findNewIndex_eq_none 0xFFFF 0 (by omega)]
        dsimp only
        split
        · rfl
        · rfl
  · rw [getNewBootIndexWith]
    split
    · exact writeBootOrder_of_not_written _ _ done
    · split
      · exact writeBootOrder_of_not_written _ _ done
      · split
        · rfl
        · rfl

/-- Where BootOrder is written, and its read does not fail otherwise than for its absence,
GetNewBootIndex does what it does without failures. -/
theorem getNewBootIndexWith_of_written (written : OrderWritten outcomes store)
    (honest : outcomes.readBootOrder = false → store bootOrderName = none) :
    getNewBootIndexWith outcomes store =
      (some (getNewBootIndex store).1, (getNewBootIndex store).2) := by
  have read : (if outcomes.readBootOrder then store bootOrderName else none) =
      store bootOrderName := by
    cases reads : outcomes.readBootOrder with
    | true => rfl
    | false => exact (honest reads).symm
  rw [getNewBootIndexWith, getNewBootIndex, read]
  cases present : store bootOrderName with
  | none => exact writeBootOrder_of_written _ _ written.allocated written.written
  | some buffer =>
      have reads : outcomes.readBootOrder = true := by
        by_contra fails
        rw [honest (by simpa using fails)] at present
        cases present
      have room := written.found reads
      rw [bootOrder, present, length_decodeOrder] at room
      simp only [findNewIndex_eq 0xFFFF 0 (Nat.zero_le _) (by omega : buffer.length / 2 < _)]
      exact writeBootOrder_of_written _ _ written.allocated written.written

theorem room_of_written (written : OrderWritten outcomes store)
    (honest : outcomes.readBootOrder = false → store bootOrderName = none) :
    (bootOrder store).length < 0xFFFF := by
  cases reads : outcomes.readBootOrder with
  | true => exact written.found reads
  | false =>
      rw [bootOrder, honest reads]
      exact Nat.succ_pos _

end Proofs

/-- Without failures the run is that of `addBootOption`. -/
theorem addBootOptionWith_of_success (convertTextToDevicePath : List UInt16 → DevicePath)
    (outcomes : Outcomes) (store : Variables) (filePath : List UInt16)
    (ordered : OrderWritten outcomes store) (read : outcomes.readBootOrder = true)
    (converted : outcomes.filePathList = some (convertTextToDevicePath filePath))
    (option : outcomes.allocateOption = true ∧ outcomes.writeOption = true) :
    addBootOptionWith outcomes store filePath =
      { store := addBootOption convertTextToDevicePath filePath store, written := true } := by
  rw [addBootOptionWith, getNewBootIndexWith_of_written ordered (by simp [read])]
  dsimp only
  rw [if_pos option, converted]
  rfl

theorem addBootOptionWith_leaves (outcomes : Outcomes) (store : Variables)
    (filePath : List UInt16) : LeavesBootOrder outcomes store filePath where
  others failed name other := by
    rw [store_of_failed failed, getNewBootIndexWith_of_ne other]
  kept failed not := by
    rw [store_of_failed failed, getNewBootIndexWith_of_not_written not]
  prepended failed written honest := by
    obtain ⟨buffer, result, decoded⟩ := getNewBootIndex_spec (room_of_written written honest)
    rw [store_of_failed failed, getNewBootIndexWith_of_written written honest, result, ← decoded]
    simp only [bootOrder, KeyedStore.set_self]

/-- BootOrder is written, and then there is no memory for the option. -/
def noMemoryForOption : Outcomes :=
  { readBootOrder := true
    allocateOrder := true
    writeOrder := true
    filePathList := some noNodes
    allocateOption := false
    writeOption := true
    asserts := true }

theorem not_keepsBootOrder_noMemory :
    ¬ KeepsBootOrder noMemoryForOption (storeWith [5] [0]) [0x41] := by
  intro keeps
  have failed : (addBootOptionWith noMemoryForOption (storeWith [5] [0]) [0x41]).written =
      false := by decide
  exact absurd (keeps failed) (by decide)

end AppEfi.BootOption
