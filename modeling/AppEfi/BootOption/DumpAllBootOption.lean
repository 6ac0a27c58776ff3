import AppEfi.BootOption.DumpBootOption
import AppEfi.Lib.Traced

/-!
# What a dump of the boot options uses

`DumpAllBootOption` and `DumpBootOption` as programs that list what they do with the buffers
that GetVariable2 gives them.  Its status is printed and not tested.
-/

set_option autoImplicit false

namespace AppEfi.BootOption

open AppEfi.LittleEndian
open AppEfi.Reading

/-- What a call of GetVariable2 leaves in its two results, and the variable's copy, if the
variable was read. -/
structure VariableBuffer where
  memory : Memory
  buffer : Nat
  bufferSize : Nat
  returned : Option Range

def VariableBuffer.range (variableBuffer : VariableBuffer) : Range :=
  ⟨variableBuffer.buffer, variableBuffer.bufferSize⟩

/-- A copy of a variable. -/
structure Copy (value : List UInt8) where
  memory : Memory
  buffer : Nat
  holds : memory.Holds buffer value

/-- GetVariable2: where it puts the copies, by the number of the call, and what its results
are without a variable. -/
structure VariableServices where
  copy : Nat → (value : List UInt8) → Copy value
  failed : Nat → Memory × Nat × Nat

/-- Something that the dump does with a buffer, with the copy that the buffer should be. -/
inductive Use where
  | read (returned : Option Range) (range : Range)
  | free (returned : Option Range)
  | subtract (minuend subtrahend : Nat)

/-- A read lies in the copy, a buffer that is freed is one, and a difference is not below 0. -/
def Use.Proper : Use → Prop
  | .read returned range => ∃ copy ∈ returned, range.Inside copy
  | .free returned => returned.isSome
  | .subtract minuend subtrahend => subtrahend ≤ minuend

section Dump

variable (services : VariableServices) (store : Variables)
variable (convertDevicePathToText : Memory → Nat → Reading Unit)

def getVariable2 (call : Nat) (name : VariableName) : VariableBuffer :=
  match store name with
  | some value =>
      let copy := services.copy call value
      { memory := copy.memory, buffer := copy.buffer, bufferSize := value.length,
        returned := some ⟨copy.buffer, value.length⟩ }
  | none =>
      let (memory, buffer, bufferSize) := services.failed call
      { memory := memory, buffer := buffer, bufferSize := bufferSize, returned := none }

/-- The reads of `DumpBootOption` up to the optional data, whose place is the value. -/
def readOption (option : VariableBuffer) : Reading Nat := do
  look option.memory option.buffer 4
  look option.memory (option.buffer + 4) 2
  let description := option.buffer + 6
  let characters ← textLength option.memory 2 description
  readText option.memory 2 description
  let filePathList := description + 2 * (characters + 1)
  convertDevicePathToText option.memory filePathList
  let filePathListLength ← read option.memory (option.buffer + 4) 2
  pure (filePathList + filePathListLength)

/-- The bytes that are printed of the optional data. -/
def readOptionalData (option : VariableBuffer) (optionalData : Nat) : Reading Unit :=
  let optionalDataSize := subUintn 8 (option.buffer + option.bufferSize) optionalData
  forIndexes (fun index => look option.memory (optionalData + index) 1) optionalDataSize 0

def usesOfOption (option : VariableBuffer) : Traced Use Unit := do
  let optionalData ← Traced.ofReading (Use.read option.returned)
    (readOption convertDevicePathToText option)
  Traced.emit (Use.subtract (option.buffer + option.bufferSize) optionalData)
  Traced.ofReading (Use.read option.returned) (readOptionalData option optionalData)
  Traced.emit (Use.free option.returned)

/-- The entry of BootOrder at an index. -/
def readEntry (bootOrder : VariableBuffer) (index : Nat) : Reading UInt16 := do
  let bootIndex ← read bootOrder.memory (bootOrder.buffer + 2 * index) 2
  pure (UInt16.ofNat bootIndex)

/-- The option of an entry; its read is the call behind the index of the entry. -/
def optionOf (index : Nat) (bootIndex : UInt16) : VariableBuffer :=
  getVariable2 services store (index + 1) (optionName bootIndex)

def dumpOptions (bootOrder : VariableBuffer) : Nat → Nat → Traced Use Unit
  | 0, _ => pure ()
  | count + 1, index => do
      let bootIndex ← Traced.ofReading (Use.read bootOrder.returned) (readEntry bootOrder index)
      usesOfOption convertDevicePathToText (optionOf services store index bootIndex)
      dumpOptions bootOrder count (index + 1)

def dumpAllBootOption : Traced Use Unit := do
  let bootOrder := getVariable2 services store 0 bootOrderName
  let entries := bootOrder.bufferSize / 2
  Traced.ofReading (Use.read bootOrder.returned)
    (forIndexes (fun index => look bootOrder.memory (bootOrder.buffer + 2 * index) 2) entries 0)
  dumpOptions services store convertDevicePathToText bootOrder entries 0
  Traced.emit (Use.free bootOrder.returned)

/-- Whatever a dump does with a buffer, however far it comes, is proper. -/
def UsesReturned : Prop :=
  Traced.AllLines Use.Proper (dumpAllBootOption services store convertDevicePathToText)

end Dump

/-! ## Options that can be dumped -/

section Fits

variable (convertDevicePathToText : Memory → Nat → Reading Unit)

/-- The place behind a description of so many characters. -/
def filePathListAt (option : VariableBuffer) (characters : Nat) : Nat :=
  option.buffer + 6 + 2 * (characters + 1)

/-- A complete option: the header, a description that ends, a device path and the length of
the path lie in the variable. -/
structure CompleteOption (option : VariableBuffer) : Prop where
  header : 6 ≤ option.bufferSize
  description : TextInside option.memory option.range 2 (option.buffer + 6)
  filePathList : ∀ characters, FirstNul option.memory 2 (option.buffer + 6) characters →
    ReadsInside option.range
      (convertDevicePathToText option.memory (filePathListAt option characters))
  optionalData : ∀ characters, FirstNul option.memory 2 (option.buffer + 6) characters →
    Ends (convertDevicePathToText option.memory (filePathListAt option characters)) () →
      filePathListAt option characters + option.memory.readLe (option.buffer + 4) 2 ≤
        option.buffer + option.bufferSize

/-- The dump of an option comes to its end. -/
def DumpEnds (option : VariableBuffer) : Prop :=
  ∃ characters, FirstNul option.memory 2 (option.buffer + 6) characters ∧
    Ends (convertDevicePathToText option.memory (filePathListAt option characters)) ()

end Fits

section Proofs

variable {services : VariableServices} {store : Variables}
variable {convertDevicePathToText : Memory → Nat → Reading Unit}
variable {option order : VariableBuffer}

theorem ends_readOption {optionalData : Nat} :
    Ends (readOption convertDevicePathToText option) optionalData ↔
      ∃ characters, FirstNul option.memory 2 (option.buffer + 6) characters ∧
        Ends (convertDevicePathToText option.memory (filePathListAt option characters)) () ∧
        optionalData =
          filePathListAt option characters + option.memory.readLe (option.buffer + 4) 2 := by
  simp only [readOption, ends_bind, ends_look, ends_textLength, ends_readText, ends_read,
    ends_pure, exists_const, true_and, exists_eq_left, filePathListAt]
  constructor
  · rintro ⟨characters, first, _, _, ends, same⟩
    exact ⟨characters, first, ends, same⟩
  · rintro ⟨characters, first, ends, same⟩
    exact ⟨characters, first, first.textEnds, (), ends, same⟩

theorem readsInside_readOption :
    ReadsInside option.range (readOption convertDevicePathToText option) ↔
      6 ≤ option.bufferSize ∧ TextInside option.memory option.range 2 (option.buffer + 6) ∧
        ∀ characters, FirstNul option.memory 2 (option.buffer + 6) characters →
          ReadsInside option.range
            (convertDevicePathToText option.memory (filePathListAt option characters)) := by
  have above : option.buffer ≤ option.buffer + 6 := Nat.le_add_right _ _
  have length := @readsInside_textLength option.memory 2 option.buffer option.bufferSize _
    (by decide) above
  have text := @readsInside_readText option.memory 2 option.buffer option.bufferSize _
    (by decide) above
  have first : Range.Inside ⟨option.buffer, 4⟩ option.range ↔ 4 ≤ option.bufferSize := by
    simp [Range.Inside, VariableBuffer.range]
  have second : Range.Inside ⟨option.buffer + 4, 2⟩ option.range ↔ 6 ≤ option.bufferSize :=
    Range.inside_offset
  simp only [readOption, allReads_bind, allReads_look, ends_look, ends_textLength, ends_readText,
    ends_read, allReads_read, allReads_pure, first, second, forall_const, implies_true, and_true]
  constructor
  · rintro ⟨_, header, lengthReads, later⟩
    refine ⟨header, length.mp lengthReads, fun characters found => ?_⟩
    exact ((later characters found).2 found.textEnds).1
  · rintro ⟨header, inside, path⟩
    refine ⟨Nat.le_trans (by decide) header, header, length.mpr inside, ?_⟩
    intro characters found
    exact ⟨text.mpr inside, fun _ => ⟨path characters found, fun _ _ => header⟩⟩

/-- What is done with a copy is proper where it stays inside. -/
theorem proper_read_iff {returned range : Range} :
    Use.Proper (.read (some returned) range) ↔ range.Inside returned := by
  simp [Use.Proper]

theorem allLines_read_iff {Value : Type} {returned : Range} {reading : Reading Value} :
    Traced.AllLines Use.Proper (Traced.ofReading (Use.read (some returned)) reading) ↔
      ReadsInside returned reading := by
  simp only [Traced.allLines_ofReading, proper_read_iff]

/-- A difference that is not below 0 is at most cut off. -/
theorem subUintn_le (width : Nat) {first second : Nat} (ordered : second ≤ first) :
    subUintn width first second ≤ first - second := by
  have split := Nat.div_add_mod second (256 ^ width)
  have small : second % 256 ^ width < 256 ^ width := Nat.mod_lt _ (by positivity)
  have shifted : first + (256 ^ width - second % 256 ^ width) =
      first - second + 256 ^ width * (second / 256 ^ width + 1) := by
    rw [Nat.mul_add, Nat.mul_one]
    omega
  rw [subUintn, shifted, Nat.add_mul_mod_self_left]
  exact Nat.mod_le _ _

/-- The loop over the optional data stays inside, where these begin inside. -/
theorem readsInside_readOptionalData {optionalData : Nat}
    (after : option.buffer ≤ optionalData)
    (before : optionalData ≤ option.buffer + option.bufferSize) :
    ReadsInside option.range (readOptionalData option optionalData) := by
  have size := subUintn_le 8 before
  simp only [readOptionalData, allReads_forIndexes, allReads_look]
  intro offset inside _
  rw [Range.Inside, VariableBuffer.range]
  dsimp only
  omega

theorem ends_readOptionalData {optionalData : Nat} (done : Unit) :
    Ends (readOptionalData option optionalData) done := by
  rw [readOptionalData]
  exact ends_forIndexes.mpr fun _ _ => ends_look ()

/-- The dump of an option that was read. -/
theorem allLines_usesOfOption (returned : option.returned = some option.range) :
    Traced.AllLines Use.Proper (usesOfOption convertDevicePathToText option) ↔
      CompleteOption convertDevicePathToText option := by
  have free : Use.Proper (.free (some option.range)) := rfl
  simp only [usesOfOption, returned, Traced.allLines_bind, Traced.allLines_emit,
    Traced.ends_ofReading, Traced.ends_emit, allLines_read_iff, readsInside_readOption,
    ends_readOption, free, forall_const, implies_true, and_true]
  constructor
  · rintro ⟨⟨header, description, filePathList⟩, later⟩
    refine ⟨header, description, filePathList, fun characters found ends => ?_⟩
    exact (later _ ⟨characters, found, ends, rfl⟩).1
  · intro complete
    refine ⟨⟨complete.header, complete.description, complete.filePathList⟩, ?_⟩
    rintro _ ⟨characters, found, ends, rfl⟩
    have before := complete.optionalData characters found ends
    refine ⟨before, readsInside_readOptionalData ?_ before⟩
    rw [filePathListAt]
    omega

/-- The attributes are read all the same. -/
theorem not_allLines_usesOfOption (absent : option.returned = none) :
    ¬ Traced.AllLines Use.Proper (usesOfOption convertDevicePathToText option) := by
  intro all
  simp only [usesOfOption, absent, Traced.allLines_bind, Traced.allLines_ofReading, readOption,
    allReads_bind, allReads_look] at all
  obtain ⟨copy, returned, _⟩ := all.1.1
  cases returned

theorem ends_usesOfOption {done : Unit} :
    Traced.Ends (usesOfOption convertDevicePathToText option) done ↔
      DumpEnds convertDevicePathToText option := by
  simp only [usesOfOption, Traced.ends_bind, Traced.ends_ofReading, Traced.ends_emit,
    ends_readOption, ends_readOptionalData, DumpEnds, exists_const, and_true]
  constructor
  · rintro ⟨_, characters, found, ends, _⟩
    exact ⟨characters, found, ends⟩
  · rintro ⟨characters, found, ends⟩
    exact ⟨_, characters, found, ends, rfl⟩

/-! ### The options that are listed -/

theorem getVariable2_present {call : Nat} {name : VariableName} {value : List UInt8}
    (present : store name = some value) :
    (getVariable2 services store call name).returned =
      some (getVariable2 services store call name).range := by
  rw [getVariable2, present]
  rfl

theorem getVariable2_absent {call : Nat} {name : VariableName} (absent : store name = none) :
    (getVariable2 services store call name).returned = none := by
  rw [getVariable2, absent]

/-- The dump of an option is proper where its variable is there and holds a complete one. -/
theorem allLines_optionOf {index : Nat} {bootIndex : UInt16} :
    Traced.AllLines Use.Proper (usesOfOption convertDevicePathToText
        (optionOf services store index bootIndex)) ↔
      store (optionName bootIndex) ≠ none ∧
        CompleteOption convertDevicePathToText (optionOf services store index bootIndex) := by
  cases present : store (optionName bootIndex) with
  | none =>
      have unread := @not_allLines_usesOfOption convertDevicePathToText _
        (@getVariable2_absent services store (index + 1) _ present)
      simp only [optionOf, unread, ne_eq, not_true, false_and]
  | some value =>
      have returned := @getVariable2_present services store (index + 1) _ _ present
      simp only [optionOf, allLines_usesOfOption returned, ne_eq, reduceCtorEq,
        not_false_eq_true, true_and]

def entryAt (order : VariableBuffer) (index : Nat) : UInt16 :=
  UInt16.ofNat (order.memory.readLe (order.buffer + 2 * index) 2)

theorem ends_readEntry {index : Nat} {bootIndex : UInt16} :
    Ends (readEntry order index) bootIndex ↔ bootIndex = entryAt order index := by
  simp only [readEntry, ends_bind, ends_read, ends_pure, exists_eq_left, entryAt]

theorem readsInside_readEntry {index : Nat} (inside : 2 * (index + 1) ≤ order.bufferSize) :
    ReadsInside order.range (readEntry order index) := by
  simp only [readEntry, allReads_bind, allReads_read, allReads_pure, implies_true, and_true]
  exact Range.inside_offset.mpr (by omega)

theorem ends_dumpOptions {count index : Nat} {done : Unit} :
    Traced.Ends (dumpOptions services store convertDevicePathToText order count index) done ↔
      ∀ offset < count, DumpEnds convertDevicePathToText
        (optionOf services store (index + offset) (entryAt order (index + offset))) := by
  induction count generalizing index with
  | zero => simp [dumpOptions]
  | succ count ih =>
      simp only [dumpOptions, Traced.ends_bind, Traced.ends_ofReading, ends_readEntry,
        exists_eq_left, ends_usesOfOption, ih, Nat.forall_lt_succ_left, Nat.add_zero,
        exists_const, Nat.add_right_comm index 1, ← Nat.add_assoc]

/-- The loop comes to an option when the dumps of those before have ended. -/
theorem allLines_dumpOptions (returned : order.returned = some order.range)
    {count index : Nat} (inside : 2 * (index + count) ≤ order.bufferSize) :
    Traced.AllLines Use.Proper
        (dumpOptions services store convertDevicePathToText order count index) ↔
      ∀ offset < count,
        (∀ earlier < offset, DumpEnds convertDevicePathToText
          (optionOf services store (index + earlier) (entryAt order (index + earlier)))) →
        store (optionName (entryAt order (index + offset))) ≠ none ∧
          CompleteOption convertDevicePathToText
            (optionOf services store (index + offset) (entryAt order (index + offset))) := by
  induction count generalizing index with
  | zero => simp [dumpOptions]
  | succ count ih =>
      have first : ReadsInside order.range (readEntry order index) :=
        readsInside_readEntry (by omega)
      have later := @ih (index + 1) (by omega)
      simp only [dumpOptions, returned, Traced.allLines_bind, allLines_read_iff, first,
        Traced.ends_ofReading, ends_readEntry, forall_eq, allLines_optionOf, ends_usesOfOption,
        later, Nat.forall_lt_succ_left, Nat.add_zero, Nat.add_right_comm index 1,
        ← Nat.add_assoc, true_and]
      constructor
      · rintro ⟨here, others⟩
        refine ⟨fun _ => here, fun offset inside both => ?_⟩
        exact others () both.1 offset inside both.2
      · rintro ⟨here, others⟩
        refine ⟨here fun earlier less => absurd less (Nat.not_lt_zero _), ?_⟩
        exact fun _ done offset inside before => others offset inside ⟨done, before⟩

/-! ### The entries of the variable -/

theorem getElem?_decodeOrder {memory : Memory} {address : Nat} (value : List UInt8)
    (held : memory.Holds address value) (index : Nat) (inside : index < value.length / 2) :
    (decodeOrder value)[index]? =
      some (UInt16.ofNat (memory.readLe (address + 2 * index) 2)) := by
  induction value using decodeOrder.induct generalizing address index with
  | case1 low high rest ih =>
      have parts : memory.Holds address ([low, high] ++ rest) := held
      rw [Memory.holds_append] at parts
      rw [decodeOrder]
      cases index with
      | zero =>
          have bytes : memory.bytesAt address 2 = [low, high] := parts.1
          rw [List.getElem?_cons_zero, Nat.mul_zero, Nat.add_zero, Memory.readLe, bytes]
      | succ index =>
          simp only [List.length_cons] at inside
          have place : address + 2 * (index + 1) = address + [low, high].length + 2 * index := by
            simp only [List.length_cons, List.length_nil]
            omega
          rw [List.getElem?_cons_succ, ih parts.2 index (by omega), place]
  | case2 value short =>
      exfalso
      cases value with
      | nil => exact absurd inside (Nat.not_lt_zero _)
      | cons first rest =>
          cases rest with
          | nil => exact absurd inside (by simp)
          | cons second rest => exact short first second rest rfl

/-- The entries of a BootOrder that was read are those of the variable. -/
theorem entryAt_bootOrder {value : List UInt8} (present : store bootOrderName = some value)
    {index : Nat} {bootIndex : UInt16} :
    (bootOrder store)[index]? = some bootIndex ↔
      index < value.length / 2 ∧
        entryAt (getVariable2 services store 0 bootOrderName) index = bootIndex := by
  have entries : bootOrder store = decodeOrder value := by
    rw [bootOrder, present]
  have copied : ∀ index < value.length / 2, (decodeOrder value)[index]? =
      some (entryAt (getVariable2 services store 0 bootOrderName) index) := by
    intro index inside
    rw [getVariable2, present]
    exact getElem?_decodeOrder value (services.copy 0 value).holds index inside
  rw [entries]
  constructor
  · intro listed
    have inside : index < (decodeOrder value).length := (List.getElem?_eq_some_iff.mp listed).1
    rw [length_decodeOrder] at inside
    rw [copied index inside] at listed
    exact ⟨inside, Option.some.inj listed⟩
  · rintro ⟨inside, rfl⟩
    exact copied index inside

/-- Without BootOrder the dump frees what GetVariable2 has left, if it comes so far. -/
theorem not_usesReturned_of_absent (absent : store bootOrderName = none) :
    ¬ UsesReturned services store convertDevicePathToText := by
  intro all
  have unread := @getVariable2_absent services store 0 _ absent
  rw [UsesReturned, dumpAllBootOption] at all
  simp only [unread, Traced.allLines_bind, Traced.allLines_ofReading, allReads_forIndexes,
    allReads_look, Traced.ends_ofReading, ends_forIndexes, ends_look, ends_dumpOptions,
    Traced.allLines_emit, implies_true, forall_const] at all
  obtain ⟨reads, _, freed⟩ := all
  cases entries : (getVariable2 services store 0 bootOrderName).bufferSize / 2 with
  | zero =>
      have nothing := freed fun offset inside => by
        rw [entries] at inside
        exact absurd inside (Nat.not_lt_zero _)
      exact absurd nothing (by simp [Use.Proper])
  | succ count =>
      obtain ⟨copy, returned, _⟩ := reads 0 (by rw [entries]; exact Nat.succ_pos _)
      cases returned

/-- With BootOrder the dump comes to its entries in turn. -/
theorem usesReturned_of_present {value : List UInt8} (present : store bootOrderName = some value) :
    UsesReturned services store convertDevicePathToText ↔
      ∀ index bootIndex, (bootOrder store)[index]? = some bootIndex →
        (∀ earlier < index, ∀ other, (bootOrder store)[earlier]? = some other →
          DumpEnds convertDevicePathToText (optionOf services store earlier other)) →
        store (optionName bootIndex) ≠ none ∧
          CompleteOption convertDevicePathToText (optionOf services store index bootIndex) := by
  have returned := @getVariable2_present services store 0 _ _ present
  have size : (getVariable2 services store 0 bootOrderName).bufferSize = value.length := by
    rw [getVariable2, present]
  have loop := @allLines_dumpOptions services store convertDevicePathToText _ returned
    (value.length / 2) 0 (by rw [size]; omega)
  have entries : ReadsInside (getVariable2 services store 0 bootOrderName).range
      (forIndexes (fun index => look (getVariable2 services store 0 bootOrderName).memory
        ((getVariable2 services store 0 bootOrderName).buffer + 2 * index) 2)
        (value.length / 2) 0) := by
    simp only [allReads_forIndexes, allReads_look]
    intro offset inside _
    exact Range.inside_offset.mpr (by omega)
  have free : Use.Proper (.free (some (getVariable2 services store 0 bootOrderName).range)) :=
    rfl
  rw [UsesReturned, dumpAllBootOption]
  simp only [size, returned, Traced.allLines_bind, allLines_read_iff, entries, loop,
    Traced.allLines_emit, Traced.ends_ofReading, ends_forIndexes, ends_look, free,
    Nat.zero_add, @entryAt_bootOrder services store _ present, implies_true, and_true,
    true_and, forall_const]
  constructor
  · rintro all index _ ⟨inside, rfl⟩ before
    exact all index inside fun earlier less =>
      before earlier less _ ⟨Nat.lt_trans less inside, rfl⟩
  · intro all index inside before
    refine all index _ ⟨inside, rfl⟩ ?_
    rintro earlier less _ ⟨_, rfl⟩
    exact before earlier less

/-- BootOrder and every option that the dump comes to must be there, and the options
complete: the status of a read and the sizes are not tested. -/
theorem usesReturned_iff (services : VariableServices) (store : Variables)
    (convertDevicePathToText : Memory → Nat → Reading Unit) :
    UsesReturned services store convertDevicePathToText ↔
      store bootOrderName ≠ none ∧
        ∀ index bootIndex, (bootOrder store)[index]? = some bootIndex →
          (∀ earlier < index, ∀ other, (bootOrder store)[earlier]? = some other →
            DumpEnds convertDevicePathToText (optionOf services store earlier other)) →
          store (optionName bootIndex) ≠ none ∧
            CompleteOption convertDevicePathToText
              (optionOf services store index bootIndex) := by
  cases present : store bootOrderName with
  | none => simp only [not_usesReturned_of_absent present, ne_eq, not_true, false_and]
  | some value =>
      rw [usesReturned_of_present present]
      exact (and_iff_right (Option.some_ne_none value)).symm

/-- Copies at 0x1000; without a variable there is a NULL and a size of 0. -/
def pagedServices : VariableServices where
  copy _ value :=
    { memory := Memory.ofBytesAt 0x1000 value
      buffer := 0x1000
      holds := Memory.holds_ofBytesAt 0x1000 value }
  failed _ := (fun _ => 0, 0, 0)

/-- BootOrder lists the option 1, which is not there: it is read through the NULL. -/
theorem not_usesReturned_absentOption :
    ¬ UsesReturned pagedServices
      (fun name => if name = bootOrderName then some [1, 0] else none) fun _ _ => pure () := by
  intro uses
  have all := (@usesReturned_of_present pagedServices _ _ [1, 0] rfl).mp uses 0 1 (by decide)
    fun earlier less => absurd less (Nat.not_lt_zero _)
  exact all.1 (by decide)

end Proofs

end AppEfi.BootOption
