import AppEfi.Lib.Fields
import AppEfi.Lib.Reading

/-!
# The platform security block

`DumpHsti` prints a block of ADAPTER_INFO_PLATFORM_SECURITY: its fields, three arrays of
SecurityFeaturesSize bytes and the error string, where a carriage return and a line feed are
written out.  A block in its format is printed in whole and nothing outside of it is read.
-/

set_option autoImplicit false

namespace AppEfi.HstiWsmtDump

open AppEfi.Fields
open AppEfi.LittleEndian
open AppEfi.Loop
open AppEfi.Reading

inductive Line where
  | title
  | version (value : Nat)
  | role (value : Nat)
  | implementationId (text : List Nat)
  | securityFeaturesSize (value : Nat)
  | securityFeatures (name : String) (features : List Nat)
  | errorString (shown : List Nat)
  deriving DecidableEq

/-- The offset of SecurityFeaturesSize behind 256 characters. -/
def offsetFeaturesSize : Nat := 520

/-- `sizeof (ADAPTER_INFO_PLATFORM_SECURITY)`. -/
def sizeofHsti : Nat := 524

/-- What is printed for ErrorChar: `\\r`, `\\n` or the character. -/
def escape (errorChar : Nat) : List Nat :=
  if errorChar = 0x0D then [0x5C, 0x72]
  else if errorChar = 0x0A then [0x5C, 0x6E]
  else [errorChar]

section Dump

variable (memory : Memory)

def textTurnOf (shown : Nat → List Nat) (state : Nat × List Nat) :
    Reading (Control (Nat × List Nat) (List Nat)) := do
  let character ← read memory state.1 2
  pure (if character = 0 then .stop state.2
    else .next (state.1 + 2, state.2 ++ shown character))

/-- The characters in front of the zero. -/
def printText (shown : Nat → List Nat) (address : Nat) (printed : List Nat) :
    Reading (List Nat) :=
  repeatTurns (textTurnOf memory shown) (address, printed)

/-- `for (Index = 0; Index < count; Index++) Print (L"%02x ", ...)`. -/
def printFeatures : Nat → Nat → Reading (List Nat)
  | 0, _ => pure []
  | count + 1, address => do
      let feature ← read memory address 1
      let rest ← printFeatures count (address + 1)
      pure (feature :: rest)

def dumpHsti (hsti : Nat) : Reading (List Line) := do
  let version ← read memory hsti 4
  let role ← read memory (hsti + 4) 4
  let implementationId ← printText memory (fun character => [character]) (hsti + 8) []
  let size ← read memory (hsti + offsetFeaturesSize) 4
  let required ← printFeatures memory size (hsti + sizeofHsti)
  let implemented ← printFeatures memory size (hsti + sizeofHsti + size)
  let verified ← printFeatures memory size (hsti + sizeofHsti + size + size)
  let errorString ← printText memory escape (hsti + sizeofHsti + size + size + size) []
  pure [.title, .version version, .role role, .implementationId implementationId,
    .securityFeaturesSize size, .securityFeatures "Required" required,
    .securityFeatures "Implemented" implemented, .securityFeatures "Verified" verified,
    .errorString errorString]

end Dump

/-! ## The format -/

def units (text : List Nat) : List UInt8 := text.flatMap (toBytes 2)

def IsText (text : List Nat) : Prop := ∀ character ∈ text, character ≠ 0 ∧ character < 2 ^ 16

/-- The three arrays are of one length. -/
structure Hsti where
  version : Nat
  role : Nat
  implementationId : List Nat
  required : List UInt8
  implemented : List UInt8
  verified : List UInt8
  errorString : List Nat

namespace Hsti

/-- The zeros behind the text fill up its 256 characters. -/
def encode (hsti : Hsti) : List UInt8 :=
  Fields.encode [⟨4, hsti.version⟩, ⟨4, hsti.role⟩] ++
    (units (hsti.implementationId ++ List.replicate (256 - hsti.implementationId.length) 0) ++
    (Fields.encode [⟨4, hsti.required.length⟩] ++
    (hsti.required ++ (hsti.implemented ++ (hsti.verified ++ units (hsti.errorString ++ [0]))))))

structure Valid (hsti : Hsti) : Prop where
  version : hsti.version < 256 ^ 4
  role : hsti.role < 256 ^ 4
  implementationId : IsText hsti.implementationId
  ends : hsti.implementationId.length < 256
  size : hsti.required.length < 256 ^ 4
  implemented : hsti.implemented.length = hsti.required.length
  verified : hsti.verified.length = hsti.required.length
  errorString : IsText hsti.errorString

def lines (hsti : Hsti) : List Line :=
  [.title, .version hsti.version, .role hsti.role, .implementationId hsti.implementationId,
    .securityFeaturesSize hsti.required.length,
    .securityFeatures "Required" (hsti.required.map UInt8.toNat),
    .securityFeatures "Implemented" (hsti.implemented.map UInt8.toNat),
    .securityFeatures "Verified" (hsti.verified.map UInt8.toNat),
    .errorString (hsti.errorString.flatMap escape)]

end Hsti

/-! ## Texts and arrays -/

section Parts

variable {memory : Memory} {address : Nat}

@[simp] theorem length_units (text : List Nat) : (units text).length = 2 * text.length := by
  induction text with
  | nil => rfl
  | cons character rest ih =>
      rw [units, List.flatMap_cons, List.length_append, length_toBytes, ← units, ih,
        List.length_cons]
      omega

/-- A text that lies in memory with its zero is read to the zero and not further. -/
theorem printText_stored {text : List Nat} {shown : Nat → List Nat} (isText : IsText text)
    (held : memory.Holds address (units (text ++ [0]))) (printed : List Nat) :
    Ends (printText memory shown address printed) (printed ++ text.flatMap shown) ∧
      ∀ outer : Range, outer.start ≤ address →
        address + 2 * (text.length + 1) ≤ outer.start + outer.length →
          ReadsInside outer (printText memory shown address printed) := by
  induction text generalizing address printed with
  | nil =>
      have zero : memory.readLe address 2 = 0 :=
        Memory.Holds.readLe_eq (by simpa [units] using held) (by decide)
      have turn : Ends (textTurnOf memory shown (address, printed)) (.stop printed) := by
        simp [textTurnOf, zero]
      have stops : Ends (printText memory shown address printed) printed :=
        ends_repeatTurns_cases.mpr (Or.inl turn)
      refine ⟨by simpa using stops, fun outer above below => ?_⟩
      rw [ReadsInside, printText, allReads_unfoldTurn, unfoldTurn, allReads_bind]
      refine ⟨?_, fun outcome ends => ?_⟩
      · simp only [textTurnOf, allReads_bind, allReads_read, Range.Inside]
        exact ⟨⟨above, below⟩, fun _ _ => allReads_pure _⟩
      · rw [ends.unique turn]
        exact allReads_pure _
  | cons character rest ih =>
      obtain ⟨nonzero, small⟩ := isText character List.mem_cons_self
      rw [List.cons_append, units, List.flatMap_cons, Memory.holds_append, length_toBytes] at held
      have load : memory.readLe address 2 = character := held.1.readLe_eq small
      have turn : Ends (textTurnOf memory shown (address, printed))
          (.next (address + 2, printed ++ shown character)) := by
        simp [textTurnOf, load, nonzero]
      obtain ⟨ends, reads⟩ := ih (fun other member => isText other (List.mem_cons_of_mem _ member))
        held.2 (printed ++ shown character)
      constructor
      · rw [List.flatMap_cons, ← List.append_assoc]
        exact ends_repeatTurns_cases.mpr (Or.inr ⟨_, turn, ends⟩)
      · intro outer above below
        rw [List.length_cons] at below
        rw [ReadsInside, printText, allReads_unfoldTurn, unfoldTurn, allReads_bind]
        refine ⟨?_, fun outcome ends => ?_⟩
        · simp only [textTurnOf, allReads_bind, allReads_read, Range.Inside]
          exact ⟨⟨above, by omega⟩, fun _ _ => allReads_pure _⟩
        · rw [ends.unique turn]
          exact reads outer (by omega) (by omega)

theorem printFeatures_stored {features : List UInt8} (held : memory.Holds address features) :
    Ends (printFeatures memory features.length address) (features.map UInt8.toNat) ∧
      ∀ outer : Range, outer.start ≤ address →
        address + features.length ≤ outer.start + outer.length →
          ReadsInside outer (printFeatures memory features.length address) := by
  induction features generalizing address with
  | nil => exact ⟨ends_pure.mpr rfl, fun _ _ _ => allReads_pure _⟩
  | cons feature rest ih =>
      rw [← List.singleton_append, Memory.holds_append, List.length_singleton] at held
      have load : memory.readLe address 1 = feature.toNat := by
        have byte := held.1.apply 0 Nat.one_pos
        simpa [Memory.readLe, Memory.bytesAt, ofBytes] using congrArg UInt8.toNat byte
      obtain ⟨ends, reads⟩ := ih held.2
      constructor
      · rw [List.length_cons, printFeatures, ends_bind]
        refine ⟨_, ends_read.mpr rfl, ends_bind.mpr ⟨_, ends, ends_pure.mpr ?_⟩⟩
        rw [List.map_cons, load]
      · intro outer above below
        rw [List.length_cons] at below
        rw [List.length_cons, printFeatures, ReadsInside, allReads_bind, allReads_read]
        have last : address + 1 ≤ outer.start + outer.length := by omega
        have first : Range.Inside ⟨address, 1⟩ outer := ⟨above, last⟩
        refine ⟨first, fun _ _ => ?_⟩
        exact allReads_bind.mpr ⟨reads outer (by omega) (by omega), fun _ _ => allReads_pure _⟩

end Parts

/-! ## What is shown -/

/-- The characters of a text without a backslash, from what is shown of them. -/
def unescape : List Nat → List Nat
  | 0x5C :: 0x72 :: rest => 0x0D :: unescape rest
  | 0x5C :: 0x6E :: rest => 0x0A :: unescape rest
  | character :: rest => character :: unescape rest
  | [] => []

theorem unescape_cons {character : Nat} (plain : character ≠ 0x5C) (rest : List Nat) :
    unescape (character :: rest) = character :: unescape rest := by
  rw [unescape]
  · rintro after rfl
    exact absurd rfl plain
  · rintro after rfl
    exact absurd rfl plain

theorem unescape_flatMap {text : List Nat} (plain : 0x5C ∉ text) :
    unescape (text.flatMap escape) = text := by
  induction text with
  | nil => rfl
  | cons character rest ih =>
      have here : character ≠ 0x5C := fun same => plain (same ▸ List.mem_cons_self)
      have behind : 0x5C ∉ rest := fun member => plain (List.mem_cons_of_mem _ member)
      rw [List.flatMap_cons, escape]
      by_cases carriage : character = 0x0D
      · subst carriage
        exact congrArg (0x0D :: ·) (ih behind)
      · rw [if_neg carriage]
        by_cases feed : character = 0x0A
        · subst feed
          exact congrArg (0x0A :: ·) (ih behind)
        · rw [if_neg feed, List.singleton_append, unescape_cons here, ih behind]

namespace Hsti

variable {hsti other : Hsti}

/-- Blocks that are printed alike hold the same, but for backslashes. -/
theorem eq_of_lines (plain : 0x5C ∉ hsti.errorString) (otherPlain : 0x5C ∉ other.errorString)
    (same : other.lines = hsti.lines) : other = hsti := by
  have bytes {first second : List UInt8} (alike : first.map UInt8.toNat = second.map UInt8.toNat) :
      first = second :=
    List.map_injective_iff.mpr (fun _ _ => UInt8.toNat_inj.mp) alike
  simp only [lines, List.cons.injEq, Line.version.injEq, Line.role.injEq,
    Line.implementationId.injEq, Line.securityFeatures.injEq, Line.errorString.injEq, true_and,
    and_true] at same
  obtain ⟨version, role, implementationId, _, required, implemented, verified, errorString⟩ := same
  have text := congrArg unescape errorString
  rw [unescape_flatMap plain, unescape_flatMap otherPlain] at text
  obtain ⟨_, _, _, _, _, _, _⟩ := hsti
  obtain ⟨_, _, _, _, _, _, _⟩ := other
  cases version
  cases role
  cases implementationId
  cases bytes required
  cases bytes implemented
  cases bytes verified
  cases text
  rfl

end Hsti

/-! ## A stored block -/

section Stored

variable {memory : Memory} {address : Nat} {hsti : Hsti}

/-- Where the parts of a block lie. -/
structure Parts (memory : Memory) (address : Nat) (hsti : Hsti) : Prop where
  version : memory.readLe address 4 = hsti.version
  role : memory.readLe (address + 4) 4 = hsti.role
  implementationId : memory.Holds (address + 8) (units (hsti.implementationId ++ [0]))
  size : memory.readLe (address + offsetFeaturesSize) 4 = hsti.required.length
  required : memory.Holds (address + sizeofHsti) hsti.required
  implemented : memory.Holds (address + sizeofHsti + hsti.required.length) hsti.implemented
  verified : memory.Holds (address + sizeofHsti + hsti.required.length + hsti.required.length)
    hsti.verified
  errorString : memory.Holds (address + sizeofHsti + hsti.required.length +
    hsti.required.length + hsti.required.length) (units (hsti.errorString ++ [0]))

theorem units_append (first second : List Nat) :
    units (first ++ second) = units first ++ units second := List.flatMap_append

/-- The characters of the identification and the zeros behind them. -/
theorem Hsti.Valid.units_filled (valid : hsti.Valid) :
    units (hsti.implementationId ++ List.replicate (256 - hsti.implementationId.length) 0) =
      units (hsti.implementationId ++ [0]) ++
        units (List.replicate (255 - hsti.implementationId.length) 0) := by
  have ends := valid.ends
  have one : 256 - hsti.implementationId.length = 1 + (255 - hsti.implementationId.length) := by
    omega
  rw [one, List.replicate_add, ← List.append_assoc, units_append]
  rfl

theorem Hsti.length_encode (valid : hsti.Valid) :
    hsti.encode.length =
      sizeofHsti + 3 * hsti.required.length + 2 * (hsti.errorString.length + 1) := by
  have ends := valid.ends
  simp only [Hsti.encode, List.length_append, Fields.length_encode, Fields.size, length_units,
    List.length_replicate, List.length_cons, List.length_nil, valid.implemented, valid.verified,
    sizeofHsti]
  omega

theorem parts_stored (valid : hsti.Valid) (held : memory.Holds address hsti.encode) :
    Parts memory address hsti := by
  have ends := valid.ends
  simp only [Hsti.encode, Memory.holds_append, Fields.length_encode, Fields.size, length_units,
    List.length_append, List.length_replicate] at held
  obtain ⟨fields, text, size, required, implemented, verified, errorString⟩ := held
  have all : hsti.implementationId.length + (256 - hsti.implementationId.length) = 256 := by omega
  rw [all] at size required implemented verified errorString
  rw [valid.implemented] at verified errorString
  rw [valid.verified] at errorString
  rw [valid.units_filled, Memory.holds_append] at text
  have none : ∀ field ∈ ([] : List Field), field.Fits := fun _ member =>
    absurd member List.not_mem_nil
  have numbers := @readLe_places memory [⟨4, hsti.version⟩, ⟨4, hsti.role⟩] address 0 fields
    (List.forall_mem_cons.mpr ⟨valid.version, List.forall_mem_cons.mpr ⟨valid.role, none⟩⟩)
  have counts := @readLe_places memory [⟨4, hsti.required.length⟩] _ 0 size
    (List.forall_mem_cons.mpr ⟨valid.size, none⟩)
  simp only [places, List.forall_mem_cons] at numbers counts
  exact ⟨numbers.1, numbers.2.1, text.1, counts.1, required, implemented, verified, errorString⟩

theorem dumpHsti_parts (valid : hsti.Valid) (parts : Parts memory address hsti) :
    Ends (dumpHsti memory address) hsti.lines ∧
      ReadsInside ⟨address, hsti.encode.length⟩ (dumpHsti memory address) := by
  have length := Hsti.length_encode valid
  have idEnds := valid.ends
  have field (offset : Nat) (le : offset + 4 ≤ sizeofHsti) :
      ReadsInside ⟨address, hsti.encode.length⟩ (read memory (address + offset) 4) :=
    allReads_read.mpr (Range.inside_offset.mpr (by omega))
  obtain ⟨identification, idReads⟩ := @printText_stored memory _ _ (fun character => [character])
    valid.implementationId parts.implementationId []
  obtain ⟨required, requiredReads⟩ := printFeatures_stored parts.required
  obtain ⟨implemented, implementedReads⟩ := printFeatures_stored parts.implemented
  obtain ⟨verified, verifiedReads⟩ := printFeatures_stored parts.verified
  obtain ⟨errorString, errorReads⟩ := @printText_stored memory _ _ escape valid.errorString
    parts.errorString []
  rw [valid.implemented] at implemented implementedReads
  rw [valid.verified] at verified verifiedReads
  rw [List.nil_append, List.flatMap_singleton'] at identification
  -- The parts in the order of the block, each with its end and its reads.
  constructor
  · refine ends_bind.mpr ⟨_, ends_read.mpr parts.version.symm, ?_⟩
    refine ends_bind.mpr ⟨_, ends_read.mpr parts.role.symm, ?_⟩
    refine ends_bind.mpr ⟨_, identification, ?_⟩
    refine ends_bind.mpr ⟨_, ends_read.mpr parts.size.symm, ?_⟩
    refine ends_bind.mpr ⟨_, required, ?_⟩
    refine ends_bind.mpr ⟨_, implemented, ?_⟩
    refine ends_bind.mpr ⟨_, verified, ?_⟩
    exact ends_bind.mpr ⟨_, errorString, ends_pure.mpr rfl⟩
  · refine AllReads.bind (ends_read.mpr parts.version.symm) (field 0 (by decide)) ?_
    refine AllReads.bind (ends_read.mpr parts.role.symm) (field 4 (by decide)) ?_
    refine AllReads.bind identification (idReads _ (Nat.le_add_right _ _) ?_) ?_
    · simp only [sizeofHsti] at length ⊢
      omega
    refine AllReads.bind (ends_read.mpr parts.size.symm)
      (field offsetFeaturesSize (by decide)) ?_
    refine AllReads.bind required (requiredReads _ ?_ ?_) ?_
    · exact Nat.le_add_right _ _
    · simp only
      omega
    refine AllReads.bind implemented (implementedReads _ ?_ ?_) ?_
    · simp only
      omega
    · simp only
      omega
    refine AllReads.bind verified (verifiedReads _ ?_ ?_) ?_
    · simp only
      omega
    · simp only
      omega
    refine AllReads.bind errorString (errorReads _ ?_ ?_) (allReads_pure _)
    · simp only
      omega
    · simp only
      omega

/-- A block in its format is printed in whole, nothing outside of it is read, and no other block
without a backslash in its error string is printed alike. -/
theorem dumpHsti_stored (memory : Memory) (address : Nat) (hsti : Hsti) (valid : hsti.Valid)
    (held : memory.Holds address hsti.encode) :
    Ends (dumpHsti memory address) hsti.lines ∧
      ReadsInside ⟨address, hsti.encode.length⟩ (dumpHsti memory address) ∧
      ∀ other : Hsti, 0x5C ∉ hsti.errorString → 0x5C ∉ other.errorString →
        other.lines = hsti.lines → other = hsti := by
  obtain ⟨ends, reads⟩ := dumpHsti_parts valid (parts_stored valid held)
  exact ⟨ends, reads, fun other plain otherPlain same => Hsti.eq_of_lines plain otherPlain same⟩

end Stored

def oneBlock : Hsti where
  version := 1
  role := 2
  implementationId := [0x41]
  required := [7]
  implemented := [5]
  verified := [4]
  errorString := [0x31, 0x0D, 0x0A]

theorem oneBlock_valid : oneBlock.Valid where
  version := by decide
  role := by decide
  implementationId := by
    intro character member
    cases List.mem_singleton.mp member
    decide
  ends := by decide
  size := by decide
  implemented := rfl
  verified := rfl
  errorString := by
    intro character member
    simp only [oneBlock, List.mem_cons, List.not_mem_nil, or_false] at member
    rcases member with rfl | rfl | rfl
    · decide
    · decide
    · decide

theorem dumpHsti_oneBlock :
    Ends (dumpHsti (Memory.ofBytesAt 0x1000 oneBlock.encode) 0x1000)
      [.title, .version 1, .role 2, .implementationId [0x41], .securityFeaturesSize 1,
        .securityFeatures "Required" [7], .securityFeatures "Implemented" [5],
        .securityFeatures "Verified" [4], .errorString [0x31, 0x5C, 0x72, 0x5C, 0x6E]] :=
  (dumpHsti_stored _ _ oneBlock oneBlock_valid (Memory.holds_ofBytesAt _ _)).1

end AppEfi.HstiWsmtDump
