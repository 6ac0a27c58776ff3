import AppEfi.Lib.Ranges
import AppEfi.Tcg2.DumpEvent2

/-!
# What `ParseEventData` reads

`ParseEventData` of Tcg2DumpLog.c prints the data of an event as hex and then by
its type.  The typed reads follow the structures of the edk2 header
UefiTcgPlatform.h and their length fields; EventSize does not bound them.  Two
library functions are given addresses in the data, `Print` for `%a` and
`ConvertDevicePathToText`; how far they read is a parameter.
-/

set_option autoImplicit false

namespace AppEfi.Tcg2

open AppEfi.LittleEndian

/-- Every byte of the ranges is one of the buffer's. -/
def ReadsInside (reads : List Range) (buffer bufferSize : Nat) : Prop :=
  ∀ range ∈ reads, ∀ address, range.start ≤ address → address < range.start + range.length →
    buffer ≤ address ∧ address < buffer + bufferSize

section ReadsInside

variable {reads : List Range} {buffer bufferSize : Nat}

theorem ReadsInside.range (inside : ReadsInside reads buffer bufferSize) {range : Range}
    (member : range ∈ reads) (some : 0 < range.length) :
    buffer ≤ range.start ∧ range.start + range.length ≤ buffer + bufferSize := by
  have first := inside range member range.start (Nat.le_refl _) (by omega)
  have last := inside range member (range.start + range.length - 1) (by omega) (by omega)
  omega

theorem readsInside_of_extent
    (extent : ∀ range ∈ reads,
      buffer ≤ range.start ∧ range.start + range.length ≤ buffer + bufferSize) :
    ReadsInside reads buffer bufferSize := by
  intro range member address after before
  have bounds := extent range member
  omega

theorem ReadsInside.subset {some all : List Range} (inside : ReadsInside all buffer bufferSize)
    (part : some ⊆ all) : ReadsInside some buffer bufferSize :=
  fun range member => inside range (part member)

theorem readsInside_append {first second : List Range} :
    ReadsInside (first ++ second) buffer bufferSize ↔
      ReadsInside first buffer bufferSize ∧ ReadsInside second buffer bufferSize :=
  List.forall_mem_append

theorem readsInside_nil : ReadsInside [] buffer bufferSize := by
  intro range member
  cases member

theorem readsInside_cons {range : Range} {rest : List Range} :
    ReadsInside (range :: rest) buffer bufferSize ↔
      (range.length = 0 ∨
        buffer ≤ range.start ∧ range.start + range.length ≤ buffer + bufferSize) ∧
      ReadsInside rest buffer bufferSize := by
  constructor
  · intro inside
    have here := inside.range List.mem_cons_self
    exact ⟨by omega, inside.subset (List.subset_cons_self _ _)⟩
  · rintro ⟨here, later⟩ other member
    rcases List.mem_cons.mp member with rfl | listed
    · intro address after before
      omega
    · exact later other listed

end ReadsInside

/-- How many bytes the library functions read from an address they are given. -/
structure TextReads where
  /-- `Print` for `%a`: up to the NUL of the string. -/
  asciiString : Nat → Nat
  /-- `ConvertDevicePathToText`: up to the end of the device path. -/
  devicePath : Nat → Nat

/-- The cases of the switch over the event type that read differently. -/
inductive EventData where
  /-- The data as characters, or not at all. -/
  | untyped
  | crtmVersion
  | noAction
  | separator
  | uefiVariable
  | imageLoad
  | firmwareBlob
  | firmwareBlob2
  | handoffTables
  | handoffTables2
  | spdmMeasurement
  deriving DecidableEq, Repr

def eventData : Nat → EventData
  | 0x00000003 => .noAction
  | 0x00000004 => .separator
  | 0x00000008 => .crtmVersion
  | 0x80000001 => .uefiVariable
  | 0x80000002 => .uefiVariable
  | 0x80000003 => .imageLoad
  | 0x80000004 => .imageLoad
  | 0x80000005 => .imageLoad
  | 0x80000008 => .firmwareBlob
  | 0x80000009 => .handoffTables
  | 0x8000000A => .firmwareBlob2
  | 0x8000000B => .handoffTables2
  | 0x800000E1 => .spdmMeasurement
  | 0x800000E2 => .spdmMeasurement
  | _ => .untyped

def sizeofSp800155PlatformIdEvent2 : Nat := 36

/-- "SP800-155 Event2". -/
def sp800155PlatformIdEvent2Signature : List UInt8 :=
  [0x53, 0x50, 0x38, 0x30, 0x30, 0x2D, 0x31, 0x35, 0x35, 0x20, 0x45, 0x76, 0x65, 0x6E, 0x74, 0x32]

def sizeofStartupLocalityEvent : Nat := 17

/-- "StartupLocality" with its NUL. -/
def startupLocalityEventSignature : List UInt8 :=
  [0x53, 0x74, 0x61, 0x72, 0x74, 0x75, 0x70, 0x4C, 0x6F, 0x63, 0x61, 0x6C, 0x69, 0x74, 0x79, 0x00]

section Reads

variable (text : TextReads) (memory : Memory)

/-- The address behind a string with its size in front. -/
def nextStrSize (strSize : Nat) : Nat := strSize + 1 + memory.readLe strSize 1

/-- StrSize and StrBuffer, which is printed with `%a` whatever StrSize says. -/
def strReads (strSize : Nat) : List Range :=
  [⟨strSize, 1⟩, ⟨strSize + 1, text.asciiString (strSize + 1)⟩]

/-- The addresses of the five StrSize; FirmwareManufacturerId is in front of the last. -/
def sp800155StrSizes (struct : Nat) : Nat × Nat × Nat × Nat × Nat :=
  let manufacturer := struct + sizeofSp800155PlatformIdEvent2
  let model := nextStrSize memory manufacturer
  let version := nextStrSize memory model
  let firmware := nextStrSize memory version
  (manufacturer, model, version, firmware, nextStrSize memory firmware + 4)

def dumpTcgSp800155PlatformIdEvent2StructReads (struct : Nat) : List Range :=
  let (manufacturer, model, version, firmware, firmwareVersion) := sp800155StrSizes memory struct
  [⟨struct, 16⟩, ⟨struct + 16, 4⟩, ⟨struct + 20, 16⟩] ++ strReads text manufacturer ++
    strReads text model ++ strReads text version ++ strReads text firmware ++
    ⟨firmwareVersion - 4, 4⟩ :: strReads text firmwareVersion

def dumpTcgStartupLocalityEventStructReads (struct : Nat) : List Range :=
  [⟨struct, 16⟩, ⟨struct + 16, 1⟩]

/-- The data are a SP800-155 platform identification. -/
def isSp800155 (eventBuffer eventSize : Nat) : Prop :=
  sizeofSp800155PlatformIdEvent2 ≤ eventSize ∧
    memory.bytesAt eventBuffer 16 = sp800155PlatformIdEvent2Signature

instance decidableIsSp800155 (eventBuffer eventSize : Nat) :
    Decidable (isSp800155 memory eventBuffer eventSize) :=
  inferInstanceAs (Decidable (_ ∧ _))

/-- The `EV_NO_ACTION` case.  Each CompareMem runs only on data that are large enough; the
ones for the Spec-ID signatures read 15 of the 16 bytes and print nothing. -/
def noActionReads (eventBuffer eventSize : Nat) : List Range :=
  if isSp800155 memory eventBuffer eventSize then
    ⟨eventBuffer, 16⟩ :: dumpTcgSp800155PlatformIdEvent2StructReads text memory eventBuffer
  else if sizeofStartupLocalityEvent ≤ eventSize ∧
      memory.bytesAt eventBuffer 16 = startupLocalityEventSignature then
    ⟨eventBuffer, 16⟩ :: dumpTcgStartupLocalityEventStructReads eventBuffer
  else if sizeofStartupLocalityEvent ≤ eventSize then [⟨eventBuffer, 16⟩]
  else []

/-- `UEFI_VARIABLE_DATA`: a GUID, the two lengths, the CHAR16 name, the data. -/
def uefiVariableReads (uefiVariableData : Nat) : List Range :=
  let unicodeNameLength := memory.readLe (uefiVariableData + 16) 8
  let variableDataLength := memory.readLe (uefiVariableData + 24) 8
  [⟨uefiVariableData, 32⟩, ⟨uefiVariableData + 32, unicodeNameLength * 2⟩,
    ⟨uefiVariableData + 32 + unicodeNameLength * 2, variableDataLength⟩]

/-- `EFI_HANDOFF_TABLE_POINTERS` and `UEFI_HANDOFF_TABLE_POINTERS`. -/
def handoffTableReads (handoffTablePointers : Nat) : List Range :=
  [⟨handoffTablePointers, 8⟩,
    ⟨handoffTablePointers + 8, memory.readLe handoffTablePointers 8 * 24⟩]

/-- `TCG_DEVICE_SECURITY_EVENT_DATA_DEVICE_TYPE_PCI`. -/
def deviceTypePci : Nat := 1

/-- The header, the two measurement headers, the measurement and the PCI context. -/
def spdmReads (eventDataHeader : Nat) : List Range :=
  let valueSize := memory.readLe (eventDataHeader + 33) 2
  [⟨eventDataHeader, 28⟩, ⟨eventDataHeader + 28, 4⟩, ⟨eventDataHeader + 32, 3⟩,
    ⟨eventDataHeader + 35, valueSize⟩] ++
    if memory.readLe (eventDataHeader + 24) 4 = deviceTypePci then
      [⟨eventDataHeader + 35 + valueSize, 16⟩]
    else []

/-- The switch over the event type. -/
def typedReads (kind : EventData) (eventBuffer eventSize : Nat) : List Range :=
  match kind with
  | .untyped => [⟨eventBuffer, eventSize⟩]
  -- Index += 2
  | .crtmVersion =>
      (List.range ((eventSize + 1) / 2)).map fun index => ⟨eventBuffer + 2 * index, 1⟩
  | .noAction => noActionReads text memory eventBuffer eventSize
  | .separator => [⟨eventBuffer, 4⟩]
  | .uefiVariable => uefiVariableReads memory eventBuffer
  | .imageLoad =>
      [⟨eventBuffer, 32⟩, ⟨eventBuffer + 32, text.devicePath (eventBuffer + 32)⟩]
  | .firmwareBlob => [⟨eventBuffer, 16⟩]
  | .firmwareBlob2 =>
      let blobDescriptionSize := memory.readLe eventBuffer 1
      [⟨eventBuffer, 1⟩, ⟨eventBuffer + 1, blobDescriptionSize⟩,
        ⟨eventBuffer + 1 + blobDescriptionSize, 16⟩]
  | .handoffTables => handoffTableReads memory eventBuffer
  | .handoffTables2 =>
      let tableDescriptionSize := memory.readLe eventBuffer 1
      [⟨eventBuffer, 1⟩, ⟨eventBuffer + 1, tableDescriptionSize⟩] ++
        handoffTableReads memory (eventBuffer + 1 + tableDescriptionSize)
  | .spdmMeasurement => spdmReads memory eventBuffer

/-- `InternalDumpHex` and the switch. -/
def parseEventDataReads (eventType eventBuffer eventSize : Nat) : List Range :=
  ⟨eventBuffer, eventSize⟩ :: typedReads text memory (eventData eventType) eventBuffer eventSize

/-! ## How far the typed reads go -/

/-- The five strings and the identifier of a SP800-155 platform identification end
before `limit`. -/
def sp800155Ends (limit struct : Nat) : Prop :=
  let (manufacturer, model, version, firmware, firmwareVersion) := sp800155StrSizes memory struct
  ∀ strSize ∈ [manufacturer, model, version, firmware, firmwareVersion],
    strSize + 1 + text.asciiString (strSize + 1) ≤ limit

/-- What the structure that the event type names says of its own length ends before
`limit`. -/
def TypedDataEnds (limit : Nat) (kind : EventData) (eventBuffer eventSize : Nat) : Prop :=
  match kind with
  | .untyped | .crtmVersion => True
  | .noAction =>
      isSp800155 memory eventBuffer eventSize → sp800155Ends text memory limit eventBuffer
  | .separator => eventBuffer + 4 ≤ limit
  | .uefiVariable =>
      eventBuffer + 32 + memory.readLe (eventBuffer + 16) 8 * 2 +
        memory.readLe (eventBuffer + 24) 8 ≤ limit
  | .imageLoad => eventBuffer + 32 + text.devicePath (eventBuffer + 32) ≤ limit
  | .firmwareBlob => eventBuffer + 16 ≤ limit
  | .firmwareBlob2 => eventBuffer + 1 + memory.readLe eventBuffer 1 + 16 ≤ limit
  | .handoffTables => eventBuffer + 8 + memory.readLe eventBuffer 8 * 24 ≤ limit
  | .handoffTables2 =>
      eventBuffer + 1 + memory.readLe eventBuffer 1 + 8 +
        memory.readLe (eventBuffer + 1 + memory.readLe eventBuffer 1) 8 * 24 ≤ limit
  | .spdmMeasurement =>
      eventBuffer + 35 + memory.readLe (eventBuffer + 33) 2 +
        (if memory.readLe (eventBuffer + 24) 4 = deviceTypePci then 16 else 0) ≤ limit

instance decidableSp800155Ends (limit struct : Nat) :
    Decidable (sp800155Ends text memory limit struct) :=
  inferInstanceAs (Decidable (∀ strSize ∈ ([_, _, _, _, _] : List Nat), _ ≤ _))

instance decidableTypedDataEnds (limit : Nat) (kind : EventData) (eventBuffer eventSize : Nat) :
    Decidable (TypedDataEnds text memory limit kind eventBuffer eventSize) :=
  match kind with
  | .untyped => inferInstanceAs (Decidable True)
  | .crtmVersion => inferInstanceAs (Decidable True)
  | .noAction => inferInstanceAs (Decidable (_ → _))
  | .separator => inferInstanceAs (Decidable (_ ≤ _))
  | .uefiVariable => inferInstanceAs (Decidable (_ ≤ _))
  | .imageLoad => inferInstanceAs (Decidable (_ ≤ _))
  | .firmwareBlob => inferInstanceAs (Decidable (_ ≤ _))
  | .firmwareBlob2 => inferInstanceAs (Decidable (_ ≤ _))
  | .handoffTables => inferInstanceAs (Decidable (_ ≤ _))
  | .handoffTables2 => inferInstanceAs (Decidable (_ ≤ _))
  | .spdmMeasurement => inferInstanceAs (Decidable (_ ≤ _))

end Reads

section Ends

variable {text : TextReads} {memory : Memory} {buffer bufferSize eventBuffer eventSize : Nat}

theorem strReads_inside_iff {strSize : Nat} (after : buffer ≤ strSize) :
    ReadsInside (strReads text strSize) buffer bufferSize ↔
      strSize + 1 + text.asciiString (strSize + 1) ≤ buffer + bufferSize := by
  simp only [strReads, readsInside_cons, readsInside_nil, and_true]
  omega

theorem le_nextStrSize (strSize : Nat) : strSize + 1 ≤ nextStrSize memory strSize :=
  Nat.le_add_right _ _

theorem sp800155Reads_inside_iff (after : buffer ≤ eventBuffer)
    (large : sizeofSp800155PlatformIdEvent2 ≤ eventSize)
    (data : eventBuffer + eventSize ≤ buffer + bufferSize) :
    ReadsInside (dumpTcgSp800155PlatformIdEvent2StructReads text memory eventBuffer) buffer
        bufferSize ↔
      sp800155Ends text memory (buffer + bufferSize) eventBuffer := by
  simp only [sizeofSp800155PlatformIdEvent2] at large
  simp only [dumpTcgSp800155PlatformIdEvent2StructReads, sp800155Ends, sp800155StrSizes]
  set manufacturer := eventBuffer + sizeofSp800155PlatformIdEvent2 with manufacturerEq
  set model := nextStrSize memory manufacturer with modelEq
  set version := nextStrSize memory model with versionEq
  set firmware := nextStrSize memory version with firmwareEq
  set id := nextStrSize memory firmware with idEq
  have first := @le_nextStrSize memory manufacturer
  have second := @le_nextStrSize memory model
  have third := @le_nextStrSize memory version
  have fourth := @le_nextStrSize memory firmware
  simp only [sizeofSp800155PlatformIdEvent2] at manufacturerEq
  simp (disch := omega) only [readsInside_append, strReads_inside_iff, readsInside_cons,
    readsInside_nil, and_true, List.forall_mem_cons, List.not_mem_nil, false_imp_iff, implies_true]
  omega

theorem noActionReads_inside_iff (after : buffer ≤ eventBuffer)
    (data : eventBuffer + eventSize ≤ buffer + bufferSize) :
    ReadsInside (noActionReads text memory eventBuffer eventSize) buffer bufferSize ↔
      (isSp800155 memory eventBuffer eventSize →
        sp800155Ends text memory (buffer + bufferSize) eventBuffer) := by
  rw [noActionReads]
  by_cases platform : isSp800155 memory eventBuffer eventSize
  · have large := platform.1
    rw [if_pos platform, readsInside_cons, sp800155Reads_inside_iff after large data]
    simp only [sizeofSp800155PlatformIdEvent2] at large
    constructor
    · rintro ⟨_, ends⟩ _
      exact ends
    · intro ends
      exact ⟨by dsimp only; omega, ends platform⟩
  · rw [if_neg platform]
    simp only [platform, false_imp_iff, iff_true]
    split
    · next locality =>
        have large := locality.1
        simp only [sizeofStartupLocalityEvent] at large
        simp only [dumpTcgStartupLocalityEventStructReads, readsInside_cons, readsInside_nil,
          and_true]
        omega
    · split
      · next large =>
          simp only [sizeofStartupLocalityEvent] at large
          simp only [readsInside_cons, readsInside_nil, and_true]
          omega
      · exact readsInside_nil

/-- With the data of the event in the buffer, the typed reads are in the buffer exactly
when the structure that they follow ends in it. -/
theorem typedReads_inside_iff (kind : EventData) (after : buffer ≤ eventBuffer)
    (data : eventBuffer + eventSize ≤ buffer + bufferSize) :
    ReadsInside (typedReads text memory kind eventBuffer eventSize) buffer bufferSize ↔
      TypedDataEnds text memory (buffer + bufferSize) kind eventBuffer eventSize := by
  cases kind with
  | untyped =>
      simp only [typedReads, TypedDataEnds, readsInside_cons, readsInside_nil, and_true, iff_true]
      omega
  | crtmVersion =>
      simp only [typedReads, TypedDataEnds, iff_true]
      apply readsInside_of_extent
      intro range member
      obtain ⟨index, listed, rfl⟩ := List.mem_map.mp member
      have below := List.mem_range.mp listed
      dsimp only
      omega
  | noAction => exact noActionReads_inside_iff after data
  | separator =>
      simp only [typedReads, TypedDataEnds, readsInside_cons, readsInside_nil, and_true]
      omega
  | uefiVariable =>
      simp only [typedReads, uefiVariableReads, TypedDataEnds, readsInside_cons, readsInside_nil,
        and_true]
      omega
  | imageLoad =>
      simp only [typedReads, TypedDataEnds, readsInside_cons, readsInside_nil, and_true]
      omega
  | firmwareBlob =>
      simp only [typedReads, TypedDataEnds, readsInside_cons, readsInside_nil, and_true]
      omega
  | firmwareBlob2 =>
      simp only [typedReads, TypedDataEnds, readsInside_cons, readsInside_nil, and_true]
      omega
  | handoffTables =>
      simp only [typedReads, handoffTableReads, TypedDataEnds, readsInside_cons, readsInside_nil,
        and_true]
      omega
  | handoffTables2 =>
      simp only [typedReads, handoffTableReads, TypedDataEnds, readsInside_append,
        readsInside_cons, readsInside_nil, and_true]
      omega
  | spdmMeasurement =>
      simp only [typedReads, spdmReads, TypedDataEnds]
      split
      · simp only [readsInside_append, readsInside_cons, readsInside_nil, and_true]
        omega
      · simp only [readsInside_append, readsInside_cons, readsInside_nil, and_true]
        omega

theorem parseEventDataReads_inside_iff (eventType : Nat) (after : buffer ≤ eventBuffer)
    (data : eventBuffer + eventSize ≤ buffer + bufferSize) :
    ReadsInside (parseEventDataReads text memory eventType eventBuffer eventSize) buffer
        bufferSize ↔
      TypedDataEnds text memory (buffer + bufferSize) (eventData eventType) eventBuffer
        eventSize := by
  rw [parseEventDataReads, readsInside_cons, typedReads_inside_iff _ after data]
  exact and_iff_right (by dsimp only; omega)

end Ends

end AppEfi.Tcg2
