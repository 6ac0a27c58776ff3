import AppEfi.TpmEvLogDump.DumpedEvents

/-!
# The size of a log

`efi_main` of tpm_tcg_proto.c.  It prints what the TCG2 protocol can do, dumps the last
entry of the event log and adds up the size of the log.
-/

set_option autoImplicit false

namespace AppEfi.TpmTcgProto

open AppEfi.LittleEndian
open AppEfi.Printing
open AppEfi.RecordWalk
open AppEfi.Tcg2
open AppEfi.TpmEvLogDump (GetEventLog Supported efiSuccess)

/-- `%d` of the EFI library's `Print`: without an `l` the value is one of 32 bits. -/
structure PercentD where
  shown : Nat → Int
  shown_eq : ∀ value, shown value = Int.bmod value (2 ^ 32)

def PercentD.int32 : PercentD := ⟨fun value => Int.bmod value (2 ^ 32), fun _ => rfl⟩

/-- `EFI_TCG2_BOOT_SERVICE_CAPABILITY`, as far as it is printed. -/
structure Capability where
  structureVersion : UInt8 × UInt8
  protocolVersion : UInt8 × UInt8
  hashAlgorithmBitmap : UInt32
  tpmPresentFlag : UInt8
  supportedEventLogs : UInt32
  numberOfPcrBanks : UInt32
  activePcrBanks : UInt32

inductive PcrBank where
  | sha1
  | sha256
  | sha384
  | sha512
  | sm3256
  deriving DecidableEq, Repr

def PcrBank.mask : PcrBank → UInt32
  | .sha1 => 0x00000001
  | .sha256 => 0x00000002
  | .sha384 => 0x00000004
  | .sha512 => 0x00000008
  | .sm3256 => 0x00000010

inductive Printed where
  | unableToLocate (status : Nat)
  | unableToGetCapability (status : Nat)
  | structureVersion (version : UInt8 × UInt8)
  | protocolVersion (version : UInt8 × UInt8)
  | hashAlgorithmBitmap (value : UInt32)
  | tpmPresentFlag (value : UInt8)
  | supportedEventLogs (value : UInt32)
  | formatSupported (format : TpmEvLogDump.EventLogFormat)
  | numberOfPcrBanks (value : UInt32)
  | bankSupported (bank : PcrBank)
  | unableToGetEventLog (format : TpmEvLogDump.EventLogFormat) (status : Nat)
  | ableToGetEventLog
  | getEventLog (format : TpmEvLogDump.EventLogFormat)
  | firstEntryAddr (address : Nat)
  | lastEntryAddr (address : Nat)
  | dumpLastEntryEvent
  | pcrIndex (value : Nat)
  | eventType (value : Nat)
  | digests (count : Nat)
  | algId (value : UInt16)
  | eventDataSize (value : Nat)
  | totalEventSize (shown : Int)
  deriving DecidableEq, Repr

abbrev Dump := Program Printed Nat

/-- tpmevlogdump.c has the same function. -/
abbrev getDigestAlgLength := TpmEvLogDump.getDigestAlgLength

def sizeofTpmtHa : Nat := 2

def sizeofTcgPcrEventStruc : Nat := 32

def printedIf (condition : Bool) (line : Printed) : List Printed :=
  if condition then [line] else []

def capabilityLines (cap : Capability) : List Printed :=
  [.structureVersion cap.structureVersion, .protocolVersion cap.protocolVersion,
    .hashAlgorithmBitmap cap.hashAlgorithmBitmap, .tpmPresentFlag cap.tpmPresentFlag,
    .supportedEventLogs cap.supportedEventLogs] ++
  printedIf (cap.supportedEventLogs &&& 0x00000002 != 0) (.formatSupported .tcg2) ++
  printedIf (cap.supportedEventLogs &&& 0x00000001 != 0) (.formatSupported .tcg12) ++
  [.numberOfPcrBanks cap.numberOfPcrBanks] ++
  [PcrBank.sha1, .sha256, .sha384, .sha512, .sm3256].flatMap fun bank =>
    printedIf (cap.activePcrBanks &&& bank.mask != 0) (.bankSupported bank)

def printAll (lines : List Printed) : Dump Unit := ⟨lines, .done ()⟩

section Dump

variable (percentD : PercentD) (memory : Memory)

/-- `LastAddr - StartAddr + size` of type UINT64. -/
def totalEventSize (startAddr lastAddr size : Nat) : Nat :=
  (lastAddr + 2 ^ 64 - startAddr + size) % 2 ^ 64

/-- The digest loop, from its UINT8 counter: Pos and size behind it. -/
def dumpDigests (count : Nat) : Nat → UInt8 → Nat → Nat → Dump (Nat × Nat)
  | 0, _, _, _ => outOfFuel
  | fuel + 1, i, pos, size =>
      if i.toNat < count then do
        let lenDigest := getDigestAlgLength (readAlg memory pos)
        print (.algId (readAlg memory pos))
        dumpDigests count fuel (i + 1) (pos + (sizeofTpmtHa + lenDigest))
          (size + (sizeofTpmtHa + lenDigest))
      else pure (pos, size)

/-- What is printed in either format before the last entry. -/
def dumpAddresses (format : TpmEvLogDump.EventLogFormat) (startAddr lastAddr : Nat) :
    Dump Unit := do
  print (.getEventLog format)
  print (.firstEntryAddr startAddr)
  print (.lastEntryAddr lastAddr)
  print .dumpLastEntryEvent

/-- The branch for a TCG_2 log.  To the sizes of PCRIndex and EventType the count of the
digests is added in place of its own size. -/
def dumpTcg2 (fuel startAddr lastAddr : Nat) : Dump Nat := do
  dumpAddresses .tcg2 startAddr lastAddr
  print (.pcrIndex (memory.readLe lastAddr 4))
  print (.eventType (memory.readLe (lastAddr + 4) 4))
  let count := memory.readLe (lastAddr + 8) 4
  print (.digests count)
  let behind ← dumpDigests memory count fuel 0 (lastAddr + 12) (4 + 4 + count)
  let dataSize := memory.readLe behind.1 4
  print (.eventDataSize dataSize)
  print (.totalEventSize
    (percentD.shown (totalEventSize startAddr lastAddr (behind.2 + 4 + dataSize))))
  pure efiSuccess

/-- The branch for a TCG_1_2 log. -/
def dumpTcg12 (startAddr lastAddr : Nat) : Dump Nat := do
  dumpAddresses .tcg12 startAddr lastAddr
  print (.pcrIndex (memory.readLe lastAddr 4))
  print (.eventType (memory.readLe (lastAddr + 4) 4))
  let evDataSize := memory.readLe (lastAddr + 28) 4
  print (.eventDataSize evDataSize)
  print (.totalEventSize
    (percentD.shown (totalEventSize startAddr lastAddr (sizeofTcgPcrEventStruc + evDataSize))))
  pure efiSuccess

/-- The two services of `EFI_TCG2_PROTOCOL` that are called. -/
structure Tcg2Protocol where
  getCapability : Except Nat Capability
  getEventLog : GetEventLog

def dumpEventLog (getEventLog : GetEventLog) (fuel : Nat) : Dump Nat :=
  match getEventLog .tcg2 with
  | .ok (startAddr, lastAddr) => dumpTcg2 percentD memory fuel startAddr lastAddr
  | .error status => do
      print (.unableToGetEventLog .tcg2 status)
      match getEventLog .tcg12 with
      | .ok (startAddr, lastAddr) => do
          print .ableToGetEventLog
          dumpTcg12 percentD memory startAddr lastAddr
      | .error status => do
          print (.unableToGetEventLog .tcg12 status)
          leave status

def efiMain (libLocateProtocol : Except Nat Tcg2Protocol) (fuel : Nat) : Dump Nat :=
  match libLocateProtocol with
  | .error status => do
      print (.unableToLocate status)
      leave status
  | .ok tcg2Protocol =>
      match tcg2Protocol.getCapability with
      | .error status => do
          print (.unableToGetCapability status)
          leave status
      | .ok cap => do
          printAll (capabilityLines cap)
          dumpEventLog percentD memory tcg2Protocol.getEventLog fuel

end Dump

end AppEfi.TpmTcgProto
