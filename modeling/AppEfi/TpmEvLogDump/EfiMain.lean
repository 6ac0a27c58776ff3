import AppEfi.Lib.Printing
import AppEfi.Tcg2.EventSize

/-!
# The event log dump of tpmevlogdump

`efi_main` of tpmevlogdump.c.  It walks a TCG_2 log with one position that the
digest and the event byte loops move, and tests that position against the
address of the last entry, which is dumped by itself at the end.  A counter of
type `int` or `UINTN` counts as far as its loop goes; the one of type UINT8 wraps.
-/

set_option autoImplicit false

namespace AppEfi.TpmEvLogDump

open AppEfi.LittleEndian
open AppEfi.Printing
open AppEfi.Tcg2

inductive EventLogFormat where
  | tcg12
  | tcg2
  deriving DecidableEq, Repr

/-- What is printed.  Lines without a value are left out, except the one for data
that is too large and the one before the last entry.  A signature is the sixteen
characters that are handed to `Print`. -/
inductive Printed where
  | unableToLocate (status : Nat)
  | unableToGetEventLog (format : EventLogFormat) (status : Nat)
  | firstEntryAddr (address : Nat)
  | lastEntryAddr (address : Nat)
  | pcrIndex (value : Nat)
  | eventType (value : Nat)
  | byte (value : UInt8)
  | eventSize (value : Nat)
  | signature (chars : List UInt8)
  | platformClass (value : Nat)
  | specVersionMinor (value : Nat)
  | specVersionMajor (value : Nat)
  | specErrata (value : Nat)
  | uintnSize (value : Nat)
  | numberOfAlgorithms (value : Nat)
  | algorithmId (value : Nat)
  | digestSize (value : Nat)
  | vendorInfoSize (value : Nat)
  | digestsCount (value : Nat)
  | digestsAlgId (value : UInt16)
  | eventTooLarge
  | dumpLastEntryEvent
  deriving DecidableEq, Repr

def efiSuccess : Nat := 0

/-- A part of `efi_main`, with the status of its early returns. -/
abbrev Dump := Program Printed Nat

def getDigestAlgLength (algId : UInt16) : Nat :=
  if algId = 0x0004 then 20
  else if algId = 0x000B then 32
  else if algId = 0x000C then 48
  else if algId = 0x000D then 64
  else 0

/-- `sizeof (TCG_PCREventStruc)`. -/
def sizeofTcgPcrEventStruc : Nat := 32

/-- `sizeof (TCG_EfiSpecIDEventStruct)`, which has numberOfAlgorithms at its end. -/
def sizeofTcgEfiSpecIDEventStruct : Nat := 28

section Dump

variable (memory : Memory)

def dumpByte (pos : Nat) : Dump Nat := do
  print (.byte (memory pos))
  pure (pos + 1)

/-- The test uses the length of all the bytes and the position of this one. -/
def dumpByteBefore (lastAddr length pos : Nat) : Dump Nat :=
  if pos + length > lastAddr then do
    print .eventTooLarge
    leave efiSuccess
  else dumpByte memory pos

/-- The fields of a `TCG_PCREventStruc`. -/
def dumpPcrEventStruc (event : Nat) : Dump Unit := do
  print (.pcrIndex (memory.readLe event 4))
  print (.eventType (memory.readLe (event + 4) 4))
  let _ ← times (dumpByte memory) 20 (event + 8)
  print (.eventSize (memory.readLe (event + 28) 4))

def dumpAlgorithmSize (pos : Nat) : Dump Nat := do
  print (.algorithmId (memory.readLe pos 2))
  print (.digestSize (memory.readLe (pos + 2) 2))
  pure (pos + 4)

/-- "dump first event (EfiSpecIdEvent)", up to vendorInfoSize. -/
def dumpEfiSpecIdEvent (startAddr : Nat) : Dump Nat := do
  dumpPcrEventStruc memory startAddr
  let eventSpecID := startAddr + sizeofTcgPcrEventStruc
  print (.signature (memory.bytesAt eventSpecID 16))
  print (.platformClass (memory.readLe (eventSpecID + 16) 4))
  print (.specVersionMinor (memory.readLe (eventSpecID + 20) 1))
  print (.specVersionMajor (memory.readLe (eventSpecID + 21) 1))
  print (.specErrata (memory.readLe (eventSpecID + 22) 1))
  print (.uintnSize (memory.readLe (eventSpecID + 23) 1))
  print (.numberOfAlgorithms (memory.readLe (eventSpecID + 24) 4))
  let pos ← times (dumpAlgorithmSize memory) (memory.readLe (eventSpecID + 24) 4)
    (startAddr + (sizeofTcgPcrEventStruc + sizeofTcgEfiSpecIDEventStruct))
  print (.vendorInfoSize (memory.readLe pos 1))
  pure pos

def dumpFirstEvent (startAddr lastAddr : Nat) : Dump Nat := do
  let pos ← dumpEfiSpecIdEvent memory startAddr
  times (dumpByteBefore memory lastAddr (memory.readLe pos 1)) (memory.readLe pos 1) (pos + 1)

/-- One `TPMT_HA`.  The byte loop's body gets the digest's length. -/
def dumpTpmtHa (dumpDigestByte : Nat → Nat → Dump Nat) (pos : Nat) : Dump Nat := do
  print (.digestsAlgId (readAlg memory pos))
  times (dumpDigestByte (getDigestAlgLength (readAlg memory pos)))
    (getDigestAlgLength (readAlg memory pos)) (pos + 2)

/-- One iteration of "dump others events". -/
def dumpOtherEvent (lastAddr event : Nat) : Dump Nat := do
  print (.pcrIndex (memory.readLe event 4))
  print (.eventType (memory.readLe (event + 4) 4))
  print (.digestsCount (memory.readLe (event + 8) 4))
  let pos ← times (dumpTpmtHa memory (dumpByteBefore memory lastAddr))
    (memory.readLe (event + 8) 4) (event + 12)
  print (.eventSize (memory.readLe pos 4))
  if pos + 4 + memory.readLe pos 4 > lastAddr then do
    print .eventTooLarge
    leave efiSuccess
  else times (dumpByte memory) (memory.readLe pos 4) (pos + 4)

/-- The digest loop of the last entry, from its UINT8 counter. -/
def dumpLastDigests (count : Nat) : Nat → UInt8 → Nat → Dump Nat
  | 0, _, _ => outOfFuel
  | fuel + 1, i, pos =>
      if i.toNat < count then do
        dumpLastDigests count fuel (i + 1) (← dumpTpmtHa memory (fun _ => dumpByte memory) pos)
      else pure pos

def dumpLastEntryEvent (fuel lastAddr : Nat) : Dump Nat := do
  print .dumpLastEntryEvent
  print (.pcrIndex (memory.readLe lastAddr 4))
  print (.eventType (memory.readLe (lastAddr + 4) 4))
  print (.digestsCount (memory.readLe (lastAddr + 8) 4))
  let pos ← dumpLastDigests memory (memory.readLe (lastAddr + 8) 4) fuel 0 (lastAddr + 12)
  print (.eventSize (memory.readLe pos 4))
  times (dumpByte memory) (memory.readLe pos 4) (pos + 4)

/-- The branch of `efi_main` for a TCG_2 log. -/
def dumpTcg2 (fuel startAddr lastAddr : Nat) : Dump Nat := do
  print (.firstEntryAddr startAddr)
  print (.lastEntryAddr lastAddr)
  let pos ← dumpFirstEvent memory startAddr lastAddr
  let _ ← repeatWhile (fun pos => decide (pos < lastAddr)) (dumpOtherEvent memory lastAddr)
    fuel pos
  let _ ← dumpLastEntryEvent memory fuel lastAddr
  pure efiSuccess

/-- One iteration of the loop over a TCG_1_2 log.  The test leaves out the size of
the `TCG_PCREventStruc`. -/
def dumpEvent12 (lastAddr event : Nat) : Dump Nat := do
  dumpPcrEventStruc memory event
  if event + memory.readLe (event + 28) 4 > lastAddr then do
    print .eventTooLarge
    leave efiSuccess
  else times (dumpByte memory) (memory.readLe (event + 28) 4) (event + sizeofTcgPcrEventStruc)

/-- The branch of `efi_main` for a TCG_1_2 log. -/
def dumpTcg12 (fuel startAddr lastAddr : Nat) : Dump Nat := do
  print (.firstEntryAddr startAddr)
  print (.lastEntryAddr lastAddr)
  let _ ← repeatWhile (fun pos => decide (pos < lastAddr)) (dumpEvent12 memory lastAddr)
    fuel startAddr
  print .dumpLastEntryEvent
  dumpPcrEventStruc memory lastAddr
  let _ ← times (dumpByte memory) (memory.readLe (lastAddr + 28) 4)
    (lastAddr + sizeofTcgPcrEventStruc)
  pure efiSuccess

/-- `EFI_TCG2_PROTOCOL.GetEventLog`: an error status, or StartAddr and LastAddr. -/
abbrev GetEventLog := EventLogFormat → Except Nat (Nat × Nat)

/-- `efi_main`; `LibLocateProtocol` has an error status or the protocol's function. -/
def efiMain (libLocateProtocol : Except Nat GetEventLog) (fuel : Nat) : Dump Nat :=
  match libLocateProtocol with
  | .error status => do
      print (.unableToLocate status)
      leave status
  | .ok getEventLog =>
      match getEventLog .tcg2 with
      | .ok (startAddr, lastAddr) => dumpTcg2 memory fuel startAddr lastAddr
      | .error status => do
          print (.unableToGetEventLog .tcg2 status)
          match getEventLog .tcg12 with
          | .ok (startAddr, lastAddr) => dumpTcg12 memory fuel startAddr lastAddr
          | .error status => do
              print (.unableToGetEventLog .tcg12 status)
              leave status

end Dump

end AppEfi.TpmEvLogDump
