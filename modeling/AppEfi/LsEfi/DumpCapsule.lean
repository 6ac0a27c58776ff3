import AppEfi.LsEfi.IsNestedFmpCapsule
import AppEfi.LsEfi.WrittenFiles

/-!
# The buffer of a capsule

DumpCapsule in LsEfiDump.c shows the capsule that ReadFileToBuffer has put into a pool, and frees
Buffer at Done whether the file was read or not.
-/

set_option autoImplicit false

namespace AppEfi.LsEfi.Support

open AppEfi.Dialogue
open AppEfi.Ledger
open AppEfi.Reading

/-! ## What is read through Buffer -/

/-- The GUIDs of the two formats, the ESRT, and
EFI_FIRMWARE_MANAGEMENT_CAPSULE_IMAGE_HEADER_INIT_VERSION of the package with the header. -/
structure CapsuleSystem where
  gWindowsUxCapsuleGuid : Nat
  gEfiFmpCapsuleGuid : Nat
  esrt : Option (List Nat)
  initVersion : Nat

section Show

variable (memory : Memory) (system : CapsuleSystem)

/-- CapsuleGuid, HeaderSize, Flags and CapsuleImageSize. -/
def showCapsuleHeader (capsuleHeader : UInt64) : Reading Unit := do
  look memory capsuleHeader.toNat 16
  look memory (capsuleHeader + 16).toNat 4
  look memory (capsuleHeader + 20).toNat 4
  look memory (capsuleHeader + 24).toNat 4

def dumpUxCapsule (capsuleHeader : UInt64) : Reading Unit := do
  showCapsuleHeader memory capsuleHeader
  let imagePayload := capsuleHeader + 28
  look memory imagePayload.toNat 1
  look memory (imagePayload + 1).toNat 1
  look memory (imagePayload + 2).toNat 1
  look memory (imagePayload + 4).toNat 4
  look memory (imagePayload + 8).toNat 4
  look memory (imagePayload + 12).toNat 4

/-- The turn of the second loop of DumpFmpCapsule. -/
def dumpFmpPayload (fmpCapsuleHeader : UInt64) (index : Nat) : Reading Unit := do
  let itemOffset ← read memory (fmpCapsuleHeader + 8 + 8 * UInt64.ofNat index).toNat 8
  let fmpImageHeader := fmpCapsuleHeader + UInt64.ofNat itemOffset
  look memory fmpImageHeader.toNat 4
  look memory (fmpImageHeader + 4).toNat 16
  look memory (fmpImageHeader + 20).toNat 1
  look memory (fmpImageHeader + 24).toNat 4
  look memory (fmpImageHeader + 28).toNat 4
  let version ← read memory fmpImageHeader.toNat 4
  if system.initVersion ≤ version then look memory (fmpImageHeader + 32).toNat 8 else pure ()

def dumpFmpCapsule (capsuleHeader : UInt64) : Reading Unit := do
  showCapsuleHeader memory capsuleHeader
  let headerSize ← read memory (capsuleHeader + 16).toNat 4
  let fmpCapsuleHeader := capsuleHeader + UInt64.ofNat headerSize
  look memory fmpCapsuleHeader.toNat 4
  let embeddedDriverCount ← read memory (fmpCapsuleHeader + 4).toNat 2
  let payloadItemCount ← read memory (fmpCapsuleHeader + 6).toNat 2
  forIndexes
    (fun index => look memory (fmpCapsuleHeader + 8 + 8 * UInt64.ofNat index).toNat 8)
    (embeddedDriverCount + payloadItemCount) 0
  forIndexes (dumpFmpPayload memory system fmpCapsuleHeader) payloadItemCount
    embeddedDriverCount

/-- What DumpCapsule does with a capsule up to Done. -/
def showCapsule (capsuleHeader : UInt64) : Reading Unit := do
  let capsuleGuid ← read memory capsuleHeader.toNat 16
  if capsuleGuid = system.gWindowsUxCapsuleGuid then dumpUxCapsule memory capsuleHeader
  else do
    let capsuleGuid ← read memory capsuleHeader.toNat 16
    if capsuleGuid = system.gEfiFmpCapsuleGuid then dumpFmpCapsule memory system capsuleHeader
    else pure ()
    let nested ←
      isNestedFmpCapsule memory system.gEfiFmpCapsuleGuid system.esrt capsuleHeader
    if nested then do
      showCapsuleHeader memory capsuleHeader
      let headerSize ← read memory (capsuleHeader + 16).toNat 4
      dumpFmpCapsule memory system (capsuleHeader + UInt64.ofNat headerSize)
    else pure ()

end Show

section Capsule

variable (shell : Shell) (memory : Memory) (system : CapsuleSystem) (fuel : Nat)

def readRanges (buffer : Nat) : List Range → Calls Unit
  | [] => pure ()
  | range :: rest => do
      tell (.readBuffer buffer range)
      readRanges buffer rest

/-- The reads of a capsule whose file lies in a pool, beside which is `memory`.  All loops are
counted, so that any fuel will do. -/
def readCapsule (buffer : Nat) (data : List UInt8) : Calls Unit :=
  readRanges buffer
    ((showCapsule (memory.write buffer data) system (UInt64.ofNat buffer)).run fuel).lines

/-- DumpCapsule behind ReadFileToBuffer.  `stack` is what lay where Buffer is, which only a
success has set. -/
def dumpRead (stack : Nat) : ReadStatus → Calls ReadStatus
  | .success buffer data => do
      readCapsule memory system fuel buffer data
      tell (.freePool buffer)
      pure (.success buffer data)
  | failed => do
      tell (.freePool stack)
      pure failed

def dumpCapsule (capsuleName : Argument) (stack : Nat) : Calls ReadStatus := do
  let status ← readFileToBuffer shell capsuleName
  dumpRead memory system fuel stack status

end Capsule

/-! ## The pools -/

section Pools

variable {shell : Shell} {memory : Memory} {system : CapsuleSystem} {fuel : Nat}

theorem readRanges_owns (buffer : Nat) (ranges : List Range) :
    Owns Call.move {.pool buffer} (readRanges buffer ranges) fun _ => {.pool buffer} := by
  induction ranges with
  | nil => exact Owns.pure rfl
  | cons range rest ih =>
      have one : Owns Call.move {.pool buffer} (tell (Call.readBuffer buffer range))
          fun _ => {.pool buffer} := Owns.tell rfl rfl
      exact one.bind fun _ => ih

/-- The capsule's pool is read and then freed. -/
theorem dumpRead_owns (stack buffer : Nat) (data : List UInt8) :
    Owns Call.move {.pool buffer} (dumpRead memory system fuel stack (.success buffer data))
      fun _ => 0 :=
  (readRanges_owns buffer _).bind fun _ => (freePool_owns buffer).bind fun _ => Owns.pure rfl

theorem dumpRead_failed {status : ReadStatus} (stack : Nat) (history : List Call)
    (failed : ∀ buffer data, status ≠ .success buffer data) :
    (dumpRead memory system fuel stack status history).2 = history ++ [.freePool stack] := by
  cases status with
  | success buffer data => exact absurd rfl (failed buffer data)
  | _ => rfl

/-- Behind a failure the pointer on the stack is freed, and what ReadFileToBuffer has left is
lost. -/
theorem dumpRead_loses {status : ReadStatus} {stack : Nat} {history : List Call}
    (garbage : .pool stack ∉ held Call.move history)
    (failed : ∀ buffer data, status ≠ .success buffer data) :
    ¬ Orderly Call.move (dumpRead memory system fuel stack status history).2 ∧
      held Call.move (dumpRead memory system fuel stack status history).2 =
        held Call.move history := by
  rw [dumpRead_failed stack history failed]
  constructor
  · intro orderly
    have taken := (orderly_concat.mp orderly).2
    exact absurd (Multiset.singleton_le.mp taken) garbage
  · rw [held_concat, Call.move, Move.release, Move.apply, add_zero]
    exact (Multiset.sub_singleton _ _).trans (Multiset.erase_of_notMem garbage)

end Pools

def noBytes : Memory := Memory.ofBytesAt 0 []

def noEsrt : CapsuleSystem := ⟨1, 2, none, 2⟩

def unreadable : Shell := { oneFile.shell with readFile := fun _ _ _ => none }

end AppEfi.LsEfi.Support
