import Mathlib.Data.List.Basic
import Mathlib.Tactic.NormNum

/-!
# Reading a file from whichever volume has it

ReadFileFromVol and ReadFileToBufferEx with ScanFs.  A volume is given by how the services and
the allocations go for it.  The locals that are handed to ReadFileFromVol are part of the
state: what it does not set keeps the value of the volume before.
-/

set_option autoImplicit false

namespace AppEfi.CoreDump

/-- A status, of which only errors have a code. -/
abbrev EfiStatus := Except Nat Unit

def efiNotFound : Nat := 14

def efiNoMapping : Nat := 17

/-- A volume with what comes of the calls for the file that is looked for. -/
structure Volume where
  handleProtocol : EfiStatus
  openVolume : EfiStatus
  openFile : EfiStatus
  infoAllocated : Bool
  getInfo : EfiStatus
  bufferAllocated : Bool
  read : EfiStatus
  content : List UInt8
  content_length : content.length < 2 ^ 64

inductive Pointer where
  | null
  | uninitialised
  /-- To memory of the caller. -/
  | callers
  | pool (id : Nat)
  deriving DecidableEq, Repr

/-- The outputs `*ThisVol`, `*BufferSize` and `*Buffer`, the locals TempBufferSize and
TempBuffer, the pools by their numbers and what FreePool was called for.  A size without a
value is uninitialised. -/
structure State where
  thisVol : Option Nat
  bufferSize : Option Nat
  buffer : Pointer
  tempBufferSize : Option Nat
  tempBuffer : Pointer
  pools : List (List UInt8)
  freed : List Pointer
  deriving DecidableEq, Repr

def State.allocate (state : State) (pool : List UInt8) : State :=
  { state with pools := state.pools ++ [pool] }

def State.freePool (state : State) (pointer : Pointer) : State :=
  { state with freed := pointer :: state.freed }

section Read

variable (bits : Nat)

/-- `(UINTN) FileInfo->FileSize + sizeof(CHAR16)`. -/
def Volume.tempBufferSize (volume : Volume) : Nat :=
  (volume.content.length % 2 ^ bits + 2) % 2 ^ bits

/-- The bytes that Read gives for a buffer of that size. -/
def Volume.readBytes (volume : Volume) : List UInt8 :=
  volume.content.take (volume.tempBufferSize bits)

/-- The pool behind Read. -/
def Volume.readPool (volume : Volume) : List UInt8 :=
  volume.readBytes bits ++
    List.replicate (volume.tempBufferSize bits - (volume.readBytes bits).length) 0

/-- The state when ReadFileFromVol comes to its end. -/
def State.received (state : State) (volume : Volume) : State :=
  { state.allocate (volume.readPool bits) with
    tempBufferSize := some (volume.readBytes bits).length
    tempBuffer := .pool state.pools.length }

/-- `ReadFileFromVol`.  Without a pool it returns the Status of the service before.  The pool
of FileInfo is freed in any case and not among the pools. -/
def readFileFromVol (volume : Volume) (state : State) : EfiStatus × State :=
  match volume.openVolume with
  | .error status => (.error status, state)
  | .ok () =>
    match volume.openFile with
    | .error status => (.error status, state)
    | .ok () =>
      if volume.infoAllocated = false then (.ok (), state)
      else
        match volume.getInfo with
        | .error status => (.error status, state)
        | .ok () =>
          if volume.bufferAllocated = false then (.ok (), state)
          else
            match volume.read with
            | .error status =>
                (.error status,
                  (state.allocate (List.replicate (volume.tempBufferSize bits) 0)).freePool
                    (.pool state.pools.length))
            | .ok () => (.ok (), state.received bits volume)

/-- Vol and the locals, as they are recorded in the outputs. -/
def State.record (state : State) (index : Nat) : State :=
  { state with
    thisVol := some index
    bufferSize := state.tempBufferSize
    buffer := state.tempBuffer }

/-- The walk through the volumes from `index` on, and the test behind it. -/
def scan : Nat → List Volume → State → EfiStatus × State
  | _, [], state =>
      match state.thisVol with
      | none => (.error efiNotFound, state)
      | some _ => (.ok (), state)
  | index, volume :: rest, state =>
      match volume.handleProtocol with
      | .error _ => scan (index + 1) rest state
      | .ok () =>
          match readFileFromVol bits volume state with
          | (.error _, after) => scan (index + 1) rest after
          | (.ok (), after) =>
              match after.thisVol with
              | some _ =>
                  (.error efiNoMapping, (after.freePool after.tempBuffer).freePool after.buffer)
              | none => scan (index + 1) rest (after.record index)

end Read

/-- The volumes that LocateHandleBuffer finds; it leaves no handles when it fails. -/
structure FileSystems where
  bits : Nat
  located : Option (List Volume)
  bits_eq : bits = 32 ∨ bits = 64

def FileSystems.volumes (systems : FileSystems) : List Volume := systems.located.getD []

/-- What the caller has in the outputs, and what it has freed. -/
structure Caller where
  thisVol : Option Nat
  bufferSize : Option Nat
  buffer : Pointer
  freed : List Pointer
  freed_callers : ∀ pointer ∈ freed, pointer = .callers

def Caller.state (caller : Caller) : State where
  thisVol := caller.thisVol
  bufferSize := caller.bufferSize
  buffer := caller.buffer
  tempBufferSize := none
  tempBuffer := .uninitialised
  pools := []
  freed := caller.freed

/-- `ReadFileToBufferEx` with ScanFs and arguments that are not NULL. -/
def readFileToBufferEx (systems : FileSystems) (caller : Caller) : EfiStatus × State :=
  match systems.located with
  | none => (.error efiNotFound, caller.state)
  | some volumes =>
      scan systems.bits 0 volumes
        { caller.state with thisVol := none, bufferSize := some 0, buffer := .null }

/-! ## What the function is for -/

/-- Every service and allocation goes well for the volume. -/
def Volume.yields (volume : Volume) : Bool :=
  volume.handleProtocol.isOk && volume.openVolume.isOk && volume.openFile.isOk &&
    volume.infoAllocated && volume.getInfo.isOk && volume.bufferAllocated && volume.read.isOk

/-- An allocation fails behind services that all went well. -/
def Volume.allocationFails (volume : Volume) : Bool :=
  volume.handleProtocol.isOk && volume.openVolume.isOk && volume.openFile.isOk &&
    (!volume.infoAllocated || volume.getInfo.isOk && !volume.bufferAllocated)

/-- The volumes that yield the file, with their places. -/
def yielding (volumes : List Volume) : List (Volume × Nat) :=
  volumes.zipIdx.filter fun entry => entry.1.yields

/-- `*Buffer` is neither freed nor uninitialised. -/
def State.Clean (state : State) : Prop :=
  state.buffer ≠ .uninitialised ∧ state.buffer ∉ state.freed

/-- The outputs are the volume, the size of its file and a pool with the whole of it. -/
structure Describes (entry : Volume × Nat) (state : State) : Prop where
  thisVol : state.thisVol = some entry.2
  bufferSize : state.bufferSize = some entry.1.content.length
  buffer : ∃ id pool, state.buffer = .pool id ∧ state.pools[id]? = some pool ∧
    pool.take entry.1.content.length = entry.1.content
  clean : state.Clean

structure ReadsTheFile (volumes : List Volume) (outcome : EfiStatus × State) : Prop where
  success : outcome.1 = .ok () ↔ ∃ entry, yielding volumes = [entry]
  describes : outcome.1 = .ok () → ∀ entry ∈ yielding volumes, Describes entry outcome.2
  clean : outcome.1 ≠ .ok () → outcome.2.Clean

end AppEfi.CoreDump
