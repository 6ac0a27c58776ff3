import AppEfi.Lib.Ledger
import AppEfi.Lib.Ranges
import AppEfi.LsEfi.Spi
import Mathlib.Logic.Function.Basic

/-!
# Files and buffers

ReadFileToBuffer and WriteFileFromBuffer of LsEfiSupport.c, of which five other applications have
a copy.  The calls of the shell protocol and of the pool services pass in order, with the reads
of a buffer, and what is on the disk is read off them.
-/

set_option autoImplicit false

namespace AppEfi.LsEfi.Support

open AppEfi.Dialogue
open AppEfi.Ledger

inductive Resource where
  | pool (address : Nat)
  | file (handle : Nat)
  deriving DecidableEq

/-- A call with its answer; without one the status is an error. -/
inductive Call where
  | openFileByName (fileName : Argument) (create : Bool) (handle : Option Nat)
  | getFileSize (handle : Nat) (fileSize : Option Nat)
  /-- The pool of FileInfo, and FileSize. -/
  | getFileInfo (handle : Nat) (fileInfo : Option (Nat × Nat))
  | setFileInfo (handle fileInfo fileSize : Nat) (success : Bool)
  | allocateZeroPool (size : Nat) (buffer : Option Nat)
  | readFile (handle buffer size : Nat) (data : Option (List UInt8))
  | writeFile (handle : Nat) (data : List UInt8) (success : Bool)
  | closeFile (handle : Nat)
  /-- A read through the pointer to a pool. -/
  | readBuffer (buffer : Nat) (range : Range)
  | freePool (buffer : Nat)

def Call.move : Call → Move Resource
  | .openFileByName _ _ (some handle) => Move.acquire (.file handle)
  | .openFileByName _ _ none => Move.keep
  | .getFileSize handle _ => Move.use (.file handle)
  | .getFileInfo handle (some (fileInfo, _)) =>
      { takes := {.file handle}, gives := {.pool fileInfo, .file handle} }
  | .getFileInfo handle none => Move.use (.file handle)
  | .setFileInfo handle fileInfo _ _ =>
      { takes := {.pool fileInfo, .file handle}, gives := {.pool fileInfo, .file handle} }
  | .allocateZeroPool _ (some buffer) => Move.acquire (.pool buffer)
  | .allocateZeroPool _ none => Move.keep
  | .readFile handle buffer _ _ =>
      { takes := {.pool buffer, .file handle}, gives := {.pool buffer, .file handle} }
  | .writeFile handle _ _ => Move.use (.file handle)
  | .closeFile handle => Move.release (.file handle)
  | .readBuffer buffer _ => Move.use (.pool buffer)
  | .freePool buffer => Move.release (.pool buffer)

/-- The services, by what passed before. -/
structure Shell where
  /-- GetShellProtocol finds the protocol. -/
  protocol : Bool
  openFileByName : Argument → Bool → List Call → Option Nat
  getFileSize : Nat → List Call → Option Nat
  getFileInfo : Nat → List Call → Option (Nat × Nat)
  setFileInfo : Nat → List Call → Bool
  allocateZeroPool : Nat → List Call → Option Nat
  readFile : Nat → Nat → List Call → Option (List UInt8)
  writeFile : Nat → List UInt8 → List Call → Bool

/-- The returns of ReadFileToBuffer in their order.  The caller does not get the buffer of
`readFailed`. -/
inductive ReadStatus where
  | notFound
  | openFailed
  | sizeFailed
  | outOfResources
  | readFailed (tempBuffer : Nat)
  | success (buffer : Nat) (data : List UInt8)
  deriving DecidableEq

inductive WriteStatus where
  | notFound
  | openFailed
  | deviceError
  | setFailed
  | writeFailed
  | success
  deriving DecidableEq

abbrev Calls := Dialogue Call

section Files

variable (shell : Shell)

def readOpened (handle : Nat) : Calls ReadStatus := do
  match ← ask (shell.getFileSize handle) (.getFileSize handle) with
  | none => do
      tell (.closeFile handle)
      pure .sizeFailed
  | some tempBufferSize => do
      match ← ask (shell.allocateZeroPool tempBufferSize) (.allocateZeroPool tempBufferSize) with
      | none => do
          tell (.closeFile handle)
          pure .outOfResources
      | some tempBuffer => do
          match ← ask (shell.readFile handle tempBufferSize)
              (.readFile handle tempBuffer tempBufferSize) with
          | none => do
              tell (.closeFile handle)
              pure (.readFailed tempBuffer)
          | some data => do
              tell (.closeFile handle)
              pure (.success tempBuffer data)

def readFileToBuffer (fileName : Argument) : Calls ReadStatus :=
  if shell.protocol then do
    match ← ask (shell.openFileByName fileName false) (.openFileByName fileName false) with
    | none => pure .openFailed
    | some handle => readOpened shell handle
  else pure .notFound

/-- Empty the file contents: whether the code goes on. -/
def emptyContents (handle fileInfo fileSize : Nat) : Calls Bool :=
  if fileSize ≠ 0 then do
    let success ← ask (shell.setFileInfo handle) (.setFileInfo handle fileInfo 0)
    if success then do
      tell (.freePool fileInfo)
      pure true
    else do
      tell (.freePool fileInfo)
      tell (.closeFile handle)
      pure false
  else do
    tell (.freePool fileInfo)
    pure true

def writeOpened (handle : Nat) (data : List UInt8) : Calls WriteStatus := do
  match ← ask (shell.getFileInfo handle) (.getFileInfo handle) with
  | none => do
      tell (.closeFile handle)
      pure .deviceError
  | some (fileInfo, fileSize) => do
      let emptied ← emptyContents shell handle fileInfo fileSize
      if emptied then do
        let success ← ask (shell.writeFile handle data) (.writeFile handle data)
        tell (.closeFile handle)
        pure (if success then .success else .writeFailed)
      else pure .setFailed

def writeFileFromBuffer (fileName : Argument) (data : List UInt8) : Calls WriteStatus :=
  if shell.protocol then do
    match ← ask (shell.openFileByName fileName true) (.openFileByName fileName true) with
    | none => pure .openFailed
    | some handle => writeOpened shell handle data
  else pure .notFound

end Files

/-! ## The disk -/

/-- The contents of the files by name, and the open handles with their names and positions. -/
structure Disk where
  files : Argument → Option (List UInt8)
  handles : Nat → Option (Argument × Nat)

/-- The contents behind a write at a position. -/
def overlay (contents : List UInt8) (position : Nat) (data : List UInt8) : List UInt8 :=
  contents.take position ++ List.replicate (position - contents.length) 0 ++ data ++
    contents.drop (position + data.length)

def resize (contents : List UInt8) (size : Nat) : List UInt8 :=
  contents.take size ++ List.replicate (size - contents.length) 0

namespace Disk

/-- What a successful call does to the file of an open handle. -/
def change (disk : Disk) (handle : Nat)
    (turn : Nat → List UInt8 → List UInt8 × Nat) : Disk :=
  match disk.handles handle with
  | none => disk
  | some (fileName, position) =>
      let (contents, next) := turn position ((disk.files fileName).getD [])
      { files := Function.update disk.files fileName (some contents)
        handles := Function.update disk.handles handle (some (fileName, next)) }

def step (disk : Disk) : Call → Disk
  | .openFileByName fileName create (some handle) =>
      { files :=
          if create then
            Function.update disk.files fileName (some ((disk.files fileName).getD []))
          else disk.files
        handles := Function.update disk.handles handle (some (fileName, 0)) }
  | .setFileInfo handle _ size true =>
      disk.change handle fun position contents => (resize contents size, position)
  | .writeFile handle data true =>
      disk.change handle fun position contents =>
        (overlay contents position data, position + data.length)
  | .readFile handle _ _ (some data) =>
      disk.change handle fun position contents => (contents, position + data.length)
  | .closeFile handle => { disk with handles := Function.update disk.handles handle none }
  | _ => disk

def size (disk : Disk) (handle : Nat) : Nat :=
  match disk.handles handle with
  | none => 0
  | some (fileName, _) => ((disk.files fileName).getD []).length

/-- The disk behind some calls. -/
def after (start : Disk) (history : List Call) : Disk := history.foldl step start

end Disk

/-- The shell tells what is on the disk: a size is the size of the file, and what is read lies
there.  Every call may fail. -/
structure Shell.Honest (shell : Shell) (start : Disk) : Prop where
  opens : ∀ history fileName handle,
    shell.openFileByName fileName false history = some handle →
      (start.after history).files fileName ≠ none
  size : ∀ history handle fileSize fileName position contents,
    shell.getFileSize handle history = some fileSize →
      (start.after history).handles handle = some (fileName, position) →
      (start.after history).files fileName = some contents → fileSize = contents.length
  info : ∀ history handle fileInfo fileSize fileName position contents,
    shell.getFileInfo handle history = some (fileInfo, fileSize) →
      (start.after history).handles handle = some (fileName, position) →
      (start.after history).files fileName = some contents → fileSize = contents.length
  reads : ∀ history handle size data fileName position contents,
    shell.readFile handle size history = some data →
      (start.after history).handles handle = some (fileName, position) →
      (start.after history).files fileName = some contents →
      data = (contents.drop position).take size

/-- A shell that never fails. -/
def Disk.shell (start : Disk) : Shell where
  protocol := true
  openFileByName fileName create history :=
    if create ∨ ((start.after history).files fileName).isSome then some history.length else none
  getFileSize handle history := some ((start.after history).size handle)
  getFileInfo handle history := some (history.length, (start.after history).size handle)
  setFileInfo _ _ := true
  allocateZeroPool _ history := some history.length
  readFile handle size history :=
    ((start.after history).handles handle).bind fun (fileName, position) =>
      ((start.after history).files fileName).map fun contents =>
        (contents.drop position).take size
  writeFile _ _ _ := true

def oneFile : Disk where
  files fileName := if fileName = char16 ['a'] then some [7, 7, 7] else none
  handles _ := none

end AppEfi.LsEfi.Support
