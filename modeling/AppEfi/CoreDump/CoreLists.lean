import AppEfi.Lib.LinkedList
import AppEfi.SmmCore.Records

/-!
# The lists of the cores

The dump tools know no variable of the cores.  They find the head of a list from one of its
entries: behind each entry, at the place of Signature, they expect the list's signature, and
take the first entry without it for the head.  A UINTN has `width` bytes, a list may be longer
than `fuel`.
-/

set_option autoImplicit false

namespace AppEfi.CoreDump

open AppEfi.LinkedList
open AppEfi.SmmCore (signature32)

/-! ## Offsets of DxeCore/Handle.h, DxeCore/Event.h, SmmCore/PiSmmCore.h and Vtd/Map.h -/

section Offsets

variable (width : Nat)

def offsetAllHandles : Nat := width

/-- `Protocols` of IHANDLE. -/
def offsetHandleProtocols : Nat := 3 * width

/-- `AllEntries` of PROTOCOL_ENTRY and of SMI_ENTRY. -/
def offsetAllEntries : Nat := width

def offsetProtocolId : Nat := 3 * width

/-- `Protocols` of PROTOCOL_ENTRY. -/
def offsetEntryProtocols : Nat := 3 * width + 16

def offsetNotify : Nat := 5 * width + 16

/-- `Link` of PROTOCOL_INTERFACE, of SMI_HANDLER, of MAP_INFO and of DATABASE_RECORD. -/
def offsetLink : Nat := width

def offsetByProtocol : Nat := 4 * width

/-- `Handle` of PROTOCOL_INTERFACE. -/
def offsetHandle : Nat := 3 * width

/-- `Protocol` of PROTOCOL_INTERFACE. -/
def offsetProtocol : Nat := 6 * width

def offsetInterface : Nat := 7 * width

/-- `Link` of PROTOCOL_NOTIFY. -/
def offsetNotifyLink : Nat := 2 * width

/-- `Event` of the DXE core's PROTOCOL_NOTIFY. -/
def offsetNotifyEvent : Nat := 4 * width

def offsetSignalLink : Nat := width + 8

def offsetTimerLink : Nat := 16 * width + 24

/-- `SmiEntry` of SMI_HANDLER. -/
def offsetSmiEntry : Nat := 5 * width

end Offsets

def efiHandleSignature : Nat := signature32 'h' 'n' 'd' 'l'

def protocolEntrySignature : Nat := signature32 'p' 'r' 't' 'e'

def protocolInterfaceSignature : Nat := signature32 'p' 'i' 'f' 'c'

def protocolNotifySignature : Nat := signature32 'p' 'r' 't' 'n'

def eventSignature : Nat := signature32 'e' 'v' 'n' 't'

def smiEntrySignature : Nat := signature32 's' 'm' 'i' 'e'

def smiHandlerSignature : Nat := signature32 's' 'm' 'i' 'h'

def databaseRecordSignature : Nat := signature32 'D' 'B' 'R' 'C'

def mapInfoSignature : Nat := signature32 'D' 'M' 'A' 'P'

/-! ## Searches for a head -/

section Searches

variable (width : Nat) (memory : Memory) (fuel : Nat)

/-- `ForwardLink` of LIST_ENTRY. -/
def forwardLink (entry : Nat) : Nat := memory.readLe entry width

def backLink (entry : Nat) : Nat := memory.readLe (entry + width) width

/-- The body of the searches: an entry whose structure, found by BASE_CR, has another
signature.  Signature has `size` bytes. -/
def pickHead (size signature offset entry : Nat) : Option Nat :=
  if memory.readLe (entry - offset) size ≠ signature then some entry else none

/-- The inner `none` leaves the global NULL. -/
def findListHead (size signature offset entry : Nat) : Option (Option Nat) :=
  find (forwardLink width memory) (fun entry => some (pickHead memory size signature offset entry))
    entry fuel

def getDxeCoreHandleList (iHandle : Nat) : Option (Option Nat) :=
  findListHead width memory fuel width efiHandleSignature (offsetAllHandles width)
    (iHandle + offsetAllHandles width)

/-- The inner loop of GetDxeCoreProtocolDatabase, from an interface's entry in the list of its
handle. -/
def pickProtocolEntry (entry : Nat) : Option Nat :=
  let protocolInterface := entry - offsetLink width
  if memory.readLe protocolInterface width = protocolInterfaceSignature then
    let iProtocolEntry := memory.readLe (protocolInterface + offsetProtocol width) width
    if iProtocolEntry ≠ 0 then some iProtocolEntry else none
  else none

/-- The outer loop, from a handle's entry. -/
def pickHandleProtocol (entry : Nat) : Option (Option Nat) :=
  let handle := entry - offsetAllHandles width
  if memory.readLe handle width = efiHandleSignature then
    find (forwardLink width memory) (fun entry => some (pickProtocolEntry width memory entry))
      (handle + offsetHandleProtocols width) fuel
  else some none

def getDxeCoreProtocolDatabase (iHandle : Nat) : Option (Option Nat) :=
  match find (forwardLink width memory) (pickHandleProtocol width memory fuel)
      (iHandle + offsetAllHandles width) fuel with
  | none => none
  | some none => some none
  | some (some iProtocolEntry) =>
      findListHead width memory fuel width protocolEntrySignature (offsetAllEntries width)
        (iProtocolEntry + offsetAllEntries width)

def getDxeCoreEventSignalQueue (iEvent : Nat) : Option (Option Nat) :=
  findListHead width memory fuel width eventSignature (offsetSignalLink width)
    (iEvent + offsetSignalLink width)

def getDxeCoreTimerList (iEvent : Nat) : Option (Option Nat) :=
  findListHead width memory fuel width eventSignature (offsetTimerLink width)
    (iEvent + offsetTimerLink width)

def getSmmCoreHandleList (iHandle : Nat) : Option (Option Nat) :=
  getDxeCoreHandleList width memory fuel iHandle

def getSmmCoreProtocolDatabase (iHandle : Nat) : Option (Option Nat) :=
  getDxeCoreProtocolDatabase width memory fuel iHandle

def getSmmCoreSmiEntryList (smiHandler : Nat) : Option (Option Nat) :=
  findListHead width memory fuel width smiEntrySignature (offsetAllEntries width)
    (memory.readLe (smiHandler + offsetSmiEntry width) width + offsetAllEntries width)

def getSmmCoreRootSmiHandlerList (smiHandler : Nat) : Option (Option Nat) :=
  findListHead width memory fuel width smiHandlerSignature (offsetLink width)
    (smiHandler + offsetLink width)

/-- From the dispatch handle, which is a list entry itself. -/
def getSmmChildCallbackDatabase (dispatchHandle : Nat) : Option (Option Nat) :=
  findListHead width memory fuel 4 databaseRecordSignature (offsetLink width) dispatchHandle

def getIoMmuMapList (iMapping : Nat) : Option (Option Nat) :=
  findListHead width memory fuel 4 mapInfoSignature (offsetLink width)
    (iMapping + offsetLink width)

end Searches

/-! ## Lists that lie in memory -/

section Lists

variable {width size signature offset entry head fuel : Nat} {memory : Memory}
variable {others before after : List Nat}

/-- The search takes the first of the other entries that has no signed structure. -/
theorem findListHead_of_circle (circle : Circle (forwardLink width memory) entry others)
    (enough : others.length < fuel) :
    findListHead width memory fuel size signature offset entry =
      some (others.find? fun other => memory.readLe (other - offset) size ≠ signature) := by
  rw [findListHead, circle.find_eq (fun _ _ => rfl) enough, List.find?_eq_findSome?_guard]
  congr 2
  funext other
  simp [pickHead, Option.guard]

/-- The search finds the head exactly when the list's signature is behind each entry on the
way to it, and not in front of the head. -/
theorem findListHead_eq_head_iff
    (circle : Circle (forwardLink width memory) entry (before ++ head :: after))
    (enough : (before ++ head :: after).length < fuel) :
    findListHead width memory fuel size signature offset entry = some (some head) ↔
      memory.readLe (head - offset) size ≠ signature ∧
        ∀ other ∈ before, memory.readLe (other - offset) size = signature := by
  rw [findListHead_of_circle circle enough, Option.some_inj, List.find?_append]
  have fresh : head ∉ before := fun member => by
    have nodup := (List.nodup_cons.mp circle.nodup).2
    exact (List.disjoint_of_nodup_append nodup) member (List.mem_cons_self ..)
  constructor
  · intro found
    cases taken : before.find? fun other => memory.readLe (other - offset) size ≠ signature with
    | some other =>
        rw [taken, Option.some_or, Option.some_inj] at found
        exact absurd (found ▸ List.mem_of_find?_eq_some taken) fresh
    | none =>
        rw [taken, Option.none_or] at found
        refine ⟨?_, fun other member => ?_⟩
        · simpa using List.find?_some found
        · simpa using List.find?_eq_none.mp taken other member
  · rintro ⟨unsigned, signed⟩
    have passed : before.find? (fun other => memory.readLe (other - offset) size ≠ signature) =
        none := by
      simpa using signed
    rw [passed, Option.none_or, List.find?_cons_of_pos (by simpa using unsigned)]

/-- The memory of these words of four bytes, each at its address. -/
def ofWords (words : List (Nat × Nat)) : Memory := fun address =>
  UInt8.ofNat ((words.lookup (address / 4 * 4)).getD 0 / 256 ^ (address % 4))

/-- A handle with another one behind it, then the head. -/
def twoHandles : Memory :=
  ofWords [(0x100, efiHandleSignature), (0x104, 0x204), (0x200, efiHandleSignature),
    (0x204, 0x504), (0x504, 0x104)]

theorem findListHead_twoHandles :
    getDxeCoreHandleList 4 twoHandles 3 0x100 = some (some 0x504) := by
  have circle : Circle (forwardLink 4 twoHandles) 0x104 ([0x204] ++ 0x504 :: []) := by decide
  exact (findListHead_eq_head_iff circle (by decide)).mpr (by decide)

/-- The structures of a list, in the order of the forward links, each with its entry at
`offset` and with the signature. -/
structure CoreList (width : Nat) (memory : Memory) (size signature offset head : Nat)
    (structures : List Nat) : Prop where
  circle : Circle (forwardLink width memory) head (structures.map (· + offset))
  signed : ∀ address ∈ structures, memory.readLe address size = signature

variable {structures : List Nat}

theorem coreList_iff :
    CoreList width memory size signature offset head structures ↔
      Circle (forwardLink width memory) head (structures.map (· + offset)) ∧
        ∀ address ∈ structures, memory.readLe address size = signature :=
  ⟨fun list => ⟨list.circle, list.signed⟩, fun both => ⟨both.1, both.2⟩⟩

instance decidableCoreList :
    Decidable (CoreList width memory size signature offset head structures) :=
  decidable_of_iff _ coreList_iff.symm

namespace CoreList

theorem nodup (list : CoreList width memory size signature offset head structures) :
    structures.Nodup :=
  (List.nodup_cons.mp list.circle.nodup).2.of_map

/-- Each structure of a list leads to the head. -/
theorem findListHead_eq (list : CoreList width memory size signature offset head structures)
    (unsigned : memory.readLe (head - offset) size ≠ signature) {address : Nat}
    (member : address ∈ structures) (enough : structures.length < fuel) :
    findListHead width memory fuel size signature offset (address + offset) =
      some (some head) := by
  refine list.circle.find_head (List.mem_map_of_mem member) (fun _ => rfl) ?_ ?_ (by simpa)
  · exact if_pos unsigned
  · intro entry within
    obtain ⟨other, listed, rfl⟩ := List.mem_map.mp within
    rw [pickHead, Nat.add_sub_cancel, if_neg (not_not_intro (list.signed other listed))]

/-- With links back that undo the links forward the walk back is the walk in reverse. -/
theorem circle_back (list : CoreList width memory size signature offset head structures)
    (undone : ∀ entry ∈ head :: structures.map (· + offset),
      backLink width memory (forwardLink width memory entry) = entry) :
    Circle (backLink width memory) head (structures.reverse.map (· + offset)) := by
  rw [List.map_reverse]
  exact list.circle.reverse undone

end CoreList

end Lists

end AppEfi.CoreDump
