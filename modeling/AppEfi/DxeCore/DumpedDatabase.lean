import AppEfi.DxeCore.DxeCoreDump

/-!
# The database that the dump prints

A database is its lists, each with the addresses of its structures in order.  Where it lies in
memory as the core keeps it, the dump is told by the database alone: every handle of it leads
to the same lines.
-/

set_option autoImplicit false

namespace AppEfi.DxeCore

open AppEfi.CoreDump
open AppEfi.LinkedList

/-- gHandleList and mProtocolDatabase. -/
structure CoreDatabase where
  gHandleList : Nat
  handles : List Nat
  interfaces : Nat → List Nat
  mProtocolDatabase : Nat
  protocolEntries : List Nat
  byProtocol : Nat → List Nat
  notifies : Nat → List Nat

namespace CoreDatabase

variable (db : CoreDatabase)

def structures : List Nat :=
  db.handles ++ db.handles.flatMap db.interfaces ++ db.protocolEntries ++
    db.protocolEntries.flatMap db.byProtocol ++ db.protocolEntries.flatMap db.notifies

section Lines

variable (width : Nat) (tool : Tool) (memory : Memory)

def handleLines (handle : Nat) : List Line :=
  .handle handle :: (db.interfaces handle).flatMap fun protocolInterface =>
    .handleInterface (tool.guidToName (interfaceProtocolId width memory protocolInterface))
      (interfaceOf width memory protocolInterface) ::
      printInterface width tool memory protocolInterface

def notifyLines (protocolNotify : Nat) : List Line :=
  let iEvent := memory.readLe (protocolNotify + offsetNotifyEvent width) width
  .event iEvent :: printEvent width tool memory iEvent

def protocolLines (protocolEntry : Nat) : List Line :=
  .protocol (tool.guidToName (protocolIdOf width memory protocolEntry)) ::
    ((db.byProtocol protocolEntry).flatMap fun protocolInterface =>
      .entryInterface (interfaceOf width memory protocolInterface) ::
        printInterface width tool memory protocolInterface) ++
    (db.notifies protocolEntry).flatMap (notifyLines width tool memory)

end Lines

/-- An interface is in the list of the handle and in the list of the entry that it names, and
the entry is in the database.  A notify's event is one. -/
structure Represents (width : Nat) (memory : Memory) : Prop where
  handleList : CoreList width memory width efiHandleSignature (offsetAllHandles width)
    db.gHandleList db.handles
  handleHead : memory.readLe (db.gHandleList - offsetAllHandles width) width ≠ efiHandleSignature
  interfaceList : ∀ handle ∈ db.handles,
    CoreList width memory width protocolInterfaceSignature (offsetLink width)
      (handle + offsetHandleProtocols width) (db.interfaces handle)
  owned : ∀ handle ∈ db.handles, ∀ protocolInterface ∈ db.interfaces handle,
    memory.readLe (protocolInterface + offsetHandle width) width = handle
  filed : ∀ handle ∈ db.handles, ∀ protocolInterface ∈ db.interfaces handle,
    memory.readLe (protocolInterface + offsetProtocol width) width ∈ db.protocolEntries ∧
      protocolInterface ∈
        db.byProtocol (memory.readLe (protocolInterface + offsetProtocol width) width)
  entryList : CoreList width memory width protocolEntrySignature (offsetAllEntries width)
    db.mProtocolDatabase db.protocolEntries
  entryHead : memory.readLe (db.mProtocolDatabase - offsetAllEntries width) width ≠
    protocolEntrySignature
  entryAddress : 0 ∉ db.protocolEntries
  byProtocolList : ∀ protocolEntry ∈ db.protocolEntries,
    CoreList width memory width protocolInterfaceSignature (offsetByProtocol width)
      (protocolEntry + offsetEntryProtocols width) (db.byProtocol protocolEntry)
  installed : ∀ protocolEntry ∈ db.protocolEntries,
    ∀ protocolInterface ∈ db.byProtocol protocolEntry,
      protocolInterface ∈ db.handles.flatMap db.interfaces ∧
        memory.readLe (protocolInterface + offsetProtocol width) width = protocolEntry
  notifyList : ∀ protocolEntry ∈ db.protocolEntries,
    CoreList width memory width protocolNotifySignature (offsetNotifyLink width)
      (protocolEntry + offsetNotify width) (db.notifies protocolEntry)
  notified : ∀ protocolEntry ∈ db.protocolEntries,
    ∀ protocolNotify ∈ db.notifies protocolEntry,
      memory.readLe (memory.readLe (protocolNotify + offsetNotifyEvent width) width) width =
        eventSignature

end CoreDatabase

/-! ## Loops over lists -/

section Loops

variable {width fuel size signature offset head : Nat} {memory : Memory}
variable {structures : List Nat}

theorem crAssert_of_signed {address : Nat} (signed : memory.readLe address size = signature) :
    crAssert memory size signature address = [] :=
  if_neg (not_not_intro signed)

theorem forEachStructure_eq
    (list : CoreList width memory size signature offset head structures)
    {body : Nat → Option (List Line)} {lines : Nat → List Line}
    (prints : ∀ address ∈ structures, body address = some (lines address))
    (enough : structures.length < fuel) :
    forEachStructure width memory fuel offset head body = some (structures.flatMap lines) := by
  have each : ∀ entry ∈ structures.map (· + offset),
      body (entry - offset) = some (lines (entry - offset)) := by
    intro entry within
    obtain ⟨address, member, rfl⟩ := List.mem_map.mp within
    rw [Nat.add_sub_cancel]
    exact prints address member
  rw [forEachStructure, list.circle.forEach_eq each (by simpa), List.flatMap_map]
  simp only [Nat.add_sub_cancel]

end Loops

namespace CoreDatabase

variable {width fuel : Nat} {tool : Tool} {memory : Memory} {db : CoreDatabase}
variable {handle protocolEntry imageHandle : Nat}

/-! ## The sections of handles and protocols -/

section Bounds

theorem handles_length_le : db.handles.length ≤ db.structures.length := by
  simp only [structures, List.length_append]
  omega

theorem interfaces_length_le (member : handle ∈ db.handles) :
    (db.interfaces handle).length ≤ db.structures.length := by
  have within := (List.sublist_flatten_of_mem
    (List.mem_map_of_mem (f := db.interfaces) member)).length_le
  simp only [structures, List.length_append, List.flatMap]
  omega

theorem protocolEntries_length_le : db.protocolEntries.length ≤ db.structures.length := by
  simp only [structures, List.length_append]
  omega

theorem byProtocol_length_le (member : protocolEntry ∈ db.protocolEntries) :
    (db.byProtocol protocolEntry).length ≤ db.structures.length := by
  have within := (List.sublist_flatten_of_mem
    (List.mem_map_of_mem (f := db.byProtocol) member)).length_le
  simp only [structures, List.length_append, List.flatMap]
  omega

theorem notifies_length_le (member : protocolEntry ∈ db.protocolEntries) :
    (db.notifies protocolEntry).length ≤ db.structures.length := by
  have within := (List.sublist_flatten_of_mem
    (List.mem_map_of_mem (f := db.notifies) member)).length_le
  simp only [structures, List.length_append, List.flatMap]
  omega

end Bounds

namespace Represents

variable (represented : db.Represents width memory) (enough : db.structures.length < fuel)

include represented enough

theorem dumpProtocolInterfacesOnHandle_eq (member : handle ∈ db.handles) :
    dumpProtocolInterfacesOnHandle width tool memory fuel handle =
      some ((db.interfaces handle).flatMap fun protocolInterface =>
        .handleInterface (tool.guidToName (interfaceProtocolId width memory protocolInterface))
          (interfaceOf width memory protocolInterface) ::
          printInterface width tool memory protocolInterface) := by
  have list := represented.interfaceList handle member
  refine forEachStructure_eq list ?_ ((interfaces_length_le member).trans_lt enough)
  intro protocolInterface listed
  simp only [handleInterfaceLines, crAssert_of_signed (list.signed _ listed), List.nil_append,
    List.singleton_append]

theorem dumpHandleList_eq :
    dumpHandleList width tool memory fuel db.gHandleList =
      some (db.handles.flatMap (db.handleLines width tool memory)) := by
  refine forEachStructure_eq represented.handleList ?_ (handles_length_le.trans_lt enough)
  intro handle member
  rw [represented.dumpProtocolInterfacesOnHandle_eq enough member]
  simp only [crAssert_of_signed (represented.handleList.signed _ member), List.nil_append,
    List.singleton_append, Option.pure_def, Option.bind_eq_bind, Option.bind_some, handleLines]

theorem dumpProtocolInterfacesOnProtocolEntry_eq (member : protocolEntry ∈ db.protocolEntries) :
    dumpProtocolInterfacesOnProtocolEntry width tool memory fuel protocolEntry =
      some ((db.byProtocol protocolEntry).flatMap fun protocolInterface =>
        .entryInterface (interfaceOf width memory protocolInterface) ::
          printInterface width tool memory protocolInterface) := by
  have list := represented.byProtocolList protocolEntry member
  refine forEachStructure_eq list ?_ ((byProtocol_length_le member).trans_lt enough)
  intro protocolInterface listed
  simp only [entryInterfaceLines, crAssert_of_signed (list.signed _ listed), List.nil_append,
    List.singleton_append]

theorem dumpProtocolNotifyOnProtocolEntry_eq (member : protocolEntry ∈ db.protocolEntries) :
    dumpProtocolNotifyOnProtocolEntry width tool memory fuel protocolEntry =
      some ((db.notifies protocolEntry).flatMap (notifyLines width tool memory)) := by
  have list := represented.notifyList protocolEntry member
  refine forEachStructure_eq list ?_ ((notifies_length_le member).trans_lt enough)
  intro protocolNotify listed
  simp only [DxeCore.notifyLines, crAssert_of_signed (list.signed _ listed),
    crAssert_of_signed (represented.notified _ member _ listed), List.nil_append,
    List.singleton_append, notifyLines]

theorem dumpProtocolDatabase_eq :
    dumpProtocolDatabase width tool memory fuel db.mProtocolDatabase =
      some (db.protocolEntries.flatMap (db.protocolLines width tool memory)) := by
  refine forEachStructure_eq represented.entryList ?_ (protocolEntries_length_le.trans_lt enough)
  intro protocolEntry member
  rw [represented.dumpProtocolInterfacesOnProtocolEntry_eq enough member,
    represented.dumpProtocolNotifyOnProtocolEntry_eq enough member]
  simp only [crAssert_of_signed (represented.entryList.signed _ member), List.nil_append,
    Option.pure_def, Option.bind_eq_bind, Option.bind_some, protocolLines, List.cons_append]

/-! ## The search for the protocol database -/

/-- A handle gives the entry of its first interface. -/
theorem pickHandleProtocol_eq (member : handle ∈ db.handles) :
    pickHandleProtocol width memory fuel (handle + offsetAllHandles width) =
      some ((db.interfaces handle).head?.map fun protocolInterface =>
        memory.readLe (protocolInterface + offsetProtocol width) width) := by
  have list := represented.interfaceList handle member
  have short : ((db.interfaces handle).map (· + offsetLink width)).length < fuel := by
    rw [List.length_map]
    exact (interfaces_length_le member).trans_lt enough
  rw [pickHandleProtocol, Nat.add_sub_cancel,
    if_pos (represented.handleList.signed handle member),
    list.circle.find_eq (fun _ _ => rfl) short]
  congr 1
  cases first : db.interfaces handle with
  | nil => rfl
  | cons protocolInterface rest =>
      have listed : protocolInterface ∈ db.interfaces handle := first ▸ List.mem_cons_self ..
      have address : memory.readLe (protocolInterface + offsetProtocol width) width ≠ 0 :=
        fun null => represented.entryAddress (null ▸ (represented.filed handle member _ listed).1)
      rw [List.map_cons, List.findSome?_cons, pickProtocolEntry, Nat.add_sub_cancel,
        if_pos (list.signed _ listed), if_pos address]
      rfl

omit enough in
theorem pickHandleProtocol_head :
    pickHandleProtocol width memory fuel db.gHandleList = some none := by
  rw [pickHandleProtocol, if_neg represented.handleHead]

/-- What is found from one handle on is the entry of an interface of another one. -/
theorem searchedEntry (member : imageHandle ∈ db.handles) :
    ∃ found : Option Nat,
      find (forwardLink width memory) (pickHandleProtocol width memory fuel)
        (imageHandle + offsetAllHandles width) fuel = some found ∧
      (∀ protocolEntry, found = some protocolEntry → protocolEntry ∈ db.protocolEntries) ∧
      (found.isSome ↔
        ∃ other ∈ db.handles, other ≠ imageHandle ∧ db.interfaces other ≠ []) := by
  obtain ⟨others, circle, same, others_iff⟩ :=
    represented.handleList.circle.exists_of_mem (List.mem_map_of_mem member)
  rw [List.length_map] at same
  -- The head of the handle list is passed like a handle without interfaces.
  let value (entry : Nat) := (pickHandleProtocol width memory fuel entry).getD none
  have atHandle : ∀ other ∈ db.handles, value (other + offsetAllHandles width) =
      (db.interfaces other).head?.map fun protocolInterface =>
        memory.readLe (protocolInterface + offsetProtocol width) width := by
    intro other listed
    simp only [value, represented.pickHandleProtocol_eq enough listed, Option.getD_some]
  have atHead : value db.gHandleList = none := by
    simp only [value, represented.pickHandleProtocol_head, Option.getD_some]
  have picks : ∀ entry ∈ others,
      pickHandleProtocol width memory fuel entry = some (value entry) := by
    intro entry within
    rcases ((others_iff entry).mp within).2 with rfl | mapped
    · rw [atHead, represented.pickHandleProtocol_head]
    · obtain ⟨other, listed, rfl⟩ := List.mem_map.mp mapped
      rw [atHandle other listed, represented.pickHandleProtocol_eq enough listed]
  have short : others.length < fuel := same ▸ handles_length_le.trans_lt enough
  refine ⟨others.findSome? value, circle.find_eq picks short, ?_, ?_⟩
  · intro protocolEntry found
    obtain ⟨entry, within, taken⟩ := List.exists_of_findSome?_eq_some found
    rcases ((others_iff entry).mp within).2 with rfl | mapped
    · rw [atHead] at taken
      cases taken
    · obtain ⟨other, listed, rfl⟩ := List.mem_map.mp mapped
      rw [atHandle other listed, Option.map_eq_some_iff] at taken
      obtain ⟨protocolInterface, first, rfl⟩ := taken
      exact (represented.filed other listed _ (List.mem_of_head? first)).1
  · rw [List.findSome?_isSome_iff]
    constructor
    · rintro ⟨entry, within, taken⟩
      obtain ⟨different, rfl | mapped⟩ := (others_iff entry).mp within
      · simp [atHead] at taken
      · obtain ⟨other, listed, rfl⟩ := List.mem_map.mp mapped
        refine ⟨other, listed, fun equal => different (equal ▸ rfl), fun none => ?_⟩
        simp [atHandle other listed, none] at taken
    · rintro ⟨other, listed, different, inhabited⟩
      refine ⟨other + offsetAllHandles width, (others_iff _).mpr ⟨?_, ?_⟩, ?_⟩
      · exact fun equal => different (Nat.add_right_cancel equal)
      · exact .inr (List.mem_map_of_mem listed)
      · cases first : db.interfaces other with
        | nil => exact absurd first inhabited
        | cons protocolInterface rest => simp [atHandle other listed, first]

theorem getDxeCoreHandleList_eq (member : imageHandle ∈ db.handles) :
    getDxeCoreHandleList width memory fuel imageHandle = some (some db.gHandleList) :=
  represented.handleList.findListHead_eq represented.handleHead member
    (handles_length_le.trans_lt enough)

theorem getDxeCoreProtocolDatabase_of_other (member : imageHandle ∈ db.handles)
    (other : ∃ other ∈ db.handles, other ≠ imageHandle ∧ db.interfaces other ≠ []) :
    getDxeCoreProtocolDatabase width memory fuel imageHandle =
      some (some db.mProtocolDatabase) := by
  obtain ⟨found, searched, listed, some_iff⟩ := represented.searchedEntry enough member
  obtain ⟨protocolEntry, rfl⟩ := Option.isSome_iff_exists.mp (some_iff.mpr other)
  rw [getDxeCoreProtocolDatabase, searched]
  exact represented.entryList.findListHead_eq represented.entryHead (listed _ rfl)
    (protocolEntries_length_le.trans_lt enough)

/-! ## The two sections agree -/

omit enough in
/-- The lists of the handles and the lists of the entries hold the same interfaces. -/
theorem interfaces_perm :
    (db.handles.flatMap db.interfaces).Perm (db.protocolEntries.flatMap db.byProtocol) := by
  refine (List.perm_ext_iff_of_nodup ?_ ?_).mpr fun protocolInterface => ⟨?_, ?_⟩
  · exact nodup_flatMap_of_owner (fun i => memory.readLe (i + offsetHandle width) width)
      represented.handleList.nodup
      (fun handle member => (represented.interfaceList handle member).nodup)
      represented.owned
  · exact nodup_flatMap_of_owner (fun i => memory.readLe (i + offsetProtocol width) width)
      represented.entryList.nodup
      (fun protocolEntry member => (represented.byProtocolList protocolEntry member).nodup)
      fun protocolEntry member i listed => (represented.installed protocolEntry member i listed).2
  · intro within
    obtain ⟨handle, member, listed⟩ := List.mem_flatMap.mp within
    obtain ⟨entry, filed⟩ := represented.filed handle member protocolInterface listed
    exact List.mem_flatMap.mpr ⟨_, entry, filed⟩
  · intro within
    obtain ⟨protocolEntry, member, listed⟩ := List.mem_flatMap.mp within
    exact (represented.installed protocolEntry member protocolInterface listed).1

end Represents

end CoreDatabase

/-- The protocols and interfaces that a HANDLE DATABASE shows. -/
def shownOnHandles : List Line → List (List UInt8 × Nat)
  | [] => []
  | .handleInterface protocol interface :: rest => (protocol, interface) :: shownOnHandles rest
  | _ :: rest => shownOnHandles rest

/-- Those that a PROTOCOL DATABASE shows, behind the name of a protocol. -/
def shownOnProtocols (name : List UInt8) : List Line → List (List UInt8 × Nat)
  | [] => []
  | .protocol name :: rest => shownOnProtocols name rest
  | .entryInterface interface :: rest => (name, interface) :: shownOnProtocols name rest
  | _ :: rest => shownOnProtocols name rest

/-- The lines that are neither an interface nor a protocol. -/
def IsDetail : Line → Prop
  | .handleInterface _ _ | .protocol _ | .entryInterface _ => False
  | _ => True

section Shown

variable {width : Nat} {tool : Tool} {memory : Memory} {name : List UInt8}
variable {lines rest : List Line}

theorem shownOnHandles_details (details : ∀ line ∈ lines, IsDetail line) :
    shownOnHandles (lines ++ rest) = shownOnHandles rest := by
  induction lines with
  | nil => rfl
  | cons line lines ih =>
      have detail := details line (List.mem_cons_self ..)
      have later := ih fun other member => details other (List.mem_cons_of_mem _ member)
      cases line <;> first | exact later | exact detail.elim

theorem shownOnProtocols_details (details : ∀ line ∈ lines, IsDetail line) :
    shownOnProtocols name (lines ++ rest) = shownOnProtocols name rest := by
  induction lines with
  | nil => rfl
  | cons line lines ih =>
      have detail := details line (List.mem_cons_self ..)
      have later := ih fun other member => details other (List.mem_cons_of_mem _ member)
      cases line <;> first | exact later | exact detail.elim

theorem printName_details (address : Nat) (image : List UInt16) :
    ∀ line ∈ printName address image, IsDetail line := by
  intro line member
  rw [printName] at member
  split at member
  · rw [List.mem_singleton.mp member]
    trivial
  · cases member

theorem printInterface_details (protocolInterface : Nat) :
    ∀ line ∈ printInterface width tool memory protocolInterface, IsDetail line := by
  intro line member
  simp only [printInterface, printPaths, List.mem_append, List.mem_singleton] at member
  rcases member with (named | rfl) | ((path | path) | path)
  · exact printName_details _ _ line named
  · trivial
  all_goals
    split at path
    · rw [List.mem_singleton.mp path]
      trivial
    · cases path

theorem printEvent_details (iEvent : Nat) :
    ∀ line ∈ printEvent width tool memory iEvent, IsDetail line := by
  intro line member
  simp only [printEvent, List.mem_append, List.mem_cons] at member
  rcases member with (((group | timer) | rfl | rfl | none) | named) | rfl | none
  · split at group
    · rw [List.mem_singleton.mp group]
      trivial
    · cases group
  · split at timer
    · rw [List.mem_singleton.mp timer]
      trivial
    · cases timer
  · trivial
  · trivial
  · cases none
  · exact printName_details _ _ line named
  · trivial
  · cases none

end Shown

namespace CoreDatabase

variable {width fuel : Nat} {tool : Tool} {memory : Memory} {db : CoreDatabase}

/-- What either section shows of an interface. -/
def shown (width : Nat) (tool : Tool) (memory : Memory) (protocolInterface : Nat) :
    List UInt8 × Nat :=
  (tool.guidToName (interfaceProtocolId width memory protocolInterface),
    interfaceOf width memory protocolInterface)

theorem shownOnHandles_interfaces (interfaces : List Nat) (rest : List Line) :
    shownOnHandles ((interfaces.flatMap fun protocolInterface =>
      .handleInterface (tool.guidToName (interfaceProtocolId width memory protocolInterface))
        (interfaceOf width memory protocolInterface) ::
        printInterface width tool memory protocolInterface) ++ rest) =
      interfaces.map (shown width tool memory) ++ shownOnHandles rest := by
  induction interfaces with
  | nil => rfl
  | cons protocolInterface interfaces ih =>
      rw [List.flatMap_cons, List.append_assoc, List.cons_append, shownOnHandles,
        shownOnHandles_details (printInterface_details protocolInterface), ih]
      rfl

theorem shownOnHandles_handleLines (handles : List Nat) :
    shownOnHandles (handles.flatMap (db.handleLines width tool memory)) =
      (handles.flatMap db.interfaces).map (shown width tool memory) := by
  induction handles with
  | nil => rfl
  | cons handle handles ih =>
      rw [List.flatMap_cons, List.flatMap_cons, List.map_append, ← ih]
      exact shownOnHandles_interfaces (db.interfaces handle) _

/-- The interfaces of an entry have the entry's name. -/
theorem shownOnProtocols_interfaces {name : List UInt8} {interfaces : List Nat}
    (named : ∀ protocolInterface ∈ interfaces,
      tool.guidToName (interfaceProtocolId width memory protocolInterface) = name)
    (rest : List Line) :
    shownOnProtocols name ((interfaces.flatMap fun protocolInterface =>
      .entryInterface (interfaceOf width memory protocolInterface) ::
        printInterface width tool memory protocolInterface) ++ rest) =
      interfaces.map (shown width tool memory) ++ shownOnProtocols name rest := by
  induction interfaces with
  | nil => rfl
  | cons protocolInterface interfaces ih =>
      rw [List.flatMap_cons, List.append_assoc, List.cons_append, shownOnProtocols,
        shownOnProtocols_details (printInterface_details protocolInterface),
        ih fun other member => named other (List.mem_cons_of_mem _ member),
        List.map_cons, List.cons_append, shown, named protocolInterface (List.mem_cons_self ..)]

theorem shownOnProtocols_protocolLines (represented : db.Represents width memory)
    {protocolEntries : List Nat} (within : ∀ entry ∈ protocolEntries, entry ∈ db.protocolEntries)
    (name : List UInt8) :
    shownOnProtocols name (protocolEntries.flatMap (db.protocolLines width tool memory)) =
      (protocolEntries.flatMap db.byProtocol).map (shown width tool memory) := by
  induction protocolEntries generalizing name with
  | nil => rfl
  | cons protocolEntry protocolEntries ih =>
      have listed := within protocolEntry (List.mem_cons_self ..)
      have named : ∀ protocolInterface ∈ db.byProtocol protocolEntry,
          tool.guidToName (interfaceProtocolId width memory protocolInterface) =
            tool.guidToName (protocolIdOf width memory protocolEntry) := by
        intro protocolInterface member
        rw [interfaceProtocolId, (represented.installed protocolEntry listed _ member).2]
      have notifies : ∀ line ∈ (db.notifies protocolEntry).flatMap (notifyLines width tool memory),
          IsDetail line := by
        intro line member
        obtain ⟨protocolNotify, -, printed⟩ := List.mem_flatMap.mp member
        rcases List.mem_cons.mp printed with rfl | printed
        · trivial
        · exact printEvent_details _ line printed
      rw [List.flatMap_cons, List.flatMap_cons, protocolLines, List.map_append, List.cons_append,
        List.cons_append, List.append_assoc, shownOnProtocols, shownOnProtocols_interfaces named,
        shownOnProtocols_details notifies,
        ih fun other member => within other (List.mem_cons_of_mem _ member)]

end CoreDatabase

/-! ## The events -/

/-- An event list that has the dummy event, and behind CloseEvent the other ones. -/
structure EventList (width offset : Nat) (dummy : DummyEvent) (head : Nat) (events : List Nat) :
    Prop where
  created : CoreList width dummy.created width eventSignature offset head events
  createdHead : dummy.created.readLe (head - offset) width ≠ eventSignature
  member : dummy.event ∈ events
  closed : CoreList width dummy.closed width eventSignature offset head (events.erase dummy.event)
  undone : ∀ entry ∈ head :: (events.erase dummy.event).map (· + offset),
    backLink width dummy.closed (forwardLink width dummy.closed entry) = entry

namespace EventList

variable {width offset head fuel : Nat} {tool : Tool} {dummy : DummyEvent} {events : List Nat}

/-- The last event first, without the dummy event. -/
def lines (width : Nat) (tool : Tool) (dummy : DummyEvent) (events : List Nat) : List Line :=
  (events.erase dummy.event).reverse.flatMap fun event =>
    .event event :: printEvent width tool dummy.closed event

theorem dumpEvents_eq (list : EventList width offset dummy head events)
    (enough : events.length < fuel) :
    dumpEvents width tool dummy.closed fuel offset head =
      some (lines width tool dummy events) := by
  have circle := list.closed.circle_back list.undone
  have each : ∀ entry ∈ (events.erase dummy.event).reverse.map (· + offset),
      some (eventLines width tool dummy.closed (entry - offset)) =
        some (.event (entry - offset) :: printEvent width tool dummy.closed (entry - offset)) := by
    intro entry within
    obtain ⟨event, member, rfl⟩ := List.mem_map.mp within
    rw [Nat.add_sub_cancel, eventLines,
      crAssert_of_signed (list.closed.signed event (List.mem_reverse.mp member))]
    rfl
  have short : ((events.erase dummy.event).reverse.map (· + offset)).length < fuel := by
    rw [List.length_map, List.length_reverse]
    exact (List.erase_sublist.length_le).trans_lt enough
  rw [dumpEvents, circle.forEach_eq each short, List.flatMap_map, lines]
  simp only [Nat.add_sub_cancel]

theorem eventSection_eq (list : EventList width offset dummy head events)
    (enough : events.length < fuel) (missing : String)
    {find : DummyEvent → Option (Option Nat)} (found : find dummy = some (some head)) :
    eventSection find (fun closed head => dumpEvents width tool closed fuel offset head) missing
      (some dummy) = some (lines width tool dummy events, true) := by
  simp only [eventSection, found, list.dumpEvents_eq enough, Option.map_some]

theorem signalSection_eq (list : EventList width (offsetSignalLink width) dummy head events)
    (enough : events.length < fuel) :
    signalSection width tool fuel (some dummy) = some (lines width tool dummy events, true) :=
  list.eventSection_eq enough _ (list.created.findListHead_eq list.createdHead list.member enough)

theorem timerSection_eq (list : EventList width (offsetTimerLink width) dummy head events)
    (set : dummy.set = true) (enough : events.length < fuel) :
    timerSection width tool fuel (some dummy) = some (lines width tool dummy events, true) := by
  refine list.eventSection_eq enough _ ?_
  rw [if_pos set]
  exact list.created.findListHead_eq list.createdHead list.member enough

end EventList

namespace CoreDatabase

variable {width fuel : Nat} {tool : Tool} {memory : Memory} {db : CoreDatabase}

/-! ## A core with two protocols -/

/-- Two handles that each have an interface of both protocols, in different orders.  The second
protocol has a notify. -/
def coreWords : List (Nat × Nat) :=
  [(0x100, efiHandleSignature), (0x104, 0x204), (0x108, 0xE00), (0x10C, 0x304), (0x110, 0x344),
    (0x200, efiHandleSignature), (0x204, 0xE00), (0x208, 0x104), (0x20C, 0x384), (0x210, 0x3C4),
    (0xE00, 0x104), (0xE04, 0x204),
    (0x300, protocolInterfaceSignature), (0x304, 0x344), (0x308, 0x10C), (0x30C, 0x100),
    (0x310, 0x3D0), (0x314, 0x45C), (0x318, 0x440), (0x31C, 0x8000),
    (0x340, protocolInterfaceSignature), (0x344, 0x10C), (0x348, 0x304), (0x34C, 0x100),
    (0x350, 0x41C), (0x354, 0x390), (0x358, 0x400), (0x35C, 0x8100),
    (0x380, protocolInterfaceSignature), (0x384, 0x3C4), (0x388, 0x20C), (0x38C, 0x200),
    (0x390, 0x350), (0x394, 0x41C), (0x398, 0x400), (0x39C, 0x8200),
    (0x3C0, protocolInterfaceSignature), (0x3C4, 0x20C), (0x3C8, 0x384), (0x3CC, 0x200),
    (0x3D0, 0x45C), (0x3D4, 0x310), (0x3D8, 0x440), (0x3DC, 0x8300),
    (0xE10, 0x404), (0xE14, 0x444),
    (0x400, protocolEntrySignature), (0x404, 0x444), (0x408, 0xE10), (0x40C, 0x22),
    (0x41C, 0x390), (0x420, 0x350), (0x424, 0x424), (0x428, 0x424),
    (0x440, protocolEntrySignature), (0x444, 0xE10), (0x448, 0x404), (0x44C, 0x11),
    (0x45C, 0x310), (0x460, 0x3D0), (0x464, 0x508), (0x468, 0x508),
    (0x500, protocolNotifySignature), (0x504, 0x440), (0x508, 0x464), (0x50C, 0x464),
    (0x510, 0x600),
    (0x600, eventSignature), (0x604, 0x200), (0x614, 8), (0x618, 0x9010)]

def twoProtocols : CoreDatabase where
  gHandleList := 0xE00
  handles := [0x100, 0x200]
  interfaces handle := if handle = 0x100 then [0x300, 0x340] else [0x380, 0x3C0]
  mProtocolDatabase := 0xE10
  protocolEntries := [0x400, 0x440]
  byProtocol protocolEntry :=
    if protocolEntry = 0x400 then [0x380, 0x340] else [0x300, 0x3C0]
  notifies protocolEntry := if protocolEntry = 0x440 then [0x500] else []

theorem twoProtocols_represented : twoProtocols.Represents 4 (ofWords coreWords) where
  handleList := by decide +kernel
  handleHead := by decide +kernel
  interfaceList := by decide +kernel
  owned := by decide +kernel
  filed := by decide +kernel
  entryList := by decide +kernel
  entryHead := by decide +kernel
  entryAddress := by decide
  byProtocolList := by decide +kernel
  installed := by decide +kernel
  notifyList := by decide +kernel
  notified := by decide +kernel

/-- A dummy event before another event, and gone. -/
def smallEvent (head offset : Nat) : DummyEvent where
  event := 0x900
  set := true
  created := ofWords
    [(head, 0x900 + offset), (head + 4, 0xA00 + offset), (0x900, eventSignature),
      (0x900 + offset, 0xA00 + offset), (0x904 + offset, head), (0xA00, eventSignature),
      (0xA00 + offset, head), (0xA04 + offset, 0x900 + offset)]
  closed := ofWords
    [(head, 0xA00 + offset), (head + 4, 0xA00 + offset), (0xA00, eventSignature),
      (0xA00 + offset, head), (0xA04 + offset, head)]

theorem smallSignals : EventList 4 (offsetSignalLink 4) (smallEvent 0x704 (offsetSignalLink 4))
    0x704 [0x900, 0xA00] where
  created := by decide
  createdHead := by decide
  member := by decide
  closed := by decide
  undone := by decide

theorem smallTimers : EventList 4 (offsetTimerLink 4) (smallEvent 0x804 (offsetTimerLink 4))
    0x804 [0x900, 0xA00] where
  created := by decide
  createdHead := by decide
  member := by decide
  closed := by decide
  undone := by decide

/-- A tool that knows no names but the first byte of a GUID. -/
def nameless : Tool where
  mImageStruct := []
  mProtocolFuncStruct := []
  guidToName guid := if guid.take 1 = [0] then zeroGuidName else guid.take 1
  gEfiDevicePathProtocolGuid := []
  gEfiLoadedImageProtocolGuid := []
  gEfiLoadedImageDevicePathProtocolGuid := []

/-- The image of the core, in which the function of the notify lies. -/
def coreImage : LoadedImage where
  imageBase := 0x9000
  imageSize := 0x100
  filePath := 0x7000
  entryPoint := some 0x9020
  nameString := some [0x43]
  isDxeCore := true

def coreServices : ImageServices where
  handles := some [none, some coreImage]
  allocated := true
  entryPointInImage := 0

/-! ## The whole dump -/

/-- The protocol database is not found from the only handle that has an interface. -/
theorem getDxeCoreProtocolDatabase_found_iff (represented : db.Represents width memory)
    (enough : db.structures.length < fuel) {imageHandle : Nat} (member : imageHandle ∈ db.handles) :
    getDxeCoreProtocolDatabase width memory fuel imageHandle =
        some (some db.mProtocolDatabase) ↔
      ∃ other ∈ db.handles, other ≠ imageHandle ∧ db.interfaces other ≠ [] := by
  constructor
  · intro success
    obtain ⟨found, searched, -, some_iff⟩ := represented.searchedEntry enough member
    cases found with
    | none => simp [getDxeCoreProtocolDatabase, searched] at success
    | some protocolEntry => exact some_iff.mp rfl
  · exact represented.getDxeCoreProtocolDatabase_of_other enough member

theorem getDxeCoreProtocolDatabase_twoProtocols :
    getDxeCoreProtocolDatabase 4 (ofWords coreWords) 14 0x100 = some (some 0xE10) :=
  (getDxeCoreProtocolDatabase_found_iff twoProtocols_represented (by decide) (by decide)).mpr
    (by decide)

/-- The protocols with their interfaces that the HANDLE DATABASE shows are those that the
PROTOCOL DATABASE shows, each as often. -/
theorem shown_perm (represented : db.Represents width memory)
    (enough : db.structures.length < fuel) :
    ∃ handleLines protocolLines : List Line,
      dumpHandleList width tool memory fuel db.gHandleList = some handleLines ∧
      dumpProtocolDatabase width tool memory fuel db.mProtocolDatabase = some protocolLines ∧
      (shownOnHandles handleLines).Perm (shownOnProtocols [] protocolLines) := by
  refine ⟨_, _, represented.dumpHandleList_eq enough, represented.dumpProtocolDatabase_eq enough,
    ?_⟩
  rw [shownOnHandles_handleLines, shownOnProtocols_protocolLines represented fun _ member => member]
  exact represented.interfaces_perm.map _

/-- The handles show the four interfaces in another order than the protocols. -/
theorem shown_perm_twoProtocols :
    ∃ handleLines protocolLines : List Line,
      dumpHandleList 4 nameless (ofWords coreWords) 14 0xE00 = some handleLines ∧
      dumpProtocolDatabase 4 nameless (ofWords coreWords) 14 0xE10 = some protocolLines ∧
      shownOnHandles handleLines =
        [([0x11], 0x8000), ([0x22], 0x8100), ([0x22], 0x8200), ([0x11], 0x8300)] ∧
      shownOnProtocols [] protocolLines =
        [([0x22], 0x8200), ([0x22], 0x8100), ([0x11], 0x8000), ([0x11], 0x8300)] ∧
      (shownOnHandles handleLines).Perm (shownOnProtocols [] protocolLines) := by
  obtain ⟨handleLines, protocolLines, handles, protocols, same⟩ :=
    @shown_perm 4 14 nameless _ _ twoProtocols_represented (by decide)
  have onHandles : (dumpHandleList 4 nameless (ofWords coreWords) 14 0xE00).map shownOnHandles =
      some [([0x11], 0x8000), ([0x22], 0x8100), ([0x22], 0x8200), ([0x11], 0x8300)] := by
    decide +kernel
  have onProtocols : (dumpProtocolDatabase 4 nameless (ofWords coreWords) 14 0xE10).map
      (shownOnProtocols []) =
        some [([0x22], 0x8200), ([0x22], 0x8100), ([0x11], 0x8000), ([0x11], 0x8300)] := by
    decide +kernel
  refine ⟨handleLines, protocolLines, handles, protocols, ?_, ?_, same⟩
  · have shown := congrArg (Option.map shownOnHandles) handles
    exact Option.some.inj (shown.symm.trans onHandles)
  · have shown := congrArg (Option.map (shownOnProtocols [])) protocols
    exact Option.some.inj (shown.symm.trans onProtocols)

/-- What GetLoadedImage finds: the images of the handles that have one, each with an entry point
where one is looked for, and the core's image among them. -/
structure ImagesFound (width : Nat) (memory : Memory) (services : ImageServices)
    (images : List LoadedImage) : Prop where
  located : ∃ handles, services.handles = some handles ∧ handles.filterMap id = images
  allocated : services.allocated = true
  entries : ∀ image ∈ images, image.HasEntryPoint width memory
  dxeCore : ∃ image ∈ images, image.isDxeCore = true

theorem ImagesFound.getLoadedImage_eq {services : ImageServices} {images : List LoadedImage}
    (found : ImagesFound width memory services images) :
    getLoadedImage width memory services =
      ⟨images.flatMap (LoadedImage.lines width memory),
        images.map (LoadedImage.struct width memory), true⟩ := by
  obtain ⟨handles, isLocated, rfl⟩ := found.located
  have entries : ∀ image, some image ∈ handles → image.HasEntryPoint width memory :=
    fun image listed => found.entries image (List.mem_filterMap.mpr ⟨_, listed, rfl⟩)
  simp only [getLoadedImage, isLocated, found.allocated, if_true]
  rw [getLoadedImages_eq handles entries, List.any_eq_true.mpr found.dxeCore]

/-- An event list for the dump: its dummy event, its head and its events. -/
structure DumpedEvents where
  dummy : DummyEvent
  head : Nat
  events : List Nat

/-- The whole dump, with the names of the loaded images. -/
def wholeDump (db : CoreDatabase) (width : Nat) (tool : Tool) (memory : Memory)
    (images : List LoadedImage) (signals timers : DumpedEvents) : List Line :=
  let named := { tool with mImageStruct := images.map (LoadedImage.struct width memory) }
  [.title "IMAGE DATABASE"] ++ images.flatMap (LoadedImage.lines width memory) ++
    [.newline, .title "HANDLE DATABASE"] ++
    db.handles.flatMap (db.handleLines width named memory) ++
    [.newline, .title "PROTOCOL DATABASE"] ++
    db.protocolEntries.flatMap (db.protocolLines width named memory) ++
    [.newline, .title "EVENT DATABASE", .title "1. NOTIFY_SIGNAL"] ++
    EventList.lines width named signals.dummy signals.events ++ [.title "2. TIMER"] ++
    EventList.lines width named timers.dummy timers.events ++ [.newline]

/-- The whole dump: from each image handle the same, as long as another handle has an interface.
Each loaded image is in it, each structure of the database, each event but the two dummy
events, and nothing else. -/
theorem dxeCoreDump_eq (represented : db.Represents width memory)
    (enough : db.structures.length < fuel) {services : ImageServices} {images : List LoadedImage}
    (found : ImagesFound width memory services images) {imageHandle : Nat}
    (member : imageHandle ∈ db.handles)
    (other : ∃ other ∈ db.handles, other ≠ imageHandle ∧ db.interfaces other ≠ [])
    {signals timers : DumpedEvents}
    (signalList : EventList width (offsetSignalLink width) signals.dummy signals.head
      signals.events)
    (fewSignals : signals.events.length < fuel)
    (timerList : EventList width (offsetTimerLink width) timers.dummy timers.head timers.events)
    (fewTimers : timers.events.length < fuel) (set : timers.dummy.set = true) :
    dxeCoreDump width tool memory fuel services imageHandle (some signals.dummy)
        (some timers.dummy) =
      some (db.wholeDump width tool memory images signals timers) := by
  simp only [dxeCoreDump, found.getLoadedImage_eq, dumpDatabase,
    represented.getDxeCoreHandleList_eq enough member,
    represented.getDxeCoreProtocolDatabase_of_other enough member other,
    represented.dumpHandleList_eq enough, Option.getD_some,
    represented.dumpProtocolDatabase_eq enough, dumpEventDatabase,
    signalList.signalSection_eq fewSignals, timerList.timerSection_eq set fewTimers,
    Option.pure_def, Option.bind_eq_bind, Option.bind_some]
  simp [wholeDump]

theorem coreServices_found : ImagesFound 4 (ofWords coreWords) coreServices [coreImage] where
  located := ⟨_, rfl, by decide⟩
  allocated := rfl
  entries := by
    rw [List.forall_mem_singleton]
    exact fun emulated => absurd emulated (by decide)
  dxeCore := ⟨_, List.mem_singleton_self _, rfl⟩

def signalEvents : DumpedEvents :=
  ⟨smallEvent 0x704 (offsetSignalLink 4), 0x704, [0x900, 0xA00]⟩

def timerEvents : DumpedEvents :=
  ⟨smallEvent 0x804 (offsetTimerLink 4), 0x804, [0x900, 0xA00]⟩

theorem dxeCoreDump_twoProtocols :
    dxeCoreDump 4 nameless (ofWords coreWords) 14 coreServices 0x100 (some signalEvents.dummy)
        (some timerEvents.dummy) =
      some [.title "IMAGE DATABASE", .loadedImage (some [0x43]), .imageRange 0x9000 0x100,
        .entryPoint 0x9020, .newline, .path 0x7000, .newline,
        .title "HANDLE DATABASE", .handle 0x100, .handleInterface [0x11] 0x8000, .newline,
        .handleInterface [0x22] 0x8100, .newline, .handle 0x200,
        .handleInterface [0x22] 0x8200, .newline, .handleInterface [0x11] 0x8300, .newline,
        .newline,
        .title "PROTOCOL DATABASE", .protocol [0x22], .entryInterface 0x8200, .newline,
        .entryInterface 0x8100, .newline, .protocol [0x11], .entryInterface 0x8000, .newline,
        .entryInterface 0x8300, .newline, .event 0x600, .newline, .notify 0x200 8 0x9010,
        .image [0x43], .newline, .newline,
        .title "EVENT DATABASE", .title "1. NOTIFY_SIGNAL", .event 0xA00, .newline,
        .notify 0 0 0, .newline, .title "2. TIMER", .event 0xA00, .newline, .notify 0 0 0,
        .newline, .newline] := by
  have dump := @dxeCoreDump_eq 4 14 nameless _ _ twoProtocols_represented (by decide) _ _
    coreServices_found 0x100 (by decide) (by decide) signalEvents timerEvents smallSignals
    (by decide) smallTimers (by decide) rfl
  rw [dump]
  decide +kernel

end CoreDatabase

end AppEfi.DxeCore
