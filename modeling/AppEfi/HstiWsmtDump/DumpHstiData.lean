import AppEfi.HstiWsmtDump.DumpHsti
import AppEfi.Lib.Ledger

/-!
# The platform security blocks of the system

`DumpHstiData` asks the adapter information protocol of every handle for its platform security
block and dumps the blocks of a role and an implementation.  A GUID is the number of its 16 bytes,
and a block is read at offsets.
-/

set_option autoImplicit false

namespace AppEfi.HstiWsmtDump

open AppEfi.Dialogue
open AppEfi.Ledger

inductive Call where
  | locateHandleBuffer (found : Option (Nat × List Nat))
  | handleProtocol (handle : Nat) (aip : Option Nat)
  | getSupportedTypes (aip : Nat) (types : Option (Nat × List Nat))
  | getInformation (aip : Nat) (block : Option (Nat × Memory))
  /-- A read of what a pool holds. -/
  | examine (pool : Nat)
  /-- `DumpHsti` on the block of a pool. -/
  | dumpHsti (pool : Nat) (block : Memory)
  | freePool (pool : Nat)
  /-- "HSTI - Not Found". -/
  | notFound

def poolOf {Content : Type} (got : Option (Nat × Content)) : Multiset Nat :=
  got.elim 0 fun got => {got.1}

def Call.move : Call → Move Nat
  | locateHandleBuffer found => { takes := 0, gives := poolOf found }
  | getSupportedTypes _ types => { takes := 0, gives := poolOf types }
  | getInformation _ block => { takes := 0, gives := poolOf block }
  | examine pool => .use pool
  | dumpHsti pool _ => .use pool
  | freePool pool => .release pool
  | handleProtocol _ _ => .keep
  | notFound => .keep

structure Firmware where
  locateHandleBuffer : List Call → Option (Nat × List Nat)
  handleProtocol : Nat → List Call → Option Nat
  getSupportedTypes : Nat → List Call → Option (Nat × List Nat)
  getInformation : Nat → List Call → Option (Nat × Memory)

/-- `StrCmp (ImplementationID, Hsti->ImplementationID) == 0`. -/
def sameText (memory : Memory) : Nat → List Nat → Bool
  | address, [] => memory.readLe address 2 == 0
  | address, character :: rest =>
      memory.readLe address 2 == character && sameText memory (address + 2) rest

/-- What is asked of a block if the role is not 0. -/
def hasRole (role : Nat) (implementationId : Option (List Nat)) (block : Memory) : Bool :=
  block.readLe 4 4 == role && implementationId.all (sameText block 8)

def selects (role : Nat) (implementationId : Option (List Nat)) (block : Memory) : Bool :=
  role == 0 || hasRole role implementationId block

abbrev Calls := Dialogue Call

section Program

variable (firmware : Firmware) (platformSecurity role : Nat)
variable (implementationId : Option (List Nat))

/-- The platform security block of a handle. -/
def askBlock (handle : Nat) : Calls (Option (Nat × Memory)) := do
  match ← ask (firmware.handleProtocol handle) (.handleProtocol handle) with
  | none => pure none
  | some aip => do
      match ← ask (firmware.getSupportedTypes aip) (.getSupportedTypes aip) with
      | none => pure none
      | some (infoTypesBuffer, infoTypes) => do
          tell (.examine infoTypesBuffer)
          tell (.freePool infoTypesBuffer)
          if platformSecurity ∈ infoTypes then
            ask (firmware.getInformation aip) (.getInformation aip)
          else pure none

def dumpSelected (pool : Nat) (block : Memory) : Calls Unit :=
  if role = 0 then tell (.dumpHsti pool block)
  else do
    tell (.examine pool)
    if hasRole role implementationId block = true then tell (.dumpHsti pool block)
    else pure ()

/-- The value tells if Hsti is set. -/
def dumpHandles (handleBuffer : Nat) : List Nat → Bool → Calls Bool
  | [], hsti => pure hsti
  | handle :: rest, hsti => do
      tell (.examine handleBuffer)
      match ← askBlock firmware platformSecurity handle with
      | none => dumpHandles handleBuffer rest hsti
      | some (pool, block) => do
          dumpSelected role implementationId pool block
          tell (.freePool pool)
          dumpHandles handleBuffer rest true

def dumpHstiData : Calls Unit := do
  match ← ask firmware.locateHandleBuffer .locateHandleBuffer with
  | none => pure ()
  | some (handleBuffer, handles) => do
      let hsti ← dumpHandles firmware platformSecurity role implementationId handleBuffer handles
        false
      tell (.freePool handleBuffer)
      if hsti = true then pure () else tell .notFound

/-- The calls of a whole run. -/
def callsMade : List Call :=
  (dumpHstiData firmware platformSecurity role implementationId []).2

end Program

/-! ## Pools -/

section Pools

variable {firmware : Firmware} {platformSecurity role : Nat}
variable {implementationId : Option (List Nat)}

theorem freePool_owns (pool : Nat) :
    Owns Call.move {pool} (tell (Call.freePool pool)) fun _ => 0 := Owns.tell rfl rfl

theorem examine_owns (pool : Nat) :
    Owns Call.move {pool} (tell (Call.examine pool)) fun _ => {pool} := Owns.tell rfl rfl

theorem askBlock_owns (handle : Nat) :
    Owns Call.move 0 (askBlock firmware platformSecurity handle) poolOf := by
  have protocol : Owns Call.move 0
      (ask (firmware.handleProtocol handle) (.handleProtocol handle)) fun _ => 0 :=
    Owns.ask (fun _ => rfl) fun _ => rfl
  refine protocol.bind fun aip => ?_
  cases aip with
  | none => exact Owns.pure rfl
  | some aip =>
      have supported : Owns Call.move 0
          (ask (firmware.getSupportedTypes aip) (.getSupportedTypes aip)) poolOf :=
        Owns.ask (fun _ => rfl) fun _ => rfl
      refine supported.bind fun types => ?_
      cases types with
      | none => exact Owns.pure rfl
      | some types =>
          refine (examine_owns types.1).bind fun _ => (freePool_owns types.1).bind fun _ => ?_
          refine Owns.ite (fun _ => ?_) fun _ => Owns.pure rfl
          exact Owns.ask (fun _ => rfl) fun _ => rfl

theorem dumpSelected_owns (pool : Nat) (block : Memory) :
    Owns Call.move {pool} (dumpSelected role implementationId pool block) fun _ => {pool} := by
  have dump : Owns Call.move {pool} (tell (Call.dumpHsti pool block)) fun _ => {pool} :=
    Owns.tell rfl rfl
  refine Owns.ite (fun _ => dump) fun _ => (examine_owns pool).bind fun _ => ?_
  exact Owns.ite (fun _ => dump) fun _ => Owns.pure rfl

theorem dumpHandles_owns (handleBuffer : Nat) (handles : List Nat) (hsti : Bool) :
    Owns Call.move {handleBuffer}
      (dumpHandles firmware platformSecurity role implementationId handleBuffer handles hsti)
      fun _ => {handleBuffer} := by
  induction handles generalizing hsti with
  | nil => exact Owns.pure rfl
  | cons handle rest ih =>
      refine (examine_owns handleBuffer).bind fun _ => ?_
      refine ((askBlock_owns handle).more {handleBuffer}).bind fun answer => ?_
      cases answer with
      | none =>
          rw [poolOf, Option.elim_none, zero_add]
          exact ih hsti
      | some answer =>
          have dump := (@dumpSelected_owns role implementationId answer.1 answer.2).frame
            {handleBuffer}
          have free := (freePool_owns answer.1).frame {handleBuffer}
          rw [zero_add] at free
          exact dump.bind fun _ => free.bind fun _ => ih true

theorem dumpHstiData_owns :
    Owns Call.move 0 (dumpHstiData firmware platformSecurity role implementationId)
      fun _ => 0 := by
  have located : Owns Call.move 0 (ask firmware.locateHandleBuffer .locateHandleBuffer) poolOf :=
    Owns.ask (fun _ => rfl) fun _ => rfl
  refine located.bind fun found => ?_
  cases found with
  | none => exact Owns.pure rfl
  | some found =>
      refine (dumpHandles_owns found.1 found.2 false).bind fun hsti => ?_
      refine (freePool_owns found.1).bind fun _ => ?_
      exact Owns.ite (fun _ => Owns.pure rfl) fun _ => Owns.tell rfl rfl

end Pools

/-! ## Reports -/

namespace Call

def asked : Call → Option Nat
  | handleProtocol handle _ => some handle
  | _ => none

def obtained : Call → Option Memory
  | getInformation _ (some block) => some block.2
  | _ => none

def dumped : Call → Option Memory
  | dumpHsti _ block => some block
  | _ => none

def isNotFound : Call → Bool
  | notFound => true
  | _ => false

end Call

/-- Calls that ask some handles, get some blocks and dump some, and find fault with nothing. -/
structure Shows (handles : List Nat) (blocks shown : List Memory) (calls : List Call) : Prop where
  asked : calls.filterMap Call.asked = handles
  obtained : calls.filterMap Call.obtained = blocks
  dumped : calls.filterMap Call.dumped = shown
  silent : calls.any Call.isNotFound = false

theorem Shows.append {handles more : List Nat} {blocks behind shown further : List Memory}
    {calls later : List Call} (first : Shows handles blocks shown calls)
    (second : Shows more behind further later) :
    Shows (handles ++ more) (blocks ++ behind) (shown ++ further) (calls ++ later) where
  asked := by rw [List.filterMap_append, first.asked, second.asked]
  obtained := by rw [List.filterMap_append, first.obtained, second.obtained]
  dumped := by rw [List.filterMap_append, first.dumped, second.dumped]
  silent := by rw [List.any_append, first.silent, second.silent, Bool.or_false]

section Reported

variable {firmware : Firmware} {platformSecurity role : Nat}
variable {implementationId : Option (List Nat)}

theorem ask_adds {Value : Type} (answer : List Call → Value) (event : Value → Call) :
    Adds some (ask answer event) fun value calls => calls = [event value] :=
  Adds.ask fun _ => rfl

theorem tell_adds (call : Call) : Adds some (tell call) fun _ calls => calls = [call] :=
  Adds.tell rfl

/-- A handle is asked, and a block that it answers with is not dumped yet. -/
theorem askBlock_adds (handle : Nat) :
    Adds some (askBlock firmware platformSecurity handle) fun answer calls =>
      Shows [handle] (answer.map Prod.snd).toList [] calls := by
  refine (ask_adds _ _).bind fun aip calls same => ?_
  subst same
  cases aip with
  | none => exact Adds.pure ⟨rfl, rfl, rfl, rfl⟩
  | some aip =>
      refine (ask_adds _ _).bind fun types calls same => ?_
      subst same
      cases types with
      | none => exact Adds.pure ⟨rfl, rfl, rfl, rfl⟩
      | some types =>
          refine (tell_adds _).bind fun _ calls same => ?_
          subst same
          refine (tell_adds _).bind fun _ calls same => ?_
          subst same
          refine Adds.ite (fun _ => Adds.ask fun block => ?_) fun _ =>
            Adds.pure ⟨rfl, rfl, rfl, rfl⟩
          cases block with
          | none => exact ⟨rfl, rfl, rfl, rfl⟩
          | some block => exact ⟨rfl, rfl, rfl, rfl⟩

theorem dumpSelected_adds (pool : Nat) (block : Memory) :
    Adds some (dumpSelected role implementationId pool block) fun _ calls =>
      Shows [] [] ([block].filter (selects role implementationId)) calls := by
  refine Adds.ite (fun all => Adds.tell ?_) fun one => ?_
  · have selected : selects role implementationId block = true := by simp [selects, all]
    rw [List.filter_singleton, selected, cond_true]
    exact ⟨rfl, rfl, rfl, rfl⟩
  · have same : selects role implementationId block = hasRole role implementationId block := by
      simp [selects, one]
    refine (tell_adds _).bind fun _ calls told => ?_
    subst told
    rw [List.filter_singleton, same]
    refine Adds.ite (fun fits => Adds.tell ?_) fun other => Adds.pure ?_
    · rw [fits, cond_true]
      exact ⟨rfl, rfl, rfl, rfl⟩
    · rw [Bool.eq_false_iff.mpr other, cond_false]
      exact ⟨rfl, rfl, rfl, rfl⟩

theorem dumpHandles_adds (handleBuffer : Nat) (handles : List Nat) (hsti : Bool) :
    Adds some
      (dumpHandles firmware platformSecurity role implementationId handleBuffer handles hsti)
      fun value calls => ∃ blocks,
        Shows handles blocks (blocks.filter (selects role implementationId)) calls ∧
          value = (hsti || !blocks.isEmpty) := by
  induction handles generalizing hsti with
  | nil => exact Adds.pure ⟨[], ⟨rfl, rfl, rfl, rfl⟩, by simp⟩
  | cons handle rest ih =>
      refine (tell_adds _).bind fun _ calls same => ?_
      subst same
      have quiet : Shows [] [] [] [Call.examine handleBuffer] := ⟨rfl, rfl, rfl, rfl⟩
      refine (askBlock_adds handle).bind fun answer calls asks => ?_
      cases answer with
      | none =>
          refine (ih hsti).consequence ?_
          rintro value later ⟨blocks, shows, same⟩
          exact ⟨blocks, quiet.append (asks.append shows), same⟩
      | some answer =>
          refine (dumpSelected_adds answer.1 answer.2).bind fun _ dumps dumped => ?_
          refine (tell_adds _).bind fun _ frees same => ?_
          subst same
          have freed : Shows [] [] [] [Call.freePool answer.1] := ⟨rfl, rfl, rfl, rfl⟩
          refine (ih true).consequence ?_
          rintro value later ⟨blocks, shows, same⟩
          refine ⟨answer.2 :: blocks, ?_, by simpa using same⟩
          have whole := quiet.append (asks.append (dumped.append (freed.append shows)))
          have both : (answer.2 :: blocks).filter (selects role implementationId) =
              [answer.2].filter (selects role implementationId) ++
                blocks.filter (selects role implementationId) :=
            List.filter_append [answer.2] blocks
          rw [both]
          exact whole

theorem dumpHstiData_adds :
    Adds some (dumpHstiData firmware platformSecurity role implementationId) fun _ calls =>
      ∃ found later blocks missing, calls = .locateHandleBuffer found :: later ++ missing ∧
        Shows (found.elim [] Prod.snd) blocks (blocks.filter (selects role implementationId))
          later ∧
        missing = if found.isSome ∧ blocks = [] then [.notFound] else [] := by
  refine (ask_adds _ _).bind fun found calls same => ?_
  subst same
  cases found with
  | none => exact Adds.pure ⟨none, [], [], [], rfl, ⟨rfl, rfl, rfl, rfl⟩, rfl⟩
  | some found =>
      refine (dumpHandles_adds found.1 found.2 false).bind fun hsti shown reported => ?_
      obtain ⟨blocks, shows, same⟩ := reported
      refine (tell_adds _).bind fun _ frees told => ?_
      subst told
      have freed : Shows [] [] [] [Call.freePool found.1] := ⟨rfl, rfl, rfl, rfl⟩
      have both := shows.append freed
      simp only [List.append_nil] at both
      refine Adds.ite (fun set => Adds.pure ?_) fun unset => Adds.tell ?_
      · refine ⟨some found, _, blocks, [], ?_, both, ?_⟩
        · simp
        · have some_ : blocks ≠ [] := by
            rintro rfl
            simp [same] at set
          simp [some_]
      · refine ⟨some found, _, blocks, [.notFound], ?_, both, ?_⟩
        · simp
        · have none_ : blocks = [] := by
            by_contra some_
            exact unset (by simpa [same] using some_)
          simp [none_]

end Reported

/-- The calls of a run that has found handles, or none, and got blocks. -/
structure Made (role : Nat) (implementationId : Option (List Nat))
    (found : Option (Nat × List Nat)) (blocks : List Memory) (calls : List Call) : Prop where
  asked : calls.filterMap Call.asked = found.elim [] Prod.snd
  obtained : calls.filterMap Call.obtained = blocks
  dumped : calls.filterMap Call.dumped = blocks.filter (selects role implementationId)
  missing : calls.any Call.isNotFound = true ↔ found.isSome ∧ blocks = []

/-- Whatever the firmware answers, only held pools are used and freed, and none is held at the
end.  Every handle that was found is asked, in order; of the blocks that are got those of the role
and the implementation are dumped, in order; and "Not Found" is printed just if handles were found
and no block was got, so not if all that were got are of other roles. -/
theorem dumpHstiData_run (firmware : Firmware) (platformSecurity role : Nat)
    (implementationId : Option (List Nat)) :
    Orderly Call.move (callsMade firmware platformSecurity role implementationId) ∧
      held Call.move (callsMade firmware platformSecurity role implementationId) = 0 ∧
      ∃ found blocks,
        (callsMade firmware platformSecurity role implementationId).head? =
          some (.locateHandleBuffer found) ∧
        Made role implementationId found blocks
          (callsMade firmware platformSecurity role implementationId) := by
  obtain ⟨orderly, nothing⟩ := @dumpHstiData_owns firmware platformSecurity role implementationId
    0 [] ⟨orderly_nil, rfl⟩
  refine ⟨orderly, nothing, ?_⟩
  obtain ⟨added, passed, found, later, blocks, missing, told, shows, shown⟩ :=
    @dumpHstiData_adds firmware platformSecurity role implementationId []
  rw [List.filterMap_some] at told
  have whole : callsMade firmware platformSecurity role implementationId =
      ([.locateHandleBuffer found] ++ later) ++ missing := told ▸ passed
  have head : Shows [] [] [] [Call.locateHandleBuffer found] := ⟨rfl, rfl, rfl, rfl⟩
  have all := head.append shows
  -- Behind the calls for the handles comes at most the line that nothing was found.
  have last : missing.filterMap Call.asked = [] ∧ missing.filterMap Call.obtained = [] ∧
      missing.filterMap Call.dumped = [] ∧
      (missing.any Call.isNotFound = true ↔ found.isSome ∧ blocks = []) := by
    rw [shown]
    by_cases empty : found.isSome ∧ blocks = []
    · rw [if_pos empty]
      exact ⟨rfl, rfl, rfl, iff_of_true rfl empty⟩
    · rw [if_neg empty]
      exact ⟨rfl, rfl, rfl, iff_of_false Bool.false_ne_true empty⟩
  obtain ⟨lastAsked, lastObtained, lastDumped, lastMissing⟩ := last
  rw [whole]
  refine ⟨found, blocks, rfl, ?_, ?_, ?_, ?_⟩
  · rw [List.filterMap_append, all.asked, lastAsked, List.append_nil, List.nil_append]
  · rw [List.filterMap_append, all.obtained, lastObtained, List.append_nil, List.nil_append]
  · rw [List.filterMap_append, all.dumped, lastDumped, List.append_nil, List.nil_append]
  · rw [List.any_append, all.silent, Bool.false_or, lastMissing]

end AppEfi.HstiWsmtDump
