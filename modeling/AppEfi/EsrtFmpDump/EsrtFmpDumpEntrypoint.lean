import AppEfi.EsrtFmpDump.CapsuleVolumes
import AppEfi.EsrtFmpDump.FmpPools

/-!
# The dump of ESRT and FMP

EsrtFmpDumpEntrypoint from the FMPs over the capsule volumes and the ESRT to the repositories
that the ESRT driver keeps in variables, and what it holds at its end.
-/

set_option autoImplicit false

namespace AppEfi.Fmp

open AppEfi.Dialogue
open AppEfi.Fields
open AppEfi.Ledger

/-- What does not change while the application runs. -/
structure System where
  memory : Memory
  constants : CapsuleConstants
  hobList : Nat
  /-- The ESRT of the configuration table. -/
  esrt : Option Nat
  /-- LocateProtocol finds ESRT_MANAGEMENT_PROTOCOL. -/
  esrtProtocol : Bool

section Entrypoint

variable (firmware : Firmware) (system : System)

def dumpEsrtAcpiData : Calls Unit := do
  tell (.print [.banner "ESRT ACPI TABLE"])
  match system.esrt with
  | none => tell (.print [.esrtNotFound])
  | some esrt => tell (.print (dumpEsrt system.memory esrt ++ [.blank]))

/-- The loop of DumpEsrtManagementData: the entries come from the protocol, by the classes of the
table. -/
def dumpManagedEntries (address : Nat) : Nat → Nat → Calls Unit
  | _, 0 => tell (.print [.blank])
  | index, count + 1 => do
      tell (.print [.esrtEntry index])
      let fwClass := system.memory.readLe address 16
      let entry ← ask (firmware.getEsrtEntry fwClass) (.getEsrtEntry fwClass)
      tell (.print (entry.elim [] dumpEsrtEntry))
      dumpManagedEntries (address + sizeofEsrtEntry) (index + 1) count

def dumpEsrtManagementData : Calls Unit := do
  tell (.print [.banner "EDKII ESRT MANAGEMENT DATA"])
  if system.esrtProtocol then
    match system.esrt with
    | none => pure ()
    | some esrt =>
        dumpManagedEntries firmware system (esrt + 16) 0 (system.memory.readLe esrt 4)
  else tell (.print [.esrtProtocolNotFound])

/-- A repository, of which nothing frees the pool: its value is that pool. -/
def dumpVariable (name : String) : Calls (Option Nat) := do
  match ← ask (firmware.getVariable2 name) (.getVariable2 name) with
  | none => do
      tell (.print [.variable_ name none])
      pure none
  | some (esrtRepository, repositorySize, data) => do
      tell (.print [.variable_ name (some repositorySize)])
      tell (.examine esrtRepository)
      tell (.print (dumpEsrtRepository data repositorySize))
      pure (some esrtRepository)

def dumpEsrtDriverPrivateData : Calls (Option Nat × Option Nat) := do
  tell (.print [.banner "EDKII ESRT DRIVER PRIVATE DATA"])
  let fmp ← dumpVariable firmware "EsrtFmp"
  let nonFmp ← dumpVariable firmware "EsrtNonFmp"
  tell (.print [.blank])
  pure (fmp, nonFmp)

/-- The parts behind the capsule volumes. -/
def dumpEsrtParts : Calls (Option Nat × Option Nat) := do
  dumpEsrtAcpiData system
  dumpEsrtManagementData firmware system
  dumpEsrtDriverPrivateData firmware

/-- The value tells the repositories that were got; `none` means that the walk over the HOB list
does not end within `fuel`. -/
def esrtFmpDumpEntrypoint (fuel : Nat) : Calls (Option (Option Nat × Option Nat)) := do
  dumpFmpData firmware
  match dumpCapsuleVolumeHobData system.memory system.constants fuel system.hobList with
  | none => pure none
  | some lines => do
      tell (.printCapsules lines)
      let repositories ← dumpEsrtParts firmware system
      pure (some repositories)

end Entrypoint

/-! ## Pools -/

section Pools

variable {firmware : Firmware} {system : System}

theorem dumpEsrtAcpiData_owns : Owns Call.move 0 (dumpEsrtAcpiData system) fun _ => 0 := by
  refine (print_owns _ _).bind fun _ => ?_
  cases system.esrt with
  | none => exact print_owns _ _
  | some esrt => exact print_owns _ _

theorem dumpManagedEntries_owns (address index count : Nat) :
    Owns Call.move 0 (dumpManagedEntries firmware system address index count) fun _ => 0 := by
  induction count generalizing address index with
  | zero => exact print_owns _ _
  | succ count ih =>
      have get (fwClass : Nat) : Owns Call.move 0
          (ask (firmware.getEsrtEntry fwClass) (.getEsrtEntry fwClass)) fun _ => 0 :=
        Owns.ask (fun _ => rfl) fun _ => rfl
      exact (print_owns _ _).bind fun _ => (get _).bind fun entry =>
        (print_owns _ _).bind fun _ => ih _ _

theorem dumpEsrtManagementData_owns :
    Owns Call.move 0 (dumpEsrtManagementData firmware system) fun _ => 0 := by
  refine (print_owns _ _).bind fun _ => Owns.ite (fun _ => ?_) fun _ => print_owns _ _
  cases system.esrt with
  | none => exact Owns.pure rfl
  | some esrt => exact dumpManagedEntries_owns _ _ _

theorem dumpVariable_owns (name : String) :
    Owns Call.move 0 (dumpVariable firmware name) lost := by
  have get : Owns Call.move 0 (ask (firmware.getVariable2 name) (.getVariable2 name))
      fun found => found.elim 0 fun found => {found.1} :=
    Owns.ask (fun found => by cases found <;> rfl) fun found => by cases found <;> rfl
  refine get.bind fun found => ?_
  cases found with
  | none => exact (print_owns _ _).bind fun _ => Owns.pure rfl
  | some found =>
      exact (print_owns _ _).bind fun _ => (examine_owns found.1).bind fun _ =>
        (print_owns _ _).bind fun _ => Owns.pure rfl

theorem dumpEsrtDriverPrivateData_owns :
    Owns Call.move 0 (dumpEsrtDriverPrivateData firmware) fun repositories =>
      lost repositories.1 + lost repositories.2 := by
  refine (print_owns _ _).bind fun _ => (dumpVariable_owns "EsrtFmp").bind fun fmp => ?_
  refine ((dumpVariable_owns "EsrtNonFmp").more (lost fmp)).bind fun nonFmp => ?_
  exact (print_owns _ _).bind fun _ => Owns.pure (add_comm _ _)

theorem esrtFmpDumpEntrypoint_owns (fuel : Nat) :
    Owns Call.move 0 (esrtFmpDumpEntrypoint firmware system fuel) fun repositories =>
      repositories.elim 0 fun repositories => lost repositories.1 + lost repositories.2 := by
  refine dumpFmpData_owns.bind fun _ => ?_
  cases dumpCapsuleVolumeHobData system.memory system.constants fuel system.hobList with
  | none => exact Owns.pure rfl
  | some lines =>
      have print : Owns Call.move 0 (tell (Call.printCapsules lines)) fun _ => 0 :=
        Owns.tell rfl rfl
      refine print.bind fun _ => ?_
      refine Owns.bind (dumpEsrtAcpiData_owns.bind fun _ =>
        dumpEsrtManagementData_owns.bind fun _ => dumpEsrtDriverPrivateData_owns) ?_
      exact fun repositories => Owns.pure rfl

/-- Whatever the firmware answers, only pools that are held are read, handed out and freed, and
what is held at the end are the repositories of the ESRT driver that were got. -/
theorem esrtFmpDumpEntrypoint_pools (firmware : Firmware) (system : System) (fuel : Nat) :
    Orderly Call.move (esrtFmpDumpEntrypoint firmware system fuel []).2 ∧
      held Call.move (esrtFmpDumpEntrypoint firmware system fuel []).2 =
        (esrtFmpDumpEntrypoint firmware system fuel []).1.elim 0 fun repositories =>
          lost repositories.1 + lost repositories.2 := by
  have owns := @esrtFmpDumpEntrypoint_owns firmware system fuel 0 []
    ⟨orderly_nil, rfl⟩
  exact ⟨owns.1, owns.2.trans (add_zero _)⟩

end Pools

end AppEfi.Fmp
