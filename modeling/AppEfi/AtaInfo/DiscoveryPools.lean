import AppEfi.AtaInfo.DiscoverIdeDevice

/-!
# The pools of the discovery

What AtaInfo holds, function by function: the buffers of a device that it found are held until
they are dumped, and then only its S.M.A.R.T. data.
-/

set_option autoImplicit false

namespace AppEfi.AtaInfo

open AppEfi.Dialogue
open AppEfi.Ledger

def smartPool (found : Option Found) : Multiset Nat :=
  ((found.bind (·.pSmartData)).elim 0 fun pool => {pool})

/-- The pools of IDE_DEV. -/
def devicePools (found : Option Found) : Multiset Nat :=
  found.elim 0 fun found => {found.pIdData} + smartPool (some found)

def smartPools (reports : List Report) : Multiset Nat :=
  ((reports.filterMap fun report => report.found.bind (·.pSmartData) : List Nat) : Multiset Nat)

section Pools

variable {platform : Platform} {channel : Channel} {slot : UInt8} {exist : Exist}

theorem onPorts_owns {Value : Type} (program : Driver Value) :
    Owns Step.move 0 (onPorts channel program) fun _ => 0 :=
  Owns.embed fun _ => rfl

theorem checkPowerMode_owns :
    Owns Step.move 0 (checkPowerMode platform channel slot) fun _ => 0 :=
  (onPorts_owns _).bind fun _ => Owns.pure rfl

theorem detectIdeController_owns :
    Owns Step.move 0 (detectIdeController platform channel slot exist) fun _ => 0 :=
  (onPorts_owns _).bind fun _ => Owns.pure rfl

theorem allocatePool_owns :
    Owns Step.move 0 (allocatePool platform) fun pool => pool.elim 0 fun pool => {pool} :=
  Owns.ask (fun pool => by cases pool <;> rfl) fun pool => by cases pool <;> rfl

theorem freePool_owns (pool : Nat) :
    Owns Step.move {pool} (tell (Step.freePool pool)) fun _ => 0 := Owns.tell rfl rfl

theorem pioDataIn_owns (command : AtaCommand) (pool : Nat) :
    Owns Step.move {pool} (pioDataIn platform channel slot command pool) fun _ => {pool} := by
  have buffer : Owns Step.move {pool} (tell (Step.buffer pool)) fun _ => {pool} := Owns.tell rfl rfl
  refine buffer.bind fun _ => ?_
  exact ((onPorts_owns _).beside {pool}).bind fun _ => Owns.pure rfl

theorem readSmart_owns (pool : Nat) :
    Owns Step.move {pool} (readSmart platform channel slot pool) fun smart =>
      smart.elim 0 fun pool => {pool} := by
  refine (pioDataIn_owns _ pool).bind fun answer => Owns.ite (fun _ => ?_) fun _ => ?_
  · exact Owns.pure rfl
  · exact (freePool_owns pool).bind fun _ =>
      Owns.pure rfl

theorem ataIdentifyInto_owns (identify smart : Nat) :
    Owns Step.move ({identify} + {smart})
      (ataIdentifyInto platform channel slot identify smart) devicePools := by
  refine ((pioDataIn_owns _ identify).frame {smart}).bind fun answer =>
    Owns.ite (fun _ => ?_) fun _ => ?_
  · have read := (@readSmart_owns platform channel slot smart).frame {identify}
    rw [add_comm] at read
    refine read.bind fun pSmartData => ?_
    rw [add_comm]
    exact Owns.pure rfl
  · refine ((freePool_owns identify).frame {smart}).bind fun _ => ?_
    rw [zero_add]
    exact (freePool_owns smart).bind fun _ => Owns.pure rfl

theorem ataIdentify_owns :
    Owns Step.move 0 (ataIdentify platform channel slot) devicePools := by
  refine allocatePool_owns.bind fun identify => ?_
  cases identify with
  | none => exact Owns.pure rfl
  | some identify =>
      refine (allocatePool_owns.more {identify}).bind fun smart => ?_
      cases smart with
      | none =>
          rw [Option.elim_none, zero_add]
          exact (freePool_owns identify).bind fun _ => Owns.pure rfl
      | some smart =>
          rw [Option.elim_some, add_comm]
          exact ataIdentifyInto_owns identify smart

theorem atapiIdentify_owns :
    Owns Step.move 0 (atapiIdentify platform channel slot) devicePools := by
  refine allocatePool_owns.bind fun identify => ?_
  cases identify with
  | none => exact Owns.pure rfl
  | some identify =>
      refine (pioDataIn_owns _ identify).bind fun answer => Owns.ite (fun _ => ?_) fun _ => ?_
      · exact Owns.pure rfl
      · exact (freePool_owns identify).bind fun _ => Owns.pure rfl

theorem discoverIdeDevice_owns :
    Owns Step.move 0 (discoverIdeDevice platform channel slot exist) fun answer =>
      devicePools answer.1 := by
  refine checkPowerMode_owns.bind fun sataFlag => detectIdeController_owns.bind fun detected =>
    Owns.ite (fun _ => ?_) fun _ => ?_
  · exact Owns.pure rfl
  · refine ataIdentify_owns.bind fun found => ?_
    cases found with
    | some found => exact Owns.pure rfl
    | none =>
        refine atapiIdentify_owns.bind fun found => ?_
        exact Owns.pure rfl

theorem dumpSmart_owns (found : Found) :
    Owns Step.move (smartPool (some found)) (dumpSmart found) fun _ =>
      smartPool (some found) := by
  refine Owns.ite (fun _ => ?_) fun _ => Owns.pure rfl
  cases known : found.pSmartData with
  | none => exact Owns.pure rfl
  | some pool =>
      have held : smartPool (some found) = {pool} := by
        rw [smartPool, Option.bind_some, known]
        rfl
      rw [held]
      exact Owns.tell rfl rfl

theorem dumpFound_owns (found : Found) :
    Owns Step.move (devicePools (some found)) (dumpFound found) fun _ =>
      smartPool (some found) := by
  have identify : Owns Step.move {found.pIdData} (tell (Step.dumpIdentifyData found.pIdData))
      fun _ => {found.pIdData} := Owns.tell rfl rfl
  refine (identify.frame _).bind fun _ => ?_
  rw [add_comm]
  refine ((dumpSmart_owns found).frame _).bind fun _ => ?_
  rw [add_comm]
  have free := (freePool_owns found.pIdData).frame (smartPool (some found))
  rwa [zero_add] at free

theorem examine_owns :
    Owns Step.move 0 (examine platform channel slot exist) fun answer => smartPool answer.1 := by
  refine discoverIdeDevice_owns.bind fun answer => ?_
  obtain ⟨found, exist⟩ := answer
  cases found with
  | none => exact Owns.pure rfl
  | some found =>
      refine (dumpFound_owns found).bind fun _ => ?_
      exact Owns.pure rfl

theorem printDevicePathStr_owns :
    Owns Step.move 0 (printDevicePathStr platform) fun _ => 0 := by
  refine allocatePool_owns.bind fun pool => ?_
  cases pool with
  | none => exact Owns.pure rfl
  | some pool =>
      have read : Owns Step.move {pool} (tell (Step.read pool)) fun _ => {pool} := Owns.tell rfl rfl
      exact read.bind fun _ => freePool_owns pool

theorem smartPool_eq_toList (found : Option Found) :
    smartPool found = ((found.bind (·.pSmartData)).toList : Multiset Nat) := by
  rw [smartPool]
  cases found.bind (·.pSmartData) <;> rfl

theorem smartPools_append (reports others : List Report) :
    smartPools (reports ++ others) = smartPools reports + smartPools others := by
  rw [smartPools, List.filterMap_append, ← Multiset.coe_add]
  rfl

theorem smartPools_singleton (report : Report) : smartPools [report] = smartPool report.found := by
  rw [smartPool_eq_toList, smartPools, List.filterMap_cons]
  cases report.found.bind (·.pSmartData) <;> rfl

/-- The second device is examined last. -/
theorem smartPools_pair (master slave : Report) :
    smartPools [master, slave] = smartPool slave.found + smartPool master.found := by
  rw [← smartPools_singleton, ← smartPools_singleton, add_comm, ← smartPools_append]
  rfl

theorem infoChannel_owns (handle : Nat) (controller : Controller) (number : UInt8) :
    Owns Step.move 0 (infoChannel platform handle controller number exist) fun answer =>
      smartPools answer.1 := by
  rw [infoChannel]
  split
  · exact Owns.pure rfl
  · refine examine_owns.bind fun master => ?_
    refine (examine_owns.more (smartPool master.1)).bind fun slave => ?_
    exact Owns.pure (smartPools_pair _ _)

theorem infoHandle_owns (handleBuffer handle : Nat) (controller : Controller) :
    Owns Step.move {handleBuffer}
      (infoHandle platform handleBuffer handle controller exist) fun answer =>
      smartPools answer.1 + {handleBuffer} := by
  have nothing : Owns Step.move 0 (pure ([], exist) : Discovery (List Report × Exist))
      fun answer => smartPools answer.1 := Owns.pure rfl
  have read : Owns Step.move {handleBuffer} (tell (Step.read handleBuffer))
      fun _ => {handleBuffer} := Owns.tell rfl rfl
  refine read.bind fun _ => Owns.more ?_ {handleBuffer}
  split
  · exact nothing
  · refine Owns.ite (fun _ => nothing) fun _ => ?_
    have path : Owns Step.move 0 (printDevicePath platform controller) fun _ => 0 :=
      Owns.ite (fun _ => printDevicePathStr_owns) fun _ => Owns.pure rfl
    refine path.bind fun _ => Owns.ite (fun _ => nothing) fun _ => ?_
    refine (infoChannel_owns handle controller 0).bind fun primary => ?_
    refine ((infoChannel_owns handle controller 1).more _).bind fun secondary => ?_
    refine Owns.pure ?_
    rw [smartPools_append, add_comm]

theorem infoHandles_owns (handleBuffer handle : Nat) (controllers : List Controller) :
    Owns Step.move {handleBuffer}
      (infoHandles platform handleBuffer handle controllers exist) fun reports =>
      smartPools reports + {handleBuffer} := by
  induction controllers generalizing handle exist with
  | nil => exact Owns.pure (zero_add _)
  | cons controller rest ih =>
      refine (infoHandle_owns handleBuffer handle controller).bind fun answer => ?_
      have later := (@ih answer.2 (handle + 1)).frame (smartPools answer.1)
      rw [add_comm] at later
      refine later.bind fun others => Owns.pure ?_
      rw [smartPools_append, add_comm _ (smartPools answer.1), ← add_assoc]

end Pools

/-- AtaInfo frees and reads only what it holds, whatever is behind the channels and whatever
AllocatePool answers.  What it never frees is the handle buffer and the S.M.A.R.T. data of each
disk that it reports. -/
theorem ataInfo_pools (platform : Platform) (controllers : List Controller) (exist : Exist) :
    Orderly Step.move (ataInfo platform controllers exist []).2 ∧
      held Step.move (ataInfo platform controllers exist []).2 =
        smartPools (ataInfo platform controllers exist []).1.2 +
          ((ataInfo platform controllers exist []).1.1.elim 0 fun handleBuffer =>
            {handleBuffer}) := by
  have owns : Owns Step.move 0 (ataInfo platform controllers exist) fun answer =>
      smartPools answer.2 + answer.1.elim 0 fun handleBuffer => {handleBuffer} := by
    refine allocatePool_owns.bind fun pool => ?_
    cases pool with
    | none => exact Owns.pure rfl
    | some handleBuffer =>
        exact (infoHandles_owns handleBuffer 0 controllers).bind fun _ => Owns.pure rfl
  simpa using owns 0 [] ⟨orderly_nil, rfl⟩

end AppEfi.AtaInfo
