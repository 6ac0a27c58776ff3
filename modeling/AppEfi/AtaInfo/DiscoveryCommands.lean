import AppEfi.AtaInfo.DiscoverIdeDevice

/-!
# The commands of the discovery

Both devices of a channel share its registers, and a command goes to the one that was selected
last.  The writes to the ports of a channel are told in order, so that each command has its
selection before it.
-/

set_option autoImplicit false

namespace AppEfi.AtaInfo

open AppEfi.Dialogue

abbrev Write := Port × UInt8

def Access.write : Access → Option Write
  | .writeB port value => some (port, value)
  | _ => none

def Step.write : Step → Option (Channel × Write)
  | .port channel access => access.write.map (Prod.mk channel)
  | _ => none

/-- All writes are on the channel. -/
def On (channel : Channel) (told : List Write → Prop) (writes : List (Channel × Write)) : Prop :=
  ∃ own, writes = own.map (Prod.mk channel) ∧ told own

/-- The writes on a channel. -/
def writesOn (channel : Channel) (writes : List (Channel × Write)) : List Write :=
  writes.filterMap fun write => if write.1 = channel then some write.2 else none

/-- The commands, each with what was last written to Head. -/
def commands : Option UInt8 → List Write → List (Option UInt8 × UInt8)
  | _, [] => []
  | _, (.head, value) :: rest => commands (some value) rest
  | head, (.reg, value) :: rest => (head, value) :: commands head rest
  | head, _ :: rest => commands head rest

def diagnostics (writes : List Write) : Nat :=
  writes.countP (· = (.reg, executeDeviceDiagnostic))

/-- Each command but the diagnostic goes to the device, whatever was selected before. -/
def Ordered (slot : UInt8) (writes : List Write) : Prop :=
  ∀ head, ∀ command ∈ commands head writes,
    command.2 ≠ executeDeviceDiagnostic → command.1 = some (selects slot)

theorem ordered_nil (slot : UInt8) : Ordered slot [] := by
  intro head command member
  cases member

theorem commands_append (head : Option UInt8) (first second : List Write) :
    ∃ later, commands head (first ++ second) = commands head first ++ commands later second := by
  induction first generalizing head with
  | nil => exact ⟨head, rfl⟩
  | cons write rest ih =>
      obtain ⟨port, value⟩ := write
      cases port with
      | head => exact ih (some value)
      | reg =>
          obtain ⟨later, same⟩ := ih head
          exact ⟨later, congrArg ((head, value) :: ·) same⟩
      | _ => exact ih head

theorem Ordered.append {slot : UInt8} {first second : List Write} (ordered : Ordered slot first)
    (more : Ordered slot second) : Ordered slot (first ++ second) := by
  intro head command member
  obtain ⟨later, same⟩ := commands_append head first second
  rw [same, List.mem_append] at member
  rcases member with member | member
  · exact ordered head command member
  · exact more later command member

theorem diagnostics_append (first second : List Write) :
    diagnostics (first ++ second) = diagnostics first + diagnostics second :=
  List.countP_append

/-! ## Transfers -/

section Transfers

variable {Value Other : Type} {device : Device}

/-- A program that writes nothing. -/
def Silent (program : Driver Value) : Prop :=
  Adds Access.write program fun _ writes => writes = []

theorem Silent.bind {program : Driver Value} {next : Value → Driver Other}
    {post : Other → List Write → Prop} (silent : Silent program)
    (later : ∀ value, Adds Access.write (next value) post) :
    Adds Access.write (program >>= next) post := by
  refine Adds.bind silent ?_
  rintro value _ rfl
  exact later value

theorem write_bind {port : Port} {data : UInt8} {next : Unit → Driver Other}
    {post : Other → List Write → Prop}
    (later : Adds Access.write (next ()) fun other writes => post other ((port, data) :: writes)) :
    Adds Access.write (ideWritePortB port data >>= next) post := by
  have wrote : Adds Access.write (ideWritePortB port data)
      fun _ writes => writes = [(port, data)] := Adds.tell rfl
  refine wrote.bind ?_
  rintro _ _ rfl
  exact later

theorem silent_pure (value : Value) : Silent (pure value : Driver Value) := Adds.pure rfl

theorem ideReadPortB_silent (port : Port) : Silent (ideReadPortB device port) :=
  Adds.ask fun _ => rfl

theorem stall_silent (microseconds : Nat) : Silent (tell (Access.stall microseconds)) :=
  Adds.tell rfl

theorem poll_silent (port : Port) (mask wanted : UInt8) (delay : Nat) :
    Silent (poll device port mask wanted delay) := by
  induction delay with
  | zero => exact silent_pure _
  | succ delay ih =>
      have again : Silent (do
          tell (Access.stall 30)
          poll device port mask wanted delay) := (stall_silent 30).bind fun _ => ih
      refine (ideReadPortB_silent port).bind fun register =>
        Adds.ite (fun _ => silent_pure _) fun _ => Adds.ite (fun _ => ?_) fun _ => again
      exact (ideReadPortB_silent .reg1).bind fun _ =>
        Adds.ite (fun _ => silent_pure _) fun _ => again

theorem waitForBsyClear_silent (milliSeconds : Nat) :
    Silent (waitForBsyClear device milliSeconds) := by
  rw [waitForBsyClear]
  induction delayOf milliSeconds with
  | zero => exact silent_pure _
  | succ delay ih =>
      exact (ideReadPortB_silent .reg).bind fun _ =>
        Adds.ite (fun _ => silent_pure _) fun _ => (stall_silent 30).bind fun _ => ih

theorem checkErrorStatus_silent : Silent (checkErrorStatus device) :=
  (ideReadPortB_silent .reg).bind fun _ =>
    Adds.ite (fun _ => silent_pure _) fun _ => silent_pure _

theorem transfer_silent (byteCount : UInt32) (fuel wordCount increment buffer16 : Nat) :
    Silent (transfer device byteCount fuel wordCount increment buffer16) := by
  induction fuel generalizing wordCount increment buffer16 with
  | zero => exact silent_pure _
  | succ fuel ih =>
      refine Adds.ite (fun _ => ?_) fun _ => ?_
      · refine (poll_silent .alt _ _ _).bind fun _ => Adds.ite (fun _ => silent_pure _) fun _ => ?_
        refine checkErrorStatus_silent.bind fun _ => Adds.ite (fun _ => silent_pure _) fun _ => ?_
        have read (count : Nat) : Silent (ideReadPortWMultiple device .data count buffer16) :=
          Adds.ask fun _ => rfl
        exact (read _).bind fun _ => ih _ _ _
      · exact (poll_silent .reg _ _ _).bind fun _ => checkErrorStatus_silent.bind fun _ =>
          silent_pure _

/-- What a device is told for one command. -/
def ToldOnce (slot : UInt8) (writes : List Write) : Prop :=
  Ordered slot writes ∧ diagnostics writes = 0

theorem selects_or (slot : UInt8) : selects slot ||| (slot <<< 4) = selects slot := by
  rw [selects, UInt8.or_assoc, UInt8.or_comm 0xE0, ← UInt8.or_assoc, UInt8.or_self]

/-- A selection and the six writes of a command. -/
theorem toldOnce_command {slot ataCommand sectorCount sectorNumber cylinderLsb cylinderMsb
    feature : UInt8} (known : ataCommand ≠ executeDeviceDiagnostic) :
    ToldOnce slot [(.head, selects slot), (.sectorCount, sectorCount),
      (.sectorNumber, sectorNumber), (.cylinderLsb, cylinderLsb), (.cylinderMsb, cylinderMsb),
      (.reg1, feature), (.reg, ataCommand)] := by
  constructor
  · intro head command member _
    rw [List.mem_singleton.mp member]
  · simp [diagnostics, known]

theorem toldOnce_selected (slot : UInt8) : ToldOnce slot [(.head, selects slot)] := by
  constructor
  · intro head command member
    cases member
  · rfl

theorem toldOnce_nil (slot : UInt8) : ToldOnce slot [] := ⟨ordered_nil slot, rfl⟩

theorem sendCommand_told {slot : UInt8} {command : AtaCommand} {byteCount : UInt32} {fuel : Nat}
    (known : command.ataCommand ≠ executeDeviceDiagnostic) :
    Adds Access.write (sendCommand device command byteCount fuel) fun _ writes =>
      ToldOnce slot ((.head, selects slot) :: writes) := by
  refine (poll_silent .alt _ _ _).bind fun _ => Adds.ite (fun _ => ?_) fun _ => ?_
  · exact Adds.pure (toldOnce_selected slot)
  · refine write_bind <| write_bind <| write_bind <| write_bind <| write_bind <| write_bind ?_
    refine (transfer_silent byteCount fuel 0 256 0).consequence ?_
    rintro _ _ rfl
    exact toldOnce_command known

theorem ataPioDataIn_told {ideDev : IdeDev} {command : AtaCommand} {byteCount : UInt32}
    {fuel : Nat} (head : command.head = ideDev.device <<< 4)
    (known : command.ataCommand ≠ executeDeviceDiagnostic) :
    Adds Access.write (ataPioDataIn device ideDev command byteCount fuel) fun _ writes =>
      ToldOnce ideDev.device writes := by
  have selected : ideDev.device <<< 4 ||| 0xE0 ||| command.head = selects ideDev.device :=
    by rw [head]; exact selects_or ideDev.device
  refine (waitForBsyClear_silent _).bind fun _ => Adds.ite (fun _ => ?_) fun _ => ?_
  · exact Adds.pure (toldOnce_nil _)
  · rw [selected]
    refine write_bind (Adds.ite (fun _ => ?_) fun _ => sendCommand_told known)
    refine (poll_silent .reg _ _ _).bind fun _ => Adds.ite (fun _ => ?_) fun _ =>
      sendCommand_told known
    exact Adds.pure (toldOnce_selected _)

end Transfers

/-! ## The discovery -/

section Discovery

variable {platform : Platform} {channel : Channel} {slot : UInt8} {exist : Exist}

theorem On.append {first second both : List Write → Prop} {writes more : List (Channel × Write)}
    (on : On channel first writes) (behind : On channel second more)
    (append : ∀ writes more, first writes → second more → both (writes ++ more)) :
    On channel both (writes ++ more) := by
  obtain ⟨own, rfl, told⟩ := on
  obtain ⟨later, rfl, also⟩ := behind
  exact ⟨own ++ later, List.map_append.symm, append own later told also⟩

theorem onPorts_told {Value : Type} {program : Driver Value} {post : List Write → Prop}
    (told : Adds Access.write program fun _ writes => post writes) :
    Adds Step.write (onPorts channel program) fun _ writes => On channel post writes := by
  have same : ∀ access, Step.write (.port channel access) =
      (Access.write access).map (Prod.mk channel) := fun _ => rfl
  exact ((told.map (Prod.mk channel)).embed same).consequence fun _ _ both => both.1

/-- Both parts are told the device's commands. -/
theorem ToldOnce.append {first second : List Write} (told : ToldOnce slot first)
    (more : ToldOnce slot second) : ToldOnce slot (first ++ second) := by
  refine ⟨told.1.append more.1, ?_⟩
  rw [diagnostics_append, told.2, more.2]

theorem checkPowerModeOn_told (device : Device) :
    Adds Access.write (checkPowerModeOn device slot) fun _ writes => ToldOnce slot writes := by
  refine write_bind <| (waitForBsyClear_silent _).bind fun _ => Adds.ite (fun _ => ?_) fun _ => ?_
  · exact Adds.pure (toldOnce_selected slot)
  · refine write_bind <| (poll_silent .reg _ _ _).bind fun _ =>
      (ideReadPortB_silent .reg1).bind fun _ => Adds.pure ?_
    exact (toldOnce_selected slot).append (toldOnce_selected slot)

/-- What is told to detect the devices: for the second one nothing. -/
structure ToldDetection (slot : UInt8) (writes : List Write) : Prop where
  ordered : Ordered slot writes
  diagnostic : diagnostics writes = if slot = 1 then 0 else 1

theorem detectSlave_told (device : Device) (master : Bool) :
    Adds Access.write (detectSlave device master) fun _ writes =>
      writes = [(.head, selects 1)] := by
  refine write_bind <| (stall_silent 300).bind fun _ => (ideReadPortB_silent .reg1).bind fun _ =>
    Adds.ite (fun _ => Adds.pure rfl) fun _ => ?_
  exact (ideReadPortB_silent .reg).bind fun _ => Adds.pure rfl

theorem detectIdeControllerOn_told (device : Device) :
    Adds Access.write (detectIdeControllerOn device slot exist) fun _ writes =>
      ToldDetection slot writes := by
  refine Adds.ite (fun slave => ?_) fun master => ?_
  · exact Adds.pure ⟨ordered_nil slot, by rw [if_pos slave]; rfl⟩
  have diagnosed (rest : List Write) (quiet : rest = [] ∨ rest = [(.head, selects 1)]) :
      ToldDetection slot ((.head, selects 1) :: (.head, selects 0) ::
        (.reg, executeDeviceDiagnostic) :: rest) := by
    constructor
    · intro head command member known
      rcases quiet with rfl | rfl <;> exact absurd (List.mem_singleton.mp member ▸ rfl) known
    · rw [if_neg master]
      rcases quiet with rfl | rfl <;> decide
  have slave (found : Bool) : Adds Access.write (detectSlave device found) fun _ writes =>
      ToldDetection slot ((.head, selects 1) :: (.head, selects 0) ::
        (.reg, executeDeviceDiagnostic) :: writes) :=
    (detectSlave_told device found).consequence fun _ _ told => diagnosed _ (.inr told)
  refine write_bind <| (stall_silent 100).bind fun _ => (ideReadPortB_silent .reg).bind fun _ =>
    write_bind <| (stall_silent 100).bind fun _ => write_bind <|
    (waitForBsyClear_silent 3500).bind fun _ => (ideReadPortB_silent .reg1).bind fun _ =>
    Adds.ite (fun _ => slave true) fun _ => Adds.ite (fun _ => ?_) fun _ => slave false
  exact Adds.pure (diagnosed [] (.inl rfl))

/-- A part of the discovery that tells the channel commands of one device. -/
def Tells {Value : Type} (channel : Channel) (slot : UInt8) (program : Discovery Value) : Prop :=
  Adds Step.write program fun _ writes => On channel (ToldOnce slot) writes

section Tells

variable {Value Other : Type}

theorem Tells.bind {program : Discovery Value} {next : Value → Discovery Other}
    (tells : Tells channel slot program) (later : ∀ value, Tells channel slot (next value)) :
    Tells channel slot (program >>= next) :=
  Adds.bind tells fun value _ told => (later value).consequence fun _ _ more =>
    told.append more fun _ _ => ToldOnce.append

theorem tells_nothing : On channel (ToldOnce slot) [] := ⟨[], rfl, toldOnce_nil slot⟩

theorem tells_pure (value : Value) : Tells channel slot (pure value : Discovery Value) :=
  Adds.pure tells_nothing

theorem tells_tell {step : Step} (other : step.write = none) :
    Tells channel slot (tell step) :=
  Adds.tell (by rw [other]; exact tells_nothing)

theorem allocatePool_tells : Tells channel slot (allocatePool platform) :=
  Adds.ask fun _ => tells_nothing

theorem pioDataIn_tells {command : AtaCommand} (head : command.head = slot <<< 4)
    (known : command.ataCommand ≠ executeDeviceDiagnostic) (pool : Nat) :
    Tells channel slot (pioDataIn platform channel slot command pool) := by
  refine (tells_tell rfl).bind fun _ => Tells.bind ?_ fun _ => tells_pure _
  exact onPorts_told (ataPioDataIn_told head known)

theorem readSmart_tells (pool : Nat) :
    Tells channel slot (readSmart platform channel slot pool) := by
  have known : ataSmartCmd ≠ executeDeviceDiagnostic := by decide
  exact (pioDataIn_tells rfl known pool).bind fun _ =>
    Adds.ite (fun _ => tells_pure _) fun _ => (tells_tell rfl).bind fun _ => tells_pure _

theorem ataIdentifyInto_tells (identify smart : Nat) :
    Tells channel slot (ataIdentifyInto platform channel slot identify smart) := by
  have known : identifyDriveCmd ≠ executeDeviceDiagnostic := by decide
  refine (pioDataIn_tells rfl known identify).bind fun _ => Adds.ite (fun _ => ?_) fun _ => ?_
  · exact (readSmart_tells smart).bind fun _ => tells_pure _
  · exact (tells_tell rfl).bind fun _ => (tells_tell rfl).bind fun _ => tells_pure _

theorem ataIdentify_tells : Tells channel slot (ataIdentify platform channel slot) := by
  refine allocatePool_tells.bind fun identify => ?_
  cases identify with
  | none => exact tells_pure _
  | some identify =>
      refine allocatePool_tells.bind fun smart => ?_
      cases smart with
      | none => exact (tells_tell rfl).bind fun _ => tells_pure _
      | some smart => exact ataIdentifyInto_tells identify smart

theorem atapiIdentify_tells : Tells channel slot (atapiIdentify platform channel slot) := by
  have known : atapiIdentifyDeviceCmd ≠ executeDeviceDiagnostic := by decide
  refine allocatePool_tells.bind fun identify => ?_
  cases identify with
  | none => exact tells_pure _
  | some identify =>
      exact (pioDataIn_tells rfl known identify).bind fun _ => Adds.ite (fun _ => tells_pure _)
        fun _ => (tells_tell rfl).bind fun _ => tells_pure _

theorem dumpFound_tells (found : Found) : Tells channel slot (dumpFound found) := by
  refine (tells_tell rfl).bind fun _ => Tells.bind ?_ fun _ => tells_tell rfl
  refine Adds.ite (fun _ => ?_) fun _ => tells_pure _
  cases found.pSmartData with
  | none => exact tells_pure _
  | some pool => exact tells_tell rfl

end Tells

/-- The detection's writes come among those of commands. -/
theorem ToldDetection.append {detection last : List Write} (told : ToldDetection slot detection)
    (behind : ToldOnce slot last) : ToldDetection slot (detection ++ last) := by
  refine ⟨told.ordered.append behind.1, ?_⟩
  rw [diagnostics_append, behind.2]
  exact told.diagnostic

theorem ToldDetection.prepend {first detection : List Write}
    (told : ToldDetection slot detection) (before : ToldOnce slot first) :
    ToldDetection slot (first ++ detection) := by
  refine ⟨before.1.append told.ordered, ?_⟩
  rw [diagnostics_append, before.2, Nat.zero_add]
  exact told.diagnostic

theorem discoverIdeDevice_told :
    Adds Step.write (discoverIdeDevice platform channel slot exist) fun _ writes =>
      On channel (ToldDetection slot) writes := by
  have power : Tells channel slot (checkPowerMode platform channel slot) :=
    Tells.bind (onPorts_told (checkPowerModeOn_told _)) fun _ => tells_pure _
  have detection : Adds Step.write (detectIdeController platform channel slot exist)
      fun _ writes => On channel (ToldDetection slot) writes :=
    (onPorts_told (detectIdeControllerOn_told _)).bind fun _ _ told =>
      Adds.pure (told.append tells_nothing fun _ _ => ToldDetection.append)
  refine Adds.bind power fun sataFlag first before => detection.bind fun detected writes told => ?_
  have behind (program : Discovery (Option Found × Exist)) (tells : Tells channel slot program) :
      Adds Step.write program fun _ more =>
        On channel (ToldDetection slot) (first ++ (writes ++ more)) := by
    refine tells.consequence fun _ _ last => ?_
    have both := told.append last fun _ _ => ToldDetection.append
    exact before.append both fun _ _ first detection => detection.prepend first
  refine behind _ ?_
  refine Adds.ite (fun _ => tells_pure _) fun _ => ataIdentify_tells.bind fun found => ?_
  cases found with
  | some found => exact tells_pure _
  | none => exact atapiIdentify_tells.bind fun _ => tells_pure _

theorem examine_told :
    Adds Step.write (examine platform channel slot exist) fun _ writes =>
      On channel (ToldDetection slot) writes := by
  refine discoverIdeDevice_told.bind fun answer writes told => ?_
  obtain ⟨found, exist⟩ := answer
  refine Adds.consequence (?_ : Tells channel slot _) fun _ _ behind =>
    told.append behind fun _ _ => ToldDetection.append
  cases found with
  | none => exact tells_pure _
  | some found => exact (dumpFound_tells found).bind fun _ => tells_pure _

end Discovery

/-! ## Channels -/

/-- What a channel is told: nothing unless it is examined, and then one diagnostic, and commands
first for one device and then for the other. -/
structure ToldChannel (examined : Bool) (writes : List Write) : Prop where
  silent : examined = false → writes = []
  parts : ∃ master slave, writes = master ++ slave ∧ Ordered 0 master ∧ Ordered 1 slave ∧
    diagnostics master = (if examined then 1 else 0) ∧ diagnostics slave = 0

theorem toldChannel_nil : ToldChannel false [] :=
  ⟨fun _ => rfl, [], [], rfl, ordered_nil 0, ordered_nil 1, rfl, rfl⟩

/-- The loops come to the channel, and it has registers. -/
def Controller.examines (controller : Controller) (number : UInt8) : Bool :=
  controller.pciIo && (controller.pciData.any fun pciData => pciData.isIde && pciData.busMaster) &&
    (number == 0 || number == 1) &&
    (getIdeRegistersBaseAddr (controller.channelPciData number)).isSome

section Info

variable {platform : Platform} {exist : Exist}

theorem infoChannel_told (handle : Nat) (controller : Controller) (number : UInt8) :
    Adds Step.write (infoChannel platform handle controller number exist) fun _ writes =>
      On { handle, channel := number }
        (ToldChannel (getIdeRegistersBaseAddr (controller.channelPciData number)).isSome)
        writes := by
  rw [infoChannel]
  cases getIdeRegistersBaseAddr (controller.channelPciData number) with
  | none => exact Adds.pure ⟨[], rfl, toldChannel_nil⟩
  | some registers =>
      refine examine_told.bind fun master writes told => ?_
      refine examine_told.bind fun slave more behind => Adds.pure ?_
      rw [List.append_nil]
      refine told.append behind fun writes more told behind => ⟨nofun, ?_⟩
      exact ⟨writes, more, rfl, told.ordered, behind.ordered, told.diagnostic, behind.diagnostic⟩

theorem writesOn_append (channel : Channel) (writes more : List (Channel × Write)) :
    writesOn channel (writes ++ more) = writesOn channel writes ++ writesOn channel more :=
  List.filterMap_append

theorem On.writesOn_eq {channel : Channel} {told : List Write → Prop}
    {writes : List (Channel × Write)} (on : On channel told writes) :
    told (writesOn channel writes) := by
  obtain ⟨own, rfl, told⟩ := on
  have same : writesOn channel (own.map (Prod.mk channel)) = own := by
    rw [writesOn, List.filterMap_map]
    exact (List.filterMap_congr fun write _ => if_pos rfl).trans List.filterMap_some
  rwa [same]

theorem On.writesOn_other {channel other : Channel} {told : List Write → Prop}
    {writes : List (Channel × Write)} (on : On channel told writes) (ne : channel ≠ other) :
    writesOn other writes = [] := by
  obtain ⟨own, rfl, -⟩ := on
  rw [writesOn, List.filterMap_map, List.filterMap_eq_nil_iff]
  intro write _
  exact if_neg ne

/-- A handle's writes are on its own two channels. -/
structure ToldHandle (handle : Nat) (controller : Controller) (writes : List (Channel × Write)) :
    Prop where
  own : ∀ channel, channel.handle = handle →
    ToldChannel (controller.examines channel.channel) (writesOn channel writes)
  others : ∀ channel, channel.handle ≠ handle → writesOn channel writes = []

theorem toldHandle_nil {handle : Nat} {controller : Controller}
    (passed : ∀ number, controller.examines number = false) :
    ToldHandle handle controller [] := by
  refine ⟨fun channel _ => ?_, fun _ _ => rfl⟩
  rw [passed]
  exact toldChannel_nil

theorem toldHandle_channels {handle : Nat} {controller : Controller}
    {writes more : List (Channel × Write)}
    (primary : On { handle, channel := 0 } (ToldChannel (controller.examines 0)) writes)
    (secondary : On { handle, channel := 1 } (ToldChannel (controller.examines 1)) more) :
    ToldHandle handle controller (writes ++ more) := by
  refine ⟨?_, fun channel other => ?_⟩
  · rintro ⟨own, number⟩ rfl
    rw [writesOn_append]
    by_cases first : number = 0
    · subst first
      have apart : ({ handle := own, channel := 1 } : Channel) ≠ ⟨own, 0⟩ := by simp
      rw [secondary.writesOn_other apart, List.append_nil]
      exact primary.writesOn_eq
    by_cases second : number = 1
    · subst second
      have apart : ({ handle := own, channel := 0 } : Channel) ≠ ⟨own, 1⟩ := by simp
      rw [primary.writesOn_other apart, List.nil_append]
      exact secondary.writesOn_eq
    · have none : controller.examines number = false := by
        simp [Controller.examines, first, second]
      have apart (known : UInt8) (ne : number ≠ known) :
          ({ handle := own, channel := known } : Channel) ≠ ⟨own, number⟩ :=
        fun same => ne (congrArg Channel.channel same).symm
      rw [primary.writesOn_other (apart 0 first), secondary.writesOn_other (apart 1 second), none]
      exact toldChannel_nil
  · have ne (number : UInt8) : ({ handle, channel := number } : Channel) ≠ channel :=
      fun same => other (congrArg Channel.handle same).symm
    rw [writesOn_append, primary.writesOn_other (ne 0), secondary.writesOn_other (ne 1)]
    rfl

theorem infoHandle_told (handleBuffer handle : Nat) (controller : Controller) :
    Adds Step.write (infoHandle platform handleBuffer handle controller exist) fun _ writes =>
      ToldHandle handle controller writes := by
  have quiet : Adds Step.write (tell (Step.read handleBuffer)) fun _ writes => writes = [] :=
    Adds.tell rfl
  refine quiet.bind ?_
  rintro _ _ rfl
  cases located : (if controller.pciIo then controller.pciData else none) with
  | none =>
      refine Adds.pure (toldHandle_nil fun number => ?_)
      rw [Controller.examines]
      cases pciIo : controller.pciIo with
      | false => rfl
      | true =>
          rw [pciIo, if_pos rfl] at located
          rw [located]
          rfl
  | some pciData =>
      obtain ⟨pciIo, read⟩ := Option.ite_none_right_eq_some.mp located
      have passed (number : UInt8) (fails : (pciData.isIde && pciData.busMaster) = false) :
          controller.examines number = false := by
        rw [Controller.examines, pciIo, read, Option.any_some, fails]
        rfl
      refine Adds.ite (fun other => ?_) fun ide => ?_
      · exact Adds.pure (toldHandle_nil fun number => passed number (by simp [other]))
      have path : Adds Step.write (printDevicePath platform controller) fun _ writes =>
          writes = [] := by
        refine Adds.ite (fun _ => ?_) fun _ => Adds.pure rfl
        have pool : Adds Step.write (allocatePool platform) fun _ writes => writes = [] :=
          Adds.ask fun _ => rfl
        refine pool.bind ?_
        rintro (_ | devicePathStr) _ rfl
        · exact Adds.pure rfl
        · have read : Adds Step.write (tell (Step.read devicePathStr)) fun _ writes =>
              writes = [] := Adds.tell rfl
          refine read.bind ?_
          rintro _ _ rfl
          exact Adds.tell rfl
      refine path.bind ?_
      rintro _ _ rfl
      refine Adds.ite (fun other => ?_) fun master => ?_
      · exact Adds.pure (toldHandle_nil fun number => passed number (by simp [other]))
      have examines (number : UInt8) (known : (number == 0 || number == 1) = true) :
          controller.examines number =
            (getIdeRegistersBaseAddr (controller.channelPciData number)).isSome := by
        rw [not_not] at ide master
        rw [Controller.examines, pciIo, read, Option.any_some, ide, master, known]
        rfl
      refine (infoChannel_told handle controller 0).bind fun answer writes primary => ?_
      refine (infoChannel_told handle controller 1).bind fun last more secondary =>
        Adds.pure ?_
      rw [← examines 0 rfl] at primary
      rw [← examines 1 rfl] at secondary
      rw [List.append_nil, List.nil_append, List.nil_append]
      exact toldHandle_channels primary secondary

theorem infoHandles_told (handleBuffer handle : Nat) (controllers : List Controller) :
    Adds Step.write (infoHandles platform handleBuffer handle controllers exist) fun _ writes =>
      ∀ channel, (channel.handle < handle → writesOn channel writes = []) ∧
        (handle ≤ channel.handle →
          ToldChannel ((controllers[channel.handle - handle]?).any fun controller =>
            controller.examines channel.channel) (writesOn channel writes)) := by
  induction controllers generalizing handle exist with
  | nil => exact Adds.pure fun channel => ⟨fun _ => rfl, fun _ => toldChannel_nil⟩
  | cons controller rest ih =>
      refine (infoHandle_told handleBuffer handle controller).bind fun answer writes own => ?_
      refine (ih (handle + 1)).bind fun others more behind => Adds.pure fun channel => ?_
      obtain ⟨before, later⟩ := behind channel
      rw [List.append_nil, writesOn_append]
      refine ⟨fun below => ?_, fun above => ?_⟩
      · rw [own.others channel (Nat.ne_of_lt below), before (Nat.lt_succ_of_lt below)]
        rfl
      · rcases Nat.eq_or_lt_of_le above with same | below
        · rw [before (by omega), List.append_nil, ← same, Nat.sub_self]
          exact own.own channel same.symm
        · obtain ⟨index, place⟩ := Nat.exists_eq_add_of_lt below
          have next : channel.handle - handle = index + 1 := by omega
          have behind : channel.handle - (handle + 1) = index := by omega
          rw [own.others channel (Nat.ne_of_gt below), List.nil_append, next,
            List.getElem?_cons_succ, ← behind]
          exact later below

end Info

/-- A channel with registers gets one diagnostic in the whole run; each identify and S.M.A.R.T.
command goes to the device that is examined, the first one's all before the second one's.
What another channel has left in the globals makes no difference. -/
theorem ataInfo_commands (platform : Platform) (controllers : List Controller) (exist : Exist) :
    (Adds Step.write (ataInfo platform controllers exist) fun answer writes =>
      ∀ channel, ToldChannel
        (answer.1.isSome && (controllers[channel.handle]?).any fun controller =>
          controller.examines channel.channel)
        (writesOn channel writes)) ∧
    ∀ handle controller number first second history,
      (infoChannel platform handle controller number first history).1.1 =
          (infoChannel platform handle controller number second history).1.1 ∧
        (infoChannel platform handle controller number first history).2 =
          (infoChannel platform handle controller number second history).2 := by
  constructor
  · have pool : Adds Step.write (allocatePool platform) fun _ writes => writes = [] :=
      Adds.ask fun _ => rfl
    refine pool.bind ?_
    rintro (_ | handleBuffer) _ rfl
    · exact Adds.pure fun channel => toldChannel_nil
    · refine (infoHandles_told handleBuffer 0 controllers).bind fun reports writes told =>
        Adds.pure fun channel => ?_
      rw [List.nil_append, List.append_nil, Option.isSome_some, Bool.true_and]
      exact (told channel).2 (Nat.zero_le _)
  · intro handle controller number first second history
    rw [infoChannel, infoChannel]
    cases getIdeRegistersBaseAddr (controller.channelPciData number) with
    | none => exact ⟨rfl, rfl⟩
    | some registers =>
        -- The first device is examined before the globals are read.
        have same : examine platform { handle, channel := number } 0 first =
            examine platform { handle, channel := number } 0 second := rfl
        simp only [same, and_self]

end AppEfi.AtaInfo
