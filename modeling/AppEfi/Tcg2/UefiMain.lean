import AppEfi.Tcg2.DumpEventLog

/-!
# `UefiMain` of Tcg2DumpLog

The command line, the services and the loop over the log formats, as a trace of
what the tool does.  The loop over the PCR indexes runs inside the loop over the
formats and uses the variable that also holds `PCR_INDEX_ALL`: the first format
that is processed gets every PCR, each later one a single call with the index
behind the last PCR.
-/

set_option autoImplicit false

namespace AppEfi.Tcg2

def maxPcrIndex : UInt32 := 23

/-- `EFI_STATUS`: success, the one error the tool returns itself, or the code that
a service returned. -/
inductive EfiStatus where
  | success
  | notFound
  | service (code : Nat)
  deriving DecidableEq, Repr

/-- The bit of a format in `EFI_TCG2_EVENT_LOG_BITMAP`. -/
def EventLogFormat.bit : EventLogFormat → UInt32
  | .tcg12 => 0x00000001
  | .tcg2 => 0x00000002

def mTcg2EventInfo : List EventLogFormat := [.tcg12, .tcg2]

/-- The parsed parameters of `mParamList`. -/
structure ParamPackage where
  help : Bool -- `-?` or `-h`
  acpi : Bool -- `-A`
  pcrIndexName : Option String -- `-I`
  logFormatName : Option String -- `-L`
  calculateExpected : Bool -- `-E`
  binayFileName : Option String -- `-BIN`
  parseBinFileName : Option String -- `-PARSE`
  capability : Bool -- `-C`

/-- `ProtocolVersion` of `EFI_TCG2_BOOT_SERVICE_CAPABILITY`. -/
structure ProtocolVersion where
  major : UInt8
  minor : UInt8

/-- What a successful `GetEventLog` returns. -/
structure EventLogInfo where
  eventLogLocation : Nat
  eventLogLastEntry : Nat
  eventLogTruncated : Bool

/-- `EFI_TCG2_PROTOCOL`; an error is its status code. -/
structure Tcg2Protocol where
  getCapability : Except Nat ProtocolVersion
  getActivePcrBanks : Except Nat UInt32
  getEventLog : EventLogFormat → Except Nat EventLogInfo

/-- What the tool asks of the shell and of the firmware. -/
structure Environment where
  /-- `ShellCommandLineParse`; the package may be `NULL`. -/
  shellCommandLineParse : Except Nat (Option ParamPackage)
  strDecimalToUintn : String → Nat
  strHexToUintn : String → Nat
  /-- Buffer and BufferSize after `ReadFileToBuffer`, whose status is ignored. -/
  readFileToBuffer : String → Nat × Nat
  locateProtocol : Except Nat Tcg2Protocol
  finalEventsTable : Option Nat
  memory : Memory
  getHashSizeFromAlgo : UInt16 → UInt16

structure DumpCall where
  eventLogFormat : EventLogFormat
  eventLogLocation : Nat
  eventLogLastEntry : Nat
  finalEventsTable : Option Nat
  pcrIndex : UInt32
  calculateExpected : Bool
  deriving DecidableEq, Repr

inductive Action where
  | incorrectCommandLine
  | printUsage
  | dumpAcpiTable
  | pcrIndexTooLarge (pcrIndex : UInt32)
  | parameters (pcrIndex logFormat : UInt32) (calculateExpected : Bool)
      (binayFileName parseBinFileName : Option String)
  | locateTcg2ProtocolError (code : Nat)
  | getCapabilityError (code : Nat)
  | dumpTcg2Capability
  | currentActivePcrBanks (pcrBanks : UInt32)
  | getEventLogError (eventLogFormat : EventLogFormat) (code : Nat)
  | eventLogTruncated
  | eventLogSize (size eventLogLocation eventLogLastEntry lastPcrEventSize : Nat)
  | binFormatNotSupported
  | writeFileFromBuffer (fileName : String) (size buffer : Nat)
  | dumpEventLog (call : DumpCall)
  deriving DecidableEq, Repr

section Formats

variable (env : Environment) (protocol : Tcg2Protocol) (logFormat : UInt32)
variable (calculateExpected : Bool) (binayFileName : Option String)

/-- The `-BIN` part for one format. -/
def dumpBinary (eventLogFormat : EventLogFormat) (info : EventLogInfo) : List Action :=
  match binayFileName with
  | none => []
  | some fileName =>
      let lastPcrEventSize := match eventLogFormat with
        | .tcg12 => getPcrEventSize env.memory info.eventLogLastEntry
        | .tcg2 =>
            getPcrEvent2Size env.getHashSizeFromAlgo env.memory info.eventLogLastEntry
      let bufferSize := info.eventLogLastEntry - info.eventLogLocation + lastPcrEventSize
      [.eventLogSize bufferSize info.eventLogLocation info.eventLogLastEntry lastPcrEventSize,
        match eventLogFormat with
        | .tcg12 => .binFormatNotSupported
        | .tcg2 => .writeFileFromBuffer fileName bufferSize info.eventLogLocation]

def dumpCall (eventLogFormat : EventLogFormat) (info : EventLogInfo) (pcrIndex : UInt32) :
    DumpCall where
  eventLogFormat := eventLogFormat
  eventLogLocation := info.eventLogLocation
  eventLogLastEntry := info.eventLogLastEntry
  finalEventsTable := match eventLogFormat with
    | .tcg12 => none
    | .tcg2 => env.finalEventsTable
  pcrIndex := pcrIndex
  calculateExpected := calculateExpected

/-- The "DumpLog" part: the calls for one format and PcrIndex behind them. -/
def dumpLog (eventLogFormat : EventLogFormat) (info : EventLogInfo) (pcrIndex : UInt32) :
    List Action × UInt32 :=
  let call := dumpCall env calculateExpected eventLogFormat info
  if calculateExpected ∧ pcrIndex = pcrIndexAll then
    -- PcrIndex itself runs from 0 until it passes MAX_PCR_INDEX.
    ((List.range (maxPcrIndex.toNat + 1)).map
        fun index => .dumpEventLog (call (UInt32.ofNat index)),
      maxPcrIndex + 1)
  else ([.dumpEventLog (call pcrIndex)], pcrIndex)

/-- The loop over `mTcg2EventInfo`. -/
def dumpFormats : List EventLogFormat → UInt32 → List Action
  | [], _ => []
  | eventLogFormat :: rest, pcrIndex =>
      if eventLogFormat.bit &&& logFormat ≠ 0 then
        match protocol.getEventLog eventLogFormat with
        | .error code =>
            .getEventLogError eventLogFormat code :: dumpFormats rest pcrIndex
        | .ok info =>
            let truncated := if info.eventLogTruncated then [Action.eventLogTruncated] else []
            let (calls, next) := dumpLog env calculateExpected eventLogFormat info pcrIndex
            truncated ++ dumpBinary env binayFileName eventLogFormat info ++ calls ++
              dumpFormats rest next
      else dumpFormats rest pcrIndex

end Formats

/-- The part behind the parameters. -/
def dumpTcg2 (env : Environment) (params : ParamPackage) (pcrIndex logFormat : UInt32) :
    List Action × EfiStatus :=
  match env.locateProtocol with
  | .error code => ([.locateTcg2ProtocolError code], .service code)
  | .ok protocol =>
      match protocol.getCapability with
      | .error code => ([.getCapabilityError code], .service code)
      | .ok version =>
          if params.capability then
            if version.major < 0x01 ∨ (version.major = 0x01 ∧ version.minor = 0x00) then
              ([.dumpTcg2Capability], .success)
            else
              match protocol.getActivePcrBanks with
              | .error _ => ([.dumpTcg2Capability], .success)
              | .ok pcrBanks =>
                  ([.dumpTcg2Capability, .currentActivePcrBanks pcrBanks], .success)
          else
            (dumpFormats env protocol logFormat params.calculateExpected
              params.binayFileName mTcg2EventInfo pcrIndex, .success)

/-- PcrIndex from `-I`; an error is an index above `MAX_PCR_INDEX`. -/
def getPcrIndex (env : Environment) (params : ParamPackage) : Except UInt32 UInt32 :=
  match params.pcrIndexName with
  | none => .ok pcrIndexAll
  | some pcrIndexName =>
      if pcrIndexName = "ALL" then .ok pcrIndexAll
      else
        let pcrIndex := UInt32.ofNat (env.strDecimalToUintn pcrIndexName)
        if pcrIndex > maxPcrIndex then .error pcrIndex else .ok pcrIndex

/-- LogFormat from `-L`. -/
def getLogFormat (env : Environment) (params : ParamPackage) : UInt32 :=
  match params.logFormatName with
  | none => 0xFFFFFFFF
  | some logFormatName => UInt32.ofNat (env.strHexToUintn logFormatName)

def uefiMain (env : Environment) : List Action × EfiStatus :=
  match env.shellCommandLineParse with
  | .error code => ([.incorrectCommandLine], .service code)
  | .ok none => ([.printUsage], .success)
  | .ok (some params) =>
      if params.help then ([.printUsage], .success)
      else if params.acpi then ([.dumpAcpiTable], .success)
      else
        match getPcrIndex env params with
        | .error pcrIndex => ([.pcrIndexTooLarge pcrIndex], .notFound)
        | .ok pcrIndex =>
            let logFormat := getLogFormat env params
            let printed := Action.parameters pcrIndex logFormat params.calculateExpected
              params.binayFileName params.parseBinFileName
            match params.parseBinFileName with
            | some parseBinFileName =>
                let (buffer, bufferSize) := env.readFileToBuffer parseBinFileName
                ([printed, .dumpEventLog
                    { eventLogFormat := .tcg2
                      eventLogLocation := buffer
                      eventLogLastEntry := buffer + bufferSize - 1
                      finalEventsTable := none
                      pcrIndex := pcrIndexAll
                      calculateExpected := false }], .success)
            | none =>
                let (actions, status) := dumpTcg2 env params pcrIndex logFormat
                (printed :: actions, status)

/-! ## The calculations in a trace -/

/-- The PCR indexes whose digests are calculated for a format, in order. -/
def calculations (actions : List Action) (eventLogFormat : EventLogFormat) : List UInt32 :=
  actions.filterMap fun action =>
    match action with
    | .dumpEventLog call =>
        if call.eventLogFormat = eventLogFormat ∧ call.calculateExpected then
          some call.pcrIndex
        else none
    | _ => none

def Selected (logFormat : UInt32) (eventLogFormat : EventLogFormat) : Prop :=
  eventLogFormat.bit &&& logFormat ≠ 0

instance (logFormat : UInt32) (eventLogFormat : EventLogFormat) :
    Decidable (Selected logFormat eventLogFormat) :=
  inferInstanceAs (Decidable (_ ≠ _))

def Tcg2Protocol.Supports (protocol : Tcg2Protocol) (eventLogFormat : EventLogFormat) :
    Prop :=
  ∃ info, protocol.getEventLog eventLogFormat = .ok info

/-- The digest of every PCR index is calculated exactly once for the format. -/
def EachPcrOnce (actions : List Action) (eventLogFormat : EventLogFormat) : Prop :=
  ∀ index, index ≤ maxPcrIndex → (calculations actions eventLogFormat).count index = 1

@[simp] theorem calculations_nil (eventLogFormat : EventLogFormat) :
    calculations [] eventLogFormat = [] := rfl

@[simp] theorem calculations_append (first second : List Action)
    (eventLogFormat : EventLogFormat) :
    calculations (first ++ second) eventLogFormat =
      calculations first eventLogFormat ++ calculations second eventLogFormat :=
  List.filterMap_append

section Formats

variable {env : Environment} {protocol : Tcg2Protocol} {logFormat : UInt32}
variable {binayFileName : Option String}

theorem calculations_dumpBinary (eventLogFormat other : EventLogFormat)
    (info : EventLogInfo) :
    calculations (dumpBinary env binayFileName eventLogFormat info) other = [] := by
  cases binayFileName with
  | none => rfl
  | some fileName => cases eventLogFormat <;> rfl

def allPcrIndexes : List UInt32 :=
  (List.range (maxPcrIndex.toNat + 1)).map UInt32.ofNat

theorem calculations_dumpLog_all (eventLogFormat other : EventLogFormat)
    (info : EventLogInfo) :
    calculations (dumpLog env true eventLogFormat info pcrIndexAll).1 other =
      if eventLogFormat = other then allPcrIndexes else [] := by
  simp only [dumpLog, and_self, if_true, calculations, allPcrIndexes, List.filterMap_map]
  by_cases same : eventLogFormat = other
  · simp only [same, dumpCall, Function.comp_def, and_self, if_true]
    exact congrFun List.filterMap_eq_map' _
  · simp [same, dumpCall, Function.comp_def]

theorem calculations_dumpLog_single {pcrIndex : UInt32} (single : pcrIndex ≠ pcrIndexAll)
    (eventLogFormat other : EventLogFormat) (info : EventLogInfo) :
    calculations (dumpLog env true eventLogFormat info pcrIndex).1 other =
      if eventLogFormat = other then [pcrIndex] else [] := by
  by_cases same : eventLogFormat = other <;>
    simp [dumpLog, single, calculations, dumpCall, same]

theorem calculations_dumpFormats_skip {eventLogFormat : EventLogFormat}
    (skipped : ¬ (Selected logFormat eventLogFormat ∧ protocol.Supports eventLogFormat))
    (rest : List EventLogFormat) (pcrIndex : UInt32) (other : EventLogFormat) :
    calculations (dumpFormats env protocol logFormat true binayFileName
        (eventLogFormat :: rest) pcrIndex) other =
      calculations (dumpFormats env protocol logFormat true binayFileName rest pcrIndex)
        other := by
  rw [dumpFormats]
  by_cases selected : eventLogFormat.bit &&& logFormat ≠ 0
  · rw [if_pos selected]
    cases log : protocol.getEventLog eventLogFormat with
    | error code => rfl
    | ok info => exact absurd ⟨selected, info, log⟩ skipped
  · rw [if_neg selected]

theorem calculations_dumpFormats_step {eventLogFormat : EventLogFormat}
    (selected : Selected logFormat eventLogFormat) {info : EventLogInfo}
    (log : protocol.getEventLog eventLogFormat = .ok info) (rest : List EventLogFormat)
    (pcrIndex : UInt32) (other : EventLogFormat) :
    calculations (dumpFormats env protocol logFormat true binayFileName
        (eventLogFormat :: rest) pcrIndex) other =
      calculations (dumpLog env true eventLogFormat info pcrIndex).1 other ++
        calculations (dumpFormats env protocol logFormat true binayFileName rest
          (dumpLog env true eventLogFormat info pcrIndex).2) other := by
  have masked : eventLogFormat.bit &&& logFormat ≠ 0 := selected
  rw [dumpFormats, if_pos masked, log]
  simp only [calculations_append, calculations_dumpBinary]
  have warning : calculations (if info.eventLogTruncated then [Action.eventLogTruncated]
      else []) other = [] := by
    split <;> rfl
  rw [warning, List.nil_append, List.nil_append]

/-- Once PcrIndex is not `PCR_INDEX_ALL` any more, it stays and is the only index. -/
theorem calculations_dumpFormats_single {pcrIndex : UInt32}
    (single : pcrIndex ≠ pcrIndexAll) (formats : List EventLogFormat)
    (other : EventLogFormat) :
    ∀ index ∈ calculations (dumpFormats env protocol logFormat true binayFileName formats
      pcrIndex) other, index = pcrIndex := by
  induction formats with
  | nil => simp [dumpFormats]
  | cons eventLogFormat rest ih =>
      by_cases processed :
          Selected logFormat eventLogFormat ∧ protocol.Supports eventLogFormat
      · obtain ⟨selected, info, log⟩ := processed
        have kept : (dumpLog env true eventLogFormat info pcrIndex).2 = pcrIndex := by
          simp [dumpLog, single]
        rw [calculations_dumpFormats_step selected log,
          calculations_dumpLog_single single, kept]
        intro index member
        rcases List.mem_append.mp member with own | later
        · split at own <;> simp_all
        · exact ih index later
      · rw [calculations_dumpFormats_skip processed]
        exact ih

theorem calculations_dumpFormats_none {formats : List EventLogFormat}
    (unprocessed : ∀ eventLogFormat ∈ formats,
      ¬ (Selected logFormat eventLogFormat ∧ protocol.Supports eventLogFormat))
    (pcrIndex : UInt32) (other : EventLogFormat) :
    calculations (dumpFormats env protocol logFormat true binayFileName formats pcrIndex)
      other = [] := by
  induction formats with
  | nil => rfl
  | cons eventLogFormat rest ih =>
      rw [calculations_dumpFormats_skip (unprocessed eventLogFormat (by simp))]
      exact ih fun later member => unprocessed later (by simp [member])

theorem count_allPcrIndexes (index : UInt32) (bound : index ≤ maxPcrIndex) :
    allPcrIndexes.count index = 1 := by
  have distinct : allPcrIndexes.Nodup := by decide
  have listed : index ∈ allPcrIndexes := by
    rw [allPcrIndexes, List.mem_map]
    refine ⟨index.toNat, ?_, by simp⟩
    rw [List.mem_range]
    exact Nat.lt_succ_of_le (UInt32.le_iff_toNat_le.mp bound)
  rw [distinct.count, if_pos listed]

section Processed

variable {head : EventLogFormat} {rest : List EventLogFormat}

/-- The formats behind one that is processed, if all that are processed are the same. -/
theorem unique_cons_iff (fresh : head ∉ rest)
    (processed : Selected logFormat head ∧ protocol.Supports head) :
    (∀ first ∈ head :: rest, ∀ second ∈ head :: rest,
        Selected logFormat first → protocol.Supports first →
        Selected logFormat second → protocol.Supports second → first = second) ↔
      ∀ later ∈ rest, ¬ (Selected logFormat later ∧ protocol.Supports later) := by
  constructor
  · rintro single later member ⟨selected, supported⟩
    have same := single head List.mem_cons_self later (List.mem_cons_of_mem _ member) processed.1
      processed.2 selected supported
    exact fresh (same ▸ member)
  · intro alone first firstMember second secondMember firstSelected firstSupported
      secondSelected secondSupported
    rcases List.mem_cons.mp firstMember with rfl | firstMember
    · rcases List.mem_cons.mp secondMember with rfl | secondMember
      · rfl
      · exact absurd ⟨secondSelected, secondSupported⟩ (alone second secondMember)
    · exact absurd ⟨firstSelected, firstSupported⟩ (alone first firstMember)

/-- Behind a format that is processed PcrIndex is past the last PCR. -/
theorem eachPcrOnce_cons_iff (fresh : head ∉ rest)
    (processed : Selected logFormat head ∧ protocol.Supports head) :
    (∀ eventLogFormat ∈ head :: rest,
      Selected logFormat eventLogFormat → protocol.Supports eventLogFormat →
        EachPcrOnce (dumpFormats env protocol logFormat true binayFileName (head :: rest)
          pcrIndexAll) eventLogFormat) ↔
      ∀ later ∈ rest, ¬ (Selected logFormat later ∧ protocol.Supports later) := by
  obtain ⟨headSelected, info, log⟩ := processed
  have step := @calculations_dumpFormats_step env protocol logFormat binayFileName head
    headSelected info log rest pcrIndexAll
  have next : (dumpLog env true head info pcrIndexAll).2 = maxPcrIndex + 1 := rfl
  simp only [calculations_dumpLog_all, next] at step
  constructor
  · rintro once later member ⟨selected, supported⟩
    have different : head ≠ later := fun same => fresh (same ▸ member)
    have count := once later (List.mem_cons_of_mem _ member) selected supported 0 (by decide)
    rw [step, if_neg different, List.nil_append] at count
    have visited : (0 : UInt32) ∈ calculations (dumpFormats env protocol logFormat
        true binayFileName rest (maxPcrIndex + 1)) later :=
      List.one_le_count_iff.mp (Nat.le_of_eq count.symm)
    have index := calculations_dumpFormats_single (by decide) rest later 0 visited
    exact absurd index (by decide)
  · intro alone format member selected supported index bound
    have isHead : head = format := by
      rcases List.mem_cons.mp member with same | later
      · exact same.symm
      · exact absurd ⟨selected, supported⟩ (alone format later)
    rw [step, if_pos isHead, calculations_dumpFormats_none alone, List.append_nil]
    exact count_allPcrIndexes index bound

end Processed

/-- Starting from `PCR_INDEX_ALL`, every processed format gets every PCR once exactly
when at most one format is processed. -/
theorem eachPcrOnce_dumpFormats_iff {formats : List EventLogFormat}
    (distinct : formats.Nodup) :
    (∀ eventLogFormat ∈ formats,
      Selected logFormat eventLogFormat → protocol.Supports eventLogFormat →
        EachPcrOnce (dumpFormats env protocol logFormat true binayFileName formats
          pcrIndexAll) eventLogFormat) ↔
      ∀ first ∈ formats, ∀ second ∈ formats,
        Selected logFormat first → protocol.Supports first →
        Selected logFormat second → protocol.Supports second → first = second := by
  induction formats with
  | nil => simp
  | cons head rest ih =>
      obtain ⟨headFresh, restDistinct⟩ := List.nodup_cons.mp distinct
      by_cases processed : Selected logFormat head ∧ protocol.Supports head
      · rw [eachPcrOnce_cons_iff headFresh processed, unique_cons_iff headFresh processed]
      · have skip := @calculations_dumpFormats_skip env protocol logFormat binayFileName head
          processed rest pcrIndexAll
        have rest_iff := ih restDistinct
        constructor
        · intro once first firstMember second secondMember firstSelected firstSupported
            secondSelected secondSupported
          have firstRest : first ∈ rest :=
            (List.mem_cons.mp firstMember).resolve_left fun same =>
              processed (same ▸ ⟨firstSelected, firstSupported⟩)
          have secondRest : second ∈ rest :=
            (List.mem_cons.mp secondMember).resolve_left fun same =>
              processed (same ▸ ⟨secondSelected, secondSupported⟩)
          refine rest_iff.mp ?_ first firstRest second secondRest firstSelected
            firstSupported secondSelected secondSupported
          intro format member selected supported index bound
          rw [← skip]
          exact once format (by simp [member]) selected supported index bound
        · intro single format member selected supported index bound
          have formatRest : format ∈ rest :=
            (List.mem_cons.mp member).resolve_left fun same =>
              processed (same ▸ ⟨selected, supported⟩)
          rw [skip]
          refine rest_iff.mpr ?_ format formatRest selected supported index bound
          intro first firstMember second secondMember
          exact single first (by simp [firstMember]) second (by simp [secondMember])

end Formats

/-! ## Every PCR of every format -/

def Environment.Supports (env : Environment) (eventLogFormat : EventLogFormat) : Prop :=
  ∃ protocol, env.locateProtocol = .ok protocol ∧ protocol.Supports eventLogFormat

/-- The run gets to the loop over the formats. -/
def ReachesFormats (env : Environment) (params : ParamPackage) : Prop :=
  params.help = false ∧ params.acpi = false ∧ params.parseBinFileName = none ∧
    params.capability = false ∧
    ∃ protocol version,
      env.locateProtocol = .ok protocol ∧ protocol.getCapability = .ok version

theorem getPcrIndex_all {env : Environment} {params : ParamPackage}
    (all : params.pcrIndexName = none ∨ params.pcrIndexName = some "ALL") :
    getPcrIndex env params = .ok pcrIndexAll := by
  rcases all with absent | named
  · simp [getPcrIndex, absent]
  · simp [getPcrIndex, named]

theorem calculations_uefiMain_reaches {env : Environment} {params : ParamPackage}
    (parsed : env.shellCommandLineParse = .ok (some params))
    (expected : params.calculateExpected = true)
    (all : params.pcrIndexName = none ∨ params.pcrIndexName = some "ALL")
    (reaches : ReachesFormats env params) {protocol : Tcg2Protocol}
    (located : env.locateProtocol = .ok protocol) (eventLogFormat : EventLogFormat) :
    calculations (uefiMain env).1 eventLogFormat =
      calculations (dumpFormats env protocol (getLogFormat env params) true
        params.binayFileName mTcg2EventInfo pcrIndexAll) eventLogFormat := by
  obtain ⟨noHelp, noAcpi, noParse, noCapability, other, version, same, capability⟩ := reaches
  rw [located, Except.ok.injEq] at same
  subst same
  simp only [uefiMain, parsed, noHelp, noAcpi, noParse, getPcrIndex_all all, dumpTcg2,
    located, capability, noCapability, expected, Bool.false_eq_true, if_false]
  rfl

theorem calculations_uefiMain_early {env : Environment} {params : ParamPackage}
    (parsed : env.shellCommandLineParse = .ok (some params))
    (all : params.pcrIndexName = none ∨ params.pcrIndexName = some "ALL")
    (early : ¬ ReachesFormats env params) (eventLogFormat : EventLogFormat) :
    calculations (uefiMain env).1 eventLogFormat = [] := by
  simp only [uefiMain, parsed, getPcrIndex_all all]
  by_cases help : params.help = true
  · rw [if_pos help]
    rfl
  by_cases acpi : params.acpi = true
  · rw [if_neg help, if_pos acpi]
    rfl
  rw [if_neg help, if_neg acpi]
  cases parse : params.parseBinFileName with
  | some parseBinFileName => simp [calculations]
  | none =>
      change calculations (dumpTcg2 env params pcrIndexAll (getLogFormat env params)).1
        eventLogFormat = []
      unfold dumpTcg2
      cases located : env.locateProtocol with
      | error code => rfl
      | ok protocol =>
          dsimp only
          cases version : protocol.getCapability with
          | error code => rfl
          | ok version =>
              by_cases capability : params.capability = true
              · simp only [if_pos capability]
                split
                · rfl
                · cases protocol.getActivePcrBanks <;> rfl
              · refine absurd ?_ early
                exact ⟨by simpa using help, by simpa using acpi, parse,
                  by simpa using capability, protocol, _, located, version⟩

/-- In a run with `-E` and no PCR index, each selected format that the TPM supports
gets every PCR index calculated exactly once if and only if there is no such format,
or the run gets to the loop and there is exactly one. -/
theorem uefiMain_eachPcrOnce_iff (env : Environment) (params : ParamPackage)
    (parsed : env.shellCommandLineParse = .ok (some params))
    (expected : params.calculateExpected = true)
    (all : params.pcrIndexName = none ∨ params.pcrIndexName = some "ALL") :
    (∀ eventLogFormat, Selected (getLogFormat env params) eventLogFormat →
      env.Supports eventLogFormat → EachPcrOnce (uefiMain env).1 eventLogFormat) ↔
      (∀ eventLogFormat, ¬ (Selected (getLogFormat env params) eventLogFormat ∧
        env.Supports eventLogFormat)) ∨
      (ReachesFormats env params ∧
        ∀ first second,
          Selected (getLogFormat env params) first → env.Supports first →
          Selected (getLogFormat env params) second → env.Supports second →
            first = second) := by
  have listed : ∀ eventLogFormat : EventLogFormat, eventLogFormat ∈ mTcg2EventInfo := by
    intro eventLogFormat
    cases eventLogFormat <;> decide
  by_cases reaches : ReachesFormats env params
  · obtain ⟨protocol, located⟩ : ∃ protocol, env.locateProtocol = .ok protocol :=
      ⟨_, reaches.2.2.2.2.choose_spec.choose_spec.1⟩
    have supports : ∀ eventLogFormat, env.Supports eventLogFormat ↔
        protocol.Supports eventLogFormat := by
      intro eventLogFormat
      simp [Environment.Supports, located]
    have run := calculations_uefiMain_reaches parsed expected all reaches located
    have loop := @eachPcrOnce_dumpFormats_iff env protocol (getLogFormat env params)
      params.binayFileName mTcg2EventInfo (by decide)
    simp only [supports, EachPcrOnce, run]
    constructor
    · intro once
      refine Or.inr ⟨reaches, fun first second => ?_⟩
      exact loop.mp (fun format _ => once format) first (listed first) second (listed second)
    · rintro (unprocessed | ⟨_, single⟩) format selected supported
      · exact absurd ⟨selected, supported⟩ (unprocessed format)
      · exact loop.mpr (fun first _ second _ => single first second) format (listed format)
          selected supported
  · have nothing := calculations_uefiMain_early parsed all reaches
    constructor
    · intro once
      refine Or.inl fun format processed => ?_
      have count := once format processed.1 processed.2 0 (by decide)
      rw [nothing] at count
      exact absurd count (by decide)
    · rintro (unprocessed | ⟨reached, _⟩) format selected supported
      · exact absurd ⟨selected, supported⟩ (unprocessed format)
      · exact absurd reached reaches

/-- `-E` alone. -/
def calculateEverything : ParamPackage where
  help := false
  acpi := false
  pcrIndexName := none
  logFormatName := none
  calculateExpected := true
  binayFileName := none
  parseBinFileName := none
  capability := false

/-- A TPM with both formats. -/
def bothFormats : Environment where
  shellCommandLineParse := .ok (some calculateEverything)
  strDecimalToUintn := fun _ => 0
  strHexToUintn := fun _ => 0
  readFileToBuffer := fun _ => (0, 0)
  locateProtocol := .ok
    { getCapability := .ok ⟨1, 1⟩
      getActivePcrBanks := .ok 3
      getEventLog := fun _ => .ok ⟨0x1000, 0x1000, false⟩ }
  finalEventsTable := none
  memory := fun _ => 0
  getHashSizeFromAlgo := standardHashSize

theorem uefiMain_eachPcrOnce_bothFormats :
    (∀ eventLogFormat, Selected (getLogFormat bothFormats calculateEverything)
        eventLogFormat → bothFormats.Supports eventLogFormat →
        EachPcrOnce (uefiMain bothFormats).1 eventLogFormat) ↔
      (∀ eventLogFormat, ¬ (Selected (getLogFormat bothFormats calculateEverything)
        eventLogFormat ∧ bothFormats.Supports eventLogFormat)) ∨
      (ReachesFormats bothFormats calculateEverything ∧
        ∀ first second,
          Selected (getLogFormat bothFormats calculateEverything) first →
          bothFormats.Supports first →
          Selected (getLogFormat bothFormats calculateEverything) second →
          bothFormats.Supports second → first = second) :=
  uefiMain_eachPcrOnce_iff bothFormats calculateEverything rfl rfl (Or.inl rfl)

/-- The TCG_2 log, processed second, gets one call, with an index that is no PCR. -/
theorem uefiMain_bothFormats :
    Selected (getLogFormat bothFormats calculateEverything) .tcg2 ∧
      bothFormats.Supports .tcg2 ∧
      calculations (uefiMain bothFormats).1 .tcg2 = [24] ∧
      ¬ EachPcrOnce (uefiMain bothFormats).1 .tcg2 := by
  refine ⟨by decide, ⟨_, rfl, _, rfl⟩, by decide, ?_⟩
  intro once
  have count := once 0 (by decide)
  exact absurd count (by decide)

end AppEfi.Tcg2
