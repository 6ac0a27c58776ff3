import AppEfi.DumpAcpi.DumpSelectAcpiTable
import AppEfi.Lib.DeferredSlot

/-!
# The full dump and the dump of one signature

`DumpAcpiAllTable` skips null entries and dumps the FACS and the DSDT of every
FADT where it stands.  `DumpAcpiTableWithSign` walks the same entries, but reads
the signature of every one and keeps the FACS and the DSDT of the last FADT for
the end.  A run that dereferences NULL is `none`.
-/

set_option autoImplicit false

namespace AppEfi.DumpAcpi

open AppEfi.DeferredSlot
open AppEfi.LittleEndian
open AppEfi.SmmCore (signature32)

section Dumps

variable (width : Nat) (memory : Memory)

/-- Either loop of `DumpAcpiAllTable`. -/
def dumpEntries : List Nat → List Dump
  | [] => []
  | table :: rest =>
      if table = 0 then dumpEntries rest
      else
        dumpSelectAcpiTable memory table ++
          (if tableSignature memory table = fadtSignature then
            dumpWith .dumpAcpiFACS (scanAcpiFADT width memory table).1 ++
              dumpWith .dumpAcpiDSDT (scanAcpiFADT width memory table).2
          else []) ++
          dumpEntries rest

/-- Either loop of `DumpAcpiTableWithSign`, with `SubTable1` and `SubTable2`. -/
def dumpEntriesWithSign (sign : Nat) :
    List Nat → Nat × Nat → Option (List Dump × (Nat × Nat))
  | [], subTables => some ([], subTables)
  | table :: rest, subTables =>
      if table = 0 then none
      else
        let dumped :=
          if tableSignature memory table = sign then dumpSelectAcpiTable memory table else []
        let subTables :=
          if tableSignature memory table = fadtSignature then scanAcpiFADT width memory table
          else subTables
        (dumpEntriesWithSign sign rest subTables).map fun result =>
          (dumped ++ result.1, result.2)

/-- The switch behind the loops of `DumpAcpiTableWithSign`. -/
def dumpSubTables (sign : Nat) (subTables : Nat × Nat) : List Dump :=
  if sign = facsSignature then dumpWith .dumpAcpiFACS subTables.1
  else if sign = dsdtSignature then dumpWith .dumpAcpiDSDT subTables.2
  else []

end Dumps

def dumpAcpiTableWithSign (width : Nat) (system : SystemTable) (sign : Nat) :
    Option (List Dump) :=
  let memory := system.memory
  let rsdp := (scanAcpiRSDP system).1
  let mIsAcpi20 := (scanAcpiRSDP system).2
  if rsdp = 0 then some []
  else
    let rsdt := scanAcpiRSDT width memory rsdp
    let xsdt := if mIsAcpi20 then scanAcpiXSDT width memory rsdp else 0
    if sign = rsdpSignDefinition then some (dumpWith .dumpAcpiRSDP rsdp)
    else if sign = rsdtSignature then some (dumpWith .dumpAcpiRSDT rsdt)
    else if sign = xsdtSignature then some (dumpWith .dumpAcpiXSDT xsdt)
    else do
      let inRsdt ←
        if xsdt = 0 ∧ rsdt ≠ 0 then
          dumpEntriesWithSign width memory sign (entries width memory rsdt 4) (0, 0)
        else some ([], (0, 0))
      let inXsdt ←
        if xsdt ≠ 0 then
          dumpEntriesWithSign width memory sign (entries width memory xsdt 8) inRsdt.2
        else some ([], inRsdt.2)
      some (inRsdt.1 ++ inXsdt.1 ++ dumpSubTables sign inXsdt.2)

def dumpAcpiAllTable (width : Nat) (system : SystemTable) : List Dump :=
  let memory := system.memory
  let rsdp := (scanAcpiRSDP system).1
  let mIsAcpi20 := (scanAcpiRSDP system).2
  if rsdp = 0 then []
  else
    let rsdt := scanAcpiRSDT width memory rsdp
    let xsdt := if mIsAcpi20 then scanAcpiXSDT width memory rsdp else 0
    dumpWith .dumpAcpiRSDP rsdp ++
      dumpWith .dumpAcpiRSDT rsdt ++
      (if mIsAcpi20 then dumpWith .dumpAcpiXSDT xsdt else []) ++
      (if xsdt = 0 ∧ rsdt ≠ 0 then dumpEntries width memory (entries width memory rsdt 4)
       else []) ++
      (if xsdt ≠ 0 then dumpEntries width memory (entries width memory xsdt 8) else [])

/-! ## The listed tables -/

/-- The entries that the loops walk: those of the XSDT, of the RSDT without an XSDT. -/
def listedTables (width : Nat) (system : SystemTable) : List Nat :=
  let memory := system.memory
  let rsdp := (scanAcpiRSDP system).1
  let rsdt := scanAcpiRSDT width memory rsdp
  let xsdt := if (scanAcpiRSDP system).2 then scanAcpiXSDT width memory rsdp else 0
  if rsdp = 0 then []
  else if xsdt ≠ 0 then entries width memory xsdt 8
  else if rsdt ≠ 0 then entries width memory rsdt 4
  else []

def IsRootSign (sign : Nat) : Prop :=
  sign = rsdpSignDefinition ∨ sign = rsdtSignature ∨ sign = xsdtSignature

def subTable (sign : Nat) (subTables : Nat × Nat) : Nat :=
  if sign = facsSignature then subTables.1
  else if sign = dsdtSignature then subTables.2
  else 0

def namedTable (width : Nat) (memory : Memory) (sign fadt : Nat) : Nat :=
  subTable sign (scanAcpiFADT width memory fadt)

/-- The entries on which the dump of `sign` can follow the full dump.  No entry
carries the signature of a root table that is asked for.  For another signature no
entry is null, and behind a FADT that names a table for it there is neither a FADT
nor a table of that signature other than the named one. -/
structure FollowsFullDump (width : Nat) (system : SystemTable) (sign : Nat) : Prop where
  root : IsRootSign sign → ∀ table ∈ listedTables width system,
    table ≠ 0 → tableSignature system.memory table ≠ sign
  present : ¬ IsRootSign sign → ∀ table ∈ listedTables width system, table ≠ 0
  named : ¬ IsRootSign sign → (listedTables width system).Pairwise fun fadt later =>
    tableSignature system.memory fadt = fadtSignature →
      namedTable width system.memory sign fadt ≠ 0 →
        tableSignature system.memory later ≠ fadtSignature ∧
          (tableSignature system.memory later = sign →
            later = namedTable width system.memory sign fadt)

def Dump.hasSign (memory : Memory) (sign : Nat) (dump : Dump) : Bool :=
  decide (dump.signature memory = sign)

/-! ## One entry -/

section Entries

variable (width : Nat) (memory : Memory) (sign : Nat)

def dumpUnder (table : Nat) : Option Dump :=
  if table = 0 then none else some ⟨selectedFunc sign, table⟩

def entryItem (table : Nat) : Option (Item Dump) :=
  if tableSignature memory table = sign then some (.emit ⟨selectedFunc sign, table⟩)
  else if tableSignature memory table = fadtSignature then
    some (.record (dumpUnder sign (namedTable width memory sign table)))
  else none

theorem fadt_ne_facs : fadtSignature ≠ facsSignature := by decide

theorem fadt_ne_dsdt : fadtSignature ≠ dsdtSignature := by decide

theorem facs_ne_dsdt : facsSignature ≠ dsdtSignature := by decide

theorem subTable_fadt (subTables : Nat × Nat) : subTable fadtSignature subTables = 0 := by
  rw [subTable, if_neg fadt_ne_facs, if_neg fadt_ne_dsdt]

theorem subTable_root (root : IsRootSign sign) (subTables : Nat × Nat) :
    subTable sign subTables = 0 := by
  have notFacs : sign ≠ facsSignature := by
    rcases root with rfl | rfl | rfl <;> decide
  have notDsdt : sign ≠ dsdtSignature := by
    rcases root with rfl | rfl | rfl <;> decide
  rw [subTable, if_neg notFacs, if_neg notDsdt]

theorem dumpSubTables_eq (subTables : Nat × Nat) :
    dumpSubTables sign subTables = (dumpUnder sign (subTable sign subTables)).toList := by
  unfold dumpSubTables subTable dumpUnder dumpWith
  by_cases facs : sign = facsSignature
  · rw [if_pos facs, if_pos facs, facs, selectedFunc_facs]
    split <;> rfl
  · rw [if_neg facs, if_neg facs]
    by_cases dsdt : sign = dsdtSignature
    · rw [if_pos dsdt, if_pos dsdt, dsdt, selectedFunc_dsdt]
      split <;> rfl
    · rw [if_neg dsdt, if_neg dsdt, if_pos rfl]
      rfl

theorem signature_dumpAcpiFACS (table : Nat) :
    Dump.signature memory ⟨.dumpAcpiFACS, table⟩ = facsSignature := rfl

theorem signature_dumpAcpiDSDT (table : Nat) :
    Dump.signature memory ⟨.dumpAcpiDSDT, table⟩ = dsdtSignature := rfl

theorem filter_dumpWith (func : DumpFunc) (table : Nat) :
    (dumpWith func table).filter (Dump.hasSign memory sign) =
      if Dump.signature memory ⟨func, table⟩ = sign then dumpWith func table else [] := by
  unfold dumpWith
  by_cases null : table = 0
  · rw [if_pos null, List.filter_nil, ite_self]
  · rw [if_neg null, List.filter_singleton, Dump.hasSign]
    by_cases same : Dump.signature memory ⟨func, table⟩ = sign
    · rw [if_pos same, decide_eq_true same]
      rfl
    · rw [if_neg same, decide_eq_false same]
      rfl

theorem filter_subTables (subTables : Nat × Nat) :
    (dumpWith .dumpAcpiFACS subTables.1 ++ dumpWith .dumpAcpiDSDT subTables.2).filter
        (Dump.hasSign memory sign) =
      (dumpUnder sign (subTable sign subTables)).toList := by
  rw [← dumpSubTables_eq, List.filter_append, filter_dumpWith, filter_dumpWith,
    signature_dumpAcpiFACS, signature_dumpAcpiDSDT, dumpSubTables]
  by_cases facs : sign = facsSignature
  · rw [if_pos facs.symm, if_pos facs, facs, if_neg facs_ne_dsdt.symm, List.append_nil]
  · rw [if_neg (Ne.symm facs), if_neg facs, List.nil_append]
    by_cases dsdt : sign = dsdtSignature
    · rw [if_pos dsdt.symm, if_pos dsdt]
    · rw [if_neg (Ne.symm dsdt), if_neg dsdt]

theorem filter_dumpSelectAcpiTable {table : Nat} (proper : table ≠ 0) :
    (dumpSelectAcpiTable memory table).filter (Dump.hasSign memory sign) =
      if tableSignature memory table = sign then [⟨selectedFunc sign, table⟩] else [] := by
  rw [dumpSelectAcpiTable, filter_dumpWith, signature_selectedFunc, dumpWith, if_neg proper]
  by_cases same : tableSignature memory table = sign
  · rw [if_pos same, if_pos same, same]
  · rw [if_neg same, if_neg same]

/-! ## The loops -/

theorem filter_dumpEntries (tables : List Nat) (present : ∀ table ∈ tables, table ≠ 0) :
    (dumpEntries width memory tables).filter (Dump.hasSign memory sign) =
      emitNow (tables.filterMap (entryItem width memory sign)) := by
  induction tables with
  | nil => rfl
  | cons table rest ih =>
      rw [List.forall_mem_cons] at present
      rw [dumpEntries, if_neg present.1, List.filter_append, List.filter_append,
        filter_dumpSelectAcpiTable memory sign present.1, ih present.2, List.filterMap_cons,
        entryItem]
      by_cases same : tableSignature memory table = sign
      · rw [if_pos same, if_pos same]
        by_cases fadt : tableSignature memory table = fadtSignature
        · rw [if_pos fadt, filter_subTables, same.symm.trans fadt, subTable_fadt]
          rfl
        · rw [if_neg fadt]
          rfl
      · rw [if_neg same, if_neg same]
        by_cases fadt : tableSignature memory table = fadtSignature
        · rw [if_pos fadt, if_pos fadt, filter_subTables, List.nil_append]
          rfl
        · rw [if_neg fadt, if_neg fadt]
          rfl

theorem dumpEntriesWithSign_eq (tables : List Nat) (present : ∀ table ∈ tables, table ≠ 0) :
    ∀ subTables, ∃ dumped last,
      dumpEntriesWithSign width memory sign tables subTables = some (dumped, last) ∧
      dumped ++ dumpSubTables sign last =
        emitLate (dumpUnder sign (subTable sign subTables))
          (tables.filterMap (entryItem width memory sign)) := by
  induction tables with
  | nil =>
      intro subTables
      refine ⟨[], subTables, rfl, ?_⟩
      rw [List.nil_append, dumpSubTables_eq]
      rfl
  | cons table rest ih =>
      intro subTables
      rw [List.forall_mem_cons] at present
      rw [dumpEntriesWithSign, if_neg present.1, List.filterMap_cons, entryItem]
      obtain ⟨dumped, last, result, emitted⟩ := ih present.2
        (if tableSignature memory table = fadtSignature then scanAcpiFADT width memory table
         else subTables)
      refine ⟨(if tableSignature memory table = sign then dumpSelectAcpiTable memory table
        else []) ++ dumped, last, ?_, ?_⟩
      · simp only [result, Option.map_some]
      · rw [List.append_assoc, emitted]
        by_cases same : tableSignature memory table = sign
        · rw [if_pos same, if_pos same, dumpSelectAcpiTable_of_ne memory present.1, same]
          by_cases fadt : tableSignature memory table = fadtSignature
          · have isFadt : sign = fadtSignature := same.symm.trans fadt
            rw [isFadt, subTable_fadt, subTable_fadt]
            rfl
          · rw [← same, if_neg fadt]
            rfl
        · rw [if_neg same, if_neg same, List.nil_append]
          by_cases fadt : tableSignature memory table = fadtSignature
          · rw [if_pos fadt, if_pos fadt]
            rfl
          · rw [if_neg fadt, if_neg fadt]

theorem dumpEntriesWithSign_null {tables : List Nat} (null : 0 ∈ tables) :
    ∀ subTables, dumpEntriesWithSign width memory sign tables subTables = none := by
  induction tables with
  | nil => cases null
  | cons table rest ih =>
      intro subTables
      rw [dumpEntriesWithSign]
      by_cases first : table = 0
      · rw [if_pos first]
      · have inRest : 0 ∈ rest := by
          rcases List.mem_cons.mp null with here | inRest
          · exact absurd here.symm first
          · exact inRest
        rw [if_neg first]
        simp only [ih inRest, Option.map_none]

/-- No FADT names a root table, so that only a listed one can be dumped as such. -/
theorem filter_dumpEntries_root (root : IsRootSign sign) (tables : List Nat) :
    (dumpEntries width memory tables).filter (Dump.hasSign memory sign) = [] ↔
      ∀ table ∈ tables, table ≠ 0 → tableSignature memory table ≠ sign := by
  induction tables with
  | nil =>
      constructor
      · intro _ table member
        cases member
      · intro _
        rfl
  | cons table rest ih =>
      rw [List.forall_mem_cons, dumpEntries]
      by_cases null : table = 0
      · rw [if_pos null, ih]
        constructor
        · intro others
          exact ⟨fun proper => absurd null proper, others⟩
        · intro all
          exact all.2
      · have named : List.filter (Dump.hasSign memory sign)
            (if tableSignature memory table = fadtSignature then
              dumpWith .dumpAcpiFACS (scanAcpiFADT width memory table).1 ++
                dumpWith .dumpAcpiDSDT (scanAcpiFADT width memory table).2
            else []) = [] := by
          split
          · rw [filter_subTables, subTable_root sign root]
            rfl
          · rfl
        rw [if_neg null, List.filter_append, List.filter_append, named, List.append_nil,
          List.append_eq_nil_iff, ih, filter_dumpSelectAcpiTable memory sign null]
        apply and_congr_left
        intro _
        by_cases same : tableSignature memory table = sign
        · rw [if_pos same]
          constructor
          · intro nothing
            cases nothing
          · intro other
            exact absurd same (other null)
        · rw [if_neg same]
          constructor
          · intro _ _
            exact same
          · intro _
            rfl

/-! ## Two entries -/

variable {width memory sign}

theorem entryItem_eq_emit {table : Nat} {value : Dump}
    (item : entryItem width memory sign table = some (.emit value)) :
    tableSignature memory table = sign ∧ value = ⟨selectedFunc sign, table⟩ := by
  unfold entryItem at item
  split at item
  · next same =>
      exact ⟨same, (Item.emit.inj (Option.some.inj item)).symm⟩
  · split at item
    · cases item
    · cases item

theorem entryItem_eq_record {table : Nat} {value : Option Dump}
    (item : entryItem width memory sign table = some (.record value)) :
    tableSignature memory table = fadtSignature ∧
      value = dumpUnder sign (namedTable width memory sign table) := by
  unfold entryItem at item
  split at item
  · cases item
  · split at item
    · next fadt =>
        exact ⟨fadt, (Item.record.inj (Option.some.inj item)).symm⟩
    · cases item

theorem entryItem_of_fadt {table : Nat} (fadt : tableSignature memory table = fadtSignature)
    (other : sign ≠ fadtSignature) :
    entryItem width memory sign table =
      some (.record (dumpUnder sign (namedTable width memory sign table))) := by
  have notSame : tableSignature memory table ≠ sign := by
    intro same
    exact other (same.symm.trans fadt)
  rw [entryItem, if_neg notSame, if_pos fadt]

theorem entryItem_of_sign {table : Nat} (same : tableSignature memory table = sign) :
    entryItem width memory sign table = some (.emit ⟨selectedFunc sign, table⟩) := by
  rw [entryItem, if_pos same]

theorem keepsRecorded_entryItem_iff (fadt later : Nat) :
    (∀ first, entryItem width memory sign fadt = some first →
      ∀ second, entryItem width memory sign later = some second →
        KeepsRecorded first second) ↔
      (tableSignature memory fadt = fadtSignature →
        namedTable width memory sign fadt ≠ 0 →
          tableSignature memory later ≠ fadtSignature ∧
            (tableSignature memory later = sign →
              later = namedTable width memory sign fadt)) := by
  constructor
  · intro kept isFadt named
    have other : sign ≠ fadtSignature := by
      intro same
      apply named
      rw [same]
      exact subTable_fadt _
    have first := @entryItem_of_fadt width memory sign fadt isFadt other
    rw [dumpUnder, if_neg named] at first
    have keeps := fun second item => kept _ first second item _ rfl
    constructor
    · intro laterFadt
      exact keeps _ (entryItem_of_fadt laterFadt other)
    · intro same
      have equal : (⟨selectedFunc sign, later⟩ : Dump) = ⟨selectedFunc sign, _⟩ :=
        keeps _ (entryItem_of_sign same)
      exact congrArg Dump.table equal
  · intro allowed first firstItem second secondItem value recorded
    rw [recorded] at firstItem
    obtain ⟨isFadt, valueEq⟩ := entryItem_eq_record firstItem
    have named : namedTable width memory sign fadt ≠ 0 := by
      intro null
      rw [dumpUnder, if_pos null] at valueEq
      cases valueEq
    rw [dumpUnder, if_neg named] at valueEq
    obtain ⟨notFadt, sameTable⟩ := allowed isFadt named
    cases second with
    | emit other =>
        obtain ⟨same, otherEq⟩ := entryItem_eq_emit secondItem
        rw [Keeps, otherEq, Option.some.inj valueEq, ← sameTable same]
    | record other => exact notFadt (entryItem_eq_record secondItem).1

end Entries

/-! ## The two dumps -/

section System

variable (width : Nat) (system : SystemTable)

def rootDumps : List Dump :=
  let rsdp := (scanAcpiRSDP system).1
  let xsdt :=
    if (scanAcpiRSDP system).2 then scanAcpiXSDT width system.memory rsdp else 0
  if rsdp = 0 then []
  else
    dumpWith .dumpAcpiRSDP rsdp ++
      dumpWith .dumpAcpiRSDT (scanAcpiRSDT width system.memory rsdp) ++
      dumpWith .dumpAcpiXSDT xsdt

theorem dumpAcpiAllTable_eq :
    dumpAcpiAllTable width system =
      rootDumps width system ++
        dumpEntries width system.memory (listedTables width system) := by
  unfold dumpAcpiAllTable rootDumps listedTables
  by_cases noRsdp : (scanAcpiRSDP system).1 = 0
  · simp only [noRsdp, if_true]
    rfl
  · simp only [noRsdp, if_false]
    cases mIsAcpi20 : (scanAcpiRSDP system).2 with
    | false =>
        by_cases noRsdt : scanAcpiRSDT width system.memory (scanAcpiRSDP system).1 = 0
        · simp [noRsdt, dumpWith, dumpEntries]
        · simp [noRsdt, dumpWith]
    | true =>
        by_cases noXsdt : scanAcpiXSDT width system.memory (scanAcpiRSDP system).1 = 0
        · by_cases noRsdt : scanAcpiRSDT width system.memory (scanAcpiRSDP system).1 = 0
          · simp [noXsdt, noRsdt, dumpWith, dumpEntries]
          · simp [noXsdt, noRsdt, dumpWith]
        · simp [noXsdt]

variable {sign : Nat}

theorem filter_rootDumps (notRoot : ¬ IsRootSign sign) :
    (rootDumps width system).filter (Dump.hasSign system.memory sign) = [] := by
  have notRsdp : rsdpSignDefinition ≠ sign := fun same => notRoot (Or.inl same.symm)
  have notRsdt : rsdtSignature ≠ sign := fun same => notRoot (Or.inr (Or.inl same.symm))
  have notXsdt : xsdtSignature ≠ sign := fun same => notRoot (Or.inr (Or.inr same.symm))
  unfold rootDumps
  by_cases noRsdp : (scanAcpiRSDP system).1 = 0
  · simp only [noRsdp, if_true, List.filter_nil]
  · simp only [noRsdp, if_false, List.filter_append, filter_dumpWith, Dump.signature, notRsdp,
      notRsdt, notXsdt, List.append_nil]

theorem rsdt_ne_rsdp : rsdtSignature ≠ rsdpSignDefinition := by decide

theorem xsdt_ne_rsdp : xsdtSignature ≠ rsdpSignDefinition := by decide

theorem xsdt_ne_rsdt : xsdtSignature ≠ rsdtSignature := by decide

theorem dumpAcpiTableWithSign_root (root : IsRootSign sign) :
    dumpAcpiTableWithSign width system sign =
      some ((rootDumps width system).filter (Dump.hasSign system.memory sign)) := by
  unfold dumpAcpiTableWithSign rootDumps
  by_cases noRsdp : (scanAcpiRSDP system).1 = 0
  · simp only [noRsdp, if_true, List.filter_nil]
  · simp only [noRsdp, if_false, List.filter_append, filter_dumpWith, Dump.signature]
    rcases root with rfl | rfl | rfl
    · simp [rsdt_ne_rsdp, xsdt_ne_rsdp]
    · simp [rsdt_ne_rsdp, rsdt_ne_rsdp.symm, xsdt_ne_rsdt]
    · simp [xsdt_ne_rsdp, xsdt_ne_rsdp.symm, xsdt_ne_rsdt, xsdt_ne_rsdt.symm]

theorem dumpSubTables_null : dumpSubTables sign (0, 0) = [] := by
  rw [dumpSubTables_eq, subTable]
  split
  · rfl
  · split <;> rfl

/-- The two loops are one walk of the listed tables. -/
theorem dumpAcpiTableWithSign_eq (notRoot : ¬ IsRootSign sign) :
    dumpAcpiTableWithSign width system sign =
      (dumpEntriesWithSign width system.memory sign (listedTables width system) (0, 0)).map
        fun result => result.1 ++ dumpSubTables sign result.2 := by
  have notRsdp : sign ≠ rsdpSignDefinition := fun same => notRoot (Or.inl same)
  have notRsdt : sign ≠ rsdtSignature := fun same => notRoot (Or.inr (Or.inl same))
  have notXsdt : sign ≠ xsdtSignature := fun same => notRoot (Or.inr (Or.inr same))
  unfold dumpAcpiTableWithSign listedTables
  by_cases noRsdp : (scanAcpiRSDP system).1 = 0
  · simp [noRsdp, dumpEntriesWithSign, dumpSubTables_null]
  · simp only [noRsdp, notRsdp, notRsdt, notXsdt, if_false]
    generalize (if (scanAcpiRSDP system).2 then
      scanAcpiXSDT width system.memory (scanAcpiRSDP system).1 else 0) = xsdt
    by_cases noXsdt : xsdt = 0
    · by_cases noRsdt : scanAcpiRSDT width system.memory (scanAcpiRSDP system).1 = 0
      · simp [noXsdt, noRsdt, dumpEntriesWithSign, dumpSubTables_null]
      · simp [noXsdt, noRsdt, Option.map_eq_bind]
    · simp [noXsdt, Option.map_eq_bind]

/-- The dump of one signature follows the full dump exactly on such entries. -/
theorem dumpAcpiTableWithSign_followsFullDump_iff (width : Nat) (system : SystemTable)
    (sign : Nat) :
    dumpAcpiTableWithSign width system sign =
        some ((dumpAcpiAllTable width system).filter (Dump.hasSign system.memory sign)) ↔
      FollowsFullDump width system sign := by
  rw [dumpAcpiAllTable_eq, List.filter_append]
  by_cases root : IsRootSign sign
  · rw [dumpAcpiTableWithSign_root width system root, Option.some.injEq, eq_comm,
      List.append_right_eq_self, filter_dumpEntries_root width system.memory sign root]
    constructor
    · intro unlisted
      exact ⟨fun _ => unlisted, fun other => absurd root other, fun other => absurd root other⟩
    · intro follows
      exact follows.root root
  · rw [dumpAcpiTableWithSign_eq width system root, filter_rootDumps width system root,
      List.nil_append]
    by_cases null : 0 ∈ listedTables width system
    · rw [dumpEntriesWithSign_null width system.memory sign null, Option.map_none]
      constructor
      · intro dumped
        cases dumped
      · intro follows
        exact absurd rfl (follows.present root 0 null)
    · have present : ∀ table ∈ listedTables width system, table ≠ 0 := by
        intro table member isNull
        rw [isNull] at member
        exact null member
      obtain ⟨dumped, last, result, emitted⟩ :=
        dumpEntriesWithSign_eq width system.memory sign _ present (0, 0)
      have noSlot : dumpUnder sign (subTable sign (0, 0)) = none := by
        unfold subTable
        split
        · rfl
        · split <;> rfl
      rw [noSlot] at emitted
      rw [result, Option.map_some, Option.some.injEq, emitted,
        filter_dumpEntries width system.memory sign _ present, emitLate_eq_emitNow_iff,
        List.pairwise_filterMap]
      simp only [keepsRecorded_entryItem_iff]
      constructor
      · intro kept
        exact ⟨fun isRoot => absurd isRoot root, fun _ => present, fun _ => kept⟩
      · intro follows
        exact follows.named root

end System

/-! ## A null entry and two FADTs -/

/-- An RSDP at 0x10 and an XSDT at 0x40; a MADT at 0x100, and at 0x200 and 0x300 two
FADTs of ACPI 1.0 that name a FACS at 0x2A0 and at 0x3A0. -/
def memoryWith (entries : List Nat) : Memory :=
  let zero : Memory := fun _ => 0
  let xsdt := ((zero.write 0x1F [2]).write 0x28 (toBytes 8 0x40)).write 0x40
    (toBytes 4 xsdtSignature ++ toBytes 4 (36 + 8 * entries.length))
  let listed := (xsdt.write 0x64 (entries.flatMap (toBytes 8))).write 0x100
    (toBytes 4 (signature32 'A' 'P' 'I' 'C'))
  let first := (listed.write 0x200 (toBytes 4 fadtSignature)).write 0x224 (toBytes 4 0x2A0)
  (first.write 0x300 (toBytes 4 fadtSignature)).write 0x324 (toBytes 4 0x3A0)

def systemWith (entries : List Nat) : SystemTable where
  memory := memoryWith entries
  configurationTable := [⟨.acpi20Table, 0x10⟩]
  installed := by
    intro table member
    rw [List.mem_singleton.mp member]
    exact Nat.succ_ne_zero _

/-- A null entry in front of the MADT is dereferenced, and the FACS of the first of two
FADTs is lost. -/
theorem dumpAcpiTableWithSign_nullEntry :
    let madt := signature32 'A' 'P' 'I' 'C'
    let nullEntry := systemWith [0, 0x100]
    let twoFadts := systemWith [0x200, 0x300]
    (dumpAcpiTableWithSign 8 nullEntry madt = none ∧
      (dumpAcpiAllTable 8 nullEntry).filter (Dump.hasSign nullEntry.memory madt) =
        [⟨.library madt, 0x100⟩]) ∧
    (dumpAcpiTableWithSign 8 twoFadts facsSignature = some [⟨.dumpAcpiFACS, 0x3A0⟩] ∧
      (dumpAcpiAllTable 8 twoFadts).filter (Dump.hasSign twoFadts.memory facsSignature) =
        [⟨.dumpAcpiFACS, 0x2A0⟩, ⟨.dumpAcpiFACS, 0x3A0⟩]) := by
  decide +kernel

end AppEfi.DumpAcpi
