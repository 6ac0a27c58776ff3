import AppEfi.DumpAcpi.DumpSelectAcpiTable
import AppEfi.Lib.CountedWalk
import AppEfi.Lib.Dumped

/-!
# Proximity domains of the MSCT

DumpAcpiMSCT where verbose output is on.  The loop goes on by the Length of a structure and
counts one domain for each, while a structure may stand for a range of domains.  A UINTN has
8 bytes.
-/

set_option autoImplicit false

namespace AppEfi.DumpAcpi

open AppEfi.CountedWalk
open AppEfi.Dumped

namespace Msct

section Fields

variable (memory : Memory)

def offsetProxDomInfo (msct : Nat) : Nat := memory.readLe (msct + 36) 4

/-- The number of the last domain. -/
def maximumNumberOfProximityDomains (msct : Nat) : Nat := memory.readLe (msct + 40) 4

def informationLength (information : Nat) : Nat := memory.readLe (information + 1) 1

def proximityDomainRangeLow (information : Nat) : Nat := memory.readLe (information + 2) 4

def proximityDomainRangeHigh (information : Nat) : Nat := memory.readLe (information + 6) 4

end Fields

def headerSize : Nat := 56

def informationSize : Nat := 22

def headerFields : List (Nat × Nat) := [(36, 4), (40, 4), (44, 4), (48, 8)]

def informationFields : List (Nat × Nat) := [(0, 1), (1, 1), (2, 4), (6, 4), (10, 4), (14, 8)]

end Msct

open Msct

section Dump

variable (memory : Memory)

def informationPlace (information : Nat) : Range :=
  ⟨information, informationLength memory information⟩

/-- A structure is reported with its address and its Length. -/
def dumpAcpiMaximumProximityDomainInformation (information : Nat) : List (Dumped Range) :=
  if information = 0 then []
  else
    .report (informationPlace memory information) :: fieldReads information informationFields

def informationTurn (information : Nat) : List (Dumped Range) :=
  dumpAcpiMaximumProximityDomainInformation memory information ++ [.read ⟨information + 1, 1⟩]

/-- The loop with `count` turns to go. -/
def dumpInformations : Nat → Nat → List (Dumped Range)
  | 0, _ => []
  | count + 1, information =>
      informationTurn memory information ++
        dumpInformations count (information + informationLength memory information)

/-- `Index` goes up to the number of the last domain. -/
def dumpAcpiMSCT (msct : Nat) : List (Dumped Range) :=
  if msct = 0 then []
  else
    .read ⟨msct, descriptionHeaderSize⟩ :: fieldReads msct headerFields ++
      dumpInformations memory (maximumNumberOfProximityDomains memory msct + 1)
        (msct + offsetProxDomInfo memory msct)

theorem dumpInformations_eq (count start : Nat) :
    dumpInformations memory count start =
      (positions (informationLength memory) count start).flatMap (informationTurn memory) := by
  induction count generalizing start with
  | zero => rfl
  | succ count ih => rw [dumpInformations, ih, positions, List.flatMap_cons]

theorem reports_informationTurn {information : Nat} (notNull : information ≠ 0) :
    reports (informationTurn memory information) = [informationPlace memory information] := by
  rw [informationTurn, dumpAcpiMaximumProximityDomainInformation, if_neg notNull]
  simp

theorem readsInside_informationTurn {outer : Range} {information : Nat}
    (inside : Range.Inside ⟨information, informationSize⟩ outer) :
    ReadsInside outer (informationTurn memory information) := by
  obtain ⟨lower, upper⟩ := inside
  dsimp only [informationSize] at lower upper
  have fields :
      ReadsInside outer (fieldReads information informationFields : List (Dumped Range)) :=
    readsInside_fieldReads (by decide) lower upper
  have length : Range.Inside ⟨information + 1, 1⟩ outer := by
    simp only [Range.Inside]
    omega
  rw [informationTurn, dumpAcpiMaximumProximityDomainInformation]
  split
  · simpa using length
  · simpa using ⟨fields, length⟩

theorem reports_dumpInformations {count start : Nat} (notNull : start ≠ 0) :
    reports (dumpInformations memory count start) =
      (positions (informationLength memory) count start).map (informationPlace memory) := by
  rw [dumpInformations_eq, reports_flatMap, List.map_eq_flatMap]
  refine List.flatMap_congr fun information listed => ?_
  have behind := le_of_mem_positions listed
  exact reports_informationTurn memory (by omega)

end Dump

/-! ## Well-formed tables -/

/-- A table whose structures lie back to back inside it and cover each domain up to the last
one once. -/
structure MsctTable where
  memory : Memory
  address : Nat
  notNull : address ≠ 0
  header : headerSize ≤ tableLength memory address
  informations : List Range
  finish : Nat
  laidOut : LaidOut (informationLength memory) informationSize
    (address + offsetProxDomInfo memory address) finish informations
  inside : finish ≤ address + tableLength memory address
  ranges : ∀ information ∈ informations,
    proximityDomainRangeLow memory information.start ≤
      proximityDomainRangeHigh memory information.start
  once : ∀ domain, (informations.countP fun information => decide
      (proximityDomainRangeLow memory information.start ≤ domain ∧
        domain ≤ proximityDomainRangeHigh memory information.start)) =
    if domain ≤ maximumNumberOfProximityDomains memory address then 1 else 0

namespace MsctTable

variable (table : MsctTable)

def place : Range := ⟨table.address, tableLength table.memory table.address⟩

/-- The dump reports the structures of the table, each once and in order, and reads nothing
behind the table's end. -/
def ReportsEach (dump : Memory → Nat → List (Dumped Range)) : Prop :=
  reports (dump table.memory table.address) = table.informations ∧
    ReadsInside table.place (dump table.memory table.address)

def OneDomainEach : Prop :=
  ∀ information ∈ table.informations,
    proximityDomainRangeLow table.memory information.start =
      proximityDomainRangeHigh table.memory information.start

instance : Decidable table.OneDomainEach :=
  inferInstanceAs (Decidable (∀ information ∈ table.informations, _ = _))

/-- The domains that a structure stands for. -/
def domains (information : Range) : Range where
  start := proximityDomainRangeLow table.memory information.start
  length := proximityDomainRangeHigh table.memory information.start + 1 -
    proximityDomainRangeLow table.memory information.start

theorem length_domains_pos : ∀ domains ∈ table.informations.map table.domains,
    0 < domains.length := by
  rw [List.forall_mem_map]
  intro information listed
  have order := table.ranges information listed
  dsimp only [domains]
  omega

theorem sum_length_domains :
    ((table.informations.map table.domains).map Range.length).sum =
      maximumNumberOfProximityDomains table.memory table.address + 1 := by
  refine Range.sum_length_of_partition table.length_domains_pos fun domain => ?_
  have once := table.once domain
  simp only [← Nat.lt_succ_iff (n := maximumNumberOfProximityDomains _ _)] at once
  rw [List.countP_map, ← once]
  refine List.countP_congr fun information listed => ?_
  have order := table.ranges information listed
  simp only [Function.comp_apply, Range.covers, Bool.and_eq_true, decide_eq_true_eq]
  dsimp only [domains]
  omega

/-- As many structures as domains exactly when each stands for one. -/
theorem length_informations_iff :
    table.informations.length = maximumNumberOfProximityDomains table.memory table.address + 1 ↔
      table.OneDomainEach := by
  have long : ∀ length ∈ (table.informations.map table.domains).map Range.length, 1 ≤ length :=
    List.forall_mem_map.mpr table.length_domains_pos
  have count : table.informations.length =
      ((table.informations.map table.domains).map Range.length).length := by simp
  rw [← sum_length_domains, count, Range.length_eq_sum_iff long, List.forall_mem_map,
    List.forall_mem_map]
  refine forall₂_congr fun information listed => ?_
  have order := table.ranges information listed
  dsimp only [domains]
  omega

theorem start_notNull : table.address + offsetProxDomInfo table.memory table.address ≠ 0 := by
  have notNull := table.notNull
  omega

theorem reports_dump :
    reports (dumpAcpiMSCT table.memory table.address) =
      (positions (informationLength table.memory)
        (maximumNumberOfProximityDomains table.memory table.address + 1)
        (table.address + offsetProxDomInfo table.memory table.address)).map
          (informationPlace table.memory) := by
  rw [dumpAcpiMSCT, if_neg table.notNull, List.cons_append, reports_read, reports_append,
    reports_fieldReads, List.nil_append, reports_dumpInformations table.memory table.start_notNull]

theorem map_informationPlace :
    (table.informations.map Range.start).map (informationPlace table.memory) =
      table.informations := by
  rw [List.map_map]
  refine (List.map_congr_left fun information listed => ?_).trans (List.map_id _)
  rw [Function.comp_apply, informationPlace, table.laidOut.lengths information listed]
  rfl

theorem readsInside_dump (each : table.OneDomainEach) :
    ReadsInside table.place (dumpAcpiMSCT table.memory table.address) := by
  have header := table.header
  dsimp only [headerSize] at header
  have fields :
      ReadsInside table.place (fieldReads table.address headerFields : List (Dumped Range)) :=
    @readsInside_fieldReads _ _ _ headerSize _ (by decide) (Nat.le_refl _)
      (Nat.add_le_add_left table.header _)
  rw [dumpAcpiMSCT, if_neg table.notNull, dumpInformations_eq,
    ← table.length_informations_iff.mpr each, table.laidOut.positions_eq]
  simp only [List.cons_append, readsInside_read, readsInside_append, readsInside_flatMap,
    List.forall_mem_map]
  refine ⟨?_, fields, fun information listed => ?_⟩
  · simp only [Range.Inside, place, descriptionHeaderSize]
    omega
  · refine readsInside_informationTurn table.memory ?_
    have long := table.laidOut.long information listed
    have bounds := table.laidOut.inside information listed
    have inside := table.inside
    simp only [Range.Inside, place]
    omega

/-- As many turns as domains are as many as structures. -/
theorem oneDomainEach_of_reportsEach (reportsEach : table.ReportsEach dumpAcpiMSCT) :
    table.OneDomainEach := by
  have reported := reportsEach.1
  rw [table.reports_dump] at reported
  have count := congrArg List.length reported
  rw [List.length_map, length_positions] at count
  exact table.length_informations_iff.mp count.symm

end MsctTable

/-- The dump reports what the table has exactly when each structure stands for one domain. -/
theorem dumpAcpiMSCT_reportsEach_iff (table : MsctTable) :
    table.ReportsEach dumpAcpiMSCT ↔ table.OneDomainEach := by
  constructor
  · exact table.oneDomainEach_of_reportsEach
  · intro each
    refine ⟨?_, table.readsInside_dump each⟩
    rw [table.reports_dump, ← table.length_informations_iff.mpr each, table.laidOut.positions_eq,
      table.map_informationPlace]

/-! ## A range of domains -/

/-- One structure for the domains 0 and 1. -/
def twoDomains : Memory :=
  Memory.ofBytesAt 0x1004
    ([78, 0, 0, 0] ++ List.replicate 28 0 ++ [56, 0, 0, 0, 1, 0, 0, 0] ++ List.replicate 12 0 ++
      [1, 22, 0, 0, 0, 0, 1, 0, 0, 0])

def twoDomainsMsct : MsctTable where
  memory := twoDomains
  address := 0x1000
  notNull := Memory.secondPage_ne_null
  header := by decide
  informations := [⟨0x1038, 22⟩]
  finish := 0x104E
  laidOut :=
    { tiles := by decide
      lengths := by decide
      long := by decide }
  inside := by decide
  ranges := by decide
  once := by
    intro domain
    have last : maximumNumberOfProximityDomains twoDomains 0x1000 = 1 := by decide
    have low : proximityDomainRangeLow twoDomains 0x1038 = 0 := by decide
    have high : proximityDomainRangeHigh twoDomains 0x1038 = 1 := by decide
    simp [List.countP_cons, last, low, high]

/-- The second turn is behind the table. -/
theorem not_reportsEach_twoDomains : ¬ twoDomainsMsct.ReportsEach dumpAcpiMSCT := by
  intro reportsEach
  have each := twoDomainsMsct.oneDomainEach_of_reportsEach reportsEach
  exact absurd each (by decide)

end AppEfi.DumpAcpi
