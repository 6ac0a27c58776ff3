import Mathlib.Data.List.Basic
import Mathlib.Tactic.Ring
import Mathlib.Tactic.NormNum

/-!
# `CheckPtEntry`

The check of one second-level paging entry in VtdDump.c against the fault
exceptions, the RMRR records and the IOMMU map list.  A 4KB entry that none of
them explains sets `mHasError`; the loop over the pages of a 2MB entry only
prints.
-/

set_option autoImplicit false

namespace AppEfi.Vtd

structure PciLocation where
  segment : Nat
  bus : Nat
  device : Nat
  function : Nat
  deriving DecidableEq, Repr

structure ExceptionRecord where
  location : PciLocation

structure RmrrRecord where
  location : PciLocation
  address : UInt64
  length : UInt64

/-- What `HandleProtocol` and `GetLocation` say about a mapped handle. -/
inductive HandleLocation where
  | notPci
  | unknownPci
  | pci (location : PciLocation)

structure MapHandleInfo where
  handle : HandleLocation
  ioMmuAccess : UInt64

structure MapInfo where
  deviceAddress : UInt64
  numberOfPages : UInt64
  handleList : List MapHandleInfo

/-- The lists that the check consults, in the order of their insertion. -/
structure DmaRecords where
  exceptionRecord : List ExceptionRecord
  rmrrRecord : List RmrrRecord
  maps : List MapInfo

def bitField (word : UInt64) (low width : Nat) : Nat := word.toNat / 2 ^ low % 2 ^ width

/-- `VTD_SECOND_LEVEL_PAGING_ENTRY`. -/
structure PtEntry where
  uint64 : UInt64
  deriving DecidableEq, Repr

def PtEntry.read (entry : PtEntry) : Bool := bitField entry.uint64 0 1 != 0

def PtEntry.write (entry : PtEntry) : Bool := bitField entry.uint64 1 1 != 0

def PtEntry.addressLo (entry : PtEntry) : Nat := bitField entry.uint64 12 20

def PtEntry.addressHi (entry : PtEntry) : Nat := bitField entry.uint64 32 20

def vtd64BitsAddress (lo hi : Nat) : UInt64 :=
  UInt64.ofNat lo <<< 12 ||| UInt64.ofNat hi <<< 32

def PtEntry.address (entry : PtEntry) : UInt64 :=
  vtd64BitsAddress entry.addressLo entry.addressHi

def edkiiIoMmuAccessRead : UInt64 := 0x1

def edkiiIoMmuAccessWrite : UInt64 := 0x2

def PtEntry.ioMmuAccess (entry : PtEntry) : UInt64 :=
  (if entry.read then edkiiIoMmuAccessRead else 0) |||
    (if entry.write then edkiiIoMmuAccessWrite else 0)

def size4Kb : UInt64 := 0x1000

def size2Mb : UInt64 := 0x200000

def efiPagesToSize (pages : UInt64) : UInt64 := pages <<< 12

/-- The range test of both lists.  The source joins the two comparisons with `&&`,
so it holds only where `base + length` wraps. -/
def outsideRange (address base length : UInt64) : Bool :=
  address < base && address ≥ base + length

section Lists

variable (records : DmaRecords) (location : PciLocation)

/-! The three searches go through `BackLink`, from the last record to the first. -/

def existInExceptionList : Bool :=
  records.exceptionRecord.reverse.any fun record => record.location == location

def existInRmrr (address : UInt64) : Bool :=
  records.rmrrRecord.reverse.any fun record =>
    !outsideRange address record.address record.length && record.location == location

/-- A handle that is no PCI device, or whose location is unknown, matches any device. -/
def handleMatches (ioMmuAccess : UInt64) (info : MapHandleInfo) : Bool :=
  info.ioMmuAccess == ioMmuAccess &&
    match info.handle with
    | .notPci => true
    | .unknownPci => true
    | .pci mine => mine == location

def existInIoMmuMap (address ioMmuAccess : UInt64) : Bool :=
  records.maps.reverse.any fun mapping =>
    !outsideRange address mapping.deviceAddress (efiPagesToSize mapping.numberOfPages) &&
      mapping.handleList.reverse.any (handleMatches location ioMmuAccess)

end Lists

inductive CheckMessage where
  /-- "Address is not in Map entry". -/
  | notInMap (address : UInt64)
  | invalidConfiguration (address size : UInt64)
  deriving DecidableEq, Repr

/-- `mHasError` and what was printed. -/
structure CheckState where
  hasError : Bool
  messages : List CheckMessage
  deriving DecidableEq, Repr

def CheckState.print (state : CheckState) (message : CheckMessage) : CheckState :=
  { state with messages := state.messages ++ [message] }

section Check

variable (records : DmaRecords) (location : PciLocation)

/-- The `SIZE_4KB` case. -/
def checkPage (address ioMmuAccess : UInt64) (state : CheckState) : CheckState :=
  if existInExceptionList records location then state
  else if existInRmrr records location address then state
  else if existInIoMmuMap records location address ioMmuAccess then state
  else { state.print (.notInMap address) with hasError := true }

/-- The loop of the `SIZE_2MB` case with `count` pages to go. -/
def checkPages (address ioMmuAccess : UInt64) : Nat → UInt64 → CheckState → CheckState
  | 0, _, state => state
  | count + 1, index, state =>
      let page := address + index * size4Kb
      if existInExceptionList records location then state
      else if existInRmrr records location page then state
      else
        let state :=
          if existInIoMmuMap records location page ioMmuAccess then state
          else state.print (.notInMap page)
        checkPages address ioMmuAccess count (index + 1) state

/-- `ASSERT (FALSE)` of the last branch has no effect in a release build. -/
def checkPtEntry (ptEntry : PtEntry) (size : UInt64) (state : CheckState) : CheckState :=
  if !ptEntry.read && !ptEntry.write then state
  else if size = size4Kb then
    checkPage records location ptEntry.address ptEntry.ioMmuAccess state
  else if size = size2Mb then
    checkPages records location ptEntry.address ptEntry.ioMmuAccess
      (size2Mb / size4Kb).toNat 0 state
  else state.print (.invalidConfiguration ptEntry.address size)

/-- The check of several 4KB entries, one after the other. -/
def checkSmallEntries (ptEntries : List PtEntry) (state : CheckState) : CheckState :=
  ptEntries.foldl (fun state ptEntry => checkPtEntry records location ptEntry size4Kb state)
    state

end Check

/-! ## The pages of a large entry -/

/-- `small` are the 4KB entries for the range of the 2MB entry `large`, with its
permissions. -/
structure Covers (large : PtEntry) (small : List PtEntry) : Prop where
  length : small.length = 512
  read : ∀ entry ∈ small, entry.read = large.read
  write : ∀ entry ∈ small, entry.write = large.write
  address : small.map PtEntry.address =
    (List.range 512).map fun index => large.address + UInt64.ofNat index * size4Kb

theorem toNat_vtd64BitsAddress {lo hi : Nat} (loFits : lo < 2 ^ 20) (hiFits : hi < 2 ^ 32) :
    (vtd64BitsAddress lo hi).toNat = hi * 2 ^ 32 + lo * 2 ^ 12 := by
  have disjoint := Nat.two_pow_add_eq_or_of_lt (i := 32) (b := lo * 2 ^ 12) (by omega) hi
  rw [Nat.mul_comm (2 ^ 32)] at disjoint
  rw [disjoint, Nat.or_comm]
  simp only [vtd64BitsAddress, UInt64.toNat_or, UInt64.toNat_shiftLeft,
    UInt64.toNat_ofNat', Nat.shiftLeft_eq]
  change lo % 2 ^ 64 * 2 ^ 12 % 2 ^ 64 ||| hi % 2 ^ 64 * 2 ^ 32 % 2 ^ 64 = _
  congr 1 <;> omega

theorem PtEntry.toNat_address (entry : PtEntry) :
    entry.address.toNat = entry.addressHi * 2 ^ 32 + entry.addressLo * 2 ^ 12 := by
  have lo : entry.addressLo < 2 ^ 20 := Nat.mod_lt _ (by decide)
  have hi : entry.addressHi < 2 ^ 20 := Nat.mod_lt _ (by decide)
  exact toNat_vtd64BitsAddress lo (by omega)

def PtEntry.smallEntries (large : PtEntry) : List PtEntry :=
  (List.range 512).map fun index => ⟨large.uint64 + UInt64.ofNat index * size4Kb⟩

/-- A 2MB entry's address is a multiple of its size; then the 4KB entries exist. -/
theorem PtEntry.covers_smallEntries (large : PtEntry)
    (aligned : large.addressLo % 512 = 0) : Covers large large.smallEntries := by
  have wordBound := large.uint64.toNat_lt
  simp only [PtEntry.addressLo, bitField] at aligned
  -- The index goes to bits 12 to 20, which are zero.
  have word : ∀ index < 512, (large.uint64 + UInt64.ofNat index * size4Kb).toNat =
      large.uint64.toNat + index * 4096 := by
    intro index bound
    rw [UInt64.toNat_add, UInt64.toNat_mul, UInt64.toNat_ofNat',
      show size4Kb.toNat = 4096 from rfl]
    omega
  refine ⟨by simp [PtEntry.smallEntries], ?_, ?_, ?_⟩
  · intro entry member
    obtain ⟨index, listed, rfl⟩ := List.mem_map.mp member
    have sum := word index (List.mem_range.mp listed)
    have same : bitField (large.uint64 + UInt64.ofNat index * size4Kb) 0 1 =
        bitField large.uint64 0 1 := by
      simp only [bitField, sum]
      omega
    simp only [PtEntry.read, same]
  · intro entry member
    obtain ⟨index, listed, rfl⟩ := List.mem_map.mp member
    have sum := word index (List.mem_range.mp listed)
    have same : bitField (large.uint64 + UInt64.ofNat index * size4Kb) 1 1 =
        bitField large.uint64 1 1 := by
      simp only [bitField, sum]
      omega
    simp only [PtEntry.write, same]
  · rw [PtEntry.smallEntries, List.map_map]
    apply List.map_congr_left
    intro index listed
    have bound : index < 512 := List.mem_range.mp listed
    have sum := word index bound
    apply UInt64.toNat_inj.mp
    rw [Function.comp_apply, UInt64.toNat_add, UInt64.toNat_mul, PtEntry.toNat_address,
      PtEntry.toNat_address, UInt64.toNat_ofNat', show size4Kb.toNat = 4096 from rfl]
    simp only [PtEntry.addressLo, PtEntry.addressHi, bitField, sum]
    omega

/-- The lists allow the device to use the page with this access. -/
def Explained (records : DmaRecords) (location : PciLocation) (ioMmuAccess address : UInt64) :
    Prop :=
  existInRmrr records location address = true ∨
    existInIoMmuMap records location address ioMmuAccess = true

instance (records : DmaRecords) (location : PciLocation) (ioMmuAccess address : UInt64) :
    Decidable (Explained records location ioMmuAccess address) :=
  inferInstanceAs (Decidable (_ ∨ _))

section Verdict

variable (records : DmaRecords) (location : PciLocation)

theorem hasError_checkPage (address ioMmuAccess : UInt64) (state : CheckState) :
    (checkPage records location address ioMmuAccess state).hasError = true ↔
      state.hasError = true ∨
        existInExceptionList records location = false ∧
          ¬ Explained records location ioMmuAccess address := by
  unfold checkPage Explained
  split
  · simp_all
  · split
    · simp_all
    · split <;> simp_all

theorem hasError_checkPages (address ioMmuAccess : UInt64) (count : Nat) (index : UInt64)
    (state : CheckState) :
    (checkPages records location address ioMmuAccess count index state).hasError =
      state.hasError := by
  induction count generalizing index state with
  | zero => rfl
  | succ count ih =>
      rw [checkPages]
      split
      · rfl
      · split
        · rfl
        · rw [ih]
          split <;> rfl

theorem hasError_checkPtEntry_large (large : PtEntry) (state : CheckState) :
    (checkPtEntry records location large size2Mb state).hasError = state.hasError := by
  unfold checkPtEntry
  split
  · rfl
  · rw [if_neg (by decide), if_pos rfl, hasError_checkPages]

theorem hasError_checkPtEntry_small (small : PtEntry) (state : CheckState) :
    (checkPtEntry records location small size4Kb state).hasError = true ↔
      state.hasError = true ∨
        (small.read = true ∨ small.write = true) ∧
          existInExceptionList records location = false ∧
          ¬ Explained records location small.ioMmuAccess small.address := by
  unfold checkPtEntry
  by_cases absent : small.read = false ∧ small.write = false
  · simp [absent.1, absent.2]
  · have present : small.read = true ∨ small.write = true := by
      cases read : small.read <;> cases write : small.write <;> simp_all
    rw [if_neg (by simpa using absent), if_pos rfl, hasError_checkPage]
    simp only [present, true_and]

theorem hasError_checkSmallEntries (small : List PtEntry) (state : CheckState) :
    (checkSmallEntries records location small state).hasError = true ↔
      state.hasError = true ∨
        ∃ entry ∈ small, (entry.read = true ∨ entry.write = true) ∧
          existInExceptionList records location = false ∧
          ¬ Explained records location entry.ioMmuAccess entry.address := by
  induction small generalizing state with
  | nil => simp [checkSmallEntries]
  | cons entry rest ih =>
      have step : checkSmallEntries records location (entry :: rest) state =
          checkSmallEntries records location rest
            (checkPtEntry records location entry size4Kb state) := rfl
      rw [step, ih, hasError_checkPtEntry_small]
      simp only [List.mem_cons, exists_eq_or_imp, or_assoc]

end Verdict

theorem Covers.ioMmuAccess_eq {large : PtEntry} {small : List PtEntry}
    (covers : Covers large small) {entry : PtEntry} (member : entry ∈ small) :
    entry.ioMmuAccess = large.ioMmuAccess := by
  rw [PtEntry.ioMmuAccess, covers.read entry member, covers.write entry member]
  rfl

/-- The 4KB checks set `mHasError` exactly for an access of a device that is no
exception to a page of the large entry that nothing explains. -/
theorem Covers.hasError_iff {large : PtEntry} {small : List PtEntry}
    (covers : Covers large small) (records : DmaRecords) (location : PciLocation)
    (state : CheckState) :
    (checkSmallEntries records location small state).hasError = true ↔
      state.hasError = true ∨
        (large.read = true ∨ large.write = true) ∧
          existInExceptionList records location = false ∧
          ∃ index < 512, ¬ Explained records location large.ioMmuAccess
            (large.address + UInt64.ofNat index * size4Kb) := by
  rw [hasError_checkSmallEntries]
  apply or_congr_right
  constructor
  · rintro ⟨entry, member, access, exception, unexplained⟩
    have listed : entry.address ∈ small.map PtEntry.address := List.mem_map_of_mem member
    rw [covers.address, List.mem_map] at listed
    obtain ⟨index, bound, same⟩ := listed
    rw [covers.read entry member, covers.write entry member] at access
    rw [covers.ioMmuAccess_eq member, ← same] at unexplained
    exact ⟨access, exception, index, List.mem_range.mp bound, unexplained⟩
  · rintro ⟨access, exception, index, bound, unexplained⟩
    have listed : large.address + UInt64.ofNat index * size4Kb ∈
        small.map PtEntry.address := by
      rw [covers.address]
      exact List.mem_map.mpr ⟨index, List.mem_range.mpr bound, rfl⟩
    obtain ⟨entry, member, same⟩ := List.mem_map.mp listed
    refine ⟨entry, member, ?_, exception, ?_⟩
    · rwa [covers.read entry member, covers.write entry member]
    · rwa [covers.ioMmuAccess_eq member, same]

/-- The 2MB check and the 512 4KB checks agree about `mHasError` exactly when it was
set before, or the entry allows no access, or the device is an exception, or every page
of the range is explained. -/
theorem checkPtEntry_large_eq_small_iff (records : DmaRecords) (location : PciLocation)
    (large : PtEntry) (small : List PtEntry) (state : CheckState)
    (covers : Covers large small) :
    (checkPtEntry records location large size2Mb state).hasError =
        (checkSmallEntries records location small state).hasError ↔
      state.hasError = true ∨
        (large.read = false ∧ large.write = false) ∨
        existInExceptionList records location = true ∨
        ∀ index < 512, Explained records location large.ioMmuAccess
          (large.address + UInt64.ofNat index * size4Kb) := by
  have verdict := covers.hasError_iff records location state
  rw [hasError_checkPtEntry_large]
  by_cases before : state.hasError = true
  · have after := verdict.mpr (Or.inl before)
    simp [before, after]
  · have clear : state.hasError = false := by simpa using before
    rw [clear, eq_comm, ← Bool.not_eq_true, verdict]
    simp only [clear, Bool.false_eq_true, false_or, not_and_or, not_or, not_exists,
      Bool.not_eq_true, Bool.not_eq_false, not_not, imp_iff_not_or]

/-- A readable 2MB entry at 2MB and a platform that maps nothing. -/
def unmappedLarge : PtEntry where
  uint64 := 0x200081

def nothingMapped : DmaRecords where
  exceptionRecord := []
  rmrrRecord := []
  maps := []

theorem checkPtEntry_large_eq_small_iff_unmapped :
    (checkPtEntry nothingMapped ⟨0, 0, 2, 0⟩ unmappedLarge size2Mb ⟨false, []⟩).hasError =
        (checkSmallEntries nothingMapped ⟨0, 0, 2, 0⟩ unmappedLarge.smallEntries
          ⟨false, []⟩).hasError ↔
      (CheckState.mk false []).hasError = true ∨
        (unmappedLarge.read = false ∧ unmappedLarge.write = false) ∨
        existInExceptionList nothingMapped ⟨0, 0, 2, 0⟩ = true ∨
        ∀ index < 512, Explained nothingMapped ⟨0, 0, 2, 0⟩ unmappedLarge.ioMmuAccess
          (unmappedLarge.address + UInt64.ofNat index * size4Kb) :=
  checkPtEntry_large_eq_small_iff nothingMapped ⟨0, 0, 2, 0⟩ unmappedLarge
    unmappedLarge.smallEntries ⟨false, []⟩ (unmappedLarge.covers_smallEntries (by decide +kernel))

/-- The 2MB entry passes, its 4KB entries fail. -/
theorem checkPtEntry_unmappedLarge :
    Covers unmappedLarge unmappedLarge.smallEntries ∧
      (checkPtEntry nothingMapped ⟨0, 0, 2, 0⟩ unmappedLarge size2Mb
        ⟨false, []⟩).hasError = false ∧
      (checkSmallEntries nothingMapped ⟨0, 0, 2, 0⟩ unmappedLarge.smallEntries
        ⟨false, []⟩).hasError = true := by
  exact ⟨unmappedLarge.covers_smallEntries (by decide +kernel), by decide +kernel,
    by decide +kernel⟩

end AppEfi.Vtd
