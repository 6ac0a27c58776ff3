import AppEfi.Lib.Alignment
import AppEfi.Lib.Loop
import AppEfi.Lib.Memory
import AppEfi.Lib.Ranges
import Mathlib.Order.Bounds.Basic

/-!
# The search for a firmware file

GetFfsByName in PcdDump.c.  The heads of its two loops are the states of the search: a place
where a volume may start, and a place where a file of a volume may start.  A UINTN has 64
bits, and the flash image does not start at address 0.
-/

set_option autoImplicit false

namespace AppEfi.PcdDump

open AppEfi.Loop

/-! ## Volumes and files -/

section Headers

variable (memory : Memory)

/-- `Signature == EFI_FVH_SIGNATURE`, "_FVH". -/
def hasFvhSignature (fvHeader : Nat) : Bool :=
  decide (memory.readLe (fvHeader + 40) 4 = 0x4856465F)

def fvLength (fvHeader : Nat) : Nat := memory.readLe (fvHeader + 32) 8

def extHeaderOffset (fvHeader : Nat) : Nat := memory.readLe (fvHeader + 52) 2

/-- Where the files start: behind the extended header, or behind the header. -/
def filesOffset (fvHeader : Nat) : Nat :=
  if extHeaderOffset memory fvHeader ≠ 0 then
    extHeaderOffset memory fvHeader +
      memory.readLe (fvHeader + extHeaderOffset memory fvHeader + 16) 4
  else memory.readLe (fvHeader + 48) 2

def firstFfs (fvHeader : Nat) : Nat := fvHeader + alignValue (filesOffset memory fvHeader) 8

/-- `IS_FFS_FILE2`: FFS_ATTRIB_LARGE_FILE is set. -/
def isFfsFile2 (ffsHeader : Nat) : Bool := decide (memory (ffsHeader + 19) &&& 1 = 1)

/-- `FFS_FILE2_SIZE`, a UINT32, or `FFS_FILE_SIZE`. -/
def ffsSize (ffsHeader : Nat) : Nat :=
  if isFfsFile2 memory ffsHeader then memory.readLe (ffsHeader + 24) 8 % 2 ^ 32
  else memory.readLe (ffsHeader + 20) 3

/-- The size of EFI_FFS_FILE_HEADER2 or of EFI_FFS_FILE_HEADER. -/
def ffsHeaderSize (ffsHeader : Nat) : Nat := if isFfsFile2 memory ffsHeader then 32 else 24

/-- `ALIGN_VALUE(FfsSize, 8)` in the arithmetic of a UINT32. -/
def nextFfs (ffsHeader : Nat) : Nat :=
  ffsHeader + alignValue (ffsSize memory ffsHeader) 8 % 2 ^ 32

def isBufferErased (erasePolarity : UInt8) (inBuffer bufferSize : Nat) : Bool :=
  let eraseByte : UInt8 := if erasePolarity = 1 then 0xFF else 0
  (memory.bytesAt inBuffer bufferSize).all fun byte => byte = eraseByte

end Headers

/-- FileName, as the number of its 16 bytes, and Type. -/
structure FfsRequest where
  fileName : Nat
  fileType : UInt8

/-- EFI_FV_FILETYPE_ALL is 0. -/
def FfsRequest.matchesHeader (request : FfsRequest) (memory : Memory) (ffsHeader : Nat) : Bool :=
  decide (memory.readLe ffsHeader 16 = request.fileName) &&
    (decide (request.fileType = 0) || decide (memory (ffsHeader + 18) = request.fileType))

/-! ## The search -/

inductive FfsScan where
  | volume (fvHeader : Nat)
  | file (fvHeader ffsHeader : Nat)
  deriving DecidableEq

section Search

variable (memory : Memory) (fd : Range) (request : FfsRequest)

/-- The condition of the inner loop, and that the header is not erased: IsBufferErased is asked
with erase polarity 1. -/
def readsFfs (fvHeader ffsHeader : Nat) : Bool :=
  decide (ffsHeader < fvHeader + fvLength memory fvHeader - 1) &&
    !isBufferErased memory 1 ffsHeader
      (min (fvHeader + fvLength memory fvHeader - ffsHeader) 24)

def ffsTurn : FfsScan → Control FfsScan (Option Range)
  | .volume fvHeader =>
      if fvHeader < fd.start + fd.length - 1 then
        if hasFvhSignature memory fvHeader then
          if fd.start + fd.length - fvHeader < fvLength memory fvHeader then .stop none
          else .next (.file fvHeader (firstFfs memory fvHeader))
        else .next (.volume (fvHeader + 0x1000))
      else .stop none
  | .file fvHeader ffsHeader =>
      if readsFfs memory fvHeader ffsHeader then
        if request.matchesHeader memory ffsHeader then
          .stop (some ⟨ffsHeader, ffsSize memory ffsHeader⟩)
        else .next (.file fvHeader (nextFfs memory ffsHeader))
      else .next (.volume (fvHeader + fvLength memory fvHeader))

/-- OutFfsBuffer and OutFfsBufferSize; the inner `none` is FALSE. -/
def getFfsByName (fuel : Nat) : Option (Option Range) :=
  loop (ffsTurn memory fd request) fuel (.volume fd.start)

/-! ## What the search reads -/

/-- The places that the lengths and sizes lead to, whatever the name. -/
inductive Scanned : FfsScan → Prop where
  | start : Scanned (.volume fd.start)
  | gap {fvHeader : Nat} (scanned : Scanned (.volume fvHeader))
      (inside : fvHeader < fd.start + fd.length - 1)
      (noSignature : hasFvhSignature memory fvHeader = false) :
      Scanned (.volume (fvHeader + 0x1000))
  | volume {fvHeader : Nat} (scanned : Scanned (.volume fvHeader))
      (inside : fvHeader < fd.start + fd.length - 1)
      (signature : hasFvhSignature memory fvHeader = true)
      (fits : fvLength memory fvHeader ≤ fd.start + fd.length - fvHeader) :
      Scanned (.file fvHeader (firstFfs memory fvHeader))
  | file {fvHeader ffsHeader : Nat} (scanned : Scanned (.file fvHeader ffsHeader))
      (reads : readsFfs memory fvHeader ffsHeader = true) :
      Scanned (.file fvHeader (nextFfs memory ffsHeader))
  | behind {fvHeader ffsHeader : Nat} (scanned : Scanned (.file fvHeader ffsHeader))
      (ends : readsFfs memory fvHeader ffsHeader = false) :
      Scanned (.volume (fvHeader + fvLength memory fvHeader))

/-- The headers with the name and type that are read as those of files. -/
def matchingHeaders : Set Nat :=
  { ffsHeader | (∃ fvHeader, Scanned memory fd (.file fvHeader ffsHeader) ∧
      readsFfs memory fvHeader ffsHeader = true) ∧
      request.matchesHeader memory ffsHeader = true }

/-- A header that is read before the search is at this place. -/
def ReadBefore (header : Nat) : FfsScan → Prop
  | .volume fvHeader => header < fvHeader
  | .file fvHeader ffsHeader =>
      header < ffsHeader ∧ header < fvHeader + fvLength memory fvHeader

/-- A place that the lengths and sizes lead to before the first header with the name and
type. -/
structure ScannedFirst (scan : FfsScan) : Prop where
  scanned : Scanned memory fd scan
  noMatch : ∀ header ∈ matchingHeaders memory fd request, ¬ ReadBefore memory header scan

/-- No volume of length 0 and no other file with a size that rounds to 0 is read first. -/
def Progresses : Prop :=
  ∀ fvHeader ffsHeader, ScannedFirst memory fd request (.file fvHeader ffsHeader) →
    fvLength memory fvHeader ≠ 0 ∧
      (readsFfs memory fvHeader ffsHeader = true →
        request.matchesHeader memory ffsHeader = true ∨
          alignValue (ffsSize memory ffsHeader) 8 % 2 ^ 32 ≠ 0)

section Proofs

variable {memory fd request}
variable {fvHeader ffsHeader : Nat}

theorem le_firstFfs (memory : Memory) (fvHeader : Nat) : fvHeader ≤ firstFfs memory fvHeader :=
  Nat.le_add_right _ _

theorem le_nextFfs (memory : Memory) (ffsHeader : Nat) :
    ffsHeader ≤ nextFfs memory ffsHeader :=
  Nat.le_add_right _ _

theorem ffsTurn_gap (inside : fvHeader < fd.start + fd.length - 1)
    (noSignature : hasFvhSignature memory fvHeader = false) :
    ffsTurn memory fd request (.volume fvHeader) = .next (.volume (fvHeader + 0x1000)) := by
  simp [ffsTurn, inside, noSignature]

theorem ffsTurn_volume (inside : fvHeader < fd.start + fd.length - 1)
    (signature : hasFvhSignature memory fvHeader = true)
    (fits : fvLength memory fvHeader ≤ fd.start + fd.length - fvHeader) :
    ffsTurn memory fd request (.volume fvHeader) =
      .next (.file fvHeader (firstFfs memory fvHeader)) := by
  simp [ffsTurn, inside, signature, Nat.not_lt.mpr fits]

theorem ffsTurn_found (reads : readsFfs memory fvHeader ffsHeader = true)
    (isMatch : request.matchesHeader memory ffsHeader = true) :
    ffsTurn memory fd request (.file fvHeader ffsHeader) =
      .stop (some ⟨ffsHeader, ffsSize memory ffsHeader⟩) := by
  simp [ffsTurn, reads, isMatch]

theorem ffsTurn_other (reads : readsFfs memory fvHeader ffsHeader = true)
    (noMatch : ¬ request.matchesHeader memory ffsHeader = true) :
    ffsTurn memory fd request (.file fvHeader ffsHeader) =
      .next (.file fvHeader (nextFfs memory ffsHeader)) := by
  simp [ffsTurn, reads, noMatch]

theorem ffsTurn_behind (ends : readsFfs memory fvHeader ffsHeader = false) :
    ffsTurn memory fd request (.file fvHeader ffsHeader) =
      .next (.volume (fvHeader + fvLength memory fvHeader)) := by
  simp [ffsTurn, ends]

theorem lt_of_readsFfs (reads : readsFfs memory fvHeader ffsHeader = true) :
    ffsHeader < fvHeader + fvLength memory fvHeader := by
  simp only [readsFfs, Bool.and_eq_true, decide_eq_true_eq] at reads
  omega

theorem Scanned.volume_of_file {fvHeader ffsHeader : Nat} {scan : FfsScan}
    (scanned : Scanned memory fd scan) (isFile : scan = .file fvHeader ffsHeader) :
    fvHeader < fd.start + fd.length - 1 ∧ hasFvhSignature memory fvHeader = true ∧
      fvLength memory fvHeader ≤ fd.start + fd.length - fvHeader ∧ fvHeader ≤ ffsHeader := by
  induction scanned generalizing fvHeader ffsHeader with
  | start => cases isFile
  | gap => cases isFile
  | volume _ inside signature fits =>
      cases isFile
      exact ⟨inside, signature, fits, le_firstFfs memory _⟩
  | file _ _ ih =>
      cases isFile
      obtain ⟨inside, signature, fits, le⟩ := ih rfl
      exact ⟨inside, signature, fits, Nat.le_trans le (le_nextFfs memory _)⟩
  | behind => cases isFile

/-- What the search comes to is scanned. -/
theorem scanned_of_comes {scan : FfsScan}
    (comes : Comes (ffsTurn memory fd request) (.volume fd.start) scan) :
    Scanned memory fd scan := by
  induction comes with
  | start => exact Scanned.start
  | @next scan after _ turn ih =>
      cases scan with
      | volume fvHeader =>
          rw [ffsTurn] at turn
          split at turn
          · next inside =>
              split at turn
              · next signature =>
                  split at turn
                  · cases turn
                  · next fits =>
                      cases turn
                      exact ih.volume inside signature (Nat.not_lt.mp fits)
              · next noSignature =>
                  cases turn
                  exact ih.gap inside (by simpa using noSignature)
          · cases turn
      | file fvHeader ffsHeader =>
          rw [ffsTurn] at turn
          split at turn
          · next reads =>
              split at turn
              · cases turn
              · cases turn
                exact ih.file reads
          · next ends =>
              cases turn
              exact ih.behind (by simpa using ends)

/-- The search comes to what is scanned with no match before it. -/
theorem comes_of_scanned {scan : FfsScan} (scanned : Scanned memory fd scan)
    (noMatch : ∀ header ∈ matchingHeaders memory fd request, ¬ ReadBefore memory header scan) :
    Comes (ffsTurn memory fd request) (.volume fd.start) scan := by
  induction scanned with
  | start => exact Comes.start
  | gap scanned inside noSignature ih =>
      refine (ih fun header member before => ?_).next (ffsTurn_gap inside noSignature)
      exact noMatch header member (Nat.lt_add_right _ before)
  | volume scanned inside signature fits ih =>
      refine (ih fun header member before => ?_).next (ffsTurn_volume inside signature fits)
      exact noMatch header member
        ⟨Nat.lt_of_lt_of_le before (le_firstFfs memory _), Nat.lt_add_right _ before⟩
  | @file fvHeader ffsHeader scanned reads ih =>
      have comes := ih fun header member before => noMatch header member
        ⟨Nat.lt_of_lt_of_le before.1 (le_nextFfs memory _), before.2⟩
      by_cases isMatch : request.matchesHeader memory ffsHeader = true
      · -- The search stops at this header, so that the next one is the header itself.
        have notBefore := noMatch ffsHeader ⟨⟨fvHeader, scanned, reads⟩, isMatch⟩
        have same : nextFfs memory ffsHeader = ffsHeader := by
          refine Nat.le_antisymm (Nat.not_lt.mp fun less => ?_) (le_nextFfs memory _)
          exact notBefore ⟨less, lt_of_readsFfs reads⟩
        rw [same]
        exact comes
      · exact comes.next (ffsTurn_other reads isMatch)
  | behind scanned ends ih =>
      exact (ih fun header member before => noMatch header member before.2).next
        (ffsTurn_behind ends)

/-- The search stops at the lowest match. -/
theorem stops_at_least {header : Nat}
    (least : IsLeast (matchingHeaders memory fd request) header) :
    ∃ scan, Comes (ffsTurn memory fd request) (.volume fd.start) scan ∧
      ffsTurn memory fd request scan = .stop (some ⟨header, ffsSize memory header⟩) := by
  obtain ⟨⟨⟨fvHeader, scanned, reads⟩, isMatch⟩, lower⟩ := least
  refine ⟨_, comes_of_scanned scanned fun other member before => ?_, ffsTurn_found reads isMatch⟩
  exact Nat.not_lt.mpr (lower member) before.1

theorem exists_least (some_ : (matchingHeaders memory fd request).Nonempty) :
    ∃ header, IsLeast (matchingHeaders memory fd request) header := by
  classical
  refine ⟨Nat.find some_, Nat.find_spec some_, fun other member => ?_⟩
  exact Nat.find_min' some_ member

/-- Where the search stops with a file. -/
theorem file_of_stop {scan : FfsScan} {found : Range}
    (stops : ffsTurn memory fd request scan = .stop (some found)) :
    ∃ fvHeader, scan = .file fvHeader found.start ∧
      readsFfs memory fvHeader found.start = true ∧
      request.matchesHeader memory found.start = true ∧
      found.length = ffsSize memory found.start := by
  cases scan with
  | volume fvHeader =>
      rw [ffsTurn] at stops
      split at stops
      · split at stops
        · split at stops <;> cases stops
        · cases stops
      · cases stops
  | file fvHeader ffsHeader =>
      rw [ffsTurn] at stops
      split at stops
      · next reads =>
          split at stops
          · next isMatch =>
              cases stops
              exact ⟨fvHeader, rfl, reads, isMatch, rfl⟩
          · cases stops
      · cases stops

theorem ReadBefore.turn {header : Nat} {scan after : FfsScan}
    (before : ReadBefore memory header scan)
    (turn : ffsTurn memory fd request scan = .next after) : ReadBefore memory header after := by
  cases scan with
  | volume fvHeader =>
      rw [ffsTurn] at turn
      split at turn
      · split at turn
        · split at turn
          · cases turn
          · cases turn
            exact ⟨Nat.lt_of_lt_of_le before (le_firstFfs memory _), Nat.lt_add_right _ before⟩
        · cases turn
          exact Nat.lt_add_right _ before
      · cases turn
  | file fvHeader ffsHeader =>
      rw [ffsTurn] at turn
      split at turn
      · split at turn
        · cases turn
        · cases turn
          exact ⟨Nat.lt_of_lt_of_le before.1 (le_nextFfs memory _), before.2⟩
      · cases turn
        exact before.2

theorem ReadBefore.mono {header other : Nat} {scan : FfsScan}
    (before : ReadBefore memory header scan) (le : other ≤ header) :
    ReadBefore memory other scan := by
  cases scan with
  | volume fvHeader => exact Nat.lt_of_le_of_lt le before
  | file fvHeader ffsHeader =>
      exact ⟨Nat.lt_of_le_of_lt le before.1, Nat.lt_of_le_of_lt le before.2⟩

/-- The search comes to what is scanned before the first match, and to nothing else. -/
theorem comes_iff {scan : FfsScan} :
    Comes (ffsTurn memory fd request) (.volume fd.start) scan ↔
      ScannedFirst memory fd request scan := by
  refine ⟨fun comes => ⟨scanned_of_comes comes, fun header member before => ?_⟩,
    fun first => comes_of_scanned first.scanned first.noMatch⟩
  obtain ⟨lowest, least⟩ := exists_least ⟨header, member⟩
  obtain ⟨last, comesLast, stops⟩ := stops_at_least least
  -- The search would still be on its way to the lowest match.
  have kept : ReadBefore memory lowest last :=
    (comes.on_way comesLast stops).invariant (before.mono (least.2 member))
      fun _ _ isBefore turn => isBefore.turn turn
  obtain ⟨fvHeader, rfl, _⟩ := file_of_stop stops
  exact Nat.lt_irrefl _ kept.1

/-- What a volume and a file are worth on the way to the end of the flash image. -/
def remaining (memory : Memory) (fd : Range) : FfsScan → Nat
  | .volume fvHeader => 4 * (fd.start + fd.length - fvHeader)
  | .file fvHeader ffsHeader =>
      4 * (fd.start + fd.length - (fvHeader + fvLength memory fvHeader)) +
        (fvHeader + fvLength memory fvHeader - ffsHeader) + 1

/-- Each turn of a search that makes progress leaves less. -/
theorem Progresses.remaining_lt (progresses : Progresses memory fd request)
    {scan after : FfsScan} (first : ScannedFirst memory fd request scan)
    (later : ScannedFirst memory fd request after)
    (turn : ffsTurn memory fd request scan = .next after) :
    remaining memory fd after < remaining memory fd scan := by
  cases scan with
  | volume fvHeader =>
      rw [ffsTurn] at turn
      split at turn
      · next inside =>
          split at turn
          · split at turn
            · cases turn
            · cases turn
              have nonzero := (progresses _ _ later).1
              have above := le_firstFfs memory fvHeader
              simp only [remaining]
              omega
          · cases turn
            simp only [remaining]
            omega
      · cases turn
  | file fvHeader ffsHeader =>
      rw [ffsTurn] at turn
      split at turn
      · next reads =>
          split at turn
          · cases turn
          · next other =>
              cases turn
              have nonzero := ((progresses _ _ first).2 reads).resolve_left other
              have inside := lt_of_readsFfs reads
              simp only [remaining, nextFfs]
              omega
      · cases turn
        simp only [remaining]
        omega

theorem Progresses.ends (progresses : Progresses memory fd request) :
    ∃ fuel found, getFfsByName memory fd request fuel = some found := by
  have iteration : ∀ scan, ScannedFirst memory fd request scan →
      Establishes (ScannedFirst memory fd request) (fun _ => True) (remaining memory fd) scan
        (ffsTurn memory fd request scan) := by
    intro scan first
    cases turn : ffsTurn memory fd request scan with
    | stop found => exact True.intro
    | next after =>
        have later := comes_iff.mp ((comes_iff.mpr first).next turn)
        exact ⟨later, progresses.remaining_lt first later turn⟩
  obtain ⟨found, run, _⟩ :=
    loop_returns _ iteration _ (.volume fd.start) (comes_iff.mp Comes.start)
      (Nat.lt_succ_self _)
  exact ⟨_, found, run⟩

/-- A search that ends has made progress at every place that it came to. -/
theorem progresses_of_ends
    (ends : ∃ fuel found, getFfsByName memory fd request fuel = some found) :
    Progresses memory fd request := by
  obtain ⟨fuel, found, run⟩ := ends
  obtain ⟨last, comes, stops⟩ := exists_loop_iff.mp ⟨fuel, run⟩
  intro fvHeader ffsHeader first
  obtain ⟨inside, signature, fits, above⟩ := first.scanned.volume_of_file rfl
  have later := (comes_iff.mpr first).on_way comes stops
  constructor
  · intro zero
    -- The volume is scanned again and again.
    refine not_ends_of_closed
      (fun scan => scan = .volume fvHeader ∨
        ∃ header, fvHeader ≤ header ∧ scan = .file fvHeader header)
      (Or.inr ⟨ffsHeader, above, rfl⟩) ?_ ⟨last, found, later, stops⟩
    rintro _ (rfl | ⟨header, above, rfl⟩)
    · exact ⟨_, ffsTurn_volume inside signature fits,
        Or.inr ⟨_, le_firstFfs memory fvHeader, rfl⟩⟩
    · have ends : readsFfs memory fvHeader header = false := by
        by_contra reads
        have below := lt_of_readsFfs (Bool.of_not_eq_false reads)
        omega
      exact ⟨_, ffsTurn_behind ends, Or.inl (by rw [zero, Nat.add_zero])⟩
  · intro reads
    by_contra stays
    rw [not_or, ne_eq, not_not] at stays
    obtain ⟨other, zero⟩ := stays
    have same : nextFfs memory ffsHeader = ffsHeader := by rw [nextFfs, zero, Nat.add_zero]
    refine not_ends_of_closed (fun scan => scan = .file fvHeader ffsHeader) rfl ?_
      ⟨last, found, later, stops⟩
    rintro _ rfl
    exact ⟨_, ffsTurn_other reads other, by rw [same]⟩

end Proofs

end Search

end AppEfi.PcdDump
