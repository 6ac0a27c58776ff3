import AppEfi.Lib.Printing
import AppEfi.PcdDump.GetFfsByName
import AppEfi.PcdDump.GetSectionByType

/-!
# The PCD database of a firmware image

GetImagePcdDbFromAddress in PcdDump.c with IsDataPcdDatabase, as a program that lists the
subtractions of header sizes.  They are made in a UINTN of 64 bits.
-/

set_option autoImplicit false

namespace AppEfi.PcdDump

open AppEfi.Loop
open AppEfi.Printing

structure Subtraction where
  minuend : Nat
  subtrahend : Nat
  deriving DecidableEq, Repr

/-- The difference of two UINTNs, which wraps. -/
def Subtraction.difference (subtraction : Subtraction) : Nat :=
  if subtraction.subtrahend ≤ subtraction.minuend then
    subtraction.minuend - subtraction.subtrahend
  else subtraction.minuend + 2 ^ 64 - subtraction.subtrahend

def Subtraction.Exact (subtraction : Subtraction) : Prop :=
  subtraction.subtrahend ≤ subtraction.minuend

theorem Subtraction.exact_iff {minuend subtrahend : Nat} :
    Exact ⟨minuend, subtrahend⟩ ↔ subtrahend ≤ minuend :=
  Iff.rfl

theorem Subtraction.Exact.difference_eq {subtraction : Subtraction} (exact : subtraction.Exact) :
    subtraction.difference = subtraction.minuend - subtraction.subtrahend :=
  if_pos exact

/-- EFI_SECTION_RAW. -/
def efiSectionRaw : UInt8 := 0x19

section Image

variable (memory : Memory) (gPcdDataBaseSignatureGuid : Nat)

/-- The signature GUID and the start of the data are compared as numbers of 16 bytes. -/
def isDataPcdDatabase (data dataSize : Nat) : Bool :=
  if dataSize < 16 then false
  else decide (memory.readLe data 16 = gPcdDataBaseSignatureGuid)

def subtract (minuend subtrahend : Nat) : Program Subtraction Empty Nat := do
  print ⟨minuend, subtrahend⟩
  pure (Subtraction.difference ⟨minuend, subtrahend⟩)

/-- The test of a section's contents: they are handed on, or the loop goes on. -/
def handOn (contents : Range) (further : Program Subtraction Empty (Option Range)) :
    Program Subtraction Empty (Option Range) :=
  if isDataPcdDatabase memory gPcdDataBaseSignatureGuid contents.start contents.length then
    pure (some contents)
  else further

/-- The loop over the instances; `fuel` is that of each search. -/
def findPcdDb (fuel : Nat) (ffsData : Range) : Nat → Nat → Program Subtraction Empty (Option Range)
  | 0, _ => outOfFuel
  | turns + 1, index =>
      match getSectionByType memory ffsData efiSectionRaw index fuel with
      | none => outOfFuel
      | some none => pure none
      | some (some sectionData) => do
          let sectionHeaderSize := sectionHeaderSize memory sectionData.start
          let size ← subtract sectionData.length sectionHeaderSize
          handOn memory gPcdDataBaseSignatureGuid ⟨sectionData.start + sectionHeaderSize, size⟩
            (findPcdDb fuel ffsData turns (index + 1))

/-- The function behind GetFfsByName; GetSectionByType takes the size as a UINT32. -/
def getFfsPcdDb (fuel : Nat) (ffs : Range) : Program Subtraction Empty (Option Range) := do
  let fileHeaderSize := ffsHeaderSize memory ffs.start
  let size ← subtract ffs.length fileHeaderSize
  findPcdDb memory gPcdDataBaseSignatureGuid fuel
    ⟨ffs.start + fileHeaderSize, size % 2 ^ 32⟩ fuel 0

/-- Data and DataSize; `none` is EFI_NOT_FOUND. -/
def getImagePcdDbFromAddress (imageGuid fvAddress fuel : Nat) :
    Program Subtraction Empty (Option Range) :=
  if hasFvhSignature memory fvAddress then
    match getFfsByName memory ⟨fvAddress, fvLength memory fvAddress⟩ ⟨imageGuid, 0⟩ fuel with
    | none => outOfFuel
    | some none => pure none
    | some (some ffs) => getFfsPcdDb memory gPcdDataBaseSignatureGuid fuel ffs
  else pure none

/-! ## What is handed on -/

/-- The file that GetFfsByName may return. -/
def ReturnsFfs (imageGuid fvAddress : Nat) (ffs : Range) : Prop :=
  hasFvhSignature memory fvAddress = true ∧
    ∃ fuel, getFfsByName memory ⟨fvAddress, fvLength memory fvAddress⟩ ⟨imageGuid, 0⟩ fuel =
      some (some ffs)

/-- No subtraction wraps, and what is handed on lies in the file. -/
structure HandsOnInside (imageGuid fvAddress : Nat) : Prop where
  exact : ∀ fuel, LinesAre Subtraction.Exact
    (getImagePcdDbFromAddress memory gPcdDataBaseSignatureGuid imageGuid fvAddress fuel)
  inside : ∀ fuel data,
    (getImagePcdDbFromAddress memory gPcdDataBaseSignatureGuid imageGuid fvAddress fuel).outcome =
        .done (some data) →
      ∃ ffs, ReturnsFfs memory imageGuid fvAddress ffs ∧ data.Inside ffs

/-- The bytes of a file behind its header. -/
def ffsBody (ffs : Range) : Range :=
  ⟨ffs.start + ffsHeaderSize memory ffs.start, ffs.length - ffsHeaderSize memory ffs.start⟩

/-- A section header with the PCD database behind it. -/
def HoldsPcdDb (sectionHeader : Nat) : Prop :=
  isDataPcdDatabase memory gPcdDataBaseSignatureGuid
    (sectionHeader + sectionHeaderSize memory sectionHeader)
    (sectionSize memory sectionHeader - sectionHeaderSize memory sectionHeader) = true

/-- The file is no shorter than its header.  Up to its first raw section with a PCD database,
no raw section is shorter than its own, and that section ends in the file. -/
structure KeepsToFile (ffs : Range) : Prop where
  header : ffsHeaderSize memory ffs.start ≤ ffs.length
  sections : ∀ number sectionHeader,
    NthHeader memory (ffsBody memory ffs) efiSectionRaw number sectionHeader →
      (∀ earlier < number, ∀ before,
        NthHeader memory (ffsBody memory ffs) efiSectionRaw earlier before →
          ¬ HoldsPcdDb memory gPcdDataBaseSignatureGuid before) →
        sectionHeaderSize memory sectionHeader ≤ sectionSize memory sectionHeader ∧
          (HoldsPcdDb memory gPcdDataBaseSignatureGuid sectionHeader →
            sectionHeader + sectionSize memory sectionHeader ≤ ffs.start + ffs.length)

section Proofs

variable {memory gPcdDataBaseSignatureGuid}
variable {ffs ffsData section_ : Range} {fuel turns index : Nat}

theorem ffsSize_lt (memory : Memory) (ffsHeader : Nat) : ffsSize memory ffsHeader < 2 ^ 32 := by
  rw [ffsSize]
  split
  · exact Nat.mod_lt _ (by decide)
  · exact Nat.lt_trans (Memory.readLe_lt memory _ 3) (by decide)

theorem prints_subtract (minuend subtrahend : Nat) :
    Prints (subtract minuend subtrahend) [⟨minuend, subtrahend⟩]
      (Subtraction.difference ⟨minuend, subtrahend⟩) :=
  (prints_print _).bind_pure _

/-- What the loop hands on of a section. -/
def sectionContents (memory : Memory) (section_ : Range) : Range :=
  ⟨section_.start + sectionHeaderSize memory section_.start,
    Subtraction.difference ⟨section_.length, sectionHeaderSize memory section_.start⟩⟩

def IsPcdDb (memory : Memory) (gPcdDataBaseSignatureGuid : Nat) (contents : Range) : Prop :=
  isDataPcdDatabase memory gPcdDataBaseSignatureGuid contents.start contents.length = true

/-- A turn of the loop with a section. -/
theorem findPcdDb_found
    (found : getSectionByType memory ffsData efiSectionRaw index fuel = some (some section_)) :
    findPcdDb memory gPcdDataBaseSignatureGuid fuel ffsData (turns + 1) index =
      let further := handOn memory gPcdDataBaseSignatureGuid (sectionContents memory section_)
        (findPcdDb memory gPcdDataBaseSignatureGuid fuel ffsData turns (index + 1))
      ⟨⟨section_.length, sectionHeaderSize memory section_.start⟩ :: further.lines,
        further.outcome⟩ := by
  rw [findPcdDb, found]
  simp only [(prints_subtract _ _).bind_eq, List.singleton_append, sectionContents]

theorem findPcdDb_database
    (found : getSectionByType memory ffsData efiSectionRaw index fuel = some (some section_))
    (database : IsPcdDb memory gPcdDataBaseSignatureGuid (sectionContents memory section_)) :
    findPcdDb memory gPcdDataBaseSignatureGuid fuel ffsData (turns + 1) index =
      ⟨[⟨section_.length, sectionHeaderSize memory section_.start⟩],
        .done (some (sectionContents memory section_))⟩ := by
  rw [IsPcdDb] at database
  rw [findPcdDb_found found, handOn, if_pos database]
  rfl

theorem findPcdDb_other
    (found : getSectionByType memory ffsData efiSectionRaw index fuel = some (some section_))
    (other : ¬ IsPcdDb memory gPcdDataBaseSignatureGuid (sectionContents memory section_)) :
    findPcdDb memory gPcdDataBaseSignatureGuid fuel ffsData (turns + 1) index =
      ⟨⟨section_.length, sectionHeaderSize memory section_.start⟩ ::
          (findPcdDb memory gPcdDataBaseSignatureGuid fuel ffsData turns (index + 1)).lines,
        (findPcdDb memory gPcdDataBaseSignatureGuid fuel ffsData turns (index + 1)).outcome⟩ := by
  rw [IsPcdDb] at other
  rw [findPcdDb_found found, handOn, if_neg other]

theorem exact_of_whole (size : section_.length = sectionSize memory section_.start)
    (whole : sectionHeaderSize memory section_.start ≤ sectionSize memory section_.start) :
    Subtraction.Exact ⟨section_.length, sectionHeaderSize memory section_.start⟩ := by
  rw [Subtraction.exact_iff, size]
  exact whole

/-- A section that is no shorter than its header has a PCD database when its contents do. -/
theorem isPcdDb_iff (size : section_.length = sectionSize memory section_.start)
    (whole : sectionHeaderSize memory section_.start ≤ sectionSize memory section_.start) :
    IsPcdDb memory gPcdDataBaseSignatureGuid (sectionContents memory section_) ↔
      HoldsPcdDb memory gPcdDataBaseSignatureGuid section_.start := by
  have difference := (exact_of_whole size whole).difference_eq
  rw [IsPcdDb, HoldsPcdDb, sectionContents, difference, size]

theorem sectionContents_inside {outer : Range}
    (size : section_.length = sectionSize memory section_.start)
    (whole : sectionHeaderSize memory section_.start ≤ sectionSize memory section_.start)
    (above : outer.start ≤ section_.start) :
    (sectionContents memory section_).Inside outer ↔
      section_.start + sectionSize memory section_.start ≤ outer.start + outer.length := by
  have difference := (exact_of_whole size whole).difference_eq
  rw [Range.Inside, sectionContents, difference]
  dsimp only
  rw [size]
  omega

/-! ### Files that keep the dump inside -/

/-- No subtraction of the program wraps, and what it hands on lies in the file. -/
structure StaysInside (ffs : Range) (program : Program Subtraction Empty (Option Range)) : Prop
    where
  exact : LinesAre Subtraction.Exact program
  inside : ∀ data, program.outcome = .done (some data) → data.Inside ffs

theorem staysInside_of_nothing {program : Program Subtraction Empty (Option Range)}
    (lines : program.lines = []) (nothing : ∀ data, program.outcome ≠ .done (some data)) :
    StaysInside ffs program := by
  refine ⟨fun line listed => ?_, fun data done => absurd done (nothing data)⟩
  rw [lines] at listed
  cases listed

theorem findPcdDb_keeps (keeps : KeepsToFile memory gPcdDataBaseSignatureGuid ffs)
    (fuel turns index : Nat)
    (earlier : ∀ before < index, ∀ header,
      NthHeader memory (ffsBody memory ffs) efiSectionRaw before header →
        ¬ HoldsPcdDb memory gPcdDataBaseSignatureGuid header) :
    StaysInside ffs
      (findPcdDb memory gPcdDataBaseSignatureGuid fuel (ffsBody memory ffs) turns index) := by
  induction turns generalizing index with
  | zero => exact staysInside_of_nothing rfl fun _ done => by cases done
  | succ turns ih =>
      cases run : getSectionByType memory (ffsBody memory ffs) efiSectionRaw index fuel with
      | none =>
          rw [findPcdDb, run]
          exact staysInside_of_nothing rfl fun _ done => by cases done
      | some found =>
          cases found with
          | none =>
              rw [findPcdDb, run]
              exact staysInside_of_nothing rfl fun _ done => by cases done
          | some section_ =>
              obtain ⟨nth, size⟩ := getSectionByType_eq_some_iff.mp ⟨fuel, run⟩
              obtain ⟨whole, ends⟩ := keeps.sections index section_.start nth earlier
              have exact := exact_of_whole size whole
              have database :
                  IsPcdDb memory gPcdDataBaseSignatureGuid (sectionContents memory section_) ↔
                    HoldsPcdDb memory gPcdDataBaseSignatureGuid section_.start :=
                isPcdDb_iff size whole
              by_cases isDatabase :
                  IsPcdDb memory gPcdDataBaseSignatureGuid (sectionContents memory section_)
              · rw [findPcdDb_database run isDatabase]
                refine ⟨fun line listed => ?_, fun data done => ?_⟩
                · rw [List.mem_singleton.mp listed]
                  exact exact
                · cases done
                  have above := nth.behind.le
                  refine (sectionContents_inside size whole ?_).mpr
                    (ends (database.mp isDatabase))
                  exact Nat.le_trans (Nat.le_add_right _ _) above
              · rw [findPcdDb_other run isDatabase]
                have rest := ih (index + 1) (by
                  intro before less header other
                  rcases Nat.lt_succ_iff_lt_or_eq.mp less with less | rfl
                  · exact earlier before less header other
                  · rw [other.unique nth]
                    exact fun holds => isDatabase (database.mpr holds))
                exact ⟨List.forall_mem_cons.mpr ⟨exact, rest.exact⟩, rest.inside⟩

/-! ### Runs that come to a section -/

theorem exists_fuel_of_nthHeader {number header : Nat}
    (nth : NthHeader memory ffsData efiSectionRaw number header) :
    ∃ fuel, ∀ index ≤ number, ∃ section_,
      getSectionByType memory ffsData efiSectionRaw index fuel = some (some section_) := by
  induction number generalizing header with
  | zero =>
      obtain ⟨fuel, run⟩ := nth.exists_run
      refine ⟨fuel, fun index le => ?_⟩
      obtain rfl := Nat.le_zero.mp le
      exact ⟨_, run⟩
  | succ number ih =>
      obtain ⟨before, nthBefore⟩ := nth.exists_earlier (Nat.lt_succ_self number)
      obtain ⟨fuel, runs⟩ := ih nthBefore
      obtain ⟨more, run⟩ := nth.exists_run
      refine ⟨max fuel more, fun index le => ?_⟩
      rcases Nat.le_succ_iff.mp le with earlier | rfl
      · obtain ⟨section_, found⟩ := runs index earlier
        exact ⟨section_, loop_of_le found (Nat.le_max_left _ _)⟩
      · exact ⟨_, loop_of_le run (Nat.le_max_right _ _)⟩

/-- The loop comes to a section behind sections without a PCD database. -/
theorem findPcdDb_reaches {last : Range} {count : Nat}
    (found : getSectionByType memory ffsData efiSectionRaw (index + count) fuel =
      some (some last))
    (others : ∀ offset < count, ∃ section_,
      getSectionByType memory ffsData efiSectionRaw (index + offset) fuel =
          some (some section_) ∧
        ¬ IsPcdDb memory gPcdDataBaseSignatureGuid (sectionContents memory section_))
    (enough : count < turns) :
    ⟨last.length, sectionHeaderSize memory last.start⟩ ∈
        (findPcdDb memory gPcdDataBaseSignatureGuid fuel ffsData turns index).lines ∧
      (IsPcdDb memory gPcdDataBaseSignatureGuid (sectionContents memory last) →
        (findPcdDb memory gPcdDataBaseSignatureGuid fuel ffsData turns index).outcome =
          .done (some (sectionContents memory last))) := by
  induction count generalizing index turns with
  | zero =>
      obtain ⟨turns, rfl⟩ := Nat.exists_eq_add_of_le' enough
      rw [Nat.add_zero] at found
      constructor
      · rw [findPcdDb_found found]
        exact List.mem_cons_self
      · intro database
        rw [findPcdDb_database found database]
  | succ count ih =>
      obtain ⟨turns, rfl⟩ := Nat.exists_eq_add_of_le' (Nat.lt_of_le_of_lt (Nat.zero_le _) enough)
      obtain ⟨section_, first, other⟩ := others 0 (Nat.succ_pos count)
      rw [Nat.add_zero] at first
      rw [← Nat.add_assoc, Nat.add_right_comm] at found
      have later := ih found
        (fun offset less => by
          have next := others (offset + 1) (Nat.succ_lt_succ less)
          rwa [← Nat.add_assoc, Nat.add_right_comm] at next)
        (Nat.lt_of_succ_lt_succ enough)
      rw [findPcdDb_other first other]
      exact ⟨List.mem_cons_of_mem _ later.1, later.2⟩

/-- Every section that the loop comes to is found with enough fuel, and is then tested. -/
theorem comes_to_section {number header : Nat}
    (nth : NthHeader memory ffsData efiSectionRaw number header)
    (whole : ∀ earlier < number, ∀ before,
      NthHeader memory ffsData efiSectionRaw earlier before →
        sectionHeaderSize memory before ≤ sectionSize memory before ∧
          ¬ HoldsPcdDb memory gPcdDataBaseSignatureGuid before) :
    ∃ enough, ∀ fuel, enough ≤ fuel →
      ⟨sectionSize memory header, sectionHeaderSize memory header⟩ ∈
          (findPcdDb memory gPcdDataBaseSignatureGuid fuel ffsData fuel 0).lines ∧
        (IsPcdDb memory gPcdDataBaseSignatureGuid
            (sectionContents memory ⟨header, sectionSize memory header⟩) →
          (findPcdDb memory gPcdDataBaseSignatureGuid fuel ffsData fuel 0).outcome =
            .done (some (sectionContents memory ⟨header, sectionSize memory header⟩))) := by
  obtain ⟨enough, runs⟩ := exists_fuel_of_nthHeader nth
  refine ⟨max enough (number + 1), fun fuel le => ?_⟩
  have found : ∀ index ≤ number, ∃ section_,
      getSectionByType memory ffsData efiSectionRaw index fuel = some (some section_) ∧
        NthHeader memory ffsData efiSectionRaw index section_.start ∧
        section_.length = sectionSize memory section_.start := by
    intro index less
    obtain ⟨section_, run⟩ := runs index less
    have run := loop_of_le run (Nat.le_trans (Nat.le_max_left _ _) le)
    exact ⟨section_, run, getSectionByType_eq_some_iff.mp ⟨fuel, run⟩⟩
  obtain ⟨⟨start, length⟩, run, nthLast, size⟩ := found number (Nat.le_refl number)
  obtain rfl := nthLast.unique nth
  dsimp only at size
  subst size
  refine findPcdDb_reaches (by rwa [Nat.zero_add]) ?_
    (Nat.lt_of_lt_of_le (Nat.lt_succ_self _) (Nat.le_trans (Nat.le_max_right _ _) le))
  intro earlier less
  obtain ⟨section_, run, nthEarlier, size⟩ := found earlier (Nat.le_of_lt less)
  obtain ⟨exact, other⟩ := whole earlier less section_.start nthEarlier
  rw [Nat.zero_add]
  exact ⟨section_, run, fun database => other ((isPcdDb_iff size exact).mp database)⟩

/-! ### The whole function -/

theorem ReturnsFfs.unique {imageGuid fvAddress : Nat} {other : Range}
    (first : ReturnsFfs memory imageGuid fvAddress ffs)
    (second : ReturnsFfs memory imageGuid fvAddress other) : ffs = other := by
  obtain ⟨_, fuel, run⟩ := first
  obtain ⟨_, more, runOther⟩ := second
  obtain ⟨scan, comes, stops⟩ := exists_loop_iff.mp ⟨more, runOther⟩
  exact Option.some.inj (comes.result_eq stops run)

theorem ReturnsFfs.length_lt {imageGuid fvAddress : Nat}
    (returned : ReturnsFfs memory imageGuid fvAddress ffs) : ffs.length < 2 ^ 32 := by
  obtain ⟨_, fuel, run⟩ := returned
  obtain ⟨scan, _, stops⟩ := exists_loop_iff.mp ⟨fuel, run⟩
  obtain ⟨_, _, _, _, length⟩ := file_of_stop stops
  rw [length]
  exact ffsSize_lt memory _

/-- The rest of the function, with the file. -/
theorem getFfsPcdDb_eq (fuel : Nat) :
    getFfsPcdDb memory gPcdDataBaseSignatureGuid fuel ffs =
      let subtraction : Subtraction := ⟨ffs.length, ffsHeaderSize memory ffs.start⟩
      let rest := findPcdDb memory gPcdDataBaseSignatureGuid fuel
        ⟨ffs.start + ffsHeaderSize memory ffs.start, subtraction.difference % 2 ^ 32⟩ fuel 0
      ⟨subtraction :: rest.lines, rest.outcome⟩ := by
  rw [getFfsPcdDb]
  simp only [(prints_subtract _ _).bind_eq, List.singleton_append]

theorem getFfsPcdDb_of_exact (gPcdDataBaseSignatureGuid : Nat)
    (header : ffsHeaderSize memory ffs.start ≤ ffs.length) (small : ffs.length < 2 ^ 32)
    (fuel : Nat) :
    getFfsPcdDb memory gPcdDataBaseSignatureGuid fuel ffs =
      ⟨⟨ffs.length, ffsHeaderSize memory ffs.start⟩ ::
          (findPcdDb memory gPcdDataBaseSignatureGuid fuel (ffsBody memory ffs) fuel 0).lines,
        (findPcdDb memory gPcdDataBaseSignatureGuid fuel (ffsBody memory ffs) fuel
          0).outcome⟩ := by
  have exact : Subtraction.Exact ⟨ffs.length, ffsHeaderSize memory ffs.start⟩ := header
  rw [getFfsPcdDb_eq]
  dsimp only
  rw [exact.difference_eq]
  dsimp only
  rw [Nat.mod_eq_of_lt (Nat.lt_of_le_of_lt (Nat.sub_le _ _) small), ffsBody]

theorem ReturnsFfs.staysInside {imageGuid fvAddress : Nat}
    (returned : ReturnsFfs memory imageGuid fvAddress ffs)
    (keeps : KeepsToFile memory gPcdDataBaseSignatureGuid ffs) (fuel : Nat) :
    StaysInside ffs (getFfsPcdDb memory gPcdDataBaseSignatureGuid fuel ffs) := by
  have rest := findPcdDb_keeps keeps fuel fuel 0
    fun before less => absurd less (Nat.not_lt_zero _)
  rw [getFfsPcdDb_of_exact _ keeps.header returned.length_lt]
  exact ⟨List.forall_mem_cons.mpr ⟨keeps.header, rest.exact⟩, rest.inside⟩

theorem ReturnsFfs.run_eq {imageGuid fvAddress : Nat}
    (returned : ReturnsFfs memory imageGuid fvAddress ffs) (gPcdDataBaseSignatureGuid : Nat) :
    ∃ enough, ∀ fuel, enough ≤ fuel →
      getImagePcdDbFromAddress memory gPcdDataBaseSignatureGuid imageGuid fvAddress fuel =
        getFfsPcdDb memory gPcdDataBaseSignatureGuid fuel ffs := by
  obtain ⟨signature, enough, run⟩ := returned
  refine ⟨enough, fun fuel le => ?_⟩
  have found : getFfsByName memory ⟨fvAddress, fvLength memory fvAddress⟩ ⟨imageGuid, 0⟩ fuel =
      some (some ffs) := loop_of_le run le
  rw [getImagePcdDbFromAddress, if_pos signature, found]

/-- A run is that of the rest with the returned file, or subtracts nothing and hands nothing
on. -/
theorem run_cases (memory : Memory) (gPcdDataBaseSignatureGuid imageGuid fvAddress fuel : Nat) :
    (∃ ffs, ReturnsFfs memory imageGuid fvAddress ffs ∧
        getImagePcdDbFromAddress memory gPcdDataBaseSignatureGuid imageGuid fvAddress fuel =
          getFfsPcdDb memory gPcdDataBaseSignatureGuid fuel ffs) ∨
      (getImagePcdDbFromAddress memory gPcdDataBaseSignatureGuid imageGuid fvAddress
          fuel).lines = [] ∧
        ∀ data,
          (getImagePcdDbFromAddress memory gPcdDataBaseSignatureGuid imageGuid fvAddress
            fuel).outcome ≠ .done (some data) := by
  by_cases signature : hasFvhSignature memory fvAddress = true
  · rw [getImagePcdDbFromAddress, if_pos signature]
    cases run : getFfsByName memory ⟨fvAddress, fvLength memory fvAddress⟩ ⟨imageGuid, 0⟩ fuel with
    | none => exact Or.inr ⟨rfl, fun _ done => by cases done⟩
    | some found =>
        cases found with
        | none => exact Or.inr ⟨rfl, fun _ done => by cases done⟩
        | some ffs => exact Or.inl ⟨ffs, ⟨signature, fuel, run⟩, rfl⟩
  · rw [getImagePcdDbFromAddress, if_neg signature]
    exact Or.inr ⟨rfl, fun _ done => by cases done⟩

theorem keepsToFile_of_handsOnInside {imageGuid fvAddress : Nat}
    (safe : HandsOnInside memory gPcdDataBaseSignatureGuid imageGuid fvAddress)
    (returned : ReturnsFfs memory imageGuid fvAddress ffs) :
    KeepsToFile memory gPcdDataBaseSignatureGuid ffs := by
  obtain ⟨enough, runs⟩ := returned.run_eq gPcdDataBaseSignatureGuid
  have header : ffsHeaderSize memory ffs.start ≤ ffs.length := by
    have exact := safe.exact enough
    rw [runs enough (Nat.le_refl _), getFfsPcdDb_eq] at exact
    exact exact _ List.mem_cons_self
  have eqn := getFfsPcdDb_of_exact gPcdDataBaseSignatureGuid header returned.length_lt
  refine ⟨header, fun number sectionHeader nth => ?_⟩
  induction number using Nat.strongRecOn generalizing sectionHeader with
  | ind number ih =>
      intro earlier
      obtain ⟨more, reaches⟩ := comes_to_section nth fun before less other nthOther =>
        ⟨(ih before less other nthOther fun first lower =>
          earlier first (Nat.lt_trans lower less)).1, earlier before less other nthOther⟩
      obtain ⟨listed, handsOn⟩ := reaches (max enough more) (Nat.le_max_right _ _)
      have run := runs (max enough more) (Nat.le_max_left _ _)
      rw [eqn] at run
      have whole : sectionHeaderSize memory sectionHeader ≤ sectionSize memory sectionHeader := by
        have exact := safe.exact (max enough more)
        rw [run] at exact
        exact Subtraction.exact_iff.mp (exact _ (List.mem_cons_of_mem _ listed))
      refine ⟨whole, fun holds => ?_⟩
      have database := @isPcdDb_iff memory gPcdDataBaseSignatureGuid
        ⟨sectionHeader, sectionSize memory sectionHeader⟩ rfl whole
      have done := handsOn (database.mpr holds)
      obtain ⟨file, returnedFile, inside⟩ := safe.inside (max enough more) _ (by
        rw [run]
        exact done)
      rw [returnedFile.unique returned] at inside
      have above : ffs.start ≤ sectionHeader :=
        Nat.le_trans (Nat.le_add_right _ _) nth.behind.le
      exact (@sectionContents_inside memory ⟨sectionHeader, sectionSize memory sectionHeader⟩ ffs
        rfl whole above).mp inside

end Proofs

/-- What is handed on lies in the file and no subtraction wraps exactly when the file is no
shorter than its header and its raw sections, up to the first with a PCD database, keep to it. -/
theorem getImagePcdDbFromAddress_inside_iff (imageGuid fvAddress : Nat) :
    HandsOnInside memory gPcdDataBaseSignatureGuid imageGuid fvAddress ↔
      ∀ ffs, ReturnsFfs memory imageGuid fvAddress ffs →
        KeepsToFile memory gPcdDataBaseSignatureGuid ffs := by
  constructor
  · intro safe ffs returned
    exact keepsToFile_of_handsOnInside safe returned
  · intro keeps
    refine ⟨fun fuel => ?_, fun fuel data done => ?_⟩
    · rcases run_cases memory gPcdDataBaseSignatureGuid imageGuid fvAddress fuel with
        ⟨ffs, returned, run⟩ | ⟨lines, _⟩
      · rw [run]
        exact (returned.staysInside (keeps ffs returned) fuel).exact
      · intro line listed
        rw [lines] at listed
        cases listed
    · rcases run_cases memory gPcdDataBaseSignatureGuid imageGuid fvAddress fuel with
        ⟨ffs, returned, run⟩ | ⟨_, nothing⟩
      · rw [run] at done
        exact ⟨ffs, returned, (returned.staysInside (keeps ffs returned) fuel).inside data done⟩
      · exact absurd done (nothing data)

end Image

/-- A volume of 120 bytes with a file of 48.  The raw section in it has size 2, and the
signature is behind its header. -/
def shortSection : Memory :=
  Memory.ofBytesAt 0x1000
    (List.replicate 32 0 ++ [120, 0, 0, 0, 0, 0, 0, 0, 0x5F, 0x46, 0x56, 0x48, 0, 8, 0, 0,
      72, 0, 0, 0, 0, 0, 0, 2, 1, 0, 0, 0, 120, 0, 0, 0, 0, 0, 0, 0, 0, 0, 0, 0,
      1, 0, 0, 0, 0, 0, 0, 0, 0, 0, 0, 0, 0, 0, 0, 0, 0, 0, 2, 0, 48, 0, 0, 0xF8,
      2, 0, 0, 0x19, 3, 0, 0, 0, 0, 0, 0, 0, 0, 0, 0, 0, 0, 0, 0, 0, 0, 0, 0, 0])

/-- The size handed on is 2 less 4. -/
theorem getImagePcdDbFromAddress_shortSection :
    (getImagePcdDbFromAddress shortSection 3 1 0x1000 3).outcome =
        .done (some ⟨0x1064, 2 ^ 64 - 2⟩) ∧
      ¬ HandsOnInside shortSection 3 1 0x1000 := by
  refine ⟨by decide, fun safe => ?_⟩
  have lines : (getImagePcdDbFromAddress shortSection 3 1 0x1000 3).lines =
      [⟨48, 24⟩, ⟨2, 4⟩] := by decide
  have exact : Subtraction.Exact ⟨2, 4⟩ := safe.exact 3 _ (by
    rw [lines]
    exact List.mem_cons_of_mem _ List.mem_cons_self)
  exact absurd exact (by decide : ¬ 4 ≤ 2)

end AppEfi.PcdDump
