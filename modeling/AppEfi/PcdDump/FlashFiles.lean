import AppEfi.PcdDump.GetFfsByName

/-!
# The files of a flash image

What GetFfsByName finds, compared with the files that the volumes of the flash image really
have.  The search and the volumes lead to the same places as long as the headers agree with
what the code does not test.
-/

set_option autoImplicit false

namespace AppEfi.PcdDump

open AppEfi.Loop

section Files

variable (memory : Memory) (fd : Range) (request : FfsRequest)

/-! ## Volumes and files -/

/-- A volume has its signature and lies in the flash image, and its length covers the fixed
part of its header. -/
structure IsVolume (fvHeader : Nat) : Prop where
  signature : hasFvhSignature memory fvHeader = true
  header : 56 ≤ fvLength memory fvHeader
  inside : fvHeader + fvLength memory fvHeader ≤ fd.start + fd.length

/-- The places where a volume is looked for: volume behind volume, and in steps of 4 KB
where there is none. -/
inductive VolumePlace : Nat → Prop where
  | first : VolumePlace fd.start
  | gap {fvHeader : Nat} (place : VolumePlace fvHeader)
      (noVolume : ¬ IsVolume memory fd fvHeader) : VolumePlace (fvHeader + 0x1000)
  | next {fvHeader : Nat} (place : VolumePlace fvHeader) (volume : IsVolume memory fd fvHeader) :
      VolumePlace (fvHeader + fvLength memory fvHeader)

/-- EFI_FVB2_ERASE_POLARITY of the volume. -/
def erasePolarity (fvHeader : Nat) : UInt8 :=
  if (memory.readLe (fvHeader + 44) 4).testBit 11 then 1 else 0

/-- A file is no shorter than its header, which is not erased, and ends in its volume. -/
structure IsFile (fvHeader ffsHeader : Nat) : Prop where
  whole : ffsHeaderSize memory ffsHeader ≤ ffsSize memory ffsHeader
  inside : ffsHeader + ffsSize memory ffsHeader ≤ fvHeader + fvLength memory fvHeader
  written : isBufferErased memory (erasePolarity memory fvHeader) ffsHeader 24 = false

/-- The places of a volume's files, one behind the other. -/
inductive FilePlace (fvHeader : Nat) : Nat → Prop where
  | first : FilePlace fvHeader (firstFfs memory fvHeader)
  | next {ffsHeader : Nat} (place : FilePlace fvHeader ffsHeader)
      (file : IsFile memory fvHeader ffsHeader) :
      FilePlace fvHeader (ffsHeader + alignValue (ffsSize memory ffsHeader) 8)

/-- A file of a valid volume. -/
structure FlashFile (fvHeader ffsHeader : Nat) : Prop where
  volumePlace : VolumePlace memory fd fvHeader
  volume : IsVolume memory fd fvHeader
  filePlace : FilePlace memory fvHeader ffsHeader
  file : IsFile memory fvHeader ffsHeader

/-- The files with the name and type.  They lie in the order of the volumes and of the files
in each, so that the first of them is the lowest. -/
def wantedFiles : Set Nat :=
  { ffsHeader | (∃ fvHeader, FlashFile memory fd fvHeader ffsHeader) ∧
      request.matchesHeader memory ffsHeader = true }

/-- The search ends; what it gives is the first such file, in its volume, and it gives
nothing exactly when there is none. -/
structure FindsFfs : Prop where
  ends : ∃ fuel found, getFfsByName memory fd request fuel = some found
  first : ∀ fuel found, getFfsByName memory fd request fuel = some (some found) →
    IsLeast (wantedFiles memory fd request) found.start ∧
      ∃ fvHeader, FlashFile memory fd fvHeader found.start ∧
        found.Inside ⟨fvHeader, fvLength memory fvHeader⟩
  none_iff : ∀ fuel found, getFfsByName memory fd request fuel = some found →
    (found = none ↔ wantedFiles memory fd request = ∅)

/-! ## What the code does not test -/

/-- What the code does not test at the place of a file: that 24 bytes of 0xFF are not the
header of one, and that a file has room for its header and ends in the volume.  A file with
another name may end anywhere behind the volume. -/
structure FileAgrees (fvHeader ffsHeader : Nat) : Prop where
  erased : isBufferErased memory 1 ffsHeader 24 = true → ¬ IsFile memory fvHeader ffsHeader
  size : readsFfs memory fvHeader ffsHeader = true →
    ffsHeaderSize memory ffsHeader ≤ ffsSize memory ffsHeader ∧
        ffsHeader + ffsSize memory ffsHeader ≤ fvHeader + fvLength memory fvHeader ∧
        (request.matchesHeader memory ffsHeader = true ∨
          alignValue (ffsSize memory ffsHeader) 8 < 2 ^ 32) ∨
      request.matchesHeader memory ffsHeader = false ∧
        fvHeader + fvLength memory fvHeader ≤ nextFfs memory ffsHeader + 1

/-- The same at any place: behind a signature the volume has room for its header, and it ends
in the flash image, unless there is no file to be found. -/
def HeaderAgrees : FfsScan → Prop
  | .volume fvHeader =>
      fvHeader < fd.start + fd.length - 1 → hasFvhSignature memory fvHeader = true →
        56 ≤ fvLength memory fvHeader ∧
          (fvLength memory fvHeader ≤ fd.start + fd.length - fvHeader ∨
            wantedFiles memory fd request = ∅)
  | .file fvHeader ffsHeader => FileAgrees memory request fvHeader ffsHeader

def HeadersAgree : Prop :=
  ∀ scan, ScannedFirst memory fd request scan → HeaderAgrees memory fd request scan

section Proofs

variable {memory fd request}
variable {fvHeader ffsHeader : Nat}

/-! ### The order of the files -/

/-- The place that follows another one. -/
def FollowsPlace (memory : Memory) (fd : Range) (place next : Nat) : Prop :=
  IsVolume memory fd place ∧ next = place + fvLength memory place ∨
    ¬ IsVolume memory fd place ∧ next = place + 0x1000

theorem FollowsPlace.lt (place next : Nat) (follows : FollowsPlace memory fd place next) :
    place < next := by
  rcases follows with ⟨volume, same⟩ | ⟨_, same⟩
  · have positive := volume.header
    omega
  · omega

theorem FollowsPlace.unique : Relator.RightUnique (FollowsPlace memory fd) := by
  intro place next other first second
  rcases first with ⟨volume, same⟩ | ⟨noVolume, same⟩
  · rcases second with ⟨_, sameOther⟩ | ⟨noVolume, _⟩
    · rw [same, sameOther]
    · exact absurd volume noVolume
  · rcases second with ⟨volume, _⟩ | ⟨_, sameOther⟩
    · exact absurd volume noVolume
    · rw [same, sameOther]

theorem VolumePlace.reaches {place : Nat} (isPlace : VolumePlace memory fd place) :
    Relation.ReflTransGen (FollowsPlace memory fd) fd.start place := by
  induction isPlace with
  | first => exact Relation.ReflTransGen.refl
  | gap _ noVolume ih => exact ih.tail (Or.inr ⟨noVolume, rfl⟩)
  | next _ volume ih => exact ih.tail (Or.inl ⟨volume, rfl⟩)

theorem VolumePlace.le {place : Nat} (isPlace : VolumePlace memory fd place) :
    fd.start ≤ place :=
  le_of_reaches FollowsPlace.lt isPlace.reaches

/-- No place of a volume lies between a place and the next one. -/
theorem VolumePlace.next_le {first second next : Nat} (isFirst : VolumePlace memory fd first)
    (isSecond : VolumePlace memory fd second) (less : first < second)
    (follows : FollowsPlace memory fd first next) : next ≤ second := by
  obtain ⟨other, step, le⟩ :=
    exists_next_le FollowsPlace.unique FollowsPlace.lt isFirst.reaches isSecond.reaches less
  rw [FollowsPlace.unique follows step]
  exact le

theorem IsFile.whole_header (file : IsFile memory fvHeader ffsHeader) :
    24 ≤ ffsSize memory ffsHeader := by
  refine Nat.le_trans ?_ file.whole
  rw [ffsHeaderSize]
  split <;> decide

def FollowsFile (memory : Memory) (fvHeader place next : Nat) : Prop :=
  IsFile memory fvHeader place ∧ next = place + alignValue (ffsSize memory place) 8

theorem FollowsFile.lt (place next : Nat) (follows : FollowsFile memory fvHeader place next) :
    place < next := by
  have positive := follows.1.whole_header
  have rounded : ffsSize memory place ≤ alignValue (ffsSize memory place) 8 :=
    le_alignValue (by decide)
  rw [follows.2]
  omega

theorem FollowsFile.unique : Relator.RightUnique (FollowsFile memory fvHeader) := by
  intro place next other first second
  rw [first.2, second.2]

theorem FilePlace.reaches (place : FilePlace memory fvHeader ffsHeader) :
    Relation.ReflTransGen (FollowsFile memory fvHeader) (firstFfs memory fvHeader) ffsHeader := by
  induction place with
  | first => exact Relation.ReflTransGen.refl
  | next _ file ih => exact ih.tail ⟨file, rfl⟩

theorem FilePlace.first_le (place : FilePlace memory fvHeader ffsHeader) :
    firstFfs memory fvHeader ≤ ffsHeader :=
  le_of_reaches FollowsFile.lt place.reaches

theorem FilePlace.le (place : FilePlace memory fvHeader ffsHeader) : fvHeader ≤ ffsHeader :=
  Nat.le_trans (le_firstFfs memory fvHeader) place.first_le

/-- A file stands in front of every later place of its volume, and none in between. -/
theorem FilePlace.next_le {other : Nat} (place : FilePlace memory fvHeader ffsHeader)
    (later : FilePlace memory fvHeader other) (less : ffsHeader < other) :
    IsFile memory fvHeader ffsHeader ∧
      ffsHeader + alignValue (ffsSize memory ffsHeader) 8 ≤ other := by
  obtain ⟨next, ⟨file, rfl⟩, le⟩ :=
    exists_next_le FollowsFile.unique FollowsFile.lt place.reaches later.reaches less
  exact ⟨file, le⟩

/-- Each file of a volume lies below the files of the volumes behind it. -/
theorem FlashFile.lt {first second other : Nat}
    (file : FlashFile memory fd first ffsHeader) (later : FlashFile memory fd second other)
    (less : first < second) : ffsHeader < other := by
  have next := file.volumePlace.next_le later.volumePlace less (Or.inl ⟨file.volume, rfl⟩)
  have below := file.file.inside
  have whole := file.file.whole_header
  have above := later.filePlace.le
  omega

/-! ### Where the headers agree -/

/-- An erased header of a volume with erase polarity 0 has size 0. -/
theorem ffsSize_of_erased (erased : isBufferErased memory 0 ffsHeader 24 = true) :
    ffsSize memory ffsHeader = 0 := by
  have zeros : memory.Holds ffsHeader (List.replicate 24 0) := by
    rw [isBufferErased, List.all_eq_true] at erased
    rw [Memory.Holds, List.length_replicate, List.eq_replicate_iff]
    exact ⟨Memory.length_bytesAt _ _ _, fun byte listed => of_decide_eq_true (erased byte listed)⟩
  have small : isFfsFile2 memory ffsHeader = false := by
    rw [isFfsFile2, zeros.apply 19 (by decide)]
    decide
  rw [ffsSize, if_neg (Bool.eq_false_iff.mp small), Memory.readLe,
    zeros.bytesAt_slice 20 3 (by decide)]
  decide

/-- A header that the search reads is that of a file when its size is right. -/
theorem isFile_of_reads (reads : readsFfs memory fvHeader ffsHeader = true)
    (whole : ffsHeaderSize memory ffsHeader ≤ ffsSize memory ffsHeader)
    (inside : ffsHeader + ffsSize memory ffsHeader ≤ fvHeader + fvLength memory fvHeader) :
    IsFile memory fvHeader ffsHeader := by
  have header : 24 ≤ ffsHeaderSize memory ffsHeader := by
    rw [ffsHeaderSize]
    split <;> decide
  refine ⟨whole, inside, ?_⟩
  rw [erasePolarity]
  split
  · rw [readsFfs, Nat.min_eq_right (by omega), Bool.and_eq_true, Bool.not_eq_true'] at reads
    exact reads.2
  · refine Bool.eq_false_iff.mpr fun erased => ?_
    have size := ffsSize_of_erased erased
    omega

namespace FileAgrees

theorem reads_of_isFile (agrees : FileAgrees memory request fvHeader ffsHeader)
    (file : IsFile memory fvHeader ffsHeader) : readsFfs memory fvHeader ffsHeader = true := by
  have whole := file.whole_header
  have inside := file.inside
  have written : isBufferErased memory 1 ffsHeader 24 = false :=
    Bool.eq_false_iff.mpr fun erased => agrees.erased erased file
  rw [readsFfs, Nat.min_eq_right (by omega), written, Bool.not_false, Bool.and_true,
    decide_eq_true_eq]
  omega

theorem isFile_of_match (agrees : FileAgrees memory request fvHeader ffsHeader)
    (reads : readsFfs memory fvHeader ffsHeader = true)
    (isMatch : request.matchesHeader memory ffsHeader = true) :
    IsFile memory fvHeader ffsHeader := by
  rcases agrees.size reads with ⟨whole, inside, _⟩ | ⟨other, _⟩
  · exact isFile_of_reads reads whole inside
  · rw [isMatch] at other
    cases other

/-- Behind a file with another name the search is at the next place, or behind the volume. -/
theorem next_of_other (agrees : FileAgrees memory request fvHeader ffsHeader)
    (reads : readsFfs memory fvHeader ffsHeader = true)
    (other : ¬ request.matchesHeader memory ffsHeader = true) :
    ffsHeader < nextFfs memory ffsHeader ∧
      (IsFile memory fvHeader ffsHeader →
        nextFfs memory ffsHeader = ffsHeader + alignValue (ffsSize memory ffsHeader) 8) ∧
      (IsFile memory fvHeader ffsHeader ∨
        fvHeader + fvLength memory fvHeader ≤ nextFfs memory ffsHeader + 1) := by
  have rounded : ffsSize memory ffsHeader ≤ alignValue (ffsSize memory ffsHeader) 8 :=
    le_alignValue (by decide)
  rcases agrees.size reads with ⟨whole, inside, fits⟩ | ⟨_, leaves⟩
  · have file := isFile_of_reads reads whole inside
    have positive := file.whole_header
    have same : nextFfs memory ffsHeader =
        ffsHeader + alignValue (ffsSize memory ffsHeader) 8 := by
      rw [nextFfs, Nat.mod_eq_of_lt (fits.resolve_left other)]
    exact ⟨by omega, fun _ => same, Or.inl file⟩
  · have below : ffsHeader < fvHeader + fvLength memory fvHeader - 1 := by
      rw [readsFfs, Bool.and_eq_true, decide_eq_true_eq] at reads
      exact reads.1
    refine ⟨by omega, fun file => ?_, Or.inr leaves⟩
    have inside := file.inside
    have above : alignValue (ffsSize memory ffsHeader) 8 < ffsSize memory ffsHeader + 8 :=
      alignValue_lt (by decide)
    rw [nextFfs] at leaves ⊢
    omega

end FileAgrees

/-- Where the search is among the volumes and files, and that no wanted file is before it. -/
def Placed (memory : Memory) (fd : Range) (request : FfsRequest) : FfsScan → Prop
  | .volume fvHeader =>
      VolumePlace memory fd fvHeader ∧
        ∀ volume file, FlashFile memory fd volume file →
          request.matchesHeader memory file = true → fvHeader ≤ volume
  | .file fvHeader ffsHeader =>
      VolumePlace memory fd fvHeader ∧ IsVolume memory fd fvHeader ∧
        (FilePlace memory fvHeader ffsHeader ∨
          fvHeader + fvLength memory fvHeader ≤ ffsHeader + 1) ∧
        ∀ volume file, FlashFile memory fd volume file →
          request.matchesHeader memory file = true →
            fvHeader < volume ∨ volume = fvHeader ∧ ffsHeader ≤ file

theorem HeaderAgrees.isVolume (agrees : HeaderAgrees memory fd request (.volume fvHeader))
    (inside : fvHeader < fd.start + fd.length - 1)
    (signature : hasFvhSignature memory fvHeader = true)
    (fits : fvLength memory fvHeader ≤ fd.start + fd.length - fvHeader) :
    IsVolume memory fd fvHeader :=
  ⟨signature, (agrees inside signature).1, by omega⟩

namespace Placed

theorem gap (placed : Placed memory fd request (.volume fvHeader))
    (noSignature : ¬ hasFvhSignature memory fvHeader = true) :
    Placed memory fd request (.volume (fvHeader + 0x1000)) := by
  obtain ⟨place, behind⟩ := placed
  have noVolume : ¬ IsVolume memory fd fvHeader := fun volume => noSignature volume.signature
  refine ⟨place.gap noVolume, fun volume file flashFile isMatch => ?_⟩
  have le := behind volume file flashFile isMatch
  have ne : fvHeader ≠ volume := by
    rintro rfl
    exact noVolume flashFile.volume
  exact place.next_le flashFile.volumePlace (Nat.lt_of_le_of_ne le ne) (Or.inr ⟨noVolume, rfl⟩)

theorem enter (placed : Placed memory fd request (.volume fvHeader))
    (volume : IsVolume memory fd fvHeader) :
    Placed memory fd request (.file fvHeader (firstFfs memory fvHeader)) := by
  obtain ⟨place, behind⟩ := placed
  refine ⟨place, volume, Or.inl FilePlace.first, fun other file flashFile isMatch => ?_⟩
  rcases Nat.lt_or_eq_of_le (behind other file flashFile isMatch) with less | rfl
  · exact Or.inl less
  · exact Or.inr ⟨rfl, flashFile.filePlace.first_le⟩

theorem other (placed : Placed memory fd request (.file fvHeader ffsHeader))
    (agrees : FileAgrees memory request fvHeader ffsHeader)
    (reads : readsFfs memory fvHeader ffsHeader = true)
    (noMatch : ¬ request.matchesHeader memory ffsHeader = true) :
    Placed memory fd request (.file fvHeader (nextFfs memory ffsHeader)) := by
  obtain ⟨place, volume, filePlace, behind⟩ := placed
  obtain ⟨_, next, file_or_end⟩ := agrees.next_of_other reads noMatch
  have below := lt_of_readsFfs reads
  have isPlace : FilePlace memory fvHeader ffsHeader := by
    refine filePlace.resolve_right fun atEnd => ?_
    rw [readsFfs, Bool.and_eq_true, decide_eq_true_eq] at reads
    omega
  refine ⟨place, volume, ?_, fun otherVolume file flashFile isMatch => ?_⟩
  · rcases file_or_end with file | atEnd
    · rw [next file]
      exact Or.inl (isPlace.next file)
    · exact Or.inr atEnd
  · rcases behind otherVolume file flashFile isMatch with less | ⟨rfl, le⟩
    · exact Or.inl less
    · have ne : ffsHeader ≠ file := by
        rintro rfl
        exact noMatch isMatch
      obtain ⟨isFile, later⟩ := isPlace.next_le flashFile.filePlace (Nat.lt_of_le_of_ne le ne)
      rw [next isFile]
      exact Or.inr ⟨rfl, later⟩

theorem behind (placed : Placed memory fd request (.file fvHeader ffsHeader))
    (agrees : FileAgrees memory request fvHeader ffsHeader)
    (ends : ¬ readsFfs memory fvHeader ffsHeader = true) :
    Placed memory fd request (.volume (fvHeader + fvLength memory fvHeader)) := by
  obtain ⟨place, volume, filePlace, behind⟩ := placed
  have noFile : ¬ IsFile memory fvHeader ffsHeader := fun file =>
    ends (agrees.reads_of_isFile file)
  refine ⟨place.next volume, fun other file flashFile isMatch => ?_⟩
  rcases behind other file flashFile isMatch with less | ⟨rfl, le⟩
  · exact place.next_le flashFile.volumePlace less (Or.inl ⟨volume, rfl⟩)
  · -- No file of this volume is left.
    exfalso
    rcases filePlace with isPlace | atEnd
    · rcases Nat.lt_or_eq_of_le le with less | rfl
      · exact noFile (isPlace.next_le flashFile.filePlace less).1
      · exact noFile flashFile.file
    · have whole := flashFile.file.whole_header
      have inside := flashFile.file.inside
      omega

theorem turn {scan after : FfsScan} (placed : Placed memory fd request scan)
    (agrees : HeaderAgrees memory fd request scan)
    (goesOn : ffsTurn memory fd request scan = .next after) : Placed memory fd request after := by
  cases scan with
  | volume fvHeader =>
      rw [ffsTurn] at goesOn
      split at goesOn
      · next inside =>
          split at goesOn
          · next signature =>
              split at goesOn
              · cases goesOn
              · next fits =>
                  cases goesOn
                  exact placed.enter (agrees.isVolume inside signature (Nat.not_lt.mp fits))
          · next noSignature =>
              cases goesOn
              exact placed.gap noSignature
      · cases goesOn
  | file fvHeader ffsHeader =>
      rw [ffsTurn] at goesOn
      split at goesOn
      · next reads =>
          split at goesOn
          · cases goesOn
          · next noMatch =>
              cases goesOn
              exact placed.other agrees reads noMatch
      · next ends =>
          cases goesOn
          exact placed.behind agrees ends

theorem found (placed : Placed memory fd request (.file fvHeader ffsHeader))
    (agrees : FileAgrees memory request fvHeader ffsHeader)
    (reads : readsFfs memory fvHeader ffsHeader = true)
    (isMatch : request.matchesHeader memory ffsHeader = true) :
    IsLeast (wantedFiles memory fd request) ffsHeader ∧
      FlashFile memory fd fvHeader ffsHeader := by
  obtain ⟨place, volume, filePlace, behind⟩ := placed
  have isPlace : FilePlace memory fvHeader ffsHeader := by
    refine filePlace.resolve_right fun atEnd => ?_
    rw [readsFfs, Bool.and_eq_true, decide_eq_true_eq] at reads
    omega
  have file : FlashFile memory fd fvHeader ffsHeader :=
    ⟨place, volume, isPlace, agrees.isFile_of_match reads isMatch⟩
  refine ⟨⟨⟨⟨fvHeader, file⟩, isMatch⟩, ?_⟩, file⟩
  rintro other ⟨⟨otherVolume, otherFile⟩, otherMatch⟩
  rcases behind otherVolume other otherFile otherMatch with less | ⟨_, le⟩
  · exact Nat.le_of_lt (file.lt otherFile less)
  · exact le

theorem nothing (placed : Placed memory fd request (.volume fvHeader))
    (agrees : HeaderAgrees memory fd request (.volume fvHeader))
    (stops : ffsTurn memory fd request (.volume fvHeader) = .stop none) :
    wantedFiles memory fd request = ∅ := by
  rw [ffsTurn] at stops
  split at stops
  · next inside =>
      split at stops
      · next signature =>
          split at stops
          · next large =>
              exact (agrees inside signature).2.resolve_left (Nat.not_le.mpr large)
          · cases stops
      · cases stops
  · next atEnd =>
      refine Set.eq_empty_of_forall_notMem ?_
      rintro header ⟨⟨volume, file⟩, isMatch⟩
      have le := placed.2 volume header file isMatch
      have whole := file.volume.header
      have inside := file.volume.inside
      omega

end Placed

theorem HeadersAgree.placed (agree : HeadersAgree memory fd request) {scan : FfsScan}
    (comes : Comes (ffsTurn memory fd request) (.volume fd.start) scan) :
    Placed memory fd request scan := by
  induction comes with
  | start =>
      exact ⟨VolumePlace.first, fun volume file flashFile _ => flashFile.volumePlace.le⟩
  | next comes turn ih => exact ih.turn (agree _ (comes_iff.mp comes)) turn

theorem HeadersAgree.progresses (agree : HeadersAgree memory fd request) :
    Progresses memory fd request := by
  intro fvHeader ffsHeader first
  have volume := (agree.placed (comes_iff.mpr first)).2.1
  refine ⟨fun zero => ?_, fun reads => ?_⟩
  · have header := volume.header
    omega
  · by_cases isMatch : request.matchesHeader memory ffsHeader = true
    · exact Or.inl isMatch
    · have forward := (FileAgrees.next_of_other (agree _ first) reads isMatch).1
      rw [nextFfs] at forward
      exact Or.inr (by omega)

/-- The header that the search stops with, where the headers agree. -/
theorem HeadersAgree.found (agree : HeadersAgree memory fd request) {scan : FfsScan}
    {found : Range} (comes : Comes (ffsTurn memory fd request) (.volume fd.start) scan)
    (stops : ffsTurn memory fd request scan = .stop (some found)) :
    IsLeast (wantedFiles memory fd request) found.start ∧
      ∃ fvHeader, FlashFile memory fd fvHeader found.start ∧
        found.Inside ⟨fvHeader, fvLength memory fvHeader⟩ := by
  obtain ⟨fvHeader, rfl, reads, isMatch, size⟩ := file_of_stop stops
  obtain ⟨least, file⟩ :=
    (agree.placed comes).found (agree _ (comes_iff.mp comes)) reads isMatch
  have inside := file.file.inside
  rw [← size] at inside
  exact ⟨least, fvHeader, file, file.filePlace.le, inside⟩

theorem HeadersAgree.none_iff (agree : HeadersAgree memory fd request) {scan : FfsScan}
    {found : Option Range} (comes : Comes (ffsTurn memory fd request) (.volume fd.start) scan)
    (stops : ffsTurn memory fd request scan = .stop found) :
    found = none ↔ wantedFiles memory fd request = ∅ := by
  cases found with
  | some found =>
      refine iff_of_false (by simp) ?_
      exact Set.nonempty_iff_ne_empty.mp ⟨found.start, (agree.found comes stops).1.1⟩
  | none =>
      refine iff_of_true rfl ?_
      cases scan with
      | volume fvHeader =>
          exact (agree.placed comes).nothing (agree _ (comes_iff.mp comes)) stops
      | file fvHeader ffsHeader =>
          rw [ffsTurn] at stops
          split at stops
          · split at stops <;> cases stops
          · cases stops

end Proofs

/-- The search ends exactly when it makes progress.  It is right when the headers that it
comes to agree with what it does not test. -/
theorem getFfsByName_finds :
    ((∃ fuel found, getFfsByName memory fd request fuel = some found) ↔
        Progresses memory fd request) ∧
      (HeadersAgree memory fd request → FindsFfs memory fd request) := by
  refine ⟨⟨progresses_of_ends, Progresses.ends⟩, fun agree => ⟨?_, ?_, ?_⟩⟩
  · exact agree.progresses.ends
  · intro fuel found run
    obtain ⟨scan, comes, stops⟩ := exists_loop_iff.mp ⟨fuel, run⟩
    exact agree.found comes stops
  · intro fuel found run
    obtain ⟨scan, comes, stops⟩ := exists_loop_iff.mp ⟨fuel, run⟩
    exact agree.none_iff comes stops

end Files

/-- A volume of 152 bytes with erase polarity 1, two files and free space behind them. -/
def twoFiles : Memory :=
  Memory.ofBytesAt 0x1000
    (List.replicate 32 0 ++ [152, 0, 0, 0, 0, 0, 0, 0, 0x5F, 0x46, 0x56, 0x48, 0, 8, 0, 0,
      72, 0, 0, 0, 0, 0, 0, 2, 1, 0, 0, 0, 152, 0, 0, 0] ++ List.replicate 8 0 ++
      ([5] ++ List.replicate 17 0 ++ [2, 0, 27, 0, 0, 0] ++ [1, 2, 3, 0, 0, 0, 0, 0]) ++
      ([6] ++ List.replicate 17 0 ++ [2, 0, 24, 0, 0, 0]) ++ List.replicate 24 0xFF)

theorem scanned_twoFiles {scan : FfsScan} (scanned : Scanned twoFiles ⟨0x1000, 152⟩ scan) :
    scan = .volume 0x1000 ∨ scan = .file 0x1000 0x1048 ∨ scan = .file 0x1000 0x1068 ∨
      scan = .file 0x1000 0x1080 ∨ scan = .volume 0x1098 := by
  induction scanned with
  | start => exact Or.inl rfl
  | gap _ inside noSignature ih =>
      rcases ih with same | same | same | same | same <;> cases same
      · exact absurd noSignature (by decide)
      · exact absurd inside (by decide)
  | volume _ inside _ _ ih =>
      rcases ih with same | same | same | same | same <;> cases same
      · exact Or.inr (Or.inl (by decide))
      · exact absurd inside (by decide)
  | file _ reads ih =>
      rcases ih with same | same | same | same | same <;> cases same
      · exact Or.inr (Or.inr (Or.inl (by decide)))
      · exact Or.inr (Or.inr (Or.inr (Or.inl (by decide))))
      · exact absurd reads (by decide)
  | behind _ _ ih =>
      rcases ih with same | same | same | same | same <;> cases same
      all_goals exact Or.inr (Or.inr (Or.inr (Or.inr (by decide))))

theorem headersAgree_twoFiles : HeadersAgree twoFiles ⟨0x1000, 152⟩ ⟨6, 2⟩ := by
  intro scan first
  rcases scanned_twoFiles first.scanned with rfl | rfl | rfl | rfl | rfl
  · exact fun _ _ => ⟨by decide, Or.inl (by decide)⟩
  · exact ⟨fun erased => absurd erased (by decide),
      fun _ => Or.inl ⟨by decide, by decide, Or.inr (by decide)⟩⟩
  · exact ⟨fun erased => absurd erased (by decide),
      fun _ => Or.inl ⟨by decide, by decide, Or.inl (by decide)⟩⟩
  · exact ⟨fun _ file => absurd file.whole (by decide),
      fun reads => absurd reads (by decide)⟩
  · exact fun inside => absurd inside (by decide)

/-- The second of the two files is found. -/
theorem getFfsByName_finds_twoFiles :
    0x1068 ∈ wantedFiles twoFiles ⟨0x1000, 152⟩ ⟨6, 2⟩ ∧
      FindsFfs twoFiles ⟨0x1000, 152⟩ ⟨6, 2⟩ := by
  have finds := (getFfsByName_finds twoFiles ⟨0x1000, 152⟩ ⟨6, 2⟩).2 headersAgree_twoFiles
  have run : getFfsByName twoFiles ⟨0x1000, 152⟩ ⟨6, 2⟩ 4 = some (some ⟨0x1068, 24⟩) := by decide
  exact ⟨(finds.first 4 _ run).1.1, finds⟩

/-- A volume of 128 bytes with erase polarity 0 and no file. -/
def emptyVolume : Memory :=
  Memory.ofBytesAt 0x1000
    (List.replicate 32 0 ++ [128, 0, 0, 0, 0, 0, 0, 0, 0x5F, 0x46, 0x56, 0x48, 0, 0, 0, 0,
      72, 0, 0, 0, 0, 0, 0, 2, 1, 0, 0, 0, 128, 0, 0, 0])

/-- The erased bytes are taken for a file of size 0. -/
theorem getFfsByName_emptyVolume :
    IsVolume emptyVolume ⟨0x1000, 128⟩ 0x1000 ∧ erasePolarity emptyVolume 0x1000 = 0 ∧
      ¬ FindsFfs emptyVolume ⟨0x1000, 128⟩ ⟨1, 0⟩ := by
  refine ⟨⟨by decide, by decide, by decide⟩, by decide, ?_⟩
  intro finds
  obtain ⟨fuel, found, run⟩ := finds.ends
  obtain ⟨scan, comes, stops⟩ := exists_loop_iff.mp ⟨fuel, run⟩
  refine not_ends_of_closed
    (fun scan => scan = .volume 0x1000 ∨ scan = .file 0x1000 0x1048) (Or.inl rfl) ?_
    ⟨scan, found, comes, stops⟩
  rintro _ (rfl | rfl)
  · exact ⟨_, ffsTurn_volume (by decide) (by decide) (by decide), Or.inr rfl⟩
  · exact ⟨_, ffsTurn_other (by decide) (by decide), Or.inr rfl⟩

end AppEfi.PcdDump
