import AppEfi.GetPciOprom.ProcessPciRomImage

/-!
# The reads of an option ROM dump

Offsets and lengths of the headers lead to what ProcessPciRomImage reads and saves, and only
RomOffset is compared with RomSize.  Pcir and LegacyRomHeader may be read before they are set.
-/

set_option autoImplicit false

namespace AppEfi.GetPciOprom

open AppEfi.Loop
open AppEfi.Reading

section Reads

variable (settings : RomSettings) (memory : Memory) (romImage romSize : Nat)

/-- The dump gets to ImageSize of the image, which is an EFI image. -/
structure ComputesImageSize (romEntry : Nat) : Prop where
  inside : romEntry - romImage < romSize
  signature : hasRomSignature memory romEntry = true
  pcirSignature : settings.assertEnabled = true →
    hasPcirSignature memory (pcirAt memory romEntry) = true
  deviceList : DeviceListEnds memory (pcirAt memory romEntry)
  efi : codeType memory (pcirAt memory romEntry) = 3

/-- Whatever the variables hold at first, every read and what is saved lie in the ROM, and the
saved size is a difference that does not wrap. -/
structure DumpsInside : Prop where
  reads : ∀ pcir legacyRomHeader, ReadsInside ⟨romImage, romSize⟩
    (processPciRomImage settings memory romImage romSize pcir legacyRomHeader)
  exact : settings.save = true → romImage ≠ 0 →
    (settings.assertEnabled = true → hasRomSignature memory romImage = true) →
      ∀ pcir legacyRomHeader scan,
        ComesTo (romTurn settings memory romImage romSize)
            ⟨romImage, pcir, legacyRomHeader, []⟩ scan →
          ComputesImageSize settings memory romImage romSize scan.romEntry →
            efiImageHeaderOffset memory scan.romEntry ≤
              initializationSize memory scan.romEntry * 512

/-! ## Fields that keep to the ROM -/

structure PcirInside (pcir : Nat) : Prop where
  fields : pcir + 22 ≤ romImage + romSize
  deviceList : 3 ≤ revision memory pcir → pcir + 24 ≤ romImage + romSize ∧
    (deviceListOffset memory pcir ≠ 0 →
      TextInside memory ⟨romImage, romSize⟩ 2 (pcir + deviceListOffset memory pcir))

/-- A legacy image that is saved has its length in the ROM. -/
def LegacyInside (romEntry : Nat) : Prop :=
  settings.save = true →
    romEntry + imageLength memory (pcirAt memory romEntry) * 512 ≤ romImage + romSize

/-- What is saved of an EFI image lies in the ROM. -/
def EfiInside (romEntry : Nat) : Prop :=
  settings.save = true →
    (compressionType memory romEntry = 1 → settings.assertEnabled = true →
      settings.locateDecompress = true) →
        (efiImage memory romEntry).Inside ⟨romImage, romSize⟩

/-- What is read of an image lies in the ROM, up to the ASSERT on its PCIR and behind it.
`legacy` is what an EFI image needs of LegacyRomHeader. -/
structure ImageInside (legacy : Prop) (romEntry : Nat) : Prop where
  header : romEntry + 26 ≤ romImage + romSize
  pcirSignature : pcirAt memory romEntry + 4 ≤ romImage + romSize
  behindAssert : (settings.assertEnabled = true →
      hasPcirSignature memory (pcirAt memory romEntry) = true) →
    PcirInside memory romImage romSize (pcirAt memory romEntry) ∧
      (codeType memory (pcirAt memory romEntry) = 0 →
        LegacyInside settings memory romImage romSize romEntry) ∧
      (codeType memory (pcirAt memory romEntry) = 3 →
        legacy ∧ EfiInside settings memory romImage romSize romEntry)

/-- The ROM starts with an image, the images keep to it, each EFI image stands behind a legacy
one, and none that is saved starts behind its end. -/
structure KeepsToRom : Prop where
  assert : settings.assertEnabled = true → 2 ≤ romSize
  first : settings.assertEnabled = false → romSize ≠ 0 → hasRomSignature memory romImage = true
  images : ∀ garbage romEntry pcir legacyRomHeader,
    Visited settings memory romImage romSize garbage romEntry pcir legacyRomHeader →
      romEntry - romImage < romSize →
        romEntry + 2 ≤ romImage + romSize ∧
          (hasRomSignature memory romEntry = true →
            ImageInside settings memory romImage romSize (legacyRomHeader.isSome = true) romEntry)
  exact : settings.save = true → ∀ garbage romEntry pcir legacyRomHeader,
    Visited settings memory romImage romSize garbage romEntry pcir legacyRomHeader →
      ComputesImageSize settings memory romImage romSize romEntry →
        efiImageHeaderOffset memory romEntry ≤ initializationSize memory romEntry * 512

section Proofs

variable {settings memory romImage romSize}
variable {scan : RomScan} {romEntry pcir : Nat}

theorem le_pcirAt (memory : Memory) (romEntry : Nat) : romEntry ≤ pcirAt memory romEntry :=
  Nat.le_add_right _ _

@[simp] theorem allReads_assertThat {Good : Range → Prop} {condition : Bool} :
    AllReads Good (assertThat settings condition) := by
  rw [assertThat]
  split <;> simp

theorem inside_iff {address width : Nat} (above : romImage ≤ address) :
    (⟨address, width⟩ : Range).Inside ⟨romImage, romSize⟩ ↔
      address + width ≤ romImage + romSize := by
  simp [Range.Inside, above]

theorem readsInside_showDeviceIdList (above : romImage ≤ pcir) :
    ReadsInside ⟨romImage, romSize⟩ (showDeviceIdList memory pcir) ↔
      pcir + 13 ≤ romImage + romSize ∧
        (3 ≤ revision memory pcir → deviceListOffset memory pcir ≠ 0 →
          TextInside memory ⟨romImage, romSize⟩ 2 (pcir + deviceListOffset memory pcir)) := by
  have text := @readsInside_readText memory 2 romImage romSize
    (pcir + deviceListOffset memory pcir) (by decide) (Nat.le_add_right_of_le above)
  rw [revision, deviceListOffset] at *
  simp only [showDeviceIdList, ReadsInside, allReads_bind, allReads_read, ends_read, forall_eq,
    allReads_ite, allReads_pure, if_true_right, text,
    inside_iff (Nat.le_add_right_of_le above)]
  constructor
  · rintro ⟨fields, list⟩
    exact ⟨fields, fun listed => (list listed).2⟩
  · rintro ⟨fields, list⟩
    exact ⟨fields, fun listed => ⟨by omega, list listed⟩⟩

theorem readsInside_showPcir (above : romImage ≤ pcir) :
    ReadsInside ⟨romImage, romSize⟩ (showPcir memory pcir) ↔
      PcirInside memory romImage romSize pcir := by
  have deviceIds := @readsInside_showDeviceIdList memory romImage romSize pcir above
  simp only [showPcir, ReadsInside, allReads_bind, allReads_look, ends_look, forall_const,
    allReads_read, ends_read, forall_eq, allReads_ite, deviceIds, ends_showDeviceIdList,
    inside_iff above, inside_iff (Nat.le_add_right_of_le above)]
  have same : memory.readLe (pcir + 12) 1 = revision memory pcir := rfl
  rw [same]
  constructor
  · rintro ⟨_, _, _, ⟨_, list⟩, rest⟩
    have behind := rest fun listed offset => (list listed offset).ends
    by_cases listed : 3 ≤ revision memory pcir
    · rw [if_pos listed] at behind
      exact ⟨by omega, fun _ => ⟨by omega, list listed⟩⟩
    · rw [if_neg listed] at behind
      exact ⟨by omega, fun more => absurd more listed⟩
  · rintro ⟨fields, deviceList⟩
    refine ⟨by omega, by omega, by omega, ⟨by omega, fun listed => (deviceList listed).2⟩,
      fun _ => ⟨by omega, by omega, by omega, ?_⟩⟩
    split
    · exact ⟨by have := deviceList ‹_›; omega, by omega, by omega⟩
    · exact ⟨by omega, by omega⟩

theorem PcirInside.deviceListEnds (inside : PcirInside memory romImage romSize pcir) :
    DeviceListEnds memory pcir :=
  fun listed offset => ((inside.deviceList listed).2 offset).ends

theorem allReads_savePciOpromToFile {Good : Range → Prop} {buffer : Range} :
    AllReads Good (savePciOpromToFile memory buffer) ↔ Good buffer :=
  allReads_look

theorem readsInside_showLegacyImage (above : romImage ≤ romEntry)
    (header : romEntry + 26 ≤ romImage + romSize)
    (fields : pcirAt memory romEntry + 22 ≤ romImage + romSize) :
    ReadsInside ⟨romImage, romSize⟩
        (showLegacyImage settings memory romEntry (pcirAt memory romEntry)) ↔
      LegacyInside settings memory romImage romSize romEntry := by
  have abovePcir := Nat.le_trans above (le_pcirAt memory romEntry)
  simp only [showLegacyImage, ReadsInside, allReads_bind, allReads_look, ends_look,
    forall_const, allReads_read, ends_read, forall_eq, allReads_ite, allReads_pure,
    if_true_right, allReads_savePciOpromToFile, inside_iff above,
    inside_iff (Nat.le_add_right_of_le above), inside_iff (Nat.le_add_right_of_le abovePcir)]
  constructor
  · rintro ⟨_, _, _, _, saved⟩
    exact fun saves => (saved saves).2
  · intro saved
    exact ⟨by omega, by omega, by omega, by omega, fun saves => ⟨by omega, saved saves⟩⟩

theorem allReads_decompressImage {Good : Range → Prop} {image : Range} :
    AllReads Good (decompressImage settings memory image) ↔
      ((settings.assertEnabled = true → settings.locateDecompress = true) → Good image) := by
  simp [decompressImage]

theorem readsInside_showEfiImage {legacyRomHeader : Nat} (above : romImage ≤ romEntry)
    (header : romEntry + 26 ≤ romImage + romSize) :
    ReadsInside ⟨romImage, romSize⟩ (showEfiImage settings memory romEntry legacyRomHeader) ↔
      (⟨legacyRomHeader, 2⟩ : Range).Inside ⟨romImage, romSize⟩ ∧
        EfiInside settings memory romImage romSize romEntry := by
  simp only [showEfiImage, ReadsInside, allReads_bind, allReads_look, ends_look,
    forall_const, allReads_read, ends_read, forall_eq, allReads_ite, allReads_pure,
    if_true_right, allReads_savePciOpromToFile, allReads_decompressImage,
    inside_iff (Nat.le_add_right_of_le above)]
  have image : (efiImage memory romEntry).Inside ⟨romImage, romSize⟩ ↔
      romEntry + efiImageHeaderOffset memory romEntry +
          imageSize (initializationSize memory romEntry) (efiImageHeaderOffset memory romEntry) ≤
        romImage + romSize := inside_iff (Nat.le_add_right_of_le above)
  have type : memory.readLe (romEntry + 12) 2 = compressionType memory romEntry := rfl
  rw [EfiInside, image, initializationSize, efiImageHeaderOffset, type]
  by_cases compressed : compressionType memory romEntry = 1
  · simp only [compressed, ne_eq, not_true_eq_false, if_false, true_imp_iff]
    constructor
    · rintro ⟨legacy, _, _, _, _, _, _, saved⟩
      exact ⟨legacy, saved⟩
    · rintro ⟨legacy, saved⟩
      exact ⟨legacy, by omega, by omega, by omega, by omega, by omega, by omega, saved⟩
  · simp only [compressed, ne_eq, not_false_eq_true, if_true, false_imp_iff, true_imp_iff]
    constructor
    · rintro ⟨legacy, _, _, _, _, _, _, saved⟩
      exact ⟨legacy, saved⟩
    · rintro ⟨legacy, saved⟩
      exact ⟨legacy, by omega, by omega, by omega, by omega, by omega, by omega, saved⟩

theorem readsInside_showImage {legacyRomHeader : Nat} (above : romImage ≤ romEntry)
    (header : romEntry + 26 ≤ romImage + romSize)
    (fields : pcirAt memory romEntry + 22 ≤ romImage + romSize) :
    ReadsInside ⟨romImage, romSize⟩
        (showImage settings memory romEntry (pcirAt memory romEntry) legacyRomHeader
          (codeType memory (pcirAt memory romEntry))) ↔
      (codeType memory (pcirAt memory romEntry) = 0 →
          LegacyInside settings memory romImage romSize romEntry) ∧
        (codeType memory (pcirAt memory romEntry) = 3 →
          (⟨legacyRomHeader, 2⟩ : Range).Inside ⟨romImage, romSize⟩ ∧
            EfiInside settings memory romImage romSize romEntry) := by
  rw [showImage]
  by_cases legacy : codeType memory (pcirAt memory romEntry) = 0
  · rw [if_pos legacy, readsInside_showLegacyImage above header fields]
    simp [legacy]
  · rw [if_neg legacy]
    by_cases efi : codeType memory (pcirAt memory romEntry) = 3
    · rw [if_pos efi, readsInside_showEfiImage above header]
      simp [efi]
    · rw [if_neg efi]
      simp [legacy, efi]

/-! ### The turns -/

theorem allReads_testRom {Good : Range → Prop} {romOffset : Nat} :
    AllReads Good (testRom memory romSize romOffset scan) ↔ Good ⟨scan.pcir + 21, 1⟩ := by
  simp [testRom]

theorem allReads_romTurn_behind {Good : Range → Prop}
    (behind : romSize ≤ scan.romEntry - romImage) :
    AllReads Good (romTurn settings memory romImage romSize scan) := by
  rw [romTurn, if_pos behind]
  exact allReads_pure _

theorem readsInside_romTurn_gap (above : romImage ≤ scan.romEntry)
    (inside : scan.romEntry - romImage < romSize)
    (noSignature : hasRomSignature memory scan.romEntry = false) :
    ReadsInside ⟨romImage, romSize⟩ (romTurn settings memory romImage romSize scan) ↔
      scan.romEntry + 2 ≤ romImage + romSize ∧
        (⟨scan.pcir + 21, 1⟩ : Range).Inside ⟨romImage, romSize⟩ := by
  have other : memory.readLe scan.romEntry 2 ≠ 0xAA55 := of_decide_eq_false noSignature
  rw [romTurn, if_neg (Nat.not_le.mpr inside), ReadsInside, allReads_bind]
  simp only [allReads_read, ends_read, forall_eq, inside_iff above]
  rw [if_pos other, allReads_testRom]

theorem readsInside_romTurn_image (above : romImage ≤ scan.romEntry)
    (inside : scan.romEntry - romImage < romSize)
    (signature : hasRomSignature memory scan.romEntry = true) :
    ReadsInside ⟨romImage, romSize⟩ (romTurn settings memory romImage romSize scan) ↔
      ImageInside settings memory romImage romSize
        ((⟨scan.legacyRomHeader, 2⟩ : Range).Inside ⟨romImage, romSize⟩) scan.romEntry := by
  have same : memory.readLe scan.romEntry 2 = 0xAA55 := of_decide_eq_true signature
  have abovePcir := Nat.le_trans above (le_pcirAt memory scan.romEntry)
  have pcir : scan.romEntry + memory.readLe (scan.romEntry + 24) 2 =
      pcirAt memory scan.romEntry := rfl
  rw [romTurn, if_neg (Nat.not_le.mpr inside), ReadsInside, allReads_bind]
  simp only [allReads_read, ends_read, forall_eq, inside_iff above]
  rw [if_neg (not_not_intro same)]
  simp only [allReads_bind, allReads_read, ends_read, forall_eq, pcir, allReads_assertThat,
    true_and, ends_assertThat, readsInside_showPcir abovePcir, ends_showPcir,
    allReads_testRom, ends_showImage, forall_const, inside_iff (Nat.le_add_right_of_le above),
    inside_iff (Nat.le_add_right_of_le abovePcir)]
  constructor
  · rintro ⟨_, header, pcirSignature, behind⟩
    refine ⟨header, pcirSignature, fun passes => ?_⟩
    obtain ⟨pcirInside, rest⟩ := behind passes
    obtain ⟨_, image, _⟩ := rest pcirInside.deviceListEnds
    exact ⟨pcirInside, (readsInside_showImage above header pcirInside.fields).mp image⟩
  · rintro ⟨header, pcirSignature, behind⟩
    refine ⟨by omega, header, pcirSignature, fun passes => ?_⟩
    obtain ⟨pcirInside, image⟩ := behind passes
    have fields := pcirInside.fields
    exact ⟨pcirInside, fun _ => ⟨by omega,
      (readsInside_showImage above header fields).mpr image, fun _ => ⟨by omega, by omega⟩⟩⟩

/-! ### The whole dump -/

theorem readsInside_processPciRomImage {legacyRomHeader : Nat} (present : romImage ≠ 0) :
    ReadsInside ⟨romImage, romSize⟩
        (processPciRomImage settings memory romImage romSize pcir legacyRomHeader) ↔
      (settings.assertEnabled = true → 2 ≤ romSize) ∧
        ((settings.assertEnabled = true → hasRomSignature memory romImage = true) →
          ∀ scan, ComesTo (romTurn settings memory romImage romSize)
              ⟨romImage, pcir, legacyRomHeader, []⟩ scan →
            ReadsInside ⟨romImage, romSize⟩ (romTurn settings memory romImage romSize scan)) := by
  rw [processPciRomImage, if_neg present]
  have whole : (⟨romImage, romSize⟩ : Range).Inside ⟨romImage, romSize⟩ :=
    (inside_iff (Nat.le_refl _)).mpr (Nat.le_refl _)
  have reads : ReadsInside ⟨romImage, romSize⟩ (assertFirst settings memory romImage) ↔
      (settings.assertEnabled = true → 2 ≤ romSize) := by
    rw [assertFirst, ReadsInside, allReads_ite]
    simp [inside_iff (Nat.le_refl romImage)]
  rw [ReadsInside] at reads
  simp [allReads_savePciOpromToFile, whole, reads, allReads_comesTo]

theorem Visited.le {garbage : Nat} {pcir legacyRomHeader : Option Nat}
    (visited : Visited settings memory romImage romSize garbage romEntry pcir legacyRomHeader) :
    romImage ≤ romEntry := by
  induction visited with
  | start => exact Nat.le_refl _
  | gap _ _ _ _ ih => exact Nat.le_add_right_of_le ih
  | image _ _ _ _ _ ih => exact Nat.le_add_right_of_le ih

theorem Visited.first {garbage : Nat} {pcir legacyRomHeader : Option Nat}
    (visited : Visited settings memory romImage romSize garbage romEntry pcir legacyRomHeader) :
    settings.assertEnabled = true → hasRomSignature memory romImage = true := by
  induction visited with
  | start signature => exact signature
  | gap _ _ _ _ ih => exact ih
  | image _ _ _ _ _ ih => exact ih

theorem ImageInside.imp {legacy other : Prop} (follows : legacy → other)
    (inside : ImageInside settings memory romImage romSize legacy romEntry) :
    ImageInside settings memory romImage romSize other romEntry := by
  refine ⟨inside.header, inside.pcirSignature, fun passes => ?_⟩
  obtain ⟨pcirInside, legacyInside, efi⟩ := inside.behindAssert passes
  exact ⟨pcirInside, legacyInside, fun type => ⟨follows (efi type).1, (efi type).2⟩⟩

/-- What the variables of a dump that keeps to the ROM point to. -/
structure PointsInside (romImage romSize romEntry : Nat) (pcir legacyRomHeader : Option Nat) :
    Prop where
  indicator : ∀ address ∈ pcir, (⟨address + 21, 1⟩ : Range).Inside ⟨romImage, romSize⟩
  signature : ∀ address ∈ legacyRomHeader,
    (⟨address, 2⟩ : Range).Inside ⟨romImage, romSize⟩
  notSet : pcir = none → romEntry = romImage

theorem KeepsToRom.startsWithImage (keeps : KeepsToRom settings memory romImage romSize)
    {garbage : Nat} {pcir legacyRomHeader : Option Nat}
    (visited : Visited settings memory romImage romSize garbage romEntry pcir legacyRomHeader)
    (inside : romEntry - romImage < romSize) : hasRomSignature memory romImage = true := by
  cases enabled : settings.assertEnabled
  · exact keeps.first enabled (Nat.ne_zero_of_lt inside)
  · exact visited.first enabled

theorem KeepsToRom.pointsInside (keeps : KeepsToRom settings memory romImage romSize)
    {garbage : Nat} {pcir legacyRomHeader : Option Nat}
    (visited : Visited settings memory romImage romSize garbage romEntry pcir legacyRomHeader) :
    PointsInside romImage romSize romEntry pcir legacyRomHeader := by
  induction visited with
  | start => exact ⟨fun _ found => (by cases found), fun _ found => (by cases found), fun _ => rfl⟩
  | @gap romEntry pcir _ visited inside noSignature _ ih =>
      refine ⟨ih.indicator, ih.signature, fun notSet => ?_⟩
      rw [ih.notSet notSet, keeps.startsWithImage visited inside] at noSignature
      cases noSignature
  | @image romEntry _ _ visited inside signature shown _ ih =>
      have above := visited.le
      have image := (keeps.images _ _ _ _ visited inside).2 signature
      have fields := (image.behindAssert shown.pcirSignature).1.fields
      have header := image.header
      refine ⟨fun address found => ?_, fun address found => ?_, fun notSet => by cases notSet⟩
      · cases found
        exact (inside_iff (Nat.le_add_right_of_le (Nat.le_trans above
          (le_pcirAt memory romEntry)))).mpr fields
      · split at found
        · cases found
          exact (inside_iff above).mpr (by omega)
        · exact ih.signature address found

/-- A turn of a dump that keeps to the ROM. -/
theorem KeepsToRom.readsInside (keeps : KeepsToRom settings memory romImage romSize)
    {garbage legacy : Nat} {pcir legacyRomHeader : Option Nat}
    (visited : Visited settings memory romImage romSize garbage scan.romEntry pcir
      legacyRomHeader)
    (holds : Holds garbage legacy scan pcir legacyRomHeader) :
    ReadsInside ⟨romImage, romSize⟩ (romTurn settings memory romImage romSize scan) := by
  have points := keeps.pointsInside visited
  by_cases inside : scan.romEntry - romImage < romSize
  · obtain ⟨start, image⟩ := keeps.images _ _ _ _ visited inside
    cases signature : hasRomSignature memory scan.romEntry
    · refine (readsInside_romTurn_gap visited.le inside signature).mpr ⟨start, ?_⟩
      rw [holds.pcir]
      cases pcir with
      | none =>
          rw [points.notSet rfl, keeps.startsWithImage visited inside] at signature
          cases signature
      | some address => exact points.indicator address rfl
    · refine (readsInside_romTurn_image visited.le inside signature).mpr
        ((image signature).imp fun set => ?_)
      rw [holds.legacyRomHeader]
      cases legacyRomHeader with
      | none => cases set
      | some address => exact points.signature address rfl
  · exact allReads_romTurn_behind (Nat.le_of_not_lt inside)

end Proofs

/-- The reads and saves lie in the ROM and the saved size does not wrap exactly when the ROM's
fields keep to it. -/
theorem processPciRomImage_inside_iff :
    DumpsInside settings memory romImage romSize ↔
      (romImage ≠ 0 → KeepsToRom settings memory romImage romSize) := by
  constructor
  · intro dumps present
    have reads := fun pcir legacyRomHeader =>
      (readsInside_processPciRomImage present).mp (dumps.reads pcir legacyRomHeader)
    -- A variable that was not set may point behind the ROM.
    have outside (width : Nat) (positive : 0 < width) (offset : Nat) :
        ¬ (⟨romImage + romSize + offset, width⟩ : Range).Inside ⟨romImage, romSize⟩ := by
      rw [Range.Inside]
      dsimp only
      omega
    refine ⟨(reads 0 0).1, fun enabled size => ?_, ?_, ?_⟩
    · by_contra noSignature
      have turn := (reads (romImage + romSize) 0).2 (fun other => by
        rw [enabled] at other
        cases other) _ ComesTo.start
      have gap := (readsInside_romTurn_gap (Nat.le_refl _) (by
        rw [Nat.sub_self]
        exact Nat.pos_of_ne_zero size) (eq_false_of_ne_true noSignature)).mp turn
      exact outside 1 Nat.one_pos 21 gap.2
    · intro garbage romEntry pcir legacyRomHeader visited inside
      obtain ⟨scan, rfl, holds, comes⟩ := visited.comesTo (romImage + romSize)
      have turn := (reads garbage (romImage + romSize)).2 visited.first scan comes
      cases signature : hasRomSignature memory scan.romEntry
      · have gap := (readsInside_romTurn_gap visited.le inside signature).mp turn
        exact ⟨gap.1, fun other => by cases other⟩
      · have image := (readsInside_romTurn_image visited.le inside signature).mp turn
        refine ⟨Nat.le_trans (by omega) image.header, fun _ => image.imp fun legacy => ?_⟩
        cases legacyRomHeader with
        | none =>
            rw [holds.legacyRomHeader] at legacy
            exact absurd legacy (outside 2 Nat.two_pos 0)
        | some address => rfl
    · intro saves garbage romEntry pcir legacyRomHeader visited computes
      obtain ⟨scan, rfl, _, comes⟩ := visited.comesTo 0
      exact dumps.exact saves present visited.first garbage 0 scan comes computes
  · intro keeps
    refine ⟨fun pcir legacyRomHeader => ?_, ?_⟩
    · by_cases present : romImage = 0
      · rw [processPciRomImage, if_pos present]
        exact allReads_pure _
      · refine (readsInside_processPciRomImage present).mpr
          ⟨(keeps present).assert, fun first scan comes => ?_⟩
        obtain ⟨_, _, visited, holds⟩ := visited_of_comesTo first comes
        exact (keeps present).readsInside visited holds
    · intro saves present first pcir legacyRomHeader scan comes computes
      obtain ⟨_, _, visited, _⟩ := visited_of_comesTo first comes
      exact (keeps present).exact saves _ _ _ _ visited computes

end Reads

/-- A ROM of one EFI image that is marked last, with an InitializationSize of 0 and its EFI
image at offset 64. -/
def efiOnly : Memory :=
  Memory.ofBytesAt 0x1000
    ([0x55, 0xAA] ++ List.replicate 20 0 ++ [64, 0, 28, 0, 0, 0, 0x50, 0x43, 0x49, 0x52] ++
      List.replicate 12 0 ++ [1, 0, 0, 0, 3, 0x80])

def saving : RomSettings := { noServices with save := true }

/-- The size wraps, and LegacyRomHeader is read though it was not set. -/
theorem processPciRomImage_efiOnly :
    efiImage efiOnly 0x1000 = ⟨0x1040, 2 ^ 32 - 64⟩ ∧
      ¬ ReadsInside ⟨0x1000, 512⟩ (processPciRomImage saving efiOnly 0x1000 512 0 0) ∧
      ¬ DumpsInside saving efiOnly 0x1000 512 := by
  have signature : hasRomSignature efiOnly 0x1000 = true := by decide
  have pcirSignature : hasPcirSignature efiOnly (pcirAt efiOnly 0x1000) = true := by decide
  have efi : codeType efiOnly (pcirAt efiOnly 0x1000) = 3 := by decide
  refine ⟨by decide, fun reads => ?_, fun dumps => ?_⟩
  · have turn := ((readsInside_processPciRomImage (by decide)).mp reads).2 (fun _ => signature) _
      ComesTo.start
    have image := (readsInside_romTurn_image (by decide) (by decide) signature).mp turn
    have legacy := ((image.behindAssert fun _ => pcirSignature).2.2 efi).1
    exact absurd legacy (by decide)
  · have computes : ComputesImageSize saving efiOnly 0x1000 512 0x1000 :=
      ⟨by decide, signature, fun _ => pcirSignature, fun listed => absurd listed (by decide), efi⟩
    have exact := dumps.exact rfl (by decide) (fun _ => signature) 0 0 _ ComesTo.start computes
    exact absurd exact (by decide)

end AppEfi.GetPciOprom
