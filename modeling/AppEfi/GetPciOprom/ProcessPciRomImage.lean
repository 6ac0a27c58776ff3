import AppEfi.Lib.Reading

/-!
# The images of an option ROM

ProcessPciRomImage in GetPciOprom.c as a program that lists its reads, what it saves to a file
included, and ends with the offsets of the images that it shows.  A UINTN has 64 bits.
-/

set_option autoImplicit false

namespace AppEfi.GetPciOprom

open AppEfi.Loop
open AppEfi.Reading

/-- Whether a failing ASSERT stops the program, whether it saves, and how the services of the
decompress protocol go for a source buffer. -/
structure RomSettings where
  assertEnabled : Bool
  save : Bool
  locateDecompress : Bool
  decompress : Range → Bool

/-! ## Headers -/

section Headers

variable (memory : Memory)

/-- PCI_EXPANSION_ROM_HEADER_SIGNATURE. -/
def hasRomSignature (romEntry : Nat) : Bool := decide (memory.readLe romEntry 2 = 0xAA55)

def pcirAt (romEntry : Nat) : Nat := romEntry + memory.readLe (romEntry + 24) 2

/-- PCI_DATA_STRUCTURE_SIGNATURE, "PCIR". -/
def hasPcirSignature (pcir : Nat) : Bool := decide (memory.readLe pcir 4 = 0x52494350)

def revision (pcir : Nat) : Nat := memory.readLe (pcir + 12) 1

def deviceListOffset (pcir : Nat) : Nat := memory.readLe (pcir + 8) 2

def imageLength (pcir : Nat) : Nat := memory.readLe (pcir + 16) 2

def codeType (pcir : Nat) : Nat := memory.readLe (pcir + 20) 1

/-- `(Pcir->Indicator & 0x80) != 0`. -/
def isLast (pcir : Nat) : Bool := (memory.readLe (pcir + 21) 1).testBit 7

def initializationSize (romEntry : Nat) : Nat := memory.readLe (romEntry + 2) 2

def compressionType (romEntry : Nat) : Nat := memory.readLe (romEntry + 12) 2

def efiImageHeaderOffset (romEntry : Nat) : Nat := memory.readLe (romEntry + 22) 2

end Headers

/-- ImageSize: the difference is made in an int and becomes a UINT32. -/
def imageSize (initializationSize efiImageHeaderOffset : Nat) : Nat :=
  if efiImageHeaderOffset ≤ initializationSize * 512 then
    initializationSize * 512 - efiImageHeaderOffset
  else 2 ^ 32 + initializationSize * 512 - efiImageHeaderOffset

/-- Image and ImageSize. -/
def efiImage (memory : Memory) (romEntry : Nat) : Range :=
  ⟨romEntry + efiImageHeaderOffset memory romEntry,
    imageSize (initializationSize memory romEntry) (efiImageHeaderOffset memory romEntry)⟩

/-! ## The program -/

/-- The variables at the head of the loop; `shown` has the offsets that were printed. -/
structure RomScan where
  romEntry : Nat
  pcir : Nat
  legacyRomHeader : Nat
  shown : List Nat

section Program

variable (settings : RomSettings) (memory : Memory)

def assertThat (condition : Bool) : Reading Unit :=
  if settings.assertEnabled && !condition then deadLoop else pure ()

/-- The file is written from the buffer. -/
def savePciOpromToFile (buffer : Range) : Reading Unit := look memory buffer.start buffer.length

def showDeviceIdList (pcir : Nat) : Reading Unit := do
  let revision ← read memory (pcir + 12) 1
  if 3 ≤ revision then do
    let deviceListOffset ← read memory (pcir + 8) 2
    if deviceListOffset ≠ 0 then readText memory 2 (pcir + deviceListOffset)
    else pure ()
  else pure ()

def showPcir (pcir : Nat) : Reading Unit := do
  look memory pcir 4
  look memory (pcir + 4) 2
  look memory (pcir + 6) 2
  showDeviceIdList memory pcir
  let revision ← read memory (pcir + 12) 1
  look memory (pcir + 13) 4
  look memory (pcir + 16) 2
  if 3 ≤ revision then look memory (pcir + 22) 2 else pure ()
  look memory (pcir + 21) 1
  look memory (pcir + 20) 1

def showLegacyImage (romEntry pcir : Nat) : Reading Unit := do
  look memory romEntry 2
  look memory (romEntry + 2) 1
  look memory (romEntry + 3) 4
  look memory (romEntry + 24) 2
  if settings.save then do
    let imageLength ← read memory (pcir + 16) 2
    savePciOpromToFile memory ⟨romEntry, imageLength * 512⟩
  else pure ()

/-- GetInfo and Decompress read the source; the file is written from the pool. -/
def decompressImage (image : Range) : Reading Unit := do
  assertThat settings settings.locateDecompress
  look memory image.start image.length
  assertThat settings (settings.decompress image)

/-- The signature that is printed is that of LegacyRomHeader. -/
def showEfiImage (romEntry legacyRomHeader : Nat) : Reading Unit := do
  look memory legacyRomHeader 2
  let initializationSize ← read memory (romEntry + 2) 2
  look memory (romEntry + 8) 2
  look memory (romEntry + 10) 2
  let compressionType ← read memory (romEntry + 12) 2
  let efiImageHeaderOffset ← read memory (romEntry + 22) 2
  look memory (romEntry + 24) 2
  let image : Range :=
    ⟨romEntry + efiImageHeaderOffset, imageSize initializationSize efiImageHeaderOffset⟩
  if settings.save then
    if compressionType ≠ 1 then savePciOpromToFile memory image
    else decompressImage settings memory image
  else pure ()

/-- PCI_CODE_TYPE_PCAT_IMAGE and PCI_CODE_TYPE_EFI_IMAGE. -/
def showImage (romEntry pcir legacyRomHeader codeType : Nat) : Reading Unit :=
  if codeType = 0 then showLegacyImage settings memory romEntry pcir
  else if codeType = 3 then showEfiImage settings memory romEntry legacyRomHeader
  else pure ()

/-- The condition of the loop; `romOffset` is that of the iteration. -/
def testRom (romSize romOffset : Nat) (scan : RomScan) :
    Reading (Control RomScan (List Nat)) := do
  let indicator ← read memory (scan.pcir + 21) 1
  if indicator.testBit 7 = false ∧ romOffset < romSize then pure (.next scan)
  else pure (.stop scan.shown)

def romTurn (romImage romSize : Nat) (scan : RomScan) :
    Reading (Control RomScan (List Nat)) :=
  if romSize ≤ scan.romEntry - romImage then pure (.stop scan.shown)
  else do
    let signature ← read memory scan.romEntry 2
    if signature ≠ 0xAA55 then
      testRom memory romSize (scan.romEntry - romImage)
        { scan with romEntry := scan.romEntry + 512 }
    else do
      let pcirOffset ← read memory (scan.romEntry + 24) 2
      let pcir := scan.romEntry + pcirOffset
      let pcirSignature ← read memory pcir 4
      assertThat settings (decide (pcirSignature = 0x52494350))
      showPcir memory pcir
      let codeType ← read memory (pcir + 20) 1
      showImage settings memory scan.romEntry pcir scan.legacyRomHeader codeType
      let imageLength ← read memory (pcir + 16) 2
      testRom memory romSize (scan.romEntry - romImage)
        { romEntry := scan.romEntry + imageLength * 512
          pcir := pcir
          legacyRomHeader := if codeType = 0 then scan.romEntry else scan.legacyRomHeader
          shown := scan.shown ++ [scan.romEntry - romImage] }

/-- `ASSERT (Signature == PCI_EXPANSION_ROM_HEADER_SIGNATURE)` in front of the loop. -/
def assertFirst (romImage : Nat) : Reading Unit :=
  if settings.assertEnabled then do
    let signature ← read memory romImage 2
    assertThat settings (decide (signature = 0xAA55))
  else pure ()

/-- Pcir and LegacyRomHeader have no values at first. -/
def processPciRomImage (romImage romSize pcir legacyRomHeader : Nat) : Reading (List Nat) :=
  if romImage = 0 then pure []
  else do
    if settings.save then savePciOpromToFile memory ⟨romImage, romSize⟩ else pure ()
    assertFirst settings memory romImage
    repeatTurns (romTurn settings memory romImage romSize)
      ⟨romImage, pcir, legacyRomHeader, []⟩

end Program

/-! ## The images -/

section Images

variable (settings : RomSettings) (memory : Memory) (romImage romSize : Nat)

def DeviceListEnds (pcir : Nat) : Prop :=
  3 ≤ revision memory pcir → deviceListOffset memory pcir ≠ 0 →
    TextEnds memory 2 (pcir + deviceListOffset memory pcir)

/-- The asserts on the image pass, and its list of device ids has an end. -/
structure ImageShown (romEntry : Nat) : Prop where
  pcirSignature : settings.assertEnabled = true →
    hasPcirSignature memory (pcirAt memory romEntry) = true
  deviceList : DeviceListEnds memory (pcirAt memory romEntry)
  decompressed : codeType memory (pcirAt memory romEntry) = 3 → settings.save = true →
    compressionType memory romEntry = 1 → settings.assertEnabled = true →
      settings.locateDecompress = true ∧ settings.decompress (efiImage memory romEntry) = true

/-- The places that lengths and signatures lead to.  `none` is a variable that was not set, and
`garbage` is what Pcir then points to. -/
inductive Visited (garbage : Nat) : Nat → Option Nat → Option Nat → Prop where
  | start (signature : settings.assertEnabled = true → hasRomSignature memory romImage = true) :
      Visited garbage romImage none none
  | gap {romEntry : Nat} {pcir legacyRomHeader : Option Nat}
      (visited : Visited garbage romEntry pcir legacyRomHeader)
      (inside : romEntry - romImage < romSize)
      (noSignature : hasRomSignature memory romEntry = false)
      (more : isLast memory (pcir.getD garbage) = false) :
      Visited garbage (romEntry + 512) pcir legacyRomHeader
  | image {romEntry : Nat} {pcir legacyRomHeader : Option Nat}
      (visited : Visited garbage romEntry pcir legacyRomHeader)
      (inside : romEntry - romImage < romSize)
      (signature : hasRomSignature memory romEntry = true)
      (shown : ImageShown settings memory romEntry)
      (more : isLast memory (pcirAt memory romEntry) = false) :
      Visited garbage (romEntry + imageLength memory (pcirAt memory romEntry) * 512)
        (some (pcirAt memory romEntry))
        (if codeType memory (pcirAt memory romEntry) = 0 then some romEntry
          else legacyRomHeader)

/-- The offsets of a well-formed ROM's images: each has the signatures of its header and its
PCIR, and its length leads to the next, up to the one that is marked last or to RomSize. -/
inductive RomImages : Nat → List Nat → Prop where
  | done {romEntry : Nat} (behind : romSize ≤ romEntry - romImage) : RomImages romEntry []
  | last {romEntry : Nat} (inside : romEntry - romImage < romSize)
      (signature : hasRomSignature memory romEntry = true)
      (pcirSignature : hasPcirSignature memory (pcirAt memory romEntry) = true)
      (marked : isLast memory (pcirAt memory romEntry) = true) :
      RomImages romEntry [romEntry - romImage]
  | next {romEntry : Nat} {images : List Nat} (inside : romEntry - romImage < romSize)
      (signature : hasRomSignature memory romEntry = true)
      (pcirSignature : hasPcirSignature memory (pcirAt memory romEntry) = true)
      (more : isLast memory (pcirAt memory romEntry) = false)
      (behind : RomImages (romEntry + imageLength memory (pcirAt memory romEntry) * 512)
        images) :
      RomImages romEntry ((romEntry - romImage) :: images)

/-- The dump ends, whatever its variables hold at first, and of a well-formed ROM it has then
shown the images in order. -/
structure DumpsImages : Prop where
  ends : ∀ pcir legacyRomHeader, ∃ shown,
    Ends (processPciRomImage settings memory romImage romSize pcir legacyRomHeader) shown
  inOrder : ∀ pcir legacyRomHeader shown images,
    Ends (processPciRomImage settings memory romImage romSize pcir legacyRomHeader) shown →
      romImage ≠ 0 → RomImages memory romImage romSize romImage images → shown = images

/-- The asserts pass, and every image that is come to is left: its list of device ids has an
end, and it has a length or is marked last. -/
structure LeavesImages : Prop where
  first : settings.assertEnabled = true → hasRomSignature memory romImage = true
  images : ∀ garbage romEntry pcir legacyRomHeader,
    Visited settings memory romImage romSize garbage romEntry pcir legacyRomHeader →
      romEntry - romImage < romSize → hasRomSignature memory romEntry = true →
        ImageShown settings memory romEntry ∧
          (imageLength memory (pcirAt memory romEntry) ≠ 0 ∨
            isLast memory (pcirAt memory romEntry) = true)

section Proofs

variable {settings memory romImage romSize}
variable {scan : RomScan} {outcome : Control RomScan (List Nat)}

@[simp] theorem ends_assertThat {condition : Bool} {done : Unit} :
    Ends (assertThat settings condition) done ↔
      (settings.assertEnabled = true → condition = true) := by
  cases condition <;> cases enabled : settings.assertEnabled <;> simp [assertThat, enabled]

@[simp] theorem ends_savePciOpromToFile {buffer : Range} (done : Unit) :
    Ends (savePciOpromToFile memory buffer) done :=
  ends_look done

@[simp] theorem ends_showDeviceIdList {pcir : Nat} {done : Unit} :
    Ends (showDeviceIdList memory pcir) done ↔ DeviceListEnds memory pcir := by
  simp only [showDeviceIdList, ends_bind, ends_read, exists_eq_left, ends_ite, ends_readText,
    ends_pure, DeviceListEnds, revision, deviceListOffset]
  split <;> rename_i listed
  · by_cases offset : memory.readLe (pcir + 8) 2 = 0 <;> simp [listed, offset]
  · simp [listed]

@[simp] theorem ends_showPcir {pcir : Nat} {done : Unit} :
    Ends (showPcir memory pcir) done ↔ DeviceListEnds memory pcir := by
  simp [showPcir]

@[simp] theorem ends_showLegacyImage {romEntry pcir : Nat} (done : Unit) :
    Ends (showLegacyImage settings memory romEntry pcir) done := by
  simp [showLegacyImage]

@[simp] theorem ends_decompressImage {image : Range} {done : Unit} :
    Ends (decompressImage settings memory image) done ↔
      (settings.assertEnabled = true →
        settings.locateDecompress = true ∧ settings.decompress image = true) := by
  simp [decompressImage, imp_and]

@[simp] theorem ends_showEfiImage {romEntry legacyRomHeader : Nat} {done : Unit} :
    Ends (showEfiImage settings memory romEntry legacyRomHeader) done ↔
      (settings.save = true → compressionType memory romEntry = 1 →
        settings.assertEnabled = true → settings.locateDecompress = true ∧
          settings.decompress (efiImage memory romEntry) = true) := by
  by_cases saves : settings.save = true
  · by_cases compressed : compressionType memory romEntry = 1
    · rw [compressionType] at compressed
      simp [showEfiImage, saves, compressed, compressionType, efiImage, initializationSize,
        efiImageHeaderOffset]
    · rw [compressionType] at compressed
      simp [showEfiImage, saves, compressed, compressionType]
  · simp [showEfiImage, saves]

@[simp] theorem ends_showImage {romEntry pcir legacyRomHeader codeType : Nat} {done : Unit} :
    Ends (showImage settings memory romEntry pcir legacyRomHeader codeType) done ↔
      (codeType = 3 → settings.save = true → compressionType memory romEntry = 1 →
        settings.assertEnabled = true → settings.locateDecompress = true ∧
          settings.decompress (efiImage memory romEntry) = true) := by
  by_cases legacy : codeType = 0
  · simp [showImage, legacy]
  · by_cases efi : codeType = 3 <;> simp [showImage, legacy, efi]

/-- What the loop does behind its body. -/
def tested (memory : Memory) (scan : RomScan) : Control RomScan (List Nat) :=
  if isLast memory scan.pcir then .stop scan.shown else .next scan

theorem ends_testRom {romOffset : Nat} (inside : romOffset < romSize) :
    Ends (testRom memory romSize romOffset scan) outcome ↔ outcome = tested memory scan := by
  rw [tested, isLast]
  by_cases last : (memory.readLe (scan.pcir + 21) 1).testBit 7 = true
  · simp [testRom, last]
  · simp [testRom, last, inside]

/-! ### The turns -/

def afterGap (scan : RomScan) : RomScan := { scan with romEntry := scan.romEntry + 512 }

def afterImage (memory : Memory) (romImage : Nat) (scan : RomScan) : RomScan where
  romEntry := scan.romEntry + imageLength memory (pcirAt memory scan.romEntry) * 512
  pcir := pcirAt memory scan.romEntry
  legacyRomHeader :=
    if codeType memory (pcirAt memory scan.romEntry) = 0 then scan.romEntry
    else scan.legacyRomHeader
  shown := scan.shown ++ [scan.romEntry - romImage]

theorem ends_romTurn_behind (behind : romSize ≤ scan.romEntry - romImage) :
    Ends (romTurn settings memory romImage romSize scan) outcome ↔
      outcome = .stop scan.shown := by
  rw [romTurn, if_pos behind, ends_pure]

theorem ends_romTurn_gap (inside : scan.romEntry - romImage < romSize)
    (noSignature : hasRomSignature memory scan.romEntry = false) :
    Ends (romTurn settings memory romImage romSize scan) outcome ↔
      outcome = tested memory (afterGap scan) := by
  have other : memory.readLe scan.romEntry 2 ≠ 0xAA55 := of_decide_eq_false noSignature
  rw [romTurn, if_neg (Nat.not_le.mpr inside), ends_bind]
  simp only [ends_read, exists_eq_left]
  rw [if_pos other, ends_testRom inside]
  rfl

theorem ends_romTurn_image (inside : scan.romEntry - romImage < romSize)
    (signature : hasRomSignature memory scan.romEntry = true) :
    Ends (romTurn settings memory romImage romSize scan) outcome ↔
      ImageShown settings memory scan.romEntry ∧
        outcome = tested memory (afterImage memory romImage scan) := by
  have same : memory.readLe scan.romEntry 2 = 0xAA55 := of_decide_eq_true signature
  rw [romTurn, if_neg (Nat.not_le.mpr inside), ends_bind]
  simp only [ends_read, exists_eq_left]
  rw [if_neg (not_not_intro same)]
  simp only [ends_bind, ends_read, exists_eq_left, ends_assertThat, ends_showPcir,
    ends_showImage, ends_testRom inside, exists_const]
  constructor
  · rintro ⟨pcirSignature, deviceList, decompressed, ends⟩
    exact ⟨⟨pcirSignature, deviceList, decompressed⟩, ends⟩
  · rintro ⟨⟨pcirSignature, deviceList, decompressed⟩, ends⟩
    exact ⟨pcirSignature, deviceList, decompressed, ends⟩

theorem tested_eq_next {after : RomScan} :
    tested memory scan = .next after ↔ isLast memory scan.pcir = false ∧ after = scan := by
  rw [tested]
  cases last : isLast memory scan.pcir
  · simp [eq_comm]
  · simp

theorem tested_eq_stop {shown : List Nat} :
    tested memory scan = .stop shown ↔ isLast memory scan.pcir = true ∧ shown = scan.shown := by
  rw [tested]
  cases last : isLast memory scan.pcir
  · simp
  · simp [eq_comm]

/-- What a turn that goes on can do. -/
theorem next_romTurn_iff {after : RomScan} :
    Ends (romTurn settings memory romImage romSize scan) (.next after) ↔
      scan.romEntry - romImage < romSize ∧
        (hasRomSignature memory scan.romEntry = false ∧ isLast memory scan.pcir = false ∧
            after = afterGap scan ∨
          hasRomSignature memory scan.romEntry = true ∧
            ImageShown settings memory scan.romEntry ∧
              isLast memory (pcirAt memory scan.romEntry) = false ∧
                after = afterImage memory romImage scan) := by
  by_cases inside : scan.romEntry - romImage < romSize
  · cases signature : hasRomSignature memory scan.romEntry
    · rw [ends_romTurn_gap inside signature, eq_comm, tested_eq_next]
      simp [inside, afterGap]
    · rw [ends_romTurn_image inside signature, @eq_comm _ (Control.next after), tested_eq_next]
      simp [inside, afterImage]
  · rw [ends_romTurn_behind (Nat.le_of_not_lt inside)]
    simp [inside]

/-! ### The places of the loop -/

/-- The values of the variables that point to headers. -/
structure Holds (garbage legacy : Nat) (scan : RomScan) (pcir legacyRomHeader : Option Nat) :
    Prop where
  pcir : scan.pcir = pcir.getD garbage
  legacyRomHeader : scan.legacyRomHeader = legacyRomHeader.getD legacy

theorem Holds.afterImage {garbage legacy : Nat} {pcir legacyRomHeader : Option Nat}
    (holds : Holds garbage legacy scan pcir legacyRomHeader) :
    Holds garbage legacy (afterImage memory romImage scan)
      (some (pcirAt memory scan.romEntry))
      (if codeType memory (pcirAt memory scan.romEntry) = 0 then some scan.romEntry
        else legacyRomHeader) := by
  refine ⟨rfl, ?_⟩
  rw [GetPciOprom.afterImage, holds.legacyRomHeader]
  split <;> rfl

/-- The loop comes to the visited places. -/
theorem Visited.comesTo {garbage romEntry : Nat} {pcir legacyRomHeader : Option Nat}
    (visited : Visited settings memory romImage romSize garbage romEntry pcir legacyRomHeader)
    (legacy : Nat) :
    ∃ scan, scan.romEntry = romEntry ∧ Holds garbage legacy scan pcir legacyRomHeader ∧
      ComesTo (romTurn settings memory romImage romSize) ⟨romImage, garbage, legacy, []⟩
        scan := by
  induction visited with
  | start => exact ⟨_, rfl, ⟨rfl, rfl⟩, ComesTo.start⟩
  | gap _ inside noSignature more ih =>
      obtain ⟨scan, rfl, holds, comes⟩ := ih
      rw [← holds.pcir] at more
      exact ⟨afterGap scan, rfl, ⟨holds.pcir, holds.legacyRomHeader⟩,
        comes.next (next_romTurn_iff.mpr ⟨inside, Or.inl ⟨noSignature, more, rfl⟩⟩)⟩
  | image _ inside signature shown more ih =>
      obtain ⟨scan, rfl, holds, comes⟩ := ih
      exact ⟨afterImage memory romImage scan, rfl, holds.afterImage,
        comes.next (next_romTurn_iff.mpr ⟨inside, Or.inr ⟨signature, shown, more, rfl⟩⟩)⟩

/-- The loop comes to visited places only. -/
theorem visited_of_comesTo {garbage legacy : Nat}
    (first : settings.assertEnabled = true → hasRomSignature memory romImage = true)
    (comes : ComesTo (romTurn settings memory romImage romSize)
      ⟨romImage, garbage, legacy, []⟩ scan) :
    ∃ pcir legacyRomHeader,
      Visited settings memory romImage romSize garbage scan.romEntry pcir legacyRomHeader ∧
        Holds garbage legacy scan pcir legacyRomHeader := by
  induction comes with
  | start => exact ⟨none, none, Visited.start first, rfl, rfl⟩
  | next _ ends ih =>
      obtain ⟨pcir, legacyRomHeader, visited, holds⟩ := ih
      obtain ⟨inside, ⟨noSignature, more, rfl⟩ | ⟨signature, shown, more, rfl⟩⟩ :=
        next_romTurn_iff.mp ends
      · rw [holds.pcir] at more
        exact ⟨pcir, legacyRomHeader, visited.gap inside noSignature more, holds.pcir,
          holds.legacyRomHeader⟩
      · exact ⟨_, _, visited.image inside signature shown more, holds.afterImage⟩

/-! ### The order of the images -/

theorem shown_of_romImages {images shown : List Nat} {romEntry : Nat}
    (rom : RomImages memory romImage romSize romEntry images) (place : scan.romEntry = romEntry)
    (ends : Ends (repeatTurns (romTurn settings memory romImage romSize) scan) shown) :
    shown = scan.shown ++ images := by
  induction rom generalizing scan with
  | done behind =>
      subst place
      rcases ends_repeatTurns_cases.mp ends with stops | ⟨after, next, _⟩
      · cases (ends_romTurn_behind behind).mp stops
        exact (List.append_nil _).symm
      · cases (ends_romTurn_behind behind).mp next
  | last inside signature _ marked =>
      subst place
      rcases ends_repeatTurns_cases.mp ends with stops | ⟨after, next, _⟩
      · obtain ⟨_, same⟩ := (ends_romTurn_image inside signature).mp stops
        exact (tested_eq_stop.mp same.symm).2
      · obtain ⟨_, same⟩ := (ends_romTurn_image inside signature).mp next
        exact absurd (marked.symm.trans (tested_eq_next.mp same.symm).1) (by decide)
  | next inside signature _ more _ ih =>
      subst place
      rcases ends_repeatTurns_cases.mp ends with stops | ⟨after, next, rest⟩
      · obtain ⟨_, same⟩ := (ends_romTurn_image inside signature).mp stops
        exact absurd (more.symm.trans (tested_eq_stop.mp same.symm).1) (by decide)
      · obtain ⟨_, same⟩ := (ends_romTurn_image inside signature).mp next
        obtain ⟨_, rfl⟩ := tested_eq_next.mp same.symm
        rw [ih rfl rest, afterImage, List.append_assoc, List.singleton_append]

/-! ### The end -/

@[simp] theorem ends_assertFirst {done : Unit} :
    Ends (assertFirst settings memory romImage) done ↔
      (settings.assertEnabled = true → hasRomSignature memory romImage = true) := by
  cases enabled : settings.assertEnabled <;> simp [assertFirst, enabled, hasRomSignature]

theorem ends_processPciRomImage {pcir legacyRomHeader : Nat} {shown : List Nat}
    (present : romImage ≠ 0) :
    Ends (processPciRomImage settings memory romImage romSize pcir legacyRomHeader) shown ↔
      (settings.assertEnabled = true → hasRomSignature memory romImage = true) ∧
        Ends (repeatTurns (romTurn settings memory romImage romSize)
          ⟨romImage, pcir, legacyRomHeader, []⟩) shown := by
  rw [processPciRomImage, if_neg present]
  simp

/-- A turn from a place whose image is left stops or leads on. -/
theorem romTurn_leaves (scan : RomScan)
    (leaves : scan.romEntry - romImage < romSize → hasRomSignature memory scan.romEntry = true →
      ImageShown settings memory scan.romEntry ∧
        (imageLength memory (pcirAt memory scan.romEntry) ≠ 0 ∨
          isLast memory (pcirAt memory scan.romEntry) = true)) :
    ∃ outcome, Ends (romTurn settings memory romImage romSize scan) outcome ∧
      ∀ after, outcome = .next after →
        romImage + romSize - after.romEntry < romImage + romSize - scan.romEntry := by
  by_cases inside : scan.romEntry - romImage < romSize
  · cases signature : hasRomSignature memory scan.romEntry
    · refine ⟨_, (ends_romTurn_gap inside signature).mpr rfl, fun after next => ?_⟩
      obtain ⟨_, rfl⟩ := tested_eq_next.mp next
      rw [afterGap]
      dsimp only
      omega
    · obtain ⟨shown, positive⟩ := leaves inside signature
      refine ⟨_, (ends_romTurn_image inside signature).mpr ⟨shown, rfl⟩, fun after next => ?_⟩
      obtain ⟨more, rfl⟩ := tested_eq_next.mp next
      have length := positive.resolve_right (ne_true_of_eq_false more)
      rw [afterImage]
      dsimp only
      omega
  · refine ⟨_, (ends_romTurn_behind (Nat.le_of_not_lt inside)).mpr rfl, fun after next => ?_⟩
    cases next

/-- An image without a length that is not marked last is shown again and again. -/
theorem not_ends_of_noLength (scan : RomScan)
    (signature : hasRomSignature memory scan.romEntry = true)
    (inside : scan.romEntry - romImage < romSize)
    (length : imageLength memory (pcirAt memory scan.romEntry) = 0)
    (more : isLast memory (pcirAt memory scan.romEntry) = false)
    (shown : ImageShown settings memory scan.romEntry) (result : List Nat) :
    ¬ Ends (repeatTurns (romTurn settings memory romImage romSize) scan) result := by
  refine not_ends_repeatTurns (fun state => state.romEntry = scan.romEntry) rfl ?_ result
  intro state same
  refine ⟨afterImage memory romImage state, next_romTurn_iff.mpr ?_, ?_⟩
  · rw [same]
    exact ⟨inside, Or.inr ⟨signature, shown, more, rfl⟩⟩
  · rw [afterImage, same, length, Nat.zero_mul, Nat.add_zero]

end Proofs

/-- The dump of a ROM ends and is right exactly when its images are left. -/
theorem processPciRomImage_dumps_iff :
    DumpsImages settings memory romImage romSize ↔
      (romImage ≠ 0 → LeavesImages settings memory romImage romSize) := by
  constructor
  · intro dumps present
    refine ⟨fun enabled => ?_, ?_⟩
    · obtain ⟨shown, ends⟩ := dumps.ends 0 0
      exact ((ends_processPciRomImage present).mp ends).1 enabled
    · intro garbage romEntry pcir legacyRomHeader visited inside signature
      obtain ⟨scan, rfl, _, comes⟩ := visited.comesTo 0
      obtain ⟨shown, ends⟩ := dumps.ends garbage 0
      obtain ⟨_, loopEnds⟩ := (ends_processPciRomImage present).mp ends
      obtain ⟨outcome, turnEnds⟩ := comes.exists_ends loopEnds
      obtain ⟨imageShown, _⟩ := (ends_romTurn_image inside signature).mp turnEnds
      refine ⟨imageShown, ?_⟩
      by_contra stays
      obtain ⟨length, more⟩ := not_or.mp stays
      exact not_ends_of_noLength scan signature inside (not_not.mp length)
        (eq_false_of_ne_true more) imageShown shown (comes.ends loopEnds)
  · intro leaves
    refine ⟨fun pcir legacyRomHeader => ?_, ?_⟩
    · by_cases present : romImage = 0
      · exact ⟨[], by simp [processPciRomImage, present]⟩
      · obtain ⟨first, images⟩ := leaves present
        have ends : ∃ shown, Ends (repeatTurns (romTurn settings memory romImage romSize)
            ⟨romImage, pcir, legacyRomHeader, []⟩) shown := by
          refine exists_ends_repeatTurns (fun scan => romImage + romSize - scan.romEntry) ?_
          intro scan comes
          obtain ⟨_, _, visited, _⟩ := visited_of_comesTo first comes
          exact romTurn_leaves scan (images _ _ _ _ visited)
        obtain ⟨shown, ends⟩ := ends
        exact ⟨shown, (ends_processPciRomImage present).mpr ⟨first, ends⟩⟩
    · intro pcir legacyRomHeader shown images ends present rom
      obtain ⟨_, loopEnds⟩ := (ends_processPciRomImage present).mp ends
      exact shown_of_romImages rom rfl loopEnds

end Images

/-- An image with the two signatures, a length of 0 and no mark. -/
def noLength : Memory :=
  Memory.ofBytesAt 0x1000
    ([0x55, 0xAA] ++ List.replicate 22 0 ++ [28, 0, 0, 0, 0x50, 0x43, 0x49, 0x52])

def noServices : RomSettings where
  assertEnabled := true
  save := false
  locateDecompress := false
  decompress _ := false

theorem processPciRomImage_noLength : ¬ DumpsImages noServices noLength 0x1000 512 := by
  intro dumps
  obtain ⟨shown, ends⟩ := dumps.ends 0 0
  obtain ⟨_, loopEnds⟩ := (ends_processPciRomImage (by decide)).mp ends
  have image : ImageShown noServices noLength 0x1000 :=
    ⟨fun _ => by decide, fun listed => absurd listed (by decide),
      fun efi => absurd efi (by decide)⟩
  exact not_ends_of_noLength ⟨0x1000, 0, 0, []⟩ (by decide) (by decide) (by decide)
    (by decide) image shown loopEnds

end AppEfi.GetPciOprom
