import AppEfi.HobList.InitializeHobList

/-!
# The HOBs that are listed

On a list in its format every section is a pass over all HOBs, and what it reads of a HOB of its
type is what was stored in it.
-/

set_option autoImplicit false

namespace AppEfi.HobList

open AppEfi.Fields
open AppEfi.RecordWalk

section Hobs

variable {guids : AllocationGuids} {memory : Memory} {hobList position fuel : Nat}
variable {hobs : List Hob} {hob : Hob}

theorem Hob.length_encode (hob : Hob) : hob.encode.length = hob.length := by
  rw [Hob.encode, List.length_append, Fields.length_encode, Hob.length, Hob.allFields]
  simp only [List.cons_append, List.nil_append, size]
  omega

theorem holds_of_mem_placed (held : memory.Holds hobList (hobs.flatMap Hob.encode))
    {entry : Nat × Hob} (member : entry ∈ placed Hob.length hobList hobs) :
    memory.Holds entry.1 entry.2.encode := by
  induction hobs generalizing hobList with
  | nil => cases member
  | cons hob rest ih =>
      rw [List.flatMap_cons, Memory.holds_append, Hob.length_encode] at held
      rcases List.mem_cons.mp member with rfl | member
      · exact held.1
      · exact ih held.2 member

/-- Every load of a field gives what was stored. -/
theorem Hob.loads (held : memory.Holds position hob.encode) (valid : hob.Valid guids) :
    ∀ place ∈ places 0 hob.allFields,
      memory.readLe (position + place.1) place.2.width = place.2.value :=
  readLe_of_holds held valid.fits

theorem Hob.loads_header (held : memory.Holds position hob.encode) (valid : hob.Valid guids) :
    hobTypeAt memory position = hob.body.hobType ∧
      hobLengthAt memory position = hob.length := by
  have loads := hob.loads held valid
  rw [Hob.allFields, List.cons_append, places, List.forall_mem_cons] at loads
  obtain ⟨hobType, loads⟩ := loads
  rw [List.cons_append, places, List.forall_mem_cons] at loads
  exact ⟨hobType, loads.1⟩

theorem Hob.loads_body (held : memory.Holds position hob.encode) (valid : hob.Valid guids) :
    ∀ place ∈ places 8 hob.body.fields,
      memory.readLe (position + place.1) place.2.width = place.2.value :=
  fun place member => hob.loads held valid place
    (List.mem_cons_of_mem _ (List.mem_cons_of_mem _ (List.mem_cons_of_mem _ member)))

/-- The types that the code has a section for, and the end of the list. -/
def knownTypes : List Nat :=
  [typeMemoryAllocation, typeResourceDescriptor, typeFv, typeCpu, typeFv2, typeUefiCapsule,
    typeEndOfHobList]

theorem Hob.not_end (valid : hob.Valid guids) : hob.body.hobType ≠ typeEndOfHobList := by
  obtain ⟨body, behind⟩ := hob
  intro same
  cases body with
  | other hobType =>
      have unknown : hobType ∉ knownTypes := valid.body
      rw [show hobType = typeEndOfHobList from same] at unknown
      exact unknown (by decide)
  | _ => cases same

/-! ## One HOB -/

/-- What a section prints at a HOB of its type is the line of the HOB. -/
def Shows (memory : Memory) (guids : AllocationGuids) (hobType : Nat)
    (lines : Nat → List Line) : Prop :=
  ∀ position (hob : Hob), memory.Holds position hob.encode → hob.Valid guids →
    hob.body.hobType = hobType → lines position = (hob.body.line guids).toList

/-- A section shows its HOBs when it does so for the structures that have its type. -/
theorem shows_of_known {hobType : Nat} {lines : Nat → List Line} (known : hobType ∈ knownTypes)
    (shows : ∀ position (hob : Hob), (∀ place ∈ places 8 hob.body.fields,
        memory.readLe (position + place.1) place.2.width = place.2.value) →
      hob.body.Valid guids → (∀ other, hob.body ≠ .other other) → hob.body.hobType = hobType →
      lines position = (hob.body.line guids).toList) : Shows memory guids hobType lines := by
  intro position hob held valid same
  refine shows position hob (hob.loads_body held valid) valid.body ?_ same
  intro other body
  have unknown := valid.body
  rw [body] at unknown same
  exact unknown (by rwa [show other = hobType from same])

theorem shows_cpu : Shows memory guids typeCpu (cpuLines memory) := by
  refine shows_of_known (by decide) ?_
  rintro position ⟨body, behind⟩ loads valid known same
  cases body with
  | cpu sizeOfMemorySpace sizeOfIoSpace =>
      simp only [Body.fields, places, List.forall_mem_cons] at loads
      rw [cpuLines, loads.1, loads.2.1]
      rfl
  | other hobType => exact absurd rfl (known hobType)
  | _ => cases same

theorem shows_resource :
    Shows memory guids typeResourceDescriptor (resourceLines memory) := by
  refine shows_of_known (by decide) ?_
  rintro position ⟨body, behind⟩ loads valid known same
  cases body with
  | resourceDescriptor owner resourceType resourceAttribute physicalStart resourceLength =>
      simp only [Body.fields, places, List.forall_mem_cons] at loads
      rw [resourceLines, loads.2.1, loads.2.2.1, loads.2.2.2.1, loads.2.2.2.2.1]
      rfl
  | other hobType => exact absurd rfl (known hobType)
  | _ => cases same

theorem shows_fv : Shows memory guids typeFv (rangeLines memory) := by
  refine shows_of_known (by decide) ?_
  rintro position ⟨body, behind⟩ loads valid known same
  cases body with
  | firmwareVolume baseAddress length =>
      simp only [Body.fields, places, List.forall_mem_cons] at loads
      rw [rangeLines, loads.1, loads.2.1]
      rfl
  | other hobType => exact absurd rfl (known hobType)
  | _ => cases same

theorem shows_uefiCapsule : Shows memory guids typeUefiCapsule (rangeLines memory) := by
  refine shows_of_known (by decide) ?_
  rintro position ⟨body, behind⟩ loads valid known same
  cases body with
  | uefiCapsule baseAddress length =>
      simp only [Body.fields, places, List.forall_mem_cons] at loads
      rw [rangeLines, loads.1, loads.2.1]
      rfl
  | other hobType => exact absurd rfl (known hobType)
  | _ => cases same

theorem shows_fv2 : Shows memory guids typeFv2 (firmwareVolume2Lines memory) := by
  refine shows_of_known (by decide) ?_
  rintro position ⟨body, behind⟩ loads valid known same
  cases body with
  | firmwareVolume2 baseAddress length fvName fileName =>
      simp only [Body.fields, places, List.forall_mem_cons] at loads
      rw [firmwareVolume2Lines, loads.1, loads.2.1, loads.2.2.1, loads.2.2.2.1]
      rfl
  | other hobType => exact absurd rfl (known hobType)
  | _ => cases same

/-- A name that is not a module's. -/
theorem ownerAt_of_name {name : Nat} (load : memory.readLe (position + 8) 16 = name)
    (noModule : ¬ NamesModule guids name) : ownerAt memory guids position = ownerOf guids name := by
  rw [ownerAt, ownerOf, load]
  split
  · rfl
  · split
    · rfl
    · split
      · rfl
      · next nonzero noStack noBspStore =>
          exact if_neg fun same => noModule ⟨nonzero, noStack, noBspStore, same⟩

theorem ownerAt_of_module {name : Nat} (load : memory.readLe (position + 8) 16 = name)
    (named : NamesModule guids name) :
    ownerAt memory guids position =
      .loaded (memory.readLe (position + 48) 16) (memory.readLe (position + 64) 8) := by
  obtain ⟨nonzero, noStack, noBspStore, same⟩ := named
  rw [ownerAt, load, if_neg nonzero, if_neg noStack, if_neg noBspStore, if_pos same]

theorem shows_allocation :
    Shows memory guids typeMemoryAllocation (allocationLines memory guids) := by
  refine shows_of_known (by decide) ?_
  rintro position ⟨body, behind⟩ loads valid known same
  cases body with
  | memoryAllocation name memoryBaseAddress memoryLength memoryType =>
      simp only [Body.fields, Body.allocationFields, places, List.forall_mem_cons] at loads
      rw [allocationLines, loads.2.1, loads.2.2.1, loads.2.2.2.1, ownerAt_of_name loads.1 valid]
      rfl
  | memoryAllocationModule name memoryBaseAddress memoryLength memoryType moduleName entryPoint =>
      simp only [Body.fields, Body.allocationFields, List.cons_append, List.nil_append, places,
        List.forall_mem_cons] at loads
      rw [allocationLines, loads.2.1, loads.2.2.1, loads.2.2.2.1, ownerAt_of_module loads.1 valid,
        loads.2.2.2.2.2.1, loads.2.2.2.2.2.2.1]
      rfl
  | other hobType => exact absurd rfl (known hobType)
  | _ => cases same

/-! ## The sections -/

theorem listHobs_stored (stored : Stored guids memory hobList hobs) {hobType : Nat}
    {lines : Nat → List Line} (shows : Shows memory guids hobType lines)
    (enough : hobs.length ≤ fuel) :
    listHobs memory hobType lines fuel hobList = some (sectionOf guids hobType hobs) := by
  rw [listHobs, whileLoop_records _ _ _ Hob.length hobs,
    foldl_starts _ _ fun printed hob => printed ++
      if hob.body.hobType = hobType then (hob.body.line guids).toList else []]
  · rw [← List.flatMap_eq_foldl, sectionOf, List.filterMap_filter, List.filterMap_eq_flatMap_toList]
    simp only [Option.map_some, Option.some.injEq]
    congr 1
    funext hob
    by_cases same : hob.body.hobType = hobType
    · simp [same]
    · simp [same]
  · intro entry member printed
    have held := holds_of_mem_placed stored.held member
    have valid := stored.valid entry.2 (mem_of_mem_placed member)
    rw [(entry.2.loads_header held valid).1]
    by_cases same : entry.2.body.hobType = hobType
    · rw [if_pos same, if_pos same, shows entry.1 entry.2 held valid same]
    · rw [if_neg same, if_neg same]
  · intro entry member
    have held := holds_of_mem_placed stored.held member
    have valid := stored.valid entry.2 (mem_of_mem_placed member)
    obtain ⟨hobType, length⟩ := entry.2.loads_header held valid
    rw [endOfHobList, hobType, getNextHob, length]
    exact ⟨by simpa using entry.2.not_end valid, rfl⟩
  · rw [endOfHobList, stored.ends]
    rfl
  · exact enough

/-- A list is shown section by section: of the HOBs that the sections are for each is shown once,
in the order of the list, and no other. -/
theorem initializeHobList_stored (guids : AllocationGuids) (memory : Memory) (hobList : Nat)
    (version : Nat) (phit : Phit) (behind : List UInt8) (hobs : List Hob)
    (stored : Stored guids memory hobList (⟨.handoff version phit, behind⟩ :: hobs)) (fuel : Nat)
    (enough : hobs.length < fuel) :
    initializeHobList memory guids fuel (some hobList) = some
      (.title "PHIT HOB" :: .phit hobList phit ::
        .title "CPU HOBs" :: sectionOf guids typeCpu hobs ++
        .title "Resource Descriptor HOBs" :: sectionOf guids typeResourceDescriptor hobs ++
        .title "FV HOBs" :: sectionOf guids typeFv hobs ++
        .title "FV2 HOBs" :: sectionOf guids typeFv2 hobs ++
        .title "Memory Allocation HOBs" :: sectionOf guids typeMemoryAllocation hobs ++
        .title "Capsule HOBs" :: sectionOf guids typeUefiCapsule hobs) := by
  have member : (hobList, (⟨.handoff version phit, behind⟩ : Hob)) ∈
      placed Hob.length hobList (⟨.handoff version phit, behind⟩ :: hobs) := List.mem_cons_self
  have head := holds_of_mem_placed stored.held member
  have loads := Hob.loads_body head (stored.valid _ List.mem_cons_self)
  simp only [Body.fields, places, List.forall_mem_cons] at loads
  have phitRead : phitAt memory hobList = phit := by
    rw [phitAt, loads.2.1, loads.2.2.1, loads.2.2.2.1, loads.2.2.2.2.1, loads.2.2.2.2.2.1,
      loads.2.2.2.2.2.2.1]
  have others (hobType : Nat) (isOther : typeHandoff ≠ hobType) :
      sectionOf guids hobType (⟨.handoff version phit, behind⟩ :: hobs) =
        sectionOf guids hobType hobs := by
    rw [sectionOf, List.filter_cons_of_neg (by rw [decide_eq_true_eq]; exact isOther), sectionOf]
  rw [initializeHobList, listHobs_stored stored shows_cpu enough,
    listHobs_stored stored shows_resource enough, listHobs_stored stored shows_fv enough,
    listHobs_stored stored shows_fv2 enough, listHobs_stored stored shows_allocation enough,
    listHobs_stored stored shows_uefiCapsule enough, others typeCpu (by decide),
    others typeResourceDescriptor (by decide), others typeFv (by decide),
    others typeFv2 (by decide), others typeMemoryAllocation (by decide),
    others typeUefiCapsule (by decide), phitRead]
  rfl

end Hobs

def smallPhit : Phit := ⟨0, 0x9000, 0x1000, 0x8000, 0x2000, 0x1060⟩

/-- A HOB that no section is for between a module and a CPU HOB with bytes behind it. -/
def smallHobs : List Hob :=
  [⟨.memoryAllocationModule 3 0x4000 0x2000 3 0x77 0x4240, []⟩,
    ⟨.other 4, [1, 2, 3, 4, 5, 6, 7, 8]⟩,
    ⟨.cpu 36 16, [0, 0, 0, 0, 0, 0, 0, 0]⟩]

def smallMemory : Memory :=
  Memory.ofBytesAt 0x1000 ((⟨.handoff 9 smallPhit, []⟩ :: smallHobs).flatMap Hob.encode ++
    [0xFF, 0xFF, 8, 0, 0, 0, 0, 0])

theorem smallHobs_stored :
    Stored ⟨1, 2, 3⟩ smallMemory 0x1000 (⟨.handoff 9 smallPhit, []⟩ :: smallHobs) where
  held := ((Memory.holds_append ..).mp (Memory.holds_ofBytesAt _ _)).1
  valid := by
    intro hob member
    simp only [smallHobs, List.mem_cons, List.not_mem_nil, or_false] at member
    rcases member with rfl | rfl | rfl | rfl
    · exact ⟨by decide, trivial⟩
    · exact ⟨by decide, (by decide : NamesModule _ _)⟩
    · exact ⟨by decide, (by decide : 4 ∉ knownTypes)⟩
    · exact ⟨by decide, trivial⟩
  ends := by decide

theorem initializeHobList_smallHobs :
    initializeHobList smallMemory ⟨1, 2, 3⟩ 4 (some 0x1000) = some
      [.title "PHIT HOB", .phit 0x1000 smallPhit,
        .title "CPU HOBs", .cpu 36 16,
        .title "Resource Descriptor HOBs",
        .title "FV HOBs",
        .title "FV2 HOBs",
        .title "Memory Allocation HOBs",
        .allocation 0x4000 0x2000 (.name "BS_Code") (.loaded 0x77 0x4240),
        .title "Capsule HOBs"] :=
  initializeHobList_stored ⟨1, 2, 3⟩ smallMemory 0x1000 9 smallPhit [] smallHobs smallHobs_stored 4
    (by decide)

end AppEfi.HobList
