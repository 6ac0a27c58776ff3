import AppEfi.EsrtFmpDump.CapsuleVolumes

/-!
# The capsules that are shown

From the HOB list to the image headers: each capsule volume once and in order, with each item of
an FMP capsule, wherever the items lie.
-/

set_option autoImplicit false

namespace AppEfi.Fmp

open AppEfi.Fields
open AppEfi.HobList (Hob Body Stored hobTypeAt hobLengthAt endOfHobList getNextHob
  typeUefiCapsule typeEndOfHobList AllocationGuids)
open AppEfi.RecordWalk

section Structures

variable {memory : Memory} {address : Nat} {fields : List Field}

theorem Lies.loads (lies : Lies memory address fields) :
    ∀ place ∈ places 0 fields,
      memory.readLe (address + place.1) place.2.width = place.2.value :=
  readLe_places lies.held lies.fits

theorem Lies.head {field : Field} (lies : Lies memory address (field :: fields)) :
    memory.readLe address field.width = field.value :=
  lies.loads (0, field) List.mem_cons_self

theorem Lies.tail {field : Field} (lies : Lies memory address (field :: fields)) :
    Lies memory (address + field.width) fields := by
  have held := lies.held
  rw [encode_cons, Memory.holds_append, LittleEndian.length_toBytes] at held
  exact ⟨held.2, fun other member => lies.fits other (List.mem_cons_of_mem _ member)⟩

end Structures

section Capsules

variable {memory : Memory} {constants : CapsuleConstants} {address index : Nat}

theorem dumpImageHeader_lies {header : ImageHeader}
    (lies : Lies memory address (header.fields constants)) :
    dumpImageHeader memory constants address = header.lines constants := by
  have loads := lies.loads
  simp only [ImageHeader.fields, List.cons_append, List.nil_append, places,
    List.forall_mem_cons] at loads
  obtain ⟨version, typeId, imageIndex, -, imageSize, vendorCodeSize, behind⟩ := loads
  rw [Nat.add_zero] at version
  rw [dumpImageHeader, ImageHeader.lines, version, typeId, imageIndex, imageSize, vendorCodeSize]
  by_cases later : constants.initVersion ≤ header.version
  · rw [if_pos later] at behind
    rw [if_pos later, if_pos later, behind _ List.mem_cons_self]
  · rw [if_neg later, if_neg later]

/-- The offsets of the drivers, which the payloads' follow. -/
theorem driverLines_lies {drivers : List Nat} {others : List Field}
    (lies : Lies memory (address + 8 + 8 * index)
      (drivers.map (fun offset => ⟨8, offset⟩) ++ others)) :
    (List.range' index drivers.length).map
        (fun index => .itemOffset index (itemOffsetAt memory address index)) =
      driverLines index drivers ∧
    Lies memory (address + 8 + 8 * (index + drivers.length)) others := by
  induction drivers generalizing index with
  | nil => exact ⟨rfl, lies⟩
  | cons offset rest ih =>
      have here : itemOffsetAt memory address index = offset := lies.head
      obtain ⟨lines, behind⟩ := @ih (index + 1) lies.tail
      rw [List.length_cons, List.range'_succ, List.map_cons, lines, here, driverLines]
      have place : index + 1 + rest.length = index + (rest.length + 1) := by omega
      exact ⟨rfl, place ▸ behind⟩

theorem payloadLines_lies {payloads : List (Nat × ImageHeader)}
    (lies : Lies memory (address + 8 + 8 * index)
      (payloads.map fun payload => ⟨8, payload.1⟩))
    (headers : ∀ payload ∈ payloads, Lies memory (address + payload.1)
      (payload.2.fields constants)) :
    (List.range' index payloads.length).flatMap (fun index =>
        .itemOffset index (itemOffsetAt memory address index) ::
          dumpImageHeader memory constants (address + itemOffsetAt memory address index)) =
      payloadLines constants index payloads := by
  induction payloads generalizing index with
  | nil => rfl
  | cons payload rest ih =>
      have here : itemOffsetAt memory address index = payload.1 := lies.head
      rw [List.length_cons, List.range'_succ, List.flatMap_cons, here,
        dumpImageHeader_lies (headers payload List.mem_cons_self),
        @ih (index + 1) lies.tail fun other member => headers other (List.mem_cons_of_mem _ member)]
      rfl

theorem dumpFmpCapsule_lies {headerSize version : Nat} {drivers : List Nat}
    {payloads : List (Nat × ImageHeader)}
    (size : memory.readLe (address + 16) 4 = headerSize)
    (lies : LiesFmp constants memory (address + headerSize) version drivers payloads) :
    dumpFmpCapsule memory constants address =
      (Content.fmp version drivers payloads).lines constants := by
  have loads := lies.header.loads
  simp only [fmpFields, places, List.forall_mem_cons] at loads
  obtain ⟨versionRead, driverCount, payloadCount, -⟩ := loads
  rw [Nat.add_zero] at versionRead
  have items := lies.items
  rw [itemFields, List.map_append, List.map_map] at items
  obtain ⟨driversShown, behind⟩ := @driverLines_lies memory (address + headerSize) 0 _ _ items
  rw [Nat.zero_add] at behind
  rw [dumpFmpCapsule, size, versionRead, driverCount, payloadCount, driversShown,
    payloadLines_lies behind lies.payloads, Content.lines]

theorem dumpWindowsUxCapsule_lies {version checksum imageType mode offsetX offsetY : Nat}
    (lies : Lies memory (address + 28)
      (windowsUxFields version checksum imageType mode offsetX offsetY)) :
    dumpWindowsUxCapsule memory address =
      (Content.windowsUx version checksum imageType mode offsetX offsetY).lines constants := by
  have loads := lies.loads
  simp only [windowsUxFields, places, List.forall_mem_cons] at loads
  obtain ⟨versionRead, checksumRead, imageTypeRead, -, modeRead, xRead, yRead, -⟩ := loads
  rw [Nat.add_zero] at versionRead
  rw [dumpWindowsUxCapsule, versionRead, checksumRead, imageTypeRead, modeRead, xRead, yRead,
    Content.lines]

/-- The part of the dump that depends on the GUID. -/
theorem content_lies {content : Content} {headerSize : Nat}
    (size : memory.readLe (address + 16) 4 = headerSize)
    (lies : content.Lies constants memory address headerSize) :
    (if content.guid constants = constants.windowsUx then dumpWindowsUxCapsule memory address
      else if content.guid constants = constants.fmp then dumpFmpCapsule memory constants address
        else []) =
      content.lines constants := by
  cases content with
  | windowsUx version checksum imageType mode offsetX offsetY =>
      rw [Content.guid, if_pos rfl]
      exact dumpWindowsUxCapsule_lies lies
  | fmp version drivers payloads =>
      obtain ⟨other, fmp⟩ := lies
      rw [Content.guid, if_neg other, if_pos rfl]
      exact dumpFmpCapsule_lies size fmp
  | unknown guid =>
      obtain ⟨noUx, noFmp⟩ := lies
      rw [Content.guid, if_neg noUx, if_neg noFmp, Content.lines]

theorem dumpCapsuleVolumeHob_lies {capsule : Capsule} {hob : Nat}
    (base : memory.readLe (hob + 8) 8 = address) (lies : capsule.Lies constants memory address) :
    dumpCapsuleVolumeHob memory constants hob = capsule.lines constants := by
  have loads := lies.header.loads
  simp only [Capsule.headerFields, places, List.forall_mem_cons] at loads
  obtain ⟨guid, size, flags, imageSize, -⟩ := loads
  rw [Nat.add_zero] at guid
  rw [dumpCapsuleVolumeHob, base, guid, size, flags, imageSize, content_lies size lies.content,
    Capsule.lines]

end Capsules

/-! ## The list of volumes -/

def volumeOf (hob : Hob) : Option (Nat × Nat) :=
  match hob.body with
  | .uefiCapsule baseAddress length => some (baseAddress, length)
  | _ => none

/-- The volumes with consecutive numbers, and the capsule at each. -/
def volumeLines (constants : CapsuleConstants) (capsuleAt : Nat → Capsule) :
    Nat → List (Nat × Nat) → List CapsuleLine
  | _, [] => []
  | index, (baseAddress, length) :: rest =>
      .volumeHob index baseAddress length ::
        (capsuleAt baseAddress).lines constants ++ volumeLines constants capsuleAt (index + 1) rest

section Volumes

variable {memory : Memory} {constants : CapsuleConstants} {allocations : AllocationGuids}
variable {position fuel bound : Nat} {hob : Hob} {hobs : List Hob} {capsuleAt : Nat → Capsule}

theorem stored_tail (stored : Stored allocations memory position (hob :: hobs)) :
    Stored allocations memory (position + hob.length) hobs where
  held := by
    have held := stored.held
    rw [List.flatMap_cons, Memory.holds_append, Hob.length_encode] at held
    exact held.2
  valid other member := stored.valid other (List.mem_cons_of_mem _ member)
  ends := by
    have ends := stored.ends
    rwa [total_cons, ← Nat.add_assoc] at ends

theorem stored_head (stored : Stored allocations memory position (hob :: hobs)) :
    memory.Holds position hob.encode ∧ hob.Valid allocations := by
  have held := stored.held
  rw [List.flatMap_cons, Memory.holds_append] at held
  exact ⟨held.1, stored.valid hob List.mem_cons_self⟩

theorem getNextHobOf_nil (stored : Stored allocations memory position []) :
    getNextHobOf memory typeUefiCapsule (fuel + 1) position = some none := by
  have ends := stored.ends
  rw [total_nil, Nat.add_zero] at ends
  rw [getNextHobOf, endOfHobList, ends]
  rfl

/-- A search at a capsule HOB finds it. -/
theorem getNextHobOf_here (stored : Stored allocations memory position (hob :: hobs))
    (capsule : hob.body.hobType = typeUefiCapsule) :
    getNextHobOf memory typeUefiCapsule (fuel + 1) position = some (some position) := by
  obtain ⟨held, valid⟩ := stored_head stored
  rw [getNextHobOf, endOfHobList, (hob.loads_header held valid).1, capsule]
  rfl

/-- A search at another HOB goes on behind it. -/
theorem getNextHobOf_skip (stored : Stored allocations memory position (hob :: hobs))
    (other : hob.body.hobType ≠ typeUefiCapsule) :
    getNextHobOf memory typeUefiCapsule (fuel + 1) position =
      getNextHobOf memory typeUefiCapsule fuel (position + hob.length) := by
  obtain ⟨held, valid⟩ := stored_head stored
  obtain ⟨hobType, length⟩ := hob.loads_header held valid
  have goesOn : endOfHobList memory position = false := by
    rw [endOfHobList, hobType]
    simpa using hob.not_end valid
  rw [getNextHobOf, goesOn, hobType, if_neg Bool.false_ne_true, if_neg other, getNextHob, length]

/-- What a search finds does not depend on its bound. -/
theorem getNextHobOf_enough (stored : Stored allocations memory position hobs)
    (enough : hobs.length < fuel) (more : fuel ≤ bound) :
    getNextHobOf memory typeUefiCapsule fuel position =
      getNextHobOf memory typeUefiCapsule bound position := by
  induction hobs generalizing position fuel bound with
  | nil =>
      obtain ⟨fuel, rfl⟩ := Nat.exists_eq_succ_of_ne_zero (Nat.ne_zero_of_lt enough)
      obtain ⟨bound, rfl⟩ := Nat.exists_eq_succ_of_ne_zero
        (Nat.ne_zero_of_lt (Nat.lt_of_lt_of_le enough more))
      rw [getNextHobOf_nil stored, getNextHobOf_nil stored]
  | cons hob rest ih =>
      obtain ⟨fuel, rfl⟩ := Nat.exists_eq_succ_of_ne_zero (Nat.ne_zero_of_lt enough)
      obtain ⟨bound, rfl⟩ := Nat.exists_eq_succ_of_ne_zero
        (Nat.ne_zero_of_lt (Nat.lt_of_lt_of_le enough more))
      by_cases capsule : hob.body.hobType = typeUefiCapsule
      · rw [getNextHobOf_here stored capsule, getNextHobOf_here stored capsule]
      · rw [getNextHobOf_skip stored capsule, getNextHobOf_skip stored capsule]
        exact ih (stored_tail stored) (Nat.lt_of_succ_lt_succ enough) (Nat.le_of_succ_le_succ more)

/-- A search from a HOB that is no capsule's is one from the HOB behind it. -/
theorem getNextHobOf_other (stored : Stored allocations memory position (hob :: hobs))
    (other : hob.body.hobType ≠ typeUefiCapsule) (bounded : (hob :: hobs).length < bound) :
    getNextHobOf memory typeUefiCapsule bound position =
      getNextHobOf memory typeUefiCapsule bound (position + hob.length) := by
  obtain ⟨bound, rfl⟩ := Nat.exists_eq_succ_of_ne_zero (Nat.ne_zero_of_lt bounded)
  rw [getNextHobOf_skip stored other]
  exact getNextHobOf_enough (stored_tail stored) (Nat.lt_of_succ_lt_succ bounded) (Nat.le_succ _)

theorem volumeOf_none (other : hob.body.hobType ≠ typeUefiCapsule) : volumeOf hob = none := by
  obtain ⟨body, behind⟩ := hob
  cases body with
  | uefiCapsule baseAddress length => exact absurd rfl other
  | _ => rfl

/-- A HOB of the type has the structure of a capsule HOB, and it is read from it. -/
theorem volume_of_type (stored : Stored allocations memory position (hob :: hobs))
    (capsule : hob.body.hobType = typeUefiCapsule) :
    ∃ baseAddress length, volumeOf hob = some (baseAddress, length) ∧
      memory.readLe (position + 8) 8 = baseAddress ∧
      memory.readLe (position + 16) 8 = length := by
  obtain ⟨held, valid⟩ := stored_head stored
  have loads := hob.loads_body held valid
  have known := valid.body
  obtain ⟨body, behind⟩ := hob
  cases body with
  | uefiCapsule baseAddress length =>
      simp only [Body.fields, places, List.forall_mem_cons] at loads
      exact ⟨baseAddress, length, rfl, loads.1, loads.2.1⟩
  | other hobType =>
      rw [show hobType = typeUefiCapsule from capsule] at known
      exact absurd (by decide) known
  | _ => cases capsule

theorem dumpVolumesFrom_stored (stored : Stored allocations memory position hobs)
    (lie : ∀ hob ∈ hobs, ∀ baseAddress length, volumeOf hob = some (baseAddress, length) →
      (capsuleAt baseAddress).Lies constants memory baseAddress)
    (enough : hobs.length < fuel) (bounded : hobs.length < bound) (index : Nat) :
    dumpVolumesFrom memory constants bound fuel index position =
      some (volumeLines constants capsuleAt index (hobs.filterMap volumeOf)) := by
  induction hobs generalizing position fuel index with
  | nil =>
      obtain ⟨fuel, rfl⟩ := Nat.exists_eq_succ_of_ne_zero (Nat.ne_zero_of_lt enough)
      obtain ⟨bound, rfl⟩ := Nat.exists_eq_succ_of_ne_zero (Nat.ne_zero_of_lt bounded)
      rw [dumpVolumesFrom, getNextHobOf_nil stored]
      rfl
  | cons hob rest ih =>
      obtain ⟨fuel, rfl⟩ := Nat.exists_eq_succ_of_ne_zero (Nat.ne_zero_of_lt enough)
      have behind := stored_tail stored
      have lieRest := fun other member => lie other (List.mem_cons_of_mem hob member)
      have shorter : rest.length < bound := Nat.lt_of_succ_lt bounded
      by_cases capsule : hob.body.hobType = typeUefiCapsule
      · obtain ⟨baseAddress, length, volume, base, lengthRead⟩ := volume_of_type stored capsule
        obtain ⟨held, valid⟩ := stored_head stored
        obtain ⟨bound, rfl⟩ := Nat.exists_eq_succ_of_ne_zero (Nat.ne_zero_of_lt bounded)
        rw [dumpVolumesFrom, getNextHobOf_here stored capsule]
        dsimp only
        rw [getNextHob, (hob.loads_header held valid).2,
          ih behind lieRest (Nat.lt_of_succ_lt_succ enough) shorter, List.filterMap_cons, volume,
          base, lengthRead,
          dumpCapsuleVolumeHob_lies base (lie hob List.mem_cons_self _ _ volume)]
        rfl
      · have skip : dumpVolumesFrom memory constants bound (fuel + 1) index position =
            dumpVolumesFrom memory constants bound (fuel + 1) index (position + hob.length) := by
          rw [dumpVolumesFrom, getNextHobOf_other stored capsule bounded, dumpVolumesFrom]
        rw [skip, ih behind lieRest (Nat.lt_of_succ_lt enough) shorter, List.filterMap_cons,
          volumeOf_none capsule]

/-- The dump of the capsule volumes of a HOB list, each with a capsule in its format at its base
address. -/
theorem dumpCapsuleVolumeHobData_stored (constants : CapsuleConstants)
    (allocations : AllocationGuids) (memory : Memory) (hobList : Nat) (hobs : List Hob)
    (capsuleAt : Nat → Capsule)
    (stored : Stored allocations memory hobList hobs)
    (lie : ∀ hob ∈ hobs, ∀ baseAddress length, volumeOf hob = some (baseAddress, length) →
      (capsuleAt baseAddress).Lies constants memory baseAddress)
    (fuel : Nat) (enough : hobs.length < fuel) :
    dumpCapsuleVolumeHobData memory constants fuel hobList =
      some (volumeLines constants capsuleAt 0 (hobs.filterMap volumeOf)) :=
  dumpVolumesFrom_stored stored lie enough enough 0

end Volumes

/-- One capsule volume, of which the capsule has a driver and the two kinds of image headers. -/
def oneVolume : List Hob :=
  [⟨.handoff 9 ⟨0, 0, 0, 0, 0, 0⟩, []⟩, ⟨.uefiCapsule 0x1058 0x90, []⟩]

def twoPayloads : List (Nat × ImageHeader) :=
  [(40, ⟨1, 0x11, 1, 64, 0, 0⟩), (72, ⟨2, 0x22, 2, 32, 8, 5⟩)]

def oneCapsule : Capsule := ⟨32, 0x50000, 0x90, .fmp 1 [32] twoPayloads⟩

def volumeConstants : CapsuleConstants := ⟨4, 5, fun _ => false, 2⟩

def volumeMemory : Memory :=
  Memory.ofBytesAt 0x1000 (oneVolume.flatMap Hob.encode ++ [0xFF, 0xFF, 8, 0, 0, 0, 0, 0] ++
    encode (oneCapsule.headerFields volumeConstants) ++ [0, 0, 0, 0] ++
    encode (fmpFields 1 [32] twoPayloads) ++ encode (itemFields [32] twoPayloads) ++
    [1, 2, 3, 4, 5, 6, 7, 8] ++
    twoPayloads.flatMap fun payload => encode (payload.2.fields volumeConstants))

theorem oneVolume_stored : Stored ⟨1, 2, 3⟩ volumeMemory 0x1000 oneVolume where
  held := by decide
  valid := by
    intro hob member
    simp only [oneVolume, List.mem_cons, List.not_mem_nil, or_false] at member
    rcases member with rfl | rfl
    · exact ⟨by decide, trivial⟩
    · exact ⟨by decide, trivial⟩
  ends := by decide

theorem oneCapsule_lies : oneCapsule.Lies volumeConstants volumeMemory 0x1058 where
  header := ⟨by decide, by decide⟩
  content := by
    refine ⟨by decide, ⟨by decide, by decide⟩, ⟨by decide, by decide⟩, ?_⟩
    intro payload member
    simp only [twoPayloads, List.mem_cons, List.not_mem_nil, or_false] at member
    rcases member with rfl | rfl
    · exact ⟨by decide, by decide⟩
    · exact ⟨by decide, by decide⟩

theorem dumpCapsuleVolumeHobData_oneVolume :
    dumpCapsuleVolumeHobData volumeMemory volumeConstants 3 0x1000 = some
      [.volumeHob 0 0x1058 0x90, .banner, .header 5 "UEFI FMP Capsule" 32 0x50000 0x90,
        .persistAcrossReset 0x10000, .populateSystemTable 0, .initiateReset 0x40000,
        .fmpCapsule 1 1 2, .itemOffset 0 32,
        .itemOffset 1 40, .imageHeader 1 0x11 1 64 0,
        .itemOffset 2 72, .imageHeader 2 0x22 2 32 8, .updateHardwareInstance 5, .blank] := by
  refine dumpCapsuleVolumeHobData_stored volumeConstants ⟨1, 2, 3⟩ volumeMemory 0x1000 oneVolume
    (fun _ => oneCapsule) oneVolume_stored ?_ 3 (by decide)
  intro hob member baseAddress length volume
  simp only [oneVolume, List.mem_cons, List.not_mem_nil, or_false] at member
  rcases member with rfl | rfl
  · cases volume
  · cases volume
    exact oneCapsule_lies

end AppEfi.Fmp
