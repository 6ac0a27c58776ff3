import AppEfi.Vtd.ProcessDhrd

/-!
# Device scope paths

Which path hops `GetPciBusDeviceFunction` reads and what it makes of them.  The
entries of a PCI endpoint or bridge are followed hop by hop up to their Length; the
entries of other devices name the start bus and the first hop.
-/

set_option autoImplicit false

namespace AppEfi.Vtd

section Path

variable (config memory : Memory) (segment : UInt16) (dmarDevScopeEntry : Nat)

def scopeLength : Nat := (memory (dmarDevScopeEntry + 1)).toNat

/-- Address of a hop. -/
def hopAt (index : Nat) : Nat := dmarDevScopeEntry + sizeofDeviceScopeHeader + 2 * index

/-- Device and function of a hop. -/
def pathHop (index : Nat) : UInt8 × UInt8 :=
  (memory (hopAt dmarDevScopeEntry index), memory (hopAt dmarDevScopeEntry index + 1))

/-- The hops at which the loop of `followPath` looks. -/
def followedHops (pathEnd : Nat) : Nat → Nat → List Nat
  | 0, _ => []
  | fuel + 1, dmarPciPath =>
      if dmarPciPath + 2 < pathEnd then
        (dmarPciPath + 2) :: followedHops pathEnd fuel (dmarPciPath + 2)
      else []

/-- The hops that `GetPciBusDeviceFunction` reads. -/
def readHops : List Nat :=
  hopAt dmarDevScopeEntry 0 ::
    if memory dmarDevScopeEntry = scopePciEndpoint ∨ memory dmarDevScopeEntry = scopePciBridge
    then followedHops (dmarDevScopeEntry + scopeLength memory dmarDevScopeEntry) 128
      (hopAt dmarDevScopeEntry 0)
    else []

/-- The hops after the first that are read. -/
def followedCount : Nat :=
  if memory dmarDevScopeEntry = scopePciEndpoint ∨ memory dmarDevScopeEntry = scopePciBridge
  then (scopeLength memory dmarDevScopeEntry - 7) / 2
  else 0

/-- The hops that the entry has room for. -/
def completeHops : Nat := (scopeLength memory dmarDevScopeEntry - sizeofDeviceScopeHeader) / 2

/-- The bus behind a chain of bridges, each a hop from the bus before it. -/
def busBehind (bus : UInt8) (hops : List (UInt8 × UInt8)) : UInt8 :=
  hops.foldl (fun bus hop => secondaryBusNumber config segment bus hop.1 hop.2) bus

/-- The device that a path of `count + 1` hops names. -/
def pathDevice (count : Nat) : UInt8 × UInt8 × UInt8 :=
  (busBehind config segment (memory (dmarDevScopeEntry + 5))
    ((List.range count).map (pathHop memory dmarDevScopeEntry)),
    pathHop memory dmarDevScopeEntry count)

end Path

section Follow

variable {config memory : Memory} {segment : UInt16} {dmarDevScopeEntry : Nat}

/-- The result of the loop depends on the hops that are read and on nothing else. -/
theorem followPath_eq_foldl (pathEnd fuel dmarPciPath : Nat) (bus device function : UInt8) :
    followPath config memory segment pathEnd fuel dmarPciPath bus device function =
      (followedHops pathEnd fuel dmarPciPath).foldl
        (fun before hop =>
          (secondaryBusNumber config segment before.1 before.2.1 before.2.2, memory hop,
            memory (hop + 1)))
        (bus, device, function) := by
  induction fuel generalizing dmarPciPath bus device function with
  | zero => rfl
  | succ fuel ih =>
      rw [followPath, followedHops]
      split
      · rw [ih]
        rfl
      · rfl

theorem followedHops_eq (pathEnd fuel dmarPciPath : Nat)
    (enough : pathEnd ≤ dmarPciPath + 2 * fuel + 2) :
    followedHops pathEnd fuel dmarPciPath =
      (List.range ((pathEnd - dmarPciPath - 1) / 2)).map
        fun index => dmarPciPath + 2 * (index + 1) := by
  induction fuel generalizing dmarPciPath with
  | zero =>
      rw [followedHops, show (pathEnd - dmarPciPath - 1) / 2 = 0 by omega]
      rfl
  | succ fuel ih =>
      rw [followedHops]
      split
      · have count : (pathEnd - dmarPciPath - 1) / 2 =
            (pathEnd - (dmarPciPath + 2) - 1) / 2 + 1 := by omega
        rw [ih (dmarPciPath + 2) (by omega), count, List.range_succ_eq_map, List.map_cons,
          List.map_map]
        refine congrArg (List.cons (dmarPciPath + 2)) (List.map_congr_left fun index _ => ?_)
        simp only [Function.comp_apply]
        omega
      · rw [show (pathEnd - dmarPciPath - 1) / 2 = 0 by omega]
        rfl

theorem foldl_hops_eq (count : Nat) :
    ((List.range count).map fun index => hopAt dmarDevScopeEntry (index + 1)).foldl
        (fun before hop =>
          (secondaryBusNumber config segment before.1 before.2.1 before.2.2, memory hop,
            memory (hop + 1)))
        (pathDevice config memory segment dmarDevScopeEntry 0) =
      pathDevice config memory segment dmarDevScopeEntry count := by
  induction count with
  | zero => rfl
  | succ count ih =>
      rw [List.range_succ, List.map_append, List.foldl_append, ih]
      simp only [pathDevice, busBehind, List.range_succ, List.map_append, List.foldl_append]
      rfl

theorem scopeHops_eq :
    followedHops (dmarDevScopeEntry + scopeLength memory dmarDevScopeEntry) 128
        (hopAt dmarDevScopeEntry 0) =
      (List.range ((scopeLength memory dmarDevScopeEntry - 7) / 2)).map
        fun index => hopAt dmarDevScopeEntry (index + 1) := by
  have bound : scopeLength memory dmarDevScopeEntry < 2 ^ 8 :=
    (memory (dmarDevScopeEntry + 1)).toNat_lt
  have count : (dmarDevScopeEntry + scopeLength memory dmarDevScopeEntry -
      hopAt dmarDevScopeEntry 0 - 1) / 2 = (scopeLength memory dmarDevScopeEntry - 7) / 2 := by
    unfold hopAt sizeofDeviceScopeHeader
    omega
  rw [followedHops_eq _ _ _ (by unfold hopAt; omega), count]
  refine List.map_congr_left fun index _ => ?_
  unfold hopAt
  omega

theorem readHops_eq :
    readHops memory dmarDevScopeEntry =
      (List.range (followedCount memory dmarDevScopeEntry + 1)).map
        (hopAt dmarDevScopeEntry) := by
  rw [readHops, followedCount, List.range_succ_eq_map, List.map_cons, List.map_map]
  split
  · rw [scopeHops_eq]
    rfl
  · rfl

theorem getPciBusDeviceFunction_eq :
    getPciBusDeviceFunction config memory segment dmarDevScopeEntry =
      pathDevice config memory segment dmarDevScopeEntry
        (followedCount memory dmarDevScopeEntry) := by
  unfold getPciBusDeviceFunction followedCount
  dsimp only
  split
  · rw [followPath_eq_foldl, ← foldl_hops_eq]
    exact congrArg (List.foldl _ _) scopeHops_eq
  · rfl

end Follow

/-- For a PCI endpoint or bridge, the hops that are read are in the entry and the last
complete hop names the device exactly when the entry ends with a hop and has one.  For
any other device, only the first hop is read, and it names a device of the start bus. -/
theorem getPciBusDeviceFunction_path (config memory : Memory) (segment : UInt16)
    (dmarDevScopeEntry : Nat) :
    if memory dmarDevScopeEntry = scopePciEndpoint ∨
        memory dmarDevScopeEntry = scopePciBridge then
      ((∀ hop ∈ readHops memory dmarDevScopeEntry,
            hop + 2 ≤ dmarDevScopeEntry + scopeLength memory dmarDevScopeEntry) ∧
          (1 ≤ completeHops memory dmarDevScopeEntry →
            getPciBusDeviceFunction config memory segment dmarDevScopeEntry =
              pathDevice config memory segment dmarDevScopeEntry
                (completeHops memory dmarDevScopeEntry - 1)) ↔
        scopeLength memory dmarDevScopeEntry % 2 = 0 ∧
          8 ≤ scopeLength memory dmarDevScopeEntry)
    else
      readHops memory dmarDevScopeEntry = [hopAt dmarDevScopeEntry 0] ∧
        getPciBusDeviceFunction config memory segment dmarDevScopeEntry =
          pathDevice config memory segment dmarDevScopeEntry 0 := by
  rw [getPciBusDeviceFunction_eq, readHops_eq]
  split
  · rename_i pci
    have count : followedCount memory dmarDevScopeEntry =
        (scopeLength memory dmarDevScopeEntry - 7) / 2 := if_pos pci
    rw [count]
    constructor
    · rintro ⟨inside, -⟩
      have last := inside (hopAt dmarDevScopeEntry ((scopeLength memory dmarDevScopeEntry - 7) / 2))
        (List.mem_map_of_mem (List.mem_range.mpr (Nat.lt_succ_self _)))
      unfold hopAt sizeofDeviceScopeHeader at last
      omega
    · rintro ⟨even, room⟩
      constructor
      · intro hop listed
        obtain ⟨index, bound, rfl⟩ := List.mem_map.mp listed
        have bound := List.mem_range.mp bound
        unfold hopAt sizeofDeviceScopeHeader
        omega
      · intro _
        unfold completeHops sizeofDeviceScopeHeader
        rw [show (scopeLength memory dmarDevScopeEntry - 6) / 2 - 1 =
          (scopeLength memory dmarDevScopeEntry - 7) / 2 by omega]
  · rename_i other
    have count : followedCount memory dmarDevScopeEntry = 0 := if_neg other
    rw [count]
    exact ⟨rfl, rfl⟩

/-- An I/O APIC behind the bridge at device 1 of bus 0. -/
def ioApicScope : Memory := Memory.ofBytesAt 0 [3, 10, 0, 0, 0, 0, 1, 0, 2, 0]

/-- An endpoint with a byte after its hop. -/
def oddScope : Memory := Memory.ofBytesAt 0 [scopePciEndpoint, 9, 0, 0, 0, 0, 1, 0, 2]

/-- The path of the I/O APIC is not followed, and the byte after the endpoint's hop is
read as a hop that the entry does not have room for. -/
theorem getPciBusDeviceFunction_scopes :
    (completeHops ioApicScope 0 = 2 ∧
      getPciBusDeviceFunction device2Config ioApicScope 0 0 = (0, 1, 0) ∧
      (pathDevice device2Config ioApicScope 0 0 1).2 = (2, 0)) ∧
    8 ∈ readHops oddScope 0 ∧ ¬ 8 + 2 ≤ 0 + scopeLength oddScope 0 := by
  decide +kernel

end AppEfi.Vtd
