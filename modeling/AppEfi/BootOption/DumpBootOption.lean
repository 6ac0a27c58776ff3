import AppEfi.BootOption.AddBootOption

/-!
# A boot option read back

`DumpBootOption` over the buffer that holds an option's variable, and what it
prints of an option that `AddBootOption` wrote.
-/

set_option autoImplicit false

namespace AppEfi.BootOption

open AppEfi.LittleEndian

/-- The lines of `DumpBootOption`.  The path is printed as text, from its nodes. -/
structure DumpedOption where
  attributes : Nat
  filePathListLength : Nat
  description : List UInt16
  filePathList : List DevicePathNode
  optionalData : List UInt8
  deriving DecidableEq

def readString (memory : Memory) : Nat → Nat → Option (List UInt16)
  | 0, _ => none
  | fuel + 1, address =>
      if memory.readLe address 2 = 0 then some []
      else (readString memory fuel (address + 2)).map fun rest =>
        UInt16.ofNat (memory.readLe address 2) :: rest

def subUintn (width first second : Nat) : Nat :=
  (first + (256 ^ width - second % 256 ^ width)) % 256 ^ width

def dumpBootOption (width : Nat) (memory : Memory) (fuel option optionSize : Nat) :
    Option DumpedOption :=
  let filePathListLength := memory.readLe (option + 4) 2
  let description := option + 6
  (readString memory fuel description).bind fun characters =>
    let filePathList := description + 2 * (characters.length + 1)
    (readDevicePath memory fuel filePathList).map fun nodes =>
      let optionalData := filePathList + filePathListLength
      { attributes := memory.readLe option 4
        filePathListLength := filePathListLength
        description := characters
        filePathList := nodes
        optionalData :=
          memory.bytesAt optionalData (subUintn width (option + optionSize) optionalData) }

/-- What an option for `filePath` says, with nothing behind its device path. -/
structure Describes (dumped : DumpedOption) (filePath : List UInt16) (path : DevicePath) :
    Prop where
  attributes : dumped.attributes = loadOptionActive
  description : dumped.description = filePath
  filePathList : dumped.filePathList = path.nodes
  optionalData : dumped.optionalData = []

theorem length_encodeString (characters : List UInt16) :
    (encodeString characters).length = 2 * (characters.length + 1) := by
  induction characters with
  | nil => rfl
  | cons first rest ih =>
      simp only [encodeString, List.flatMap_cons, List.length_append, List.length_cons,
        length_toBytes] at ih ⊢
      omega

theorem readString_of_holds {memory : Memory} (characters : List UInt16)
    (terminated : 0 ∉ characters) :
    ∀ address fuel, characters.length < fuel → memory.Holds address (encodeString characters) →
      readString memory fuel address = some characters := by
  induction characters with
  | nil =>
      intro address fuel enough held
      obtain ⟨fuel, rfl⟩ := Nat.exists_eq_succ_of_ne_zero (Nat.ne_of_gt enough)
      have nul : memory.readLe address 2 = 0 := by
        have bytes : memory.bytesAt address 2 = [0, 0] := held
        rw [Memory.readLe, bytes]
        rfl
      rw [readString, if_pos nul]
  | cons first rest ih =>
      intro address fuel enough held
      obtain ⟨fuel, rfl⟩ := Nat.exists_eq_succ_of_ne_zero (Nat.ne_of_gt (Nat.zero_lt_of_lt enough))
      rw [encodeString, List.flatMap_cons, List.append_assoc, Memory.holds_append,
        length_toBytes] at held
      have read : memory.readLe address 2 = first.toNat :=
        held.1.readLe_eq first.toNat_lt
      have notNul : first.toNat ≠ 0 := by
        intro zero
        apply terminated
        have firstNul : first = 0 := UInt16.toNat_inj.mp zero
        rw [firstNul]
        exact List.mem_cons_self
      have tail := ih (fun member => terminated (List.mem_cons_of_mem _ member)) (address + 2)
        fuel (Nat.lt_of_succ_lt_succ enough) held.2
      rw [readString, read, if_neg notNul, tail, UInt16.ofNat_toNat]
      rfl

theorem length_encodeOption (filePath : List UInt16) (path : DevicePath) :
    (encodeOption filePath path).length = 6 + 2 * (filePath.length + 1) + path.size := by
  simp only [encodeOption, List.length_append, length_toBytes, length_encodeString,
    DevicePath.size]

theorem subUintn_of_le {width first second : Nat} (fits : first ≤ 256 ^ width)
    (ordered : second ≤ first) (proper : first - second < 256 ^ width) :
    subUintn width first second = first - second := by
  unfold subUintn
  by_cases whole : second = 256 ^ width
  · have same : first = second := by omega
    rw [same, whole, Nat.mod_self, Nat.sub_zero, Nat.sub_self, ← two_mul, Nat.mul_mod_left]
  · rw [Nat.mod_eq_of_lt (show second < 256 ^ width by omega)]
    have shifted : first + (256 ^ width - second) = first - second + 256 ^ width := by omega
    rw [shifted, Nat.add_mod_right, Nat.mod_eq_of_lt proper]

/-- The optional data are what the 16 bits of the length field leave over. -/
theorem dumpBootOption_of_holds (width : Nat) {filePath : List UInt16}
    (terminated : 0 ∉ filePath) (path : DevicePath) {memory : Memory} {option fuel : Nat}
    (loaded : memory.Holds option (encodeOption filePath path))
    (fits : option + (encodeOption filePath path).length ≤ 256 ^ width)
    (enough : (encodeOption filePath path).length ≤ fuel) :
    dumpBootOption width memory fuel option (encodeOption filePath path).length =
      some { attributes := loadOptionActive
             filePathListLength := path.size % 2 ^ 16
             description := filePath
             filePathList := path.nodes
             optionalData := memory.bytesAt
               (option + 6 + 2 * (filePath.length + 1) + path.size % 2 ^ 16)
               (path.size - path.size % 2 ^ 16) } := by
  rw [length_encodeOption] at fits enough ⊢
  rw [encodeOption, Memory.holds_append, Memory.holds_append, Memory.holds_append] at loaded
  simp only [List.length_append, length_toBytes, length_encodeString] at loaded
  obtain ⟨⟨⟨attributesHeld, lengthHeld⟩, descriptionHeld⟩, pathHeld⟩ := loaded
  have attributesRead : memory.readLe option 4 = loadOptionActive :=
    attributesHeld.readLe_eq (by decide)
  have lengthRead : memory.readLe (option + 4) 2 = path.size % 2 ^ 16 := by
    rw [Memory.readLe, lengthHeld.bytesAt_eq (length_toBytes 2 path.size), ofBytes_toBytes]
    rfl
  have descriptionRead : readString memory fuel (option + 6) = some filePath :=
    readString_of_holds filePath terminated _ fuel (by omega) descriptionHeld
  have pathRead : readDevicePath memory fuel (option + 6 + 2 * (filePath.length + 1)) =
      some path.nodes := by
    have few := path.nodes_length_lt_size
    apply readDevicePath_of_holds path.nodes path.wellFormed _ fuel (by omega)
    have start : option + (4 + 2 + 2 * (filePath.length + 1)) =
        option + 6 + 2 * (filePath.length + 1) := by omega
    rw [start] at pathHeld
    exact pathHeld
  have kept : path.size % 2 ^ 16 ≤ path.size := Nat.mod_le _ _
  have optionalDataSize :
      subUintn width (option + (6 + 2 * (filePath.length + 1) + path.size))
        (option + 6 + 2 * (filePath.length + 1) + path.size % 2 ^ 16) =
      path.size - path.size % 2 ^ 16 := by
    rw [subUintn_of_le fits (by omega) (by omega)]
    omega
  simp only [dumpBootOption, attributesRead, lengthRead, descriptionRead, pathRead,
    Option.bind_some, Option.map_some, optionalDataSize]

theorem addBootOption_stores (convertTextToDevicePath : List UInt16 → DevicePath)
    (filePath : List UInt16) (store : Variables) :
    addBootOption convertTextToDevicePath filePath store
        (optionName (getNewBootIndex store).1) =
      some (encodeOption filePath (convertTextToDevicePath filePath)) := by
  simp only [addBootOption, KeyedStore.set_self]

/-- `DumpBootOption` says of an added option what `AddBootOption` put into it
exactly when the size of the device path fits the 16 bits of its length field. -/
theorem dumpBootOption_describes_iff (width : Nat)
    (convertTextToDevicePath : List UInt16 → DevicePath) {filePath : List UInt16}
    (terminated : 0 ∉ filePath) (store : Variables) {value : List UInt8}
    (stored : addBootOption convertTextToDevicePath filePath store
      (optionName (getNewBootIndex store).1) = some value)
    {memory : Memory} {option fuel : Nat} (loaded : memory.Holds option value)
    (fits : option + value.length ≤ 256 ^ width) (enough : value.length ≤ fuel) :
    (∃ dumped, dumpBootOption width memory fuel option value.length = some dumped ∧
      Describes dumped filePath (convertTextToDevicePath filePath)) ↔
        (convertTextToDevicePath filePath).size < 2 ^ 16 := by
  rw [addBootOption_stores] at stored
  obtain rfl := Option.some.inj stored
  have dump := dumpBootOption_of_holds width terminated (convertTextToDevicePath filePath)
    loaded fits enough
  constructor
  · intro described
    obtain ⟨dumped, result, describes⟩ := described
    obtain rfl := Option.some.inj (dump.symm.trans result)
    have left := congrArg List.length describes.optionalData
    rw [Memory.length_bytesAt, List.length_nil] at left
    have remainder : (convertTextToDevicePath filePath).size % 2 ^ 16 < 2 ^ 16 :=
      Nat.mod_lt _ (by decide)
    omega
  · intro small
    refine ⟨_, dump, rfl, rfl, rfl, ?_⟩
    have nothing : (convertTextToDevicePath filePath).size -
        (convertTextToDevicePath filePath).size % 2 ^ 16 = 0 := by
      rw [Nat.mod_eq_of_lt small, Nat.sub_self]
    rw [nothing]
    rfl

/-! ## Two device paths -/

def hardwareNode (length : Nat) : DevicePathNode :=
  { nodeType := 1, subType := 4, data := List.replicate length 0 }

def hardwarePath (length count : Nat) (fits : length < 2 ^ 16 - 4) : DevicePath where
  nodes := List.replicate count (hardwareNode length)
  wellFormed := by
    intro node member
    rw [List.eq_of_mem_replicate member]
    refine ⟨?_, rfl⟩
    simp only [DevicePathNode.size, hardwareNode, List.length_replicate]
    omega

theorem dumpBootOption_describes_iff_shortPath :
    ∃ dumped,
      dumpBootOption 8 (Memory.ofBytesAt 0x1000
        (encodeOption [0x41] (hardwarePath 16 1 (by decide)))) 100 0x1000 34 = some dumped ∧
      Describes dumped [0x41] (hardwarePath 16 1 (by decide)) :=
  (dumpBootOption_describes_iff 8 (fun _ => hardwarePath 16 1 (by decide))
    (by decide) (storeWith [0] [0]) (addBootOption_stores _ _ _)
    (Memory.holds_ofBytesAt 0x1000 _) (by decide) (by decide)).mpr (by decide)

theorem size_hardwarePath (length count : Nat) (fits : length < 2 ^ 16 - 4) :
    (hardwarePath length count fits).size = count * (4 + length) + 4 := by
  simp only [DevicePath.size, DevicePath.encode, List.length_append, hardwarePath,
    RecordWalk.length_flatMap_encode, RecordWalk.total, List.map_replicate, List.sum_replicate_nat,
    DevicePathNode.length_encode, DevicePathNode.size, hardwareNode, List.length_replicate,
    DevicePath.endNode, List.length_nil]

/-- A path of 0x10004 bytes: 0x10000 of them are taken for optional data. -/
theorem dumpBootOption_longPath :
    let path := hardwarePath 0x7FFC 2 (by decide)
    let value := encodeOption [0x41] path
    addBootOption (fun _ => path) [0x41] (storeWith [0] [0]) (optionName 1) = some value ∧
      ∃ dumped,
        dumpBootOption 8 (Memory.ofBytesAt 0x1000 value) value.length 0x1000 value.length =
          some dumped ∧
        dumped.optionalData.length = 0x10000 ∧ ¬ Describes dumped [0x41] path := by
  intro path value
  have size : path.size = 0x10004 := size_hardwarePath 0x7FFC 2 (by decide)
  have dump := @dumpBootOption_of_holds 8 [0x41] (by decide) path
    (Memory.ofBytesAt 0x1000 value) 0x1000 value.length (Memory.holds_ofBytesAt 0x1000 value)
    (by rw [length_encodeOption, size]; decide) (Nat.le_refl _)
  rw [size] at dump
  refine ⟨addBootOption_stores (fun _ => path) [0x41] (storeWith [0] [0]), _, dump, ?_, ?_⟩
  · exact Memory.length_bytesAt _ _ _
  · intro describes
    have left := congrArg List.length describes.optionalData
    rw [Memory.length_bytesAt] at left
    exact absurd left (by decide)

end AppEfi.BootOption
