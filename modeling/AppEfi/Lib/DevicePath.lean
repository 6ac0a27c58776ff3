import AppEfi.Lib.RecordWalk

/-!
# Device paths

A list of nodes that ends with an end-entire node, as bytes and read back from
memory.
-/

set_option autoImplicit false

namespace AppEfi

open AppEfi.LittleEndian

/-- `EFI_DEVICE_PATH_PROTOCOL` and what follows it. -/
structure DevicePathNode where
  nodeType : UInt8
  subType : UInt8
  data : List UInt8
  deriving DecidableEq

namespace DevicePathNode

def isEnd (nodeType subType : UInt8) : Bool := nodeType == 0x7F && subType == 0xFF

def size (node : DevicePathNode) : Nat := 4 + node.data.length

def encode (node : DevicePathNode) : List UInt8 :=
  node.nodeType :: node.subType :: toBytes 2 node.size ++ node.data

/-- The node's size fits its field, and it does not end the path. -/
def WellFormed (node : DevicePathNode) : Prop :=
  node.size < 2 ^ 16 ∧ isEnd node.nodeType node.subType = false

@[simp] theorem length_encode (node : DevicePathNode) : node.encode.length = node.size := by
  simp only [encode, size, List.length_cons, List.length_append, length_toBytes]

end DevicePathNode

structure DevicePath where
  nodes : List DevicePathNode
  wellFormed : ∀ node ∈ nodes, node.WellFormed

namespace DevicePath

def endNode : DevicePathNode := { nodeType := 0x7F, subType := 0xFF, data := [] }

def encode (path : DevicePath) : List UInt8 :=
  path.nodes.flatMap DevicePathNode.encode ++ endNode.encode

def size (path : DevicePath) : Nat := path.encode.length

theorem nodes_length_lt_size (path : DevicePath) : path.nodes.length < path.size := by
  have nodes : path.nodes.length ≤ (path.nodes.flatMap DevicePathNode.encode).length := by
    rw [RecordWalk.length_flatMap_encode]
    apply RecordWalk.length_le_total
    intro node _
    simp only [DevicePathNode.length_encode, DevicePathNode.size]
    omega
  simp only [DevicePath.size, encode, List.length_append]
  have last : endNode.encode.length = 4 := rfl
  omega

end DevicePath

/-- The nodes up to the end node, from `address` on. -/
def readDevicePath (memory : Memory) : Nat → Nat → Option (List DevicePathNode)
  | 0, _ => none
  | fuel + 1, address =>
      if DevicePathNode.isEnd (memory address) (memory (address + 1)) then some []
      else
        (readDevicePath memory fuel (address + memory.readLe (address + 2) 2)).map fun rest =>
          { nodeType := memory address, subType := memory (address + 1),
            data := memory.bytesAt (address + 4) (memory.readLe (address + 2) 2 - 4) } :: rest

theorem holds_node {memory : Memory} {address : Nat} {node : DevicePathNode}
    (held : memory.Holds address node.encode) :
    memory address = node.nodeType ∧ memory (address + 1) = node.subType ∧
      memory.Holds (address + 2) (toBytes 2 node.size) ∧
        memory.Holds (address + 4) node.data := by
  have parts := (Memory.holds_append memory address
    (node.nodeType :: node.subType :: toBytes 2 node.size) node.data).mp held
  have sizePart := (Memory.holds_append memory address
    [node.nodeType, node.subType] (toBytes 2 node.size)).mp parts.1
  have typeByte := sizePart.1.apply 0 (by simp)
  have subTypeByte := sizePart.1.apply 1 (by simp)
  have dataStart : address + (node.nodeType :: node.subType :: toBytes 2 node.size).length =
      address + 4 := by
    simp only [List.length_cons, length_toBytes]
  rw [dataStart] at parts
  exact ⟨typeByte, subTypeByte, sizePart.2, parts.2⟩

theorem readDevicePath_of_holds {memory : Memory} (nodes : List DevicePathNode)
    (wellFormed : ∀ node ∈ nodes, node.WellFormed) :
    ∀ address fuel, nodes.length < fuel →
      memory.Holds address (nodes.flatMap DevicePathNode.encode ++ DevicePath.endNode.encode) →
        readDevicePath memory fuel address = some nodes := by
  induction nodes with
  | nil =>
      intro address fuel enough held
      obtain ⟨fuel, rfl⟩ := Nat.exists_eq_succ_of_ne_zero (Nat.ne_of_gt enough)
      obtain ⟨typeByte, subTypeByte, _⟩ := @holds_node memory address DevicePath.endNode held
      rw [readDevicePath, typeByte, subTypeByte]
      rfl
  | cons node rest ih =>
      intro address fuel enough held
      obtain ⟨fuel, rfl⟩ := Nat.exists_eq_succ_of_ne_zero (Nat.ne_of_gt (Nat.zero_lt_of_lt enough))
      obtain ⟨fits, notEnd⟩ := wellFormed node List.mem_cons_self
      rw [List.flatMap_cons, List.append_assoc, Memory.holds_append] at held
      obtain ⟨typeByte, subTypeByte, sizeHeld, dataHeld⟩ := holds_node held.1
      have sizeRead : memory.readLe (address + 2) 2 = node.size :=
        sizeHeld.readLe_eq (by simpa using fits)
      have dataRead : memory.bytesAt (address + 4) (node.size - 4) = node.data :=
        dataHeld.bytesAt_eq (by simp [DevicePathNode.size])
      have tail := ih (fun other member => wellFormed other (List.mem_cons_of_mem _ member))
        (address + node.size) fuel (Nat.lt_of_succ_lt_succ enough)
        (by simpa only [DevicePathNode.length_encode] using held.2)
      rw [readDevicePath, typeByte, subTypeByte, notEnd, sizeRead, tail, dataRead]
      rfl

end AppEfi
