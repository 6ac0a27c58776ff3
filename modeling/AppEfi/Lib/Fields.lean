import AppEfi.Lib.Memory

/-!
# Packed structures

A structure is the list of its fields, each with its width, in little-endian order and without
gaps; padding is a field.  Where a structure lies, a load at the place of a field gives the field.
-/

set_option autoImplicit false

namespace AppEfi.Fields

open AppEfi.LittleEndian

structure Field where
  width : Nat
  value : Nat
  deriving DecidableEq

def Field.Fits (field : Field) : Prop := field.value < 256 ^ field.width

instance decidableFits (field : Field) : Decidable field.Fits :=
  inferInstanceAs (Decidable (_ < _))

instance decidableHolds (memory : Memory) (address : Nat) (bytes : List UInt8) :
    Decidable (memory.Holds address bytes) := inferInstanceAs (Decidable (_ = _))

def encode (fields : List Field) : List UInt8 :=
  fields.flatMap fun field => toBytes field.width field.value

/-- The fields by their offsets. -/
def places : Nat → List Field → List (Nat × Field)
  | _, [] => []
  | offset, field :: rest => (offset, field) :: places (offset + field.width) rest

def size : List Field → Nat
  | [] => 0
  | field :: rest => field.width + size rest

@[simp] theorem encode_nil : encode [] = [] := rfl

@[simp] theorem encode_cons (field : Field) (rest : List Field) :
    encode (field :: rest) = toBytes field.width field.value ++ encode rest := rfl

theorem length_encode (fields : List Field) : (encode fields).length = size fields := by
  induction fields with
  | nil => rfl
  | cons field rest ih => rw [encode_cons, List.length_append, length_toBytes, ih, size]

theorem readLe_places {memory : Memory} {fields : List Field} {address offset : Nat}
    (held : memory.Holds (address + offset) (encode fields))
    (fits : ∀ field ∈ fields, field.Fits) :
    ∀ place ∈ places offset fields,
      memory.readLe (address + place.1) place.2.width = place.2.value := by
  induction fields generalizing offset with
  | nil =>
      intro place member
      cases member
  | cons field rest ih =>
      rw [encode_cons, Memory.holds_append, length_toBytes, Nat.add_assoc] at held
      intro place member
      rcases List.mem_cons.mp member with rfl | member
      · exact held.1.readLe_eq (fits field List.mem_cons_self)
      · exact ih held.2 (fun other among => fits other (List.mem_cons_of_mem _ among)) place member

/-- The loads of a structure, all at once. -/
theorem readLe_of_holds {memory : Memory} {fields : List Field} {address : Nat}
    {behind : List UInt8} (held : memory.Holds address (encode fields ++ behind))
    (fits : ∀ field ∈ fields, field.Fits) :
    ∀ place ∈ places 0 fields,
      memory.readLe (address + place.1) place.2.width = place.2.value :=
  readLe_places ((Memory.holds_append ..).mp held).1 fits

end AppEfi.Fields
