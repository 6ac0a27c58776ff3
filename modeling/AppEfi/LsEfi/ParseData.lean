import AppEfi.Lib.Stores
import AppEfi.LsEfi.Spi

/-!
# The data of a write

The loops of CommandRunSpi that parse the data of `-w`: one store for every third character of
the text and its NUL, into a pool of a third of them.
-/

set_option autoImplicit false

namespace AppEfi.LsEfi

open AppEfi.Stores

section Parse

variable (services : Services) (data : Argument)

/-- `for (Offset = 0; Offset < BufferSize; Offset += 3)`, from an offset on; `index` is that of
TempBuffer in Buffer. -/
def storesFrom (bufferSize offset index : Nat) : List (Nat × UInt8) :=
  if offset < bufferSize then
    (index, (services.strHexToUintn (data.drop offset)).toUInt8) ::
      storesFrom bufferSize (offset + 3) (index + 1)
  else []
termination_by bufferSize - offset

def parseStores : List (Nat × UInt8) := storesFrom services data (bufferSize data).toNat 0 0

/-- `AllocateZeroPool (BufferSize / 3)`. -/
def poolSize : Nat := (bufferSize data).toNat / 3

/-- The zeroed pool after the loop. -/
def parsedBuffer : List UInt8 :=
  (List.range (poolSize data)).map (applyStores (fun _ => 0) (parseStores services data))

end Parse

/-! ## Groups of digits -/

/-- A character that cannot belong to a number. -/
def IsSeparator (character : UInt16) : Prop :=
  character ≠ 0 ∧ hexDigit character = none ∧ character ≠ 0x78 ∧ character ≠ 0x58

/-- Two digits, and the byte that they stand for. -/
structure IsPair (first second : UInt16) (byte : UInt8) : Prop where
  digits : ∃ high low, hexDigit first = some high ∧ hexDigit second = some low ∧
    byte = (16 * high + low).toUInt8

/-- The bytes as groups of two digits with a separator between them. -/
inductive Written (separator : UInt16) : List UInt8 → Argument → Prop where
  | none : Written separator [] []
  | last {first second : UInt16} {byte : UInt8} (pair : IsPair first second byte) :
      Written separator [byte] [first, second]
  | more {first second : UInt16} {byte next : UInt8} {bytes : List UInt8} {text : Argument}
      (pair : IsPair first second byte) (rest : Written separator (next :: bytes) text) :
      Written separator (byte :: next :: bytes) (first :: second :: separator :: text)

/-- StrHexToUintn reads two digits up to the end of the text or to a separator. -/
def ReadsPairs (services : Services) : Prop :=
  ∀ first second byte rest, IsPair first second byte →
    (∀ character ∈ rest.head?, IsSeparator character) →
      (services.strHexToUintn (first :: second :: rest)).toUInt8 = byte

/-- Every store is to the pool, and bytes that are written as groups are parsed exactly. -/
structure ParsesData (services : Services) (allocated : Bool) (data : Argument) : Prop where
  inside : ∀ store ∈ parseStores services data, allocated = true ∧ store.1 < poolSize data
  exact : ∀ separator bytes, IsSeparator separator → Written separator bytes data →
    parsedBuffer services data = bytes

section Proofs

variable {services : Services} {data : Argument}

theorem storesFrom_eq (services : Services) (data : Argument) (bufferSize offset index : Nat) :
    storesFrom services data bufferSize offset index =
      (List.range ((bufferSize - offset + 2) / 3)).map fun turn =>
        (index + turn, (services.strHexToUintn (data.drop (offset + 3 * turn))).toUInt8) := by
  induction offset, index using storesFrom.induct bufferSize with
  | case1 offset index inside ih =>
      have turns : (bufferSize - offset + 2) / 3 = (bufferSize - (offset + 3) + 2) / 3 + 1 := by
        omega
      rw [storesFrom, if_pos inside, ih, turns, List.range_succ_eq_map, List.map_cons,
        List.map_map]
      congr 1
      refine List.map_congr_left fun turn _ => ?_
      simp only [Function.comp_apply, Nat.succ_eq_add_one, Nat.mul_add, Nat.mul_one]
      congr 1
      · omega
      · congr 3
        omega
  | case2 offset index outside =>
      have turns : (bufferSize - offset + 2) / 3 = 0 := by omega
      rw [storesFrom, if_neg outside, turns, List.range_zero, List.map_nil]

theorem parseStores_eq (services : Services) (data : Argument) :
    parseStores services data =
      (List.range (((bufferSize data).toNat + 2) / 3)).map fun turn =>
        (turn, (services.strHexToUintn (data.drop (3 * turn))).toUInt8) := by
  rw [parseStores, storesFrom_eq]
  simp only [Nat.sub_zero, Nat.zero_add]

theorem parsedBuffer_eq (services : Services) (data : Argument) :
    parsedBuffer services data =
      (List.range (poolSize data)).map fun index =>
        (services.strHexToUintn (data.drop (3 * index))).toUInt8 := by
  rw [parsedBuffer, parseStores_eq]
  refine List.map_congr_left fun index listed => ?_
  have inside := List.mem_range.mp listed
  rw [poolSize] at inside
  rw [applyStores_range, if_pos (by omega)]

/-- The write of the command is given the pool. -/
theorem dataBytes_eq_parsedBuffer (services : Services) (data : Argument) :
    dataBytes services data = parsedBuffer services data := by
  have size : (dataSize data).toNat = poolSize data := rfl
  have fewer : poolSize data ≤ ((bufferSize data).toNat + 2) / 3 := by
    rw [poolSize]
    omega
  rw [dataBytes, parsedBuffer_eq, size, ← List.map_take, List.take_range,
    Nat.min_eq_left fewer]

theorem inside_parseStores_iff {allocated : Bool} :
    (∀ store ∈ parseStores services data, allocated = true ∧ store.1 < poolSize data) ↔
      (bufferSize data).toNat % 3 = 0 ∧ ((bufferSize data).toNat ≠ 0 → allocated = true) := by
  rw [parseStores_eq, List.forall_mem_map, poolSize]
  simp only [List.mem_range]
  constructor
  · intro inside
    by_cases empty : (bufferSize data).toNat = 0
    · exact ⟨by rw [empty], fun some => absurd empty some⟩
    · have last := inside (((bufferSize data).toNat + 2) / 3 - 1) (by omega)
      exact ⟨by omega, fun _ => last.1⟩
  · rintro ⟨thirds, pool⟩ index listed
    exact ⟨pool (by omega), by omega⟩

/-! ### Groups -/

theorem Written.length_eq {separator : UInt16} {bytes : List UInt8} {text : Argument}
    (written : Written separator bytes text) (some : bytes ≠ []) :
    text.length + 1 = 3 * bytes.length := by
  induction written with
  | none => exact absurd rfl some
  | last _ => rfl
  | more _ _ ih =>
      have rest := ih (List.cons_ne_nil _ _)
      simp only [List.length_cons] at rest ⊢
      omega

theorem Written.drop_eq {separator : UInt16} {bytes : List UInt8} {text : Argument}
    (written : Written separator bytes text) {index : Nat} (inside : index < bytes.length) :
    ∃ first second rest, text.drop (3 * index) = first :: second :: rest ∧
      IsPair first second bytes[index] ∧ ∀ character ∈ rest.head?, character = separator := by
  induction written generalizing index with
  | none => cases inside
  | @last first second _ pair =>
      obtain rfl : index = 0 := Nat.lt_one_iff.mp inside
      exact ⟨first, second, [], rfl, pair, fun _ listed => by cases listed⟩
  | @more first second _ _ _ text pair _ ih =>
      cases index with
      | zero =>
          refine ⟨first, second, separator :: text, rfl, pair, fun character listed => ?_⟩
          exact (Option.some.inj listed).symm
      | succ index => exact ih (Nat.lt_of_succ_lt_succ inside)

theorem Written.parsedBuffer_eq {separator : UInt16} {bytes : List UInt8}
    (written : Written separator bytes data) (reads : ReadsPairs services)
    (isSeparator : IsSeparator separator) (small : data.length + 1 < 2 ^ 32) :
    parsedBuffer services data = bytes := by
  have size : (bufferSize data).toNat = data.length + 1 := by
    rw [bufferSize, UInt32.toNat_ofNat', Nat.mod_eq_of_lt small]
  have pool : poolSize data = bytes.length := by
    rw [poolSize, size]
    by_cases some : bytes = []
    · rw [some] at written ⊢
      cases written
      rfl
    · rw [written.length_eq some, Nat.mul_div_cancel_left _ (by decide)]
  rw [LsEfi.parsedBuffer_eq, pool]
  refine List.ext_getElem (by simp) fun index _ inside => ?_
  obtain ⟨first, second, rest, text, pair, ends⟩ := written.drop_eq inside
  rw [List.getElem_map, List.getElem_range, text]
  exact reads first second _ rest pair fun character listed => by rwa [ends character listed]

end Proofs

/-- A pool for the data that a third of the text and its NUL fills. -/
structure ThirdsFit (allocated : Bool) (data : Argument) : Prop where
  thirds : (bufferSize data).toNat % 3 = 0
  pool : (bufferSize data).toNat ≠ 0 → allocated = true
  length : ∀ separator bytes, IsSeparator separator → Written separator bytes data →
    data.length + 1 < 2 ^ 32

/-- The loop keeps to its pool and parses groups exactly when BufferSize has no remainder by 3
and, for groups, has not wrapped. -/
theorem parsesData_iff {services : Services} (reads : ReadsPairs services) (allocated : Bool)
    (data : Argument) : ParsesData services allocated data ↔ ThirdsFit allocated data := by
  constructor
  · intro parses
    obtain ⟨thirds, pool⟩ := inside_parseStores_iff.mp parses.inside
    refine ⟨thirds, pool, fun separator bytes isSeparator written => ?_⟩
    by_cases some : bytes = []
    · rw [some] at written
      cases written
      decide
    · have length := congrArg List.length (parses.exact separator bytes isSeparator written)
      rw [parsedBuffer_eq, List.length_map, List.length_range, poolSize, bufferSize,
        UInt32.toNat_ofNat'] at length
      have text := written.length_eq some
      omega
  · rintro ⟨thirds, pool, length⟩
    refine ⟨inside_parseStores_iff.mpr ⟨thirds, pool⟩, ?_⟩
    intro separator bytes isSeparator written
    exact written.parsedBuffer_eq reads isSeparator (length separator bytes isSeparator written)

theorem readsPairs_oneFile : ReadsPairs oneFile := by
  rintro first second byte rest ⟨high, low, firstDigit, secondDigit, rfl⟩ ends
  have value : hexPrefix 0 (first :: second :: rest) = hexPrefix (16 * high + low) rest := by
    simp only [hexPrefix, firstDigit, secondDigit, UInt64.mul_zero, UInt64.zero_add]
  have behind : hexPrefix (16 * high + low) rest = 16 * high + low := by
    cases rest with
    | nil => rfl
    | cons separator _ =>
        have noDigit := (ends separator rfl).2.1
        simp only [hexPrefix, noDigit]
  exact congrArg UInt64.toUInt8 (value.trans behind)

/-- The data 11:22:33 keep to their pool of 3 bytes. -/
theorem parsesData_threeBytes :
    ParsesData oneFile true (char16 ['1', '1', ':', '2', '2', ':', '3', '3']) :=
  (parsesData_iff readsPairs_oneFile true _).mpr
    ⟨by decide, fun _ => rfl, fun _ _ _ _ => by decide⟩

/-- The data 1122 make two stores, into a pool of one byte. -/
theorem parsesData_noSeparator :
    ¬ ParsesData oneFile true (char16 ['1', '1', '2', '2']) := by
  intro parses
  have inside := inside_parseStores_iff.mp parses.inside
  exact absurd inside.1 (by decide)

end AppEfi.LsEfi
