import Mathlib.Data.List.Basic
import Mathlib.Tactic.Common
import Mathlib.Tactic.NormNum

/-!
# Hexadecimal strings

HexStringToBuffer of AppUtilsLib: two characters of a string for every byte of a buffer.  The
test of the digits is commented out in the source.
-/

set_option autoImplicit false

namespace AppEfi.AppUtils

/-- The characters of a CHAR16 string in front of its NUL. -/
structure UnicodeText where
  text : List UInt16
  noNul : ∀ character ∈ text, character ≠ 0

/-- A string in memory, with what lies behind its NUL. -/
structure UnicodeString extends UnicodeText where
  behind : UInt64 → UInt16
  fits : text.length < 2 ^ 63

inductive Status where
  | success
  | invalidParameter
  | badBufferSize
  | endOfMedia
  deriving DecidableEq, Repr

def strLen (string : UnicodeString) : UInt64 := UInt64.ofNat string.text.length

/-- `string[index]`. -/
def characterAt (string : UnicodeString) (index : UInt64) : UInt16 :=
  if index.toNat < string.text.length then string.text.getD index.toNat 0
  else if index.toNat = string.text.length then 0
  else string.behind index

def hexCharToUint8 (c : UInt16) : UInt8 :=
  if 0x30 ≤ c ∧ c ≤ 0x39 then (c - 0x30).toUInt8
  else if 0x61 ≤ c ∧ c ≤ 0x66 then (c - 0x61 + 10).toUInt8
  else if 0x41 ≤ c ∧ c ≤ 0x46 then (c - 0x41 + 10).toUInt8
  else 0xFF

/-- `(High << 4) | Low`. -/
def packedByte (high low : UInt16) : UInt8 := hexCharToUint8 high <<< 4 ||| hexCharToUint8 low

/-- The loop over the bytes from `i` on. -/
def storeBytes (hexStr : UnicodeString) : Nat → UInt64 → List UInt8 → List UInt8
  | 0, _, buffer => buffer
  | count + 1, i, buffer =>
      storeBytes hexStr count (i + 1) (buffer.set i.toNat
        (packedByte (characterAt hexStr (i * 2)) (characterAt hexStr (i * 2 + 1))))

/-- The arguments of a call; the buffer has the size that is given for it. -/
structure HexCall where
  hexStr : Option UnicodeString
  buffer : List UInt8
  bufferSize : UInt64
  size_eq : buffer.length = bufferSize.toNat

/-- The status, and the buffer behind the call. -/
def hexStringToBuffer (call : HexCall) : Status × List UInt8 :=
  match call.hexStr with
  | none => (.invalidParameter, call.buffer)
  | some hexStr =>
      if strLen hexStr ≠ call.bufferSize * 2 then (.badBufferSize, call.buffer)
      else (.success, storeBytes hexStr call.bufferSize.toNat 0 call.buffer)

/-! ## Hexadecimal digits -/

def lowerDigits : List Char :=
  ['0', '1', '2', '3', '4', '5', '6', '7', '8', '9', 'a', 'b', 'c', 'd', 'e', 'f']

def upperDigits : List Char :=
  ['0', '1', '2', '3', '4', '5', '6', '7', '8', '9', 'A', 'B', 'C', 'D', 'E', 'F']

/-- The digit of a value, in either case. -/
def IsDigit (character : UInt16) (value : Nat) : Prop :=
  ∃ digits ∈ [lowerDigits, upperDigits], ∃ digit ∈ digits[value]?,
    character = UInt16.ofNat digit.toNat

instance (character : UInt16) (value : Nat) : Decidable (IsDigit character value) :=
  decidable_of_iff
    ([lowerDigits, upperDigits].any fun digits =>
      digits[value]?.any fun digit => character == UInt16.ofNat digit.toNat)
    (by simp only [IsDigit, List.any_eq_true, Option.any_eq_true, beq_iff_eq, Option.mem_def])

/-- The bytes with two digits for each. -/
inductive Encodes : List UInt8 → List UInt16 → Prop where
  | nil : Encodes [] []
  | cons {byte : UInt8} {high low : UInt16} {bytes : List UInt8} {text : List UInt16}
      (isHigh : IsDigit high (byte.toNat / 16)) (isLow : IsDigit low (byte.toNat % 16))
      (rest : Encodes bytes text) : Encodes (byte :: bytes) (high :: low :: text)

/-- Twice as many characters as bytes, all of them digits. -/
structure IsHexText (text : List UInt16) (size : Nat) : Prop where
  length_eq : text.length = 2 * size
  digits : ∀ character ∈ text, ∃ value, IsDigit character value

/-- The call succeeds exactly on hexadecimal texts of its size, the buffer then has their
bytes, and it is left alone by an error. -/
structure Decodes (call : HexCall) : Prop where
  success_iff : (hexStringToBuffer call).1 = .success ↔
    ∃ string, call.hexStr = some string ∧ IsHexText string.text call.bufferSize.toNat
  encoded : (hexStringToBuffer call).1 = .success →
    ∃ string, call.hexStr = some string ∧ Encodes (hexStringToBuffer call).2 string.text
  unchanged : (hexStringToBuffer call).1 ≠ .success →
    (hexStringToBuffer call).2 = call.buffer

section Digits

theorem lt_of_isDigit {character : UInt16} {value : Nat} (digit : IsDigit character value) :
    value < 16 := by
  obtain ⟨digits, listed, letter, found, _⟩ := digit
  have length : digits.length = 16 := by
    rcases List.mem_cons.mp listed with rfl | later
    · rfl
    · rw [List.mem_singleton.mp later]
      rfl
  rw [← length]
  exact (List.getElem?_eq_some_iff.mp found).1

theorem hexCharToUint8_of_isDigit {character : UInt16} {value : Nat}
    (digit : IsDigit character value) : hexCharToUint8 character = UInt8.ofNat value := by
  have small := lt_of_isDigit digit
  obtain ⟨digits, listed, letter, found, rfl⟩ := digit
  have all : ∀ digits ∈ [lowerDigits, upperDigits], ∀ value < 16, digits[value]?.all fun letter =>
      hexCharToUint8 (UInt16.ofNat letter.toNat) = UInt8.ofNat value := by decide
  have here := Option.all_eq_true _ _ |>.mp (all digits listed value small) letter found
  exact of_decide_eq_true here

/-- The halves of a byte are the values of its digits. -/
theorem halves_packedByte {high low : UInt16} {first second : Nat} (isHigh : IsDigit high first)
    (isLow : IsDigit low second) :
    (packedByte high low).toNat / 16 = first ∧ (packedByte high low).toNat % 16 = second := by
  have all : ∀ first < 16, ∀ second < 16,
      (UInt8.ofNat first <<< 4 ||| UInt8.ofNat second).toNat / 16 = first ∧
        (UInt8.ofNat first <<< 4 ||| UInt8.ofNat second).toNat % 16 = second := by
    decide
  rw [packedByte, hexCharToUint8_of_isDigit isHigh, hexCharToUint8_of_isDigit isLow]
  exact all first (lt_of_isDigit isHigh) second (lt_of_isDigit isLow)

end Digits

section Loop

variable {hexStr : UnicodeString}

theorem characterAt_of_append {before behind : List UInt16} {character : UInt16} {index : UInt64}
    (text : hexStr.text = before ++ character :: behind) (here : index.toNat = before.length) :
    characterAt hexStr index = character := by
  have inside : index.toNat < hexStr.text.length := by
    rw [text, here, List.length_append, List.length_cons]
    omega
  rw [characterAt, if_pos inside, text, here]
  simp

/-- Where the rest of the text are digits for the rest of the buffer, the rest of the buffer
becomes their bytes. -/
theorem encodes_storeBytes (count : Nat) :
    ∀ (i : UInt64) (before digits : List UInt16) (done rest : List UInt8),
      hexStr.text = before ++ digits → before.length = 2 * i.toNat → digits.length = 2 * count →
      (∀ character ∈ digits, ∃ value, IsDigit character value) →
      done.length = i.toNat → rest.length = count →
      ∃ bytes, storeBytes hexStr count i (done ++ rest) = done ++ bytes ∧
        Encodes bytes digits := by
  induction count with
  | zero =>
      intro i before digits done rest _ _ noDigits _ _ noBytes
      rw [List.length_eq_zero_iff.mp noBytes, List.length_eq_zero_iff.mp noDigits]
      exact ⟨[], rfl, Encodes.nil⟩
  | succ count ih =>
      intro i before digits done rest text position number allDigits index size
      have bound := hexStr.fits
      rw [text, List.length_append] at bound
      obtain ⟨high, digits, rfl⟩ := List.exists_cons_of_length_pos (by omega : 0 < digits.length)
      rw [List.length_cons] at number bound
      obtain ⟨low, digits, rfl⟩ := List.exists_cons_of_length_pos (by omega : 0 < digits.length)
      obtain ⟨byte, rest, rfl⟩ := List.exists_cons_of_length_pos (by omega : 0 < rest.length)
      rw [List.length_cons] at number bound size
      rw [List.forall_mem_cons, List.forall_mem_cons] at allDigits
      obtain ⟨⟨first, isHigh⟩, ⟨second, isLow⟩, allDigits⟩ := allDigits
      have double : (i * 2).toNat = 2 * i.toNat := by
        have two : (2 : UInt64).toNat = 2 := rfl
        rw [UInt64.toNat_mul, two]
        omega
      have next : (i * 2 + 1).toNat = 2 * i.toNat + 1 := by
        have one : (1 : UInt64).toNat = 1 := rfl
        rw [UInt64.toNat_add, double, one]
        omega
      have after : (i + 1).toNat = i.toNat + 1 := by
        have one : (1 : UInt64).toNat = 1 := rfl
        rw [UInt64.toNat_add, one]
        omega
      have highRead : characterAt hexStr (i * 2) = high :=
        characterAt_of_append text (by rw [double, position])
      have lowRead : characterAt hexStr (i * 2 + 1) = low :=
        @characterAt_of_append hexStr (before ++ [high]) digits low (i * 2 + 1)
          (by rw [text]; simp) (by simp [next, position])
      have stored : (done ++ byte :: rest).set i.toNat (packedByte high low) =
          (done ++ [packedByte high low]) ++ rest := by
        rw [← index, List.set_append_right _ _ (Nat.le_refl _), Nat.sub_self]
        simp
      obtain ⟨bytes, run, encodes⟩ := ih (i + 1) (before ++ [high, low]) digits
        (done ++ [packedByte high low]) rest (by rw [text]; simp) (by simp [after]; omega)
        (by omega) allDigits (by simp [after, index]) (by omega)
      have halves := halves_packedByte isHigh isLow
      refine ⟨packedByte high low :: bytes, ?_, Encodes.cons (halves.1 ▸ isHigh)
        (halves.2 ▸ isLow) encodes⟩
      rw [storeBytes, highRead, lowRead, stored, run, List.append_assoc, List.singleton_append]

end Loop

/-! ## The call -/

section Call

variable {call : HexCall} {string : UnicodeString}

theorem hexStringToBuffer_success_iff :
    (hexStringToBuffer call).1 = .success ↔
      ∃ string, call.hexStr = some string ∧ strLen string = call.bufferSize * 2 := by
  rw [hexStringToBuffer]
  cases given : call.hexStr with
  | none => simp
  | some string =>
      by_cases size : strLen string = call.bufferSize * 2
      · simp [size]
      · simp [size]

/-- An error comes before the first store. -/
theorem hexStringToBuffer_unchanged (failed : (hexStringToBuffer call).1 ≠ .success) :
    (hexStringToBuffer call).2 = call.buffer := by
  rw [hexStringToBuffer] at failed ⊢
  cases given : call.hexStr with
  | none => rfl
  | some string =>
      rw [given] at failed
      dsimp only at failed ⊢
      split
      · rfl
      · next size =>
          rw [if_neg size] at failed
          exact absurd rfl failed

theorem strLen_of_length (length : string.text.length = 2 * call.bufferSize.toNat) :
    strLen string = call.bufferSize * 2 := by
  apply UInt64.toNat_inj.mp
  have bound := string.fits
  have two : (2 : UInt64).toNat = 2 := rfl
  rw [strLen, UInt64.toNat_ofNat', UInt64.toNat_mul, two, length]
  omega

theorem encodes_hexStringToBuffer (given : call.hexStr = some string)
    (hexText : IsHexText string.text call.bufferSize.toNat) :
    Encodes (hexStringToBuffer call).2 string.text := by
  obtain ⟨bytes, run, encodes⟩ := @encodes_storeBytes string call.bufferSize.toNat 0 []
    string.text [] call.buffer rfl rfl hexText.length_eq hexText.digits rfl call.size_eq
  rw [hexStringToBuffer, given]
  dsimp only
  rw [if_neg (not_not_intro (strLen_of_length hexText.length_eq))]
  rw [List.nil_append, List.nil_append] at run
  rwa [run]

/-- The length test lets through a text with other characters than digits, and a text whose
length is twice the size modulo 2^64 only. -/
theorem decodes_iff (call : HexCall) :
    Decodes call ↔ ∀ string, call.hexStr = some string →
      strLen string = call.bufferSize * 2 →
        IsHexText string.text call.bufferSize.toNat := by
  constructor
  · intro decodes string given size
    obtain ⟨other, same, hexText⟩ :=
      decodes.success_iff.mp (hexStringToBuffer_success_iff.mpr ⟨string, given, size⟩)
    rw [given] at same
    cases same
    exact hexText
  · intro passed
    constructor
    · rw [hexStringToBuffer_success_iff]
      constructor
      · rintro ⟨string, given, size⟩
        exact ⟨string, given, passed string given size⟩
      · rintro ⟨string, given, hexText⟩
        exact ⟨string, given, strLen_of_length hexText.length_eq⟩
    · intro success
      obtain ⟨string, given, size⟩ := hexStringToBuffer_success_iff.mp success
      exact ⟨string, given, encodes_hexStringToBuffer given (passed string given size)⟩
    · exact hexStringToBuffer_unchanged

/-- "zz" for a buffer of one byte. -/
def noDigitsCall : HexCall :=
  { hexStr := some { text := [0x7A, 0x7A], noNul := by simp, behind := fun _ => 0,
                     fits := by decide }
    buffer := [0]
    bufferSize := 1
    size_eq := rfl }

theorem not_decodes_noDigits : ¬ Decodes noDigitsCall := by
  intro decodes
  have success : (hexStringToBuffer noDigitsCall).1 = .success := by decide
  obtain ⟨string, given, hexText⟩ := decodes.success_iff.mp success
  cases given
  obtain ⟨value, digit⟩ := hexText.digits 0x7A (by decide)
  have all : ∀ value < 16, ¬ IsDigit 0x7A value := by decide
  exact all value (lt_of_isDigit digit) digit

end Call

end AppEfi.AppUtils
