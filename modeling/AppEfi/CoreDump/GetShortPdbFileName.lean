import AppEfi.CoreDump.SupportString
import AppEfi.SmmCore.Records
import Mathlib.Data.List.DropRight

/-!
# The name of an image, from the path of its PDB

`GetShortPdbFileName` of SmmCoreDump.c, DxeCoreDump.c and PeiCoreDump.c, which differ in
NAME_STRING_LENGTH only.  One scan moves StartIndex behind every backslash and EndIndex
to every period of the whole path.  The characters are cast from CHAR8, which is signed.
-/

set_option autoImplicit false

namespace AppEfi.CoreDump

/-- The three dump tools. -/
inductive DumpTool where
  | smm
  | dxe
  | pei
  deriving DecidableEq

/-- `NAME_STRING_LENGTH`. -/
def DumpTool.nameStringLength : DumpTool → Nat
  | smm => SmmCore.nameStringLength
  | dxe => 36
  | pei => SmmCore.nameStringLength

def backslash : UInt8 := 0x5C

def period : UInt8 := 0x2E

/-! ## The function -/

/-- The loop over PdbFileName: StartIndex and EndIndex. -/
def scanPdbFileName : List UInt8 → Nat → Nat × Nat → Nat × Nat
  | [], _, indexes => indexes
  | character :: rest, indexA, (startIndex, endIndex) =>
      scanPdbFileName rest (indexA + 1)
        (if character = backslash then indexA + 1 else startIndex,
          if character = period then indexA else endIndex)

/-- `(CHAR16) PdbFileName[IndexA]`: CHAR8 is a signed type, so the cast extends its sign. -/
def char16OfChar8 (character : UInt8) : UInt16 :=
  if character < 0x80 then character.toUInt16 else character.toUInt16 + 0xFF00

/-- The stores of the second loop into UnicodeBuffer; `left` is EndIndex less IndexA. -/
def copyName (nameStringLength : Nat) (pdbFileName : List UInt8) :
    Nat → Nat → Nat → List (Nat × UInt16)
  | 0, _, _ => []
  | left + 1, indexA, indexU =>
      (indexU, char16OfChar8 (pdbFileName.getD indexA 0)) ::
        if indexU + 1 ≥ nameStringLength then [(nameStringLength, 0)]
        else copyName nameStringLength pdbFileName left (indexA + 1) (indexU + 1)

/-- The stores behind the ZeroMem. -/
def getShortPdbFileName (nameStringLength : Nat) :
    Option (List UInt8) → List (Nat × UInt16)
  | none => [(0, 0x20), (1, 0)]
  | some pdbFileName =>
      let (startIndex, endIndex) :=
        scanPdbFileName pdbFileName 0 (0, pdbFileName.length)
      copyName nameStringLength pdbFileName (endIndex - startIndex) startIndex 0

/-- UnicodeBuffer, of NAME_STRING_LENGTH + 1 elements, after the stores. -/
def unicodeBuffer (nameStringLength : Nat) (stores : List (Nat × UInt16)) : List UInt16 :=
  stores.foldl (fun buffer store => buffer.set store.1 store.2)
    (List.replicate (nameStringLength + 1) 0)

/-! ## The short name -/

/-- The text after the last backslash. -/
def fileName (path : List UInt8) : List UInt8 :=
  path.rtakeWhile fun character => character ≠ backslash

/-- The text up to the first period, or all of it. -/
def stem (name : List UInt8) : List UInt8 := name.takeWhile fun character => character ≠ period

/-- A text as it stands in a UnicodeBuffer, truncated to its capacity, with each character
converted. -/
def unicodeText (convert : UInt8 → UInt16) (nameStringLength : Nat) (text : List UInt8) :
    List UInt16 :=
  (text.take nameStringLength).map convert ++
    List.replicate (nameStringLength + 1 - (text.take nameStringLength).length) 0

structure YieldsShortName (tool : DumpTool) (path : AsciiString) : Prop where
  text : unicodeBuffer tool.nameStringLength
      (getShortPdbFileName tool.nameStringLength (some path.val)) =
    unicodeText UInt8.toUInt16 tool.nameStringLength (stem (fileName path.val))
  inside : ∀ store ∈ getShortPdbFileName tool.nameStringLength (some path.val),
    store.1 < tool.nameStringLength + 1

/-- A file name with a period has no second one within the capacity; for one without,
no directory has a period either.  The short name is ASCII. -/
structure PlainName (tool : DumpTool) (path : AsciiString) : Prop where
  extension : period ∈ fileName path.val →
    period ∉ (fileName path.val).drop ((stem (fileName path.val)).length + 1) ∨
      tool.nameStringLength ≤ (stem (fileName path.val)).length
  noExtension : period ∉ fileName path.val → period ∉ path.val ∨ fileName path.val = []
  ascii : ∀ character ∈ (stem (fileName path.val)).take tool.nameStringLength,
    character < 0x80

/-! ## The copy loop -/

section Copy

variable {convert : UInt8 → UInt16} {nameStringLength : Nat} {pdbFileName : List UInt8}

theorem copyName_inside (left indexA indexU : Nat) (room : indexU < nameStringLength) :
    ∀ store ∈ copyName nameStringLength pdbFileName left indexA indexU,
      store.1 < nameStringLength + 1 := by
  induction left generalizing indexA indexU with
  | zero =>
      intro store listed
      cases listed
  | succ left ih =>
      intro store listed
      rw [copyName, List.mem_cons] at listed
      rcases listed with rfl | later
      · exact Nat.lt_succ_of_lt room
      · split at later
        · rw [List.mem_singleton] at later
          subst later
          exact Nat.lt_succ_self _
        · exact ih _ _ (by omega) store later

theorem unicodeText_of_le {text : List UInt8} (short : text.length ≤ nameStringLength) :
    unicodeText convert nameStringLength text =
      text.map convert ++ List.replicate (nameStringLength + 1 - text.length) 0 := by
  rw [unicodeText, List.take_of_length_le short]

theorem unicodeText_take (text : List UInt8) :
    unicodeText convert nameStringLength (text.take nameStringLength) =
      unicodeText convert nameStringLength text := by
  rw [unicodeText, List.take_take, Nat.min_self, unicodeText]

theorem set_unicodeText {copied : List UInt8} (character : UInt8)
    (room : copied.length < nameStringLength) :
    (unicodeText convert nameStringLength copied).set copied.length (convert character) =
      unicodeText convert nameStringLength (copied ++ [character]) := by
  have left : nameStringLength + 1 - copied.length = nameStringLength - copied.length + 1 := by
    omega
  have same : nameStringLength + 1 - (copied ++ [character]).length =
      nameStringLength - copied.length := by
    rw [List.length_append, List.length_singleton]
    omega
  rw [unicodeText_of_le (by omega), unicodeText_of_le (by simp; omega), same, left,
    List.set_append_right _ _ (by simp), List.length_map, Nat.sub_self, List.replicate_succ,
    List.set_cons_zero, List.map_append, List.append_assoc]
  rfl

/-- The NUL that the loop stores at the end of a full buffer is there already. -/
theorem set_unicodeText_nul {text : List UInt8} (full : text.length = nameStringLength) :
    (unicodeText convert nameStringLength text).set nameStringLength 0 =
      unicodeText convert nameStringLength text := by
  rw [unicodeText_of_le (Nat.le_of_eq full), List.set_append_right _ _ (by simp [full]),
    List.length_map, full, Nat.sub_self, Nat.add_sub_cancel_left]
  rfl

/-- The loop appends the characters that are left to the text copied so far. -/
theorem foldl_copyName (left indexA : Nat) (copied : List UInt8)
    (room : copied.length < nameStringLength) (within : indexA + left ≤ pdbFileName.length) :
    (copyName nameStringLength pdbFileName left indexA copied.length).foldl
        (fun buffer store => buffer.set store.1 store.2)
        (unicodeText char16OfChar8 nameStringLength copied) =
      unicodeText char16OfChar8 nameStringLength
        (copied ++ (pdbFileName.drop indexA).take left) := by
  induction left generalizing indexA copied with
  | zero => simp [copyName]
  | succ left ih =>
      have character : pdbFileName.drop indexA =
          pdbFileName.getD indexA 0 :: pdbFileName.drop (indexA + 1) := by
        rw [List.drop_eq_getElem_cons (by omega), List.getD_eq_getElem?_getD,
          List.getElem?_eq_getElem (by omega), Option.getD_some]
      set first := pdbFileName.getD indexA 0 with firstEq
      have length : (copied ++ [first]).length = copied.length + 1 := by
        rw [List.length_append, List.length_singleton]
      have regroup : copied ++ first :: (pdbFileName.drop (indexA + 1)).take left =
          copied ++ [first] ++ (pdbFileName.drop (indexA + 1)).take left := List.append_cons ..
      rw [copyName, List.foldl_cons, ← firstEq, set_unicodeText _ room, character,
        List.take_succ_cons, regroup]
      split
      · -- The buffer is full: the rest of the text is beyond its capacity.
        have full : (copied ++ [first]).length = nameStringLength := by omega
        rw [List.foldl_cons, List.foldl_nil, set_unicodeText_nul full, ← unicodeText_take,
          ← unicodeText_take (_ ++ _), ← full, List.take_length, List.take_left]
      · rw [← length]
        exact ih (indexA + 1) (copied ++ [first]) (by omega) (by omega)

theorem unicodeBuffer_copyName (left indexA : Nat) (room : 0 < nameStringLength)
    (within : indexA + left ≤ pdbFileName.length) :
    unicodeBuffer nameStringLength
        (copyName nameStringLength pdbFileName left indexA 0) =
      unicodeText char16OfChar8 nameStringLength ((pdbFileName.drop indexA).take left) := by
  have empty : List.replicate (nameStringLength + 1) 0 =
      unicodeText char16OfChar8 nameStringLength [] := by
    simp [unicodeText]
  rw [unicodeBuffer, empty]
  exact foldl_copyName left indexA [] room within

end Copy

/-! ## The scan -/

section Scan

theorem scanPdbFileName_append (first second : List UInt8) (indexA : Nat)
    (indexes : Nat × Nat) :
    scanPdbFileName (first ++ second) indexA indexes =
      scanPdbFileName second (indexA + first.length)
        (scanPdbFileName first indexA indexes) := by
  induction first generalizing indexA indexes with
  | nil => rfl
  | cons character rest ih =>
      rw [List.cons_append, scanPdbFileName, scanPdbFileName, ih, List.length_cons,
        Nat.add_assoc, Nat.add_comm 1]

/-- Without a backslash StartIndex stays, without a period EndIndex does. -/
theorem scanPdbFileName_start {text : List UInt8} (none : backslash ∉ text) (indexA : Nat)
    (indexes : Nat × Nat) : (scanPdbFileName text indexA indexes).1 = indexes.1 := by
  induction text generalizing indexA indexes with
  | nil => rfl
  | cons character rest ih =>
      rw [List.mem_cons, not_or] at none
      rw [scanPdbFileName, ih none.2, if_neg (Ne.symm none.1)]

theorem scanPdbFileName_end {text : List UInt8} (none : period ∉ text) (indexA : Nat)
    (indexes : Nat × Nat) : (scanPdbFileName text indexA indexes).2 = indexes.2 := by
  induction text generalizing indexA indexes with
  | nil => rfl
  | cons character rest ih =>
      rw [List.mem_cons, not_or] at none
      rw [scanPdbFileName, ih none.2, if_neg (Ne.symm none.1)]

theorem scanPdbFileName_end_le {bound : Nat} (text : List UInt8) (indexA : Nat)
    (indexes : Nat × Nat) (within : indexA + text.length ≤ bound)
    (before : indexes.2 ≤ bound) : (scanPdbFileName text indexA indexes).2 ≤ bound := by
  induction text generalizing indexA indexes with
  | nil => exact before
  | cons character rest ih =>
      rw [List.length_cons] at within
      refine ih (indexA + 1) _ (by omega) ?_
      dsimp only
      split <;> omega

/-- The last occurrence of a character. -/
theorem exists_last {character : UInt8} {text : List UInt8} (member : character ∈ text) :
    ∃ before behind, text = before ++ character :: behind ∧ character ∉ behind := by
  obtain ⟨behind, before, split, none⟩ :=
    List.eq_append_cons_of_mem (List.mem_reverse.mpr member)
  refine ⟨before.reverse, behind.reverse, ?_, fun listed => none (List.mem_reverse.mp listed)⟩
  rw [← List.reverse_reverse text, split]
  simp

theorem scanPdbFileName_lastBackslash (before : List UInt8) {behind : List UInt8}
    (none : backslash ∉ behind) (indexA : Nat) (indexes : Nat × Nat) :
    (scanPdbFileName (before ++ backslash :: behind) indexA indexes).1 =
      indexA + before.length + 1 := by
  rw [scanPdbFileName_append, scanPdbFileName, scanPdbFileName_start none, if_pos rfl]

theorem scanPdbFileName_lastPeriod (before : List UInt8) {behind : List UInt8}
    (none : period ∉ behind) (indexA : Nat) (indexes : Nat × Nat) :
    (scanPdbFileName (before ++ period :: behind) indexA indexes).2 =
      indexA + before.length := by
  rw [scanPdbFileName_append, scanPdbFileName, scanPdbFileName_end none, if_pos rfl]

end Scan

/-! ## The text between the indexes -/

section Text

def directories (path : List UInt8) : List UInt8 :=
  path.rdropWhile fun character => character ≠ backslash

/-- What the copy loop copies, up to the capacity. -/
def copiedText (path : List UInt8) : List UInt8 :=
  let indexes := scanPdbFileName path 0 (0, path.length)
  (path.drop indexes.1).take (indexes.2 - indexes.1)

variable {path : List UInt8}

theorem directories_append_fileName (path : List UInt8) :
    directories path ++ fileName path = path :=
  List.rdropWhile_append_rtakeWhile

theorem backslash_notMem_fileName (path : List UInt8) : backslash ∉ fileName path := by
  intro member
  simpa using List.mem_rtakeWhile_imp member

theorem startIndex_eq (indexes : Nat × Nat) (zero : indexes.1 = 0) :
    (scanPdbFileName path 0 indexes).1 = (directories path).length := by
  have split := directories_append_fileName path
  have none := backslash_notMem_fileName path
  by_cases empty : directories path = []
  · rw [empty, List.nil_append] at split
    rw [split] at none
    rw [scanPdbFileName_start none, zero, empty, List.length_nil]
  · have last : (directories path).getLast empty = backslash := by
      simpa [directories] using List.rdropWhile_last_not _ _ empty
    have concat := List.dropLast_append_getLast empty
    rw [last] at concat
    rw [← concat, List.append_assoc, List.singleton_append] at split
    have start := scanPdbFileName_lastBackslash (directories path).dropLast none 0 indexes
    rw [split] at start
    rw [start, Nat.zero_add, ← concat, List.length_append, List.length_singleton,
      List.dropLast_concat]

theorem drop_startIndex (path : List UInt8) :
    path.drop (directories path).length = fileName path := by
  have split := directories_append_fileName path
  calc path.drop (directories path).length
      = (directories path ++ fileName path).drop (directories path).length := by rw [split]
    _ = fileName path := List.drop_left

theorem copiedText_eq (path : List UInt8) :
    copiedText path = (fileName path).take
      ((scanPdbFileName path 0 (0, path.length)).2 - (directories path).length) := by
  rw [copiedText, startIndex_eq _ rfl, drop_startIndex]

theorem copiedText_of_extension {name extension : List UInt8}
    (split : fileName path = name ++ period :: extension) (none : period ∉ extension) :
    copiedText path = name := by
  have whole : (directories path ++ name) ++ period :: extension = path := by
    rw [List.append_assoc, ← split, directories_append_fileName]
  have last := scanPdbFileName_lastPeriod (directories path ++ name) none 0 (0, path.length)
  rw [whole] at last
  rw [copiedText_eq, last, List.length_append, Nat.zero_add, Nat.add_sub_cancel_left, split,
    List.take_left]

theorem copiedText_of_noPeriod (none : period ∉ path) : copiedText path = fileName path := by
  have length := congrArg List.length (directories_append_fileName path)
  rw [List.length_append] at length
  rw [copiedText_eq, scanPdbFileName_end none]
  exact List.take_of_length_le (by dsimp only; omega)

theorem copiedText_of_directoryPeriod (none : period ∉ fileName path) (member : period ∈ path) :
    copiedText path = [] := by
  have split := directories_append_fileName path
  have inDirectories : period ∈ directories path := by
    rw [← split, List.mem_append] at member
    exact member.resolve_right none
  obtain ⟨before, behind, directoriesEq, noneBehind⟩ := exists_last inDirectories
  have noneBehind' : period ∉ behind ++ fileName path := by simp [noneBehind, none]
  have last := scanPdbFileName_lastPeriod before noneBehind' 0 (0, path.length)
  rw [← List.cons_append, ← List.append_assoc, ← directoriesEq, split] at last
  have length := congrArg List.length directoriesEq
  rw [List.length_append, List.length_cons] at length
  rw [copiedText_eq, last, Nat.sub_eq_zero_of_le (by omega), List.take_zero]

end Text

/-! ## The result -/

section Result

variable {nameStringLength : Nat}

theorem char16OfChar8_eq_iff {character other : UInt8} :
    char16OfChar8 character = other.toUInt16 ↔ character = other ∧ other < 0x80 := by
  have below := character.toNat_lt
  have otherBelow := other.toNat_lt
  rw [char16OfChar8]
  split
  · next small =>
      rw [← UInt16.toNat_inj, UInt8.toNat_toUInt16, UInt8.toNat_toUInt16, UInt8.toNat_inj]
      exact ⟨fun same => ⟨same, same ▸ small⟩, And.left⟩
  · next large =>
      rw [UInt8.lt_iff_toNat_lt, Nat.not_lt] at large
      change 128 ≤ character.toNat at large
      refine iff_of_false ?_ ?_
      · rw [← UInt16.toNat_inj, UInt16.toNat_add, UInt8.toNat_toUInt16, UInt8.toNat_toUInt16]
        change ¬ (character.toNat + 65280) % 65536 = other.toNat
        omega
      · rintro ⟨rfl, small⟩
        rw [UInt8.lt_iff_toNat_lt] at small
        change character.toNat < 128 at small
        omega

/-- The converted characters of a text without NUL, read back from the buffer. -/
theorem takeWhile_unicodeText {convert : UInt8 → UInt16}
    (nonzero : ∀ character, character ≠ 0 → convert character ≠ 0) {text : List UInt8}
    (nul : 0 ∉ text) :
    (unicodeText convert nameStringLength text).takeWhile (fun unit => unit ≠ 0) =
      (text.take nameStringLength).map convert := by
  rw [unicodeText, List.takeWhile_append_of_pos, List.takeWhile_replicate]
  · simp
  · intro unit listed
    obtain ⟨character, member, rfl⟩ := List.mem_map.mp listed
    exact decide_eq_true
      (nonzero character fun zero => nul (zero ▸ List.mem_of_mem_take member))

theorem map_char16OfChar8_eq_iff {text other : List UInt8} :
    text.map char16OfChar8 = other.map UInt8.toUInt16 ↔
      text = other ∧ ∀ character ∈ other, character < 0x80 := by
  induction text generalizing other with
  | nil =>
      cases other with
      | nil => simp
      | cons head rest => simp
  | cons character text ih =>
      cases other with
      | nil => simp
      | cons head rest =>
          rw [List.map_cons, List.map_cons, List.cons.injEq, char16OfChar8_eq_iff, ih,
            List.cons.injEq, List.forall_mem_cons]
          exact and_and_and_comm

theorem unicodeText_eq_iff {text other : List UInt8} (textNul : 0 ∉ text)
    (otherNul : 0 ∉ other) :
    unicodeText char16OfChar8 nameStringLength text =
        unicodeText UInt8.toUInt16 nameStringLength other ↔
      text.take nameStringLength = other.take nameStringLength ∧
        ∀ character ∈ other.take nameStringLength, character < 0x80 := by
  rw [← map_char16OfChar8_eq_iff]
  constructor
  · intro same
    have texts := congrArg (List.takeWhile fun unit => decide (unit ≠ 0)) same
    rwa [takeWhile_unicodeText _ textNul, takeWhile_unicodeText _ otherNul] at texts
    · intro character notZero
      simpa [← UInt16.toNat_inj, ← UInt8.toNat_inj] using notZero
    · intro character notZero zero
      exact notZero (char16OfChar8_eq_iff.mp (zero : _ = (0 : UInt8).toUInt16)).1
  · intro same
    have lengths := congrArg List.length same
    rw [List.length_map, List.length_map] at lengths
    rw [unicodeText, unicodeText, same, lengths]

theorem take_name_eq_iff {name extension : List UInt8} :
    (name ++ period :: extension).take nameStringLength = name.take nameStringLength ↔
      nameStringLength ≤ name.length := by
  constructor
  · intro same
    have lengths := congrArg List.length same
    rw [List.length_take, List.length_take, List.length_append, List.length_cons] at lengths
    omega
  · exact fun full => List.take_append_of_le_length full

theorem stem_append {name extension : List UInt8} (none : period ∉ name) :
    stem (name ++ period :: extension) = name := by
  rw [stem, List.takeWhile_append_of_pos]
  · simp
  · intro character listed
    exact decide_eq_true fun same => none (same ▸ listed)

theorem stem_of_noPeriod {name : List UInt8} (none : period ∉ name) : stem name = name :=
  List.takeWhile_eq_self_iff.mpr fun _ listed =>
    decide_eq_true fun same => none (same ▸ listed)

/-- The condition on the periods: what is copied is the short name. -/
theorem copiedText_eq_stem_iff (tool : DumpTool) (path : AsciiString) :
    (copiedText path.val).take tool.nameStringLength =
        (stem (fileName path.val)).take tool.nameStringLength ↔
      (period ∈ fileName path.val →
        period ∉ (fileName path.val).drop ((stem (fileName path.val)).length + 1) ∨
          tool.nameStringLength ≤ (stem (fileName path.val)).length) ∧
      (period ∉ fileName path.val → period ∉ path.val ∨ fileName path.val = []) := by
  by_cases extended : period ∈ fileName path.val
  · obtain ⟨name, extension, split, noneBefore⟩ := List.eq_append_cons_of_mem extended
    have first : stem (fileName path.val) = name := by rw [split, stem_append noneBefore]
    have behind : (fileName path.val).drop (name.length + 1) = extension := by
      rw [split, List.append_cons]
      exact List.drop_left' (by simp)
    rw [first, behind]
    simp only [extended, true_imp_iff, not_true_eq_false, false_imp_iff, and_true]
    by_cases more : period ∈ extension
    · obtain ⟨middle, rest, extensionEq, noneBehind⟩ := exists_last more
      have copied : copiedText path.val = name ++ period :: middle := by
        refine copiedText_of_extension ?_ noneBehind
        rw [split, extensionEq, List.append_assoc, List.cons_append]
      rw [copied, take_name_eq_iff]
      exact (or_iff_right (not_not.mpr more)).symm
    · rw [copiedText_of_extension split more]
      exact iff_of_true rfl (Or.inl more)
  · rw [stem_of_noPeriod extended]
    simp only [extended, false_imp_iff, true_and, not_false_eq_true, true_imp_iff]
    by_cases inDirectory : period ∈ path.val
    · have positive : 0 < tool.nameStringLength := by cases tool <;> decide
      rw [copiedText_of_directoryPeriod extended inDirectory, List.take_nil,
        or_iff_right (not_not.mpr inDirectory), eq_comm, List.take_eq_nil_iff]
      exact or_iff_right (Nat.ne_of_gt positive)
    · rw [copiedText_of_noPeriod inDirectory]
      exact iff_of_true rfl (Or.inl inDirectory)

/-- The short name is what the code yields as long as no period behind the first one of the
file name, and none of a directory, takes the place of the one that ends the name, and no
character of the name has its sign bit set. -/
theorem getShortPdbFileName_iff (tool : DumpTool) (path : AsciiString) :
    YieldsShortName tool path ↔ PlainName tool path := by
  have positive : 0 < tool.nameStringLength := by cases tool <;> decide
  have length := congrArg List.length (directories_append_fileName path.val)
  rw [List.length_append] at length
  have copied : unicodeBuffer tool.nameStringLength
      (getShortPdbFileName tool.nameStringLength (some path.val)) =
        unicodeText char16OfChar8 tool.nameStringLength (copiedText path.val) := by
    have last := scanPdbFileName_end_le path.val 0 (0, path.val.length) (by omega) (Nat.le_refl _)
    refine unicodeBuffer_copyName _ _ positive ?_
    rw [startIndex_eq _ rfl]
    omega
  have copiedNul : 0 ∉ copiedText path.val := fun member =>
    path.property (List.mem_of_mem_drop (List.mem_of_mem_take member))
  have stemNul : 0 ∉ stem (fileName path.val) := by
    intro member
    refine path.property ?_
    rw [← directories_append_fileName path.val]
    exact List.mem_append_right _ ((List.takeWhile_sublist _).subset member)
  have same := @unicodeText_eq_iff tool.nameStringLength _ _ copiedNul stemNul
  rw [copiedText_eq_stem_iff, ← copied] at same
  constructor
  · intro yields
    obtain ⟨⟨extension, noExtension⟩, ascii⟩ := same.mp yields.text
    exact ⟨extension, noExtension, ascii⟩
  · rintro ⟨extension, noExtension, ascii⟩
    exact ⟨same.mpr ⟨⟨extension, noExtension⟩, ascii⟩, copyName_inside _ _ _ positive⟩

end Result

/-! ## Periods in a path -/

/-- `D:\v1\app.efi`. -/
def plainPath : AsciiString :=
  ⟨[0x44, 0x3A, 0x5C, 0x76, 0x31, 0x5C, 0x61, 0x70, 0x70, 0x2E, 0x65, 0x66, 0x69], by decide⟩

example : (unicodeBuffer 35 (getShortPdbFileName 35 (some plainPath.val))).take 4 =
    [0x61, 0x70, 0x70, 0] := by decide

/-- `D:\v1.0\app`. -/
def dottedDirectory : AsciiString :=
  ⟨[0x44, 0x3A, 0x5C, 0x76, 0x31, 0x2E, 0x30, 0x5C, 0x61, 0x70, 0x70], by decide⟩

/-- The name is lost: EndIndex is before StartIndex. -/
theorem getShortPdbFileName_dottedDirectory : ¬ YieldsShortName .smm dottedDirectory := by
  intro yields
  have text := yields.text
  revert text
  decide

end AppEfi.CoreDump
