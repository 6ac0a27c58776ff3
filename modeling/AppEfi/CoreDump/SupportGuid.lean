import AppEfi.CoreDump.SupportString

/-!
# The GUID names of Guid.xref

InitGuid and AddGuidName of SupportGuid.c.  The table is allocated for as many entries as
there are newlines, and one more; the lines that fill it end at newlines and at carriage
returns.
-/

set_option autoImplicit false

namespace AppEfi.CoreDump

open AppEfi.Tokens

/-- The characters of Guid.xref.  ReadFileFromVol reads them into a buffer with a CHAR16 NUL
behind them, whose size is a UINTN. -/
structure XrefFile (width : Nat) where
  characters : List UInt8
  terminated : 0 ∉ characters
  fits : characters.length + 2 < 256 ^ width

/-- `EFI_GUID_STRING`.  The pool is zeroed: Str ends behind its characters. -/
structure EfiGuidString (EfiGuid : Type) where
  guid : EfiGuid
  str : List UInt8
  deriving DecidableEq

def sizeofEfiGuidString : Nat := 80

/-- The globals, with the bytes of the pool, the calls of AddGuidName and whether one of them
came to its ASSERT. -/
structure GuidTable (EfiGuid : Type) where
  /-- The entries below mGuidStringCount. -/
  mGuidString : List (EfiGuidString EfiGuid)
  mGuidStringCountMax : Nat
  poolSize : Nat
  calls : Nat
  asserted : Bool
  deriving DecidableEq

def GuidTable.mGuidStringCount {EfiGuid : Type} (table : GuidTable EfiGuid) : Nat :=
  table.mGuidString.length

def GuidTable.empty (EfiGuid : Type) : GuidTable EfiGuid := ⟨[], 0, 0, 0, false⟩

/-- `"00000000-0000-0000-0000-000000000000"`. -/
def zeroGuidString : List UInt8 :=
  List.intercalate [0x2D] ([8, 4, 4, 4, 12].map fun digits => List.replicate digits 0x30)

/-- `"ZeroGuid"`. -/
def zeroGuidName : List UInt8 := [0x5A, 0x65, 0x72, 0x6F, 0x47, 0x75, 0x69, 0x64]

/-- `"\n\r"`. -/
def lineSeparators : List UInt8 := [0x0A, 0x0D]

/-- `" "`. -/
def fieldSeparators : List UInt8 := [0x20]

section Functions

variable {EfiGuid : Type} (asciiStrToGuid : List UInt8 → Option EfiGuid)

def guidStringOf (guid : EfiGuid) (guidStr nameStr : List UInt8) : EfiGuidString EfiGuid :=
  if guidStr = zeroGuidString then ⟨guid, zeroGuidName.take 63⟩ else ⟨guid, nameStr.take 63⟩

/-- `none` of `asciiStrToGuid` is its error status. -/
def addGuidName (guidStr nameStr : List UInt8) (table : GuidTable EfiGuid) :
    GuidTable EfiGuid :=
  let called := { table with calls := table.calls + 1 }
  if table.mGuidStringCount ≥ table.mGuidStringCountMax then { called with asserted := true }
  else match asciiStrToGuid guidStr with
    | none => called
    | some guid =>
        { called with mGuidString := table.mGuidString ++ [guidStringOf guid guidStr nameStr] }

variable (fuel : Nat)

/-- The loop's body without the call for the next line. -/
def initGuidLine (lineBuffer : Nat) (state : TokenState) (table : GuidTable EfiGuid) :
    Option (TokenState × GuidTable EfiGuid) := do
  let (guidStr, state) ← asciiStrGetNewTokenField fieldSeparators fuel lineBuffer state
  let (nameStr, state) ← asciiStrGetNextTokenField fieldSeparators fuel state
  match guidStr, nameStr with
  | some guidStr, some nameStr =>
      some (state, addGuidName asciiStrToGuid (asciiString state.buffer guidStr)
        (asciiString state.buffer nameStr) table)
  | _, _ => some (state, table)

def initGuidLines : Nat → Option Nat × TokenState → GuidTable EfiGuid →
    Option (GuidTable EfiGuid)
  | 0, _, _ => none
  | _ + 1, (none, _), table => some table
  | left + 1, (some lineBuffer, state), table => do
      let (state, table) ← initGuidLine asciiStrToGuid fuel lineBuffer state table
      initGuidLines left (← asciiStrGetNextTokenLine lineSeparators fuel state) table

/-- The bytes that are asked of AllocateZeroPool, a product of UINTNs. -/
def guidTableSize (width mGuidStringCountMax : Nat) : Nat :=
  mGuidStringCountMax * sizeofEfiGuidString % 256 ^ width

/-- `none` is a file that cannot be read.  The static pointers are those of earlier calls. -/
def initGuid {width : Nat} (allocateZeroPool : Nat → Bool) (file : Option (XrefFile width))
    (line field : Option Nat) : Option (GuidTable EfiGuid) :=
  match file with
  | none => some (GuidTable.empty EfiGuid)
  | some file => do
      let mGuidStringCountMax := file.characters.count 0x0A + 1
      let size := guidTableSize width mGuidStringCountMax
      let table := { GuidTable.empty EfiGuid with mGuidStringCountMax := mGuidStringCountMax }
      if allocateZeroPool size then
        let state : TokenState := ⟨file.characters ++ [0, 0], line, field⟩
        initGuidLines asciiStrToGuid fuel fuel
          (← asciiStrGetNewTokenLine lineSeparators fuel 0 state)
          { table with poolSize := size }
      else some table

end Functions

/-! ## Lines and their entries -/

def lines (characters : List UInt8) : List (List UInt8) :=
  words (delimits lineSeparators) characters

def fields (line : List UInt8) : List (List UInt8) := words (delimits fieldSeparators) line

def hasTwoFields (line : List UInt8) : Bool := decide (2 ≤ (fields line).length)

section Entries

variable {EfiGuid : Type} (asciiStrToGuid : List UInt8 → Option EfiGuid)

/-- The entry of a line with two fields whose first is a GUID. -/
def lineEntry (line : List UInt8) : Option (EfiGuidString EfiGuid) :=
  match fields line with
  | guidStr :: nameStr :: _ =>
      (asciiStrToGuid guidStr).map fun guid => guidStringOf guid guidStr nameStr
  | _ => none

/-- What a line does to the table. -/
def addLine (table : GuidTable EfiGuid) (line : List UInt8) : GuidTable EfiGuid :=
  match fields line with
  | guidStr :: nameStr :: _ => addGuidName asciiStrToGuid guidStr nameStr table
  | _ => table

variable {asciiStrToGuid} {table : GuidTable EfiGuid}

theorem addGuidName_fixed (guidStr nameStr : List UInt8) (table : GuidTable EfiGuid) :
    (addGuidName asciiStrToGuid guidStr nameStr table).mGuidStringCountMax =
        table.mGuidStringCountMax ∧
      (addGuidName asciiStrToGuid guidStr nameStr table).poolSize = table.poolSize ∧
      (addGuidName asciiStrToGuid guidStr nameStr table).calls = table.calls + 1 := by
  rw [addGuidName]
  split
  · exact ⟨rfl, rfl, rfl⟩
  · split
    · exact ⟨rfl, rfl, rfl⟩
    · exact ⟨rfl, rfl, rfl⟩

/-- Below the maximum AddGuidName does what it should. -/
theorem addGuidName_below (room : table.mGuidStringCount < table.mGuidStringCountMax)
    (guidStr nameStr : List UInt8) :
    (addGuidName asciiStrToGuid guidStr nameStr table).asserted = table.asserted ∧
      (addGuidName asciiStrToGuid guidStr nameStr table).mGuidString = table.mGuidString ++
        ((asciiStrToGuid guidStr).map fun guid => guidStringOf guid guidStr nameStr).toList := by
  rw [addGuidName, if_neg (Nat.not_le.mpr room)]
  cases asciiStrToGuid guidStr with
  | none => exact ⟨rfl, (List.append_nil _).symm⟩
  | some guid => exact ⟨rfl, rfl⟩

theorem fields_cases (line : List UInt8) :
    (hasTwoFields line = false ∧ lineEntry asciiStrToGuid line = none ∧
        ∀ table, addLine asciiStrToGuid table line = table) ∨
      ∃ guidStr nameStr, hasTwoFields line = true ∧
        lineEntry asciiStrToGuid line =
          ((asciiStrToGuid guidStr).map fun guid => guidStringOf guid guidStr nameStr) ∧
        ∀ table, addLine asciiStrToGuid table line =
          addGuidName asciiStrToGuid guidStr nameStr table := by
  unfold hasTwoFields lineEntry addLine
  match fields line with
  | [] => exact Or.inl ⟨rfl, rfl, fun _ => rfl⟩
  | [_] => exact Or.inl ⟨rfl, rfl, fun _ => rfl⟩
  | guidStr :: nameStr :: rest =>
      exact Or.inr ⟨guidStr, nameStr, decide_eq_true (by simp), rfl, fun _ => rfl⟩

theorem foldl_addLine_fixed (rest : List (List UInt8)) (table : GuidTable EfiGuid) :
    (rest.foldl (addLine asciiStrToGuid) table).mGuidStringCountMax =
        table.mGuidStringCountMax ∧
      (rest.foldl (addLine asciiStrToGuid) table).poolSize = table.poolSize ∧
      (rest.foldl (addLine asciiStrToGuid) table).calls =
        table.calls + rest.countP hasTwoFields := by
  induction rest generalizing table with
  | nil => exact ⟨rfl, rfl, rfl⟩
  | cons line rest ih =>
      rw [List.foldl_cons, List.countP_cons]
      obtain ⟨max, size, calls⟩ := ih (addLine asciiStrToGuid table line)
      rw [max, size, calls]
      rcases @fields_cases _ asciiStrToGuid line with
        ⟨two, _, added⟩ | ⟨guidStr, nameStr, two, _, added⟩
      · simp [added, two]
      · obtain ⟨sameMax, sameSize, oneMore⟩ :=
          @addGuidName_fixed _ asciiStrToGuid guidStr nameStr table
        rw [added, if_pos two, sameMax, sameSize, oneMore]
        exact ⟨rfl, rfl, by omega⟩

/-- Every call before the maximum finds room, as no more entries than calls were made. -/
theorem foldl_addLine_room {rest : List (List UInt8)} (made : table.mGuidStringCount ≤ table.calls)
    (room : table.calls + rest.countP hasTwoFields ≤ table.mGuidStringCountMax) :
    (rest.foldl (addLine asciiStrToGuid) table).asserted = table.asserted ∧
      (rest.foldl (addLine asciiStrToGuid) table).mGuidString =
        table.mGuidString ++ rest.filterMap (lineEntry asciiStrToGuid) := by
  induction rest generalizing table with
  | nil => exact ⟨rfl, (List.append_nil _).symm⟩
  | cons line rest ih =>
      rw [List.foldl_cons]
      rw [List.countP_cons] at room
      rcases @fields_cases _ asciiStrToGuid line with
        ⟨two, entry, added⟩ | ⟨guidStr, nameStr, two, entry, added⟩
      · rw [added, List.filterMap_cons, entry]
        exact ih made (by simpa [two] using room)
      · rw [if_pos two] at room
        obtain ⟨asserted, entries⟩ :=
          @addGuidName_below _ asciiStrToGuid table (by omega) guidStr nameStr
        obtain ⟨sameMax, _, oneMore⟩ :=
          @addGuidName_fixed _ asciiStrToGuid guidStr nameStr table
        have grown : (addGuidName asciiStrToGuid guidStr nameStr table).mGuidStringCount ≤
            (addGuidName asciiStrToGuid guidStr nameStr table).calls := by
          rw [GuidTable.mGuidStringCount, entries, oneMore, List.length_append]
          exact Nat.add_le_add made Option.length_toList_le
        obtain ⟨later, rows⟩ := ih grown (by rw [oneMore, sameMax]; omega)
        rw [added, later, rows, entries, asserted, ← entry, List.append_assoc,
          List.filterMap_cons]
        cases lineEntry asciiStrToGuid line <;> exact ⟨rfl, rfl⟩

end Entries

/-! ## The run of InitGuid -/

section Run

variable {EfiGuid : Type} {asciiStrToGuid : List UInt8 → Option EfiGuid}
variable {text behind : List UInt8} {fuel finish : Nat} {state : TokenState}

theorem initGuidLine_spec {lineBuffer : Nat}
    (held : StringAt state.buffer lineBuffer text behind)
    (enough : lineBuffer + text.length + 1 < fuel) (table : GuidTable EfiGuid) :
    ∃ after, initGuidLine asciiStrToGuid fuel lineBuffer state table =
        some (after, addLine asciiStrToGuid table text) ∧
      after.mAsciiLineBuffer = state.mAsciiLineBuffer ∧
      SameOutside state.buffer after.buffer lineBuffer (lineBuffer + text.length) := by
  obtain ⟨⟨guidStr, middle⟩, newField, first⟩ :=
    @asciiStrGetNewTokenField_spec fieldSeparators _ _ _ _ _ held enough
  have names : fields text =
      (tokensFrom (delimits fieldSeparators) lineBuffer text).map Prod.snd :=
    (map_snd_tokensFrom lineBuffer text).symm
  have next : FindsNext fieldSeparators behind (lineBuffer + text.length)
      TokenState.mAsciiFieldBuffer (asciiStrGetNextTokenField fieldSeparators fuel) :=
    findsNext asciiStrTokenField_goesOn enough
  have keeps := asciiStrGetNewTokenField_keeps newField
  cases guidStr with
  | none =>
      obtain ⟨noTokens, stops, same⟩ := first
      obtain ⟨⟨nameStr, after⟩, nextField, second⟩ :=
        next middle [] lineBuffer (by omega) (by rw [stops]; rfl)
      have keepsToo := asciiStrGetNextTokenField_keeps nextField
      cases nameStr with
      | none =>
          refine ⟨after, ?_, keepsToo.trans keeps, same.trans second.2.2⟩
          simp [initGuidLine, newField, nextField, addLine, names, noTokens]
      | some nameStr =>
          obtain ⟨_, _, word, rest, left, _, _, _, impossible, _⟩ := second
          cases impossible
  | some guidStr =>
      obtain ⟨above, same, word, rest, left, stands, _, within, tokens, cursorLeft⟩ := first
      obtain ⟨⟨nameStr, after⟩, nextField, second⟩ :=
        next middle left (guidStr + word.length + 1) (by omega) cursorLeft
      have keepsToo := asciiStrGetNextTokenField_keeps nextField
      cases nameStr with
      | none =>
          obtain ⟨noMore, _, sameToo⟩ := second
          refine ⟨after, ?_, keepsToo.trans keeps,
            same.trans (sameToo.mono (by omega) (Nat.le_refl _))⟩
          simp [initGuidLine, newField, nextField, addLine, names, tokens, noMore]
      | some nameStr =>
          obtain ⟨_, sameToo, name, _, more, standsToo, _, _, moreTokens, _⟩ := second
          -- The second call leaves the first field as it is.
          obtain ⟨_, still⟩ := sameToo.stringAt_below (by omega) stands
          refine ⟨after, ?_, keepsToo.trans keeps,
            same.trans (sameToo.mono (by omega) (Nat.le_refl _))⟩
          simp [initGuidLine, newField, nextField, addLine, names, tokens, moreTokens,
            still.asciiString_eq, standsToo.asciiString_eq]

theorem initGuidLines_spec (enough : finish + 1 < fuel) {left low : Nat} {before : List UInt8}
    {tokens : List (Nat × List UInt8)} {result : Option Nat × TokenState}
    (found : Found lineSeparators behind finish low before TokenState.mAsciiLineBuffer tokens
      result)
    (inside : low ≤ finish + 1) (reaches : finish + 1 < low + left)
    (table : GuidTable EfiGuid) :
    initGuidLines asciiStrToGuid fuel left result table =
      some ((tokens.map Prod.snd).foldl (addLine asciiStrToGuid) table) := by
  induction left generalizing result low before tokens table with
  | zero => omega
  | succ left ih =>
      obtain ⟨lineBuffer, state⟩ := result
      cases lineBuffer with
      | none =>
          obtain ⟨rfl, _, _⟩ := found
          rfl
      | some lineBuffer =>
          obtain ⟨above, _, line, rest, others, held, nonempty, within, rfl, cursorLeft⟩ := found
          obtain ⟨after, fieldCalls, keeps, same⟩ :=
            @initGuidLine_spec _ asciiStrToGuid _ _ fuel _ _ held (by omega) table
          -- The rest of the lines stands behind what the field calls write.
          have rests : Left lineSeparators behind finish (lineBuffer + line.length + 1)
              after.buffer others after.mAsciiLineBuffer := by
            rw [keeps]
            cases stands : state.mAsciiLineBuffer with
            | none =>
                rw [stands] at cursorLeft
                exact cursorLeft
            | some pointer =>
                rw [stands] at cursorLeft
                obtain ⟨beyond, text, textHeld, ends, cut⟩ := cursorLeft
                exact ⟨beyond, text, same.stringAt (by omega) textHeld, ends, cut⟩
          obtain ⟨next, nextLine, foundNext⟩ :=
            findsNext asciiStrTokenLine_goesOn enough after others _ (by omega) rests
          have run := ih foundNext (by omega) (by omega)
            (addLine asciiStrToGuid table line)
          simp only [initGuidLines, fieldCalls, Option.bind_eq_bind, Option.bind_some]
          rw [show asciiStrGetNextTokenLine lineSeparators fuel after = some next from nextLine,
            Option.bind_some, run]
          rfl

end Run

/-! ## When the table suffices -/

section Table

variable {EfiGuid : Type} (asciiStrToGuid : List UInt8 → Option EfiGuid) {width : Nat}

/-- What is asked of InitGuid: no call beyond the maximum, no store behind the pool, and an
entry for each line that has one. -/
structure FillsTable (file : XrefFile width) (table : GuidTable EfiGuid) : Prop where
  calls : table.calls ≤ table.mGuidStringCountMax
  asserted : table.asserted = false
  inside : table.mGuidString.length * sizeofEfiGuidString ≤ table.poolSize
  entries : table.mGuidString = (lines file.characters).filterMap (lineEntry asciiStrToGuid)

/-- The lines that should have an entry. -/
def namedLines (file : XrefFile width) : Nat :=
  (lines file.characters).countP fun line => (lineEntry asciiStrToGuid line).isSome

/-- No more lines with two fields than newlines, and one; and a pool for their entries. -/
def TableSuffices (allocateZeroPool : Nat → Bool) (file : XrefFile width) : Prop :=
  let size := guidTableSize width (file.characters.count 0x0A + 1)
  if allocateZeroPool size then
    (lines file.characters).countP hasTwoFields ≤ file.characters.count 0x0A + 1 ∧
      namedLines asciiStrToGuid file * sizeofEfiGuidString ≤ size
  else namedLines asciiStrToGuid file = 0

theorem filterMap_length (file : XrefFile width) :
    ((lines file.characters).filterMap (lineEntry asciiStrToGuid)).length =
      namedLines asciiStrToGuid file :=
  List.length_filterMap_eq_countP

/-- With a pool, the run is a fold over the lines. -/
theorem initGuid_allocated {allocateZeroPool : Nat → Bool} {file : XrefFile width}
    (allocated : allocateZeroPool
      (guidTableSize width (file.characters.count 0x0A + 1)) = true) (line field : Option Nat)
    {fuel : Nat} (enough : file.characters.length + 1 < fuel) :
    initGuid asciiStrToGuid fuel allocateZeroPool (some file) line field =
      some ((lines file.characters).foldl (addLine asciiStrToGuid)
        { GuidTable.empty EfiGuid with
          mGuidStringCountMax := file.characters.count 0x0A + 1
          poolSize := guidTableSize width (file.characters.count 0x0A + 1) }) := by
  let state : TokenState := ⟨file.characters ++ [0, 0], line, field⟩
  have held : StringAt state.buffer 0 file.characters [0] := ⟨rfl, file.terminated⟩
  obtain ⟨first, newLine, found⟩ :=
    @asciiStrGetNewTokenLine_spec lineSeparators _ _ _ _ fuel held (by omega)
  have run := @initGuidLines_spec _ asciiStrToGuid _ fuel _ (by omega) fuel _ _ _ _ found
    (by omega) (by omega)
    { GuidTable.empty EfiGuid with
      mGuidStringCountMax := file.characters.count 0x0A + 1
      poolSize := guidTableSize width (file.characters.count 0x0A + 1) }
  rw [map_snd_tokensFrom] at run
  simp only [initGuid, allocated, if_true, Option.bind_eq_bind]
  rw [newLine, Option.bind_some]
  exact run

/-- InitGuid fills the table exactly when it suffices. -/
theorem initGuid_iff (allocateZeroPool : Nat → Bool) (file : XrefFile width)
    (line field : Option Nat) (more : Nat) :
    ∃ table, initGuid asciiStrToGuid (file.characters.length + 2 + more) allocateZeroPool
        (some file) line field = some table ∧
      (FillsTable asciiStrToGuid file table ↔
        TableSuffices asciiStrToGuid allocateZeroPool file) := by
  unfold TableSuffices
  dsimp only
  cases allocated : allocateZeroPool (guidTableSize width (file.characters.count 0x0A + 1)) with
  | false =>
      refine ⟨{ GuidTable.empty EfiGuid with
        mGuidStringCountMax := file.characters.count 0x0A + 1 }, by simp [initGuid, allocated], ?_⟩
      rw [if_neg Bool.false_ne_true, ← filterMap_length, List.length_eq_zero_iff]
      constructor
      · intro filled
        exact filled.entries.symm
      · intro nothing
        exact ⟨Nat.zero_le _, rfl, by simp [GuidTable.empty], nothing.symm⟩
  | true =>
      refine ⟨_, initGuid_allocated asciiStrToGuid allocated line field (by omega), ?_⟩
      rw [if_pos rfl]
      set start : GuidTable EfiGuid := { GuidTable.empty EfiGuid with
        mGuidStringCountMax := file.characters.count 0x0A + 1
        poolSize := guidTableSize width (file.characters.count 0x0A + 1) }
      obtain ⟨max, size, calls⟩ :=
        @foldl_addLine_fixed _ asciiStrToGuid (lines file.characters) start
      have noCalls : start.calls = 0 := rfl
      rw [noCalls, Nat.zero_add] at calls
      constructor
      · rintro ⟨few, _, inside, entries⟩
        rw [entries, filterMap_length, size] at inside
        rw [calls, max] at few
        exact ⟨few, inside⟩
      · rintro ⟨few, inside⟩
        obtain ⟨asserted, entries⟩ := @foldl_addLine_room _ asciiStrToGuid start
          (lines file.characters) (Nat.zero_le _) (by rw [noCalls, Nat.zero_add]; exact few)
        have filled : start.mGuidString = [] := rfl
        rw [filled, List.nil_append] at entries
        exact ⟨by rw [calls, max]; exact few, asserted,
          by rw [entries, filterMap_length, size]; exact inside, entries⟩

end Table

/-- `AsciiStrToGuid`, with the digits for the GUID. -/
def guidDigits (string : List UInt8) : Option (List UInt8) :=
  if string.length = 36 then some (string.filter fun character => character ≠ 0x2D) else none

/-- Two lines with a carriage return between them. -/
def carriageReturnFile : XrefFile 8 where
  characters := zeroGuidString ++ [0x20, 0x41, 0x0D] ++
    zeroGuidString.map (fun character => if character = 0x30 then 0x31 else character) ++
    [0x20, 0x42]
  terminated := by decide
  fits := by decide

theorem initGuid_carriageReturn :
    ∃ table, initGuid guidDigits 100 (fun _ => true) (some carriageReturnFile) none none =
        some table ∧
      table.mGuidStringCountMax = 1 ∧ table.calls = 2 ∧ table.asserted = true ∧
      table.mGuidString.length = 1 ∧ ¬ FillsTable guidDigits carriageReturnFile table :=
  ⟨_, rfl, by decide, by decide, by decide, by decide,
    fun filled => absurd filled.calls (by decide)⟩

end AppEfi.CoreDump
