import AppEfi.Lib.Tokens

/-!
# The tokenizers of SupportString.c

AsciiStrTokenLine and AsciiStrTokenField cut tokens out of a string in place: a NUL goes
over the delimiter behind each one, and a static pointer of each family keeps the place
to go on from.  Pointers are offsets in the buffer; `none` is a read behind its end, or
a loop that has no fuel left.
-/

set_option autoImplicit false

namespace AppEfi.CoreDump

open AppEfi.Tokens

/-- The characters of a C string, without the NUL. -/
abbrev AsciiString := { characters : List UInt8 // 0 ∉ characters }

/-- The buffer and the two static pointers. -/
structure TokenState where
  buffer : List UInt8
  mAsciiLineBuffer : Option Nat
  mAsciiFieldBuffer : Option Nat
  deriving DecidableEq

section Functions

variable (charSet : List UInt8)

/-- The characters are those from the pointer to the end of the buffer. -/
def asciiStrSpn : List UInt8 → Option Nat
  | [] => none
  | character :: rest =>
      if character = 0 then some 0
      else if character ∈ charSet then (asciiStrSpn rest).map (· + 1)
      else some 0

/-- The inner option is `NULL`, or the distance to the delimiter. -/
def asciiStrBrk : List UInt8 → Option (Option Nat)
  | [] => none
  | character :: rest =>
      if character = 0 then some none
      else if character ∈ charSet then some (some 0)
      else (asciiStrBrk rest).map fun found => found.map (· + 1)

/-- The end of both functions: the buffer and the static pointer that they leave. -/
def cutToken (buffer : List UInt8) (start : Nat) : Option (List UInt8 × Option Nat) := do
  match ← asciiStrBrk charSet (buffer.drop start) with
  | none => some (buffer, none)
  | some distance =>
      let finish := start + distance
      if (← buffer[finish]?) ≠ 0 then some (buffer.set finish 0, some (finish + 1))
      else some (buffer, some finish)

def asciiStrTokenLine (string : Option Nat) (state : TokenState) :
    Option (Option Nat × TokenState) :=
  match string.or state.mAsciiLineBuffer with
  | none => some (none, state)
  | some string => do
      let start := string + (← asciiStrSpn charSet (state.buffer.drop string))
      if (← state.buffer[start]?) = 0 then some (none, { state with mAsciiLineBuffer := none })
      else
        let (buffer, finish) ← cutToken charSet state.buffer start
        some (some start, { state with buffer := buffer, mAsciiLineBuffer := finish })

def asciiStrTokenField (string : Option Nat) (state : TokenState) :
    Option (Option Nat × TokenState) :=
  match string.or state.mAsciiFieldBuffer with
  | none => some (none, state)
  | some start => do
      if (← state.buffer[start]?) = 0 then some (none, { state with mAsciiFieldBuffer := none })
      else
        let (buffer, finish) ← cutToken charSet state.buffer start
        some (some start, { state with buffer := buffer, mAsciiFieldBuffer := finish })

/-- `while (Buf != NULL)`, which goes on while the token is empty. -/
def skipEmptyTokens (token : TokenState → Option (Option Nat × TokenState)) :
    Nat → Option Nat × TokenState → Option (Option Nat × TokenState)
  | 0, _ => none
  | _ + 1, (none, state) => some (none, state)
  | fuel + 1, (some buf, state) => do
      if (← state.buffer[buf]?) = 0 then skipEmptyTokens token fuel (← token state)
      else some (some buf, state)

variable (fuel : Nat)

def asciiStrGetNewTokenLine (string : Nat) (state : TokenState) :
    Option (Option Nat × TokenState) := do
  skipEmptyTokens (asciiStrTokenLine charSet none) fuel
    (← asciiStrTokenLine charSet (some string) state)

def asciiStrGetNextTokenLine (state : TokenState) : Option (Option Nat × TokenState) := do
  skipEmptyTokens (asciiStrTokenLine charSet none) fuel
    (← asciiStrTokenLine charSet none state)

def asciiStrGetNewTokenField (string : Nat) (state : TokenState) :
    Option (Option Nat × TokenState) := do
  skipEmptyTokens (asciiStrTokenField charSet none) fuel
    (← asciiStrTokenField charSet (some string) state)

def asciiStrGetNextTokenField (state : TokenState) : Option (Option Nat × TokenState) := do
  skipEmptyTokens (asciiStrTokenField charSet none) fuel
    (← asciiStrTokenField charSet none state)

end Functions

/-- The string at a pointer. -/
def asciiString (buffer : List UInt8) (pointer : Nat) : List UInt8 :=
  (buffer.drop pointer).takeWhile fun character => character ≠ 0

/-- The caller's loop over the tokens, each with what it reads when it is returned. -/
def forEachToken (getNextToken : TokenState → Option (Option Nat × TokenState)) :
    Nat → Option Nat × TokenState → Option (List (Nat × List UInt8) × TokenState)
  | 0, _ => none
  | _ + 1, (none, state) => some ([], state)
  | fuel + 1, (some token, state) => do
      let (tokens, after) ← forEachToken getNextToken fuel (← getNextToken state)
      some ((token, asciiString state.buffer token) :: tokens, after)

def lineTokens (charSet : List UInt8) (fuel string : Nat) (state : TokenState) :
    Option (List (Nat × List UInt8) × TokenState) := do
  forEachToken (asciiStrGetNextTokenLine charSet fuel) fuel
    (← asciiStrGetNewTokenLine charSet fuel string state)

def fieldTokens (charSet : List UInt8) (fuel string : Nat) (state : TokenState) :
    Option (List (Nat × List UInt8) × TokenState) := do
  forEachToken (asciiStrGetNextTokenField charSet fuel) fuel
    (← asciiStrGetNewTokenField charSet fuel string state)

/-! ## Strings in the buffer -/

def delimits (charSet : List UInt8) (character : UInt8) : Bool := decide (character ∈ charSet)

/-- The string from a pointer to its NUL, and what stands behind the NUL. -/
structure StringAt (buffer : List UInt8) (pointer : Nat) (text behind : List UInt8) : Prop where
  split : buffer.drop pointer = text ++ 0 :: behind
  terminated : 0 ∉ text

/-- The buffers agree outside of a range. -/
structure SameOutside (before after : List UInt8) (start finish : Nat) : Prop where
  length : after.length = before.length
  same : ∀ index, index < start ∨ finish ≤ index → after[index]? = before[index]?

namespace SameOutside

variable {before middle after : List UInt8} {start finish : Nat}

theorem refl (before : List UInt8) (start finish : Nat) : SameOutside before before start finish :=
  ⟨rfl, fun _ _ => rfl⟩

theorem trans (first : SameOutside before middle start finish)
    (second : SameOutside middle after start finish) : SameOutside before after start finish :=
  ⟨second.length.trans first.length, fun index outside =>
    (second.same index outside).trans (first.same index outside)⟩

theorem mono {low high : Nat} (same : SameOutside before after start finish) (below : low ≤ start)
    (above : finish ≤ high) : SameOutside before after low high :=
  ⟨same.length, fun index outside => same.same index (by omega)⟩

theorem set {index : Nat} (value : UInt8) (inside : start ≤ index ∧ index < finish) :
    SameOutside before (before.set index value) start finish :=
  ⟨List.length_set, fun other outside => List.getElem?_set_ne (by omega)⟩

/-- A string outside of the range is still there. -/
theorem stringAt {pointer : Nat} {text behind : List UInt8}
    (same : SameOutside before after start finish) (above : finish ≤ pointer)
    (held : StringAt before pointer text behind) : StringAt after pointer text behind := by
  refine ⟨?_, held.terminated⟩
  rw [← held.split]
  refine List.ext_getElem? fun index => ?_
  rw [List.getElem?_drop, List.getElem?_drop, same.same _ (by omega)]

theorem stringAt_below {pointer : Nat} {text behind : List UInt8}
    (same : SameOutside before after start finish) (below : pointer + text.length < start)
    (held : StringAt before pointer text behind) :
    ∃ behind, StringAt after pointer text behind := by
  have front : (after.drop pointer).take (text.length + 1) = text ++ [0] := by
    calc (after.drop pointer).take (text.length + 1)
        = (before.drop pointer).take (text.length + 1) := by
          refine List.ext_getElem? fun index => ?_
          rw [List.getElem?_take, List.getElem?_take, List.getElem?_drop, List.getElem?_drop]
          split
          · exact same.same _ (by omega)
          · rfl
      _ = text ++ [0] := by
          rw [held.split, List.append_cons]
          exact List.take_left' (by simp)
  refine ⟨(after.drop pointer).drop (text.length + 1), ?_, held.terminated⟩
  rw [List.append_cons, ← front, List.take_append_drop]

end SameOutside

section Strings

variable {buffer text behind : List UInt8} {pointer : Nat}

theorem StringAt.getElem? (held : StringAt buffer pointer text behind) {index : Nat}
    (within : index < text.length) : buffer[pointer + index]? = some text[index] := by
  rw [← List.getElem?_drop, held.split, List.getElem?_append_left within,
    List.getElem?_eq_getElem within]

theorem StringAt.head {first : UInt8} {rest : List UInt8}
    (held : StringAt buffer pointer (first :: rest) behind) :
    buffer[pointer]? = some first ∧ first ≠ 0 :=
  ⟨@StringAt.getElem? _ _ _ _ held 0 (Nat.succ_pos _),
    fun zero => held.terminated (zero ▸ List.mem_cons_self)⟩

theorem StringAt.getElem?_nul (held : StringAt buffer pointer text behind) :
    buffer[pointer + text.length]? = some 0 := by
  rw [← List.getElem?_drop, held.split, List.getElem?_append_right (Nat.le_refl _),
    Nat.sub_self, List.getElem?_cons_zero]

theorem StringAt.asciiString_eq (held : StringAt buffer pointer text behind) :
    asciiString buffer pointer = text := by
  rw [asciiString, held.split, List.takeWhile_append_of_pos]
  · simp
  · intro character listed
    exact decide_eq_true fun nul => held.terminated (nul ▸ listed)

theorem StringAt.drop {skipped : List UInt8}
    (held : StringAt buffer pointer (skipped ++ text) behind) :
    StringAt buffer (pointer + skipped.length) text behind := by
  refine ⟨?_, fun listed => held.terminated (List.mem_append_right _ listed)⟩
  rw [← List.drop_drop, held.split, List.append_assoc, List.drop_left]

/-- A NUL in the string cuts it. -/
theorem StringAt.cut {word rest : List UInt8} {delimiter : UInt8}
    (held : StringAt buffer pointer (word ++ delimiter :: rest) behind) :
    StringAt (buffer.set (pointer + word.length) 0) pointer word (rest ++ 0 :: behind) ∧
      StringAt (buffer.set (pointer + word.length) 0) (pointer + word.length + 1) rest
        behind := by
  have terminated := held.terminated
  rw [List.mem_append, List.mem_cons, not_or, not_or] at terminated
  have split := held.split
  constructor
  · refine ⟨?_, terminated.1⟩
    rw [List.drop_set, if_neg (by omega), Nat.add_sub_cancel_left, split, List.append_assoc,
      List.set_append_right _ _ (Nat.le_refl _), Nat.sub_self, List.cons_append,
      List.set_cons_zero]
  · refine ⟨?_, terminated.2.2⟩
    rw [List.drop_set, if_pos (by omega), Nat.add_assoc, ← List.drop_drop, split,
      List.append_assoc, List.cons_append, List.append_cons]
    exact List.drop_left' (by simp)

end Strings

/-! ## A single call -/

section Calls

variable {charSet : List UInt8}

theorem asciiStrSpn_eq {skipped : List UInt8} {character : UInt8}
    (all : ∀ other ∈ skipped, delimits charSet other = true) (nul : 0 ∉ skipped)
    (stops : character = 0 ∨ delimits charSet character = false) (rest : List UInt8) :
    asciiStrSpn charSet (skipped ++ character :: rest) = some skipped.length := by
  induction skipped with
  | nil =>
      rw [List.nil_append, asciiStrSpn]
      rcases stops with rfl | free
      · rfl
      · rw [if_neg (of_decide_eq_false free), ite_self, List.length_nil]
  | cons first others ih =>
      rw [List.mem_cons, not_or] at nul
      rw [List.forall_mem_cons] at all
      rw [List.cons_append, asciiStrSpn, if_neg (Ne.symm nul.1),
        if_pos (of_decide_eq_true all.1), ih all.2 nul.2, Option.map_some, List.length_cons]

theorem asciiStrBrk_cut {word rest : List UInt8} {delimiter : UInt8}
    (free : ∀ other ∈ word, delimits charSet other = false) (nul : 0 ∉ word)
    (found : delimits charSet delimiter = true) (notNul : delimiter ≠ 0) :
    asciiStrBrk charSet (word ++ delimiter :: rest) = some (some word.length) := by
  induction word with
  | nil => rw [List.nil_append, asciiStrBrk, if_neg notNul, if_pos (of_decide_eq_true found),
      List.length_nil]
  | cons first others ih =>
      rw [List.mem_cons, not_or] at nul
      rw [List.forall_mem_cons] at free
      rw [List.cons_append, asciiStrBrk, if_neg (Ne.symm nul.1),
        if_neg (of_decide_eq_false free.1), ih free.2 nul.2, Option.map_some, Option.map_some,
        List.length_cons]

theorem asciiStrBrk_free {text behind : List UInt8}
    (free : ∀ other ∈ text, delimits charSet other = false) (nul : 0 ∉ text) :
    asciiStrBrk charSet (text ++ 0 :: behind) = some none := by
  induction text with
  | nil => rw [List.nil_append, asciiStrBrk, if_pos rfl]
  | cons first others ih =>
      rw [List.mem_cons, not_or] at nul
      rw [List.forall_mem_cons] at free
      rw [List.cons_append, asciiStrBrk, if_neg (Ne.symm nul.1),
        if_neg (of_decide_eq_false free.1), ih free.2 nul.2, Option.map_some, Option.map_none]

/-- Where a static pointer leaves the string that ends at `finish`: the tokens that are left
are those from the pointer on. -/
def Left (charSet behind : List UInt8) (finish low : Nat) (buffer : List UInt8)
    (tokens : List (Nat × List UInt8)) : Option Nat → Prop
  | none => tokens = []
  | some pointer => low ≤ pointer ∧ ∃ text, StringAt buffer pointer text behind ∧
      pointer + text.length = finish ∧ tokensFrom (delimits charSet) pointer text = tokens

/-- What a call leaves.  Its token may still be empty. -/
def Called (charSet behind : List UInt8) (finish low : Nat) (before : List UInt8)
    (cursor : TokenState → Option Nat) (tokens : List (Nat × List UInt8)) :
    Option Nat × TokenState → Prop
  | (none, after) =>
      tokens = [] ∧ cursor after = none ∧ SameOutside before after.buffer low finish
  | (some token, after) =>
      low ≤ token ∧ SameOutside before after.buffer low finish ∧
        ∃ word rest left, StringAt after.buffer token word rest ∧
          token + word.length ≤ finish ∧ tokens = ofPiece token word ++ left ∧
          Left charSet behind finish (token + word.length + 1) after.buffer left (cursor after)

theorem cutToken_spec {buffer text behind : List UInt8} {start : Nat}
    (held : StringAt buffer start text behind) :
    ∃ after cursor word rest left, cutToken charSet buffer start = some (after, cursor) ∧
      SameOutside buffer after start (start + text.length) ∧ StringAt after start word rest ∧
      word.length ≤ text.length ∧
      tokensFrom (delimits charSet) start text = ofPiece start word ++ left ∧
      Left charSet behind (start + text.length) (start + word.length + 1) after left cursor := by
  have nul := held.terminated
  rcases @free_or_cut _ (delimits charSet) text with
    free | ⟨word, delimiter, rest, rfl, free, found⟩
  · refine ⟨buffer, none, text, behind, [], ?_, SameOutside.refl .., held, Nat.le_refl _, ?_, rfl⟩
    · rw [cutToken, held.split, asciiStrBrk_free free nul]
      rfl
    · rw [tokensFrom_of_free free, List.append_nil]
  · rw [List.mem_append, List.mem_cons, not_or, not_or] at nul
    have character : buffer[start + word.length]? = some delimiter := by
      rw [held.getElem? (by simp)]
      simp
    obtain ⟨cut, later⟩ := held.cut
    have length : (word ++ delimiter :: rest).length = word.length + 1 + rest.length := by
      simp [Nat.add_assoc, Nat.add_comm 1]
    refine ⟨buffer.set (start + word.length) 0, some (start + word.length + 1), word, _, _, ?_,
      SameOutside.set 0 (by omega), cut, by omega, tokensFrom_append free found start rest,
      Nat.le_refl _, rest, later, by omega, by rw [Nat.add_assoc]⟩
    rw [cutToken, held.split, List.append_assoc, List.cons_append,
      asciiStrBrk_cut free nul.1 found (Ne.symm nul.2.1)]
    simp [character, Ne.symm nul.2.1]

theorem Called.mono {finish low lower : Nat} {behind before : List UInt8}
    {cursor : TokenState → Option Nat} {tokens : List (Nat × List UInt8)}
    {result : Option Nat × TokenState}
    (called : Called charSet behind finish low before cursor tokens result) (le : lower ≤ low) :
    Called charSet behind finish lower before cursor tokens result := by
  obtain ⟨token, after⟩ := result
  cases token with
  | none => exact ⟨called.1, called.2.1, called.2.2.mono le (Nat.le_refl _)⟩
  | some token =>
      obtain ⟨above, same, found⟩ := called
      exact ⟨Nat.le_trans le above, same.mono le (Nat.le_refl _), found⟩

variable {state : TokenState} {text behind : List UInt8} {pointer : Nat}

theorem asciiStrTokenField_spec (string : Option Nat)
    (start : string.or state.mAsciiFieldBuffer = some pointer)
    (held : StringAt state.buffer pointer text behind) :
    ∃ result, asciiStrTokenField charSet string state = some result ∧
      Called charSet behind (pointer + text.length) pointer state.buffer
        TokenState.mAsciiFieldBuffer (tokensFrom (delimits charSet) pointer text) result := by
  simp only [asciiStrTokenField, start]
  cases text with
  | nil =>
      have nul : state.buffer[pointer]? = some 0 := held.getElem?_nul
      exact ⟨(none, { state with mAsciiFieldBuffer := none }), by simp [nul],
        tokensFrom_nil pointer, rfl, SameOutside.refl ..⟩
  | cons first rest =>
      obtain ⟨character, notNul⟩ := held.head
      obtain ⟨after, cursor, word, others, left, cut, same, stands, short, tokens, cursorLeft⟩ :=
        @cutToken_spec charSet _ _ _ _ held
      exact ⟨(some pointer, { state with buffer := after, mAsciiFieldBuffer := cursor }),
        by simp [character, notNul, cut], Nat.le_refl _, same, word, others, left, stands,
        by omega, tokens, cursorLeft⟩

/-- AsciiStrTokenLine goes over the delimiters in front of its token. -/
theorem asciiStrTokenLine_spec (string : Option Nat)
    (start : string.or state.mAsciiLineBuffer = some pointer)
    (held : StringAt state.buffer pointer text behind) :
    ∃ result, asciiStrTokenLine charSet string state = some result ∧
      Called charSet behind (pointer + text.length) pointer state.buffer
        TokenState.mAsciiLineBuffer (tokensFrom (delimits charSet) pointer text) result := by
  simp only [asciiStrTokenLine, start]
  have nul := held.terminated
  rcases @delimiters_or_skip _ (delimits charSet) text with
    all | ⟨skipped, first, rest, rfl, all, free⟩
  · have spn := asciiStrSpn_eq all nul (Or.inl rfl) behind
    have none := tokensFrom_skip all pointer []
    rw [List.append_nil, tokensFrom_nil] at none
    exact ⟨(.none, { state with mAsciiLineBuffer := .none }),
      by simp [held.split, spn, held.getElem?_nul], none, rfl, SameOutside.refl ..⟩
  · have later := held.drop
    rw [List.mem_append, not_or] at nul
    have spn := asciiStrSpn_eq all nul.1 (Or.inr free) (rest ++ 0 :: behind)
    obtain ⟨character, notNul⟩ := later.head
    obtain ⟨after, cursor, word, others, left, cut, same, stands, short, tokens, cursorLeft⟩ :=
      @cutToken_spec charSet _ _ _ _ later
    rw [tokensFrom_skip all, List.length_append, ← Nat.add_assoc]
    exact ⟨(some (pointer + skipped.length),
        { state with buffer := after, mAsciiLineBuffer := cursor }),
      by simp [held.split, spn, character, notNul, cut], Nat.le_add_right _ _,
      same.mono (Nat.le_add_right _ _) (Nat.le_refl _), word, others, left, stands, by omega,
      tokens, cursorLeft⟩

end Calls

/-! ## The loops -/

section Loops

variable {charSet behind : List UInt8} {finish : Nat} {cursor : TokenState → Option Nat}
variable {token getNextToken : TokenState → Option (Option Nat × TokenState)}

/-- A call that goes on from the static pointer. -/
def GoesOn (charSet behind : List UInt8) (finish : Nat) (cursor : TokenState → Option Nat)
    (token : TokenState → Option (Option Nat × TokenState)) : Prop :=
  ∀ state tokens low, Left charSet behind finish low state.buffer tokens (cursor state) →
    ∃ result, token state = some result ∧
      Called charSet behind finish low state.buffer cursor tokens result

theorem asciiStrTokenLine_goesOn :
    GoesOn charSet behind finish TokenState.mAsciiLineBuffer (asciiStrTokenLine charSet none) := by
  intro state tokens low left
  cases stands : state.mAsciiLineBuffer with
  | none =>
      rw [stands] at left
      exact ⟨(none, state), by rw [asciiStrTokenLine, stands]; rfl, left, stands,
        SameOutside.refl ..⟩
  | some pointer =>
      rw [stands] at left
      obtain ⟨above, text, held, rfl, rfl⟩ := left
      obtain ⟨result, call, called⟩ := asciiStrTokenLine_spec none stands held
      exact ⟨result, call, called.mono above⟩

theorem asciiStrTokenField_goesOn :
    GoesOn charSet behind finish TokenState.mAsciiFieldBuffer
      (asciiStrTokenField charSet none) := by
  intro state tokens low left
  cases stands : state.mAsciiFieldBuffer with
  | none =>
      rw [stands] at left
      exact ⟨(none, state), by rw [asciiStrTokenField, stands]; rfl, left, stands,
        SameOutside.refl ..⟩
  | some pointer =>
      rw [stands] at left
      obtain ⟨above, text, held, rfl, rfl⟩ := left
      obtain ⟨result, call, called⟩ := asciiStrTokenField_spec none stands held
      exact ⟨result, call, called.mono above⟩

/-- What AsciiStrGetNewToken and AsciiStrGetNextToken leave: the first of the tokens. -/
def Found (charSet behind : List UInt8) (finish low : Nat) (before : List UInt8)
    (cursor : TokenState → Option Nat) (tokens : List (Nat × List UInt8)) :
    Option Nat × TokenState → Prop
  | (none, after) =>
      tokens = [] ∧ cursor after = none ∧ SameOutside before after.buffer low finish
  | (some token, after) =>
      low ≤ token ∧ SameOutside before after.buffer low finish ∧
        ∃ word rest left, StringAt after.buffer token word rest ∧ word ≠ [] ∧
          token + word.length ≤ finish ∧ tokens = (token, word) :: left ∧
          Left charSet behind finish (token + word.length + 1) after.buffer left (cursor after)

theorem skipEmptyTokens_spec (goesOn : GoesOn charSet behind finish cursor token) {low : Nat}
    {before : List UInt8} {tokens : List (Nat × List UInt8)} {result : Option Nat × TokenState}
    (called : Called charSet behind finish low before cursor tokens result)
    (inside : low ≤ finish + 1) {fuel : Nat} (enough : finish + 1 < low + fuel) :
    ∃ found, skipEmptyTokens token fuel result = some found ∧
      Found charSet behind finish low before cursor tokens found := by
  induction fuel generalizing result low before tokens with
  | zero => omega
  | succ fuel ih =>
      obtain ⟨buf, after⟩ := result
      cases buf with
      | none => exact ⟨(none, after), rfl, called⟩
      | some buf =>
          obtain ⟨above, same, word, rest, left, held, within, rfl, cursorLeft⟩ := called
          cases word with
          | cons first others =>
              obtain ⟨character, notNul⟩ := held.head
              refine ⟨(some buf, after), by simp [skipEmptyTokens, character, notNul], above,
                same, first :: others, rest, left, held, List.cons_ne_nil _ _, within, rfl,
                cursorLeft⟩
          | nil =>
              -- An empty token is passed over; the pointer is behind its NUL.
              have nul : after.buffer[buf]? = some 0 := held.getElem?_nul
              rw [List.length_nil, Nat.add_zero] at within
              obtain ⟨next, call, nextCalled⟩ := goesOn after left (buf + 1) cursorLeft
              obtain ⟨found, run, foundNext⟩ := ih nextCalled (by omega) (by omega)
              refine ⟨found, by simp [skipEmptyTokens, nul, call, run], ?_⟩
              obtain ⟨first, last⟩ := found
              cases first with
              | none =>
                  obtain ⟨noTokens, stops, sameNext⟩ := foundNext
                  exact ⟨noTokens, stops, same.trans (sameNext.mono (by omega) (Nat.le_refl _))⟩
              | some first =>
                  obtain ⟨aboveNext, sameNext, more⟩ := foundNext
                  exact ⟨by omega, same.trans (sameNext.mono (by omega) (Nat.le_refl _)), more⟩

/-- A family's function for the next token, run on what an earlier call left. -/
def FindsNext (charSet behind : List UInt8) (finish : Nat) (cursor : TokenState → Option Nat)
    (getNextToken : TokenState → Option (Option Nat × TokenState)) : Prop :=
  ∀ state tokens low, low ≤ finish + 1 →
    Left charSet behind finish low state.buffer tokens (cursor state) →
      ∃ found, getNextToken state = some found ∧
        Found charSet behind finish low state.buffer cursor tokens found

theorem findsNext (goesOn : GoesOn charSet behind finish cursor token) {fuel : Nat}
    (enough : finish + 1 < fuel) :
    FindsNext charSet behind finish cursor
      (fun state => do skipEmptyTokens token fuel (← token state)) := by
  intro state tokens low inside left
  obtain ⟨result, call, called⟩ := goesOn state tokens low left
  obtain ⟨found, run, finds⟩ := @skipEmptyTokens_spec _ _ _ _ _ goesOn _ _ _ _ called inside fuel
    (by omega)
  exact ⟨found, by simp [call, run], finds⟩

/-- The loop of the caller returns the tokens and ends. -/
theorem forEachToken_spec (finds : FindsNext charSet behind finish cursor getNextToken)
    {low : Nat} {before : List UInt8} {tokens : List (Nat × List UInt8)}
    {result : Option Nat × TokenState}
    (found : Found charSet behind finish low before cursor tokens result)
    (inside : low ≤ finish + 1) {fuel : Nat} (enough : finish + 1 < low + fuel) :
    ∃ after, forEachToken getNextToken fuel result = some (tokens, after) ∧
      cursor after = none ∧ SameOutside before after.buffer low finish := by
  induction fuel generalizing result low before tokens with
  | zero => omega
  | succ fuel ih =>
      obtain ⟨token, state⟩ := result
      cases token with
      | none =>
          obtain ⟨rfl, stops, same⟩ := found
          exact ⟨state, rfl, stops, same⟩
      | some token =>
          obtain ⟨above, same, word, rest, left, held, nonempty, within, rfl, cursorLeft⟩ := found
          obtain ⟨next, call, foundNext⟩ := finds state left _ (by omega) cursorLeft
          obtain ⟨after, run, stops, sameNext⟩ := ih foundNext (by omega) (by omega)
          refine ⟨after, ?_, stops, same.trans (sameNext.mono (by omega) (Nat.le_refl _))⟩
          simp [forEachToken, call, run, held.asciiString_eq]

end Loops

/-! ## Both families -/

section Families

variable {charSet text behind : List UInt8} {state : TokenState} {pointer fuel : Nat}

theorem asciiStrGetNewTokenLine_spec (held : StringAt state.buffer pointer text behind)
    (enough : pointer + text.length + 1 < fuel) :
    ∃ found, asciiStrGetNewTokenLine charSet fuel pointer state = some found ∧
      Found charSet behind (pointer + text.length) pointer state.buffer
        TokenState.mAsciiLineBuffer (tokensFrom (delimits charSet) pointer text) found := by
  obtain ⟨result, call, called⟩ :=
    @asciiStrTokenLine_spec charSet _ _ _ _ (some pointer) rfl held
  obtain ⟨found, skip, finds⟩ := @skipEmptyTokens_spec _ _ _ _ _ asciiStrTokenLine_goesOn _ _ _ _
    called (by omega) fuel (by omega)
  refine ⟨found, ?_, finds⟩
  simp only [asciiStrGetNewTokenLine, call, Option.bind_eq_bind, Option.bind_some]
  exact skip

theorem lineTokens_eq (held : StringAt state.buffer pointer text behind)
    (enough : pointer + text.length + 1 < fuel) :
    ∃ after, lineTokens charSet fuel pointer state =
        some (tokensFrom (delimits charSet) pointer text, after) ∧
      after.mAsciiLineBuffer = none ∧
      SameOutside state.buffer after.buffer pointer (pointer + text.length) := by
  obtain ⟨first, call, found⟩ := @asciiStrGetNewTokenLine_spec charSet _ _ _ _ _ held enough
  have reaches : pointer + text.length + 1 < pointer + fuel := by omega
  obtain ⟨after, run, stops, same⟩ := forEachToken_spec
    (findsNext asciiStrTokenLine_goesOn enough) found (by omega) reaches
  refine ⟨after, ?_, stops, same⟩
  simp only [lineTokens, call, Option.bind_eq_bind, Option.bind_some]
  exact run

theorem asciiStrGetNewTokenField_spec (held : StringAt state.buffer pointer text behind)
    (enough : pointer + text.length + 1 < fuel) :
    ∃ found, asciiStrGetNewTokenField charSet fuel pointer state = some found ∧
      Found charSet behind (pointer + text.length) pointer state.buffer
        TokenState.mAsciiFieldBuffer (tokensFrom (delimits charSet) pointer text) found := by
  obtain ⟨result, call, called⟩ :=
    @asciiStrTokenField_spec charSet _ _ _ _ (some pointer) rfl held
  obtain ⟨found, skip, finds⟩ := @skipEmptyTokens_spec _ _ _ _ _ asciiStrTokenField_goesOn _ _ _ _
    called (by omega) fuel (by omega)
  refine ⟨found, ?_, finds⟩
  simp only [asciiStrGetNewTokenField, call, Option.bind_eq_bind, Option.bind_some]
  exact skip

theorem fieldTokens_eq (held : StringAt state.buffer pointer text behind)
    (enough : pointer + text.length + 1 < fuel) :
    ∃ after, fieldTokens charSet fuel pointer state =
        some (tokensFrom (delimits charSet) pointer text, after) ∧
      after.mAsciiFieldBuffer = none ∧
      SameOutside state.buffer after.buffer pointer (pointer + text.length) := by
  obtain ⟨first, call, found⟩ := @asciiStrGetNewTokenField_spec charSet _ _ _ _ _ held enough
  have reaches : pointer + text.length + 1 < pointer + fuel := by omega
  obtain ⟨after, run, stops, same⟩ := forEachToken_spec
    (findsNext asciiStrTokenField_goesOn enough) found (by omega) reaches
  refine ⟨after, ?_, stops, same⟩
  simp only [fieldTokens, call, Option.bind_eq_bind, Option.bind_some]
  exact run

/-! ## The fields leave the line pointer alone -/

theorem asciiStrTokenField_keeps {string : Option Nat} {result : Option Nat × TokenState}
    (call : asciiStrTokenField charSet string state = some result) :
    result.2.mAsciiLineBuffer = state.mAsciiLineBuffer := by
  rw [asciiStrTokenField] at call
  split at call
  · cases call
    rfl
  · simp only [Option.bind_eq_bind, Option.bind_eq_some_iff] at call
    obtain ⟨character, _, call⟩ := call
    split at call
    · cases call
      rfl
    · obtain ⟨cut, _, call⟩ := Option.bind_eq_some_iff.mp call
      cases call
      rfl

theorem skipEmptyTokens_keeps {start found : Option Nat × TokenState}
    (call : skipEmptyTokens (asciiStrTokenField charSet none) fuel start = some found) :
    found.2.mAsciiLineBuffer = start.2.mAsciiLineBuffer := by
  induction fuel generalizing start with
  | zero => cases call
  | succ fuel ih =>
      obtain ⟨buf, state⟩ := start
      cases buf with
      | none =>
          cases call
          rfl
      | some buf =>
          simp only [skipEmptyTokens, Option.bind_eq_bind, Option.bind_eq_some_iff] at call
          obtain ⟨character, _, call⟩ := call
          split at call
          · obtain ⟨next, token, call⟩ := Option.bind_eq_some_iff.mp call
            exact (ih call).trans (asciiStrTokenField_keeps token)
          · cases call
            rfl

theorem asciiStrGetNewTokenField_keeps {found : Option Nat × TokenState}
    (call : asciiStrGetNewTokenField charSet fuel pointer state = some found) :
    found.2.mAsciiLineBuffer = state.mAsciiLineBuffer := by
  obtain ⟨result, token, skip⟩ := Option.bind_eq_some_iff.mp call
  exact (skipEmptyTokens_keeps skip).trans (asciiStrTokenField_keeps token)

theorem asciiStrGetNextTokenField_keeps {found : Option Nat × TokenState}
    (call : asciiStrGetNextTokenField charSet fuel state = some found) :
    found.2.mAsciiLineBuffer = state.mAsciiLineBuffer := by
  obtain ⟨result, token, skip⟩ := Option.bind_eq_some_iff.mp call
  exact (skipEmptyTokens_keeps skip).trans (asciiStrTokenField_keeps token)

/-! ## Every maximal run -/

/-- The maximal runs of the string that begins at `base`, each once and in order. -/
structure MaximalRuns (charSet text : List UInt8) (base : Nat)
    (tokens : List (Nat × List UInt8)) : Prop where
  sorted : tokens.Pairwise fun first second => first.1 < second.1
  runs : ∀ start word, (start, word) ∈ tokens ↔
    ∃ offset, start = base + offset ∧ MaximalRun (delimits charSet) text offset word

theorem tokensFrom_maximalRuns : MaximalRuns charSet text pointer
    (tokensFrom (delimits charSet) pointer text) :=
  ⟨tokensFrom_sorted pointer text, fun _ _ => mem_tokensFrom_iff⟩

/-- Both families return the maximal runs and end, whatever stands behind the NUL: where
nothing does, a read past it would have no result. -/
theorem tokenLoops_enumerate (charSet : List UInt8) (string : AsciiString)
    (before : List UInt8) :
    ∃ tokens, MaximalRuns charSet string.val before.length tokens ∧
      ∀ behind line field more,
        let state : TokenState := ⟨before ++ (string.val ++ 0 :: behind), line, field⟩
        let finish := before.length + string.val.length
        (∃ after, lineTokens charSet (finish + 2 + more) before.length state =
            some (tokens, after) ∧ after.mAsciiLineBuffer = none ∧
            SameOutside state.buffer after.buffer before.length finish) ∧
          ∃ after, fieldTokens charSet (finish + 2 + more) before.length state =
            some (tokens, after) ∧ after.mAsciiFieldBuffer = none ∧
            SameOutside state.buffer after.buffer before.length finish := by
  refine ⟨_, tokensFrom_maximalRuns, fun behind line field more => ?_⟩
  have held : StringAt (before ++ (string.val ++ 0 :: behind)) before.length string.val behind :=
    ⟨List.drop_left, string.property⟩
  exact ⟨lineTokens_eq held (by omega), fieldTokens_eq held (by omega)⟩

end Families

example : (lineTokens [0x2C] 8 0 ⟨[0x2C, 0x61, 0x2C, 0x2C, 0x62, 0], none, none⟩).map Prod.fst =
    some [(1, [0x61]), (4, [0x62])] := by decide

example : (fieldTokens [0x2C] 8 0 ⟨[0x2C, 0x61, 0x2C, 0x2C, 0x62, 0], none, none⟩).map Prod.fst =
    some [(1, [0x61]), (4, [0x62])] := by decide

end AppEfi.CoreDump
