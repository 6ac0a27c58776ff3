import AppEfi.Lib.RecordWalk

/-!
# Tokens of a text

The tokens of a text are its non-empty maximal runs without delimiters, in order, each
with its position.  A text is cut at its delimiters; what is empty between two of them
is no token.
-/

set_option autoImplicit false

namespace AppEfi.Tokens

open AppEfi.RecordWalk

variable {Symbol : Type} (isDelimiter : Symbol → Bool)

def tokensFrom (position : Nat) (text : List Symbol) : List (Nat × List Symbol) :=
  (placed (fun piece => piece.length + 1) position (text.splitOnP isDelimiter)).filter
    fun token => token.2 ≠ []

def words (text : List Symbol) : List (List Symbol) :=
  (text.splitOnP isDelimiter).filter fun piece => piece ≠ []

/-- The word stands at `start` of the text, between delimiters or the ends. -/
structure MaximalRun (text : List Symbol) (start : Nat) (word : List Symbol) : Prop where
  nonempty : word ≠ []
  free : ∀ symbol ∈ word, isDelimiter symbol = false
  between : ∃ before behind, text = before ++ word ++ behind ∧ before.length = start ∧
    (∀ symbol ∈ before.getLast?, isDelimiter symbol = true) ∧
    ∀ symbol ∈ behind.head?, isDelimiter symbol = true

variable {isDelimiter}

/-! ## Cutting at the first delimiter -/

/-- A piece of text as a token, if it is one. -/
def ofPiece (position : Nat) (piece : List Symbol) : List (Nat × List Symbol) :=
  if piece = [] then [] else [(position, piece)]

theorem tokensFrom_of_free {piece : List Symbol}
    (free : ∀ symbol ∈ piece, isDelimiter symbol = false) (position : Nat) :
    tokensFrom isDelimiter position piece = ofPiece position piece := by
  rw [tokensFrom, List.splitOnP_eq_singleton free, placed, placed, ofPiece]
  by_cases empty : piece = []
  · simp [empty]
  · simp [empty]

theorem tokensFrom_append {piece : List Symbol} {delimiter : Symbol}
    (free : ∀ symbol ∈ piece, isDelimiter symbol = false)
    (delimits : isDelimiter delimiter = true) (position : Nat) (rest : List Symbol) :
    tokensFrom isDelimiter position (piece ++ delimiter :: rest) =
      ofPiece position piece ++
        tokensFrom isDelimiter (position + (piece.length + 1)) rest := by
  rw [tokensFrom, List.splitOnP_append_cons_of_forall_mem free _ delimits, placed,
    List.filter_cons, ofPiece]
  by_cases empty : piece = []
  · simp [empty, tokensFrom]
  · simp [empty, tokensFrom]

@[simp] theorem tokensFrom_nil (position : Nat) : tokensFrom isDelimiter position [] = [] := rfl

theorem tokensFrom_skip {skipped : List Symbol}
    (all : ∀ symbol ∈ skipped, isDelimiter symbol = true) (position : Nat)
    (text : List Symbol) :
    tokensFrom isDelimiter position (skipped ++ text) =
      tokensFrom isDelimiter (position + skipped.length) text := by
  induction skipped generalizing position with
  | nil => rfl
  | cons symbol rest ih =>
      rw [List.forall_mem_cons] at all
      have first := @tokensFrom_append _ isDelimiter [] symbol
        (fun _ listed => absurd listed List.not_mem_nil) all.1 position (rest ++ text)
      rw [List.cons_append, ← List.nil_append (symbol :: _), first, ih all.2, List.length_cons,
        List.length_nil, Nat.zero_add, Nat.add_assoc, Nat.add_comm 1]
      rfl

theorem map_snd_tokensFrom (position : Nat) (text : List Symbol) :
    (tokensFrom isDelimiter position text).map Prod.snd = words isDelimiter text := by
  rw [tokensFrom, words]
  induction text.splitOnP isDelimiter generalizing position with
  | nil => rfl
  | cons piece rest ih =>
      by_cases empty : piece = []
      · simpa [placed, empty] using ih (position + 1)
      · simpa [placed, empty] using ih (position + (piece.length + 1))

/-- A text is free of delimiters, or it is cut at the first one. -/
theorem free_or_cut (text : List Symbol) :
    (∀ symbol ∈ text, isDelimiter symbol = false) ∨
      ∃ piece delimiter rest, text = piece ++ delimiter :: rest ∧
        (∀ symbol ∈ piece, isDelimiter symbol = false) ∧ isDelimiter delimiter = true := by
  induction text with
  | nil => exact Or.inl fun symbol listed => absurd listed List.not_mem_nil
  | cons symbol text ih =>
      cases delimits : isDelimiter symbol with
      | true =>
          exact Or.inr ⟨[], symbol, text, rfl, fun _ listed => absurd listed List.not_mem_nil,
            delimits⟩
      | false =>
          rcases ih with free | ⟨piece, delimiter, rest, rfl, free, cut⟩
          · exact Or.inl (List.forall_mem_cons.mpr ⟨delimits, free⟩)
          · exact Or.inr ⟨symbol :: piece, delimiter, rest, rfl,
              List.forall_mem_cons.mpr ⟨delimits, free⟩, cut⟩

/-- A text is delimiters only, or has some in front of its first other symbol. -/
theorem delimiters_or_skip (text : List Symbol) :
    (∀ symbol ∈ text, isDelimiter symbol = true) ∨
      ∃ skipped first rest, text = skipped ++ first :: rest ∧
        (∀ symbol ∈ skipped, isDelimiter symbol = true) ∧ isDelimiter first = false := by
  induction text with
  | nil => exact Or.inl fun symbol listed => absurd listed List.not_mem_nil
  | cons symbol text ih =>
      cases delimits : isDelimiter symbol with
      | false =>
          exact Or.inr ⟨[], symbol, text, rfl, fun _ listed => absurd listed List.not_mem_nil,
            delimits⟩
      | true =>
          rcases ih with all | ⟨skipped, first, rest, rfl, all, free⟩
          · exact Or.inl (List.forall_mem_cons.mpr ⟨delimits, all⟩)
          · exact Or.inr ⟨symbol :: skipped, first, rest, rfl,
              List.forall_mem_cons.mpr ⟨delimits, all⟩, free⟩

/-- Induction on a text, cut by cut. -/
theorem cut_induction {motive : List Symbol → Prop}
    (free : ∀ piece, (∀ symbol ∈ piece, isDelimiter symbol = false) → motive piece)
    (cut : ∀ piece delimiter rest, (∀ symbol ∈ piece, isDelimiter symbol = false) →
      isDelimiter delimiter = true → motive rest → motive (piece ++ delimiter :: rest))
    (text : List Symbol) : motive text := by
  induction length : text.length using Nat.strongRecOn generalizing text with
  | ind length_ ih =>
      rcases @free_or_cut _ isDelimiter text with none | ⟨piece, delimiter, rest, rfl, first, at_⟩
      · exact free text none
      · refine cut piece delimiter rest first at_ (ih rest.length ?_ rest rfl)
        rw [← length, List.length_append, List.length_cons]
        omega

/-! ## Every maximal run, once -/

theorem placed_sorted {Record : Type} {length : Record → Nat}
    (positive : ∀ record, 0 < length record) (position : Nat) (records : List Record) :
    (placed length position records).Pairwise fun first second => first.1 < second.1 := by
  induction records generalizing position with
  | nil => exact List.Pairwise.nil
  | cons record rest ih =>
      refine List.pairwise_cons.mpr ⟨fun later listed => ?_, ih _⟩
      have bounds := placed_bounds listed
      have forward := positive record
      dsimp only
      omega

theorem tokensFrom_sorted (position : Nat) (text : List Symbol) :
    (tokensFrom isDelimiter position text).Pairwise fun first second => first.1 < second.1 :=
  (placed_sorted (fun _ => Nat.succ_pos _) position _).filter _

theorem mem_ofPiece {position start : Nat} {piece word : List Symbol} :
    (start, word) ∈ ofPiece position piece ↔ piece ≠ [] ∧ start = position ∧ word = piece := by
  rw [ofPiece]
  by_cases empty : piece = []
  · simp [empty]
  · simp [empty]

theorem not_last_of_free {before behind : List Symbol}
    (free : ∀ symbol ∈ before ++ behind, isDelimiter symbol = false)
    (last : ∀ symbol ∈ before.getLast?, isDelimiter symbol = true) : before = [] := by
  rcases List.eq_nil_or_concat' before with empty | ⟨init, symbol, rfl⟩
  · exact empty
  · have delimits := last symbol (by simp)
    rw [free symbol (by simp)] at delimits
    cases delimits

theorem not_head_of_free {before behind : List Symbol}
    (free : ∀ symbol ∈ before ++ behind, isDelimiter symbol = false)
    (head : ∀ symbol ∈ behind.head?, isDelimiter symbol = true) : behind = [] := by
  cases behind with
  | nil => rfl
  | cons symbol rest =>
      have delimits := head symbol rfl
      rw [free symbol (by simp)] at delimits
      cases delimits

theorem maximalRun_free {piece word : List Symbol} {start : Nat}
    (free : ∀ symbol ∈ piece, isDelimiter symbol = false) :
    MaximalRun isDelimiter piece start word ↔ piece ≠ [] ∧ start = 0 ∧ word = piece := by
  constructor
  · rintro ⟨nonempty, _, before, behind, rfl, rfl, last, head⟩
    obtain rfl := not_head_of_free free head
    rw [List.append_nil] at free
    obtain rfl := not_last_of_free free last
    simpa using nonempty
  · rintro ⟨nonempty, rfl, rfl⟩
    exact ⟨nonempty, free, [], [], by simp, rfl, by simp, by simp⟩

/-- What stands before a word behind a delimiter ends as what stands between them. -/
theorem last_behind_iff {piece before : List Symbol} {delimiter : Symbol}
    (delimits : isDelimiter delimiter = true) :
    (∀ symbol ∈ (piece ++ delimiter :: before).getLast?, isDelimiter symbol = true) ↔
      ∀ symbol ∈ before.getLast?, isDelimiter symbol = true := by
  rcases List.eq_nil_or_concat' before with rfl | ⟨init, symbol, rfl⟩
  · simpa using delimits
  · have regroup : piece ++ delimiter :: (init ++ [symbol]) =
        (piece ++ delimiter :: init) ++ [symbol] := by simp
    rw [regroup, List.getLast?_concat, List.getLast?_concat]

/-- A word at the start of a text without a delimiter up to one. -/
theorem run_eq_piece {piece rest word behind : List Symbol} {delimiter : Symbol}
    (free : ∀ symbol ∈ piece, isDelimiter symbol = false)
    (delimits : isDelimiter delimiter = true)
    (wordFree : ∀ symbol ∈ word, isDelimiter symbol = false)
    (head : ∀ symbol ∈ behind.head?, isDelimiter symbol = true)
    (split : piece ++ delimiter :: rest = word ++ behind) : word = piece := by
  rw [List.append_eq_append_iff] at split
  rcases split with ⟨more, rfl, split⟩ | ⟨more, rfl, split⟩
  · cases more with
    | nil => exact List.append_nil piece
    | cons symbol more =>
        obtain ⟨rfl, _⟩ := List.cons.inj split
        rw [wordFree delimiter (by simp)] at delimits
        cases delimits
  · have headMore : ∀ symbol ∈ more.head?, isDelimiter symbol = true := by
      intro symbol first
      refine head symbol ?_
      rw [split, List.head?_append, Option.mem_def.mp first]
      rfl
    obtain rfl := not_head_of_free free headMore
    exact (List.append_nil word).symm

theorem maximalRun_append {piece rest word : List Symbol} {delimiter : Symbol} {start : Nat}
    (free : ∀ symbol ∈ piece, isDelimiter symbol = false)
    (delimits : isDelimiter delimiter = true) :
    MaximalRun isDelimiter (piece ++ delimiter :: rest) start word ↔
      (piece ≠ [] ∧ start = 0 ∧ word = piece) ∨
        ∃ offset, start = piece.length + 1 + offset ∧
          MaximalRun isDelimiter rest offset word := by
  constructor
  · rintro ⟨nonempty, wordFree, before, behind, split, rfl, last, head⟩
    rw [List.append_assoc, List.append_eq_append_iff] at split
    rcases split with ⟨middle, rfl, split⟩ | ⟨middle, rfl, split⟩
    · -- The word begins behind the piece, and so behind the delimiter.
      right
      cases middle with
      | nil =>
          obtain ⟨first, others, rfl⟩ := List.exists_cons_of_ne_nil nonempty
          rw [List.nil_append, List.cons_append] at split
          rw [(List.cons.inj split).1, wordFree first List.mem_cons_self] at delimits
          cases delimits
      | cons symbol middle =>
          rw [List.cons_append] at split
          obtain ⟨rfl, rfl⟩ := List.cons.inj split
          refine ⟨middle.length, ?_, nonempty, wordFree, middle, behind, ?_, rfl,
            (last_behind_iff delimits).mp last, head⟩
          · simp only [List.length_append, List.length_cons]
            omega
          · rw [List.append_assoc]
    · -- It begins in the piece, and so at its start.
      left
      obtain rfl := not_last_of_free free last
      rw [List.nil_append] at free ⊢
      have same := run_eq_piece free delimits wordFree head split.symm
      subst same
      exact ⟨nonempty, rfl, rfl⟩
  · rintro (⟨nonempty, rfl, rfl⟩ | ⟨offset, rfl, nonempty, wordFree, before, behind, rfl, rfl,
      last, head⟩)
    · exact ⟨nonempty, free, [], delimiter :: rest, rfl, rfl, by simp, by simpa using delimits⟩
    · refine ⟨nonempty, wordFree, piece ++ delimiter :: before, behind, by simp, ?_,
        (last_behind_iff delimits).mpr last, head⟩
      simp only [List.length_append, List.length_cons]
      omega

theorem mem_tokensFrom_iff {text : List Symbol} {position start : Nat} {word : List Symbol} :
    (start, word) ∈ tokensFrom isDelimiter position text ↔
      ∃ offset, start = position + offset ∧ MaximalRun isDelimiter text offset word := by
  induction text using @cut_induction _ isDelimiter generalizing position with
  | free piece free =>
      rw [tokensFrom_of_free free, mem_ofPiece]
      simp only [maximalRun_free free]
      constructor
      · rintro ⟨nonempty, rfl, rfl⟩
        exact ⟨0, rfl, nonempty, rfl, rfl⟩
      · rintro ⟨offset, rfl, nonempty, rfl, rfl⟩
        exact ⟨nonempty, rfl, rfl⟩
  | cut piece delimiter rest free delimits ih =>
      rw [tokensFrom_append free delimits, List.mem_append, mem_ofPiece, ih]
      simp only [maximalRun_append free delimits]
      constructor
      · rintro (⟨nonempty, rfl, rfl⟩ | ⟨offset, rfl, run⟩)
        · exact ⟨0, rfl, Or.inl ⟨nonempty, rfl, rfl⟩⟩
        · exact ⟨piece.length + 1 + offset, by omega, Or.inr ⟨offset, rfl, run⟩⟩
      · rintro ⟨_, rfl, ⟨nonempty, rfl, rfl⟩ | ⟨offset, rfl, run⟩⟩
        · exact Or.inl ⟨nonempty, rfl, rfl⟩
        · exact Or.inr ⟨offset, by omega, run⟩

end AppEfi.Tokens
