import AppEfi.AppUtils.HexStringToBuffer
import AppEfi.Lib.Loop
import Mathlib.Data.List.Chain

/-!
# Options of a command line

GetOpt of AppUtilsLib.  A context goes from call to call; OptArg is stored for an option with
an argument only.
-/

set_option autoImplicit false

namespace AppEfi.AppUtils

open AppEfi.Loop

/-- `Argv[word] + offset`. -/
structure ArgumentPointer where
  word : Nat
  offset : Nat
  deriving DecidableEq, Repr

structure GetOptContext where
  opt : UInt16
  optArg : Option ArgumentPointer
  optIndex : Nat
  deriving DecidableEq, Repr

def zeroContext : GetOptContext := { opt := 0, optArg := none, optIndex := 0 }

/-- `L'-'`. -/
def dash : UInt16 := 0x2D

section Call

variable (argv : List UnicodeText) (optionsWithArgs : Option UnicodeText)

/-- `Argv[word][offset]`, up to the NUL. -/
def argvAt (word offset : Nat) : UInt16 :=
  ((argv[word]?.map UnicodeText.text).getD []).getD offset 0

/-- The argument of an option that has one, and SkipCount. -/
def optionArgument (optIndex : Nat) : Option ArgumentPointer × Nat :=
  if argvAt argv optIndex 2 ≠ 0 then (some ⟨optIndex, 2⟩, 1)
  else if optIndex + 1 < argv.length ∧ argvAt argv (optIndex + 1) 0 ≠ dash then
    (some ⟨optIndex + 1, 0⟩, 2)
  else (none, 1)

/-- The loop over OptionsWithArgs: OptArg and SkipCount behind it. -/
def matchOptions (context : GetOptContext) : List UInt16 → Option ArgumentPointer × Nat
  | [] => (context.optArg, 1)
  | option :: rest =>
      if option = context.opt then optionArgument argv context.optIndex
      else matchOptions context rest

def getOpt (context : GetOptContext) : Status × GetOptContext :=
  if argv.length ≤ context.optIndex ∨ argvAt argv context.optIndex 0 ≠ dash then
    (.endOfMedia, context)
  else if argvAt argv context.optIndex 1 = 0 then
    (.endOfMedia, { context with optIndex := context.optIndex + 1 })
  else
    let opt := argvAt argv context.optIndex 1
    let context := { context with opt := opt }
    let (optArg, skipCount) := match optionsWithArgs with
      | none => (context.optArg, 1)
      | some options => matchOptions argv context options.text
    (.success, { context with optArg := optArg, optIndex := context.optIndex + skipCount })

/-- A call, with the contexts of the calls before it that were successful. -/
def callAgain (state : GetOptContext × List GetOptContext) :
    Control (GetOptContext × List GetOptContext) (List GetOptContext × GetOptContext) :=
  match getOpt argv optionsWithArgs state.1 with
  | (.success, after) => .next (after, state.2 ++ [after])
  | (_, after) => .stop (state.2, after)

/-- `while (GetOpt (...) == EFI_SUCCESS)` from a zeroed context. -/
def getAllOptions (fuel : Nat) : Option (List GetOptContext × GetOptContext) :=
  loop (callAgain argv optionsWithArgs) fuel (zeroContext, [])

end Call

/-! ## The options of a command line -/

section Options

variable (optionsWithArgs : Option UnicodeText)

def TakesArgument (option : UInt16) : Prop :=
  ∃ options ∈ optionsWithArgs, option ∈ options.text

instance (option : UInt16) : Decidable (TakesArgument optionsWithArgs option) :=
  inferInstanceAs (Decidable (∃ options ∈ optionsWithArgs, option ∈ options.text))

/-- The text behind an option's character, or the next word, if no dash begins it. -/
def ownArgument (index : Nat) (attached : List UInt16) (rest : List UnicodeText) :
    Option ArgumentPointer :=
  if attached ≠ [] then some ⟨index, 2⟩
  else if ∃ next ∈ rest.head?, next.text.head? ≠ some dash then some ⟨index + 1, 0⟩
  else none

/-- The options of the words from `index` on, each with its own argument.  A word without a
dash, a dash alone and the end of the words end them; `argument` tells that the first word
is the argument of the option in front of it. -/
def optionsFrom : Bool → Nat → List UnicodeText → List (UInt16 × Option ArgumentPointer)
  | _, _, [] => []
  | true, index, _ :: rest => optionsFrom false (index + 1) rest
  | false, index, word :: rest =>
      match word.text with
      | first :: option :: attached =>
          if first = dash then
            let argument := if TakesArgument optionsWithArgs option then
              ownArgument index attached rest else none
            (option, argument) :: optionsFrom (argument = some ⟨index + 1, 0⟩) (index + 1) rest
          else []
      | _ => []

end Options

/-- What the calls up to the first without success have to report. -/
structure ReportsOptions (argv : List UnicodeText) (optionsWithArgs : Option UnicodeText)
    (reported : List GetOptContext) (last : GetOptContext) : Prop where
  increasing : (zeroContext :: reported).Pairwise fun before after =>
    before.optIndex < after.optIndex
  withinArgc : ∀ context ∈ last :: reported, context.optIndex ≤ argv.length
  options : reported.map (fun context => (context.opt, context.optArg)) =
    optionsFrom optionsWithArgs false 0 argv

def IteratesRight (argv : List UnicodeText) (optionsWithArgs : Option UnicodeText) : Prop :=
  ∃ fuel reported last, getAllOptions argv optionsWithArgs fuel = some (reported, last) ∧
    ReportsOptions argv optionsWithArgs reported last

/-- OptArg with what an option leaves of it. -/
def carried (optionsWithArgs : Option UnicodeText) :
    Option ArgumentPointer → List (UInt16 × Option ArgumentPointer) →
      List (UInt16 × Option ArgumentPointer)
  | _, [] => []
  | left, (option, argument) :: rest =>
      let optArg := if TakesArgument optionsWithArgs option then argument else left
      (option, optArg) :: carried optionsWithArgs optArg rest

/-! ## One call -/

section Step

variable {argv : List UnicodeText} {optionsWithArgs : Option UnicodeText}
variable {context : GetOptContext} {index : Nat} {word : UnicodeText} {rest : List UnicodeText}

theorem argvAt_of_drop (words : argv.drop index = word :: rest) (offset : Nat) :
    argvAt argv index offset = word.text.getD offset 0 := by
  have here := congrArg List.head? words
  rw [List.head?_drop, List.head?_cons] at here
  rw [argvAt, here]
  rfl

theorem drop_succ (words : argv.drop index = word :: rest) : argv.drop (index + 1) = rest := by
  rw [← List.tail_drop, words, List.tail_cons]

theorem lt_of_drop (words : argv.drop index = word :: rest) : index < argv.length := by
  by_contra outside
  rw [List.drop_eq_nil_of_le (Nat.not_lt.mp outside)] at words
  cases words

/-- The next word is there and does not begin with a dash. -/
theorem nextWord_iff (words : argv.drop index = rest) :
    index < argv.length ∧ argvAt argv index 0 ≠ dash ↔
      ∃ next ∈ rest.head?, next.text.head? ≠ some dash := by
  cases rest with
  | nil =>
      have outside := List.drop_eq_nil_iff.mp words
      simp [Nat.not_lt.mpr outside]
  | cons next rest =>
      rw [argvAt_of_drop words]
      have first : next.text.getD 0 0 ≠ dash ↔ next.text.head? ≠ some dash := by
        cases next.text with
        | nil => simp [dash]
        | cons character text => simp
      constructor
      · rintro ⟨_, noDash⟩
        exact ⟨next, rfl, first.mp noDash⟩
      · rintro ⟨other, same, noDash⟩
        cases same
        exact ⟨lt_of_drop words, first.mpr noDash⟩

theorem optionArgument_eq {first option : UInt16} {attached : List UInt16}
    (words : argv.drop index = word :: rest) (text : word.text = first :: option :: attached) :
    optionArgument argv index =
      (ownArgument index attached rest,
        if ownArgument index attached rest = some ⟨index + 1, 0⟩ then 2 else 1) := by
  have attachedRead : argvAt argv index 2 ≠ 0 ↔ attached ≠ [] := by
    rw [argvAt_of_drop words, text]
    cases attached with
    | nil => simp
    | cons character attached =>
        have notNul := word.noNul character (by simp [text])
        simpa using notNul
  have nextRead := nextWord_iff (drop_succ words)
  rw [optionArgument, ownArgument]
  by_cases behind : attached ≠ []
  · rw [if_pos (attachedRead.mpr behind), if_pos behind, if_neg (by simp)]
  · rw [if_neg (attachedRead.not.mpr behind), if_neg behind]
    by_cases next : ∃ next ∈ rest.head?, next.text.head? ≠ some dash
    · rw [if_pos (nextRead.mpr next), if_pos next, if_pos rfl]
    · rw [if_neg (nextRead.not.mpr next), if_neg next, if_neg (by simp)]

theorem matchOptions_eq (options : List UInt16) :
    matchOptions argv context options =
      if context.opt ∈ options then optionArgument argv context.optIndex
      else (context.optArg, 1) := by
  induction options with
  | nil => rfl
  | cons option options ih =>
      rw [matchOptions, ih]
      by_cases same : option = context.opt
      · rw [if_pos same, if_pos (by simp [same])]
      · rw [if_neg same]
        simp [Ne.symm same]

/-- A word with a dash and an option. -/
theorem getOpt_option {option : UInt16} {attached : List UInt16}
    (words : argv.drop context.optIndex = word :: rest)
    (text : word.text = dash :: option :: attached) :
    getOpt argv optionsWithArgs context =
      (.success,
        { opt := option
          optArg := if TakesArgument optionsWithArgs option then
            ownArgument context.optIndex attached rest else context.optArg
          optIndex := context.optIndex +
            if TakesArgument optionsWithArgs option ∧
              ownArgument context.optIndex attached rest = some ⟨context.optIndex + 1, 0⟩ then 2
            else 1 }) := by
  have inside := lt_of_drop words
  have first : argvAt argv context.optIndex 0 = dash := by
    rw [argvAt_of_drop words, text]
    rfl
  have second : argvAt argv context.optIndex 1 = option := by
    rw [argvAt_of_drop words, text]
    rfl
  have notNul : option ≠ 0 := word.noNul option (by simp [text])
  rw [getOpt, if_neg (by simp [first, inside]), second, if_neg notNul]
  cases optionsWithArgs with
  | none => simp [TakesArgument]
  | some options =>
      have takes : TakesArgument (some options) option ↔ option ∈ options.text := by
        simp [TakesArgument]
      simp only [matchOptions_eq, takes, optionArgument_eq words text]
      by_cases listed : option ∈ options.text
      · simp [listed]
      · simp [listed]

/-- A call that does not find an option leaves none behind it. -/
theorem getOpt_end
    (none : ∀ word rest option attached, argv.drop context.optIndex = word :: rest →
      word.text ≠ dash :: option :: attached)
    (bound : context.optIndex ≤ argv.length) :
    (∃ after, getOpt argv optionsWithArgs context = (.endOfMedia, after) ∧
      after.optIndex ≤ argv.length) ∧
    optionsFrom optionsWithArgs false context.optIndex (argv.drop context.optIndex) = [] := by
  cases words : argv.drop context.optIndex with
  | nil =>
      have outside := List.drop_eq_nil_iff.mp words
      exact ⟨⟨context, by rw [getOpt, if_pos (Or.inl outside)], bound⟩, rfl⟩
  | cons word rest =>
      have inside := lt_of_drop words
      have noOption := none word rest
      rw [optionsFrom]
      have readFirst := argvAt_of_drop words 0
      have readSecond := argvAt_of_drop words 1
      cases text : word.text with
      | nil =>
          rw [text] at readFirst
          refine ⟨⟨context, ?_, bound⟩, rfl⟩
          rw [getOpt, if_pos (Or.inr (by rw [readFirst]; decide))]
      | cons first text' =>
          rw [text] at readFirst readSecond
          by_cases isDash : first = dash
          · subst isDash
            cases text' with
            | cons option attached => exact absurd text (noOption option attached words)
            | nil =>
                refine ⟨⟨{ context with optIndex := context.optIndex + 1 }, ?_, inside⟩, rfl⟩
                have alone : argvAt argv context.optIndex 1 = 0 := readSecond
                rw [getOpt, if_neg (by simp [readFirst, inside]), if_pos alone]
          · refine ⟨⟨context, ?_, bound⟩, ?_⟩
            · rw [getOpt, if_pos (Or.inr (by rw [readFirst]; exact isDash))]
            · cases text' with
              | nil => rfl
              | cons option attached => exact if_neg isDash

end Step

/-! ## All calls -/

section Run

variable {argv : List UnicodeText} {optionsWithArgs : Option UnicodeText}

/-- What holds between two calls: what has been reported and what is to come are the options
with what is carried over. -/
structure Between (argv : List UnicodeText) (optionsWithArgs : Option UnicodeText)
    (state : GetOptContext × List GetOptContext) : Prop where
  bound : state.1.optIndex ≤ argv.length
  increasing : (zeroContext :: state.2).Pairwise fun before after =>
    before.optIndex < after.optIndex
  reached : ∀ context ∈ zeroContext :: state.2, context.optIndex ≤ state.1.optIndex
  options : state.2.map (fun context => (context.opt, context.optArg)) ++
      carried optionsWithArgs state.1.optArg
        (optionsFrom optionsWithArgs false state.1.optIndex (argv.drop state.1.optIndex)) =
    carried optionsWithArgs none (optionsFrom optionsWithArgs false 0 argv)

/-- What the calls report. -/
structure Reported (argv : List UnicodeText) (optionsWithArgs : Option UnicodeText)
    (result : List GetOptContext × GetOptContext) : Prop where
  increasing : (zeroContext :: result.1).Pairwise fun before after =>
    before.optIndex < after.optIndex
  withinArgc : ∀ context ∈ result.2 :: result.1, context.optIndex ≤ argv.length
  options : result.1.map (fun context => (context.opt, context.optArg)) =
    carried optionsWithArgs none (optionsFrom optionsWithArgs false 0 argv)

theorem between_start : Between argv optionsWithArgs (zeroContext, []) where
  bound := Nat.zero_le _
  increasing := List.pairwise_singleton _ _
  reached context listed := by rw [List.mem_singleton.mp listed]
  options := rfl

/-- Where the options go on behind a word with an option. -/
theorem optionsFrom_option {index : Nat} {word : UnicodeText} {rest : List UnicodeText}
    {option : UInt16} {attached : List UInt16} (words : argv.drop index = word :: rest)
    (text : word.text = dash :: option :: attached) :
    let argument := if TakesArgument optionsWithArgs option then
      ownArgument index attached rest else none
    let next := index + if TakesArgument optionsWithArgs option ∧
      ownArgument index attached rest = some ⟨index + 1, 0⟩ then 2 else 1
    next ≤ argv.length ∧
      optionsFrom optionsWithArgs false index (argv.drop index) =
        (option, argument) :: optionsFrom optionsWithArgs false next (argv.drop next) := by
  have behind := drop_succ words
  have inside := lt_of_drop words
  rw [words, optionsFrom, text]
  by_cases nextWord : TakesArgument optionsWithArgs option ∧
      ownArgument index attached rest = some ⟨index + 1, 0⟩
  · obtain ⟨takes, own⟩ := nextWord
    cases rest with
    | nil =>
        rw [ownArgument] at own
        split at own
        · simp at own
        · simp at own
    | cons next rest =>
        have further := drop_succ behind
        refine ⟨?_, ?_⟩
        · rw [if_pos ⟨takes, own⟩]
          exact lt_of_drop behind
        · simp [takes, own, optionsFrom, further]
  · refine ⟨?_, ?_⟩
    · rw [if_neg nextWord]
      exact inside
    · have argument : (if TakesArgument optionsWithArgs option then
          ownArgument index attached rest else none) ≠ some ⟨index + 1, 0⟩ := by
        split
        · next takes => exact fun own => nextWord ⟨takes, own⟩
        · simp
      simp only [if_pos, if_neg nextWord, behind, argument, decide_false]

/-- A call that reports an option comes nearer to the end. -/
theorem lt_next (index : Nat) (option : UInt16) (attached : List UInt16)
    (rest : List UnicodeText) :
    index < index + if TakesArgument optionsWithArgs option ∧
      ownArgument index attached rest = some ⟨index + 1, 0⟩ then 2 else 1 := by
  split
  · exact Nat.lt_add_of_pos_right Nat.two_pos
  · exact Nat.lt_succ_self index

theorem between_next {context after : GetOptContext} {reported : List GetOptContext}
    (between : Between argv optionsWithArgs (context, reported))
    (further : context.optIndex < after.optIndex) (bound : after.optIndex ≤ argv.length)
    (options : carried optionsWithArgs context.optArg
        (optionsFrom optionsWithArgs false context.optIndex (argv.drop context.optIndex)) =
      (after.opt, after.optArg) :: carried optionsWithArgs after.optArg
        (optionsFrom optionsWithArgs false after.optIndex (argv.drop after.optIndex))) :
    Between argv optionsWithArgs (after, reported ++ [after]) := by
  refine ⟨bound, ?_, ?_, ?_⟩
  · rw [← List.cons_append, List.pairwise_append]
    refine ⟨between.increasing, List.pairwise_singleton _ _, ?_⟩
    intro before listed last only
    rw [List.mem_singleton.mp only]
    exact Nat.lt_of_le_of_lt (between.reached before listed) further
  · rw [← List.cons_append, List.forall_mem_append]
    refine ⟨fun before listed => ?_, fun last only => ?_⟩
    · exact (Nat.lt_of_le_of_lt (between.reached before listed) further).le
    · rw [List.mem_singleton.mp only]
  · rw [← between.options, options, List.map_append, List.append_assoc]
    rfl

theorem reported_of_end {context last : GetOptContext} {reported : List GetOptContext}
    (between : Between argv optionsWithArgs (context, reported))
    (bound : last.optIndex ≤ argv.length)
    (options : optionsFrom optionsWithArgs false context.optIndex
      (argv.drop context.optIndex) = []) :
    Reported argv optionsWithArgs (reported, last) := by
  refine ⟨between.increasing, ?_, ?_⟩
  · rw [List.forall_mem_cons]
    exact ⟨bound, fun before listed => (between.reached before
      (List.mem_cons_of_mem _ listed)).trans between.bound⟩
  · have all := between.options
    rw [options, carried, List.append_nil] at all
    exact all

/-- A call reports the next option, or ends the calls when there is none. -/
theorem callAgain_establishes (state : GetOptContext × List GetOptContext)
    (between : Between argv optionsWithArgs state) :
    Establishes (Between argv optionsWithArgs) (Reported argv optionsWithArgs)
      (fun state => argv.length - state.1.optIndex) state
      (callAgain argv optionsWithArgs state) := by
  obtain ⟨context, reported⟩ := state
  by_cases more : ∃ word rest option attached, argv.drop context.optIndex = word :: rest ∧
      word.text = dash :: option :: attached
  · obtain ⟨word, rest, option, attached, words, text⟩ := more
    have inside := lt_of_drop words
    have further := @lt_next optionsWithArgs context.optIndex option attached rest
    obtain ⟨bound, options⟩ := @optionsFrom_option argv optionsWithArgs _ _ _ _ _ words text
    rw [callAgain, getOpt_option words text]
    refine ⟨between_next between further bound ?_, ?_⟩
    · rw [options, carried]
      by_cases takes : TakesArgument optionsWithArgs option
      · simp [takes]
      · simp [takes]
    · dsimp only at further ⊢
      omega
  · obtain ⟨⟨last, stops, bound⟩, options⟩ := @getOpt_end argv optionsWithArgs context
      (fun word rest option attached words text =>
        more ⟨word, rest, option, attached, words, text⟩) between.bound
    rw [callAgain, stops]
    exact reported_of_end between bound options

/-- The calls end with success reported for each option. -/
theorem exists_getAllOptions (argv : List UnicodeText) (optionsWithArgs : Option UnicodeText) :
    ∃ fuel result, getAllOptions argv optionsWithArgs fuel = some result ∧
      Reported argv optionsWithArgs result := by
  obtain ⟨result, run, reported⟩ := loop_returns
    (fun state : GetOptContext × List GetOptContext => argv.length - state.1.optIndex)
    callAgain_establishes (argv.length - 0 + 1) (zeroContext, [])
    (between_start : Between argv optionsWithArgs _) (Nat.lt_succ_self _)
  exact ⟨_, result, run, reported⟩

theorem optionsFrom_none (skips : Bool) (index : Nat) (words : List UnicodeText) :
    ∀ reported ∈ optionsFrom optionsWithArgs skips index words,
      ¬ TakesArgument optionsWithArgs reported.1 → reported.2 = none := by
  induction words generalizing skips index with
  | nil =>
      intro reported listed
      cases skips <;> cases listed
  | cons word rest ih =>
      cases skips with
      | true => exact ih false (index + 1)
      | false =>
          rw [optionsFrom]
          split
          · split
            · intro reported listed
              rcases List.mem_cons.mp listed with rfl | later
              · intro takesNone
                exact if_neg takesNone
              · exact ih _ _ reported later
            · simp
          · simp

/-- Nothing is carried over exactly where every option without an argument follows one that
has none either. -/
theorem carried_eq_iff (left : Option ArgumentPointer)
    (options : List (UInt16 × Option ArgumentPointer))
    (none : ∀ reported ∈ options, ¬ TakesArgument optionsWithArgs reported.1 →
      reported.2 = none) :
    carried optionsWithArgs left options = options ↔
      (∀ first ∈ options.head?, ¬ TakesArgument optionsWithArgs first.1 → left = .none) ∧
        options.IsChain fun first second =>
          ¬ TakesArgument optionsWithArgs second.1 → first.2 = .none := by
  induction options generalizing left with
  | nil => simp [carried]
  | cons reported rest ih =>
      obtain ⟨option, argument⟩ := reported
      rw [List.forall_mem_cons] at none
      have later := fun left => ih left none.2
      rw [carried, List.isChain_cons]
      by_cases takes : TakesArgument optionsWithArgs option
      · simp [takes, later]
      · have ownNone : argument = .none := none.1 takes
        subst ownNone
        simp only [takes, if_false, List.cons.injEq, Prod.mk.injEq, true_and, later,
          List.head?_cons, Option.mem_def, Option.some.injEq, forall_eq', not_false_eq_true,
          forall_const, implies_true]
        constructor
        · rintro ⟨rfl, first, chain⟩
          exact ⟨rfl, chain⟩
        · rintro ⟨rfl, chain⟩
          exact ⟨rfl, fun _ _ _ => rfl, chain⟩

/-- GetOpt leaves OptArg alone at an option that takes none. -/
theorem iteratesRight_iff (argv : List UnicodeText) (optionsWithArgs : Option UnicodeText) :
    IteratesRight argv optionsWithArgs ↔
      (optionsFrom optionsWithArgs false 0 argv).IsChain fun first second =>
        ¬ TakesArgument optionsWithArgs second.1 → first.2 = none := by
  have unchanged := @carried_eq_iff optionsWithArgs none (optionsFrom optionsWithArgs false 0 argv)
    (optionsFrom_none false 0 argv)
  simp only [implies_true, true_and] at unchanged
  obtain ⟨fuel, result, run, reported⟩ := exists_getAllOptions argv optionsWithArgs
  rw [← unchanged]
  constructor
  · rintro ⟨otherFuel, others, last, otherRun, right⟩
    obtain ⟨state, comes, stops⟩ := exists_loop_iff.mp ⟨otherFuel, otherRun⟩
    have same := comes.result_eq stops run
    rw [← reported.options, same]
    exact right.options
  · intro same
    exact ⟨fuel, result.1, result.2, run, reported.increasing, reported.withinArgc,
      reported.options.trans same⟩

/-- `-a x -b`, where only `a` takes an argument. -/
theorem not_iteratesRight_staleArgument :
    ¬ IteratesRight
      [⟨[dash, 0x61], by simp [dash]⟩, ⟨[0x78], by simp⟩, ⟨[dash, 0x62], by simp [dash]⟩]
      (some ⟨[0x61], by simp⟩) := by
  rintro ⟨otherFuel, others, last, otherRun, right⟩
  obtain ⟨state, comes, stops⟩ := exists_loop_iff.mp ⟨otherFuel, otherRun⟩
  have run : getAllOptions
      [⟨[dash, 0x61], by simp [dash]⟩, ⟨[0x78], by simp⟩, ⟨[dash, 0x62], by simp [dash]⟩]
      (some ⟨[0x61], by simp⟩) 3 =
        some ([⟨0x61, some ⟨1, 0⟩, 2⟩, ⟨0x62, some ⟨1, 0⟩, 3⟩],
          ⟨0x62, some ⟨1, 0⟩, 3⟩) := by decide
  have same := comes.result_eq stops run
  have options := right.options
  cases same
  revert options
  decide

end Run

end AppEfi.AppUtils
