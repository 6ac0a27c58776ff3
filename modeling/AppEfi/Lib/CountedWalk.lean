import AppEfi.Lib.BoundedWalk
import AppEfi.Lib.Ranges
import Mathlib.Algebra.BigOperators.Group.List.Basic

/-!
# Walks by a count of what remains

`while (remaining > 0) { body; charge = ..; position += length; remaining -= charge; }`, where
what a turn is charged need not be how far it moves.  The walk comes to the structures of a
layout and stops behind them where the charges add up to what remains with the last of them
and not before.
-/

set_option autoImplicit false

namespace AppEfi.CountedWalk

variable {Item : Type} (length : Nat → Nat) (charge : Nat → Nat → Nat)

/-- `charge` is given what the turn before was charged, and the position.  `none` means that
the fuel of the walk or of a body did not suffice. -/
def walkItems (body : Nat → Option (List Item)) : Nat → Nat → Int → Nat → Option (List Item)
  | 0, _, remaining, _ => if 0 < remaining then none else some []
  | fuel + 1, position, remaining, previous =>
      if 0 < remaining then do
        let own ← body position
        let rest ← walkItems body fuel (position + length position)
          (remaining - charge previous position) (charge previous position)
        some (own ++ rest)
      else some []

/-- The positions of the walk in order. -/
def visited (fuel position : Nat) (remaining : Int) (previous : Nat) : Option (List Nat) :=
  walkItems length charge (fun position => some [position]) fuel position remaining previous

def charges : Nat → List Nat → List Nat
  | _, [] => []
  | previous, position :: rest =>
      charge previous position :: charges (charge previous position) rest

/-- The charges reach what remains with the last position and not before. -/
structure CountsOut (remaining : Int) (previous : Nat) (positions : List Nat) : Prop where
  reached : remaining ≤ (charges charge previous positions).sum
  notBefore : positions ≠ [] → ((charges charge previous positions).dropLast.sum : Int) < remaining

instance (remaining : Int) (previous : Nat) (positions : List Nat) :
    Decidable (CountsOut charge remaining previous positions) :=
  decidable_of_iff
    (remaining ≤ (charges charge previous positions).sum ∧
      (positions ≠ [] → ((charges charge previous positions).dropLast.sum : Int) < remaining))
    ⟨fun both => ⟨both.1, both.2⟩, fun counts => ⟨counts.reached, counts.notBefore⟩⟩

/-- Structures back to back, each as long as its length field says and not shorter than
`least`. -/
structure LaidOut (least start finish : Nat) (ranges : List Range) : Prop where
  tiles : Range.Tiles start finish ranges
  lengths : ∀ range ∈ ranges, length range.start = range.length
  long : ∀ range ∈ ranges, least ≤ range.length

variable {length charge}

section Layouts

variable {least start finish : Nat} {range : Range} {ranges : List Range}

theorem LaidOut.tail (laidOut : LaidOut length least start finish (range :: ranges)) :
    range.start = start ∧ length start = range.length ∧ least ≤ range.length ∧
      LaidOut length least (start + length start) finish ranges := by
  obtain ⟨⟨here, later⟩, lengths, long⟩ := laidOut
  rw [List.forall_mem_cons] at lengths long
  have own := lengths.1
  rw [here] at own
  refine ⟨here, own, long.1, ?_, lengths.2, long.2⟩
  rwa [own]

theorem LaidOut.inside (laidOut : LaidOut length least start finish ranges) :
    ∀ range ∈ ranges, start ≤ range.start ∧ range.start + range.length ≤ finish :=
  laidOut.tiles.inside

end Layouts

/-! ## Turns -/

section Turns

variable {body : Nat → Option (List Item)} {fuel position previous : Nat} {remaining : Int}

theorem walkItems_of_le (body : Nat → Option (List Item)) (fuel position previous : Nat)
    (spent : remaining ≤ 0) :
    walkItems length charge body fuel position remaining previous = some [] := by
  cases fuel with
  | zero => exact if_neg (Int.not_lt.mpr spent)
  | succ fuel => exact if_neg (Int.not_lt.mpr spent)

theorem walkItems_succ_eq_some {items : List Item} (more : 0 < remaining) :
    walkItems length charge body (fuel + 1) position remaining previous = some items ↔
      ∃ own rest, body position = some own ∧
        walkItems length charge body fuel (position + length position)
          (remaining - charge previous position) (charge previous position) = some rest ∧
        own ++ rest = items := by
  rw [walkItems, if_pos more]
  exact BoundedWalk.turn_eq_some

theorem visited_of_le (fuel position previous : Nat) (spent : remaining ≤ 0) :
    visited length charge fuel position remaining previous = some [] :=
  walkItems_of_le _ _ _ _ spent

theorem visited_of_pos (more : 0 < remaining) :
    visited length charge (fuel + 1) position remaining previous =
      (visited length charge fuel (position + length position)
        (remaining - charge previous position) (charge previous position)).map
          (position :: ·) := by
  rw [visited, walkItems, if_pos more, visited]
  cases walkItems length charge (fun position => some [position]) fuel
    (position + length position) (remaining - charge previous position)
    (charge previous position) with
  | none => rfl
  | some rest => rfl

theorem visited_zero_of_pos (more : 0 < remaining) :
    visited length charge 0 position remaining previous = none := if_pos more

/-- Induction over the turns of a walk: nothing remains, the fuel is spent, or one turn more. -/
theorem walk_induction {motive : Nat → Nat → Int → Nat → Prop}
    (ended : ∀ fuel position remaining previous, remaining ≤ 0 →
      motive fuel position remaining previous)
    (stopped : ∀ position remaining previous, 0 < remaining → motive 0 position remaining previous)
    (turn : ∀ fuel position remaining previous, 0 < remaining →
      motive fuel (position + length position) (remaining - charge previous position)
        (charge previous position) → motive (fuel + 1) position remaining previous)
    (fuel position : Nat) (remaining : Int) (previous : Nat) :
    motive fuel position remaining previous := by
  induction fuel generalizing position remaining previous with
  | zero =>
      by_cases more : 0 < remaining
      · exact stopped position remaining previous more
      · exact ended 0 position remaining previous (Int.not_lt.mp more)
  | succ fuel ih =>
      by_cases more : 0 < remaining
      · exact turn fuel position remaining previous more (ih _ _ _)
      · exact ended _ position remaining previous (Int.not_lt.mp more)

theorem walkItems_mono {further : Nat → Option (List Item)} {moreFuel : Nat} {items : List Item}
    (goesOn : ∀ position own, body position = some own → further position = some own)
    (le : fuel ≤ moreFuel)
    (run : walkItems length charge body fuel position remaining previous = some items) :
    walkItems length charge further moreFuel position remaining previous = some items := by
  induction fuel, position, remaining, previous using @walk_induction length charge
    generalizing moreFuel items with
  | ended fuel position remaining previous spent =>
      rw [walkItems_of_le _ _ _ _ spent] at run ⊢
      exact run
  | stopped position remaining previous more =>
      rw [walkItems, if_pos more] at run
      cases run
  | turn fuel position remaining previous more ih =>
      obtain ⟨moreFuel, rfl⟩ := Nat.exists_eq_add_of_le' (Nat.lt_of_lt_of_le fuel.succ_pos le)
      obtain ⟨own, rest, first, second, same⟩ := (walkItems_succ_eq_some more).mp run
      exact (walkItems_succ_eq_some more).mpr
        ⟨own, rest, goesOn _ _ first, ih (Nat.le_of_succ_le_succ le) second, same⟩

/-- A walk that ends puts together what the body does at each position. -/
theorem exists_positions {items : List Item}
    (run : walkItems length charge body fuel position remaining previous = some items) :
    ∃ positions owns, visited length charge fuel position remaining previous = some positions ∧
      List.Forall₂ (fun position own => body position = some own) positions owns ∧
      owns.flatten = items := by
  induction fuel, position, remaining, previous using @walk_induction length charge
    generalizing items with
  | ended fuel position remaining previous spent =>
      rw [walkItems_of_le _ _ _ _ spent] at run
      cases run
      exact ⟨[], [], visited_of_le _ _ _ spent, .nil, rfl⟩
  | stopped position remaining previous more =>
      rw [walkItems, if_pos more] at run
      cases run
  | turn fuel position remaining previous more ih =>
      obtain ⟨own, rest, first, second, rfl⟩ := (walkItems_succ_eq_some more).mp run
      obtain ⟨positions, owns, comes, each, rfl⟩ := ih second
      refine ⟨position :: positions, own :: owns, ?_, .cons first each, rfl⟩
      rw [visited_of_pos more, comes, Option.map_some]

/-- Where the body always returns. -/
theorem walkItems_some (own : Nat → List Item) (fuel position : Nat) (remaining : Int)
    (previous : Nat) :
    walkItems length charge (fun position => some (own position)) fuel position remaining
        previous =
      (visited length charge fuel position remaining previous).map (List.flatMap own) := by
  induction fuel, position, remaining, previous using @walk_induction length charge with
  | ended fuel position remaining previous spent =>
      rw [visited_of_le _ _ _ spent, walkItems_of_le _ _ _ _ spent]
      rfl
  | stopped position remaining previous more =>
      rw [visited_zero_of_pos more, walkItems, if_pos more]
      rfl
  | turn fuel position remaining previous more ih =>
      rw [visited_of_pos more, walkItems, if_pos more, ih]
      cases visited length charge fuel (position + length position)
        (remaining - charge previous position) (charge previous position) with
      | none => rfl
      | some rest => rfl

/-- The walk comes to no position exactly when nothing remains. -/
theorem exists_visited_nil_iff :
    (∃ fuel, visited length charge fuel position remaining previous = some []) ↔
      remaining ≤ 0 := by
  constructor
  · rintro ⟨fuel, run⟩
    by_contra more
    rw [Int.not_le] at more
    cases fuel with
    | zero =>
        rw [visited_zero_of_pos more] at run
        cases run
    | succ fuel =>
        rw [visited_of_pos more, Option.map_eq_some_iff] at run
        obtain ⟨rest, _, same⟩ := run
        cases same
  · intro spent
    exact ⟨0, visited_of_le _ _ _ spent⟩

theorem exists_visited_cons_iff {first : Nat} {rest : List Nat} :
    (∃ fuel, visited length charge fuel position remaining previous = some (first :: rest)) ↔
      0 < remaining ∧ first = position ∧
        ∃ fuel, visited length charge fuel (position + length position)
          (remaining - charge previous position) (charge previous position) = some rest := by
  constructor
  · rintro ⟨fuel, run⟩
    by_cases more : 0 < remaining
    · cases fuel with
      | zero =>
          rw [visited_zero_of_pos more] at run
          cases run
      | succ fuel =>
          rw [visited_of_pos more, Option.map_eq_some_iff] at run
          obtain ⟨others, later, same⟩ := run
          cases same
          exact ⟨more, rfl, fuel, later⟩
    · rw [visited_of_le _ _ _ (Int.not_lt.mp more)] at run
      cases run
  · rintro ⟨more, rfl, fuel, later⟩
    exact ⟨fuel + 1, by rw [visited_of_pos more, later]; rfl⟩

end Turns

/-- Where a turn is charged what it moves, the walk is the one that goes up to a limit. -/
theorem walkItems_eq_bounded {limit start : Nat} {remaining : Int}
    (body : Nat → Option (List Item))
    (charged : ∀ position, BoundedWalk.Reached length limit start position → position < limit →
      ∀ previous, charge previous position = length position)
    (left : remaining + start = limit) (fuel previous : Nat) :
    walkItems length charge body fuel start remaining previous =
      BoundedWalk.walkItems length limit body fuel start := by
  have spent : 0 < remaining ↔ start < limit := by omega
  induction fuel generalizing start remaining previous with
  | zero => simp only [walkItems, BoundedWalk.walkItems, spent]
  | succ fuel ih =>
      rw [walkItems, BoundedWalk.walkItems]
      simp only [spent]
      by_cases inside : start < limit
      · have own := charged start .start inside previous
        rw [if_pos inside, if_pos inside, ih _ (by omega) _ (by omega)]
        exact fun position reached => charged position (reached.head inside)
      · rw [if_neg inside, if_neg inside]

/-! ## Layouts -/

theorem countsOut_nil_iff {remaining : Int} {previous : Nat} :
    CountsOut charge remaining previous [] ↔ remaining ≤ 0 :=
  ⟨fun counts => counts.reached, fun spent => ⟨spent, fun some => absurd rfl some⟩⟩

theorem countsOut_cons_iff {remaining : Int} {previous position : Nat} {rest : List Nat} :
    CountsOut charge remaining previous (position :: rest) ↔
      0 < remaining ∧
        CountsOut charge (remaining - charge previous position) (charge previous position)
          rest := by
  cases rest with
  | nil =>
      rw [countsOut_nil_iff]
      constructor
      · rintro ⟨reached, notBefore⟩
        have more := notBefore (List.cons_ne_nil _ _)
        simp only [charges, List.dropLast_singleton, List.sum_nil, List.sum_cons] at more reached
        exact ⟨more, by omega⟩
      · rintro ⟨more, spent⟩
        refine ⟨?_, fun _ => ?_⟩
        · simp only [charges, List.sum_nil, List.sum_cons]
          omega
        · simpa [charges] using more
  | cons second rest =>
      have drop : ∀ first : Nat, (first :: charges charge first (second :: rest)).dropLast =
          first :: (charges charge first (second :: rest)).dropLast := fun _ => rfl
      constructor
      · rintro ⟨reached, notBefore⟩
        have more := notBefore (List.cons_ne_nil _ _)
        rw [charges, drop, List.sum_cons] at more
        rw [charges, List.sum_cons] at reached
        refine ⟨by omega, ⟨by omega, fun _ => by omega⟩⟩
      · rintro ⟨more, reached, notBefore⟩
        have later := notBefore (List.cons_ne_nil _ _)
        refine ⟨?_, fun _ => ?_⟩
        · rw [charges, List.sum_cons]
          omega
        · rw [charges, drop, List.sum_cons]
          omega

/-- On a layout the walk comes to every structure and stops, exactly when it is charged so. -/
theorem exists_visited_iff {least start finish : Nat} {ranges : List Range}
    (laidOut : LaidOut length least start finish ranges) (remaining : Int) (previous : Nat) :
    (∃ fuel, visited length charge fuel start remaining previous =
        some (ranges.map Range.start)) ↔
      CountsOut charge remaining previous (ranges.map Range.start) := by
  induction ranges generalizing start remaining previous with
  | nil =>
      rw [List.map_nil, exists_visited_nil_iff, countsOut_nil_iff]
  | cons range rest ih =>
      obtain ⟨here, _, _, later⟩ := laidOut.tail
      rw [List.map_cons, exists_visited_cons_iff, countsOut_cons_iff, here, ih later]
      simp

/-- A walk that lists one item for each structure. -/
theorem exists_walkItems_single_iff {least start finish : Nat} {ranges : List Range}
    (laidOut : LaidOut length least start finish ranges) (remaining : Int) (previous : Nat)
    {item : Nat → Item} (injective : Function.Injective item) :
    (∃ fuel, walkItems length charge (fun position => some [item position]) fuel start remaining
        previous = some ((ranges.map Range.start).map item)) ↔
      CountsOut charge remaining previous (ranges.map Range.start) := by
  rw [← exists_visited_iff laidOut remaining previous]
  refine exists_congr fun fuel => ?_
  have single : List.flatMap (fun position => [item position]) = List.map item :=
    funext fun _ => List.map_eq_flatMap.symm
  rw [walkItems_some, single, Option.map_eq_some_iff]
  constructor
  · rintro ⟨positions, comes, same⟩
    rwa [← List.map_injective_iff.mpr injective same]
  · intro comes
    exact ⟨_, comes, rfl⟩

/-- Where the charges are the lengths, and what remains is the length of all structures. -/
theorem LaidOut.countsOut {least start finish : Nat} {ranges : List Range} {remaining : Int}
    (laidOut : LaidOut length least start finish ranges) (positive : 0 < least)
    (same : ∀ range ∈ ranges, ∀ previous, charge previous range.start = range.length)
    (left : remaining + start = finish) (previous : Nat) :
    CountsOut charge remaining previous (ranges.map Range.start) := by
  induction ranges generalizing start remaining previous with
  | nil =>
      have meet : start = finish := laidOut.tiles
      exact countsOut_nil_iff.mpr (by omega)
  | cons range rest ih =>
      have inside := laidOut.inside range List.mem_cons_self
      obtain ⟨here, own, long, later⟩ := laidOut.tail
      rw [List.forall_mem_cons] at same
      have charged := same.1 previous
      rw [List.map_cons, countsOut_cons_iff]
      exact ⟨by omega, ih later same.2 (by omega) _⟩

/-- The walk does at every structure what the body does there. -/
theorem exists_walkItems {least start finish : Nat} {ranges : List Range}
    (body : Nat → Nat → Option (List Item)) {Does : Range → List Item → Prop}
    (mono : ∀ {fuel more position own}, fuel ≤ more → body fuel position = some own →
      body more position = some own)
    (laidOut : LaidOut length least start finish ranges) {remaining : Int} {previous : Nat}
    (counts : CountsOut charge remaining previous (ranges.map Range.start))
    (each : ∀ range ∈ ranges, ∃ fuel own, body fuel range.start = some own ∧ Does range own) :
    ∃ fuel owns, walkItems length charge (body fuel) fuel start remaining previous =
      some owns.flatten ∧ List.Forall₂ Does ranges owns := by
  induction ranges generalizing start remaining previous with
  | nil =>
      exact ⟨0, [], walkItems_of_le _ _ _ _ (countsOut_nil_iff.mp counts), .nil⟩
  | cons range rest ih =>
      rw [List.map_cons, countsOut_cons_iff] at counts
      rw [List.forall_mem_cons] at each
      obtain ⟨more, counts⟩ := counts
      obtain ⟨⟨bodyFuel, own, first, does⟩, each⟩ := each
      obtain ⟨here, _, _, later⟩ := laidOut.tail
      rw [here] at counts first
      obtain ⟨fuel, owns, run, all⟩ := ih later counts each
      refine ⟨max bodyFuel fuel + 1, own :: owns, ?_, .cons does all⟩
      refine (walkItems_succ_eq_some more).mpr ⟨own, owns.flatten, ?_, ?_, rfl⟩
      · exact mono (Nat.le_succ_of_le (Nat.le_max_left ..)) first
      · refine walkItems_mono (fun _ _ => mono ?_) (Nat.le_max_right ..) run
        exact Nat.le_succ_of_le (Nat.le_max_right ..)

/-! ## Loops over a count

`for (i = 0; i < count; i++) { body; position += length; }`. -/

section Counts

variable (length) in
/-- The positions of the loop in order. -/
def positions : Nat → Nat → List Nat
  | 0, _ => []
  | count + 1, position => position :: positions count (position + length position)

@[simp] theorem length_positions (count start : Nat) :
    (positions length count start).length = count := by
  induction count generalizing start with
  | zero => rfl
  | succ count ih => rw [positions, List.length_cons, ih]

theorem le_of_mem_positions {count start position : Nat}
    (listed : position ∈ positions length count start) : start ≤ position := by
  induction count generalizing start with
  | zero => cases listed
  | succ count ih =>
      rcases List.mem_cons.mp listed with rfl | later
      · exact Nat.le_refl _
      · exact Nat.le_trans (Nat.le_add_right _ _) (ih later)

/-- A loop that counts the structures of a layout comes to each. -/
theorem LaidOut.positions_eq {least start finish : Nat} {ranges : List Range}
    (laidOut : LaidOut length least start finish ranges) :
    positions length ranges.length start = ranges.map Range.start := by
  induction ranges generalizing start with
  | nil => rfl
  | cons range rest ih =>
      obtain ⟨here, _, _, later⟩ := laidOut.tail
      rw [List.length_cons, positions, ih later, List.map_cons, here]

end Counts

/-! ## What the bodies list -/

section Lists

theorem map_goesOn {Whole : Type} {first further : Option Item} {whole : Item → Whole}
    {result : Whole} (goesOn : ∀ own, first = some own → further = some own)
    (run : first.map whole = some result) : further.map whole = some result := by
  obtain ⟨own, does, same⟩ := Option.map_eq_some_iff.mp run
  exact Option.map_eq_some_iff.mpr ⟨own, goesOn own does, same⟩

variable {Place Value : Type} {places : List Place} {owns : List (List Item)}

/-- `select` is a map or a filter. -/
theorem flatten_eq_map {select : List Item → List Value} {first : Place → Value}
    (nil : select [] = []) (append : ∀ own rest, select (own ++ rest) = select own ++ select rest)
    (each : List.Forall₂ (fun place own => select own = [first place]) places owns) :
    select owns.flatten = places.map first := by
  induction each with
  | nil => exact nil
  | cons here _ ih => rw [List.flatten_cons, append, here, ih, List.map_cons, List.singleton_append]

theorem forall_mem_flatten {Good : Item → Prop}
    (each : List.Forall₂ (fun (_ : Place) own => ∀ item ∈ own, Good item) places owns) :
    ∀ item ∈ owns.flatten, Good item := by
  induction each with
  | nil => exact List.forall_mem_nil _
  | cons here _ ih =>
      rw [List.flatten_cons, List.forall_mem_append]
      exact ⟨here, ih⟩

theorem exists_own {Does : Place → List Item → Prop} (each : List.Forall₂ Does places owns)
    {place : Place} (listed : place ∈ places) : ∃ own ∈ owns, Does place own := by
  induction each with
  | nil => cases listed
  | cons here _ ih =>
      rcases List.mem_cons.mp listed with rfl | later
      · exact ⟨_, List.mem_cons_self, here⟩
      · obtain ⟨own, among, does⟩ := ih later
        exact ⟨own, List.mem_cons_of_mem _ among, does⟩

end Lists

end AppEfi.CountedWalk
