import AppEfi.Lib.RecordWalk
import Mathlib.Data.Option.Basic

/-!
# Walks by a length field

`while (position < limit) { body; position += length; }` over a memory that nobody
has checked.  The walk ends where every position that it comes to has a length other
than zero, and what it lists is what the bodies at these positions list.
-/

set_option autoImplicit false

namespace AppEfi.BoundedWalk

open AppEfi.RecordWalk

variable {Item : Type} (length : Nat → Nat) (limit : Nat)

/-- The positions that the walk comes to. -/
inductive Reached (start : Nat) : Nat → Prop where
  | start : Reached start start
  | next {position : Nat} (reached : Reached start position) (inside : position < limit) :
      Reached start (position + length position)

/-- `none` means that the fuel of the walk or of a body did not suffice. -/
def walkItems (body : Nat → Option (List Item)) : Nat → Nat → Option (List Item)
  | 0, position => if position < limit then none else some []
  | fuel + 1, position =>
      if position < limit then do
        let own ← body position
        let rest ← walkItems body fuel (position + length position)
        some (own ++ rest)
      else some []

variable {length limit}

theorem Reached.le {start position : Nat} (reached : Reached length limit start position) :
    start ≤ position := by
  induction reached with
  | start => exact Nat.le_refl start
  | next _ _ ih => exact Nat.le_add_right_of_le ih

theorem Reached.head {start position : Nat} (inside : start < limit)
    (reached : Reached length limit (start + length start) position) :
    Reached length limit start position := by
  induction reached with
  | start => exact Reached.start.next inside
  | next _ later ih => exact ih.next later

theorem Reached.cases_head {start position : Nat}
    (reached : Reached length limit start position) :
    position = start ∨
      start < limit ∧ Reached length limit (start + length start) position := by
  induction reached with
  | start => exact Or.inl rfl
  | next reached inside ih =>
      rcases ih with same | ⟨below, later⟩
      · subst same
        exact Or.inr ⟨inside, Reached.start⟩
      · exact Or.inr ⟨below, later.next inside⟩

theorem forall_reached_iff {property : Nat → Prop} {start : Nat} (inside : start < limit) :
    (∀ position, Reached length limit start position → position < limit → property position) ↔
      property start ∧
        ∀ position, Reached length limit (start + length start) position → position < limit →
          property position := by
  constructor
  · intro all
    exact ⟨all start Reached.start inside,
      fun position reached => all position (reached.head inside)⟩
  · rintro ⟨own, later⟩ position reached below
    rcases reached.cases_head with same | ⟨_, reached⟩
    · exact same ▸ own
    · exact later position reached below

theorem walkItems_of_le (body : Nat → Option (List Item)) (fuel : Nat) {position : Nat}
    (outside : limit ≤ position) : walkItems length limit body fuel position = some [] := by
  cases fuel with
  | zero => exact if_neg (Nat.not_lt.mpr outside)
  | succ fuel => exact if_neg (Nat.not_lt.mpr outside)

/-- A turn lists something when its body and the turns behind it do. -/
theorem turn_eq_some {own behind : Option (List Item)} {items : List Item} :
    (do
      let first ← own
      let rest ← behind
      some (first ++ rest)) = some items ↔
      ∃ first rest, own = some first ∧ behind = some rest ∧ first ++ rest = items := by
  cases own <;> cases behind <;> simp

theorem walkItems_succ_eq_some {body : Nat → Option (List Item)} {fuel position : Nat}
    {items : List Item} (inside : position < limit) :
    walkItems length limit body (fuel + 1) position = some items ↔
      ∃ own rest, body position = some own ∧
        walkItems length limit body fuel (position + length position) = some rest ∧
        own ++ rest = items := by
  rw [walkItems, if_pos inside]
  exact turn_eq_some

/-- Without progress the walk does not end. -/
theorem walkItems_stuck (body : Nat → Option (List Item)) {position : Nat}
    (inside : position < limit) (zero : length position = 0) (fuel : Nat) :
    walkItems length limit body fuel position = none := by
  induction fuel with
  | zero => exact if_pos inside
  | succ fuel ih =>
      rw [walkItems, if_pos inside, zero, Nat.add_zero, ih]
      cases body position <;> rfl

theorem walkItems_mono {body more : Nat → Option (List Item)}
    (extends_ : ∀ position own, body position = some own → more position = some own)
    {fuel moreFuel position : Nat} {items : List Item} (le : fuel ≤ moreFuel)
    (run : walkItems length limit body fuel position = some items) :
    walkItems length limit more moreFuel position = some items := by
  induction fuel generalizing moreFuel position items with
  | zero =>
      rw [walkItems] at run
      split at run
      · cases run
      · rename_i outside
        rw [walkItems_of_le more moreFuel (Nat.not_lt.mp outside), run]
  | succ fuel ih =>
      by_cases inside : position < limit
      · obtain ⟨moreFuel, rfl⟩ := Nat.exists_eq_add_of_le' (Nat.lt_of_lt_of_le fuel.succ_pos le)
        obtain ⟨own, rest, first, second, same⟩ := (walkItems_succ_eq_some inside).mp run
        exact (walkItems_succ_eq_some inside).mpr
          ⟨own, rest, extends_ position own first, ih (Nat.le_of_succ_le_succ le) second, same⟩
      · rw [walkItems_of_le body _ (Nat.not_lt.mp inside)] at run
        rw [walkItems_of_le more _ (Nat.not_lt.mp inside), run]

section Bodies

variable {body : Nat → Nat → Option (List Item)} {Good : Item → Prop}

/-- A walk ends with nothing but good items exactly when it makes progress and the
bodies do so at every position that it comes to. -/
theorem exists_walkItems_iff
    (mono : ∀ {fuel more position own}, fuel ≤ more → body fuel position = some own →
      body more position = some own) (start : Nat) :
    (∃ bodyFuel fuel items,
        walkItems length limit (body bodyFuel) fuel start = some items ∧
          ∀ item ∈ items, Good item) ↔
      ∀ position, Reached length limit start position → position < limit →
        0 < length position ∧
          ∃ bodyFuel own, body bodyFuel position = some own ∧ ∀ item ∈ own, Good item := by
  constructor
  · rintro ⟨bodyFuel, fuel, items, run, good⟩
    induction fuel generalizing start items with
    | zero =>
        rw [walkItems] at run
        split at run
        · cases run
        · rename_i outside
          intro position reached inside
          rcases reached.cases_head with same | ⟨below, _⟩
          · exact absurd (same ▸ inside) outside
          · exact absurd below outside
    | succ fuel ih =>
        by_cases inside : start < limit
        · rw [forall_reached_iff inside]
          have progress : 0 < length start := by
            rw [Nat.pos_iff_ne_zero]
            intro zero
            rw [walkItems_stuck _ inside zero] at run
            cases run
          obtain ⟨own, rest, first, second, rfl⟩ := (walkItems_succ_eq_some inside).mp run
          have goodOwn : ∀ item ∈ own, Good item :=
            fun item listed => good item (List.mem_append_left rest listed)
          exact ⟨⟨progress, bodyFuel, own, first, goodOwn⟩,
            ih _ rest second fun item listed => good item (List.mem_append_right own listed)⟩
        · intro position reached below
          exact absurd (Nat.lt_of_le_of_lt reached.le below) inside
  · -- Each step comes closer to the limit.
    induction distance : limit - start using Nat.strongRecOn generalizing start with
    | ind distance ih =>
        intro all
        by_cases inside : start < limit
        · rw [forall_reached_iff inside] at all
          obtain ⟨⟨progress, firstFuel, own, first, goodOwn⟩, later⟩ := all
          obtain ⟨restFuel, fuel, rest, second, goodRest⟩ :=
            ih _ (by omega) (start + length start) rfl later
          refine ⟨max firstFuel restFuel, fuel + 1, own ++ rest,
            (walkItems_succ_eq_some inside).mpr
              ⟨own, rest, mono (Nat.le_max_left ..) first, ?_, rfl⟩, ?_⟩
          · exact walkItems_mono (fun _ _ => mono (Nat.le_max_right ..)) (Nat.le_refl _) second
          · intro item listed
            exact (List.mem_append.mp listed).elim (goodOwn item) (goodRest item)
        · refine ⟨0, 0, [], walkItems_of_le _ _ (Nat.not_lt.mp inside), ?_⟩
          intro item listed
          cases listed

end Bodies

theorem exists_walkItems_iff_of_body {body : Nat → Option (List Item)} {Good : Item → Prop}
    (start : Nat) :
    (∃ fuel items, walkItems length limit body fuel start = some items ∧
        ∀ item ∈ items, Good item) ↔
      ∀ position, Reached length limit start position → position < limit →
        0 < length position ∧
          ∃ own, body position = some own ∧ ∀ item ∈ own, Good item := by
  have walk := @exists_walkItems_iff Item length limit (fun _ => body) Good
    (fun _ same => same) start
  simpa only [exists_const] using walk

/-! ## A loop with a state -/

section Visited

variable (length limit)

/-- The positions of the walk in order. -/
def visited (fuel start : Nat) : Option (List Nat) :=
  walkItems length limit (fun position => some [position]) fuel start

variable {length limit}

theorem exists_visited_iff (start : Nat) :
    (∃ fuel positions, visited length limit fuel start = some positions) ↔
      ∀ position, Reached length limit start position → position < limit →
        0 < length position := by
  have walk := @exists_walkItems_iff_of_body Nat length limit (fun position => some [position])
    (fun _ => True) start
  simpa [visited] using walk

theorem visited_of_lt {fuel start : Nat} (inside : start < limit) :
    visited length limit (fuel + 1) start =
      (visited length limit fuel (start + length start)).map (start :: ·) := by
  rw [visited, walkItems, if_pos inside, visited]
  cases walkItems length limit (fun position => some [position]) fuel (start + length start) with
  | none => rfl
  | some rest => rfl

theorem visited_of_le {fuel start : Nat} (outside : limit ≤ start) :
    visited length limit fuel start = some [] := walkItems_of_le _ _ outside

/-- Induction on the turns of a walk that ends. -/
theorem visited_induction {motive : Nat → Nat → List Nat → Prop}
    (stop : ∀ fuel start, limit ≤ start → motive fuel start [])
    (step : ∀ fuel start rest, start < limit → motive fuel (start + length start) rest →
      motive (fuel + 1) start (start :: rest))
    {fuel start : Nat} {positions : List Nat}
    (run : visited length limit fuel start = some positions) : motive fuel start positions := by
  induction fuel generalizing start positions with
  | zero =>
      rw [visited, walkItems] at run
      split at run
      · cases run
      · rename_i outside
        cases run
        exact stop 0 start (Nat.not_lt.mp outside)
  | succ fuel ih =>
      by_cases inside : start < limit
      · rw [visited_of_lt inside, Option.map_eq_some_iff] at run
        obtain ⟨rest, run, rfl⟩ := run
        exact step fuel start rest inside (ih run)
      · rw [visited_of_le (Nat.not_lt.mp inside)] at run
        cases run
        exact stop (fuel + 1) start (Nat.not_lt.mp inside)

theorem mem_visited {fuel start : Nat} {positions : List Nat}
    (run : visited length limit fuel start = some positions) {position : Nat} :
    position ∈ positions ↔ Reached length limit start position ∧ position < limit := by
  refine visited_induction (motive := fun _ start positions =>
    position ∈ positions ↔ Reached length limit start position ∧ position < limit) ?_ ?_ run
  · intro _ start outside
    simp only [List.not_mem_nil, false_iff, not_and]
    intro reached below
    exact absurd (Nat.lt_of_le_of_lt reached.le below) (Nat.not_lt.mpr outside)
  · intro _ start rest inside ih
    rw [List.mem_cons, ih]
    constructor
    · rintro (rfl | ⟨reached, below⟩)
      · exact ⟨Reached.start, inside⟩
      · exact ⟨reached.head inside, below⟩
    · rintro ⟨reached, below⟩
      rcases reached.cases_head with same | ⟨_, later⟩
      · exact Or.inl same
      · exact Or.inr ⟨later, below⟩

/-- A loop that steps by the lengths folds its body over the positions. -/
theorem map_fst_whileLoop {State : Type} {next : Nat → Nat} (body : State → Nat → State)
    {start : Nat}
    (follows : ∀ position, Reached length limit start position →
      next position = position + length position) (fuel : Nat) (state : State) :
    (whileLoop (fun position => decide (position < limit)) next body fuel start state).map
        Prod.fst =
      (visited length limit fuel start).map fun positions => positions.foldl body state := by
  induction fuel generalizing start state with
  | zero =>
      rw [whileLoop, visited, walkItems]
      by_cases inside : start < limit
      · simp [inside]
      · simp [inside]
  | succ fuel ih =>
      rw [whileLoop]
      by_cases inside : start < limit
      · rw [if_pos (decide_eq_true inside), follows start Reached.start, visited_of_lt inside,
          Option.map_map, ih fun position reached => follows position (reached.head inside)]
        rfl
      · rw [if_neg (by simpa using inside), visited, walkItems_of_le _ _ (Nat.not_lt.mp inside)]
        rfl

/-- Every turn makes progress: as many turns as the limit are enough. -/
theorem visited_of_progress {start : Nat}
    (progress : ∀ position, Reached length limit start position → position < limit →
      0 < length position) {fuel : Nat} (enough : limit ≤ start + fuel) :
    ∃ positions, visited length limit fuel start = some positions := by
  induction fuel generalizing start with
  | zero => exact ⟨[], walkItems_of_le _ _ enough⟩
  | succ fuel ih =>
      by_cases inside : start < limit
      · rw [forall_reached_iff inside] at progress
        obtain ⟨forward, later⟩ := progress
        obtain ⟨rest, run⟩ := ih later (by omega)
        exact ⟨start :: rest, by rw [visited_of_lt inside, run]; rfl⟩
      · exact ⟨[], walkItems_of_le _ _ (Nat.not_lt.mp inside)⟩

/-- On a layout the walk does what the bodies do at the records. -/
theorem walkItems_records {Record : Type} (lengthOf : Record → Nat) (records : List Record)
    {body : Nat → Option (List Item)} {items : Nat × Record → List Item} {start fuel : Nat}
    (follows : ∀ entry ∈ placed lengthOf start records,
      (entry.1 < limit ∧ length entry.1 = lengthOf entry.2) ∧ body entry.1 = some (items entry))
    (stops : limit ≤ start + total lengthOf records) (enough : records.length ≤ fuel) :
    walkItems length limit body fuel start =
      some ((placed lengthOf start records).flatMap items) := by
  induction records generalizing start fuel with
  | nil => exact walkItems_of_le _ _ stops
  | cons record rest ih =>
      obtain ⟨fuel, rfl⟩ := Nat.exists_eq_add_of_le' (Nat.lt_of_lt_of_le Nat.succ_pos' enough)
      obtain ⟨⟨inside, step⟩, own⟩ := follows (start, record) (by simp [placed])
      dsimp only at inside step own
      rw [total_cons, ← Nat.add_assoc] at stops
      refine (walkItems_succ_eq_some inside).mpr ⟨_, _, own, ?_, rfl⟩
      rw [step]
      exact ih (fun entry member => follows entry (by simp [placed, member])) stops
        (Nat.le_of_succ_le_succ enough)

theorem visited_records {Record : Type} (lengthOf : Record → Nat) (records : List Record)
    {start fuel : Nat}
    (follows : ∀ entry ∈ placed lengthOf start records,
      entry.1 < limit ∧ length entry.1 = lengthOf entry.2)
    (stops : limit ≤ start + total lengthOf records) (enough : records.length ≤ fuel) :
    visited length limit fuel start = some (starts lengthOf start records) := by
  rw [visited, walkItems_records lengthOf records
    (fun entry member => ⟨follows entry member, rfl⟩) stops enough, starts,
    List.map_eq_flatMap]

end Visited

/-! ## Walks to a last record

`do { item; last = ..; position += length; } while (!last);`: no limit is asked for. -/

section Last

variable (length) (isLast : Nat → Bool)

/-- `none` means that the fuel did not suffice. -/
def itemsToLast (item : Nat → Item) : Nat → Nat → Option (List Item)
  | 0, _ => none
  | fuel + 1, position =>
      if isLast position then some [item position]
      else (itemsToLast item fuel (position + length position)).map (item position :: ·)

def positionAt : Nat → Nat → Nat
  | start, 0 => start
  | start, index + 1 => positionAt (start + length start) index

variable {length isLast}

/-- The walk ends with nothing but good items exactly when the lengths lead to a last record
and the items up to it are good. -/
theorem exists_itemsToLast_iff {item : Nat → Item} {Good : Item → Prop} {start : Nat} :
    (∃ fuel items, itemsToLast length isLast item fuel start = some items ∧
        ∀ item ∈ items, Good item) ↔
      ∃ last, isLast (positionAt length start last) = true ∧
        ∀ index ≤ last, Good (item (positionAt length start index)) := by
  constructor
  · rintro ⟨fuel, items, run, good⟩
    induction fuel generalizing start items with
    | zero => cases run
    | succ fuel ih =>
        rw [itemsToLast] at run
        split at run
        · rename_i last
          cases run
          refine ⟨0, last, fun index le => ?_⟩
          rw [Nat.le_zero.mp le]
          exact good _ List.mem_cons_self
        · rw [Option.map_eq_some_iff] at run
          obtain ⟨rest, run, rfl⟩ := run
          rw [List.forall_mem_cons] at good
          obtain ⟨last, flagged, upTo⟩ := ih rest run good.2
          refine ⟨last + 1, flagged, fun index le => ?_⟩
          cases index with
          | zero => exact good.1
          | succ index => exact upTo index (Nat.le_of_succ_le_succ le)
  · rintro ⟨last, flagged, upTo⟩
    induction last generalizing start with
    | zero =>
        refine ⟨1, [item start], if_pos flagged, ?_⟩
        rw [List.forall_mem_singleton]
        exact upTo 0 (Nat.le_refl 0)
    | succ last ih =>
        have own := upTo 0 (Nat.zero_le _)
        by_cases earlier : isLast start = true
        · refine ⟨1, [item start], if_pos earlier, ?_⟩
          rw [List.forall_mem_singleton]
          exact own
        · obtain ⟨fuel, rest, run, good⟩ :=
            ih flagged fun index le => upTo (index + 1) (Nat.succ_le_succ le)
          refine ⟨fuel + 1, item start :: rest, ?_, List.forall_mem_cons.mpr ⟨own, good⟩⟩
          rw [itemsToLast, if_neg earlier, run, Option.map_some]

end Last

end AppEfi.BoundedWalk
