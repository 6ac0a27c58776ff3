import AppEfi.Lib.Memory

/-!
# Loops over back-to-back records

The walkers below are all one loop: act on the record at a position, step to
the position its length gives, until a test on the position fails.  `whileLoop`
is that loop and `forLoop` the variant with a record count.  When the step
function returns each record's true length, the loop visits exactly the record
starts in order and ends behind the last record.
-/

set_option autoImplicit false

namespace AppEfi.RecordWalk

variable {State Record : Type}

/-- `while (continues position) { body; position = next position; }`.  `none`
means that `fuel` iterations did not end the loop. -/
def whileLoop (continues : Nat → Bool) (next : Nat → Nat)
    (body : State → Nat → State) : Nat → Nat → State → Option (State × Nat)
  | 0, position, state =>
      if continues position then none else some (state, position)
  | fuel + 1, position, state =>
      if continues position then
        whileLoop continues next body fuel (next position) (body state position)
      else some (state, position)

/-- `for (n = 0; n < count; n++) { body; position = next position; }`. -/
def forLoop (next : Nat → Nat) (body : State → Nat → State) :
    Nat → Nat → State → State
  | 0, _, state => state
  | count + 1, position, state =>
      forLoop next body count (next position) (body state position)

/-- The loop body that records where it ran. -/
def visit (visited : List Nat) (position : Nat) : List Nat := visited ++ [position]

/-- Records laid out back to back from `position`, each with its start. -/
def placed (length : Record → Nat) : Nat → List Record → List (Nat × Record)
  | _, [] => []
  | position, record :: rest =>
      (position, record) :: placed length (position + length record) rest

def starts (length : Record → Nat) (position : Nat) (records : List Record) : List Nat :=
  (placed length position records).map Prod.fst

def total (length : Record → Nat) (records : List Record) : Nat :=
  (records.map length).sum

@[simp] theorem total_nil (length : Record → Nat) : total length [] = 0 := rfl

@[simp] theorem total_cons (length : Record → Nat) (record : Record)
    (rest : List Record) :
    total length (record :: rest) = length record + total length rest := by
  simp [total]

@[simp] theorem total_append (length : Record → Nat) (first second : List Record) :
    total length (first ++ second) = total length first + total length second := by
  simp [total]

@[simp] theorem starts_nil (length : Record → Nat) (position : Nat) :
    starts length position [] = [] := rfl

@[simp] theorem starts_cons (length : Record → Nat) (position : Nat)
    (record : Record) (rest : List Record) :
    starts length position (record :: rest) =
      position :: starts length (position + length record) rest := rfl

@[simp] theorem map_snd_placed (length : Record → Nat) (position : Nat)
    (records : List Record) :
    (placed length position records).map Prod.snd = records := by
  induction records generalizing position with
  | nil => rfl
  | cons record rest ih => simp only [placed, List.map_cons, ih]

theorem placed_append (length : Record → Nat) (position : Nat)
    (first second : List Record) :
    placed length position (first ++ second) =
      placed length position first ++
        placed length (position + total length first) second := by
  induction first generalizing position with
  | nil => simp [placed]
  | cons record rest ih =>
      simp only [List.cons_append, placed, ih, total_cons]
      rw [Nat.add_assoc]

theorem starts_append (length : Record → Nat) (position : Nat)
    (first second : List Record) :
    starts length position (first ++ second) =
      starts length position first ++
        starts length (position + total length first) second := by
  simp [starts, placed_append]

theorem mem_of_mem_placed {length : Record → Nat} {position : Nat}
    {records : List Record} {entry : Nat × Record}
    (member : entry ∈ placed length position records) : entry.2 ∈ records := by
  have mapped := List.mem_map_of_mem (f := Prod.snd) member
  rwa [map_snd_placed] at mapped

theorem mem_placed_of_mem_dropLast {length : Record → Nat} {position : Nat}
    {records : List Record} {entry : Nat × Record}
    (member : entry ∈ placed length position records.dropLast) :
    entry ∈ placed length position records := by
  rcases List.eq_nil_or_concat' records with rfl | ⟨before, last, rfl⟩
  · exact member
  · rw [List.dropLast_concat] at member
    rw [placed_append]
    exact List.mem_append_left _ member

/-- Lists over the starts and over the records, compared entry by entry. -/
theorem map_starts_eq_iff {length : Record → Nat} {position : Nat} {records : List Record}
    {Value : Type} {first : Nat → Value} {second : Record → Value} :
    (starts length position records).map first = records.map second ↔
      ∀ entry ∈ placed length position records, first entry.1 = second entry.2 := by
  induction records generalizing position with
  | nil => simp [placed]
  | cons record rest ih =>
      rw [starts_cons, List.map_cons, List.map_cons, List.cons.injEq, ih, placed,
        List.forall_mem_cons]

theorem length_le_total (length : Record → Nat) (records : List Record)
    (positive : ∀ record ∈ records, 0 < length record) :
    records.length ≤ total length records := by
  induction records with
  | nil => simp
  | cons record rest ih =>
      have head := positive record (by simp)
      have tail := ih fun other member => positive other (by simp [member])
      rw [List.length_cons, total_cons]
      omega

theorem placed_bounds {length : Record → Nat} {position : Nat}
    {records : List Record} {entry : Nat × Record}
    (member : entry ∈ placed length position records) :
    position ≤ entry.1 ∧
      entry.1 + length entry.2 ≤ position + total length records := by
  induction records generalizing position with
  | nil => simp [placed] at member
  | cons record rest ih =>
      rw [placed, List.mem_cons] at member
      rw [total_cons]
      rcases member with rfl | member
      · exact ⟨Nat.le_refl _, by dsimp only; omega⟩
      · have inner := ih member
        omega

/-- The last start of a layout: all starts are up to it and the layout ends behind it. -/
theorem lastStart_bounds {length : Record → Nat} {records : List Record} (default : Nat)
    (some_ : records ≠ []) (positive : ∀ record ∈ records, 0 < length record) (position : Nat) :
    (∀ entry ∈ placed length position records,
        entry.1 ≤ (starts length position records).getLastD default) ∧
      (starts length position records).getLastD default < position + total length records ∧
      records.length ≤ (starts length position records).getLastD default + 1 - position := by
  obtain ⟨before, last, rfl⟩ := (List.eq_nil_or_concat' records).resolve_left some_
  have lastPositive := positive last (by simp)
  have count := length_le_total length before fun record member =>
    positive record (by simp [member])
  have lastStart : (starts length position (before ++ [last])).getLastD default =
      position + total length before := by
    rw [starts_append]
    simp
  rw [lastStart]
  refine ⟨?_, ?_, ?_⟩
  · intro entry member
    rw [placed_append, List.mem_append] at member
    rcases member with member | member
    · have bounds := placed_bounds member
      omega
    · simp only [placed, List.mem_singleton] at member
      rw [member]
  · simp only [total_append, total_cons, total_nil]
    omega
  · simp only [List.length_append, List.length_singleton]
    omega

theorem mem_placed_add {length : Record → Nat} (base : Nat) {records : List Record} :
    ∀ {position : Nat} {entry : Nat × Record}, entry ∈ placed length position records →
      (base + entry.1, entry.2) ∈ placed length (base + position) records := by
  induction records with
  | nil =>
      intro position entry member
      cases member
  | cons record rest ih =>
      intro position entry member
      rw [placed, List.mem_cons] at member ⊢
      rcases member with rfl | later
      · exact Or.inl rfl
      · rw [Nat.add_assoc]
        exact Or.inr (ih later)

theorem foldl_visit (visited positions : List Nat) :
    positions.foldl visit visited = visited ++ positions := by
  induction positions generalizing visited with
  | nil => simp
  | cons position rest ih => simp [visit, ih]

theorem foldl_visit_prod (body : State → Nat → State) (positions : List Nat) :
    ∀ (visited : List Nat) (state : State),
      positions.foldl (fun both position => (visit both.1 position, body both.2 position))
        (visited, state) = (visited ++ positions, positions.foldl body state) := by
  induction positions with
  | nil =>
      intro visited state
      rw [List.foldl_nil, List.foldl_nil, List.append_nil]
  | cons position rest ih =>
      intro visited state
      rw [List.foldl_cons, List.foldl_cons, ih, visit, List.append_assoc,
        List.singleton_append]

/-! ## The loops on a layout -/

section Layout

variable (continues : Nat → Bool) (next : Nat → Nat) (body : State → Nat → State)
variable (length : Record → Nat)

/-- On a layout whose lengths `next` follows, the loop runs its body once at
each record start, in order, and stops at the layout's end. -/
theorem whileLoop_records (records : List Record) (position fuel : Nat) (state : State)
    (follows : ∀ entry ∈ placed length position records,
      continues entry.1 = true ∧ next entry.1 = entry.1 + length entry.2)
    (stops : continues (position + total length records) = false)
    (enough : records.length ≤ fuel) :
    whileLoop continues next body fuel position state =
      some ((starts length position records).foldl body state,
        position + total length records) := by
  induction records generalizing position fuel state with
  | nil =>
      have stopped : continues position = false := by simpa using stops
      cases fuel <;> simp [whileLoop, stopped]
  | cons record rest ih =>
      obtain ⟨fuel, rfl⟩ : ∃ less, fuel = less + 1 :=
        ⟨fuel - 1, by simp only [List.length_cons] at enough; omega⟩
      obtain ⟨runs, steps⟩ := follows (position, record) (by simp [placed])
      dsimp only at runs steps
      have tail := ih (position + length record) fuel (body state position)
        (fun entry member => follows entry (by simp [placed, member]))
        (by rw [← stops, total_cons, Nat.add_assoc])
        (by simp only [List.length_cons] at enough; omega)
      rw [whileLoop, if_pos runs, steps, tail, starts_cons, List.foldl_cons,
        total_cons, Nat.add_assoc]

/-- The last record needs no true length: its step only has to leave the loop. -/
theorem whileLoop_records_last (before : List Record) (last : Record) (position fuel : Nat)
    (state : State)
    (follows : ∀ entry ∈ placed length position before,
      continues entry.1 = true ∧ next entry.1 = entry.1 + length entry.2)
    (runs : continues (position + total length before) = true)
    (leaves : continues (next (position + total length before)) = false)
    (enough : before.length < fuel) :
    whileLoop continues next body fuel position state =
      some ((starts length position (before ++ [last])).foldl body state,
        next (position + total length before)) := by
  induction before generalizing position fuel state with
  | nil =>
      obtain ⟨fuel, rfl⟩ : ∃ less, fuel = less + 1 := ⟨fuel - 1, by omega⟩
      rw [total_nil, Nat.add_zero] at runs leaves ⊢
      rw [whileLoop, if_pos runs]
      cases fuel <;> rw [whileLoop, if_neg (by simp [leaves])] <;> rfl
  | cons record rest ih =>
      rw [List.length_cons] at enough
      obtain ⟨fuel, rfl⟩ : ∃ less, fuel = less + 1 := ⟨fuel - 1, by omega⟩
      obtain ⟨continued, steps⟩ := follows (position, record) (by simp [placed])
      dsimp only at continued steps
      rw [total_cons, ← Nat.add_assoc] at runs leaves ⊢
      have tail := ih (position + length record) fuel (body state position)
        (fun entry member => follows entry (by simp [placed, member])) runs leaves (by omega)
      rw [whileLoop, if_pos continued, steps, tail, List.cons_append, starts_cons,
        List.foldl_cons]

/-- The loop does not use the position that the last record's step gives. -/
theorem forLoop_records (records : List Record) (position : Nat) (state : State)
    (follows : ∀ entry ∈ placed length position records.dropLast,
      next entry.1 = entry.1 + length entry.2) :
    forLoop next body records.length position state =
      (starts length position records).foldl body state := by
  induction records generalizing position state with
  | nil => rfl
  | cons record rest ih =>
      rw [List.length_cons, forLoop, starts_cons, List.foldl_cons]
      cases rest with
      | nil => rfl
      | cons later others =>
          rw [List.dropLast_cons_cons] at follows
          have steps := follows (position, record) (by simp [placed])
          dsimp only at steps
          rw [steps]
          exact ih (position + length record) (body state position)
            fun entry member => follows entry (by simp [placed, member])

theorem forLoop_invariant {Invariant : State → Prop}
    (keeps : ∀ state position, Invariant state → Invariant (body state position))
    (count position : Nat) (state : State) (holds : Invariant state) :
    Invariant (forLoop next body count position state) := by
  induction count generalizing position state with
  | zero => exact holds
  | succ count ih => exact ih (next position) (body state position) (keeps state position holds)

/-- A fold over the starts is a fold over the records when the body at a start
depends on the record there only. -/
theorem foldl_starts (step : State → Record → State) (records : List Record)
    (position : Nat) (state : State)
    (reads : ∀ entry ∈ placed length position records, ∀ current,
      body current entry.1 = step current entry.2) :
    (starts length position records).foldl body state = records.foldl step state := by
  induction records generalizing position state with
  | nil => rfl
  | cons record rest ih =>
      have head := reads (position, record) (by simp [placed]) state
      dsimp only at head
      rw [starts_cons, List.foldl_cons, List.foldl_cons, head]
      exact ih (position + length record) (step state record)
        fun entry member => reads entry (by simp [placed, member])

/-- A loop that advances below a bound ends: the distance to the bound is
enough fuel. -/
theorem whileLoop_terminates (limit position fuel : Nat) (state : State)
    (advances : ∀ current, continues current = true →
      current < next current ∧ current < limit)
    (enough : limit - position ≤ fuel) :
    ∃ result, whileLoop continues next body fuel position state = some result := by
  induction fuel generalizing position state with
  | zero =>
      have stopped : continues position = false := by
        by_contra running
        have := advances position (by simpa using running)
        omega
      exact ⟨_, by rw [whileLoop, if_neg (by simp [stopped])]⟩
  | succ fuel ih =>
      cases running : continues position with
      | false => exact ⟨_, by rw [whileLoop, if_neg (by simp [running])]⟩
      | true =>
          obtain ⟨forward, below⟩ := advances position running
          rw [whileLoop, if_pos running]
          exact ih (next position) (body state position) (by omega)

theorem whileLoop_stops (fuel : Nat) :
    ∀ position state result, whileLoop continues next body fuel position state = some result →
      continues result.2 = false := by
  induction fuel with
  | zero =>
      intro position state result run
      rw [whileLoop] at run
      split at run
      · cases run
      · next stopped =>
          cases run
          exact Bool.eq_false_of_not_eq_true stopped
  | succ fuel ih =>
      intro position state result run
      rw [whileLoop] at run
      split at run
      · exact ih _ _ _ run
      · next stopped =>
          cases run
          exact Bool.eq_false_of_not_eq_true stopped

theorem whileLoop_invariant {Invariant : State → Prop}
    (keeps : ∀ state position, Invariant state → Invariant (body state position)) (fuel : Nat) :
    ∀ position state result, whileLoop continues next body fuel position state = some result →
      Invariant state → Invariant result.1 := by
  induction fuel with
  | zero =>
      intro position state result run holds
      rw [whileLoop] at run
      split at run
      · cases run
      · cases run
        exact holds
  | succ fuel ih =>
      intro position state result run holds
      rw [whileLoop] at run
      split at run
      · exact ih _ _ _ run (keeps state position holds)
      · cases run
        exact holds

/-- A loop that comes to a position where it does not advance never ends. -/
theorem whileLoop_stuck (position fuel : Nat) (state : State)
    (runs : continues position = true) (stays : next position = position) :
    whileLoop continues next body fuel position state = none := by
  induction fuel generalizing state with
  | zero => rw [whileLoop, if_pos runs]
  | succ fuel ih => rw [whileLoop, if_pos runs, stays, ih]

end Layout

theorem length_flatMap_encode (encode : Record → List UInt8)
    (records : List Record) :
    (records.flatMap encode).length = total (fun record => (encode record).length) records := by
  simp [total, List.length_flatMap]

theorem holds_of_mem_placed {memory : Memory} {encode : Record → List UInt8}
    {position : Nat} {records : List Record}
    (held : memory.Holds position (records.flatMap encode))
    {entry : Nat × Record}
    (member : entry ∈ placed (fun record => (encode record).length) position records) :
    memory.Holds entry.1 (encode entry.2) := by
  induction records generalizing position with
  | nil => simp [placed] at member
  | cons record rest ih =>
      rw [List.flatMap_cons, Memory.holds_append] at held
      rw [placed, List.mem_cons] at member
      rcases member with rfl | member
      · exact held.1
      · exact ih held.2 member

/-! ## Arrays of entries -/

section Entries

variable {Entry : Type}

/-- `Entry[0 .. count - 1]` of an array at `address`. -/
def readEntries (read : Nat → Entry) (sizeofEntry address count : Nat) : List Entry :=
  (List.range count).map fun index => read (address + index * sizeofEntry)

theorem readEntries_succ (read : Nat → Entry) (sizeofEntry address count : Nat) :
    readEntries read sizeofEntry address (count + 1) =
      read address :: readEntries read sizeofEntry (address + sizeofEntry) count := by
  rw [readEntries, List.range_succ_eq_map, List.map_cons, List.map_map, Nat.zero_mul,
    Nat.add_zero, readEntries]
  congr 2
  funext index
  dsimp only [Function.comp]
  rw [Nat.succ_mul, Nat.add_assoc, Nat.add_comm sizeofEntry]

theorem readEntries_of_holds {memory : Memory} {encode : Entry → List UInt8}
    {read : Nat → Entry} {sizeofEntry : Nat}
    (lengths : ∀ entry, (encode entry).length = sizeofEntry)
    (reads : ∀ address entry, memory.Holds address (encode entry) → read address = entry)
    (entries : List Entry) (address : Nat)
    (held : memory.Holds address (entries.flatMap encode)) :
    readEntries read sizeofEntry address entries.length = entries := by
  induction entries generalizing address with
  | nil => rfl
  | cons entry rest ih =>
      rw [List.flatMap_cons, Memory.holds_append, lengths] at held
      rw [List.length_cons, readEntries_succ, reads address entry held.1, ih _ held.2]

end Entries

end AppEfi.RecordWalk
