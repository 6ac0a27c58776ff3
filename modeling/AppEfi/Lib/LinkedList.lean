import Mathlib.Data.List.Nodup
import Mathlib.Tactic.Tauto

/-!
# Circular linked lists

A list is a circle of nodes through its head.  The loops go round it from one of its nodes
until they are back there; which of the nodes is the head is not seen from the links.  The
links are a function, so that a walk over links that lead nowhere is still a definite one.
-/

set_option autoImplicit false

namespace AppEfi.LinkedList

section Loops

variable {Node Result Line : Type} [DecidableEq Node] (next : Node → Node)

/-- `for (node = next (start); node != start; node = next (node))` with a body that may find
what is looked for and break.  The outer `none` is for want of fuel. -/
def findFrom (pick : Node → Option (Option Result)) (start : Node) :
    Nat → Node → Option (Option Result)
  | 0, _ => none
  | fuel + 1, node =>
      if node = start then some none
      else match pick node with
        | none => none
        | some (some result) => some (some result)
        | some none => findFrom pick start fuel (next node)

def find (pick : Node → Option (Option Result)) (start : Node) (fuel : Nat) :
    Option (Option Result) :=
  findFrom next pick start fuel (next start)

/-- The same loop with a body that prints. -/
def forEachFrom (body : Node → Option (List Line)) (start : Node) :
    Nat → Node → Option (List Line)
  | 0, _ => none
  | fuel + 1, node =>
      if node = start then some []
      else match body node with
        | none => none
        | some lines => (forEachFrom body start fuel (next node)).map (lines ++ ·)

def forEach (body : Node → Option (List Line)) (start : Node) (fuel : Nat) :
    Option (List Line) :=
  forEachFrom next body start fuel (next start)

end Loops

/-! ## Paths -/

section Paths

variable {Node : Type} {next back : Node → Node} {start node last : Node}

/-- The links lead from `start` through the nodes in order to `last`. -/
inductive Path (next : Node → Node) : Node → List Node → Node → Prop where
  | nil {start last : Node} (link : next start = last) : Path next start [] last
  | cons {start node last : Node} {rest : List Node} (link : next start = node)
      (path : Path next node rest last) : Path next start (node :: rest) last

@[simp] theorem path_nil : Path next start [] last ↔ next start = last := by
  constructor
  · intro path
    cases path with
    | nil link => exact link
  · exact Path.nil

@[simp] theorem path_cons {rest : List Node} :
    Path next start (node :: rest) last ↔ next start = node ∧ Path next node rest last := by
  constructor
  · intro path
    cases path with
    | cons link path => exact ⟨link, path⟩
  · rintro ⟨link, path⟩
    exact Path.cons link path

instance decidablePath [DecidableEq Node] (next : Node → Node) (start last : Node) :
    (nodes : List Node) → Decidable (Path next start nodes last)
  | [] => decidable_of_iff _ path_nil.symm
  | node :: rest =>
      have := decidablePath next node last rest
      decidable_of_iff _ path_cons.symm

theorem path_append_cons {before after : List Node} :
    Path next start (before ++ node :: after) last ↔
      Path next start before node ∧ Path next node after last := by
  induction before generalizing start with
  | nil => simp
  | cons first rest ih => simp only [List.cons_append, path_cons, ih, and_assoc]

/-- Links that undo the links lead back. -/
theorem Path.reverse {nodes : List Node} (path : Path next start nodes last)
    (undone : ∀ other ∈ start :: nodes, back (next other) = other) :
    Path back last nodes.reverse start := by
  induction path with
  | @nil start last link =>
      rw [List.reverse_nil, path_nil, ← link]
      exact undone start (List.mem_cons_self ..)
  | @cons start node last rest link path ih =>
      rw [List.reverse_cons, path_append_cons, path_nil]
      refine ⟨ih fun other member => undone other (List.mem_cons_of_mem _ member), ?_⟩
      rw [← link]
      exact undone start (List.mem_cons_self ..)

end Paths

/-! ## Circles -/

/-- The list with this head has these nodes. -/
structure Circle {Node : Type} (next : Node → Node) (head : Node) (nodes : List Node) :
    Prop where
  path : Path next head nodes head
  nodup : (head :: nodes).Nodup

theorem circle_iff {Node : Type} {next : Node → Node} {head : Node} {nodes : List Node} :
    Circle next head nodes ↔ Path next head nodes head ∧ (head :: nodes).Nodup :=
  ⟨fun circle => ⟨circle.path, circle.nodup⟩, fun both => ⟨both.1, both.2⟩⟩

instance decidableCircle {Node : Type} [DecidableEq Node] (next : Node → Node) (head : Node)
    (nodes : List Node) : Decidable (Circle next head nodes) :=
  decidable_of_iff _ circle_iff.symm

namespace Circle

variable {Node Result Line : Type} {next back : Node → Node} {head node : Node}
variable {nodes before after : List Node}

theorem head_notMem (circle : Circle next head nodes) : head ∉ nodes :=
  (List.nodup_cons.mp circle.nodup).1

/-- Each node sees the circle from its own place. -/
theorem rotate (circle : Circle next head (before ++ node :: after)) :
    Circle next node (after ++ head :: before) := by
  constructor
  · obtain ⟨there, back⟩ := path_append_cons.mp circle.path
    exact path_append_cons.mpr ⟨back, there⟩
  · refine (List.Perm.nodup_iff ?_).mp circle.nodup
    have swapped : (head :: before ++ node :: after).Perm (node :: after ++ head :: before) :=
      List.perm_append_comm
    simpa using swapped

/-- The circle from one of its nodes: the others, and the head is one of them. -/
theorem exists_of_mem (circle : Circle next head nodes) (member : node ∈ nodes) :
    ∃ others : List Node, Circle next node others ∧ others.length = nodes.length ∧
      ∀ other : Node, other ∈ others ↔ other ≠ node ∧ (other = head ∨ other ∈ nodes) := by
  obtain ⟨before, after, rfl⟩ := List.append_of_mem member
  have rotated := circle.rotate
  refine ⟨after ++ head :: before, rotated, ?_, fun other => ?_⟩
  · simp only [List.length_append, List.length_cons]
    omega
  · constructor
    · intro within
      refine ⟨fun same => rotated.head_notMem (same ▸ within), ?_⟩
      simp only [List.mem_append, List.mem_cons] at within ⊢
      tauto
    · rintro ⟨different, within⟩
      simp only [List.mem_append, List.mem_cons] at within ⊢
      tauto

theorem reverse (circle : Circle next head nodes)
    (undone : ∀ other ∈ head :: nodes, back (next other) = other) :
    Circle back head nodes.reverse := by
  refine ⟨circle.path.reverse undone, List.nodup_cons.mpr ⟨?_, ?_⟩⟩
  · rw [List.mem_reverse]
    exact circle.head_notMem
  · exact (List.reverse_perm nodes).nodup_iff.mpr (List.nodup_cons.mp circle.nodup).2

section Walks

variable [DecidableEq Node]

/-- A body that ends picks the first of the nodes that it takes. -/
theorem findFrom_eq {pick : Node → Option (Option Result)} {value : Node → Option Result}
    {start : Node} (path : Path next start nodes head) (fresh : head ∉ nodes)
    (picks : ∀ other ∈ nodes, pick other = some (value other)) {fuel : Nat}
    (enough : nodes.length < fuel) :
    findFrom next pick head fuel (next start) = some (nodes.findSome? value) := by
  induction path generalizing fuel with
  | nil link =>
      obtain ⟨fuel, rfl⟩ := Nat.exists_eq_add_of_lt enough
      rw [link, findFrom, if_pos rfl, List.findSome?_nil]
  | @cons start node last rest link path ih =>
      obtain ⟨fuel, rfl⟩ := Nat.exists_eq_add_of_le' (Nat.lt_of_le_of_lt (Nat.zero_le _) enough)
      have other : node ≠ last := fun same => fresh (same ▸ List.mem_cons_self ..)
      have enough : rest.length < fuel := by simpa using enough
      have later := ih (fun member => fresh (List.mem_cons_of_mem _ member))
        (fun rest member => picks rest (List.mem_cons_of_mem _ member)) enough
      rw [link, findFrom, if_neg other, picks node (List.mem_cons_self ..), List.findSome?_cons]
      cases value node with
      | none => exact later
      | some result => rfl

theorem find_eq {pick : Node → Option (Option Result)} {value : Node → Option Result}
    (circle : Circle next head nodes) (picks : ∀ other ∈ nodes, pick other = some (value other))
    {fuel : Nat} (enough : nodes.length < fuel) :
    find next pick head fuel = some (nodes.findSome? value) :=
  findFrom_eq circle.path circle.head_notMem picks enough

theorem forEachFrom_eq {body : Node → Option (List Line)} {lines : Node → List Line}
    {start : Node} (path : Path next start nodes head) (fresh : head ∉ nodes)
    (prints : ∀ other ∈ nodes, body other = some (lines other)) {fuel : Nat}
    (enough : nodes.length < fuel) :
    forEachFrom next body head fuel (next start) = some (nodes.flatMap lines) := by
  induction path generalizing fuel with
  | nil link =>
      obtain ⟨fuel, rfl⟩ := Nat.exists_eq_add_of_lt enough
      rw [link, forEachFrom, if_pos rfl, List.flatMap_nil]
  | @cons start node last rest link path ih =>
      obtain ⟨fuel, rfl⟩ := Nat.exists_eq_add_of_le' (Nat.lt_of_le_of_lt (Nat.zero_le _) enough)
      have other : node ≠ last := fun same => fresh (same ▸ List.mem_cons_self ..)
      have enough : rest.length < fuel := by simpa using enough
      have later := ih (fun member => fresh (List.mem_cons_of_mem _ member))
        (fun rest member => prints rest (List.mem_cons_of_mem _ member)) enough
      rw [link, forEachFrom, if_neg other, prints node (List.mem_cons_self ..)]
      simp only [later, Option.map_some, List.flatMap_cons]

/-- The loop prints the lines of each node, in the order of the list. -/
theorem forEach_eq {body : Node → Option (List Line)} {lines : Node → List Line}
    (circle : Circle next head nodes)
    (prints : ∀ other ∈ nodes, body other = some (lines other)) {fuel : Nat}
    (enough : nodes.length < fuel) :
    forEach next body head fuel = some (nodes.flatMap lines) :=
  forEachFrom_eq circle.path circle.head_notMem prints enough

/-- From any of its nodes a search that takes the head and no other node finds the head. -/
theorem find_head {pick : Node → Option (Option Result)} {value : Node → Option Result}
    {result : Result} (circle : Circle next head nodes) (member : node ∈ nodes)
    (picks : ∀ other, pick other = some (value other)) (atHead : value head = some result)
    (elsewhere : ∀ other ∈ nodes, value other = none) {fuel : Nat}
    (enough : nodes.length < fuel) : find next pick node fuel = some (some result) := by
  obtain ⟨before, after, rfl⟩ := List.append_of_mem member
  have enough : (after ++ head :: before).length < fuel := by
    simp only [List.length_append, List.length_cons] at enough ⊢
    omega
  rw [circle.rotate.find_eq (fun other _ => picks other) enough, List.findSome?_append,
    List.findSome?_cons, atHead,
    List.findSome?_eq_none_iff.mpr fun other within => elsewhere other (by simp [within])]
  rfl

end Walks

end Circle

/-! ## Lists in lists -/

/-- Records that know the list they are in are in no other one. -/
theorem nodup_flatMap_of_owner {Owner Record : Type} {lists : List Owner}
    {records : Owner → List Record} (owner : Record → Owner) (nodup : lists.Nodup)
    (each : ∀ list ∈ lists, (records list).Nodup)
    (owned : ∀ list ∈ lists, ∀ record ∈ records list, owner record = list) :
    (lists.flatMap records).Nodup := by
  refine List.nodup_flatMap.mpr ⟨each, nodup.imp_of_mem ?_⟩
  intro list other within otherWithin different record member otherMember
  apply different
  rw [← owned list within record member]
  exact owned other otherWithin record otherMember

end AppEfi.LinkedList
