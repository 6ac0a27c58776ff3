import Mathlib.Data.Fintype.Card
import Mathlib.Data.List.Nodup
import Mathlib.Logic.Relation

/-!
# Depth-first visits without a visited set

A visit lists the items of a node in order and goes into the child of an item, where
it has one, before the next item.  It ends exactly where no path from the node
reaches a loop.  Where moreover every node is the child of at most one item, it lists
every reachable item once.
-/

set_option autoImplicit false

namespace AppEfi.DepthFirst

open Relation

variable {Node Item : Type} (items : Node → List Item) (child : Item → Option Node)

def Leads (parent next : Node) : Prop := ∃ item ∈ items parent, child item = some next

/-- Items with what lies below each of them; `visit` lists the items below a node. -/
def visitItems (visit : Node → Option (List Item)) : List Item → Option (List Item)
  | [] => some []
  | item :: rest => do
      let below ← (child item).elim (some []) visit
      let after ← visitItems visit rest
      some (item :: below ++ after)

/-- `none` means that the visit goes deeper than `depth` nodes. -/
def visit : Nat → Node → Option (List Item)
  | 0, _ => none
  | depth + 1, node => visitItems child (visit depth) (items node)

/-- No path from the node reaches a node that leads back to itself. -/
def LoopFree (node : Node) : Prop :=
  ¬ ∃ loop, ReflTransGen (Leads items child) node loop ∧ TransGen (Leads items child) loop loop

/-- The order that a visit descends. -/
def Below (next parent : Node) : Prop := Leads items child parent next

variable {items child}

/-! ## Loops and descents -/

theorem transGen_below_iff {next parent : Node} :
    TransGen (Below items child) next parent ↔ TransGen (Leads items child) parent next :=
  transGen_swap

theorem not_transGen_self_of_acc {node : Node} (acc : Acc (Below items child) node) :
    ¬ TransGen (Leads items child) node node := by
  induction acc with
  | intro node _ ih =>
      intro cycle
      obtain ⟨next, leads, back⟩ := TransGen.head'_iff.mp cycle
      exact ih next leads (TransGen.tail' back leads)

theorem loopFree_of_acc {node : Node} (acc : Acc (Below items child) node) :
    LoopFree items child node := by
  rintro ⟨loop, reached, cycle⟩
  rcases reflTransGen_iff_eq_or_transGen.mp reached with same | path
  · subst same
    exact not_transGen_self_of_acc acc cycle
  · exact not_transGen_self_of_acc (acc.inv_of_transGen (transGen_below_iff.mpr path)) cycle

theorem acc_of_loopFree [Finite Node] {node : Node} (free : LoopFree items child node) :
    Acc (Below items child) node := by
  -- Descent from reachable nodes is well-founded, since there are finitely many nodes.
  let Descends (next parent : Node) : Prop :=
    ReflTransGen (Leads items child) node parent ∧ TransGen (Below items child) next parent
  have trans : IsTrans Node Descends :=
    ⟨fun _ _ _ first second => ⟨second.1, first.2.trans second.2⟩⟩
  have irrefl : Std.Irrefl Descends :=
    ⟨fun loop cycle => free ⟨loop, cycle.1, transGen_below_iff.mp cycle.2⟩⟩
  have wellFounded := Finite.wellFounded_of_trans_of_irrefl Descends
  have reachable : ∀ start, ReflTransGen (Leads items child) node start →
      Acc (Below items child) start := by
    intro start
    induction start using wellFounded.induction with
    | _ start ih =>
        intro reached
        refine Acc.intro start fun next leads => ?_
        exact ih next ⟨reached, TransGen.single leads⟩ (reached.tail leads)
  exact reachable node ReflTransGen.refl

/-! ## What a visit lists -/

theorem visitItems_cons_eq_some {visit : Node → Option (List Item)} {item : Item}
    {rest all : List Item} :
    visitItems child visit (item :: rest) = some all ↔
      ∃ below after, (child item).elim (some []) visit = some below ∧
        visitItems child visit rest = some after ∧ all = item :: below ++ after := by
  simp only [visitItems, Option.bind_eq_bind, Option.bind_eq_some_iff, Option.some.injEq]
  constructor
  · rintro ⟨below, first, after, second, same⟩
    exact ⟨below, after, first, second, same.symm⟩
  · rintro ⟨below, after, first, second, same⟩
    exact ⟨below, first, after, second, same.symm⟩

theorem visitItems_mono {visit more : Node → Option (List Item)}
    (extends_ : ∀ node all, visit node = some all → more node = some all) {list all : List Item}
    (visited : visitItems child visit list = some all) :
    visitItems child more list = some all := by
  induction list generalizing all with
  | nil => exact visited
  | cons item rest ih =>
      obtain ⟨below, after, first, second, rfl⟩ := visitItems_cons_eq_some.mp visited
      refine visitItems_cons_eq_some.mpr ⟨below, after, ?_, ih second, rfl⟩
      cases descent : child item with
      | none => rwa [descent] at first
      | some next =>
          rw [descent] at first
          exact extends_ next below first

theorem visit_succ {depth : Nat} {node : Node} {all : List Item}
    (visited : visit items child depth node = some all) :
    visit items child (depth + 1) node = some all := by
  induction depth generalizing node all with
  | zero => cases visited
  | succ depth ih => exact visitItems_mono (fun _ _ => ih) visited

theorem visit_mono {depth more : Nat} (le : depth ≤ more) {node : Node} {all : List Item}
    (visited : visit items child depth node = some all) :
    visit items child more node = some all := by
  induction le with
  | refl => exact visited
  | step _ ih => exact visit_succ ih

theorem exists_visitItems {list : List Item}
    (descents : ∀ item ∈ list, ∀ next, child item = some next →
      ∃ depth all, visit items child depth next = some all) :
    ∃ depth all, visitItems child (visit items child depth) list = some all := by
  induction list with
  | nil => exact ⟨0, [], rfl⟩
  | cons item rest ih =>
      obtain ⟨restDepth, after, second⟩ :=
        ih fun item listed => descents item (List.mem_cons_of_mem _ listed)
      have first : ∃ depth below,
          (child item).elim (some []) (visit items child depth) = some below := by
        cases descent : child item with
        | none => exact ⟨0, [], rfl⟩
        | some next => exact descents item (List.mem_cons_self ..) next descent
      obtain ⟨depth, below, first⟩ := first
      refine ⟨max depth restDepth, item :: below ++ after,
        visitItems_cons_eq_some.mpr ⟨below, after, ?_, ?_, rfl⟩⟩
      · cases descent : child item with
        | none => rwa [descent] at first
        | some next =>
            rw [descent] at first
            exact visit_mono (le_max_left depth restDepth) first
      · exact visitItems_mono (fun _ _ => visit_mono (le_max_right depth restDepth)) second

theorem exists_visit_of_acc {node : Node} (acc : Acc (Below items child) node) :
    ∃ depth all, visit items child depth node = some all := by
  induction acc with
  | intro node _ ih =>
      have descents : ∀ item ∈ items node, ∀ next, child item = some next →
          ∃ depth all, visit items child depth next = some all :=
        fun item listed next descent => ih next ⟨item, listed, descent⟩
      obtain ⟨depth, all, visited⟩ := exists_visitItems descents
      exact ⟨depth + 1, all, visited⟩

theorem exists_visit_child {visit : Node → Option (List Item)} {list all : List Item}
    (visited : visitItems child visit list = some all) {item : Item} (listed : item ∈ list)
    {next : Node} (descent : child item = some next) : ∃ below, visit next = some below := by
  induction list generalizing all with
  | nil => cases listed
  | cons head rest ih =>
      obtain ⟨below, after, first, second, rfl⟩ := visitItems_cons_eq_some.mp visited
      rcases List.mem_cons.mp listed with same | later
      · subst same
        rw [descent] at first
        exact ⟨below, first⟩
      · exact ih second later

theorem acc_of_visit {depth : Nat} {node : Node} {all : List Item}
    (visited : visit items child depth node = some all) : Acc (Below items child) node := by
  induction depth generalizing node all with
  | zero => cases visited
  | succ depth ih =>
      refine Acc.intro node ?_
      rintro next ⟨item, listed, descent⟩
      obtain ⟨below, first⟩ := exists_visit_child visited listed descent
      exact ih first

/-- A visit ends exactly where no path from the node reaches a loop. -/
theorem exists_visit_iff [Finite Node] {node : Node} :
    (∃ depth all, visit items child depth node = some all) ↔ LoopFree items child node := by
  constructor
  · rintro ⟨depth, all, visited⟩
    exact loopFree_of_acc (acc_of_visit visited)
  · intro free
    exact exists_visit_of_acc (acc_of_loopFree free)

theorem mem_visitItems {visit : Node → Option (List Item)} {list all : List Item}
    (visited : visitItems child visit list = some all) (item : Item) :
    item ∈ all ↔ item ∈ list ∨
      ∃ start ∈ list, ∃ next, child start = some next ∧
        ∃ below, visit next = some below ∧ item ∈ below := by
  induction list generalizing all with
  | nil =>
      cases visited
      simp
  | cons head rest ih =>
      obtain ⟨below, after, first, second, rfl⟩ := visitItems_cons_eq_some.mp visited
      have belowHead : item ∈ below ↔ ∃ next, child head = some next ∧
          ∃ below, visit next = some below ∧ item ∈ below := by
        cases descent : child head with
        | none =>
            rw [descent] at first
            cases first
            simp
        | some next =>
            rw [descent] at first
            change visit next = some below at first
            simp [first]
      rw [List.mem_append, List.mem_cons, ih second, belowHead]
      simp only [List.mem_cons, exists_eq_or_imp]
      exact or_or_or_comm

theorem mem_visit {depth : Nat} {node : Node} {all : List Item}
    (visited : visit items child depth node = some all) (item : Item) :
    item ∈ all ↔ ∃ other, ReflTransGen (Leads items child) node other ∧ item ∈ items other := by
  induction depth generalizing node all with
  | zero => cases visited
  | succ depth ih =>
      rw [mem_visitItems visited]
      constructor
      · rintro (own | ⟨start, listed, next, descent, below, first, inside⟩)
        · exact ⟨node, ReflTransGen.refl, own⟩
        · obtain ⟨other, reached, own⟩ := (ih first).mp inside
          exact ⟨other, reached.head ⟨start, listed, descent⟩, own⟩
      · rintro ⟨other, reached, own⟩
        rcases reached.cases_head with same | ⟨next, ⟨start, listed, descent⟩, reached⟩
        · subst same
          exact Or.inl own
        · obtain ⟨below, first⟩ := exists_visit_child visited listed descent
          exact Or.inr ⟨start, listed, next, descent, below, first,
            (ih first).mpr ⟨other, reached, own⟩⟩

theorem exists_reached_of_mem_below {depth : Nat} {start item : Item} {below : List Item}
    (first : (child start).elim (some []) (visit items child depth) = some below)
    (inside : item ∈ below) :
    ∃ next other, child start = some next ∧ ReflTransGen (Leads items child) next other ∧
      item ∈ items other := by
  cases descent : child start with
  | none =>
      rw [descent] at first
      cases first
      cases inside
  | some next =>
      rw [descent] at first
      obtain ⟨other, reached, own⟩ := (mem_visit first item).mp inside
      exact ⟨next, other, rfl, reached, own⟩

/-! ## Trees -/

theorem LoopFree.of_reached {node next : Node} (free : LoopFree items child node)
    (path : ReflTransGen (Leads items child) node next) : LoopFree items child next :=
  fun ⟨loop, reached, cycle⟩ => free ⟨loop, path.trans reached, cycle⟩

theorem LoopFree.ne_of_leads {node next other : Node} (free : LoopFree items child node)
    (leads : Leads items child node next)
    (reached : ReflTransGen (Leads items child) next other) : other ≠ node := by
  intro same
  subst same
  exact free ⟨other, ReflTransGen.refl, TransGen.head' leads reached⟩

/-- No item and no child twice. -/
structure Branching (items : Node → List Item) (child : Item → Option Node) : Prop where
  nodup : ∀ node, (items node).Nodup
  owner : ∀ {node other item}, item ∈ items node → item ∈ items other → node = other
  parent : ∀ {node other item twin next}, item ∈ items node → twin ∈ items other →
    child item = some next → child twin = some next → item = twin

section Branching

variable (branching : Branching items child)
include branching

theorem Branching.leads_unique {node other next : Node} (leads : Leads items child node next)
    (also : Leads items child other next) : node = other := by
  obtain ⟨item, listed, descent⟩ := leads
  obtain ⟨twin, twinListed, twinDescent⟩ := also
  have same := branching.parent listed twinListed descent twinDescent
  subst same
  exact branching.owner listed twinListed

theorem Branching.comparable {node other next : Node}
    (reached : ReflTransGen (Leads items child) node next)
    (also : ReflTransGen (Leads items child) other next) :
    ReflTransGen (Leads items child) node other ∨
      ReflTransGen (Leads items child) other node := by
  have unique : Relator.RightUnique (Function.swap (Leads items child)) :=
    fun _ _ _ leads also => branching.leads_unique leads also
  have up := reflTransGen_swap.mpr reached
  have upAlso := reflTransGen_swap.mpr also
  rcases ReflTransGen.total_of_right_unique unique up upAlso with path | path
  · exact Or.inr (reflTransGen_swap.mp path)
  · exact Or.inl (reflTransGen_swap.mp path)

theorem Branching.loopFree {root : Node} (orphan : ∀ node, ¬ Leads items child node root) :
    LoopFree items child root := by
  rintro ⟨loop, reached, cycle⟩
  induction reached with
  | refl =>
      obtain ⟨last, -, leads⟩ := TransGen.tail'_iff.mp cycle
      exact orphan last leads
  | tail _ leads ih =>
      -- A cycle through a child passes its only parent.
      obtain ⟨last, path, back⟩ := TransGen.tail'_iff.mp cycle
      have same := branching.leads_unique leads back
      subst same
      exact ih (TransGen.head' leads path)

/-- What lies below two items of a node has nothing in common. -/
theorem Branching.item_eq_of_reached {node next other common : Node} {item twin : Item}
    (free : LoopFree items child node) (listed : item ∈ items node)
    (twinListed : twin ∈ items node) (descent : child item = some next)
    (twinDescent : child twin = some other)
    (reached : ReflTransGen (Leads items child) next common)
    (also : ReflTransGen (Leads items child) other common) : item = twin := by
  -- A path from one child to another comes through the node.
  have through : ∀ {item twin : Item} {next other : Node}, item ∈ items node →
      twin ∈ items node → child item = some next → child twin = some other →
      ReflTransGen (Leads items child) next other → item = twin := by
    intro item twin next other listed twinListed descent twinDescent path
    rcases reflTransGen_iff_eq_or_transGen.mp path with same | path
    · exact branching.parent listed twinListed descent (same ▸ twinDescent)
    · obtain ⟨last, path, back⟩ := TransGen.tail'_iff.mp path
      have same := branching.leads_unique back ⟨twin, twinListed, twinDescent⟩
      exact absurd same (free.ne_of_leads ⟨item, listed, descent⟩ path)
  rcases branching.comparable reached also with path | path
  · exact through listed twinListed descent twinDescent path
  · exact (through twinListed listed twinDescent descent path).symm

theorem Branching.nodup_visitItems {depth : Nat} {node : Node} {list all : List Item}
    (free : LoopFree items child node)
    (belowNodup : ∀ {next below}, visit items child depth next = some below → below.Nodup)
    (nodup : list.Nodup) (own : ∀ item ∈ list, item ∈ items node)
    (visited : visitItems child (visit items child depth) list = some all) : all.Nodup := by
  induction list generalizing all with
  | nil =>
      cases visited
      exact List.nodup_nil
  | cons head rest ih =>
      obtain ⟨below, after, first, second, rfl⟩ := visitItems_cons_eq_some.mp visited
      obtain ⟨fresh, nodupRest⟩ := List.nodup_cons.mp nodup
      have headOwn := own head (List.mem_cons_self ..)
      have restOwn := fun item listed => own item (List.mem_cons_of_mem head listed)
      -- An item of the node itself is not below one of its items.
      have apart : ∀ start ∈ items node, ∀ next, child start = some next →
          ∀ other, ReflTransGen (Leads items child) next other →
          ∀ item, item ∈ items other → item ∉ items node := by
        intro start listed next descent other reached item inOther inNode
        exact free.ne_of_leads ⟨start, listed, descent⟩ reached
          (branching.owner inOther inNode)
      have headFresh : head ∉ below := by
        intro inside
        obtain ⟨next, other, descent, reached, inOther⟩ :=
          exists_reached_of_mem_below first inside
        exact apart head headOwn next descent other reached head inOther headOwn
      have nodupBelow : below.Nodup := by
        cases descent : child head with
        | none =>
            rw [descent] at first
            cases first
            exact List.nodup_nil
        | some next =>
            rw [descent] at first
            exact belowNodup first
      have inAfter : ∀ item ∈ after, item ∈ rest ∨ ∃ start ∈ rest, ∃ next other,
          child start = some next ∧ ReflTransGen (Leads items child) next other ∧
            item ∈ items other := by
        intro item inside
        rcases (mem_visitItems second item).mp inside with
          listed | ⟨start, listed, next, descent, below, first, inside⟩
        · exact Or.inl listed
        · obtain ⟨other, reached, inOther⟩ := (mem_visit first item).mp inside
          exact Or.inr ⟨start, listed, next, other, descent, reached, inOther⟩
      have headLater : head ∉ after := by
        intro inside
        rcases inAfter head inside with
          listed | ⟨start, listed, next, other, descent, reached, inOther⟩
        · exact fresh listed
        · exact apart start (restOwn start listed) next descent other reached head inOther
            headOwn
      have disjoint : ∀ item ∈ below, item ∉ after := by
        intro item inBelow inside
        obtain ⟨next, other, descent, reached, inOther⟩ :=
          exists_reached_of_mem_below first inBelow
        rcases inAfter item inside with
          listed | ⟨start, listed, twin, common, twinDescent, twinReached, inCommon⟩
        · exact apart head headOwn next descent other reached item inOther
            (restOwn item listed)
        · have same := branching.owner inOther inCommon
          subst same
          have equal := branching.item_eq_of_reached free headOwn (restOwn start listed)
            descent twinDescent reached twinReached
          exact fresh (equal ▸ listed)
      rw [List.cons_append, List.nodup_cons, List.mem_append, not_or]
      refine ⟨⟨headFresh, headLater⟩, List.Nodup.append nodupBelow (ih nodupRest restOwn second) ?_⟩
      exact fun item inBelow inside => disjoint item inBelow inside

theorem Branching.nodup_visit {depth : Nat} {node : Node} {all : List Item}
    (visited : visit items child depth node = some all) : all.Nodup := by
  induction depth generalizing node all with
  | zero => cases visited
  | succ depth ih =>
      exact branching.nodup_visitItems (loopFree_of_acc (acc_of_visit visited)) ih
        (branching.nodup node) (fun _ listed => listed) visited

end Branching

end AppEfi.DepthFirst
