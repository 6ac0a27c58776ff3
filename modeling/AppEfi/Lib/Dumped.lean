import AppEfi.Lib.Ranges

/-!
# What a dump reads and reports

A dump over structures in memory lists its reads among what it reports.  The reports are what
is left without the reads, and a dump of parts reads inside a range when its parts do.
-/

set_option autoImplicit false

namespace AppEfi

inductive Dumped (Report : Type) where
  | read (range : Range)
  | report (report : Report)
  deriving DecidableEq, Repr

namespace Dumped

variable {Report Place : Type}

def reported? : Dumped Report → Option Report
  | .read _ => none
  | .report content => some content

def reports (events : List (Dumped Report)) : List Report := events.filterMap reported?

def Inside (outer : Range) : Dumped Report → Prop
  | .read range => range.Inside outer
  | .report _ => True

instance (outer : Range) (event : Dumped Report) : Decidable (event.Inside outer) :=
  match event with
  | .read range => inferInstanceAs (Decidable (range.Inside outer))
  | .report _ => inferInstanceAs (Decidable True)

def ReadsInside (outer : Range) (events : List (Dumped Report)) : Prop :=
  ∀ event ∈ events, event.Inside outer

instance (outer : Range) (events : List (Dumped Report)) : Decidable (ReadsInside outer events) :=
  inferInstanceAs (Decidable (∀ event ∈ events, event.Inside outer))

/-- The reads of the fields of a structure, each given by offset and width. -/
def fieldReads (address : Nat) (fields : List (Nat × Nat)) : List (Dumped Report) :=
  fields.map fun field => .read ⟨address + field.1, field.2⟩

@[simp] theorem reports_nil : reports ([] : List (Dumped Report)) = [] := rfl

@[simp] theorem reports_read (range : Range) (rest : List (Dumped Report)) :
    reports (.read range :: rest) = reports rest := rfl

@[simp] theorem reports_report (report : Report) (rest : List (Dumped Report)) :
    reports (.report report :: rest) = report :: reports rest := rfl

@[simp] theorem reports_append (first second : List (Dumped Report)) :
    reports (first ++ second) = reports first ++ reports second :=
  List.filterMap_append

@[simp] theorem reports_fieldReads (address : Nat) (fields : List (Nat × Nat)) :
    reports (fieldReads address fields : List (Dumped Report)) = [] := by
  induction fields with
  | nil => rfl
  | cons field rest ih => exact ih

theorem reports_flatMap (dump : Place → List (Dumped Report)) (places : List Place) :
    reports (places.flatMap dump) = places.flatMap fun place => reports (dump place) := by
  induction places with
  | nil => rfl
  | cons place rest ih => rw [List.flatMap_cons, reports_append, ih, List.flatMap_cons]

section Inside

variable {outer inner : Range} {first second rest : List (Dumped Report)}

@[simp] theorem readsInside_nil : ReadsInside outer ([] : List (Dumped Report)) :=
  List.forall_mem_nil _

@[simp] theorem readsInside_read {range : Range} :
    ReadsInside outer (.read range :: rest) ↔ range.Inside outer ∧ ReadsInside outer rest :=
  List.forall_mem_cons

@[simp] theorem readsInside_report {report : Report} :
    ReadsInside outer (.report report :: rest) ↔ ReadsInside outer rest := by
  rw [ReadsInside, List.forall_mem_cons]
  exact and_iff_right trivial

@[simp] theorem readsInside_append :
    ReadsInside outer (first ++ second) ↔ ReadsInside outer first ∧ ReadsInside outer second :=
  List.forall_mem_append

theorem readsInside_flatMap {dump : Place → List (Dumped Report)} {places : List Place} :
    ReadsInside outer (places.flatMap dump) ↔
      ∀ place ∈ places, ReadsInside outer (dump place) := by
  simp only [ReadsInside, List.forall_mem_flatMap]

theorem ReadsInside.mono (inside : inner.Inside outer) (reads : ReadsInside inner first) :
    ReadsInside outer first := by
  intro event listed
  have here := reads event listed
  cases event with
  | read range =>
      simp only [Dumped.Inside, Range.Inside] at here inside ⊢
      omega
  | report report => trivial

/-- Fields of a structure of `size` bytes lie where the structure does. -/
theorem readsInside_fieldReads {address size : Nat} {fields : List (Nat × Nat)}
    (fit : ∀ field ∈ fields, field.1 + field.2 ≤ size) (lower : outer.start ≤ address)
    (upper : address + size ≤ outer.start + outer.length) :
    ReadsInside outer (fieldReads address fields : List (Dumped Report)) := by
  rw [ReadsInside, fieldReads, List.forall_mem_map]
  intro field listed
  have bound := fit field listed
  simp only [Dumped.Inside, Range.Inside]
  omega

end Inside

end Dumped

end AppEfi
