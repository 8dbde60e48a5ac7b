import GirTypings.FirstUse
import GirTypings.Journal
import GirTypings.Registry.Record
import GirTypings.Text.Join

/-!
# Writing order

Records are written so that the local parents of a record come before it.  A **pass**
goes through the waiting records in order and places each whose local parents have
been placed, in earlier passes or in this one.  Passes are repeated until one places
nothing; what still waits then is **stalled**: it depends on a cycle, or on a parent
that no record has for its name.  Stalled records are written last, in the order they
were registered in.

Foreign parents do not matter for the order.  Their namespaces are imported, in the
order in which the written records first use them.
-/

namespace GirTypings.Registry

variable {α β : Type}

/-- Whether every local parent of a record is among the placed names. -/
def Record.isReady (placed : List String) (r : Record α) : Bool :=
  r.localParents.all placed.contains

/-- One pass over the waiting records: those it places, and those that wait on. -/
def pass (placed : List String) : List (Record α) → List (Record α) × List (Record α)
  | [] => ([], [])
  | r :: rest =>
    if r.isReady placed then
      let (now, later) := pass (r.name :: placed) rest
      (r :: now, later)
    else
      let (now, later) := pass placed rest
      (now, r :: later)

@[simp] theorem pass_nil (placed : List String) : pass placed ([] : List (Record α)) = ([], []) :=
  rfl

theorem pass_cons_ready {placed : List String} {r : Record α} (h : r.isReady placed = true)
    (rest : List (Record α)) :
    pass placed (r :: rest) =
      (r :: (pass (r.name :: placed) rest).1, (pass (r.name :: placed) rest).2) := by
  simp [pass, h]

theorem pass_cons_waiting {placed : List String} {r : Record α} (h : r.isReady placed = false)
    (rest : List (Record α)) :
    pass placed (r :: rest) = ((pass placed rest).1, r :: (pass placed rest).2) := by
  simp [pass, h]

/-- A pass loses no record and adds none. -/
theorem length_pass (placed : List String) (waiting : List (Record α)) :
    (pass placed waiting).1.length + (pass placed waiting).2.length = waiting.length := by
  induction waiting generalizing placed with
  | nil => rfl
  | cons r rest ih =>
    cases h : r.isReady placed with
    | true => have := ih (r.name :: placed); simp [pass_cons_ready h]; omega
    | false => have := ih placed; simp [pass_cons_waiting h]; omega

/-- The outcome of ordering: the records in an order that respects local parents, and
those that no such order can contain. -/
structure Ordering (α : Type) where
  /-- The records that were placed, in the order of writing. -/
  placed : List (Record α)
  /-- The records that were not. -/
  stalled : List (Record α)

/-- Passes over the waiting records until one places nothing. -/
def arrange (placed : List String) (waiting : List (Record α)) : Ordering α :=
  match h : pass placed waiting with
  | ([], later) => ⟨[], later⟩
  | (r :: now, later) =>
    have : later.length < waiting.length := by
      have := length_pass placed waiting
      simp [h] at this
      omega
    let further := arrange ((r :: now).map Record.name ++ placed) later
    ⟨r :: now ++ further.placed, further.stalled⟩
termination_by waiting.length

/-- The order in which the records of a registry are written. -/
def order (records : List (Record α)) : Ordering α :=
  arrange [] records

namespace Ordering

/-- All records as they are written: the placed ones, then the stalled ones. -/
def emission (o : Ordering α) : List (Record α) :=
  o.placed ++ o.stalled

/-- What is written, in order. -/
def blocks (o : Ordering α) : List α :=
  o.emission.map Record.contents

/-- The foreign namespaces, in the order of their first use. -/
def imports (o : Ordering α) : List String :=
  firstUses (o.emission.flatMap fun r => r.foreignParents.map namespaceOf)

/-- The names of the stalled records. -/
def stalledNames (o : Ordering α) : List String :=
  o.stalled.map Record.name

/-- What ordering puts into the journal: a warning if records are stalled. -/
def journal (o : Ordering α) : List Entry :=
  if o.stalled.isEmpty then []
  else [⟨.warning, channelName "class_graph",
    "Could not order " ++ toString o.stalled.length ++ " class(es), emitting them unordered: " ++
      Text.commaList o.stalledNames⟩]

end Ordering

end GirTypings.Registry
