import GirTypings.Proofs.Precedence

/-!
# Ordering what was ordered

A registry is **settled** if it lists records with their parents first, and behind them
records that are not ready even then.  One pass over a settled registry places the first
part from beginning to end and nothing of the second; a second pass finds nothing ready and
is the last.  So settled registries are written as they are, and no others, for what is
written is settled.

* `pass_append`: one pass over a settled registry, by induction on its first part;
* `order_append`: a settled registry is placed and stalls in its two parts;
* `emission_eq_self_iff`: the settled registries are those that are written as they are;
* `order_emission_eq`: ordering what was written changes nothing.

Names may repeat: a record can only become ready by names placed before it, of whatever
records.
-/

namespace GirTypings.Registry

variable {α : Type} {placed : List String} {front back : List (Record α)}

/-! ### Passes over a settled registry -/

/-- A pass that finds nothing ready places nothing. -/
theorem pass_of_not_isReady {waiting : List (Record α)}
    (h : ∀ r ∈ waiting, r.isReady placed = false) : pass placed waiting = ([], waiting) := by
  induction waiting with
  | nil => rfl
  | cons r rest ih =>
    obtain ⟨hr, hrest⟩ := List.forall_mem_cons.1 h
    rw [pass_cons_waiting hr, ih hrest]

/-- **One pass is enough** for what has its parents first; what is not ready behind it is
left. -/
theorem pass_append (hfront : ParentsFirst placed front)
    (hback : ∀ r ∈ back, r.isReady (front.map Record.name ++ placed) = false) :
    pass placed (front ++ back) = (front, back) := by
  induction front generalizing placed with
  | nil => exact pass_of_not_isReady hback
  | cons r rest ih =>
    obtain ⟨hready, hrest⟩ := hfront
    have hlater : ∀ s ∈ back, s.isReady (rest.map Record.name ++ r.name :: placed) = false := by
      intro s hs
      exact s.isReady_anti List.perm_middle.subset (hback s hs)
    rw [List.cons_append, pass_cons_ready hready, ih hrest hlater]

theorem arrange_append (hfront : ParentsFirst placed front)
    (hback : ∀ r ∈ back, r.isReady (front.map Record.name ++ placed) = false) :
    arrange placed (front ++ back) = ⟨front, back⟩ := by
  have hpass := pass_append hfront hback
  cases front with
  | nil => exact arrange_of_stuck hpass
  | cons r rest =>
    -- the second pass has all names of the first part, and is the last
    rw [arrange_of_progress hpass, arrange_of_stuck (pass_of_not_isReady hback), List.append_nil]

/-- **A settled registry is ordered as it is.** -/
theorem order_append (hfront : ParentsFirst [] front)
    (hback : ∀ r ∈ back, r.isReady (front.map Record.name) = false) :
    order (front ++ back) = ⟨front, back⟩ := by
  refine arrange_append hfront fun r hr => ?_
  rw [List.append_nil]
  exact hback r hr

/-! ### Settled registries -/

/-- Whether a registry lists records with their parents first, and behind them records that
are not ready even then. -/
def IsSettled (records : List (Record α)) : Prop :=
  ∃ front back, records = front ++ back ∧ ParentsFirst [] front ∧
    ∀ r ∈ back, r.isReady (front.map Record.name) = false

/-- What is written is settled. -/
theorem isSettled_emission (records : List (Record α)) : IsSettled (order records).emission :=
  ⟨(order records).placed, (order records).stalled, rfl, (arranges_order records).parentsFirst,
    fun _ => not_isReady_of_mem_stalled⟩

/-- The settled registries are those that are written as they are. -/
theorem emission_eq_self_iff {records : List (Record α)} :
    (order records).emission = records ↔ IsSettled records := by
  constructor
  · intro h
    rw [← h]
    exact isSettled_emission records
  · rintro ⟨front, back, rfl, hfront, hback⟩
    rw [order_append hfront hback]
    rfl

/-- Where every local parent is listed before its children, nothing stalls. -/
theorem isSettled_of_parentsFirst {records : List (Record α)} (h : ParentsFirst [] records) :
    IsSettled records :=
  ⟨records, [], (List.append_nil records).symm, h, nofun⟩

/-- **Ordering what was written changes nothing.**  A registry that lists the records as an
ordering has written them needs one pass to place what was placed; it writes the same blocks
with the same imports, and the same records stall. -/
theorem order_emission_eq (records : List (Record α)) :
    pass [] (order records).emission = ((order records).placed, (order records).stalled) ∧
    (order (order records).emission).blocks = (order records).blocks ∧
    (order (order records).emission).imports = (order records).imports ∧
    (order (order records).emission).stalledNames = (order records).stalledNames := by
  have hfront := (arranges_order records).parentsFirst
  have hsame : order (order records).emission = order records :=
    order_append hfront fun _ => not_isReady_of_mem_stalled
  refine ⟨pass_append hfront (arranges_order records).stuck, ?_, ?_, ?_⟩
  all_goals rw [hsame]

/-- A late parent, a record that is its own parent, and a name given twice. -/
example :
    let records : List (Record Nat) :=
      [⟨"C", ["B"], 1⟩, ⟨"B", ["A"], 2⟩, ⟨"X", ["X"], 3⟩, ⟨"A", [], 4⟩, ⟨"B", ["X"], 5⟩]
    (order records).blocks = [4, 2, 1, 3, 5] ∧
      (order (order records).emission).blocks = [4, 2, 1, 3, 5] := by decide +kernel

end GirTypings.Registry
