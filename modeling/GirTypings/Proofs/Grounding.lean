import Mathlib.Order.Bounds.Defs
import GirTypings.Proofs.Precedence

/-!
# Grounded names

Which records stall does not depend on the order in which they are registered.  A name
is **grounded** if some record of that name has grounded local parents only: the
grounded names are the least set closed under this rule (`isLeast_grounded`).  A cycle
has no grounded member, a name that no record has is not grounded, and nothing that
hangs below either is, unless another record of the same name grounds it.

* `mem_map_name_placed_iff`: the placed names are the grounded ones.  One half is
  soundness, by induction on the order of placing; the other is completeness, by
  induction on the grounds, where the last pass, which finds nothing ready, is what
  excludes a grounded name that waits for ever;
* `stalled_eq_filter_parent_not_grounded`: the stalled records are those that have a local
  parent which is not grounded, in the order of the registry, and they are the tail.
-/

namespace GirTypings.Registry

variable {α : Type}

/-! ### The least closed set -/

/-- Whether a set of names contains the name of every record whose local parents it
contains. -/
def IsClosed (records : List (Record α)) (names : Set String) : Prop :=
  ∀ r ∈ records, (∀ p ∈ r.localParents, p ∈ names) → r.name ∈ names

/-- Names that a registry grounds: those of records with grounded local parents. -/
inductive Grounded (records : List (Record α)) : String → Prop
  | of_record {r : Record α} (hr : r ∈ records)
      (hparents : ∀ p ∈ r.localParents, Grounded records p) : Grounded records r.name

/-- The set of grounded names. -/
def grounded (records : List (Record α)) : Set String :=
  {n | Grounded records n}

/-- The grounded names are the least closed set of names. -/
theorem isLeast_grounded (records : List (Record α)) :
    IsLeast {names | IsClosed records names} (grounded records) := by
  constructor
  · intro r hr hparents
    exact .of_record hr hparents
  · intro names hclosed n hn
    induction hn with
    | of_record hr _ ih => exact hclosed _ hr ih

/-! ### Placed names are grounded names -/

/-- What is placed parents first is grounded, if all that was placed from the start is. -/
theorem ParentsFirst.grounded_of_mem {records : List (Record α)} {placed : List String}
    {rs : List (Record α)} (h : ParentsFirst placed rs) (hsub : rs ⊆ records)
    (hplaced : ∀ n ∈ placed, n ∈ grounded records) {r : Record α} (hr : r ∈ rs) :
    ∀ p ∈ r.localParents, p ∈ grounded records := by
  induction rs generalizing placed with
  | nil => cases hr
  | cons first rest ih =>
    obtain ⟨hready, hrest⟩ := h
    have hfirst : ∀ p ∈ first.localParents, p ∈ grounded records :=
      fun p hp => hplaced p (Record.isReady_iff.1 hready p hp)
    rcases List.mem_cons.1 hr with rfl | hr
    · exact hfirst
    · refine ih hrest (fun s hs => hsub (List.mem_cons_of_mem _ hs)) (fun n hn => ?_) hr
      rcases List.mem_cons.1 hn with rfl | hn
      · exact .of_record (hsub (List.mem_cons_self ..)) hfirst
      · exact hplaced n hn

/-- Every record of a registry is placed or stalled. -/
theorem mem_placed_or_mem_stalled {records : List (Record α)} {r : Record α} (hr : r ∈ records) :
    r ∈ (order records).placed ∨ r ∈ (order records).stalled :=
  List.mem_append.1 ((arranges_order records).perm.mem_iff.2 hr)

theorem mem_of_mem_placed {records : List (Record α)} {r : Record α}
    (hr : r ∈ (order records).placed) : r ∈ records :=
  (arranges_order records).perm.mem_iff.1 (List.mem_append_left _ hr)

/-- The local parents of what is placed are grounded. -/
theorem grounded_of_mem_placed {records : List (Record α)} {r : Record α}
    (hr : r ∈ (order records).placed) : ∀ p ∈ r.localParents, p ∈ grounded records :=
  (arranges_order records).parentsFirst.grounded_of_mem (fun _ => mem_of_mem_placed)
    (fun _ hn => nomatch hn) hr

/-- **The names of the placed records are the grounded names.** -/
theorem mem_map_name_placed_iff {records : List (Record α)} {n : String} :
    n ∈ (order records).placed.map Record.name ↔ n ∈ grounded records := by
  constructor
  · intro hn
    obtain ⟨r, hr, rfl⟩ := List.mem_map.1 hn
    exact .of_record (mem_of_mem_placed hr) (grounded_of_mem_placed hr)
  · intro hn
    induction hn with
    | @of_record r hr _ ih =>
      rcases mem_placed_or_mem_stalled hr with hplaced | hstalled
      · exact List.mem_map_of_mem hplaced
      · -- all parents are placed by induction, so the last pass would have taken the record
        have hready : r.isReady ((order records).placed.map Record.name) = true :=
          Record.isReady_iff.2 ih
        rw [not_isReady_of_mem_stalled hstalled] at hready
        cases hready

instance (records : List (Record α)) : DecidablePred (· ∈ grounded records) :=
  fun _ => decidable_of_iff _ mem_map_name_placed_iff

/-! ### What stalls -/

/-- The local parents of what stalls are not all grounded. -/
theorem exists_not_grounded_of_mem_stalled {records : List (Record α)} {r : Record α}
    (hr : r ∈ (order records).stalled) : ∃ p ∈ r.localParents, p ∉ grounded records := by
  obtain ⟨p, hp, hnot⟩ := Record.isReady_eq_false_iff.1 (not_isReady_of_mem_stalled hr)
  exact ⟨p, hp, fun hgrounded => hnot (mem_map_name_placed_iff.2 hgrounded)⟩

/-- Whether a record hangs on a name that its registry does not ground. -/
def Record.hangs (records : List (Record α)) (r : Record α) : Bool :=
  decide (∃ p ∈ r.localParents, p ∉ grounded records)

theorem filter_hangs_placed (records : List (Record α)) :
    (order records).placed.filter (Record.hangs records) = [] := by
  rw [List.filter_eq_nil_iff]
  intro r hr hhangs
  obtain ⟨p, hp, hnot⟩ := of_decide_eq_true hhangs
  exact hnot (grounded_of_mem_placed hr p hp)

theorem filter_hangs_stalled (records : List (Record α)) :
    (order records).stalled.filter (Record.hangs records) = (order records).stalled := by
  rw [List.filter_eq_self]
  intro r hr
  exact decide_eq_true (exists_not_grounded_of_mem_stalled hr)

/-- What stalls is what hangs, in the order of the registry. -/
theorem stalled_eq_filter_hangs (records : List (Record α)) :
    (order records).stalled = records.filter (Record.hangs records) := by
  have hsub := (arranges_order records).sublist.filter (Record.hangs records)
  have hperm := (arranges_order records).perm.filter (Record.hangs records)
  rw [filter_hangs_stalled] at hsub
  rw [Ordering.emission, List.filter_append, filter_hangs_placed, filter_hangs_stalled,
    List.nil_append] at hperm
  exact hsub.eq_of_length hperm.length_eq

/-- **What stalls, exactly.**  With the grounded names as the least set that contains the
name of every record whose local parents it contains, the stalled records are those with
a local parent outside that set.  Their names are reported in the order of the registry,
and in that order they are the tail of what is written. -/
theorem stalled_eq_filter_parent_not_grounded (records : List (Record α)) :
    IsLeast {names | IsClosed records names} (grounded records) ∧
    (order records).stalledNames =
      (records.filter fun r => ∃ p ∈ r.localParents, p ∉ grounded records).map Record.name ∧
    ∃ front, (∀ r ∈ front, ∀ p ∈ r.localParents, p ∈ grounded records) ∧
      (order records).emission =
        front ++ records.filter fun r => ∃ p ∈ r.localParents, p ∉ grounded records := by
  refine ⟨isLeast_grounded records, ?_, (order records).placed, ?_, ?_⟩
  · exact congrArg (List.map Record.name) (stalled_eq_filter_hangs records)
  · intro r hr
    exact grounded_of_mem_placed hr
  · exact congrArg ((order records).placed ++ ·) (stalled_eq_filter_hangs records)

/-- A cycle stalls with what hangs below it, also where another parent is placed. -/
example : (order [⟨"A", ["B"], 1⟩, ⟨"B", ["A"], 2⟩, ⟨"C", ["D", "A"], 3⟩,
    ⟨"D", [], 4⟩]).stalledNames = ["A", "B", "C"] := by decide +kernel

end GirTypings.Registry
