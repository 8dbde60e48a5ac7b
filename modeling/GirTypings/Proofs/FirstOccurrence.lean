import Mathlib.Data.List.Induction
import GirTypings.FirstUse

/-!
# First occurrences

What `firstBy` keeps can be told place by place: an item is kept exactly if no item in
front of it has its key.  So the list grows at its end by one item or by none, and an item
behind one with the same key could as well not be there.

* `firstBy_eq_firstOccurrences`: the recursion keeps what stands at the right places;
* `firstBy_append_cons_of_mem`: a later item with a known key changes nothing.
-/

namespace GirTypings

variable {α κ : Type} [DecidableEq κ] {key : α → κ}

/-- The items at those places in front of which no item has the same key. -/
def firstOccurrences (key : α → κ) (items : List α) : List α :=
  (items.zipIdx.filter fun (a, i) => key a ∉ (items.take i).map key).map Prod.fst

/-- Selecting by the key and keeping the first of each key can change places. -/
theorem filter_firstBy (selects : κ → Bool) (items : List α) :
    (firstBy key items).filter (fun a => selects (key a)) =
      firstBy key (items.filter fun a => selects (key a)) := by
  induction items with
  | nil => rfl
  | cons a rest ih =>
    cases ha : selects (key a) with
    | true =>
      have hkeep : (a :: rest).filter (fun b => selects (key b)) =
          a :: rest.filter fun b => selects (key b) := List.filter_cons_of_pos ha
      rw [hkeep, firstBy, firstBy, ← ih, List.filter_cons, ha, if_pos rfl, List.filter_filter,
        List.filter_filter]
      refine congrArg (a :: ·) (List.filter_congr fun b _ => ?_)
      rw [Bool.and_comm]
    | false =>
      have hdrop : (a :: rest).filter (fun b => selects (key b)) =
          rest.filter fun b => selects (key b) := List.filter_cons_of_neg (by simp [ha])
      rw [hdrop, firstBy, ← ih, List.filter_cons, ha, if_neg Bool.false_ne_true, List.filter_filter]
      refine List.filter_congr fun b _ => ?_
      -- what is selected has another key than the item that is not
      by_cases hb : key b = key a
      · rw [hb, ha, Bool.false_and]
      · rw [decide_eq_true hb, Bool.and_true]

/-- An item at the end is kept if its key is new. -/
theorem firstBy_concat (items : List α) (last : α) :
    firstBy key (items ++ [last]) =
      firstBy key items ++ if key last ∈ items.map key then [] else [last] := by
  induction items with
  | nil => rfl
  | cons a rest ih =>
    rw [List.cons_append, firstBy, firstBy, ih, List.filter_append, List.cons_append, List.map_cons]
    by_cases hrest : key last ∈ rest.map key
    · rw [if_pos hrest, if_pos (List.mem_cons_of_mem _ hrest), List.filter_nil]
    · by_cases ha : key last = key a
      · have hknown : key last ∈ key a :: rest.map key := ha ▸ List.mem_cons_self ..
        rw [if_neg hrest, if_pos hknown, List.filter_cons_of_neg (by simp [ha]), List.filter_nil]
      · have hnew : key last ∉ key a :: rest.map key := fun h =>
          (List.mem_cons.1 h).elim ha hrest
        rw [if_neg hrest, if_neg hnew, List.filter_cons_of_pos (by simp [ha]), List.filter_nil]

/-- The same of the places. -/
theorem firstOccurrences_concat (items : List α) (last : α) :
    firstOccurrences key (items ++ [last]) =
      firstOccurrences key items ++ if key last ∈ items.map key then [] else [last] := by
  have hfront : ((items ++ [last]).zipIdx.filter fun (a, i) =>
        key a ∉ ((items ++ [last]).take i).map key) =
      (items.zipIdx.filter fun (a, i) => key a ∉ (items.take i).map key) ++
        if key last ∈ items.map key then [] else [(last, items.length)] := by
    rw [List.zipIdx_append, List.filter_append]
    congr 1
    · refine List.filter_congr fun (a, i) hplace => ?_
      -- in front of an earlier place the last item is not seen
      have hi : i ≤ items.length := Nat.le_of_lt (List.snd_lt_of_mem_zipIdx hplace)
      show decide (key a ∉ ((items ++ [last]).take i).map key) = decide (key a ∉ (items.take i).map key)
      rw [List.take_append_of_le_length hi]
    · rw [Nat.zero_add, List.zipIdx_singleton]
      by_cases hlast : key last ∈ items.map key
      · simp [hlast]
      · simp [hlast]
  rw [firstOccurrences, hfront, List.map_append, firstOccurrences]
  split <;> rfl

/-- **What is kept are the first occurrences**: the items that no earlier item has the key
of. -/
theorem firstBy_eq_firstOccurrences (items : List α) :
    firstBy key items = firstOccurrences key items := by
  induction items using List.reverseRecOn with
  | nil => rfl
  | append_singleton items last ih => rw [firstBy_concat, firstOccurrences_concat, ih]

/-- An item behind one with the same key changes nothing. -/
theorem firstBy_append_cons_of_mem {before : List α} {a : α} (h : key a ∈ before.map key)
    (after : List α) : firstBy key (before ++ a :: after) = firstBy key (before ++ after) := by
  induction before with
  | nil => cases h
  | cons b rest ih =>
    rw [List.cons_append, List.cons_append, firstBy, firstBy]
    rw [List.map_cons, List.mem_cons] at h
    rcases h with hb | hrest
    · -- the first item takes away all that has its key
      have hselects : ∀ items : List α,
          ((firstBy key items).filter fun c => key c ≠ key b) =
            firstBy key (items.filter fun c => key c ≠ key b) :=
        filter_firstBy fun k => k ≠ key b
      rw [hselects, hselects, List.filter_append, List.filter_append,
        List.filter_cons_of_neg (by simp [hb])]
    · rw [ih hrest]

end GirTypings
