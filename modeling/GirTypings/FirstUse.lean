/-!
# First uses

`firstBy key items` keeps, of the items with one key, the first, and keeps the order of
those it keeps.
-/

namespace GirTypings

/-- The items whose key no earlier item has. -/
def firstBy {α κ : Type} [DecidableEq κ] (key : α → κ) : List α → List α
  | [] => []
  | a :: rest => a :: (firstBy key rest).filter fun b => key b ≠ key a

/-- The items without repetitions, in the order of their first uses. -/
def firstUses {α : Type} [DecidableEq α] (items : List α) : List α :=
  firstBy id items

variable {α κ : Type} [DecidableEq κ] {key : α → κ}

@[simp] theorem firstBy_nil : firstBy key ([] : List α) = [] := rfl

/-- Items that are changed but keep their keys are kept or not as before. -/
theorem firstBy_map {β : Type} {f : α → β} {key' : β → κ} (h : ∀ a, key' (f a) = key a)
    (items : List α) : firstBy key' (items.map f) = (firstBy key items).map f := by
  induction items with
  | nil => rfl
  | cons a rest ih =>
    rw [List.map_cons, firstBy, firstBy, ih, List.filter_map, List.map_cons, h]
    simp only [Function.comp_def, h]

/-- What is kept was there. -/
theorem firstBy_sublist (items : List α) : (firstBy key items).Sublist items := by
  induction items with
  | nil => exact .slnil
  | cons a rest ih => exact (List.filter_sublist.trans ih).cons_cons a

/-- The keys of what is kept are distinct. -/
theorem nodup_map_firstBy (items : List α) : ((firstBy key items).map key).Nodup := by
  induction items with
  | nil => simp
  | cons a rest ih =>
    rw [firstBy, List.map_cons, List.nodup_cons]
    refine ⟨fun h => ?_, ih.sublist (List.filter_sublist.map key)⟩
    obtain ⟨b, hb, hkey⟩ := List.mem_map.1 h
    exact absurd hkey (by simpa using (List.mem_filter.1 hb).2)

/-- No key is lost. -/
theorem mem_map_firstBy {items : List α} {k : κ} :
    k ∈ (firstBy key items).map key ↔ k ∈ items.map key := by
  induction items with
  | nil => simp
  | cons a rest ih =>
    rw [firstBy, List.map_cons, List.map_cons, List.mem_cons, List.mem_cons, ← ih]
    refine ⟨fun h => h.imp_right fun hmem => ?_, fun h => ?_⟩
    · exact (List.filter_sublist.map key).subset hmem
    · by_cases hk : k = key a
      · exact .inl hk
      · obtain ⟨b, hb, rfl⟩ := List.mem_map.1 (h.resolve_left hk)
        exact .inr (List.mem_map_of_mem (List.mem_filter.2 ⟨hb, by simpa using hk⟩))

theorem nodup_firstUses [DecidableEq α] (items : List α) : (firstUses items).Nodup := by
  have h := @nodup_map_firstBy α α _ id items
  rwa [List.map_id] at h

theorem mem_firstUses [DecidableEq α] {items : List α} {a : α} :
    a ∈ firstUses items ↔ a ∈ items := by
  have h := @mem_map_firstBy α α _ id items a
  rwa [List.map_id, List.map_id] at h

/-- First uses stand in the order in which the items are used first. -/
theorem pairwise_idxOf_firstUses [DecidableEq α] (items : List α) :
    (firstUses items).Pairwise fun a b => items.idxOf a < items.idxOf b := by
  induction items with
  | nil => exact .nil
  | cons first rest ih =>
    have hrest : ∀ b, b ≠ first → (first :: rest).idxOf b = rest.idxOf b + 1 := fun b hb => by
      rw [List.idxOf_cons, beq_false_of_ne (Ne.symm hb), cond_false]
    rw [firstUses, firstBy, List.pairwise_cons]
    refine ⟨fun b hb => ?_, (ih.sublist List.filter_sublist).imp_of_mem fun {a b} ha hb hlt => ?_⟩
    · have hne : b ≠ first := of_decide_eq_true (List.mem_filter.1 hb).2
      rw [List.idxOf_cons_self, hrest b hne]
      exact Nat.succ_pos _
    · have hne : a ≠ first := of_decide_eq_true (List.mem_filter.1 ha).2
      have hne' : b ≠ first := of_decide_eq_true (List.mem_filter.1 hb).2
      rw [hrest a hne, hrest b hne']
      exact Nat.succ_lt_succ hlt

end GirTypings
