/-!
# Tables

A table lists entries, each a value under a key, in the order in which their keys came
up first.  `Table.put` puts a value under a key: in the place of the value that was
there, or at the end.  So a table built by `put` has every key once, and `List.lookup`
finds the last value put under it.
-/

namespace GirTypings

/-- Values under keys, in order. -/
abbrev Table (κ ν : Type) := List (κ × ν)

namespace Table

variable {κ ν : Type} [BEq κ]

/-- Puts a value under a key, in the place of one that is there already. -/
def put (key : κ) (value : ν) : Table κ ν → Table κ ν
  | [] => [(key, value)]
  | (k, v) :: rest => if k == key then (k, value) :: rest else (k, v) :: put key value rest

/-- The table that a list of entries builds, of two under one key the later counting. -/
def ofEntries (entries : List (κ × ν)) : Table κ ν :=
  entries.foldl (fun t e => put e.1 e.2 t) []

@[simp] theorem put_nil (key : κ) (value : ν) : put key value [] = [(key, value)] := rfl

/-- A value of the table was put there, or was there before. -/
theorem value_of_mem_put {key : κ} {value : ν} {t : Table κ ν} {e : κ × ν}
    (h : e ∈ put key value t) : e.2 = value ∨ e ∈ t := by
  induction t with
  | nil =>
    left
    rw [List.mem_singleton.1 h]
  | cons first rest ih =>
    rw [put] at h
    split at h
    · rcases List.mem_cons.1 h with rfl | h
      · exact .inl rfl
      · exact .inr (List.mem_cons_of_mem first h)
    · rcases List.mem_cons.1 h with rfl | h
      · exact .inr (List.mem_cons_self ..)
      · exact (ih h).imp_right (List.mem_cons_of_mem first)

theorem value_of_mem_foldl_put {entries : List (κ × ν)} {t : Table κ ν} {e : κ × ν}
    (h : e ∈ entries.foldl (fun t e => put e.1 e.2 t) t) :
    e ∈ t ∨ e.2 ∈ entries.map Prod.snd := by
  induction entries generalizing t with
  | nil => exact .inl h
  | cons first rest ih =>
    rcases ih h with h | h
    · rcases value_of_mem_put h with h | h
      · right
        rw [h]
        exact List.mem_cons_self ..
      · exact .inl h
    · exact .inr (List.mem_cons_of_mem _ h)

/-- The values of a table are values of the entries that built it. -/
theorem value_mem_of_mem_ofEntries {entries : List (κ × ν)} {e : κ × ν}
    (h : e ∈ ofEntries entries) : e.2 ∈ entries.map Prod.snd :=
  (value_of_mem_foldl_put h).resolve_left nofun

variable [LawfulBEq κ]

/-- A value that was put under a key is found there. -/
theorem lookup_put_self (key : κ) (value : ν) (t : Table κ ν) :
    (put key value t).lookup key = some value := by
  induction t with
  | nil => simp
  | cons e rest ih =>
    obtain ⟨k, v⟩ := e
    by_cases h : k = key
    · simp [put, h]
    · have h' : (key == k) = false := by simpa using fun eq : key = k => h eq.symm
      simp [put, h, List.lookup_cons, h', ih]

/-- What is under other keys stays. -/
theorem lookup_put_of_ne {key other : κ} (h : other ≠ key) (value : ν) (t : Table κ ν) :
    (put key value t).lookup other = t.lookup other := by
  have h' : (other == key) = false := by simpa using h
  induction t with
  | nil => simp [List.lookup_cons, h']
  | cons e rest ih =>
    obtain ⟨k, v⟩ := e
    by_cases hk : k = key
    · subst hk
      simp [put, List.lookup_cons, h']
    · simp [put, hk, List.lookup_cons, ih]

/-- Of the entries that build a table the last one under a key counts. -/
theorem lookup_ofEntries (entries : List (κ × ν)) (key : κ) :
    (ofEntries entries).lookup key = entries.reverse.lookup key := by
  suffices h : ∀ reversed : List (κ × ν),
      (ofEntries reversed.reverse).lookup key = reversed.lookup key by
    have hreversed := h entries.reverse
    rwa [List.reverse_reverse] at hreversed
  intro reversed
  induction reversed with
  | nil => rfl
  | cons e rest ih =>
    have hput : ofEntries (e :: rest).reverse = put e.1 e.2 (ofEntries rest.reverse) := by
      rw [ofEntries, List.reverse_cons, List.foldl_append]
      rfl
    rw [hput, List.lookup_cons]
    by_cases h : key = e.1
    · rw [h, lookup_put_self, beq_self_eq_true]
    · rw [lookup_put_of_ne h, ih, beq_false_of_ne h]

/-- A value under a new key is put at the end. -/
theorem put_of_not_mem {key : κ} {t : Table κ ν} (h : key ∉ t.map Prod.fst) (value : ν) :
    put key value t = t ++ [(key, value)] := by
  induction t with
  | nil => rfl
  | cons e rest ih =>
    rw [List.map_cons, List.mem_cons, not_or] at h
    have hfirst : ¬ (e.1 == key) = true := fun heq => h.1 (eq_of_beq heq).symm
    rw [put, if_neg hfirst, ih h.2, List.cons_append]

/-- Entries under different keys are the table that they build. -/
theorem ofEntries_of_nodup {entries : List (κ × ν)} (h : (entries.map Prod.fst).Nodup) :
    ofEntries entries = entries := by
  suffices hfold : ∀ (front back : List (κ × ν)), ((front ++ back).map Prod.fst).Nodup →
      back.foldl (fun t e => put e.1 e.2 t) front = front ++ back from hfold [] entries h
  intro front back hnodup
  induction back generalizing front with
  | nil => rw [List.foldl_nil, List.append_nil]
  | cons e back ih =>
    have hnew : e.1 ∉ front.map Prod.fst := by
      rw [List.map_append, List.nodup_append] at hnodup
      exact fun hmem => hnodup.2.2 _ hmem _ (List.mem_cons_self ..) rfl
    rw [List.foldl_cons, put_of_not_mem hnew, ih, List.append_assoc, List.singleton_append]
    rwa [List.append_assoc, List.singleton_append]

end Table

end GirTypings
