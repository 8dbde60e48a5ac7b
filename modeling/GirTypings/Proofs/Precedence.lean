import GirTypings.Registry.Order

/-!
# Parents before children

A pass goes through the waiting records once and places names as it goes, so a record
can be ready because of one placed just before it.  What the passes add up to does not
depend on how they are cut: the records placed are in an order in which each is ready
at its turn (`ParentsFirst`), nothing is lost or added, what is left keeps its order,
and nothing that is left is ready at the end.  `Arranges` says this of an outcome.

* `spec_pass`: what one pass does;
* `arranges_arrange`: what all passes do, by induction on them;
* `order_perm_and_parents_earlier`: what is written is a permutation of the registry,
  and before the stalled tail every local parent stands strictly earlier.

Names may repeat, parents may be missing or depend on each other.
-/

namespace GirTypings.Registry

variable {α : Type}

/-! ### Being ready -/

theorem Record.isReady_iff {placed : List String} {r : Record α} :
    r.isReady placed = true ↔ ∀ p ∈ r.localParents, p ∈ placed := by
  simp [Record.isReady]

theorem Record.isReady_eq_false_iff {placed : List String} {r : Record α} :
    r.isReady placed = false ↔ ∃ p ∈ r.localParents, p ∉ placed := by
  simp [Record.isReady]

/-- A record that is ready stays so while names are placed. -/
theorem Record.isReady_mono {placed more : List String} {r : Record α} (hsub : placed ⊆ more)
    (h : r.isReady placed = true) : r.isReady more = true :=
  Record.isReady_iff.2 fun p hp => hsub (Record.isReady_iff.1 h p hp)

/-- A record that is not ready was not ready with fewer names placed. -/
theorem Record.isReady_anti {placed more : List String} {r : Record α} (hsub : placed ⊆ more)
    (h : r.isReady more = false) : r.isReady placed = false := by
  rw [← Bool.not_eq_true] at h ⊢
  exact fun hready => h (r.isReady_mono hsub hready)

/-- Each record is ready at its turn, where the names of the records before it are
placed and some others were from the start. -/
def ParentsFirst : List String → List (Record α) → Prop
  | _, [] => True
  | placed, r :: rest => r.isReady placed = true ∧ ParentsFirst (r.name :: placed) rest

namespace ParentsFirst

theorem mono {placed more : List String} {rs : List (Record α)} (hsub : placed ⊆ more)
    (h : ParentsFirst placed rs) : ParentsFirst more rs := by
  induction rs generalizing placed more with
  | nil => trivial
  | cons r rest ih =>
    obtain ⟨hready, hrest⟩ := h
    exact ⟨r.isReady_mono hsub hready, ih (List.cons_subset_cons r.name hsub) hrest⟩

/-- Two stretches one after the other: the second may rely on the names of the first. -/
theorem append {placed : List String} {rs more : List (Record α)} (h : ParentsFirst placed rs)
    (hmore : ParentsFirst (rs.map Record.name ++ placed) more) :
    ParentsFirst placed (rs ++ more) := by
  induction rs generalizing placed with
  | nil => exact hmore
  | cons r rest ih =>
    obtain ⟨hready, hrest⟩ := h
    refine ⟨hready, ih hrest (hmore.mono ?_)⟩
    intro n hn
    rw [List.map_cons, List.cons_append, List.mem_cons] at hn
    rw [List.mem_append, List.mem_cons]
    rcases hn with rfl | hn
    · exact .inr (.inl rfl)
    · exact (List.mem_append.1 hn).imp_right .inr

/-- A local parent of a record was placed from the start, or it is the name of a record
at a strictly earlier position. -/
theorem exists_earlier {placed : List String} {rs : List (Record α)} (h : ParentsFirst placed rs)
    {i : Nat} {r : Record α} (hr : rs[i]? = some r) {p : String} (hp : p ∈ r.localParents) :
    p ∈ placed ∨ ∃ j q, j < i ∧ rs[j]? = some q ∧ q.name = p := by
  induction rs generalizing placed i with
  | nil => simp at hr
  | cons first rest ih =>
    obtain ⟨hready, hrest⟩ := h
    cases i with
    | zero =>
      obtain rfl : first = r := by simpa using hr
      exact .inl (Record.isReady_iff.1 hready p hp)
    | succ i =>
      rcases ih hrest (by simpa using hr) with hmem | ⟨j, q, hj, hq, hname⟩
      · rcases List.mem_cons.1 hmem with rfl | hmem
        · exact .inr ⟨0, first, by omega, rfl, rfl⟩
        · exact .inl hmem
      · exact .inr ⟨j + 1, q, by omega, by simpa using hq, hname⟩

/-- The same for a record with what stands before it. -/
theorem exists_before {placed : List String} {front back : List (Record α)} {r : Record α}
    (h : ParentsFirst placed (front ++ r :: back)) {p : String} (hp : p ∈ r.localParents) :
    p ∈ placed ∨ ∃ q ∈ front, q.name = p := by
  have hr : (front ++ r :: back)[front.length]? = some r := by simp
  rcases h.exists_earlier hr hp with hmem | ⟨j, q, hj, hq, hname⟩
  · exact .inl hmem
  · rw [List.getElem?_append_left hj] at hq
    exact .inr ⟨q, List.mem_of_getElem? hq, hname⟩

end ParentsFirst

/-! ### One pass -/

/-- What a pass does: it divides the waiting records, keeps the order of those that wait
on, and places records that are ready at their turns. -/
theorem spec_pass (placed : List String) (waiting : List (Record α)) :
    ((pass placed waiting).1 ++ (pass placed waiting).2).Perm waiting ∧
      (pass placed waiting).2.Sublist waiting ∧ ParentsFirst placed (pass placed waiting).1 := by
  induction waiting generalizing placed with
  | nil => exact ⟨.nil, .slnil, trivial⟩
  | cons r rest ih =>
    cases h : r.isReady placed with
    | true =>
      obtain ⟨hperm, hsub, hfirst⟩ := ih (r.name :: placed)
      rw [pass_cons_ready h]
      exact ⟨hperm.cons r, hsub.cons r, h, hfirst⟩
    | false =>
      obtain ⟨hperm, hsub, hfirst⟩ := ih placed
      rw [pass_cons_waiting h]
      exact ⟨List.perm_middle.trans (hperm.cons r), hsub.cons_cons r, hfirst⟩

/-- A pass that places nothing has found nothing ready. -/
theorem not_isReady_of_pass {placed : List String} {waiting : List (Record α)}
    (h : (pass placed waiting).1 = []) {r : Record α} (hr : r ∈ waiting) :
    r.isReady placed = false := by
  induction waiting with
  | nil => cases hr
  | cons s rest ih =>
    cases hs : s.isReady placed with
    | true => simp [pass_cons_ready hs] at h
    | false =>
      rw [pass_cons_waiting hs] at h
      rcases List.mem_cons.1 hr with rfl | hr
      · exact hs
      · exact ih h hr

/-! ### All passes -/

theorem arrange_of_stuck {placed : List String} {waiting later : List (Record α)}
    (h : pass placed waiting = ([], later)) : arrange placed waiting = ⟨[], later⟩ := by
  rw [arrange]
  split
  · rename_i hpass
    rw [h] at hpass
    cases hpass
    rfl
  · rename_i hpass
    rw [h] at hpass
    cases hpass

theorem arrange_of_progress {placed : List String} {waiting now later : List (Record α)}
    {r : Record α} (h : pass placed waiting = (r :: now, later)) :
    arrange placed waiting =
      ⟨r :: now ++ (arrange ((r :: now).map Record.name ++ placed) later).placed,
        (arrange ((r :: now).map Record.name ++ placed) later).stalled⟩ := by
  rw [arrange]
  split
  · rename_i hpass
    rw [h] at hpass
    cases hpass
  · rename_i hpass
    rw [h] at hpass
    cases hpass
    rfl

/-- An outcome of ordering the waiting records when some names are placed already:
nothing is lost, what stalls keeps its order, what is placed has its parents first, and
what stalls is not ready even at the end. -/
structure Arranges (placed : List String) (waiting : List (Record α)) (o : Ordering α) : Prop where
  perm : o.emission.Perm waiting
  sublist : o.stalled.Sublist waiting
  parentsFirst : ParentsFirst placed o.placed
  stuck : ∀ r ∈ o.stalled, r.isReady (o.placed.map Record.name ++ placed) = false

/-- **The passes arrange the records**, by induction on the passes: the names that one
pass places are placed from the start for those after it. -/
theorem arranges_arrange (placed : List String) (waiting : List (Record α)) :
    Arranges placed waiting (arrange placed waiting) := by
  fun_induction arrange placed waiting with
  | case1 placed waiting later h =>
    obtain ⟨hperm, hsub, -⟩ := spec_pass placed waiting
    have hnone : (pass placed waiting).1 = [] := congrArg Prod.fst h
    rw [h] at hperm hsub
    exact ⟨hperm, hsub, trivial, fun r hr => not_isReady_of_pass hnone (hsub.subset hr)⟩
  | case2 placed waiting r now later h _ further ih =>
    obtain ⟨hperm, hsub, hfirst⟩ := spec_pass placed waiting
    rw [h] at hperm hsub hfirst
    refine ⟨?_, ih.sublist.trans hsub, hfirst.append ih.parentsFirst, fun s hs => ?_⟩
    · rw [Ordering.emission, List.append_assoc]
      exact (ih.perm.append_left (r :: now)).trans hperm
    · -- the names are those of the later passes in another order
      rw [List.map_append, List.append_assoc]
      exact s.isReady_anti (List.perm_append_comm_assoc _ _ _).subset (ih.stuck s hs)

theorem arranges_order (records : List (Record α)) : Arranges [] records (order records) :=
  arranges_arrange [] records

/-- What stalls has a local parent that no placed record has for its name. -/
theorem not_isReady_of_mem_stalled {records : List (Record α)} {r : Record α}
    (hr : r ∈ (order records).stalled) :
    r.isReady ((order records).placed.map Record.name) = false := by
  have hstuck := (arranges_order records).stuck r hr
  rwa [List.append_nil] at hstuck

/-- In front of a placed record stands one that has the name of a local parent. -/
theorem exists_split_of_mem_placed {records : List (Record α)} {r : Record α}
    (hr : r ∈ (order records).placed) {p : String} (hp : p ∈ r.localParents) :
    ∃ front q middle back,
      (order records).placed = front ++ q :: middle ++ r :: back ∧ q.name = p := by
  obtain ⟨before, back, hsplit⟩ := List.append_of_mem hr
  have hfirst := (arranges_order records).parentsFirst
  rw [hsplit] at hfirst
  rcases hfirst.exists_before hp with hnil | ⟨q, hq, hname⟩
  · cases hnil
  · obtain ⟨front, middle, rfl⟩ := List.append_of_mem hq
    exact ⟨front, q, middle, back, hsplit, hname⟩

/-! ### The order of writing -/

/-- **What is written is a permutation of the registry, parents first.**  Every record
is written once and nothing else is; the stalled records are written last; and a local
parent of a record before them is the name of a record at a strictly earlier position. -/
theorem order_perm_and_parents_earlier (records : List (Record α)) :
    (order records).emission.Perm records ∧
    (order records).blocks = (order records).emission.map Record.contents ∧
    (order records).blocks.Perm (records.map Record.contents) ∧
    ((order records).emission.drop
      ((order records).emission.length - (order records).stalledNames.length)).map Record.name =
        (order records).stalledNames ∧
    ∀ i r, (order records).emission[i]? = some r →
      i + (order records).stalledNames.length < (order records).emission.length →
      ∀ p ∈ r.localParents,
        ∃ j q, j < i ∧ (order records).emission[j]? = some q ∧ q.name = p := by
  have harr := arranges_order records
  have hlen : (order records).emission.length =
      (order records).placed.length + (order records).stalledNames.length := by
    simp [Ordering.emission, Ordering.stalledNames]
  refine ⟨harr.perm, rfl, harr.perm.map _, ?_, fun i r hr hi p hp => ?_⟩
  · rw [hlen, Nat.add_sub_cancel, Ordering.emission, List.drop_left]
    rfl
  · have hlt : i < (order records).placed.length := by omega
    rw [Ordering.emission, List.getElem?_append_left hlt] at hr
    rcases harr.parentsFirst.exists_earlier hr hp with hnil | ⟨j, q, hj, hq, hname⟩
    · cases hnil
    · refine ⟨j, q, hj, ?_, hname⟩
      rw [Ordering.emission, List.getElem?_append_left (by omega), hq]

/-- A parent registered after its child, beside a cycle and a name given twice. -/
def entangled : List (Record Nat) :=
  [⟨"B", ["A", "Gtk.Widget"], 1⟩, ⟨"C", ["C"], 2⟩, ⟨"A", [], 3⟩, ⟨"B", ["B"], 4⟩]

/-- The late parent is written first, and the cycle last. -/
theorem order_parents_earlier_of_late_parent :
    (order entangled).emission[1]? = some ⟨"B", ["A", "Gtk.Widget"], 1⟩ ∧
    1 + (order entangled).stalledNames.length < (order entangled).emission.length ∧
    ∃ j q, j < 1 ∧ (order entangled).emission[j]? = some q ∧ q.name = "A" := by
  have hsecond : (order entangled).emission[1]? = some ⟨"B", ["A", "Gtk.Widget"], 1⟩ := by
    decide +kernel
  have hbefore : 1 + (order entangled).stalledNames.length < (order entangled).emission.length := by
    decide +kernel
  obtain ⟨-, -, -, -, hearlier⟩ := order_perm_and_parents_earlier entangled
  exact ⟨hsecond, hbefore, hearlier 1 _ hsecond hbefore "A" (by decide)⟩

end GirTypings.Registry
