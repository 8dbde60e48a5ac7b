import Mathlib.Data.List.MinMax
import Mathlib.Data.List.Nodup
import Mathlib.Order.Nat
import GirTypings.Proofs.Grounding
import GirTypings.Proofs.Reordering

/-!
# Pass numbers

Where every name is given once, the pass in which a record is placed follows from its
parents: a parent that is registered before its child may be placed in the same pass, one
that is registered after it is placed in an earlier pass.  So the **pass number** of a
record without local parents is one, and that of another is the largest number of a
parent, one more if the parent is registered later (`dueNumber`).  Records that stall
have no number.

* `mem_pass_fst`, `mem_pass_snd`: what lets a pass place a record, and what stops it;
* `exists_numbering_arrange`: the passes give each placed record the number that is due,
  and order what they place by number and then by position;
* `eq_of_isPassNumbering`: no other numbers satisfy the rule;
* `emission_eq_mergeSort_by_pass`: the order of writing, from the numbers alone.
-/

namespace GirTypings.Registry

variable {α : Type}

/-! ### Positions and numbers -/

/-- Where in a registry the record of a name stands. -/
def position (records : List (Record α)) (name : String) : Nat :=
  (records.map Record.name).idxOf name

/-- The number that a parent imposes on a record. -/
def imposed (records : List (Record α)) (number : String → Nat) (r : Record α) (parent : String) :
    Nat :=
  number parent + if position records r.name < position records parent then 1 else 0

/-- The number that a record has by the numbers of its local parents. -/
def dueNumber (records : List (Record α)) (number : String → Nat) (r : Record α) : Nat :=
  if r.localParents = [] then 1 else (r.localParents.map (imposed records number r)).foldr max 0

/-- Whether the name of a record is reported as stalled. -/
def Record.isStalled (records : List (Record α)) (r : Record α) : Bool :=
  (order records).stalledNames.contains r.name

/-- Whether all records but the stalled ones have the numbers that are due. -/
def IsPassNumbering (records : List (Record α)) (number : String → Nat) : Prop :=
  ∀ r ∈ records, r.isStalled records = false → number r.name = dueNumber records number r

/-- Whether a record comes before another by number, or by position where the numbers are
the same. -/
def comesFirst (records : List (Record α)) (number : String → Nat) (a b : Record α) : Bool :=
  number a.name < number b.name ||
    (number a.name = number b.name && position records a.name ≤ position records b.name)

theorem comesFirst_iff {records : List (Record α)} {number : String → Nat} {a b : Record α} :
    comesFirst records number a b = true ↔
      number a.name < number b.name ∨
        (number a.name = number b.name ∧ position records a.name ≤ position records b.name) := by
  simp [comesFirst]

/-- A number is due if no parent imposes a larger one and, where there are parents, one of
them imposes it. -/
theorem dueNumber_eq {records : List (Record α)} {number : String → Nat} {r : Record α} {k : Nat}
    (hle : ∀ p ∈ r.localParents, imposed records number r p ≤ k)
    (hge : (r.localParents = [] ∧ k = 1) ∨ ∃ p ∈ r.localParents, k ≤ imposed records number r p) :
    dueNumber records number r = k := by
  rw [dueNumber]
  split
  · next hnone =>
    rcases hge with ⟨-, hk⟩ | ⟨p, hp, -⟩
    · exact hk.symm
    · rw [hnone] at hp
      cases hp
  · next hsome =>
    obtain ⟨p, hp, hk⟩ := hge.resolve_left fun h => hsome h.1
    apply Nat.le_antisymm
    · refine List.max_le_of_forall_le _ k fun x hx => ?_
      obtain ⟨q, hq, rfl⟩ := List.mem_map.1 hx
      exact hle q hq
    · exact List.le_max_of_le (List.mem_map_of_mem hp) hk

/-- The number that is due depends on the numbers of local parents only. -/
theorem dueNumber_congr {records : List (Record α)} {number other : String → Nat} {r : Record α}
    (h : ∀ p ∈ r.localParents, number p = other p) :
    dueNumber records number r = dueNumber records other r := by
  have himposed : r.localParents.map (imposed records number r) =
      r.localParents.map (imposed records other r) :=
    List.map_congr_left fun p hp => by rw [imposed, imposed, h p hp]
  rw [dueNumber, dueNumber, himposed]

/-- Records in the order of their positions. -/
def InOrder (records waiting : List (Record α)) : Prop :=
  waiting.Pairwise fun a b => position records a.name < position records b.name

/-- A registry with distinct names has its records in order. -/
theorem inOrder_self {records : List (Record α)} (hnames : (records.map Record.name).Nodup) :
    InOrder records records := by
  have hposition : ∀ i (h : i < records.length), position records records[i].name = i := by
    intro i h
    have hidx := hnames.idxOf_getElem i (by simpa using h)
    rwa [List.getElem_map] at hidx
  refine List.pairwise_iff_getElem.2 fun i j hi hj hij => ?_
  rwa [hposition i hi, hposition j hj]

theorem InOrder.nodup_names {records waiting : List (Record α)} (h : InOrder records waiting) :
    (waiting.map Record.name).Nodup := by
  refine List.pairwise_map.2 (h.imp fun hlt heq => ?_)
  rw [heq] at hlt
  exact Nat.lt_irrefl _ hlt

/-! ### One pass -/

theorem sublist_pass_fst (placed : List String) (waiting : List (Record α)) :
    (pass placed waiting).1.Sublist waiting := by
  induction waiting generalizing placed with
  | nil => exact .slnil
  | cons r rest ih =>
    cases h : r.isReady placed with
    | true =>
      rw [pass_cons_ready h]
      exact (ih _).cons_cons r
    | false =>
      rw [pass_cons_waiting h]
      exact (ih _).cons r

/-- Each parent of what a pass places was placed before, or is placed in the same pass and
registered earlier. -/
theorem mem_pass_fst {records : List (Record α)} {placed : List String}
    {waiting : List (Record α)} (hsorted : InOrder records waiting) {r : Record α}
    (hr : r ∈ (pass placed waiting).1) {p : String} (hp : p ∈ r.localParents) :
    p ∈ placed ∨ ∃ q ∈ (pass placed waiting).1,
      q.name = p ∧ position records p < position records r.name := by
  induction waiting generalizing placed with
  | nil => cases hr
  | cons s rest ih =>
    obtain ⟨hfirst, hsorted⟩ := List.pairwise_cons.1 hsorted
    cases h : s.isReady placed with
    | true =>
      rw [pass_cons_ready h] at hr ⊢
      rcases List.mem_cons.1 hr with rfl | hr
      · exact .inl (Record.isReady_iff.1 h p hp)
      · rcases ih hsorted hr with hmem | ⟨q, hq, hname, hlt⟩
        · rcases List.mem_cons.1 hmem with rfl | hmem
          · have hlt := hfirst r ((sublist_pass_fst _ _).subset hr)
            exact .inr ⟨s, List.mem_cons_self .., rfl, hlt⟩
          · exact .inl hmem
        · exact .inr ⟨q, List.mem_cons_of_mem s hq, hname, hlt⟩
    | false =>
      rw [pass_cons_waiting h] at hr ⊢
      exact ih hsorted hr

/-- What a pass leaves has a parent that was not placed before, and that is registered
later if the pass places it. -/
theorem mem_pass_snd {records : List (Record α)} {placed : List String}
    {waiting : List (Record α)} (hsorted : InOrder records waiting) {r : Record α}
    (hr : r ∈ (pass placed waiting).2) :
    ∃ p ∈ r.localParents, p ∉ placed ∧ ∀ q ∈ (pass placed waiting).1, q.name = p →
      position records r.name < position records p := by
  induction waiting generalizing placed with
  | nil => cases hr
  | cons s rest ih =>
    obtain ⟨hfirst, hsorted⟩ := List.pairwise_cons.1 hsorted
    cases h : s.isReady placed with
    | true =>
      rw [pass_cons_ready h] at hr ⊢
      obtain ⟨p, hp, hnot, hlater⟩ := ih hsorted hr
      rw [List.mem_cons, not_or] at hnot
      refine ⟨p, hp, hnot.2, fun q hq hname => ?_⟩
      rcases List.mem_cons.1 hq with rfl | hq
      · exact absurd hname.symm hnot.1
      · exact hlater q hq hname
    | false =>
      rw [pass_cons_waiting h] at hr ⊢
      rcases List.mem_cons.1 hr with rfl | hr
      · obtain ⟨p, hp, hnot⟩ := Record.isReady_eq_false_iff.1 h
        refine ⟨p, hp, hnot, fun q hq hname => ?_⟩
        rw [← hname]
        exact hfirst q ((sublist_pass_fst _ _).subset hq)
      · exact ih hsorted hr

/-! ### All passes -/

/-- What holds before a pass of some number: the records that wait are in order, none has a
placed name, the numbers of placed names are smaller, and each record that waits has a
reason to do so.  A reason is a local parent that is not placed, or that imposes this number
or a larger one; or there are no local parents and this is the first pass. -/
structure AwaitsPass (records : List (Record α)) (k : Nat) (number : String → Nat)
    (placed : List String) (waiting : List (Record α)) : Prop where
  inOrder : InOrder records waiting
  fresh : ∀ r ∈ waiting, r.name ∉ placed
  past : ∀ n ∈ placed, number n < k
  reason : ∀ r ∈ waiting, (r.localParents = [] ∧ k = 1) ∨
    ∃ p ∈ r.localParents, p ∈ placed → k ≤ imposed records number r p

/-- The numbers after a pass: that of the pass for what it places, and others as before. -/
def numberPass (k : Nat) (now : List (Record α)) (number : String → Nat) (n : String) : Nat :=
  if n ∈ now.map Record.name then k else number n

theorem numberPass_of_mem {k : Nat} {now : List (Record α)} {number : String → Nat}
    {r : Record α} (hr : r ∈ now) : numberPass k now number r.name = k :=
  if_pos (List.mem_map_of_mem hr)

theorem numberPass_of_mem_placed {records waiting now : List (Record α)} {k : Nat}
    {number : String → Nat} {placed : List String}
    (h : AwaitsPass records k number placed waiting) (hnow : now ⊆ waiting) {n : String}
    (hn : n ∈ placed) : numberPass k now number n = number n := by
  refine if_neg fun hmem => ?_
  obtain ⟨r, hr, rfl⟩ := List.mem_map.1 hmem
  exact h.fresh r (hnow hr) hn

/-- **What a pass places has the number of the pass.** -/
theorem dueNumber_of_mem_pass {records waiting : List (Record α)} {k : Nat}
    {number : String → Nat} {placed : List String}
    (h : AwaitsPass records k number placed waiting) {r : Record α}
    (hr : r ∈ (pass placed waiting).1) :
    dueNumber records (numberPass k (pass placed waiting).1 number) r = k := by
  have hsub := (sublist_pass_fst placed waiting).subset
  refine dueNumber_eq (fun p hp => ?_) ?_
  · rcases mem_pass_fst h.inOrder hr hp with hplaced | ⟨q, hq, rfl, hlt⟩
    · have hpast := h.past p hplaced
      rw [imposed, numberPass_of_mem_placed h hsub hplaced]
      split <;> omega
    · rw [imposed, numberPass_of_mem hq, if_neg (by omega)]
      exact Nat.le_refl k
  · rcases h.reason r (hsub hr) with hnone | ⟨p, hp, himposed⟩
    · exact .inl hnone
    · refine .inr ⟨p, hp, ?_⟩
      rcases mem_pass_fst h.inOrder hr hp with hplaced | ⟨q, hq, rfl, -⟩
      · rw [imposed, numberPass_of_mem_placed h hsub hplaced]
        exact himposed hplaced
      · rw [imposed, numberPass_of_mem hq]
        exact Nat.le_add_right k _

/-- **What a pass leaves awaits the next pass.** -/
theorem AwaitsPass.next {records waiting : List (Record α)} {k : Nat} {number : String → Nat}
    {placed : List String} (h : AwaitsPass records k number placed waiting) :
    AwaitsPass records (k + 1) (numberPass k (pass placed waiting).1 number)
      ((pass placed waiting).1.map Record.name ++ placed) (pass placed waiting).2 := by
  obtain ⟨hperm, hlater, -⟩ := spec_pass placed waiting
  have hsub := (sublist_pass_fst placed waiting).subset
  have hnodup := (hperm.map Record.name).nodup_iff.2 h.inOrder.nodup_names
  rw [List.map_append] at hnodup
  refine ⟨h.inOrder.sublist hlater, fun r hr hmem => ?_, fun n hn => ?_, fun r hr => .inr ?_⟩
  · rcases List.mem_append.1 hmem with hnow | hplaced
    · exact (List.nodup_append.1 hnodup).2.2 _ hnow _ (List.mem_map_of_mem hr) rfl
    · exact h.fresh r (hlater.subset hr) hplaced
  · rcases List.mem_append.1 hn with hnow | hplaced
    · obtain ⟨q, hq, rfl⟩ := List.mem_map.1 hnow
      rw [numberPass_of_mem hq]
      exact Nat.lt_succ_self k
    · rw [numberPass_of_mem_placed h hsub hplaced]
      exact Nat.lt_succ_of_lt (h.past n hplaced)
  · obtain ⟨p, hp, hnot, hreason⟩ := mem_pass_snd h.inOrder hr
    refine ⟨p, hp, fun hmem => ?_⟩
    -- only this pass can have placed the parent, and then the parent is registered later
    obtain ⟨q, hq, rfl⟩ := List.mem_map.1 ((List.mem_append.1 hmem).resolve_right hnot)
    rw [imposed, numberPass_of_mem hq, if_pos (hreason q hq rfl)]

/-- **The passes number what they place**, by induction on them: numbers that agree with
those given before are due for every placed record, and the placed records are ordered by
number and then by position. -/
theorem exists_numbering_arrange (records : List (Record α)) (placed : List String)
    (waiting : List (Record α)) :
    ∀ {k : Nat} {number : String → Nat}, AwaitsPass records k number placed waiting →
    ∃ numbering : String → Nat, (∀ n ∈ placed, numbering n = number n) ∧
      (∀ r ∈ (arrange placed waiting).placed, k ≤ numbering r.name ∧
        numbering r.name = dueNumber records numbering r) ∧
      (arrange placed waiting).placed.Pairwise
        fun a b => comesFirst records numbering a b = true := by
  induction placed, waiting using arrange.induct with
  | case1 placed waiting later hpass =>
    intro k number _
    rw [arrange_of_stuck hpass]
    exact ⟨number, fun _ _ => rfl, nofun, .nil⟩
  | case2 placed waiting r now later hpass _ ih =>
    intro k number h
    rw [arrange_of_progress hpass]
    have hnext := h.next
    have hfirst : (pass placed waiting).1 = r :: now := congrArg Prod.fst hpass
    have hlater : (pass placed waiting).2 = later := congrArg Prod.snd hpass
    have hdue : ∀ s ∈ (pass placed waiting).1, _ := fun s => dueNumber_of_mem_pass h
    have hplaces : ∀ s ∈ (pass placed waiting).1, ∀ p ∈ s.localParents, _ :=
      fun s hs p => mem_pass_fst h.inOrder hs
    have hsub := sublist_pass_fst placed waiting
    rw [hlater] at hnext
    rw [hfirst] at hnext hdue hplaces hsub
    obtain ⟨numbering, hagrees, hnumbers, hsorted⟩ := ih hnext
    -- the numbers of this pass are kept by all that follow
    have hkept : ∀ s ∈ r :: now, numbering s.name = k := fun s hs => by
      rw [hagrees _ (List.mem_append_left _ (List.mem_map_of_mem hs)), numberPass_of_mem hs]
    refine ⟨numbering, fun n hn => ?_, fun s hs => ?_, ?_⟩
    · rw [hagrees n (List.mem_append_right _ hn), numberPass_of_mem_placed h hsub.subset hn]
    · rcases List.mem_append.1 hs with hs | hs
      · refine ⟨(hkept s hs).ge, ?_⟩
        rw [hkept s hs, ← hdue s hs]
        refine dueNumber_congr fun p hp => (hagrees p ?_).symm
        rcases hplaces s hs p hp with hplaced | ⟨q, hq, rfl, -⟩
        · exact List.mem_append_right _ hplaced
        · exact List.mem_append_left _ (List.mem_map_of_mem hq)
      · exact ⟨Nat.le_of_succ_le (hnumbers s hs).1, (hnumbers s hs).2⟩
    · refine List.pairwise_append.2 ⟨?_, hsorted, fun a ha b hb => ?_⟩
      · refine (h.inOrder.sublist hsub).imp_of_mem fun ha hb hlt => comesFirst_iff.2 (.inr ?_)
        exact ⟨(hkept _ ha).trans (hkept _ hb).symm, Nat.le_of_lt hlt⟩
      · rw [comesFirst_iff, hkept a ha]
        exact .inl (hnumbers b hb).1

/-! ### The order of writing -/

/-- Before the first pass nothing is numbered, and nothing needs to be. -/
theorem awaitsPass_first {records : List (Record α)} (hnames : (records.map Record.name).Nodup) :
    AwaitsPass records 1 (fun _ => 0) [] records where
  inOrder := inOrder_self hnames
  fresh := fun _ _ => List.not_mem_nil
  past := nofun
  reason := fun r _ => by
    cases hparents : r.localParents with
    | nil => exact .inl ⟨rfl, rfl⟩
    | cons p rest => exact .inr ⟨p, List.mem_cons_self .., nofun⟩

section

variable {records : List (Record α)}

theorem isStalled_of_mem_stalled {r : Record α} (hr : r ∈ (order records).stalled) :
    r.isStalled records = true :=
  List.contains_iff_mem.2 (List.mem_map_of_mem hr)

variable (hnames : (records.map Record.name).Nodup)

include hnames

/-- No placed record has the name of a stalled one. -/
theorem isStalled_of_mem_placed {r : Record α} (hr : r ∈ (order records).placed) :
    r.isStalled records = false := by
  have hnodup := ((arranges_order records).perm.map Record.name).nodup_iff.2 hnames
  rw [Ordering.emission, List.map_append] at hnodup
  refine Bool.eq_false_iff.2 fun hstalled => ?_
  have hmem : r.name ∈ (order records).stalled.map Record.name := List.contains_iff_mem.1 hstalled
  exact (List.nodup_append.1 hnodup).2.2 _ (List.mem_map_of_mem hr) _ hmem rfl

theorem mem_placed_iff {r : Record α} :
    r ∈ (order records).placed ↔ r ∈ records ∧ r.isStalled records = false := by
  refine ⟨fun hr => ⟨mem_of_mem_placed hr, isStalled_of_mem_placed hnames hr⟩, ?_⟩
  rintro ⟨hr, hstalled⟩
  refine (mem_placed_or_mem_stalled hr).resolve_right fun hmem => ?_
  rw [isStalled_of_mem_stalled hmem] at hstalled
  cases hstalled

/-- The stalled records, in the order of the registry. -/
theorem stalled_eq_filter_isStalled :
    (order records).stalled = records.filter (Record.isStalled records) := by
  have hplaced : (order records).placed.filter (Record.isStalled records) = [] :=
    List.filter_eq_nil_iff.2 fun r hr => by simp [isStalled_of_mem_placed hnames hr]
  have hstalled : (order records).stalled.filter (Record.isStalled records) =
      (order records).stalled :=
    List.filter_eq_self.2 fun r hr => isStalled_of_mem_stalled hr
  have hsub := (arranges_order records).sublist.filter (Record.isStalled records)
  have hperm := (arranges_order records).perm.filter (Record.isStalled records)
  rw [hstalled] at hsub
  rw [Ordering.emission, List.filter_append, hplaced, hstalled, List.nil_append] at hperm
  exact hsub.eq_of_length hperm.length_eq

/-- The placed records, in another order. -/
theorem perm_placed :
    (order records).placed.Perm (records.filter fun r => !r.isStalled records) := by
  have hperm := (arranges_order records).perm.filter fun r => !r.isStalled records
  have hplaced : (order records).placed.filter (fun r => !r.isStalled records) =
      (order records).placed :=
    List.filter_eq_self.2 fun r hr => by simp [isStalled_of_mem_placed hnames hr]
  have hstalled : (order records).stalled.filter (fun r => !r.isStalled records) = [] :=
    List.filter_eq_nil_iff.2 fun r hr => by simp [isStalled_of_mem_stalled hr]
  rwa [Ordering.emission, List.filter_append, hplaced, hstalled, List.append_nil] at hperm

/-- **Pass numbers are determined by their rule**, by induction on the order of placing. -/
theorem eq_of_isPassNumbering {number other : String → Nat}
    (hnumber : IsPassNumbering records number) (hother : IsPassNumbering records other)
    {r : Record α} (hr : r ∈ (order records).placed) : number r.name = other r.name := by
  have hrule : ∀ s ∈ (order records).placed, number s.name = dueNumber records number s ∧
      other s.name = dueNumber records other s := fun s hs =>
    have ⟨hmem, hstalled⟩ := (mem_placed_iff hnames).1 hs
    ⟨hnumber s hmem hstalled, hother s hmem hstalled⟩
  have hagree : ∀ {placed rs}, ParentsFirst placed rs → (∀ n ∈ placed, number n = other n) →
      (∀ s ∈ rs, number s.name = dueNumber records number s ∧
        other s.name = dueNumber records other s) →
      ∀ s ∈ rs, number s.name = other s.name := by
    intro placed rs hfirst hplaced hrule
    induction rs generalizing placed with
    | nil => exact nofun
    | cons s rest ih =>
      obtain ⟨hready, hrest⟩ := hfirst
      obtain ⟨⟨hs, hs'⟩, hrule⟩ := List.forall_mem_cons.1 hrule
      have heq : number s.name = other s.name := by
        rw [hs, hs']
        exact dueNumber_congr fun p hp => hplaced p (Record.isReady_iff.1 hready p hp)
      have hmore := ih hrest (List.forall_mem_cons.2 ⟨heq, hplaced⟩) hrule
      exact List.forall_mem_cons.2 ⟨heq, hmore⟩
  exact hagree (arranges_order records).parentsFirst nofun hrule r hr

/-- Records of one position are the same. -/
theorem eq_of_position_eq {a b : Record α} (ha : a ∈ records) (hb : b ∈ records)
    (h : position records a.name = position records b.name) : a = b := by
  have hname := (List.idxOf_inj (List.mem_map_of_mem ha)).1 h
  exact List.inj_on_of_nodup_map hnames ha hb hname

theorem comesFirst_antisymm (number : String → Nat) {a b : Record α} (ha : a ∈ records)
    (hb : b ∈ records) (hab : comesFirst records number a b = true)
    (hba : comesFirst records number b a = true) : a = b := by
  rw [comesFirst_iff] at hab hba
  exact eq_of_position_eq hnames ha hb (by omega)

/-- Records that are ordered by number and then by position are what sorting makes of any
other order. -/
theorem eq_mergeSort_comesFirst {number : String → Nat} {rs some : List (Record α)}
    (hsub : rs ⊆ records) (hperm : rs.Perm some)
    (hsorted : rs.Pairwise fun a b => comesFirst records number a b = true) :
    rs = some.mergeSort (comesFirst records number) := by
  have hmerge := @List.pairwise_mergeSort _ (comesFirst records number)
    (fun a b c hab hbc => by rw [comesFirst_iff] at *; omega)
    (fun a b => by rw [Bool.or_eq_true, comesFirst_iff, comesFirst_iff]; omega) some
  have hperm' := hperm.trans (List.mergeSort_perm some (comesFirst records number)).symm
  refine List.Perm.eq_of_pairwise (fun a b ha hb => ?_) hsorted hmerge hperm'
  exact comesFirst_antisymm hnames number (hsub ha) (hsub (hperm'.mem_iff.2 hb))

end

/-- Records whose local parents are all listed before them have their parents first. -/
theorem parentsFirst_of_listed {records : List (Record α)}
    (h : ∀ front r back, records = front ++ r :: back →
      ∀ p ∈ r.localParents, p ∈ front.map Record.name) : ParentsFirst [] records := by
  have hall : ∀ front back : List (Record α), records = front ++ back →
      ParentsFirst (front.map Record.name) back := by
    intro front back
    induction back generalizing front with
    | nil => exact fun _ => trivial
    | cons r rest ih =>
      intro hsplit
      refine ⟨Record.isReady_iff.2 (h front r rest hsplit), ?_⟩
      refine (ih (front ++ [r]) (by rw [hsplit, List.append_cons])).mono fun n hn => ?_
      rw [List.map_append, List.mem_append] at hn
      rcases hn with hn | hn
      · exact List.mem_cons_of_mem _ hn
      · rw [List.mem_singleton.1 hn]
        exact List.mem_cons_self ..
  exact hall [] records rfl

/-- **The order of writing, from pass numbers.**  In a registry with distinct names there
are numbers that follow the rule of pass numbers; they are unique for the records that do
not stall; and what is written is these records, sorted by number and then by position,
followed by those that stall, in the order of the registry.  So a registry that lists every
local parent before its children is written as it is. -/
theorem emission_eq_mergeSort_by_pass (records : List (Record α))
    (hnames : (records.map Record.name).Nodup) :
    (∃ number : String → Nat, IsPassNumbering records number ∧
      (∀ other, IsPassNumbering records other →
        ∀ r ∈ records, r.isStalled records = false → other r.name = number r.name) ∧
      (order records).emission =
        (records.filter fun r => !r.isStalled records).mergeSort (comesFirst records number) ++
          records.filter fun r => r.isStalled records) ∧
    (order records).blocks = (order records).emission.map Record.contents ∧
    ((∀ front r back, records = front ++ r :: back →
        ∀ p ∈ r.localParents, p ∈ front.map Record.name) →
      (order records).blocks = records.map Record.contents) := by
  obtain ⟨number, -, hnumbers, hsorted⟩ :=
    exists_numbering_arrange records [] records (awaitsPass_first hnames)
  have hnumbering : IsPassNumbering records number := fun r hr hstalled =>
    (hnumbers r ((mem_placed_iff hnames).2 ⟨hr, hstalled⟩)).2
  refine ⟨⟨number, hnumbering, fun other hother r hr hstalled => ?_, ?_⟩, rfl, fun hlisted => ?_⟩
  · exact eq_of_isPassNumbering hnames hother hnumbering
      ((mem_placed_iff hnames).2 ⟨hr, hstalled⟩)
  · rw [Ordering.emission, stalled_eq_filter_isStalled hnames,
      ← eq_mergeSort_comesFirst hnames (fun _ => mem_of_mem_placed) (perm_placed hnames) hsorted]
  · have hsettled := isSettled_of_parentsFirst (parentsFirst_of_listed hlisted)
    rw [Ordering.blocks, emission_eq_self_iff.2 hsettled]

/-- Children in front of their parents, beside a record that is its own parent. -/
def descending : List (Record Nat) :=
  [⟨"C", ["B", "A"], 1⟩, ⟨"B", ["A"], 2⟩, ⟨"A", [], 3⟩, ⟨"D", ["D"], 4⟩, ⟨"E", ["A"], 5⟩]

/-- Each child waits for the next pass, but for the one that comes after its parent. -/
theorem emission_by_pass_of_descending :
    (descending.map Record.name).Nodup ∧
    (∃ number, IsPassNumbering descending number ∧ number "C" = 3 ∧ number "E" = 1 ∧
      (order descending).emission =
        (descending.filter fun r => !r.isStalled descending).mergeSort
          (comesFirst descending number) ++ descending.filter fun r => r.isStalled descending) ∧
    (order descending).emission.map Record.name = ["A", "E", "B", "C", "D"] := by
  have hnames : (descending.map Record.name).Nodup := by decide
  obtain ⟨⟨number, hnumber, -, hemission⟩, -, -⟩ := emission_eq_mergeSort_by_pass descending hnames
  have hA : number "A" = 1 := hnumber ⟨"A", [], 3⟩ (by decide) (by decide +kernel)
  have hB : number "B" = max (number "A" + 1) 0 :=
    hnumber ⟨"B", ["A"], 2⟩ (by decide) (by decide +kernel)
  have hC : number "C" = max (number "B" + 1) (max (number "A" + 1) 0) :=
    hnumber ⟨"C", ["B", "A"], 1⟩ (by decide) (by decide +kernel)
  have hE : number "E" = max (number "A" + 0) 0 :=
    hnumber ⟨"E", ["A"], 5⟩ (by decide) (by decide +kernel)
  exact ⟨hnames, ⟨number, hnumber, by omega, by omega, hemission⟩, by decide +kernel⟩

end GirTypings.Registry
