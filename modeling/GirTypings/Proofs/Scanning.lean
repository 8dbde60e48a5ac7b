import GirTypings.Proofs.Run
import GirTypings.Scanner

/-!
# What scanners read

A scanner **reads** a value off the front of a list and leaves a rest (`Reads`), or it
refuses the list.  What a scanner put together from others reads is told by what they read,
and so is what it can give at all (`Gives`).

* `Scanner.reads_bind_iff`, `Eager.reads_andThen_iff`, `Eager.reads_orElse_iff`: sequences and
  alternatives;
* `Eager.reads_many_nil`, `Eager.reads_many_cons`: repetition, one reading at a time;
* `Eager.Gives.many`: what holds of all that a scanner gives holds of all that it gives when it
  is repeated.
-/

namespace GirTypings

variable {σ α β : Type} {s mid rest : List σ} {a : α} {b : β}

/-! ### Readings -/

namespace Scanner

/-- Whether a scanner reads a value off the front of a list and leaves a rest. -/
def Reads (p : Scanner σ α) (s : List σ) (a : α) (rest : List σ) : Prop :=
  ∃ h, p.run s = some (a, ⟨rest, h⟩)

@[simp] theorem reads_pure (a : α) (s : List σ) : (pure a : Scanner σ α).Reads s a s :=
  ⟨Nat.le_refl _, rfl⟩

theorem reads_pure_iff {x : α} : (pure x : Scanner σ α).Reads s a rest ↔ a = x ∧ rest = s := by
  constructor
  · rintro ⟨_, h⟩
    cases h
    exact ⟨rfl, rfl⟩
  · rintro ⟨rfl, rfl⟩
    exact reads_pure a _

/-- A sequence reads with the second scanner what the first one leaves. -/
theorem reads_bind_iff {p : Scanner σ α} {f : α → Scanner σ β} :
    (p >>= f).Reads s b rest ↔ ∃ a mid, p.Reads s a mid ∧ (f a).Reads mid b rest := by
  constructor
  · rintro ⟨_, h⟩
    simp only [bind] at h
    split at h
    · cases h
    · next a mid hmid hp =>
      split at h
      · cases h
      · next hf =>
        cases h
        exact ⟨a, mid, ⟨hmid, hp⟩, _, hf⟩
  · rintro ⟨a, mid, ⟨hmid, hp⟩, hrest, hf⟩
    refine ⟨Nat.le_trans hrest hmid, ?_⟩
    simp only [bind, hp, hf]

theorem run_orElse (p q : Scanner σ α) (s : List σ) : (p <|> q).run s = (p.run s).or (q.run s) := by
  have horElse : (p <|> q) = p.orElse fun _ => q := rfl
  rw [horElse]
  cases hp : p.run s <;> simp [orElse, hp]

/-- The second of two alternatives reads where the first one refuses. -/
theorem reads_orElse_iff {p q : Scanner σ α} :
    (p <|> q).Reads s a rest ↔ p.Reads s a rest ∨ p.run s = none ∧ q.Reads s a rest := by
  rw [Reads, run_orElse]
  cases hp : p.run s <;> simp [Reads, hp]

/-- The whole list is read where nothing is left. -/
theorem all?_eq_some_iff {p : Scanner σ α} : p.all? s = some a ↔ p.Reads s a [] := by
  constructor
  · intro h
    simp only [all?] at h
    split at h
    · next hlength hp =>
      cases h
      exact ⟨hlength, hp⟩
    · cases h
  · rintro ⟨_, h⟩
    simp only [all?, h]

end Scanner

namespace Eager

/-- Whether an eager scanner reads a value off the front of a list and leaves a rest. -/
def Reads (p : Eager σ α) (s : List σ) (a : α) (rest : List σ) : Prop :=
  ∃ h, p.run s = some (a, ⟨rest, h⟩)

variable {p q : Eager σ α} {f : α → Scanner σ β}

theorem Reads.length_lt (h : p.Reads s a rest) : rest.length < s.length :=
  h.1

theorem reads_scan_iff : p.scan.Reads s a rest ↔ p.Reads s a rest := by
  constructor
  · rintro ⟨_, h⟩
    simp only [scan] at h
    split at h
    · cases h
    · next hp =>
      cases h
      exact ⟨_, hp⟩
  · rintro ⟨hlt, h⟩
    refine ⟨Nat.le_of_lt hlt, ?_⟩
    simp only [scan, h]

theorem refuses_scan (h : p.run s = none) : p.scan.run s = none := by
  simp only [scan, h]

theorem reads_andThen_iff :
    (p.andThen f).Reads s b rest ↔ ∃ a mid, p.Reads s a mid ∧ (f a).Reads mid b rest := by
  constructor
  · rintro ⟨_, h⟩
    simp only [andThen] at h
    split at h
    · cases h
    · next a mid hmid hp =>
      split at h
      · cases h
      · next hf =>
        cases h
        exact ⟨a, mid, ⟨hmid, hp⟩, _, hf⟩
  · rintro ⟨a, mid, ⟨hmid, hp⟩, hrest, hf⟩
    refine ⟨Nat.lt_of_le_of_lt hrest hmid, ?_⟩
    simp only [andThen, hp, hf]

theorem reads_andThen (h : p.Reads s a mid) (hf : (f a).Reads mid b rest) :
    (p.andThen f).Reads s b rest :=
  reads_andThen_iff.2 ⟨a, mid, h, hf⟩

theorem refuses_andThen (h : p.run s = none) : (p.andThen f).run s = none := by
  simp only [andThen, h]

theorem run_orElse (p q : Eager σ α) (s : List σ) : (p <|> q).run s = (p.run s).or (q.run s) := by
  have horElse : (p <|> q) = p.orElse fun _ => q := rfl
  rw [horElse]
  cases hp : p.run s <;> simp [orElse, hp]

/-- The second of two alternatives reads where the first one refuses. -/
theorem reads_orElse_iff :
    (p <|> q).Reads s a rest ↔ p.Reads s a rest ∨ p.run s = none ∧ q.Reads s a rest := by
  rw [Reads, run_orElse]
  cases hp : p.run s <;> simp [Reads, hp]

theorem reads_orElse_left (h : p.Reads s a rest) : (p <|> q).Reads s a rest :=
  reads_orElse_iff.2 (.inl h)

theorem reads_orElse_right (hp : p.run s = none) (h : q.Reads s a rest) :
    (p <|> q).Reads s a rest :=
  reads_orElse_iff.2 (.inr ⟨hp, h⟩)

theorem refuses_orElse (hp : p.run s = none) (hq : q.run s = none) : (p <|> q).run s = none := by
  rw [run_orElse, hp, hq]
  rfl

/-- Repetition ends where the scanner refuses. -/
theorem reads_many_nil (h : p.run s = none) : p.many.Reads s [] s := by
  have hrepeat : p.repeatFrom s = ([], ⟨s, Nat.le_refl _⟩) := by rw [repeatFrom, h]
  exact ⟨Nat.le_refl _, congrArg some hrepeat⟩

/-- Repetition reads once and repeats. -/
theorem reads_many_cons {as : List α} (h : p.Reads s a mid) (hmany : p.many.Reads mid as rest) :
    p.many.Reads s (a :: as) rest := by
  obtain ⟨hlt, hp⟩ := h
  obtain ⟨hle, hmore⟩ := hmany
  have hmore : p.repeatFrom mid = (as, ⟨rest, hle⟩) := Option.some.inj hmore
  have hrepeat : p.repeatFrom s =
      (a :: as, ⟨rest, Nat.le_trans hle (Nat.le_of_lt hlt)⟩) := by
    rw [repeatFrom, hp]
    simp only [hmore]
  exact ⟨_, congrArg some hrepeat⟩

end Eager

/-! ### Items and characters -/

namespace Scanner

theorem reads_item_iff {f : σ → Option α} :
    (item f).Reads s a rest ↔ ∃ c, s = c :: rest ∧ f c = some a := by
  constructor
  · rintro ⟨_, h⟩
    cases s with
    | nil => cases h
    | cons c s =>
      obtain ⟨found, hf, heq⟩ := Option.map_eq_some_iff.1 h
      cases heq
      exact ⟨c, rfl, hf⟩
  · rintro ⟨c, rfl, hf⟩
    exact ⟨Nat.lt_succ_self _, congrArg (Option.map _) hf⟩

theorem refuses_item_cons {f : σ → Option α} {c : σ} (h : f c = none) :
    (item f).run (c :: s) = none :=
  congrArg (Option.map _) h

variable {isIn : Char → Bool} {c d : Char} {cs run tail : List Char}

theorem reads_charWhere_iff :
    (charWhere isIn).Reads cs c tail ↔ cs = c :: tail ∧ isIn c = true := by
  rw [charWhere, reads_item_iff]
  constructor
  · rintro ⟨d, rfl, h⟩
    split at h
    · next hd =>
      cases h
      exact ⟨rfl, hd⟩
    · cases h
  · rintro ⟨rfl, h⟩
    exact ⟨c, rfl, if_pos h⟩

theorem refuses_charWhere (h : isIn c = false) : (charWhere isIn).run (c :: cs) = none :=
  refuses_item_cons (if_neg (Bool.eq_false_iff.1 h))

theorem reads_char (c : Char) (cs : List Char) : (char c).Reads (c :: cs) c cs :=
  reads_charWhere_iff.2 ⟨rfl, beq_self_eq_true c⟩

theorem refuses_char (h : c ≠ d) : (char d).run (c :: cs) = none :=
  refuses_charWhere (beq_false_of_ne h)

theorem reads_charsWhere_iff :
    (charsWhere isIn).Reads cs run tail ↔ run = cs.takeWhile isIn ∧ tail = cs.dropWhile isIn := by
  constructor
  · rintro ⟨_, h⟩
    cases h
    exact ⟨rfl, rfl⟩
  · rintro ⟨rfl, rfl⟩
    exact ⟨(List.dropWhile_suffix isIn).length_le, rfl⟩

/-- A run of characters of a class, at least one, is read up to a character that is not of it. -/
theorem reads_someCharsWhere_iff :
    (someCharsWhere isIn).Reads cs run tail ↔
      run ≠ [] ∧ run = cs.takeWhile isIn ∧ tail = cs.dropWhile isIn := by
  constructor
  · intro h
    obtain ⟨c, mid, hfirst, hmore⟩ := Eager.reads_andThen_iff.1 h
    obtain ⟨more, _, hrun, hpure⟩ := reads_bind_iff.1 hmore
    obtain ⟨rfl, hc⟩ := reads_charWhere_iff.1 hfirst
    obtain ⟨rfl, rfl⟩ := reads_charsWhere_iff.1 hrun
    obtain ⟨rfl, rfl⟩ := reads_pure_iff.1 hpure
    rw [List.takeWhile_cons_of_pos hc, List.dropWhile_cons_of_pos hc]
    exact ⟨List.cons_ne_nil _ _, rfl, rfl⟩
  · rintro ⟨hne, rfl, rfl⟩
    cases cs with
    | nil => exact absurd rfl hne
    | cons c cs =>
      have hc : isIn c = true := by
        by_cases hc : isIn c = true
        · exact hc
        · exact absurd (List.takeWhile_cons_of_neg hc) hne
      rw [List.takeWhile_cons_of_pos hc, List.dropWhile_cons_of_pos hc]
      exact Eager.reads_andThen_iff.2 ⟨c, cs, reads_charWhere_iff.2 ⟨rfl, hc⟩,
        reads_bind_iff.2 ⟨_, _, reads_charsWhere_iff.2 ⟨rfl, rfl⟩, reads_pure_iff.2 ⟨rfl, rfl⟩⟩⟩

/-- A run is read as a whole. -/
theorem reads_someCharsWhere_append (hne : run ≠ []) (hrun : ∀ d ∈ run, isIn d = true)
    (htail : Text.EndsRun isIn tail) : (someCharsWhere isIn).Reads (run ++ tail) run tail :=
  reads_someCharsWhere_iff.2
    ⟨hne, (Text.takeWhile_run hrun htail).symm, (Text.dropWhile_run hrun htail).symm⟩

theorem refuses_someCharsWhere {c : Char} (h : isIn c = false) :
    (someCharsWhere isIn).run (c :: cs) = none :=
  Eager.refuses_andThen (refuses_charWhere h)

end Scanner

/-! ### What can be read at all -/

namespace Scanner

/-- Whether all that a scanner can give has a property. -/
def Gives (p : Scanner σ α) (P : α → Prop) : Prop :=
  ∀ s a rest, p.Reads s a rest → P a

theorem gives_pure {P : α → Prop} (h : P a) : (pure a : Scanner σ α).Gives P := by
  intro s b rest hreads
  rw [(reads_pure_iff.1 hreads).1]
  exact h

theorem Gives.bind {p : Scanner σ α} {f : α → Scanner σ β} {P : α → Prop} {Q : β → Prop}
    (hp : p.Gives P) (hf : ∀ a, P a → (f a).Gives Q) : (p >>= f).Gives Q := by
  intro s b rest hreads
  obtain ⟨a, mid, hfirst, hsecond⟩ := reads_bind_iff.1 hreads
  exact hf a (hp s a mid hfirst) mid b rest hsecond

/-- The last scanner of a sequence gives what the sequence gives. -/
theorem gives_bind {p : Scanner σ α} {f : α → Scanner σ β} {Q : β → Prop}
    (hf : ∀ a, (f a).Gives Q) : (p >>= f).Gives Q :=
  Gives.bind (fun _ _ _ _ => trivial) fun a _ => hf a

theorem Gives.orElse {p q : Scanner σ α} {P : α → Prop} (hp : p.Gives P) (hq : q.Gives P) :
    (p <|> q).Gives P := by
  intro s a rest hreads
  rcases reads_orElse_iff.1 hreads with h | ⟨-, h⟩
  · exact hp s a rest h
  · exact hq s a rest h

end Scanner

namespace Eager

/-- Whether all that an eager scanner can give has a property. -/
def Gives (p : Eager σ α) (P : α → Prop) : Prop :=
  ∀ s a rest, p.Reads s a rest → P a

variable {p q : Eager σ α} {f : α → Scanner σ β} {P : α → Prop} {Q : β → Prop}

theorem Gives.scan (h : p.Gives P) : p.scan.Gives P :=
  fun s a rest hreads => h s a rest (reads_scan_iff.1 hreads)

theorem Gives.andThen (hp : p.Gives P) (hf : ∀ a, P a → (f a).Gives Q) :
    (p.andThen f).Gives Q := by
  intro s b rest hreads
  obtain ⟨a, mid, hfirst, hsecond⟩ := reads_andThen_iff.1 hreads
  exact hf a (hp s a mid hfirst) mid b rest hsecond

/-- What is read last decides what a sequence gives. -/
theorem gives_andThen (hf : ∀ a, (f a).Gives Q) : (p.andThen f).Gives Q :=
  Gives.andThen (fun _ _ _ _ => trivial) fun a _ => hf a

theorem Gives.orElse (hp : p.Gives P) (hq : q.Gives P) : (p <|> q).Gives P := by
  intro s a rest hreads
  rcases reads_orElse_iff.1 hreads with h | ⟨-, h⟩
  · exact hp s a rest h
  · exact hq s a rest h

/-- **What repetition gives** has the property throughout, by induction on the readings. -/
theorem Gives.many (h : p.Gives P) : p.many.Gives fun as => ∀ a ∈ as, P a := by
  rintro s as rest ⟨hle, hmany⟩
  have hrepeat : p.repeatFrom s = (as, ⟨rest, hle⟩) := Option.some.inj hmany
  suffices hall : ∀ a ∈ (p.repeatFrom s).1, P a by rwa [hrepeat] at hall
  clear hmany hrepeat hle
  fun_induction repeatFrom p s with
  | case1 => exact List.forall_mem_nil _
  | case2 s a mid hlt hp more tail htail hmore ih =>
    rw [hmore] at ih
    exact List.forall_mem_cons.2 ⟨h s a mid ⟨hlt, hp⟩, ih⟩

end Eager

end GirTypings
