import Mathlib.Data.List.TakeWhile
import Mathlib.Data.Option.Basic
import GirTypings.Proofs.Scanning
import GirTypings.Xml.Selector.Reader

/-!
# Selecting by a tag

A **tag** is a name without a colon, whatever characters beyond ASCII a name may hold.  Behind
a namespace in braces most tags are read as one lexeme with the namespace, and the selector
leads to the children with that key.

A blank is no part of a lexeme, and some characters beyond ASCII are blanks.  A tag with such a
character is cut there; what is left in front is still read as a selector, but it leads nowhere:
the blank stands for an empty name, and behind braces the namespace itself is cut at its slashes.

* `reads_lexeme_qualified`, `refuses_qualified_of_blank`: whether a namespace is read with a name;
* `exists_reads_turns`, `exists_walks`: what the rest of a tag is cut into, and its steps;
* `read?_eq_some`: a selector by its lexemes and its steps;
* `select_eq_nil`, `select_second_eq_nil`: selectors that lead nowhere.
-/

namespace GirTypings.Xml.Selector

open Scanner Text

/-! ### Tags -/

/-- Whether a character can stand in a tag. -/
def isTagChar (c : Char) : Bool :=
  128 ≤ c.toNat || c.isAlphanum || c == '_' || c == '-' || c == '.'

/-- The ASCII characters that lexemes other than names start with, and braces. -/
def lexemeMarks : List Char :=
  ['"', '\'', ':', '/', '(', '!', '*', '[', ']', ')', '@', '=', '\x7b', '\x7d']

theorem not_mem_lexemeMarks {c : Char} (h : isTagChar c = true) : c ∉ lexemeMarks := by
  have hmarks : lexemeMarks.all (!isTagChar ·) = true := by decide +kernel
  intro hmem
  have hc := List.all_eq_true.1 hmarks c hmem
  rw [h] at hc
  cases hc

theorem ne_of_not_mem_lexemeMarks {c d : Char} (h : c ∉ lexemeMarks)
    (hd : lexemeMarks.contains d = true) : c ≠ d := by
  rintro rfl
  exact h (List.contains_iff_mem.1 hd)

theorem isPathNameChar_of_isTagChar {c : Char} (h : isTagChar c = true)
    (hblank : isBlank c = false) : isPathNameChar c = true := by
  have hmarks := not_mem_lexemeMarks h
  have hnot : ['/', '[', ']', '(', ')', '@', '!', '='].contains c = false := by
    rw [Bool.eq_false_iff]
    intro hmem
    refine hmarks ?_
    simp only [List.contains_iff_mem, List.mem_cons, List.not_mem_nil, or_false] at hmem
    simp only [lexemeMarks, List.mem_cons, List.not_mem_nil, or_false]
    grind
  rw [isPathNameChar, hblank, hnot]
  rfl

theorem isPathNameChar_of_isBlank {c : Char} (h : isBlank c = true) : isPathNameChar c = false := by
  rw [isPathNameChar, h]
  rfl

/-! ### Lexemes -/

variable {c : Char} {s rest : List Char}

theorem refuses_oneOrTwo {first : Char} (h : c ≠ first) (second : Char) (two one : Lexeme) :
    (oneOrTwo first second two one).run (c :: s) = none :=
  Eager.refuses_andThen (refuses_char h)

theorem reads_oneOrTwo_two (first second : Char) (two one : Lexeme) (s : List Char) :
    (oneOrTwo first second two one).Reads (first :: second :: s) two s :=
  Eager.reads_andThen (reads_char first _) (reads_orElse_iff.2 (.inl (Eager.reads_scan_iff.2
    (Eager.reads_andThen (reads_char second s) (reads_pure two s)))))

theorem reads_oneOrTwo_one {second : Char} (h : s.head? ≠ some second) (first : Char)
    (two one : Lexeme) : (oneOrTwo first second two one).Reads (first :: s) one s := by
  have hrefuses : ((char second).andThen fun _ => (pure two : Scanner Char Lexeme)).run s = none := by
    cases s with
    | nil => rfl
    | cons d s => exact Eager.refuses_andThen (refuses_char fun heq => h (congrArg some heq))
  exact Eager.reads_andThen (reads_char first s)
    (reads_orElse_iff.2 (.inr ⟨Eager.refuses_scan hrefuses, reads_pure one s⟩))

theorem refuses_quotation (h : c ∉ lexemeMarks) : quotation.run (c :: s) = none :=
  Eager.refuses_andThen (Eager.refuses_orElse
    (Eager.refuses_andThen (refuses_char (ne_of_not_mem_lexemeMarks h (by decide))))
    (Eager.refuses_andThen (refuses_char (ne_of_not_mem_lexemeMarks h (by decide)))))

theorem single?_eq_none (h : c ∉ lexemeMarks) : single? c = none := by
  simp only [lexemeMarks, List.mem_cons, List.not_mem_nil, or_false, not_or] at h
  simp [single?, h]

theorem refuses_mark (h : c ∉ lexemeMarks) (hdot : c ≠ '.') : mark.run (c :: s) = none := by
  have hne : ∀ d, lexemeMarks.contains d = true → c ≠ d := fun d => ne_of_not_mem_lexemeMarks h
  refine Eager.refuses_orElse (refuses_oneOrTwo (hne ':' (by decide)) _ _ _) ?_
  refine Eager.refuses_orElse (refuses_oneOrTwo (hne '/' (by decide)) _ _ _) ?_
  refine Eager.refuses_orElse (refuses_oneOrTwo hdot _ _ _) ?_
  refine Eager.refuses_orElse (refuses_oneOrTwo (hne '(' (by decide)) _ _ _) ?_
  refine Eager.refuses_orElse (Eager.refuses_andThen (refuses_char (hne '!' (by decide)))) ?_
  exact refuses_item_cons (single?_eq_none h)

theorem reads_lexeme {l : Lexeme} (h : (quotation <|> mark <|> named <|> blanks).Reads s l rest) :
    lexeme.Reads s (some l) rest :=
  Eager.reads_orElse_left (Eager.reads_andThen h (reads_pure _ _))

/-- What starts no other lexeme is a name or a blank. -/
theorem reads_lexeme_of_not_mem (hc : c ∉ lexemeMarks) (hdot : c ≠ '.') {l : Lexeme}
    (h : (named <|> blanks).Reads (c :: s) l rest) : lexeme.Reads (c :: s) (some l) rest :=
  reads_lexeme (Eager.reads_orElse_right (refuses_quotation hc)
    (Eager.reads_orElse_right (refuses_mark hc hdot) h))

theorem refuses_qualified (hc : c ∉ lexemeMarks) : qualified.run (c :: s) = none :=
  Eager.refuses_andThen (refuses_char (ne_of_not_mem_lexemeMarks hc (by decide)))

/-- Braces that no name follows are no namespace. -/
theorem refuses_qualified_of_blank {space : List Char} (hbrace : '\x7d' ∉ space)
    (hc : isBlank c = true) : qualified.run ('\x7b' :: (space ++ '\x7d' :: c :: s)) = none := by
  cases hrun : qualified.run ('\x7b' :: (space ++ '\x7d' :: c :: s)) with
  | none => rfl
  | some found =>
    have hreads : qualified.Reads _ found.1 found.2.1 := ⟨found.2.2, hrun⟩
    obtain ⟨_, mid, hopen, hreads⟩ := Eager.reads_andThen_iff.1 hreads
    obtain ⟨_, closed, hspace, hreads⟩ := reads_bind_iff.1 hreads
    obtain ⟨_, behind, hclose, hreads⟩ := reads_bind_iff.1 hreads
    obtain ⟨run, _, hname, -⟩ := reads_bind_iff.1 hreads
    have hmid : space ++ '\x7d' :: c :: s = mid := (List.cons.inj (reads_charWhere_iff.1 hopen).1).2
    have hnot : ∀ d ∈ space, (d != '\x7d') = true := fun d hd =>
      bne_iff_ne.2 fun heq => hbrace (heq ▸ hd)
    have hclosed : closed = '\x7d' :: c :: s := by
      rw [(reads_someCharsWhere_iff.1 (Eager.reads_scan_iff.1 hspace)).2.2, ← hmid]
      exact dropWhile_run hnot (endsRun_cons rfl)
    subst hclosed
    have hbehind : c :: s = behind :=
      (List.cons.inj (reads_charWhere_iff.1 (Eager.reads_scan_iff.1 hclose)).1).2
    subst hbehind
    -- what follows the braces is no name
    obtain ⟨hne, hrun, -⟩ := reads_someCharsWhere_iff.1 (Eager.reads_scan_iff.1 hname)
    rw [List.takeWhile_cons_of_neg (Bool.eq_false_iff.1 (isPathNameChar_of_isBlank hc))] at hrun
    exact absurd hrun hne

/-- A name is read up to a character that is no part of it. -/
theorem reads_lexeme_name {run : List Char} (hc : c ∉ lexemeMarks) (hdot : c ≠ '.')
    (hrun : ∀ d ∈ c :: run, isPathNameChar d = true)
    (hrest : EndsRun isPathNameChar rest) :
    lexeme.Reads (c :: (run ++ rest)) (some (.name (.ofList (c :: run)))) rest := by
  have hname : (someCharsWhere isPathNameChar).Reads (c :: (run ++ rest)) (c :: run) rest :=
    reads_someCharsWhere_append (List.cons_ne_nil c run) hrun hrest
  exact reads_lexeme_of_not_mem hc hdot (Eager.reads_orElse_left
    (Eager.reads_orElse_right (refuses_qualified hc) (Eager.reads_andThen hname (reads_pure _ _))))

/-- Blanks are read as an empty name. -/
theorem reads_lexeme_blanks (hc : c ∉ lexemeMarks) (hblank : isBlank c = true) :
    lexeme.Reads (c :: s) (some (.name "")) ((c :: s).dropWhile isBlank) := by
  have hdot : c ≠ '.' := by
    rintro rfl
    exact absurd hblank (by decide)
  have hnamed : named.run (c :: s) = none :=
    Eager.refuses_orElse (refuses_qualified hc)
      (Eager.refuses_andThen (refuses_someCharsWhere (isPathNameChar_of_isBlank hblank)))
  have hrun : (someCharsWhere isBlank).Reads (c :: s) ((c :: s).takeWhile isBlank)
      ((c :: s).dropWhile isBlank) := by
    refine reads_someCharsWhere_iff.2 ⟨?_, rfl, rfl⟩
    rw [List.takeWhile_cons_of_pos hblank]
    exact List.cons_ne_nil _ _
  exact reads_lexeme_of_not_mem hc hdot
    (Eager.reads_orElse_right hnamed (Eager.reads_andThen hrun (reads_pure _ _)))

/-- A dot is read, with the one behind it if there is one. -/
theorem exists_reads_lexeme_dot (s : List Char) :
    ∃ l rest, lexeme.Reads ('.' :: s) (some l) rest ∧
      (l = .dot ∧ rest = s ∨ l = .dots ∧ s = '.' :: rest) := by
  have hlexeme : ∀ {l rest}, (oneOrTwo '.' '.' .dots .dot).Reads ('.' :: s) l rest →
      lexeme.Reads ('.' :: s) (some l) rest := fun h =>
    reads_lexeme (Eager.reads_orElse_right rfl (Eager.reads_orElse_left
      (Eager.reads_orElse_right rfl (Eager.reads_orElse_right rfl (Eager.reads_orElse_left h)))))
  by_cases hs : s.head? = some '.'
  · obtain ⟨rest, rfl⟩ := List.head?_eq_some_iff.1 hs
    exact ⟨_, _, hlexeme (reads_oneOrTwo_two ..), .inr ⟨rfl, rfl⟩⟩
  · exact ⟨_, _, hlexeme (reads_oneOrTwo_one hs ..), .inl ⟨rfl, rfl⟩⟩

/-- A slash is read alone if there is none behind it. -/
theorem reads_lexeme_slash (h : s.head? ≠ some '/') : lexeme.Reads ('/' :: s) (some .slash) s :=
  reads_lexeme (Eager.reads_orElse_right rfl (Eager.reads_orElse_left
    (Eager.reads_orElse_right rfl (Eager.reads_orElse_left (reads_oneOrTwo_one h ..)))))

/-- Two slashes are read together. -/
theorem reads_lexeme_slashes (s : List Char) :
    lexeme.Reads ('/' :: '/' :: s) (some .slashes) s :=
  reads_lexeme (Eager.reads_orElse_right rfl (Eager.reads_orElse_left
    (Eager.reads_orElse_right rfl (Eager.reads_orElse_left (reads_oneOrTwo_two ..)))))

/-- A name in front of a slash is read as two lexemes. -/
theorem reads_many_name_slash (c : Char) (run : List Char) {d : Char} (hc : c ∉ lexemeMarks)
    (hdot : c ≠ '.') (hrun : (c :: run).all isPathNameChar = true) (hd : d ≠ '/')
    {ls : List (Option Lexeme)} (hmany : lexeme.many.Reads (d :: s) ls []) :
    lexeme.many.Reads (c :: (run ++ '/' :: d :: s))
      (some (.name (.ofList (c :: run))) :: some .slash :: ls) [] :=
  Eager.reads_many_cons
    (reads_lexeme_name hc hdot (List.all_eq_true.1 hrun) (endsRun_cons rfl))
    (Eager.reads_many_cons (reads_lexeme_slash fun heq => hd (Option.some.inj heq)) hmany)

/-- Whether a lexeme is one of those that tags are cut into. -/
inductive Lexeme.IsTurn : Lexeme → Prop
  | name {t : String} (h : ':' ∉ t.toList) : IsTurn (.name t)
  | dot : IsTurn .dot
  | dots : IsTurn .dots

theorem exists_reads_turn (h : ∀ d ∈ c :: s, isTagChar d = true) :
    ∃ l rest, lexeme.Reads (c :: s) (some l) rest ∧ l.IsTurn ∧ ∀ d ∈ rest, isTagChar d = true := by
  obtain ⟨hc, hs⟩ := List.forall_mem_cons.1 h
  have hmarks := not_mem_lexemeMarks hc
  by_cases hblank : isBlank c = true
  · exact ⟨_, _, reads_lexeme_blanks hmarks hblank, .name List.not_mem_nil,
      fun d hd => h d ((List.dropWhile_suffix isBlank).subset hd)⟩
  · by_cases hdot : c = '.'
    · subst hdot
      obtain ⟨l, rest, hreads, ⟨rfl, rfl⟩ | ⟨rfl, rfl⟩⟩ := exists_reads_lexeme_dot s
      · exact ⟨_, _, hreads, .dot, hs⟩
      · exact ⟨_, _, hreads, .dots, (List.forall_mem_cons.1 hs).2⟩
    · have hrun : ∀ d ∈ c :: s.takeWhile isPathNameChar, isPathNameChar d = true :=
        List.forall_mem_cons.2
          ⟨isPathNameChar_of_isTagChar hc (Bool.eq_false_iff.2 hblank),
            fun _ => List.mem_takeWhile_imp⟩
      have hname := reads_lexeme_name hmarks hdot hrun (endsRun_dropWhile s)
      rw [List.takeWhile_append_dropWhile] at hname
      refine ⟨_, _, hname, .name fun hcolon => ?_,
        fun d hd => hs d ((List.dropWhile_suffix _).subset hd)⟩
      -- a colon is no tag character
      rw [String.toList_ofList] at hcolon
      have htag := h ':' (List.cons_subset_cons c (List.takeWhile_subset _) hcolon)
      exact absurd htag (by decide)

/-- **A tag is cut into turns.** -/
theorem exists_reads_turns (h : ∀ d ∈ s, isTagChar d = true) :
    ∃ ls : List Lexeme, lexeme.many.Reads s (ls.map some) [] ∧ ∀ l ∈ ls, l.IsTurn := by
  induction hlength : s.length using Nat.strongRecOn generalizing s with
  | ind n ih =>
    cases s with
    | nil => exact ⟨[], Eager.reads_many_nil rfl, List.forall_mem_nil _⟩
    | cons c s =>
      obtain ⟨l, rest, hreads, hl, hrest⟩ := exists_reads_turn h
      obtain ⟨ls, hmany, hls⟩ := ih rest.length (hlength ▸ hreads.length_lt) hrest rfl
      exact ⟨l :: ls, Eager.reads_many_cons hreads hmany, List.forall_mem_cons.2 ⟨hl, hls⟩⟩

/-- A name behind a namespace is read with it. -/
theorem reads_lexeme_qualified {space run : List Char} (hspace : space ≠ [])
    (hbrace : '\x7d' ∉ space) (hne : run ≠ []) (hrun : ∀ d ∈ run, isPathNameChar d = true)
    (hrest : EndsRun isPathNameChar rest) :
    lexeme.Reads ('\x7b' :: (space ++ '\x7d' :: (run ++ rest)))
      (some (.name (.ofList ('\x7b' :: (space ++ '\x7d' :: run))))) rest := by
  have hnot : ∀ d ∈ space, (d != '\x7d') = true := fun d hd =>
    bne_iff_ne.2 fun heq => hbrace (heq ▸ hd)
  have hbraced : (someCharsWhere (· != '\x7d')).Reads (space ++ '\x7d' :: (run ++ rest)) space
      ('\x7d' :: (run ++ rest)) :=
    reads_someCharsWhere_append hspace hnot (endsRun_cons rfl)
  have hqualified : qualified.Reads ('\x7b' :: (space ++ '\x7d' :: (run ++ rest)))
      (.name (.ofList ('\x7b' :: (space ++ '\x7d' :: run)))) rest :=
    Eager.reads_andThen (reads_char _ _) (reads_bind_iff.2 ⟨space, _, Eager.reads_scan_iff.2 hbraced,
      reads_bind_iff.2 ⟨_, _, Eager.reads_scan_iff.2 (reads_char _ _),
        reads_bind_iff.2 ⟨run, rest, Eager.reads_scan_iff.2
          (reads_someCharsWhere_append hne hrun hrest), reads_pure _ _⟩⟩⟩)
  exact reads_lexeme (Eager.reads_orElse_right rfl (Eager.reads_orElse_right rfl
    (Eager.reads_orElse_left (Eager.reads_orElse_left hqualified))))

/-- Where there is no namespace, a brace is part of a name. -/
theorem reads_lexeme_brace (run : List Char) (hnone : qualified.run ('\x7b' :: (run ++ rest)) = none)
    (hrun : ('\x7b' :: run).all isPathNameChar = true)
    (hrest : EndsRun isPathNameChar rest) :
    lexeme.Reads ('\x7b' :: (run ++ rest)) (some (.name (.ofList ('\x7b' :: run)))) rest := by
  have hname : (someCharsWhere isPathNameChar).Reads ('\x7b' :: (run ++ rest)) ('\x7b' :: run) rest :=
    reads_someCharsWhere_append (List.cons_ne_nil _ run) (List.all_eq_true.1 hrun) hrest
  exact reads_lexeme (Eager.reads_orElse_right rfl (Eager.reads_orElse_right rfl
    (Eager.reads_orElse_left
      (Eager.reads_orElse_right hnone (Eager.reads_andThen hname (reads_pure _ _))))))

/-! ### Steps -/

/-- The steps that lexemes behind a first name are read as. -/
inductive Walks : List Lexeme → Selector → Prop
  | nil : Walks [] []
  | name (t : String) {ls : List Lexeme} {ss : Selector} (h : Walks ls ss) :
      Walks (.name t :: ls) (.child (.ofText t) :: ss)
  | dot {ls : List Lexeme} {ss : Selector} (h : Walks ls ss) : Walks (.dot :: ls) (.here :: ss)
  | dots {ls : List Lexeme} {ss : Selector} (h : Walks ls ss) : Walks (.dots :: ls) (.parent :: ss)
  | slash (t : String) {ls : List Lexeme} {ss : Selector} (h : Walks ls ss) :
      Walks (.slash :: .name t :: ls) (.child (.ofText t) :: ss)
  | slashes (t : String) {ls : List Lexeme} {ss : Selector} (h : Walks ls ss) :
      Walks (.slashes :: .name t :: ls) (.inside (.ofText t) :: ss)

variable {ls : List Lexeme} {ss : Selector}

theorem exists_walks (h : ∀ l ∈ ls, l.IsTurn) : ∃ ss, Walks ls ss := by
  induction ls with
  | nil => exact ⟨[], .nil⟩
  | cons l ls ih =>
    obtain ⟨hl, hls⟩ := List.forall_mem_cons.1 h
    obtain ⟨ss, hss⟩ := ih hls
    cases hl with
    | @name t _ => exact ⟨_, .name t hss⟩
    | dot => exact ⟨_, .dot hss⟩
    | dots => exact ⟨_, .dots hss⟩

theorem Walks.reads (h : Walks ls ss) :
    ((exactly .slash).andThen (fun _ => step.scan) <|> step).many.Reads ls ss [] := by
  induction h with
  | nil => exact Eager.reads_many_nil rfl
  | name t _ ih => exact Eager.reads_many_cons ⟨Nat.lt_succ_self _, rfl⟩ ih
  | dot _ ih => exact Eager.reads_many_cons ⟨Nat.lt_succ_self _, rfl⟩ ih
  | dots _ ih => exact Eager.reads_many_cons ⟨Nat.lt_succ_self _, rfl⟩ ih
  | slash t _ ih => exact Eager.reads_many_cons ⟨Nat.lt_succ_of_lt (Nat.lt_succ_self _), rfl⟩ ih
  | slashes t _ ih => exact Eager.reads_many_cons ⟨Nat.lt_succ_of_lt (Nat.lt_succ_self _), rfl⟩ ih

/-- A name leads to children, and what follows leads on from them. -/
theorem Walks.steps_eq (h : Walks ls ss) (t : String) :
    steps.all? (.name t :: ls) = some (.child (.ofText t) :: ss) := by
  have hfirst : step.Reads (.name t :: ls) (.child (.ofText t)) ls := ⟨Nat.lt_succ_self _, rfl⟩
  have hend : ((exactly .slash).scan <|> pure ()).Reads [] () [] :=
    reads_orElse_iff.2 (.inr ⟨rfl, reads_pure _ _⟩)
  exact all?_eq_some_iff.2 (reads_bind_iff.2 ⟨_, _, Eager.reads_scan_iff.2 hfirst,
    reads_bind_iff.2 ⟨_, _, h.reads, reads_bind_iff.2 ⟨_, _, hend, reads_pure _ _⟩⟩⟩)

/-- **A selector is read** by its lexemes and its steps. -/
theorem read?_eq_some {text : String} (hslash : text.toList.getLast? ≠ some '/')
    (hlexemes : lexeme.many.Reads text.toList (ls.map some) [])
    (hknown : ∀ l ∈ ls, l.isKnown = true) (hsteps : steps.all? ls = some ss) :
    read? text = some ss := by
  have hall : lexeme.many.all? text.toList = some (ls.map some) := all?_eq_some_iff.2 hlexemes
  have hfilter : (ls.map some).filterMap id = ls := by simp
  have hguard : guard (ls.all Lexeme.isKnown = true) = some () :=
    (Option.guard_eq_some' ()).2 (List.all_eq_true.2 hknown)
  simp only [read?, if_neg hslash, hall, bind, Option.bind_some, hfilter, hguard, hsteps]

theorem Lexeme.IsTurn.isKnown {l : Lexeme} (h : l.IsTurn) : l.isKnown = true := by
  cases h with
  | @name t h =>
    have hcolon : t.toList.contains ':' = false := Bool.eq_false_iff.2 (mt List.contains_iff_mem.1 h)
    rw [Lexeme.isKnown, hcolon, Bool.not_false, Bool.or_true]
  | dot => rfl
  | dots => rfl

/-! ### Selection -/

theorem foldl_apply_nil (ss : Selector) :
    ss.foldl (fun places step => step.apply places) [] = [] := by
  induction ss with
  | nil => rfl
  | cons s ss ih =>
    have hs : s.apply [] = [] := by cases s <;> rfl
    rw [List.foldl_cons, hs, ih]

theorem apply_child_eq_nil {t : NameTest} {places : List Place}
    (h : ∀ p ∈ places, ∀ c ∈ p.element.children, t.holds c.name = false) :
    (SelectorStep.child t).apply places = [] := by
  refine List.flatMap_eq_nil_iff.2 fun p hp => List.filter_eq_nil_iff.2 fun q hq => ?_
  have hq : q.element ∈ p.element.children := by
    rw [← p.map_element_children]
    exact List.mem_map_of_mem hq
  exact Bool.eq_false_iff.1 (h p hp _ hq)

theorem element_mem_of_mem_apply {t : NameTest} {e : Element} {q : Place}
    (hq : q ∈ (SelectorStep.child t).apply [Place.start e]) : q.element ∈ e.children := by
  obtain ⟨p, hp, hq⟩ := List.mem_flatMap.1 hq
  cases List.mem_singleton.1 hp
  have hmap : (Place.start e).children.map Place.element = e.children :=
    (Place.start e).map_element_children
  rw [← hmap]
  exact List.mem_map_of_mem (List.mem_filter.1 hq).1

/-- A selector leads nowhere if no child has the first name. -/
theorem select_eq_nil {t : NameTest} {e : Element} (h : ∀ c ∈ e.children, t.holds c.name = false)
    (ss : Selector) : Selector.select (.child t :: ss) e = [] := by
  have hfirst : (SelectorStep.child t).apply [Place.start e] = [] :=
    apply_child_eq_nil fun p hp => by
      cases List.mem_singleton.1 hp
      exact h
  rw [Selector.select, List.foldl_cons, hfirst, foldl_apply_nil]
  rfl

/-- Nor does it lead anywhere if no child of a child has the second name. -/
theorem select_second_eq_nil {t u : NameTest} {e : Element}
    (h : ∀ c ∈ e.children, ∀ d ∈ c.children, u.holds d.name = false) (ss : Selector) :
    Selector.select (.child t :: .child u :: ss) e = [] := by
  have hsecond : (SelectorStep.child u).apply ((SelectorStep.child t).apply [Place.start e]) = [] :=
    apply_child_eq_nil fun p hp => h p.element (element_mem_of_mem_apply hp)
  rw [Selector.select, List.foldl_cons, List.foldl_cons, hsecond, foldl_apply_nil]
  rfl

end GirTypings.Xml.Selector
