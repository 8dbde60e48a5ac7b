import GirTypings.Declaration.Comment
import GirTypings.Proofs.Trimming

/-!
# Lines of documentation

The lines of a documentation text are **tidy**: none holds a line break or ends in a blank,
and a character that is not blank starts the first line and ends the last.  Tidy lines can
be written one below the other and come back as they were.  Others do not come back, for
whatever is read is tidy.

* `lineChars_append_newline`: a line feed ends the line in front of it;
* `getLast?_lineChars`: the last line ends as the text does;
* `docLines_joinLines_eq_iff`: the lines that come back are the tidy ones;
* `docLines_tidy_and_complete`: what the lines of a text are, and what they hold.
-/

namespace GirTypings

namespace Text

/-! ### Lines -/

/-- Line breaks are blank. -/
theorem isBlank_of_isLineBreak {c : Char} (h : isLineBreak c = true) : isBlank c = true := by
  simp only [isLineBreak, isBlank, Bool.or_eq_true, Bool.and_eq_true, decide_eq_true_eq,
    beq_iff_eq] at h ⊢
  omega

theorem not_isLineBreak_of_not_isBlank {c : Char} (h : isBlank c = false) :
    isLineBreak c = false := by
  rw [← Bool.not_eq_true] at h ⊢
  exact fun hbreak => h (isBlank_of_isLineBreak hbreak)

theorem lineChars_cons {c : Char} (hc : isLineBreak c = false) (rest : List Char) :
    lineChars (c :: rest) = growFirst c (lineChars rest) := by
  rw [lineChars, hc]
  · rfl
  · rintro tail rfl -
    cases hc

/-- The lines hold all of a text but its line breaks. -/
theorem flatten_lineChars (cs : List Char) :
    (lineChars cs).flatten = cs.filter (!isLineBreak ·) := by
  fun_induction lineChars cs with
  | case1 => rfl
  | case2 rest ih =>
    rw [List.flatten_cons, ih]
    rfl
  | case3 c rest _ hc ih =>
    rw [List.flatten_cons, ih, List.filter_cons_of_neg (by simpa using hc)]
    rfl
  | case4 c rest _ hc ih =>
    rw [flatten_growFirst, ih, List.filter_cons_of_pos (by simpa using hc)]

/-- Only an empty text has no lines. -/
theorem lineChars_eq_nil_iff {cs : List Char} : lineChars cs = [] ↔ cs = [] := by
  fun_induction lineChars cs with
  | case1 => exact iff_of_true rfl rfl
  | case2 rest => exact iff_of_false (List.cons_ne_nil _ _) (List.cons_ne_nil _ _)
  | case3 c rest => exact iff_of_false (List.cons_ne_nil _ _) (List.cons_ne_nil _ _)
  | case4 c rest => exact iff_of_false (growFirst_ne_nil c _) (List.cons_ne_nil _ _)

/-- **A line feed ends the line in front of it.** -/
theorem lineChars_append_newline {l : List Char} (h : ∀ c ∈ l, isLineBreak c = false)
    (rest : List Char) : lineChars (l ++ '\n' :: rest) = l :: lineChars rest := by
  induction l with
  | nil => rfl
  | cons c l ih =>
    obtain ⟨hc, hl⟩ := List.forall_mem_cons.1 h
    rw [List.cons_append, lineChars_cons hc, ih hl]
    rfl

/-- A text without line breaks is one line. -/
theorem lineChars_eq_singleton {l : List Char} (hne : l ≠ [])
    (h : ∀ c ∈ l, isLineBreak c = false) : lineChars l = [l] := by
  induction l with
  | nil => exact absurd rfl hne
  | cons c l ih =>
    obtain ⟨hc, hl⟩ := List.forall_mem_cons.1 h
    rw [lineChars_cons hc]
    by_cases hnil : l = []
    · subst hnil
      rfl
    · rw [ih hnil hl]
      rfl

/-- The first line starts as the text does, unless that starts with a line break. -/
theorem head?_lineChars {c : Char} (hc : isLineBreak c = false) (rest : List Char) :
    ∃ l, (lineChars (c :: rest)).head? = some (c :: l) := by
  rw [lineChars_cons hc]
  cases lineChars rest with
  | nil => exact ⟨[], rfl⟩
  | cons l ls => exact ⟨l, rfl⟩

theorem getLast?_cons_eq_some_iff {α : Type} {a b : α} {rest : List α} :
    (a :: rest).getLast? = some b ↔ rest = [] ∧ a = b ∨ rest.getLast? = some b := by
  by_cases hnil : rest = []
  · subst hnil
    simp
  · obtain ⟨c, hc⟩ := Option.ne_none_iff_exists'.1 (mt List.getLast?_eq_none_iff.1 hnil)
    simp [List.getLast?_cons, hc, hnil]

/-- A first piece that grows at its start keeps its end. -/
theorem getLast?_growFirst {c d : Char} {ps : List (List Char)} {p : List Char}
    (hlast : ps.getLast? = some p) (hend : p.getLast? = some d) :
    ∃ q, (growFirst c ps).getLast? = some q ∧ q.getLast? = some d := by
  cases ps with
  | nil => cases hlast
  | cons first rest =>
    rw [growFirst]
    rcases getLast?_cons_eq_some_iff.1 hlast with ⟨rfl, rfl⟩ | hrest
    · exact ⟨c :: first, rfl, getLast?_cons_eq_some_iff.2 (.inr hend)⟩
    · exact ⟨p, getLast?_cons_eq_some_iff.2 (.inr hrest), hend⟩

/-- What ends a text and is no line break stands behind a line break at the start. -/
theorem getLast?_of_isLineBreak {c d : Char} {rest : List Char} (hc : isLineBreak c = true)
    (hd : isLineBreak d = false) (h : (c :: rest).getLast? = some d) :
    rest.getLast? = some d := by
  rcases getLast?_cons_eq_some_iff.1 h with ⟨-, rfl⟩ | hrest
  · rw [hd] at hc
    cases hc
  · exact hrest

/-- **The last line ends as the text does**, unless that ends with a line break. -/
theorem getLast?_lineChars {cs : List Char} {d : Char} (h : cs.getLast? = some d)
    (hd : isLineBreak d = false) :
    ∃ l, (lineChars cs).getLast? = some l ∧ l.getLast? = some d := by
  fun_induction lineChars cs with
  | case1 => cases h
  | case2 rest ih =>
    have hfeed := getLast?_of_isLineBreak rfl hd h
    obtain ⟨l, hl, hend⟩ := ih (getLast?_of_isLineBreak rfl hd hfeed)
    exact ⟨l, getLast?_cons_eq_some_iff.2 (.inr hl), hend⟩
  | case3 c rest _ hc ih =>
    obtain ⟨l, hl, hend⟩ := ih (getLast?_of_isLineBreak hc hd h)
    exact ⟨l, getLast?_cons_eq_some_iff.2 (.inr hl), hend⟩
  | case4 c rest _ hc ih =>
    rcases getLast?_cons_eq_some_iff.1 h with ⟨rfl, rfl⟩ | hrest
    · exact ⟨[c], rfl, rfl⟩
    · obtain ⟨l, hl, hend⟩ := ih hrest
      exact getLast?_growFirst hl hend

end Text

namespace Declaration

open Text

/-- Lines as a documentation text has them: without line breaks and without blanks at their
ends, the first and the last with a character that is not blank at the outer end. -/
structure IsTidy (lines : List String) : Prop where
  unbroken : ∀ l ∈ lines, ∀ c ∈ l.toList, isLineBreak c = false
  ends : ∀ l ∈ lines, ∀ c ∈ l.toList.getLast?, isBlank c = false
  first : ∀ l ∈ lines.head?, ∃ c, l.toList.head? = some c ∧ isBlank c = false
  last : ∀ l ∈ lines.getLast?, ∃ c, l.toList.getLast? = some c ∧ isBlank c = false

/-- The first line of a text starts where the text does behind its blanks. -/
theorem exists_head?_of_mem_head?_docLines {t l : String} (h : l ∈ (docLines t).head?) :
    ∃ c, l.toList.head? = some c ∧ isBlank c = false := by
  have htrimmed := (isTrimmed_trimChars t.toList).starts
  rw [docLines, List.head?_map] at h
  cases htext : trimChars t.toList with
  | nil =>
    rw [htext] at h
    cases h
  | cons c rest =>
    rw [htext] at htrimmed h
    have hc : isBlank c = false := htrimmed c rfl
    obtain ⟨tail, hhead⟩ := head?_lineChars (not_isLineBreak_of_not_isBlank hc) rest
    rw [hhead] at h
    obtain rfl := Option.some.inj h
    rw [String.toList_ofList, trimRightChars_cons hc]
    exact ⟨c, rfl, hc⟩

/-- And its last line ends where the text does in front of its blanks. -/
theorem exists_getLast?_of_mem_getLast?_docLines {t l : String}
    (h : l ∈ (docLines t).getLast?) :
    ∃ c, l.toList.getLast? = some c ∧ isBlank c = false := by
  have htrimmed := (isTrimmed_trimChars t.toList).ends
  rw [docLines, List.getLast?_map] at h
  cases hend : (trimChars t.toList).getLast? with
  | none =>
    rw [List.getLast?_eq_none_iff.1 hend] at h
    cases h
  | some c =>
    have hc : isBlank c = false := htrimmed c hend
    obtain ⟨cs, hlast, hcs⟩ := getLast?_lineChars hend (not_isLineBreak_of_not_isBlank hc)
    rw [hlast] at h
    obtain rfl := Option.some.inj h
    -- the last line does not end in a blank, so it is not shortened
    have hkept : trimRightChars cs = cs := trimRightChars_eq_self fun d hd => by
      rw [hcs] at hd
      obtain rfl := Option.some.inj hd
      exact hc
    rw [String.toList_ofList, hkept]
    exact ⟨c, hcs, hc⟩

/-- **The lines of a documentation text are tidy.** -/
theorem isTidy_docLines (t : String) : IsTidy (docLines t) where
  unbroken := by
    intro l hl c hc
    obtain ⟨cs, hcs, rfl⟩ := List.mem_map.1 hl
    rw [String.toList_ofList] at hc
    have hmem := (isPrefix_trimRightChars cs).subset hc
    exact Bool.eq_false_iff.2 (not_isLineBreak_of_mem_lineChars _ cs hcs c hmem)
  ends := by
    intro l hl
    obtain ⟨cs, -, rfl⟩ := List.mem_map.1 hl
    rw [String.toList_ofList]
    exact getLast?_trimRightChars cs
  first _ := exists_head?_of_mem_head?_docLines
  last _ := exists_getLast?_of_mem_getLast?_docLines

/-! ### Lines below each other -/

/-- Lines written one below the other are read as they were. -/
theorem lineChars_joinLines {lines : List String}
    (hunbroken : ∀ l ∈ lines, ∀ c ∈ l.toList, isLineBreak c = false)
    (hlast : ∀ l ∈ lines.getLast?, l.toList ≠ []) :
    lineChars (joinLines lines).toList = lines.map String.toList := by
  induction lines with
  | nil => rfl
  | cons l rest ih =>
    obtain ⟨hl, hrest⟩ := List.forall_mem_cons.1 hunbroken
    by_cases hnil : rest = []
    · subst hnil
      exact lineChars_eq_singleton (hlast l rfl) hl
    · rw [toList_joinLines_cons l hnil, lineChars_append_newline hl, List.map_cons]
      refine congrArg (l.toList :: ·) (ih hrest ?_)
      intro m hm
      exact hlast m (getLast?_cons_eq_some_iff.2 (.inr hm))

theorem head?_joinLines {l : String} {c : Char} (h : l.toList.head? = some c)
    (rest : List String) : (joinLines (l :: rest)).toList.head? = some c := by
  by_cases hnil : rest = []
  · subst hnil
    exact h
  · rw [toList_joinLines_cons l hnil, List.head?_append, h]
    rfl

theorem getLast?_joinLines {l : String} {c : Char} (h : l.toList.getLast? = some c)
    (front : List String) : (joinLines (front ++ [l])).toList.getLast? = some c := by
  by_cases hnil : front = []
  · subst hnil
    exact h
  · rw [joinLines, joinWith_concat _ _ hnil, String.toList_append, String.toList_append,
      List.getLast?_append, List.getLast?_append, h]
    rfl

/-- Below each other tidy lines have no blanks around them. -/
theorem IsTidy.isTrimmed {lines : List String} (h : IsTidy lines) :
    IsTrimmed (joinLines lines).toList where
  starts := by
    cases lines with
    | nil => exact nofun
    | cons l rest =>
      obtain ⟨c, hc, hblank⟩ := h.first l rfl
      rw [head?_joinLines hc]
      rintro _ ⟨⟩
      exact hblank
  ends := by
    rcases List.eq_nil_or_concat lines with rfl | ⟨front, l, rfl⟩
    · exact nofun
    · rw [List.concat_eq_append] at h ⊢
      obtain ⟨c, hc, hblank⟩ := h.last l List.getLast?_concat
      rw [getLast?_joinLines hc]
      rintro _ ⟨⟩
      exact hblank

/-- Tidy lines come back: nothing is trimmed, no line is cut, and none is shortened. -/
theorem IsTidy.docLines_joinLines {lines : List String} (h : IsTidy lines) :
    docLines (joinLines lines) = lines := by
  have hlast : ∀ l ∈ lines.getLast?, l.toList ≠ [] := by
    intro l hl hnil
    obtain ⟨c, hc, -⟩ := h.last l hl
    rw [hnil] at hc
    cases hc
  have hsame : ∀ l ∈ lines, String.ofList (trimRightChars l.toList) = l := by
    intro l hl
    rw [trimRightChars_eq_self (h.ends l hl), String.ofList_toList]
  rw [docLines, trimChars_eq_self_iff.2 h.isTrimmed, lineChars_joinLines h.unbroken hlast,
    List.map_map]
  exact (List.map_congr_left hsame).trans (List.map_id lines)

/-- **The lines that come back are the tidy ones.** -/
theorem docLines_joinLines_eq_iff {lines : List String} :
    docLines (joinLines lines) = lines ↔ IsTidy lines := by
  constructor
  · intro h
    rw [← h]
    exact isTidy_docLines _
  · exact IsTidy.docLines_joinLines

/-! ### What the lines hold -/

theorem docLines_eq_nil_iff {t : String} : docLines t = [] ↔ ∀ c ∈ t.toList, isBlank c = true := by
  rw [docLines, List.map_eq_nil_iff, lineChars_eq_nil_iff, trimChars_eq_nil_iff]

/-- All but blanks is kept, in its order. -/
theorem filter_docLines (t : String) :
    ((docLines t).flatMap String.toList).filter (!isBlank ·) =
      t.toList.filter (!isBlank ·) := by
  have hlines : (docLines t).flatMap String.toList =
      (lineChars (trimChars t.toList)).flatMap trimRightChars := by
    rw [docLines, List.flatMap_map]
    simp only [String.toList_ofList]
  have hbreaks : ∀ c : Char, (!isBlank c && !isLineBreak c) = !isBlank c := by
    intro c
    cases hc : isBlank c with
    | true => rfl
    | false => rw [not_isLineBreak_of_not_isBlank hc]; rfl
  calc ((docLines t).flatMap String.toList).filter (!isBlank ·)
      = (lineChars (trimChars t.toList)).flatten.filter (!isBlank ·) := by
        rw [hlines, List.filter_flatMap, List.filter_flatten]
        simp only [filter_trimRightChars]
        rfl
    _ = (trimChars t.toList).filter (!isBlank ·) := by
        rw [flatten_lineChars, List.filter_filter]
        simp only [hbreaks]
    _ = t.toList.filter (!isBlank ·) := filter_trimChars t.toList

/-- **The lines of a documentation text**, of any text at all.  They are tidy; there are none
only if the text is blank; they hold all of it but blanks, in its order; and written one below
the other they are read again as they were. -/
theorem docLines_tidy_and_complete (t : String) :
    IsTidy (docLines t) ∧
    (docLines t = [] ↔ ∀ c ∈ t.toList, isBlank c = true) ∧
    ((docLines t).flatMap String.toList).filter (!isBlank ·) =
      t.toList.filter (!isBlank ·) ∧
    docLines (joinLines (docLines t)) = docLines t :=
  ⟨isTidy_docLines t, docLines_eq_nil_iff, filter_docLines t,
    docLines_joinLines_eq_iff.2 (isTidy_docLines t)⟩

/-- A carriage return with its line feed is one line break, and an empty line stays. -/
example : docLines "\n Clicked: \r\n\u2028  emitted\tonce\x0c " =
    ["Clicked:", "", "  emitted\tonce"] := by decide +kernel

end Declaration

end GirTypings
