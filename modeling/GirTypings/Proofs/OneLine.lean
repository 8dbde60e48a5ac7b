import GirTypings.Declaration.Callable
import GirTypings.Declaration.Constant
import GirTypings.Declaration.Enumeration
import GirTypings.Declaration.Header
import GirTypings.Declaration.Property
import GirTypings.Declaration.Shell
import GirTypings.Proofs.Paragraph

/-!
# Where line feeds cannot come from

Names, types and values are printed on one line each.  None of the rewritings that they go
through makes a line feed, so what is printed of a text without one has none.
Documentation may hold any line breaks; they are gone once it is cut into lines or words.

Each rewriting is looked at once, in the order in which declarations use them.
-/

namespace GirTypings

namespace Text

/-- A character of joined texts is one of theirs or of the separator. -/
theorem not_mem_joinWith {c : Char} {sep : String} (hsep : c ∉ sep.toList) {items : List String}
    (h : ∀ t ∈ items, c ∉ t.toList) : c ∉ (joinWith sep items).toList := by
  induction items with
  | nil => exact List.not_mem_nil
  | cons t rest ih =>
    have ht := h t (List.mem_cons_self ..)
    have hmore := ih fun u hu => h u (List.mem_cons_of_mem t hu)
    by_cases hrest : rest = []
    · subst hrest
      exact ht
    · rw [toList_joinWith_cons _ _ hrest, List.mem_append, List.mem_append, not_or, not_or]
      exact ⟨ht, hsep, hmore⟩

theorem oneLine_joinWith {sep : String} (hsep : OneLine sep) {items : List String}
    (h : ∀ t ∈ items, OneLine t) : OneLine (joinWith sep items) :=
  not_mem_joinWith hsep h

theorem oneLine_of_mem_words {t w : String} (h : w ∈ words t) : OneLine w := by
  obtain ⟨cs, hcs, rfl⟩ := List.mem_map.1 h
  rw [oneLine_ofList]
  intro hnewline
  exact not_isBlank_of_mem_wordChars _ cs hcs _ hnewline (by decide)

/-! ### Upper case -/

theorem eq_newline_of_toUpper {c : Char} (h : c.toUpper = '\n') : c = '\n' := by
  delta Char.toUpper at h
  split at h
  · next hc =>
    have hlow : 97 ≤ c.toNat := UInt32.le_iff_toNat_le.1 hc.1
    have hhigh : c.toNat ≤ 122 := UInt32.le_iff_toNat_le.1 hc.2
    have hval := congrArg Char.toNat h
    simp at hval
    omega
  · exact h

theorem eq_newline_of_toLower {c : Char} (h : c.toLower = '\n') : c = '\n' := by
  delta Char.toLower at h
  split at h
  · next hc =>
    have hlow : 65 ≤ c.toNat := UInt32.le_iff_toNat_le.1 hc.1
    have hhigh : c.toNat ≤ 90 := UInt32.le_iff_toNat_le.1 hc.2
    have hval := congrArg Char.toNat h
    simp at hval
    omega
  · exact h

theorem le_of_ofNat_eq_newline {n : Nat} (h : Char.ofNat n = '\n') : n ≤ 10 := by
  by_cases hvalid : n.isValidChar
  · have hn : (Char.ofNat n).toNat = n := by
      rw [Char.ofNat, dif_pos hvalid]
      rfl
    rw [h] at hn
    exact hn ▸ by decide
  · rw [Char.ofNat, dif_neg hvalid] at h
    exact absurd h (by decide)

/-- All capitals in the two tables come after the line feed. -/
theorem lt_of_mem_caseRuns : ∀ r ∈ caseRuns, 10 < r.capital := by decide +kernel

theorem lt_of_mem_caseExpansions : ∀ e ∈ caseExpansions, ∀ n ∈ e.2, 10 < n := by decide +kernel

theorem eq_newline_of_mem_wideUpper {c : Char} (h : '\n' ∈ wideUpper c) : c = '\n' := by
  rw [wideUpper] at h
  split at h
  · next form hform =>
    obtain ⟨n, hn, hnewline⟩ := List.mem_map.1 h
    obtain ⟨front, back, htable, -⟩ := List.lookup_eq_some_iff.1 hform
    have hmem : (c.toNat, form) ∈ caseExpansions := by rw [htable]; simp
    have hlt := lt_of_mem_caseExpansions _ hmem n hn
    have hle := le_of_ofNat_eq_newline hnewline
    omega
  · split at h
    · next r hr =>
      have hnewline := (List.mem_singleton.1 h).symm
      have hlt := lt_of_mem_caseRuns r (List.mem_of_find?_eq_some hr)
      have hle := le_of_ofNat_eq_newline hnewline
      omega
    · exact (List.mem_singleton.1 h).symm

theorem oneLine_upper {t : String} (h : OneLine t) : OneLine (upper t) := by
  rw [upper, oneLine_ofList, List.mem_flatMap]
  rintro ⟨c, hc, hnewline⟩
  refine h ?_
  rw [upperChar] at hnewline
  split at hnewline
  · rwa [← eq_newline_of_toUpper (List.mem_singleton.1 hnewline).symm]
  · rwa [← eq_newline_of_mem_wideUpper hnewline]

end Text

open Text

/-! ### Names and types -/

namespace Naming

theorem oneLine_sanitize {word : String} (h : OneLine word) : OneLine (sanitize word) := by
  rw [sanitize]
  split
  · exact oneLine_append.2 ⟨by decide, h⟩
  · exact h

/-- A word of a name is made of characters of the name. -/
theorem mem_of_mem_nameWords (name : List Char) :
    ∀ w ∈ nameWords name, ∀ c ∈ w, c ∈ name := by
  fun_induction nameWords name with
  | case1 => simp
  | case2 c rest _ ih =>
    intro w hw d hd
    exact List.mem_cons_of_mem c (ih w hw d hd)
  | case3 c rest _ _ ih =>
    exact forall_mem_growFirst (List.mem_cons_self ..)
      fun w hw d hd => List.mem_cons_of_mem c (ih w hw d hd)
  | case4 c rest _ _ ih =>
    intro w hw d hd
    rcases List.mem_cons.1 hw with rfl | hw
    · rw [List.mem_singleton.1 hd]
      exact List.mem_cons_self ..
    · exact List.mem_cons_of_mem c (ih w hw d hd)

theorem newline_mem_of_mem_capitalize {word : List Char} (h : '\n' ∈ capitalize word) :
    '\n' ∈ word := by
  cases word with
  | nil => exact h
  | cons c rest =>
    rcases List.mem_cons.1 h with h | h
    · rw [eq_newline_of_toUpper h.symm]
      exact List.mem_cons_self ..
    · obtain ⟨d, hd, hlower⟩ := List.mem_map.1 h
      rw [eq_newline_of_toLower hlower] at hd
      exact List.mem_cons_of_mem c hd

theorem oneLine_camelCase {name : String} (h : OneLine name) : OneLine (camelCase name) := by
  rw [camelCase, oneLine_ofList, camelChars]
  have hwords := mem_of_mem_nameWords name.toList
  split
  · exact h
  · next head tail hsplit =>
    rw [hsplit] at hwords
    intro hnewline
    rcases List.mem_append.1 hnewline with hhead | htail
    · obtain ⟨c, hc, hlower⟩ := List.mem_map.1 hhead
      rw [eq_newline_of_toLower hlower] at hc
      exact h (hwords head (List.mem_cons_self ..) _ hc)
    · obtain ⟨w, hw, hcapital⟩ := List.mem_flatMap.1 htail
      exact h (hwords w (List.mem_cons_of_mem head hw) _ (newline_mem_of_mem_capitalize hcapital))

end Naming

theorem oneLine_collapseBlanks (t : String) : OneLine (collapseBlanks t) :=
  oneLine_joinWith (by decide) fun _ hw => oneLine_of_mem_words hw

theorem oneLine_spelling (t : ValueType) : OneLine t.spelling := by
  have hbrackets : ∀ rank, OneLine (ValueType.brackets rank) := by
    intro rank
    induction rank with
    | zero => decide
    | succ n ih => exact oneLine_append.2 ⟨by decide, ih⟩
  rw [ValueType.spelling, oneLine_append]
  exact ⟨by cases t.scalar <;> decide, hbrackets t.rank⟩

theorem oneLine_namespaceOf {name : String} (h : OneLine name) :
    OneLine (Registry.namespaceOf name) := by
  rw [Registry.namespaceOf, oneLine_ofList]
  intro hnewline
  exact h ((List.takeWhile_subset _) hnewline)

/-! ### Signatures -/

/-- Whether all that a parameter says is on one line. -/
structure Parameter.IsOneLine (p : Parameter) : Prop where
  name : OneLine p.name
  type : OneLine p.type
  doc : ∀ t ∈ p.doc, OneLine t

/-- Whether all that a return value says is on one line. -/
structure ReturnValue.IsOneLine (r : ReturnValue) : Prop where
  type : OneLine r.type
  doc : ∀ t ∈ r.doc, OneLine t

/-- Whether all that a signature says is on one line. -/
structure Signature.IsOneLine (s : Signature) : Prop where
  parameters : ∀ p ∈ s.parameters, p.IsOneLine
  returns : s.returns.IsOneLine

namespace Declaration

/-! ### Comments -/

theorem isLine_indentLine {depth : Int} {line : String} (h : IsLine line) :
    IsLine (indentLine depth line) := by
  have hmargin : ∀ n, OneLine (margin n) := by
    intro n
    induction n with
    | zero => decide
    | succ n ih => exact oneLine_append.2 ⟨by decide, ih⟩
  rw [indentLine, if_neg h.1]
  exact h.append_front (hmargin _)

theorem oneLine_of_mem_docLines {docstring line : String} (h : line ∈ docLines docstring) :
    OneLine line := by
  obtain ⟨l, hl, rfl⟩ := List.mem_map.1 h
  rw [oneLine_ofList]
  intro hnewline
  exact not_isLineBreak_of_mem_lineChars _ l hl _
    ((isPrefix_trimRightChars l).subset hnewline) (by decide)

theorem newline_mem_of_mem_guardChars {cs : List Char} (h : '\n' ∈ guardChars cs) :
    '\n' ∈ cs := by
  fun_induction guardChars cs with
  | case1 => exact h
  | case2 rest ih => simpa using ih (by simpa using h)
  | case3 c rest _ ih =>
    rcases List.mem_cons.1 h with h | h
    · exact h ▸ List.mem_cons_self ..
    · exact List.mem_cons_of_mem c (ih h)

/-- A line of a comment starts with a star, so it is not empty. -/
theorem isLine_commentLine {line : String} (h : OneLine line) : IsLine (commentLine line) := by
  rw [commentLine]
  refine ⟨fun hempty => ?_, ?_⟩
  · have hnil := congrArg String.toList hempty
    rw [String.toList_ofList] at hnil
    have hstar := trimRightChars_eq_nil.1 hnil '*' (by simp)
    exact absurd hstar (by decide)
  · rw [oneLine_ofList]
    intro hnewline
    have hmem := (isPrefix_trimRightChars _).subset hnewline
    simp only [List.mem_cons] at hmem
    rcases hmem with hc | hc | hc | hmem
    · cases hc
    · cases hc
    · cases hc
    · exact h (newline_mem_of_mem_guardChars hmem)

theorem isLine_of_mem_docBlock {remarks : List String} (h : ∀ r ∈ remarks, OneLine r)
    {line : String} (hline : line ∈ docBlock remarks) : IsLine line := by
  rcases List.mem_cons.1 hline with rfl | hline
  · decide
  rcases List.mem_append.1 hline with hline | hline
  · obtain ⟨r, hr, rfl⟩ := List.mem_map.1 hline
    exact isLine_commentLine (h r hr)
  · rw [List.mem_singleton.1 hline]
    decide

/-! ### Code -/

theorem oneLine_printedName {camel : Bool} {name : String} (h : OneLine name) :
    OneLine (printedName camel name) := by
  refine Naming.oneLine_sanitize ?_
  split
  · exact Naming.oneLine_camelCase h
  · exact h

theorem oneLine_returnType {r : ReturnValue} (h : OneLine r.type) : OneLine (returnType r) := by
  rw [returnType]
  split
  · decide
  · exact h

theorem oneLine_referenceName {name : String} (h : OneLine name) :
    OneLine (referenceName name) := by
  rw [referenceName]
  split
  · exact h
  · exact Naming.oneLine_sanitize h

theorem oneLine_parameterList {ps : List Parameter} (h : ∀ p ∈ ps, p.IsOneLine) :
    OneLine (parameterList ps) := by
  refine oneLine_joinWith (by decide) fun t ht => ?_
  obtain ⟨p, hp, rfl⟩ := List.mem_map.1 ht
  have hp := h p hp
  simp +decide [parameterText, hp.name, hp.type]

theorem newline_mem_of_mem_escapeChars {cs : List Char} (h : '\n' ∈ escapeChars cs) :
    '\n' ∈ cs := by
  fun_induction escapeChars cs with
  | case1 => exact h
  | case2 c rest _ ih =>
    rw [List.mem_cons, List.mem_cons] at h
    rcases h with h | h | h
    · cases h
    · exact h ▸ List.mem_cons_self ..
    · exact List.mem_cons_of_mem c (ih h)
  | case3 c rest _ ih =>
    rcases List.mem_cons.1 h with h | h
    · exact h ▸ List.mem_cons_self ..
    · exact List.mem_cons_of_mem c (ih h)

theorem oneLine_escape {value : String} (h : OneLine value) : OneLine (escape value) := by
  rw [escape, oneLine_ofList]
  exact fun hnewline => h (newline_mem_of_mem_escapeChars hnewline)

theorem oneLine_literal {type : String} {value : Option String} (h : ∀ v ∈ value, OneLine v) :
    OneLine (literal type value) := by
  cases value with
  | none =>
    show OneLine "null"
    decide
  | some v =>
    have hv := h v rfl
    rw [literal]
    split
    · exact hv
    split
    · exact hv
    · simp +decide [oneLine_escape hv]

theorem oneLine_memberIdentifier {name : String} (h : OneLine name) :
    OneLine (memberIdentifier name) := by
  have hupper := oneLine_upper h
  simp only [memberIdentifier]
  split
  · decide
  · split
    · exact oneLine_append.2 ⟨by decide, hupper⟩
    · exact hupper

theorem oneLine_constantName {name : String} (h : OneLine name) : OneLine (constantName name) := by
  rw [constantName]
  split
  · split
    · exact oneLine_append.2 ⟨by decide, h⟩
    · exact h
  · exact h

/-- Items with a separator between them that ends in an item which is not empty. -/
theorem isLine_joinWith {sep : String} (hsep : IsLine sep) {front : List String} {last : String}
    (hfront : ∀ t ∈ front, OneLine t) (hlast : IsLine last) :
    IsLine (joinWith sep (front ++ [last])) := by
  cases front with
  | nil => exact hlast
  | cons t rest =>
    have hmore : OneLine (joinWith sep (rest ++ [last])) := by
      refine oneLine_joinWith hsep.2 fun u hu => ?_
      rcases List.mem_append.1 hu with hu | hu
      · exact hfront u (List.mem_cons_of_mem t hu)
      · rw [List.mem_singleton.1 hu]
        exact hlast.2
    rw [List.cons_append, joinWith_cons _ _ (by simp)]
    exact (hsep.append hmore).append_front (hfront t (List.mem_cons_self ..))

end Declaration

end GirTypings
