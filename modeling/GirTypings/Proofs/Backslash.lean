import Mathlib.Data.List.Chain
import Mathlib.Data.List.Infix
import GirTypings.Gir.Signature

/-!
# Backslashes before an x

Documentation is read with one backslash less in front of every x that has any.  So a run
of backslashes before an x is one shorter afterwards, and it is gone if it was a single one:
what is left holds a backslash before an x exactly if the text held two.  Collapsing the
blanks of inline documentation brings no characters together, since a space stays where the
blanks were.

* `unescapeXChars_run`: a run of backslashes before an x loses one, and the characters
  around it are read for themselves;
* `escapes_unescapeXChars_iff`, `unescapeXChars_eq_self_iff`: what is left, and what stays;
* `escapes_collapseBlanks_iff`: inline documentation holds what the documentation does;
* `escapes_doc_iff_doublyEscapes`: all of this for the documentation of elements.
-/

namespace GirTypings

open Gir Text Xml

/-! ### Neighbours -/

/-- Whether a text holds a backslash before an x. -/
def Escapes (cs : List Char) : Prop :=
  ['\\', 'x'] <:+: cs

/-- Whether a text holds two backslashes before an x. -/
def DoublyEscapes (cs : List Char) : Prop :=
  ['\\', '\\', 'x'] <:+: cs

instance (cs : List Char) : Decidable (Escapes cs) :=
  inferInstanceAs (Decidable (['\\', 'x'] <:+: cs))

instance (cs : List Char) : Decidable (DoublyEscapes cs) :=
  inferInstanceAs (Decidable (['\\', '\\', 'x'] <:+: cs))

variable {c : Char} {cs rest : List Char}

theorem escapes_cons_iff : Escapes (c :: cs) ↔ c = '\\' ∧ ['x'] <+: cs ∨ Escapes cs := by
  rw [Escapes, List.infix_cons_iff, List.cons_prefix_cons, eq_comm]
  rfl

theorem doublyEscapes_cons_iff :
    DoublyEscapes (c :: cs) ↔ c = '\\' ∧ ['\\', 'x'] <+: cs ∨ DoublyEscapes cs := by
  rw [DoublyEscapes, List.infix_cons_iff, List.cons_prefix_cons, eq_comm]
  rfl

/-! ### Reading -/

/-- Anything but a backslash before an x stays. -/
theorem unescapeXChars_cons (h : ¬ (c = '\\' ∧ ['x'] <+: rest)) :
    unescapeXChars (c :: rest) = c :: unescapeXChars rest := by
  rw [unescapeXChars]
  rintro more rfl rfl
  exact h ⟨rfl, List.prefix_append ['x'] more⟩

/-- An x is in front of what is left if it was, perhaps behind a backslash. -/
theorem startsWith_unescapeXChars_iff (cs : List Char) :
    ['x'] <+: unescapeXChars cs ↔ ['x'] <+: cs ∨ ['\\', 'x'] <+: cs := by
  fun_cases unescapeXChars cs with
  | case1 => simp
  | case2 rest => simp
  | case3 c rest hplain =>
    simp only [List.cons_prefix_cons, List.nil_prefix, and_true]
    refine (or_iff_left ?_).symm
    rintro ⟨rfl, more, rfl⟩
    exact hplain more rfl rfl

/-- **What is left holds a backslash before an x exactly if the text held two.** -/
theorem escapes_unescapeXChars_iff (cs : List Char) :
    Escapes (unescapeXChars cs) ↔ DoublyEscapes cs := by
  fun_induction unescapeXChars cs with
  | case1 => decide
  | case2 rest ih =>
    rw [escapes_cons_iff, doublyEscapes_cons_iff, doublyEscapes_cons_iff, ih]
    simp
  | case3 c rest hplain ih =>
    rw [escapes_cons_iff, doublyEscapes_cons_iff, ih, startsWith_unescapeXChars_iff]
    refine or_congr_left (and_congr_right fun hc => or_iff_right ?_)
    rintro ⟨more, rfl⟩
    exact hplain more hc rfl

/-- **What stays as it is**: the texts without a backslash before an x. -/
theorem unescapeXChars_eq_self_iff (cs : List Char) :
    unescapeXChars cs = cs ↔ ¬ Escapes cs := by
  fun_induction unescapeXChars cs with
  | case1 => decide
  | case2 rest ih =>
    have hescapes : Escapes ('\\' :: 'x' :: rest) := List.infix_append [] ['\\', 'x'] rest
    simp [hescapes]
  | case3 c rest hplain ih =>
    rw [escapes_cons_iff, List.cons_inj_right, ih, not_or]
    refine (and_iff_right ?_).symm
    rintro ⟨hc, more, rfl⟩
    exact hplain more hc rfl

/-- What stands in front of a backslash is read for itself. -/
theorem unescapeXChars_append_backslash (front : List Char) :
    unescapeXChars (front ++ '\\' :: rest) =
      unescapeXChars front ++ unescapeXChars ('\\' :: rest) := by
  fun_induction unescapeXChars front with
  | case1 => rfl
  | case2 front ih => rw [List.cons_append, List.cons_append, unescapeXChars, ih]; rfl
  | case3 c front hplain ih =>
    rw [List.cons_append, unescapeXChars_cons, ih, List.cons_append]
    rintro ⟨hc, hx⟩
    cases front with
    | nil => simp at hx
    | cons d front =>
      obtain ⟨rfl, -⟩ := List.cons_prefix_cons.1 hx
      exact hplain front hc rfl

/-- **A run of backslashes before an x loses one.**  What stands in front of the run and what
follows the x is read for itself. -/
theorem unescapeXChars_run (front back : List Char) (n : Nat) :
    unescapeXChars (front ++ (List.replicate (n + 1) '\\' ++ 'x' :: back)) =
      unescapeXChars front ++ (List.replicate n '\\' ++ 'x' :: unescapeXChars back) := by
  rw [List.replicate_succ, List.cons_append, unescapeXChars_append_backslash]
  congr 1
  induction n with
  | zero => rw [List.replicate_zero, List.nil_append, List.nil_append, unescapeXChars]
  | succ n ih =>
    -- another backslash follows the first
    rw [List.replicate_succ, List.cons_append, unescapeXChars_cons (by simp), ih]
    rfl

/-! ### Collapsing blanks -/

namespace Text

/-- The first word of a text that starts inside a word starts as the text does. -/
theorem exists_wordChars_eq_cons (h : startsWord cs = true) :
    ∃ first others, wordChars cs = first :: others ∧ first.head? = cs.head? := by
  cases cs with
  | nil => cases h
  | cons c rest =>
    have hblank : ¬ isBlank c = true := by simpa [startsWord] using h
    rw [wordChars, if_neg hblank]
    split
    · cases wordChars rest <;> exact ⟨_, _, rfl, rfl⟩
    · exact ⟨_, _, rfl, rfl⟩

/- A condition on neighbours that blanks always meet. -/
variable {R : Char → Char → Prop} (hR : ∀ c d, isBlank c = true ∨ isBlank d = true → R c d)
include hR

/-- It holds of a text if it holds of its words. -/
theorem isChain_wordChars_iff (cs : List Char) :
    (∀ w ∈ wordChars cs, w.IsChain R) ↔ cs.IsChain R := by
  fun_induction wordChars cs with
  | case1 => simp
  | case2 c rest hblank ih =>
    rw [ih, List.isChain_cons]
    exact (and_iff_right fun d _ => hR c d (.inl hblank)).symm
  | case3 c rest hblank hstarts ih =>
    obtain ⟨first, others, hwords, hhead⟩ := exists_wordChars_eq_cons hstarts
    rw [hwords, List.forall_mem_cons] at ih
    rw [hwords, growFirst, List.forall_mem_cons, List.isChain_cons, List.isChain_cons, hhead,
      ← ih, and_assoc]
  | case4 c rest hblank hstarts ih =>
    rw [List.forall_mem_cons, and_iff_right (List.isChain_singleton c), ih, List.isChain_cons]
    refine (and_iff_right fun d hd => hR c d ?_).symm
    cases rest with
    | nil => cases hd
    | cons e rest =>
      obtain rfl : e = d := Option.some.inj hd
      exact .inr (by simpa [startsWord] using hstarts)

/-- It holds of two texts with a space between them if it holds of each. -/
theorem isChain_append_space_iff (front back : List Char) :
    (front ++ ' ' :: back).IsChain R ↔ front.IsChain R ∧ back.IsChain R := by
  rw [List.isChain_append, List.isChain_cons]
  constructor
  · rintro ⟨hfront, ⟨-, hback⟩, -⟩
    exact ⟨hfront, hback⟩
  · rintro ⟨hfront, hback⟩
    refine ⟨hfront, ⟨fun d _ => hR ' ' d (.inl (by decide)), hback⟩, fun c _ d hd => ?_⟩
    obtain rfl : ' ' = d := Option.some.inj hd
    exact hR c ' ' (.inr (by decide))

theorem isChain_joinWith_iff (texts : List String) :
    (joinWith " " texts).toList.IsChain R ↔ ∀ t ∈ texts, t.toList.IsChain R := by
  induction texts with
  | nil => simp
  | cons t rest ih =>
    rw [List.forall_mem_cons, ← ih]
    by_cases hnil : rest = []
    · subst hnil
      simp
    · rw [toList_joinWith_cons " " t hnil]
      exact isChain_append_space_iff hR _ _

end Text

/-- A backslash before an x, told by neighbours. -/
theorem escapes_iff_not_isChain :
    Escapes cs ↔ ¬ cs.IsChain fun c d => ¬ (c = '\\' ∧ d = 'x') := by
  induction cs with
  | nil => simp [Escapes]
  | cons c rest ih =>
    rw [escapes_cons_iff, ih, List.isChain_cons, not_and_or]
    refine or_congr_left ?_
    cases rest <;> simp [eq_comm]

/-- **Collapsing blanks neither makes nor mends a backslash before an x.** -/
theorem escapes_collapseBlanks_iff (t : String) :
    Escapes (collapseBlanks t).toList ↔ Escapes t.toList := by
  have hblank : ∀ c d, isBlank c = true ∨ isBlank d = true → ¬ (c = '\\' ∧ d = 'x') := by
    rintro c d h ⟨rfl, rfl⟩
    revert h
    decide
  rw [escapes_iff_not_isChain, escapes_iff_not_isChain, collapseBlanks,
    isChain_joinWith_iff hblank, ← isChain_wordChars_iff hblank, words]
  simp

/-! ### Elements -/

/-- Whether an element is documented with two backslashes before an x. -/
def DoublyEscapesDoc (e : Element) : Prop :=
  ∃ d, e.child? "doc" = some d ∧ DoublyEscapes d.text.toList

/-- Whether an optional text holds a backslash before an x. -/
def EscapesSome (doc : Option String) : Prop :=
  ∃ t, doc = some t ∧ Escapes t.toList

theorem escapesSome_doc?_iff (e : Element) : EscapesSome e.doc? ↔ DoublyEscapesDoc e := by
  rw [EscapesSome, DoublyEscapesDoc, Element.doc?]
  cases e.child? "doc" with
  | none => simp
  | some d => simp [unescapeX, escapes_unescapeXChars_iff]

/-- What callables, classes and properties keep of their documentation. -/
theorem escapes_docstring_iff (e : Element) :
    Escapes e.docstring.toList ↔ DoublyEscapesDoc e := by
  rw [← escapesSome_doc?_iff, EscapesSome, Element.docstring]
  cases e.doc? with
  | none => exact iff_of_false (by decide) (by simp)
  | some t => simp

/-- What parameters and return values keep of theirs. -/
theorem escapesSome_inlineDoc?_iff (e : Element) :
    EscapesSome e.inlineDoc? ↔ DoublyEscapesDoc e := by
  rw [← escapesSome_doc?_iff, EscapesSome, EscapesSome, Element.inlineDoc?]
  cases e.doc? with
  | none => simp
  | some t => simp [escapes_collapseBlanks_iff]

/-- A parameter has the inline documentation of its element. -/
theorem doc_of_parameter {e : Element} {p : Parameter} (h : e.parameter = .ok p) :
    p.doc = e.inlineDoc? := by
  rw [Element.parameter] at h
  cases hname : e.require "name" with
  | error skip => rw [hname] at h; cases h
  | ok name =>
    rw [hname] at h
    simp only [bind, Except.bind] at h
    split at h <;> cases h <;> rfl

/-- And what is returned that of its own. -/
theorem doc_returnValue (e : Element) :
    e.returnValue.doc = (e.child? "return-value").bind Element.inlineDoc? := by
  rw [Element.returnValue]
  cases e.child? "return-value" with
  | none => rfl
  | some r =>
    simp only [Option.bind_some]
    split <;> rfl

/-! ### Documentation -/

/-- **What documentation keeps of backslashes before an x.**  Of every run of them one is
dropped, and a text without such a run stays as it is.  So a backslash before an x is left
exactly where there were two, in the documentation of an element as in the inline
documentation of a parameter or of a return value, and exactly these texts change when they
are read again. -/
theorem escapes_doc_iff_doublyEscapes :
    (∀ (front back : List Char) (n : Nat),
      unescapeXChars (front ++ (List.replicate (n + 1) '\\' ++ 'x' :: back)) =
        unescapeXChars front ++ (List.replicate n '\\' ++ 'x' :: unescapeXChars back)) ∧
    (∀ t : String,
      (unescapeX t = t ↔ ¬ Escapes t.toList) ∧
      (Escapes (unescapeX t).toList ↔ DoublyEscapes t.toList) ∧
      (unescapeX (unescapeX t) = unescapeX t ↔ ¬ DoublyEscapes t.toList)) ∧
    ∀ e : Element,
      (Escapes e.docstring.toList ↔ DoublyEscapesDoc e) ∧
      (∀ p, e.parameter = .ok p → (EscapesSome p.doc ↔ DoublyEscapesDoc e)) ∧
      (EscapesSome e.returnValue.doc ↔
        ∃ r, e.child? "return-value" = some r ∧ DoublyEscapesDoc r) := by
  have hself : ∀ t : String, unescapeX t = t ↔ ¬ Escapes t.toList := by
    intro t
    rw [← String.toList_inj, unescapeX, String.toList_ofList, unescapeXChars_eq_self_iff]
  have hleft : ∀ t : String, Escapes (unescapeX t).toList ↔ DoublyEscapes t.toList := by
    intro t
    rw [unescapeX, String.toList_ofList, escapes_unescapeXChars_iff]
  refine ⟨unescapeXChars_run, fun t => ⟨hself t, hleft t, ?_⟩, fun e => ⟨?_, ?_, ?_⟩⟩
  · rw [hself, hleft]
  · exact escapes_docstring_iff e
  · intro p hp
    rw [doc_of_parameter hp, escapesSome_inlineDoc?_iff]
  · rw [doc_returnValue]
    cases e.child? "return-value" with
    | none => simp [EscapesSome]
    | some r => simpa using escapesSome_inlineDoc?_iff r

/-- A backslash before an x is left of two, and goes only when the text is read again. -/
theorem unescapeX_leaves_backslash :
    Escapes (unescapeX "\\\\x").toList ∧
    unescapeX (unescapeX "\\\\x") ≠ unescapeX "\\\\x" := by
  decide +kernel

/-- A parameter with some documentation. -/
def parameterWithDoc (doc : String) : Element :=
  .mk ⟨some coreNamespace, "parameter"⟩ [⟨⟨none, "name"⟩, "label"⟩]
    [.element (.mk ⟨some coreNamespace, "doc"⟩ [] [.text doc])]

/-- One backslash of three is dropped before an x, and none before anything else. -/
theorem escapes_doc_of_parameterWithDoc :
    (parameterWithDoc "the  \\n\\\\\\x41").parameter =
      .ok ⟨"label", "any", some "the \\n\\\\x41"⟩ ∧
    EscapesSome (some "the \\n\\\\x41") := by
  have hparameter : (parameterWithDoc "the  \\n\\\\\\x41").parameter =
      .ok ⟨"label", "any", some "the \\n\\\\x41"⟩ := by decide +kernel
  have hdoc : DoublyEscapesDoc (parameterWithDoc "the  \\n\\\\\\x41") :=
    ⟨_, rfl, by decide +kernel⟩
  obtain ⟨-, -, helement⟩ := escapes_doc_iff_doublyEscapes
  exact ⟨hparameter, ((helement _).2.1 _ hparameter).2 hdoc⟩

end GirTypings
