import GirTypings.Proofs.CamelCase

/-!
# Names in camel case

Camel case cuts a name into words and writes them without anything in between.  The words
of what comes out need not be those of the name: groups of digits that stood apart are one
word, and every capital of an acronym is a word of its own.  Still a second time changes
nothing, since what camel case leaves as it is can be told without words: letters and
digits, no capital in front, and a small letter behind a letter only.

* `isChain_pascalFrom`: what the one pass over a name writes is of this form behind its start;
* `pascalFrom_eq_self`: the pass leaves this form as it is;
* `camelChars_eq_self_iff`: the names that camel case leaves as they are;
* `camelCase_idempotent`: so a second time changes nothing.
-/

namespace GirTypings.Naming

/-! ### The form -/

/-- Whether a character may stand behind another in camel case: a small letter may only
stand behind a letter. -/
def Continues (before c : Char) : Prop :=
  c.isLower = true → before.isAlpha = true

/-- Whether a name is in camel case. -/
structure IsCamel (name : List Char) : Prop where
  alphanum : ∀ c ∈ name, c.isAlphanum = true
  small : ∀ c ∈ name.head?, c.isUpper = false
  continues : name.IsChain Continues

theorem Continues.toUpper (before c : Char) : Continues before c.toUpper := by
  intro h
  rw [Char.isLower_toUpper_eq_false] at h
  cases h

/-- What may stand behind a character may stand behind another one that is a letter if the
first is. -/
theorem isChain_cons_of_isAlpha {b b' : Char} {rest : List Char}
    (h : b.isAlpha = true → b'.isAlpha = true) (hchain : (b :: rest).IsChain Continues) :
    (b' :: rest).IsChain Continues := by
  cases rest with
  | nil => exact .singleton b'
  | cons c rest =>
    obtain ⟨hc, hrest⟩ := List.isChain_cons_cons.1 hchain
    exact .cons_cons (fun hlower => h (hc hlower)) hrest

/-! ### What the pass writes -/

/-- **What the pass writes is in the form**, by induction on the name: the character that is
written last is a letter if the one that was read last is. -/
theorem isChain_pascalFrom {before written : Char} (name : List Char)
    (h : before.isAlpha = true → written.isAlpha = true) :
    (written :: pascalFrom before name).IsChain Continues := by
  induction name generalizing before written with
  | nil => exact .singleton written
  | cons c rest ih =>
    cases hc : c.isAlphanum with
    | false =>
      rw [pascalFrom_skip hc]
      refine ih fun halpha => ?_
      rw [Char.isAlphanum, halpha] at hc
      cases hc
    | true =>
      rw [pascalFrom_keep hc]
      split
      · next hjoins =>
        refine .cons_cons (fun hlower => ?_) (ih id)
        rcases joins_cons.1 hjoins with ⟨hbefore, -⟩ | ⟨-, hdigit⟩
        · exact h hbefore
        · -- a digit is no letter
          rw [not_isDigit_of_isAlpha (by rw [Char.isAlpha, hlower, Bool.or_true])] at hdigit
          cases hdigit
      · refine .cons_cons (.toUpper written c) (ih fun halpha => ?_)
        rw [Char.isAlpha_toUpper_eq_isAlpha, halpha]

/-- **The pass leaves the form as it is**: a small letter joins the letter in front of it. -/
theorem pascalFrom_eq_self {before : Char} {name : List Char}
    (halphanum : ∀ c ∈ name, c.isAlphanum = true)
    (hchain : (before :: name).IsChain Continues) : pascalFrom before name = name := by
  induction name generalizing before with
  | nil => rfl
  | cons c rest ih =>
    obtain ⟨hc, hrest⟩ := List.forall_mem_cons.1 halphanum
    obtain ⟨hcontinues, hchain⟩ := List.isChain_cons_cons.1 hchain
    rw [pascalFrom_keep hc, ih hrest hchain]
    split
    · rfl
    · next hjoins =>
      rw [Char.toUpper_eq_of_not_isLower]
      exact fun hlower => hjoins (joins_cons.2 (.inl ⟨hcontinues hlower, hlower⟩))

/-! ### Camel case -/

/-- **Camel case is in the form**, unless there is no letter or digit to write. -/
theorem isCamel_camelChars {name : List Char} (h : name.filter Char.isAlphanum ≠ []) :
    IsCamel (camelChars name) := by
  obtain ⟨first, rest, hpass⟩ := exists_pascalFrom_eq_cons h ' '
  have hcamel : camelChars name = first.toLower :: rest := by rw [camelChars_eq, hpass]
  refine ⟨fun c hc => isAlphanum_of_mem_camelChars h hc, ?_, ?_⟩
  · rw [hcamel]
    rintro c ⟨⟩
    exact Char.isUpper_toLower_eq_false first
  · have hchain : (' ' :: pascalFrom ' ' name).IsChain Continues := isChain_pascalFrom name id
    rw [hpass] at hchain
    rw [hcamel]
    refine isChain_cons_of_isAlpha (fun halpha => ?_) (List.isChain_cons_cons.1 hchain).2
    rw [Char.isAlpha_toLower_eq_isAlpha, halpha]

/-- Camel case leaves a name of the form as it is. -/
theorem IsCamel.camelChars_eq_self {name : List Char} (h : IsCamel name) :
    camelChars name = name := by
  rw [camelChars_eq]
  cases name with
  | nil => rfl
  | cons c rest =>
    obtain ⟨hc, hrest⟩ := List.forall_mem_cons.1 h.alphanum
    have hsmall : c.isUpper = false := h.small c rfl
    -- the pass writes a capital in front, and camel case makes it small again
    have hlower : c.toUpper.toLower = c := by
      rw [Char.toLower_toUpper_eq_toLower,
        Char.toLower_eq_of_not_isUpper (Bool.eq_false_iff.1 hsmall)]
    rw [pascalFrom_keep hc, if_neg (not_joins_blank _), pascalFrom_eq_self hrest h.continues]
    exact congrArg (· :: rest) hlower

theorem camelChars_of_filter_eq_nil {name : List Char} (h : name.filter Char.isAlphanum = []) :
    camelChars name = name := by
  have hwords : nameWords name = [] := nameWords_eq_nil_iff.2 fun c hc =>
    Bool.eq_false_iff.2 (List.filter_eq_nil_iff.1 h c hc)
  rw [camelChars, hwords]

/-- **The names that camel case leaves as they are.** -/
theorem camelChars_eq_self_iff {name : List Char} :
    camelChars name = name ↔ name.filter Char.isAlphanum = [] ∨ IsCamel name := by
  constructor
  · intro h
    by_cases hempty : name.filter Char.isAlphanum = []
    · exact .inl hempty
    · exact .inr (h ▸ isCamel_camelChars hempty)
  · rintro (hempty | hcamel)
    · exact camelChars_of_filter_eq_nil hempty
    · exact hcamel.camelChars_eq_self

/-- A second time changes nothing. -/
theorem camelChars_camelChars (name : List Char) :
    camelChars (camelChars name) = camelChars name := by
  by_cases hempty : name.filter Char.isAlphanum = []
  · rw [camelChars_of_filter_eq_nil hempty, camelChars_of_filter_eq_nil hempty]
  · exact (isCamel_camelChars hempty).camelChars_eq_self

theorem camelCase_eq_self_iff {t : String} :
    camelCase t = t ↔ camelChars t.toList = t.toList := by
  rw [← String.toList_inj, camelCase, String.toList_ofList]

/-- **Camel case a second time changes nothing.**  The texts that it leaves as they are, and so
those that it writes, are the texts without letters and digits, and those of letters and digits
only that do not start with a capital and have a small letter behind a letter only. -/
theorem camelCase_idempotent :
    (∀ t : String, camelCase (camelCase t) = camelCase t) ∧
    ∀ t : String, camelCase t = t ↔
      t.toList.filter Char.isAlphanum = [] ∨ IsCamel t.toList := by
  constructor
  · intro t
    rw [camelCase_eq_self_iff, camelCase, String.toList_ofList, camelChars_camelChars]
  · intro t
    rw [camelCase_eq_self_iff, camelChars_eq_self_iff]

/-- The groups of digits become one word, and the last letter stays a capital behind them. -/
example : camelCase "a_b_1_2c" = "aB12C" ∧ camelCase "aB12C" = "aB12C" := by decide +kernel

end GirTypings.Naming
