import GirTypings.Declaration.Callable
import GirTypings.Declaration.Constant
import GirTypings.Proofs.OneLine

/-!
# Names that can be bound

A name of a declaration is **legal** if it is not reserved.  Of a text made of identifier
characters only two things can be wrong: it starts with a digit or with nothing at all, or
it is one of the reserved words.  An underscore in front mends both, for no reserved word
starts with one.

* `isReserved_sanitize`, `isReserved_printedName`: sanitized names are legal, and so are
  the printed names of callables;
* `sanitize_eq_sanitize_iff`: when two names are sanitized to one;
* `sanitized_names_legal_and_apart`: all of this, for words and for any texts;
* `isReserved_constantName_iff`: the names of constants are mended after a digit only.
-/

namespace GirTypings

open Text

namespace Naming

/-! ### Identifier characters -/

/-- Whether a text is made of identifier characters. -/
def IsIdentifierText (t : String) : Prop :=
  ∀ c ∈ t.toList, isIdentifierChar c = true

/-- The characters of the text are gone through, and not all that there are. -/
instance (t : String) : Decidable (IsIdentifierText t) :=
  List.decidableBAll (fun c => isIdentifierChar c = true) t.toList

/-- An underscore in front is one identifier character more. -/
theorem isIdentifierText_underscore {t : String} (h : IsIdentifierText t) :
    IsIdentifierText ("_" ++ t) := by
  rw [IsIdentifierText, String.toList_append]
  exact List.forall_mem_cons.2 ⟨by decide, h⟩

/-- A character that is not behind an ASCII character is ASCII too. -/
theorem toNat_lt_of_le {c last : Char} (hlast : last.toNat < 128) (h : c.val ≤ last.val) :
    c.toNat < 128 :=
  Nat.lt_of_le_of_lt (UInt32.le_iff_toNat_le.1 h) hlast

/-- Identifier characters are ASCII. -/
theorem toNat_lt_of_isIdentifierChar {c : Char} (h : isIdentifierChar c = true) :
    c.toNat < 128 := by
  rw [isIdentifierChar, isIdentifierStart, Bool.or_eq_true, Bool.or_eq_true, Bool.or_eq_true,
    beq_iff_eq, beq_iff_eq] at h
  rcases h with ((halpha | rfl) | rfl) | hdigit
  · rcases Bool.or_eq_true_iff.1 halpha with hupper | hlower
    · have hle : c.val ≤ 'Z'.val := (of_decide_eq_true hupper).2
      exact toNat_lt_of_le (by decide) hle
    · have hle : c.val ≤ 'z'.val := of_decide_eq_true (Bool.and_eq_true_iff.1 hlower).2
      exact toNat_lt_of_le (by decide) hle
  · decide
  · decide
  · have hle : c.val ≤ '9'.val := of_decide_eq_true (Bool.and_eq_true_iff.1 hdigit).2
    exact toNat_lt_of_le (by decide) hle

/-- What holds of the identifier characters in the ASCII table holds of all. -/
theorem of_isIdentifierChar {p : Char → Prop}
    (htable : ∀ n < 128, isIdentifierChar (Char.ofNat n) = true → p (Char.ofNat n)) {c : Char}
    (h : isIdentifierChar c = true) : p c := by
  have hc : Char.ofNat c.toNat = c := Char.ofNat_toNat c
  rw [← hc]
  exact htable c.toNat (toNat_lt_of_isIdentifierChar h) (hc.symm ▸ h)

theorem isIdentifierChar_toLower {c : Char} (h : isIdentifierChar c = true) :
    isIdentifierChar c.toLower = true :=
  of_isIdentifierChar (p := fun c => isIdentifierChar c.toLower = true) (by decide) h

theorem isIdentifierChar_toUpper {c : Char} (h : isIdentifierChar c = true) :
    isIdentifierChar c.toUpper = true :=
  of_isIdentifierChar (p := fun c => isIdentifierChar c.toUpper = true) (by decide) h

/-- What starts an identifier is no ASCII digit. -/
theorem not_isDigit_of_isIdentifierStart {c : Char} (h : isIdentifierStart c = true) :
    c.isDigit = false := by
  have hchar : isIdentifierChar c = true := by rw [isIdentifierChar, h]; rfl
  exact of_isIdentifierChar (p := fun c => isIdentifierStart c = true → c.isDigit = false)
    (by decide) hchar h

/-- An identifier character starts an identifier unless it is a digit, of any script. -/
theorem isDigit_eq_not_isIdentifierStart {c : Char} (h : isIdentifierChar c = true) :
    isDigit c = !isIdentifierStart c :=
  of_isIdentifierChar (p := fun c => isDigit c = !isIdentifierStart c) (by decide +kernel) h

theorem isIdentifierTail_of_forall {cs : List Char} (h : ∀ c ∈ cs, isIdentifierChar c = true) :
    isIdentifierTail cs = true := by
  fun_induction isIdentifierTail cs with
  | case1 => rfl
  | case2 => rfl
  | case3 c rest _ ih =>
    obtain ⟨hc, hrest⟩ := List.forall_mem_cons.1 h
    rw [hc, ih hrest]
    rfl

/-! ### Reserved words -/

/-- A reserved word starts with a letter. -/
theorem head?_of_mem_reservedWords :
    ∀ w ∈ reservedWords, w.toList.head?.any Char.isAlpha = true := by decide +kernel

/-- What starts with an underscore and goes on with identifier characters is legal. -/
theorem isReserved_underscore {t : String} (h : IsIdentifierText t) :
    isReserved ("_" ++ t) = false := by
  have hchars : ("_" ++ t).toList = '_' :: t.toList := by
    rw [String.toList_append]
    rfl
  have hword : reservedWords.contains ("_" ++ t) = false := by
    rw [Bool.eq_false_iff]
    intro hmem
    have halpha := head?_of_mem_reservedWords _ (List.contains_iff_mem.1 hmem)
    rw [hchars] at halpha
    exact absurd halpha (by decide : ¬ '_'.isAlpha = true)
  have hform : isIdentifierForm ("_" ++ t) = true := by
    rw [isIdentifierForm, hchars]
    exact isIdentifierTail_of_forall h
  rw [isReserved, hword, hform]
  rfl

/-- **Sanitized names are legal.** -/
theorem isReserved_sanitize {t : String} (h : IsIdentifierText t) :
    isReserved (sanitize t) = false := by
  cases hreserved : isReserved t with
  | true =>
    rw [sanitize_of_isReserved hreserved]
    exact isReserved_underscore h
  | false => rwa [sanitize_of_not_isReserved hreserved]

theorem isIdentifierText_sanitize {t : String} (h : IsIdentifierText t) :
    IsIdentifierText (sanitize t) := by
  rw [sanitize]
  split
  · exact isIdentifierText_underscore h
  · exact h

/-- A legal name is an identifier that is not a reserved word. -/
theorem isReserved_iff {t : String} (h : IsIdentifierText t) :
    isReserved t = true ↔
      t ∈ reservedWords ∨ t.toList.head?.any isIdentifierStart = false := by
  have hform : isIdentifierForm t = t.toList.head?.any isIdentifierStart := by
    rw [isIdentifierForm]
    rw [IsIdentifierText] at h
    cases hchars : t.toList with
    | nil => rfl
    | cons c rest =>
      rw [hchars] at h
      simp [isIdentifierTail_of_forall (List.forall_mem_cons.1 h).2]
  rw [isReserved, Bool.or_eq_true, List.contains_iff_mem, hform, Bool.not_eq_true']

/-! ### What sanitizing leaves -/

theorem isIdentifierChar_of_mem_tail {cs : List Char} (h : isIdentifierTail cs = true) {c : Char}
    (hc : c ∈ cs) : isIdentifierChar c = true ∨ c = '\n' := by
  fun_induction isIdentifierTail cs with
  | case1 => cases hc
  | case2 => exact .inr (List.mem_singleton.1 hc)
  | case3 d rest _ ih =>
    obtain ⟨hd, hrest⟩ := Bool.and_eq_true_iff.1 h
    rcases List.mem_cons.1 hc with rfl | hc
    · exact .inl hd
    · exact ih hrest hc

/-- A legal name holds identifier characters and line feeds only. -/
theorem isIdentifierChar_of_mem {word : String} (h : isReserved word = false) :
    ∀ c ∈ word.toList, isIdentifierChar c = true ∨ c = '\n' := by
  have hform : isIdentifierForm word = true := by
    rw [isReserved, Bool.or_eq_false_iff, Bool.not_eq_false'] at h
    exact h.2
  rw [isIdentifierForm] at hform
  intro c hc
  split at hform
  · cases hform
  · next first rest hchars =>
    obtain ⟨hfirst, hrest⟩ := Bool.and_eq_true_iff.1 hform
    rw [hchars] at hc
    rcases List.mem_cons.1 hc with rfl | hc
    · exact .inl (by rw [isIdentifierChar, hfirst]; rfl)
    · exact isIdentifierChar_of_mem_tail hrest hc

/-- A sanitized name holds identifier characters and line feeds only, unless it was made so
by an underscore. -/
theorem sanitize_starts_or_forall (word : String) :
    (sanitize word).toList.head? = some '_' ∨
      ∀ c ∈ (sanitize word).toList, isIdentifierChar c = true ∨ c = '\n' := by
  cases hreserved : isReserved word with
  | true =>
    left
    rw [sanitize_of_isReserved hreserved, String.toList_append]
    rfl
  | false =>
    right
    rw [sanitize_of_not_isReserved hreserved]
    exact isIdentifierChar_of_mem hreserved

theorem sanitize_eq_self_iff {name : String} :
    sanitize name = name ↔ isReserved name = false := by
  cases hreserved : isReserved name with
  | true =>
    -- an underscore more makes another name
    rw [sanitize_of_isReserved hreserved]
    refine iff_of_false (fun h => ?_) Bool.noConfusion
    have hlength := congrArg String.length h
    rw [String.length_append, show "_".length = 1 from rfl] at hlength
    omega
  | false => exact iff_of_true (sanitize_of_not_isReserved hreserved) rfl

/-- **When two names become one**: only if one gets the underscore that the other has. -/
theorem sanitize_eq_sanitize_iff {u v : String} :
    sanitize u = sanitize v ↔
      u = v ∨ (isReserved u = true ∧ isReserved v = false ∧ v = "_" ++ u) ∨
        (isReserved v = true ∧ isReserved u = false ∧ u = "_" ++ v) := by
  cases hu : isReserved u with
  | true =>
    rw [sanitize_of_isReserved hu]
    cases hv : isReserved v with
    | true =>
      rw [sanitize_of_isReserved hv, String.append_right_inj]
      simp
    | false =>
      rw [sanitize_of_not_isReserved hv]
      have hne : u ≠ v := fun h => by
        rw [h, hv] at hu
        cases hu
      simp [hne, eq_comm]
  | false =>
    rw [sanitize_of_not_isReserved hu]
    cases hv : isReserved v with
    | true =>
      rw [sanitize_of_isReserved hv]
      have hne : u ≠ v := fun h => by
        rw [h, hv] at hu
        cases hu
      simp [hne]
    | false =>
      rw [sanitize_of_not_isReserved hv]
      simp

/-! ### Camel case -/

/-- The words of a name hold letters and digits only. -/
theorem isAlphanum_of_mem_nameWords (name : List Char) :
    ∀ w ∈ nameWords name, ∀ c ∈ w, c.isAlphanum = true := by
  fun_induction nameWords name with
  | case1 => simp
  | case2 c rest _ ih => exact ih
  | case3 c rest hc _ ih => exact forall_mem_growFirst (by simpa using hc) ih
  | case4 c rest hc _ ih => simpa using ⟨by simpa using hc, ih⟩

/-- A name without words is one without letters and digits. -/
theorem nameWords_eq_nil_iff {name : List Char} :
    nameWords name = [] ↔ ∀ c ∈ name, c.isAlphanum = false := by
  fun_induction nameWords name with
  | case1 => simp
  | case2 c rest hc ih =>
    have hc : c.isAlphanum = false := by simpa using hc
    simp [ih, hc]
  | case3 c rest hc _ ih =>
    have hc : c.isAlphanum = true := by simpa using hc
    simp [growFirst_ne_nil, hc]
  | case4 c rest hc _ ih =>
    have hc : c.isAlphanum = true := by simpa using hc
    simp [hc]

theorem isIdentifierChar_of_isAlphanum {c : Char} (h : c.isAlphanum = true) :
    isIdentifierChar c = true := by
  rw [Char.isAlphanum, Bool.or_eq_true] at h
  rw [isIdentifierChar, isIdentifierStart]
  rcases h with h | h <;> simp [h]

/-- In camel case nothing is left but what words are made of. -/
theorem isIdentifierText_camelCase_of_words {t : String} (h : nameWords t.toList ≠ []) :
    IsIdentifierText (camelCase t) := by
  rw [IsIdentifierText, camelCase, String.toList_ofList, camelChars]
  have hword : ∀ w ∈ nameWords t.toList, ∀ c ∈ w, isIdentifierChar c = true :=
    fun w hw c hc => isIdentifierChar_of_isAlphanum (isAlphanum_of_mem_nameWords _ w hw c hc)
  have hlower : ∀ {w : List Char}, (∀ c ∈ w, isIdentifierChar c = true) →
      ∀ c ∈ w.map Char.toLower, isIdentifierChar c = true := by
    rintro w hw _ hc
    obtain ⟨d, hd, rfl⟩ := List.mem_map.1 hc
    exact isIdentifierChar_toLower (hw d hd)
  cases hwords : nameWords t.toList with
  | nil => exact absurd hwords h
  | cons head tail =>
    rw [hwords] at hword
    obtain ⟨hhead, htail⟩ := List.forall_mem_cons.1 hword
    refine List.forall_mem_append.2 ⟨hlower hhead, fun c hc => ?_⟩
    obtain ⟨w, hw, hc⟩ := List.mem_flatMap.1 hc
    have hw := htail w hw
    cases w with
    | nil => cases hc
    | cons d rest =>
      obtain ⟨hd, hrest⟩ := List.forall_mem_cons.1 hw
      rcases List.mem_cons.1 hc with rfl | hc
      · exact isIdentifierChar_toUpper hd
      · exact hlower hrest c hc

/-- Camel case makes no other characters of identifier characters. -/
theorem isIdentifierText_camelCase {t : String} (h : IsIdentifierText t) :
    IsIdentifierText (camelCase t) := by
  by_cases hwords : nameWords t.toList = []
  · have hsame : camelCase t = t := by rw [camelCase, camelChars, hwords, String.ofList_toList]
    rwa [hsame]
  · exact isIdentifierText_camelCase_of_words hwords

end Naming

/-! ### Names of declarations -/

namespace Declaration

open Naming

/-- **Printed names of callables are legal**, in camel case or not. -/
theorem isReserved_printedName (camel : Bool) {name : String} (h : IsIdentifierText name) :
    isReserved (printedName camel name) = false := by
  refine isReserved_sanitize ?_
  split
  · exact isIdentifierText_camelCase h
  · exact h

/-- In camel case a letter or a digit is enough, whatever stands around it. -/
theorem isReserved_printedName_of_isAlphanum {name : String} {c : Char} (hc : c ∈ name.toList)
    (h : c.isAlphanum = true) : isReserved (printedName true name) = false := by
  refine isReserved_sanitize (isIdentifierText_camelCase_of_words fun hnil => ?_)
  rw [nameWords_eq_nil_iff.1 hnil c hc] at h
  cases h

theorem isIdentifierText_printedName (camel : Bool) {name : String} (h : IsIdentifierText name) :
    IsIdentifierText (printedName camel name) := by
  refine isIdentifierText_sanitize ?_
  split
  · exact isIdentifierText_camelCase h
  · exact h

theorem isIdentifierText_constantName {name : String} (h : IsIdentifierText name) :
    IsIdentifierText (constantName name) := by
  rw [constantName]
  split
  · split
    · exact isIdentifierText_underscore h
    · exact h
  · exact h

/-- **Names of constants are mended after a digit only.**  What is left of the names that
cannot be bound are the empty one and the reserved words. -/
theorem isReserved_constantName_iff {name : String} (h : IsIdentifierText name) :
    isReserved (constantName name) = true ↔ name = "" ∨ name ∈ reservedWords := by
  rw [constantName]
  cases hchars : name.toList with
  | nil =>
    obtain rfl : name = "" := String.toList_eq_nil_iff.1 hchars
    exact iff_of_true (by decide +kernel) (.inl rfl)
  | cons c rest =>
    have hc : isIdentifierChar c = true := h c (by rw [hchars]; exact List.mem_cons_self ..)
    have hne : name ≠ "" := by
      rintro rfl
      cases hchars
    have hdigit := isDigit_eq_not_isIdentifierStart hc
    cases hstart : isIdentifierStart c with
    | true =>
      rw [hstart] at hdigit
      rw [isReserved_iff (by simpa [hdigit] using h)]
      simp [hdigit, hne, hchars, hstart]
    | false =>
      rw [hstart] at hdigit
      -- a reserved word starts with a letter
      have hword : name ∉ reservedWords := fun hmem => by
        have halpha := head?_of_mem_reservedWords name hmem
        rw [hchars] at halpha
        have halpha : c.isAlpha = true := halpha
        rw [isIdentifierStart, halpha] at hstart
        cases hstart
      simp only [hdigit, Bool.not_false, if_true]
      rw [isReserved_underscore h]
      simp [hne, hword]

end Declaration

open Naming Declaration

/-- **One underscore is enough, and costs little.**  Of a word made of identifier characters,
the empty one included, `sanitize` makes a legal name, which it leaves alone from then on, and
the name under which a callable is declared is legal too, in camel case or not.  In camel case
that name is legal for every text with a letter or a digit in it.  Two texts become one name
only if they are equal, or if one is reserved and the other is that one with the underscore. -/
theorem sanitized_names_legal_and_apart :
    (∀ word, IsIdentifierText word →
      isReserved (sanitize word) = false ∧ sanitize (sanitize word) = sanitize word ∧
      ∀ camel, isReserved (printedName camel word) = false) ∧
    (∀ name : String, (∃ c ∈ name.toList, c.isAlphanum = true) →
      isReserved (printedName true name) = false) ∧
    ∀ u v : String, sanitize u = sanitize v ↔
      u = v ∨ (isReserved u = true ∧ isReserved v = false ∧ v = "_" ++ u) ∨
        (isReserved v = true ∧ isReserved u = false ∧ u = "_" ++ v) := by
  refine ⟨fun word hword => ?_, ?_, fun u v => sanitize_eq_sanitize_iff⟩
  · have hlegal := isReserved_sanitize hword
    exact ⟨hlegal, sanitize_eq_self_iff.2 hlegal, fun camel => isReserved_printedName camel hword⟩
  · rintro name ⟨c, hc, halphanum⟩
    exact isReserved_printedName_of_isAlphanum hc halphanum

/-- A word that is reserved only in camel case, a text with letters far apart, and the two
names that become one. -/
theorem names_of_delete :
    IsIdentifierText "__delete_" ∧ isReserved (printedName true "__delete_") = false ∧
    (∃ c ∈ "¡7–in!".toList, c.isAlphanum = true) ∧
    isReserved (printedName true "¡7–in!") = false ∧
    sanitize "delete" = sanitize "_delete" := by
  obtain ⟨hword, htext, hcollide⟩ := sanitized_names_legal_and_apart
  have hidentifier : IsIdentifierText "__delete_" := by decide
  have halphanum : ∃ c ∈ "¡7–in!".toList, c.isAlphanum = true := ⟨'7', by decide, by decide⟩
  refine ⟨hidentifier, (hword _ hidentifier).2.2 true, halphanum, htext _ halphanum, ?_⟩
  exact (hcollide "delete" "_delete").2 (.inr (.inl ⟨by decide +kernel, by decide +kernel, rfl⟩))

end GirTypings
