import GirTypings.Proofs.LegalName

/-!
# The grammar of identifiers

An **identifier** is a text of identifier characters that is not empty and does not start
with a digit; the words that can be **bound** are the identifiers that are not reserved
words.  The test of the names agrees with this grammar on every word but one kind: the end
of an identifier is looked for before a line feed that ends the text, too, and reserved
words are looked up as they stand.  So an identifier with a line feed behind it passes,
even if it is a reserved word.

* `isIdentifierForm_iff`: the form that is tested for is that of an identifier, with a line
  feed behind it or not;
* `isReserved_eq_false_iff_grammar`: what is not reserved, and where that is the grammar.
-/

namespace GirTypings.Naming

open Text

/-- What an identifier is: a text of identifier characters, at least one, of which the first
is no digit. -/
structure IsIdentifier (t : String) : Prop where
  nonempty : t ≠ ""
  noDigit : t.toList.head?.any Char.isDigit = false
  chars : IsIdentifierText t

instance (t : String) : Decidable (IsIdentifier t) :=
  decidable_of_iff (t ≠ "" ∧ t.toList.head?.any Char.isDigit = false ∧ IsIdentifierText t)
    ⟨fun ⟨hne, hdigit, hchars⟩ => ⟨hne, hdigit, hchars⟩, fun h => ⟨h.nonempty, h.noDigit, h.chars⟩⟩

/-- What can be bound: an identifier that is not a reserved word. -/
structure IsBindable (word : String) : Prop extends IsIdentifier word where
  notReserved : word ∉ reservedWords

/-- An identifier, reserved or not, with the line feed that ends its line. -/
def IsIdentifierLine (t : String) : Prop :=
  ∃ identifier, IsIdentifier identifier ∧ t = identifier ++ "\n"

/-! ### The form of an identifier -/

/-- The characters that start an identifier are the identifier characters without the
digits. -/
theorem isIdentifierStart_iff {c : Char} :
    isIdentifierStart c = true ↔ isIdentifierChar c = true ∧ c.isDigit = false := by
  constructor
  · intro h
    exact ⟨by rw [isIdentifierChar, h]; rfl, not_isDigit_of_isIdentifierStart h⟩
  · rintro ⟨hchar, hdigit⟩
    rwa [isIdentifierChar, hdigit, Bool.or_false] at hchar

/-- Identifier characters to the end, or to the line feed that ends the text. -/
theorem isIdentifierTail_iff {cs : List Char} :
    isIdentifierTail cs = true ↔
      (∀ c ∈ cs, isIdentifierChar c = true) ∨
        ∃ front, (∀ c ∈ front, isIdentifierChar c = true) ∧ cs = front ++ ['\n'] := by
  fun_induction isIdentifierTail cs with
  | case1 => simp
  | case2 => exact iff_of_true rfl (.inr ⟨[], List.forall_mem_nil _, rfl⟩)
  | case3 c rest hlast ih =>
    rw [Bool.and_eq_true, ih]
    constructor
    · rintro ⟨hc, hrest | ⟨front, hfront, rfl⟩⟩
      · exact .inl (List.forall_mem_cons.2 ⟨hc, hrest⟩)
      · exact .inr ⟨c :: front, List.forall_mem_cons.2 ⟨hc, hfront⟩, rfl⟩
    · rintro (hall | ⟨front, hfront, heq⟩)
      · obtain ⟨hc, hrest⟩ := List.forall_mem_cons.1 hall
        exact ⟨hc, .inl hrest⟩
      · -- a line feed alone is the case before this one
        cases front with
        | nil =>
          obtain ⟨rfl, rfl⟩ := List.cons.inj heq
          exact absurd rfl (hlast rfl)
        | cons d front =>
          obtain ⟨rfl, rfl⟩ := List.cons.inj heq
          obtain ⟨hd, hfront⟩ := List.forall_mem_cons.1 hfront
          exact ⟨hd, .inr ⟨front, hfront, rfl⟩⟩

theorem isIdentifier_iff_of_cons {t : String} {c : Char} {rest : List Char}
    (h : t.toList = c :: rest) :
    IsIdentifier t ↔ isIdentifierStart c = true ∧ ∀ d ∈ rest, isIdentifierChar d = true := by
  have hne : t ≠ "" := by
    rintro rfl
    cases h
  rw [isIdentifierStart_iff]
  constructor
  · rintro ⟨-, hdigit, hchars⟩
    rw [h] at hdigit
    rw [IsIdentifierText, h] at hchars
    obtain ⟨hc, hrest⟩ := List.forall_mem_cons.1 hchars
    exact ⟨⟨hc, hdigit⟩, hrest⟩
  · rintro ⟨⟨hc, hdigit⟩, hrest⟩
    refine ⟨hne, by rwa [h], ?_⟩
    rw [IsIdentifierText, h]
    exact List.forall_mem_cons.2 ⟨hc, hrest⟩

theorem isIdentifierLine_iff_of_cons {t : String} {c : Char} {rest : List Char}
    (h : t.toList = c :: rest) :
    IsIdentifierLine t ↔ isIdentifierStart c = true ∧
      ∃ front, (∀ d ∈ front, isIdentifierChar d = true) ∧ rest = front ++ ['\n'] := by
  constructor
  · rintro ⟨identifier, hidentifier, rfl⟩
    rw [String.toList_append] at h
    cases hchars : identifier.toList with
    | nil => exact absurd (String.toList_eq_nil_iff.1 hchars) hidentifier.nonempty
    | cons d front =>
      rw [hchars] at h
      obtain ⟨rfl, rfl⟩ := List.cons.inj h
      obtain ⟨hstart, hfront⟩ := (isIdentifier_iff_of_cons hchars).1 hidentifier
      exact ⟨hstart, front, hfront, rfl⟩
  · rintro ⟨hstart, front, hfront, rfl⟩
    refine ⟨.ofList (c :: front),
      (isIdentifier_iff_of_cons String.toList_ofList).2 ⟨hstart, hfront⟩, String.toList_injective ?_⟩
    rw [h, String.toList_append, String.toList_ofList]
    rfl

/-- **The form that is tested for** is that of an identifier, or of a line with one. -/
theorem isIdentifierForm_iff {t : String} :
    isIdentifierForm t = true ↔ IsIdentifier t ∨ IsIdentifierLine t := by
  rw [isIdentifierForm]
  cases hchars : t.toList with
  | nil =>
    obtain rfl : t = "" := String.toList_eq_nil_iff.1 hchars
    refine iff_of_false Bool.noConfusion ?_
    rintro (hidentifier | ⟨identifier, -, heq⟩)
    · exact hidentifier.nonempty rfl
    · exact absurd (String.append_eq_empty_iff.1 heq.symm).2 (by decide)
  | cons c rest =>
    rw [isIdentifier_iff_of_cons hchars, isIdentifierLine_iff_of_cons hchars, ← and_or_left,
      ← isIdentifierTail_iff]
    exact Bool.and_eq_true_iff

/-! ### Reserved words -/

/-- The reserved words are identifiers. -/
theorem isIdentifier_of_mem_reservedWords : ∀ w ∈ reservedWords, IsIdentifier w := by
  decide +kernel

theorem IsIdentifier.oneLine {t : String} (h : IsIdentifier t) : OneLine t := fun hfeed =>
  absurd (h.chars _ hfeed) (by decide)

theorem IsIdentifierLine.not_oneLine {t : String} (h : IsIdentifierLine t) : ¬ OneLine t := by
  obtain ⟨identifier, -, rfl⟩ := h
  rw [oneLine_append]
  exact fun hone => absurd hone.2 (by decide)

/-- A word is bindable or a line with an identifier, if it is not reserved, and only then. -/
theorem isReserved_eq_false_iff {word : String} :
    isReserved word = false ↔ IsBindable word ∨ IsIdentifierLine word := by
  rw [isReserved, Bool.or_eq_false_iff, Bool.not_eq_false', isIdentifierForm_iff,
    ← Bool.not_eq_true, List.contains_iff_mem]
  constructor
  · rintro ⟨hword, hidentifier | hline⟩
    · exact .inl ⟨hidentifier, hword⟩
    · exact .inr hline
  · rintro (hbindable | hline)
    · exact ⟨hbindable.notReserved, .inl hbindable.toIsIdentifier⟩
    · exact ⟨fun hword => hline.not_oneLine (isIdentifier_of_mem_reservedWords word hword).oneLine,
        .inr hline⟩

/-- **What is not reserved.**  These are the words that can be bound, and the lines with an
identifier, of which none can.  So the grammar decides about every word that is no such
line, and is missed by every one that is. -/
theorem isReserved_eq_false_iff_grammar (word : String) :
    (isReserved word = false ↔ IsBindable word ∨ IsIdentifierLine word) ∧
    ((isReserved word = false ↔ IsBindable word) ↔ ¬ IsIdentifierLine word) := by
  refine ⟨isReserved_eq_false_iff, ?_⟩
  rw [isReserved_eq_false_iff]
  constructor
  · intro h hline
    -- it passes, but no grammar lets a line feed into an identifier
    exact hline.not_oneLine (h.1 (.inr hline)).oneLine
  · intro hline
    exact or_iff_left hline

/-- The grammar decides about a word with digits, and about a reserved word. -/
theorem grammar_of_label_and_delete :
    ¬ IsIdentifierLine "$label_2" ∧ IsBindable "$label_2" ∧ isReserved "$label_2" = false ∧
    ¬ IsIdentifierLine "delete" ∧ ¬ IsBindable "delete" ∧ isReserved "delete" = true := by
  have hlabel : ¬ IsIdentifierLine "$label_2" := fun h => h.not_oneLine (by decide)
  have hdelete : ¬ IsIdentifierLine "delete" := fun h => h.not_oneLine (by decide)
  have hbindable : IsBindable "$label_2" := ⟨by decide, by decide +kernel⟩
  have hword : ¬ IsBindable "delete" := fun h => h.notReserved (by decide +kernel)
  refine ⟨hlabel, hbindable, ?_, hdelete, hword, ?_⟩
  · exact ((isReserved_eq_false_iff_grammar "$label_2").2.2 hlabel).2 hbindable
  · rw [← Bool.not_eq_false]
    exact fun h => hword (((isReserved_eq_false_iff_grammar "delete").2.2 hdelete).1 h)

/-- **A line feed is overlooked**, and lets a reserved word pass that cannot be bound. -/
theorem delete_passes_before_line_feed :
    isReserved "delete\n" = false ∧ ¬ IsBindable "delete\n" :=
  ⟨by decide +kernel, fun h => absurd h.chars (by decide)⟩

end GirTypings.Naming
