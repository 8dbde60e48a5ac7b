import GirTypings.Text.Join
import GirTypings.Text.Piece

/-!
# Paragraphs

A text is cut into **paragraphs** at its empty lines, that is, at every two line feeds,
from the left.  Texts can be put together with empty lines between them and taken apart
again if each is **solid**: made of lines, at least one, none of which is empty.

* `solid_joinLines`: lines that are not empty make a solid text;
* `Solid.paragraphChars_append`: what is cut first from a text with a solid text in front;
* `paragraphs_joinWith`: solid texts come back as they were;
* `endsInLine_joinWith`: and no line feed stands at their end.
-/

namespace GirTypings.Text

/-! ### Texts on one line -/

/-- Whether a text holds no line feed. -/
def OneLine (t : String) : Prop :=
  '\n' ∉ t.toList

instance (t : String) : Decidable (OneLine t) :=
  inferInstanceAs (Decidable ('\n' ∉ t.toList))

@[simp] theorem oneLine_append {t u : String} : OneLine (t ++ u) ↔ OneLine t ∧ OneLine u := by
  simp [OneLine]

@[simp] theorem oneLine_ofList {cs : List Char} : OneLine (.ofList cs) ↔ '\n' ∉ cs := by
  simp [OneLine]

/-- Whether a text is a line that is not empty. -/
def IsLine (t : String) : Prop :=
  t ≠ "" ∧ OneLine t

instance (t : String) : Decidable (IsLine t) :=
  inferInstanceAs (Decidable (t ≠ "" ∧ OneLine t))

theorem IsLine.append {t u : String} (ht : IsLine t) (hu : OneLine u) : IsLine (t ++ u) :=
  ⟨fun h => ht.1 (String.append_eq_empty_iff.1 h).1, oneLine_append.2 ⟨ht.2, hu⟩⟩

theorem IsLine.append_front {t u : String} (ht : OneLine t) (hu : IsLine u) : IsLine (t ++ u) :=
  ⟨fun h => hu.1 (String.append_eq_empty_iff.1 h).2, oneLine_append.2 ⟨ht, hu.2⟩⟩

/-! ### Cutting at empty lines -/

/-- What stands before, between and after the empty lines of a text. -/
def paragraphChars : List Char → List (List Char)
  | [] => [[]]
  | '\n' :: '\n' :: rest => [] :: paragraphChars rest
  | c :: rest => growFirst c (paragraphChars rest)

/-- The paragraphs of a text. -/
def paragraphs (t : String) : List String :=
  (paragraphChars t.toList).map .ofList

@[simp] theorem paragraphChars_nil : paragraphChars [] = [[]] := rfl

theorem paragraphChars_empty_line (rest : List Char) :
    paragraphChars ('\n' :: '\n' :: rest) = [] :: paragraphChars rest := by
  rw [paragraphChars]

theorem paragraphChars_cons_of_ne {c : Char} (hc : c ≠ '\n') (rest : List Char) :
    paragraphChars (c :: rest) = growFirst c (paragraphChars rest) := by
  rw [paragraphChars]
  rintro tail ⟨⟩
  exact absurd rfl hc

/-- A line feed in front of something else than another belongs to the paragraph. -/
theorem paragraphChars_newline_cons {c : Char} (hc : c ≠ '\n') (rest : List Char) :
    paragraphChars ('\n' :: c :: rest) = growFirst '\n' (paragraphChars (c :: rest)) := by
  rw [paragraphChars]
  rintro tail - ⟨⟩
  exact absurd rfl hc

theorem foldr_growFirst (l p : List Char) (ps : List (List Char)) :
    l.foldr growFirst (p :: ps) = (l ++ p) :: ps := by
  induction l with
  | nil => rfl
  | cons c rest ih => rw [List.foldr_cons, ih]; rfl

theorem paragraphChars_append_of_not_mem {l : List Char} (h : '\n' ∉ l) (rest : List Char) :
    paragraphChars (l ++ rest) = l.foldr growFirst (paragraphChars rest) := by
  induction l with
  | nil => rfl
  | cons c tail ih =>
    rw [List.mem_cons, not_or] at h
    rw [List.cons_append, paragraphChars_cons_of_ne (Ne.symm h.1), ih h.2, List.foldr_cons]

/-! ### Solid texts -/

/-- Lines that are not empty, with a line feed between neighbours. -/
inductive Solid : List Char → Prop
  | line {l : List Char} (hne : l ≠ []) (h : '\n' ∉ l) : Solid l
  | more {l rest : List Char} (hne : l ≠ []) (h : '\n' ∉ l) (hrest : Solid rest) :
      Solid (l ++ '\n' :: rest)

/-- Whether the last character of a text is there and no line feed. -/
def EndsInLine (cs : List Char) : Prop :=
  ∃ c, cs.getLast? = some c ∧ c ≠ '\n'

theorem EndsInLine.append {cs : List Char} (h : EndsInLine cs) (front : List Char) :
    EndsInLine (front ++ cs) := by
  obtain ⟨c, hlast, hc⟩ := h
  exact ⟨c, by rw [List.getLast?_append, hlast, Option.some_or], hc⟩

theorem EndsInLine.ne_append_newline {t : String} (h : EndsInLine t.toList) (front : String) :
    t ≠ front ++ "\n" := by
  rintro rfl
  obtain ⟨c, hlast, hc⟩ := h
  rw [String.toList_append, List.getLast?_append] at hlast
  exact hc (Option.some.inj hlast).symm

namespace Solid

theorem exists_cons {cs : List Char} (h : Solid cs) : ∃ c rest, cs = c :: rest ∧ c ≠ '\n' := by
  cases h with
  | @line l hne h =>
    obtain ⟨c, rest, rfl⟩ := List.exists_cons_of_ne_nil hne
    exact ⟨c, rest, rfl, fun hc => h (hc ▸ List.mem_cons_self ..)⟩
  | @more l tail hne h =>
    obtain ⟨c, rest, rfl⟩ := List.exists_cons_of_ne_nil hne
    exact ⟨c, rest ++ '\n' :: tail, rfl, fun hc => h (hc ▸ List.mem_cons_self ..)⟩

theorem ne_empty {t : String} (h : Solid t.toList) : t ≠ "" := by
  rintro rfl
  obtain ⟨c, rest, hcons, -⟩ := h.exists_cons
  cases hcons

theorem endsInLine {cs : List Char} (h : Solid cs) : EndsInLine cs := by
  induction h with
  | @line l hne h =>
    refine ⟨l.getLast hne, List.getLast?_eq_some_getLast hne, fun hc => h ?_⟩
    rw [← hc]
    exact List.getLast_mem hne
  | @more l rest hne h _ ih => exact (ih.append ['\n']).append l

/-- **A solid text in front is the first paragraph**, if an empty line comes after it or
nothing at all. -/
theorem paragraphChars_append {cs : List Char} (h : Solid cs) {tail : List Char}
    {ps : List (List Char)} (htail : paragraphChars tail = [] :: ps) :
    paragraphChars (cs ++ tail) = cs :: ps := by
  induction h with
  | @line l _ h =>
    rw [paragraphChars_append_of_not_mem h, htail, foldr_growFirst, List.append_nil]
  | @more l rest _ h hrest ih =>
    -- the line feed after the first line is not followed by another
    obtain ⟨c, rest', rfl, hc⟩ := hrest.exists_cons
    rw [List.append_assoc, List.cons_append, paragraphChars_append_of_not_mem h, List.cons_append,
      paragraphChars_newline_cons hc, ← List.cons_append, ih]
    exact foldr_growFirst l _ ps

end Solid

/-- Lines that are not empty make a solid text. -/
theorem solid_joinLines {lines : List String} (hne : lines ≠ []) (h : ∀ l ∈ lines, IsLine l) :
    Solid (joinLines lines).toList := by
  induction lines with
  | nil => exact absurd rfl hne
  | cons l rest ih =>
    obtain ⟨hl, hone⟩ := h l (List.mem_cons_self ..)
    have hl : l.toList ≠ [] := by simpa using hl
    by_cases hrest : rest = []
    · subst hrest
      exact .line hl hone
    · rw [toList_joinLines_cons l hrest]
      exact .more hl hone (ih hrest fun m hm => h m (List.mem_cons_of_mem l hm))

/-- **Solid texts come back as they were.** -/
theorem paragraphs_joinWith {blocks : List String} (hne : blocks ≠ [])
    (h : ∀ b ∈ blocks, Solid b.toList) : paragraphs (joinWith "\n\n" blocks) = blocks := by
  induction blocks with
  | nil => exact absurd rfl hne
  | cons b rest ih =>
    have hb := h b (List.mem_cons_self ..)
    by_cases hrest : rest = []
    · subst hrest
      have hone := hb.paragraphChars_append paragraphChars_nil
      rw [List.append_nil] at hone
      rw [joinWith_singleton, paragraphs, hone, List.map_singleton, String.ofList_toList]
    · have hmore := ih hrest fun c hc => h c (List.mem_cons_of_mem b hc)
      rw [paragraphs] at hmore
      have hgap : "\n\n".toList ++ (joinWith "\n\n" rest).toList =
          '\n' :: '\n' :: (joinWith "\n\n" rest).toList := rfl
      rw [paragraphs, toList_joinWith_cons _ _ hrest, hgap,
        hb.paragraphChars_append (paragraphChars_empty_line _), List.map_cons, hmore,
        String.ofList_toList]

/-- No line feed stands at the end of solid texts with empty lines between them. -/
theorem endsInLine_joinWith {blocks : List String} (hne : blocks ≠ [])
    (h : ∀ b ∈ blocks, Solid b.toList) : EndsInLine (joinWith "\n\n" blocks).toList := by
  induction blocks with
  | nil => exact absurd rfl hne
  | cons b rest ih =>
    by_cases hrest : rest = []
    · subst hrest
      exact (h b (List.mem_cons_self ..)).endsInLine
    · have hmore := ih hrest fun c hc => h c (List.mem_cons_of_mem b hc)
      rw [toList_joinWith_cons _ _ hrest]
      exact (hmore.append _).append _

end GirTypings.Text
