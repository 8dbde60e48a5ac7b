import Mathlib.Data.List.DropRight
import GirTypings.Text.Blank

/-!
# Trimmed texts

A text is **trimmed** if no blank stands at its start or at its end.  Trimming makes texts
trimmed, leaves those alone that are, and takes nothing away but blanks.

* `trimRightChars_eq_rdropWhile`: trimming the end drops blanks from the right;
* `isTrimmed_trimChars`, `trimChars_eq_self_iff`: what trimming makes, and what it leaves;
* `filter_trimChars`: what it keeps;
* `trimChars_append_blanks`: blanks around a text are trimmed with those of the text.
-/

namespace GirTypings.Text

variable {cs : List Char}

theorem filter_of_forall_isBlank (h : ∀ c ∈ cs, isBlank c = true) :
    cs.filter (!isBlank ·) = [] := by
  rw [List.filter_eq_nil_iff]
  intro c hc
  simp [h c hc]

/-! ### The end of a text -/

theorem trimRightChars_concat (front : List Char) (c : Char) :
    trimRightChars (front ++ [c]) = if isBlank c then trimRightChars front else front ++ [c] := by
  induction front with
  | nil => by_cases hc : isBlank c = true <;> simp [trimRightChars, hc]
  | cons d front ih =>
    rw [List.cons_append, trimRightChars, ih]
    by_cases hc : isBlank c = true
    · rw [if_pos hc, if_pos hc, trimRightChars]
    · -- something is kept behind the first character, so it is kept too
      rw [if_neg hc, if_neg hc]
      cases hkept : front ++ [c] with
      | nil => cases List.append_ne_nil_of_right_ne_nil front (List.cons_ne_nil c []) hkept
      | cons e kept => rfl

/-- Trimming the end drops blanks from the right. -/
theorem trimRightChars_eq_rdropWhile (cs : List Char) :
    trimRightChars cs = cs.rdropWhile isBlank := by
  induction cs using List.reverseRecOn with
  | nil => rfl
  | append_singleton front c ih => rw [trimRightChars_concat, List.rdropWhile_concat, ih]

theorem getLast?_trimRightChars (cs : List Char) :
    ∀ c ∈ (trimRightChars cs).getLast?, isBlank c = false := by
  intro c hc
  rw [trimRightChars_eq_rdropWhile] at hc
  obtain ⟨hne, rfl⟩ := List.mem_getLast?_eq_getLast hc
  exact Bool.eq_false_iff.2 (List.rdropWhile_last_not isBlank cs hne)

/-- A text without a blank at its end stays as it is. -/
theorem trimRightChars_eq_self (h : ∀ c ∈ cs.getLast?, isBlank c = false) :
    trimRightChars cs = cs := by
  rw [trimRightChars_eq_rdropWhile, List.rdropWhile_eq_self_iff]
  intro hne
  rw [h _ (List.getLast_mem_getLast? hne)]
  exact Bool.false_ne_true

/-- A character that is not blank stays where it is at the start. -/
theorem trimRightChars_cons {c : Char} (hc : isBlank c = false) (rest : List Char) :
    trimRightChars (c :: rest) = c :: trimRightChars rest := by
  rw [trimRightChars]
  cases trimRightChars rest with
  | nil => rw [hc]; rfl
  | cons d kept => rfl

theorem filter_trimRightChars (cs : List Char) :
    (trimRightChars cs).filter (!isBlank ·) = cs.filter (!isBlank ·) := by
  have hdropped : (cs.rtakeWhile isBlank).filter (!isBlank ·) = [] :=
    filter_of_forall_isBlank fun _ => List.mem_rtakeWhile_imp
  calc (trimRightChars cs).filter (!isBlank ·)
      = (cs.rdropWhile isBlank ++ cs.rtakeWhile isBlank).filter (!isBlank ·) := by
        rw [List.filter_append, hdropped, List.append_nil, trimRightChars_eq_rdropWhile]
    _ = cs.filter (!isBlank ·) := by rw [List.rdropWhile_append_rtakeWhile]

/-- Where something stays of the end of a text, all stays in front of it. -/
theorem trimRightChars_append {back : List Char} (h : trimRightChars back ≠ []) (front : List Char) :
    trimRightChars (front ++ back) = front ++ trimRightChars back := by
  induction front with
  | nil => rfl
  | cons c front ih =>
    obtain ⟨d, kept, hkept⟩ :=
      List.exists_cons_of_ne_nil (List.append_ne_nil_of_right_ne_nil front h)
    rw [List.cons_append, trimRightChars, ih, List.cons_append, hkept]

/-- Blanks behind a text are trimmed with those of the text. -/
theorem trimRightChars_append_blanks {blanks : List Char} (h : ∀ c ∈ blanks, isBlank c = true)
    (cs : List Char) : trimRightChars (cs ++ blanks) = trimRightChars cs := by
  rw [trimRightChars_eq_rdropWhile, trimRightChars_eq_rdropWhile, List.rdropWhile,
    List.reverse_append, List.dropWhile_append_of_pos fun c hc => h c (List.mem_reverse.1 hc)]
  rfl

/-! ### The start of a text -/

theorem head?_trimLeftChars (cs : List Char) :
    ∀ c ∈ (trimLeftChars cs).head?, isBlank c = false := by
  intro c hc
  have hfirst := List.head?_dropWhile_not isBlank cs
  rw [trimLeftChars] at hc
  rwa [Option.mem_def.1 hc] at hfirst

theorem trimLeftChars_eq_self (h : ∀ c ∈ cs.head?, isBlank c = false) :
    trimLeftChars cs = cs := by
  cases cs with
  | nil => rfl
  | cons c rest => rw [trimLeftChars, List.dropWhile_cons, h c rfl, if_neg Bool.false_ne_true]

theorem filter_trimLeftChars (cs : List Char) :
    (trimLeftChars cs).filter (!isBlank ·) = cs.filter (!isBlank ·) := by
  have hdropped : (cs.takeWhile isBlank).filter (!isBlank ·) = [] :=
    filter_of_forall_isBlank fun _ => List.mem_takeWhile_imp
  calc (trimLeftChars cs).filter (!isBlank ·)
      = (cs.takeWhile isBlank ++ cs.dropWhile isBlank).filter (!isBlank ·) := by
        rw [List.filter_append, hdropped, List.nil_append, trimLeftChars]
    _ = cs.filter (!isBlank ·) := by rw [List.takeWhile_append_dropWhile]

/-! ### Both ends -/

/-- A text without blanks at its ends. -/
structure IsTrimmed (cs : List Char) : Prop where
  starts : ∀ c ∈ cs.head?, isBlank c = false
  ends : ∀ c ∈ cs.getLast?, isBlank c = false

/-- **What trimming makes**: trimmed texts. -/
theorem isTrimmed_trimChars (cs : List Char) : IsTrimmed (trimChars cs) where
  starts := by
    rw [trimChars]
    cases hleft : trimLeftChars cs with
    | nil => exact nofun
    | cons c rest =>
      have hc : isBlank c = false := head?_trimLeftChars cs c (by rw [hleft]; rfl)
      rw [trimRightChars_cons hc]
      rintro _ ⟨⟩
      exact hc
  ends := getLast?_trimRightChars _

/-- **What trimming leaves**: trimmed texts again. -/
theorem trimChars_eq_self_iff : trimChars cs = cs ↔ IsTrimmed cs := by
  constructor
  · intro h
    rw [← h]
    exact isTrimmed_trimChars cs
  · intro h
    rw [trimChars, trimLeftChars_eq_self h.starts, trimRightChars_eq_self h.ends]

/-- **What trimming keeps**: all but blanks. -/
theorem filter_trimChars (cs : List Char) :
    (trimChars cs).filter (!isBlank ·) = cs.filter (!isBlank ·) := by
  rw [trimChars, filter_trimRightChars, filter_trimLeftChars]

/-- **Blanks around a text** are trimmed with those of the text. -/
theorem trimChars_append_blanks {before behind : List Char}
    (hbefore : ∀ c ∈ before, isBlank c = true) (hbehind : ∀ c ∈ behind, isBlank c = true)
    (cs : List Char) : trimChars (before ++ (cs ++ behind)) = trimChars cs := by
  have hfront : trimLeftChars (before ++ (cs ++ behind)) = trimLeftChars (cs ++ behind) :=
    List.dropWhile_append_of_pos hbefore
  rw [trimChars, trimChars, hfront, trimLeftChars, List.dropWhile_append]
  split
  · next hcs =>
    -- nothing but blanks: the two ends meet
    rw [trimLeftChars, List.isEmpty_iff.1 hcs, List.dropWhile_eq_nil_iff.2 hbehind]
  · exact trimRightChars_append_blanks hbehind _

/-- Trimming the end first makes no difference. -/
theorem trimChars_trimRightChars (cs : List Char) : trimChars (trimRightChars cs) = trimChars cs := by
  have hdropped : ∀ c ∈ cs.rtakeWhile isBlank, isBlank c = true :=
    fun _ => List.mem_rtakeWhile_imp
  calc trimChars (trimRightChars cs)
      = trimChars ([] ++ (cs.rdropWhile isBlank ++ cs.rtakeWhile isBlank)) := by
        rw [trimChars_append_blanks (List.forall_mem_nil _) hdropped, trimRightChars_eq_rdropWhile]
    _ = trimChars cs := by rw [List.nil_append, List.rdropWhile_append_rtakeWhile]

/-- Trimming leaves nothing exactly of the texts of blanks. -/
theorem trimChars_eq_nil_iff : trimChars cs = [] ↔ ∀ c ∈ cs, isBlank c = true := by
  constructor
  · intro h
    have hkept := filter_trimChars cs
    rw [h] at hkept
    simpa using hkept.symm
  · intro h
    have hleft : trimLeftChars cs = [] := List.dropWhile_eq_nil_iff.2 h
    rw [trimChars, hleft, trimRightChars_nil]

end GirTypings.Text
