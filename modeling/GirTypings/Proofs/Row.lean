import GirTypings.Proofs.Paragraph

/-!
# Rows

The **rows** of a text stand before, between and after its line feeds.  Lines that are
written with a line feed between neighbours are read back as rows, and the rows of blocks
with empty lines between them are those of the blocks, and empty rows.

* `rows_joinLines`: lines come back as they were;
* `rows_append_newline`: a line feed separates the rows of what it stands between;
* `exists_rows_cons_blocks`, `mem_rows_blocks`: the rows of a list of blocks.
-/

namespace GirTypings.Text

/-- What stands before, between and after the line feeds of a text. -/
def rows (t : String) : List String :=
  (cutAt (· == '\n') t.toList).map .ofList

theorem growFirst_append {c : Char} {ps : List (List Char)} (h : ps ≠ [])
    (qs : List (List Char)) : growFirst c (ps ++ qs) = growFirst c ps ++ qs := by
  obtain ⟨p, rest, rfl⟩ := List.exists_cons_of_ne_nil h
  rfl

theorem cutAt_ne_nil (isCut : Char → Bool) (cs : List Char) : cutAt isCut cs ≠ [] := by
  cases cs with
  | nil => exact List.cons_ne_nil _ _
  | cons c rest =>
    rw [cutAt]
    split
    · exact List.cons_ne_nil _ _
    · exact growFirst_ne_nil c _

/-- A cut separates the pieces of what it stands between. -/
theorem cutAt_append_cons {isCut : Char → Bool} {c : Char} (hc : isCut c = true)
    (cs ds : List Char) : cutAt isCut (cs ++ c :: ds) = cutAt isCut cs ++ cutAt isCut ds := by
  induction cs with
  | nil =>
    rw [List.nil_append, cutAt_nil, cutAt, if_pos hc]
    rfl
  | cons d rest ih =>
    rw [List.cons_append, cutAt, cutAt, ih]
    split
    · rfl
    · exact growFirst_append (cutAt_ne_nil isCut rest) _

/-- What holds no cut is one piece. -/
theorem cutAt_of_forall_not {isCut : Char → Bool} {cs : List Char}
    (h : ∀ c ∈ cs, isCut c = false) : cutAt isCut cs = [cs] := by
  induction cs with
  | nil => rfl
  | cons c rest ih =>
    obtain ⟨hc, hrest⟩ := List.forall_mem_cons.1 h
    rw [cutAt, hc, ih hrest]
    rfl

theorem cutAt_of_not_mem {c : Char} {cs : List Char} (h : c ∉ cs) : cutAt (· == c) cs = [cs] :=
  cutAt_of_forall_not fun _ hd => beq_false_of_ne fun heq => h (heq ▸ hd)

theorem rows_append_newline (t u : String) : rows (t ++ ("\n" ++ u)) = rows t ++ rows u := by
  have hcut : (t ++ ("\n" ++ u)).toList = t.toList ++ '\n' :: u.toList := by
    rw [String.toList_append, String.toList_append]
    rfl
  rw [rows, hcut, cutAt_append_cons rfl, List.map_append]
  rfl

theorem rows_of_oneLine {t : String} (h : OneLine t) : rows t = [t] := by
  rw [rows, cutAt_of_not_mem h, List.map_singleton, String.ofList_toList]

/-- **Lines come back as they were.** -/
theorem rows_joinLines {lines : List String} (hne : lines ≠ []) (h : ∀ l ∈ lines, OneLine l) :
    rows (joinLines lines) = lines := by
  induction lines with
  | nil => exact absurd rfl hne
  | cons l rest ih =>
    obtain ⟨hl, hrest⟩ := List.forall_mem_cons.1 h
    by_cases hnil : rest = []
    · subst hnil
      exact rows_of_oneLine hl
    · rw [joinLines, joinWith_cons _ _ hnil, rows_append_newline, rows_of_oneLine hl]
      exact congrArg (l :: ·) (ih hnil hrest)

/-! ### Blocks -/

/-- The rows of blocks begin with those of the first, and an empty row follows. -/
theorem rows_cons_blocks (b : String) (rest : List String) :
    rows (joinWith "\n\n" (b :: rest) ++ "\n") =
      rows b ++ "" :: if rest = [] then [] else rows (joinWith "\n\n" rest ++ "\n") := by
  have hempty : rows "" = [""] := rfl
  split
  · next hnil =>
    rw [hnil, joinWith_singleton, ← hempty, ← rows_append_newline, String.append_empty]
  · next hne =>
    have hgap : "\n\n" ++ joinWith "\n\n" rest =
        "\n" ++ ("" ++ ("\n" ++ joinWith "\n\n" rest)) := by
      rw [String.empty_append, ← String.append_assoc]
      rfl
    rw [joinWith_cons _ _ hne, hgap]
    simp only [String.append_assoc]
    rw [rows_append_newline, rows_append_newline, hempty]
    rfl

/-- A row of blocks is empty, or a row of one of them. -/
theorem mem_rows_blocks {blocks : List String} {row : String}
    (h : row ∈ rows (joinWith "\n\n" blocks ++ "\n")) : row = "" ∨ ∃ b ∈ blocks, row ∈ rows b := by
  induction blocks with
  | nil =>
    left
    simpa using (show row ∈ ["", ""] from h)
  | cons b rest ih =>
    rw [rows_cons_blocks, List.mem_append, List.mem_cons] at h
    rcases h with h | h | h
    · exact .inr ⟨b, List.mem_cons_self .., h⟩
    · exact .inl h
    · split at h
      · cases h
      · exact (ih h).imp_right fun ⟨c, hc, hrow⟩ => ⟨c, List.mem_cons_of_mem b hc, hrow⟩

end GirTypings.Text
