import Mathlib.Data.List.Chain
import GirTypings.Proofs.OneLine

/-!
# Where a doc comment ends

A comment is closed by the first star that a slash follows, so what is said in it must
never bring the two together.  Characters **never close** a comment if no star in them is
followed by a slash.  That is a condition on neighbours, so it is kept wherever pieces
meet at a character that is neither: at the blanks in front of a line, and at the newlines
between lines.  Guarding takes care of the lines themselves, and trimming only shortens
them.

* `neverCloses_guardChars`: a guarded text never closes a comment;
* `neverCloses_joinLines`: nor do lines that do not, joined;
* `docBlock_closed_at_its_end_only`: a comment is closed where it is meant to be.
-/

namespace GirTypings.Declaration

open Text

/-! ### Stars and slashes -/

/-- Whether no star in a text is followed by a slash. -/
def NeverCloses (cs : List Char) : Prop :=
  cs.IsChain fun c d => ¬ (c = '*' ∧ d = '/')

instance (cs : List Char) : Decidable (NeverCloses cs) :=
  inferInstanceAs (Decidable (cs.IsChain fun c d => ¬ (c = '*' ∧ d = '/')))

namespace NeverCloses

variable {cs ds : List Char} {c : Char}

theorem cons_iff : NeverCloses (c :: cs) ↔ (c = '*' → cs.head? ≠ some '/') ∧ NeverCloses cs := by
  refine List.isChain_cons.trans (and_congr_left fun _ => ⟨?_, ?_⟩)
  · exact fun h hc hhead => h '/' hhead ⟨hc, rfl⟩
  · exact fun h d hd hclose => h hclose.1 (hclose.2 ▸ hd)

/-- What a comment may hold it may hold behind anything but a star. -/
theorem cons (hc : c ≠ '*') (h : NeverCloses cs) : NeverCloses (c :: cs) :=
  cons_iff.2 ⟨fun hstar => absurd hstar hc, h⟩

theorem of_isPrefix (h : NeverCloses cs) (hstart : ds <+: cs) : NeverCloses ds := by
  obtain ⟨rest, rfl⟩ := hstart
  exact (List.isChain_append.1 h).1

/-- Two texts may meet at a character that is neither a star nor a slash. -/
theorem append_cons (h : NeverCloses cs) (hstar : c ≠ '*') (hslash : c ≠ '/')
    (h' : NeverCloses ds) : NeverCloses (cs ++ c :: ds) := by
  refine List.isChain_append.2 ⟨h, h'.cons hstar, fun _ _ d hd hclose => ?_⟩
  obtain rfl : c = d := Option.some.inj hd
  exact hslash hclose.2

/-- **The only end.**  If a text never closes a comment, then a star and a slash put behind
it are the only ones in the whole, wherever one looks. -/
theorem close_iff (h : NeverCloses cs) (i : Nat) :
    ['*', '/'] <+: (cs ++ ['*', '/']).drop i ↔ i = cs.length := by
  induction cs generalizing i with
  | nil =>
    cases i with
    | zero => simp
    | succ i =>
      cases i with
      | zero => simp
      | succ i => simp
  | cons c rest ih =>
    obtain ⟨hnext, hrest⟩ := cons_iff.1 h
    cases i with
    | succ i => simpa using ih hrest i
    | zero =>
      -- the slash would be the next character, or the star put behind
      simp only [List.drop_zero, List.cons_append, List.cons_prefix_cons, List.length_cons]
      refine iff_of_false ?_ (by omega)
      rintro ⟨rfl, hslash⟩
      cases rest with
      | nil => simp at hslash
      | cons d rest =>
        obtain ⟨rfl, -⟩ := List.cons_prefix_cons.1 hslash
        exact hnext rfl rfl

end NeverCloses

/-! ### Lines of a comment -/

theorem head?_guardChars (cs : List Char) : (guardChars cs).head? = cs.head? := by
  fun_cases guardChars cs with
  | case1 => rfl
  | case2 => rfl
  | case3 => rfl

/-- **A guarded text never closes a comment.** -/
theorem neverCloses_guardChars (cs : List Char) : NeverCloses (guardChars cs) := by
  fun_induction guardChars cs with
  | case1 => decide
  | case2 rest ih =>
    -- the backslash stands between the two
    refine NeverCloses.cons_iff.2 ⟨fun _ => ?_, ?_⟩
    · exact (by decide : some '\\' ≠ some '/')
    · exact NeverCloses.cons (by decide) (NeverCloses.cons (by decide) ih)
  | case3 c rest hguard ih =>
    refine NeverCloses.cons_iff.2 ⟨fun hstar hslash => ?_, ih⟩
    -- a slash that follows was there before, and the star would have been guarded
    rw [head?_guardChars] at hslash
    obtain ⟨more, rfl⟩ := List.head?_eq_some_iff.1 hslash
    exact hguard more hstar rfl

theorem neverCloses_commentLine (line : String) : NeverCloses (commentLine line).toList := by
  have hwhole : NeverCloses (' ' :: '*' :: ' ' :: guardChars line.toList) := by
    refine .cons (by decide) (NeverCloses.cons_iff.2 ⟨fun _ => ?_, ?_⟩)
    · exact (by decide : some ' ' ≠ some '/')
    · exact NeverCloses.cons (by decide) (neverCloses_guardChars _)
  rw [commentLine, String.toList_ofList]
  exact hwhole.of_isPrefix (isPrefix_trimRightChars _)

theorem neverCloses_margin_append (n : Nat) {t : String} (h : NeverCloses t.toList) :
    NeverCloses (margin n ++ t).toList := by
  induction n with
  | zero => rwa [margin, String.empty_append]
  | succ n ih =>
    rw [margin, String.append_assoc, String.toList_append]
    exact .cons (by decide) (.cons (by decide) (.cons (by decide) (.cons (by decide) ih)))

theorem neverCloses_indentLine (depth : Int) {line : String} (h : NeverCloses line.toList) :
    NeverCloses (indentLine depth line).toList := by
  rw [indentLine]
  split
  · exact h
  · exact neverCloses_margin_append _ h

/-- Lines that never close a comment do not close it together. -/
theorem neverCloses_joinLines {lines : List String} (h : ∀ l ∈ lines, NeverCloses l.toList) :
    NeverCloses (joinLines lines).toList := by
  induction lines with
  | nil => decide
  | cons l rest ih =>
    obtain ⟨hl, hrest⟩ := List.forall_mem_cons.1 h
    by_cases hnil : rest = []
    · subst hnil
      exact hl
    · rw [toList_joinLines_cons l hnil]
      exact hl.append_cons (by decide) (by decide) (ih hrest)

/-! ### Comments -/

/-- The text of the comment that says some lines, at a depth. -/
def commentText (depth : Int) (remarks : List String) : String :=
  joinLines (indent depth (docBlock remarks))

/-- The lines that a comment says, set in. -/
def commentBody (depth : Int) (remarks : List String) : List String :=
  indent depth (remarks.map commentLine)

/-- The line that opens a comment, the lines it says, and the line that closes it. -/
theorem commentText_eq (depth : Int) (remarks : List String) :
    commentText depth remarks =
      joinLines ((margin depth.toNat ++ "/**") :: commentBody depth remarks) ++
        ("\n" ++ (margin depth.toNat ++ " */")) := by
  have hopen : indentLine depth "/**" = margin depth.toNat ++ "/**" := if_neg (by decide)
  have hclose : indentLine depth " */" = margin depth.toNat ++ " */" := if_neg (by decide)
  rw [joinLines, ← joinWith_concat _ _ (List.cons_ne_nil _ _), commentText, docBlock, indent,
    List.map_cons, List.map_append, List.map_singleton, hopen, hclose]
  rfl

/-- Nothing in front of the line that closes a comment closes it. -/
theorem neverCloses_front (depth : Int) (remarks : List String) :
    NeverCloses
      (joinLines ((margin depth.toNat ++ "/**") :: commentBody depth remarks)).toList := by
  refine neverCloses_joinLines (List.forall_mem_cons.2 ⟨?_, fun l hl => ?_⟩)
  · exact neverCloses_margin_append _ (by decide)
  · obtain ⟨inner, hinner, rfl⟩ := List.mem_map.1 hl
    obtain ⟨remark, -, rfl⟩ := List.mem_map.1 hinner
    exact neverCloses_indentLine depth (neverCloses_commentLine remark)

/-- A newline follows what opens a comment. -/
theorem exists_commentText_eq (depth : Int) (remarks : List String) :
    ∃ rest, commentText depth remarks = margin depth.toNat ++ ("/**\n" ++ rest) := by
  rw [commentText_eq]
  by_cases hnil : commentBody depth remarks = []
  · -- nothing is said, and the line that closes the comment comes next
    rw [hnil]
    refine ⟨margin depth.toNat ++ " */", ?_⟩
    rw [joinLines, joinWith_singleton, show "/**\n" = "/**" ++ "\n" from rfl]
    simp only [String.append_assoc]
  · rw [joinLines, joinWith_cons _ _ hnil]
    refine ⟨joinWith "\n" (commentBody depth remarks) ++ ("\n" ++ (margin depth.toNat ++ " */")), ?_⟩
    rw [show "/**\n" = "/**" ++ "\n" from rfl]
    simp only [String.append_assoc]

/-- **A comment is closed at its end and nowhere else**, whatever it says and at whatever
depth it stands.  Behind its margin it starts with `/**` and a newline, and a star is
followed by a slash at exactly one place: where two characters are left. -/
theorem docBlock_closed_at_its_end_only (depth : Int) (remarks : List String) :
    (∃ rest, joinLines (indent depth (docBlock remarks)) =
      margin depth.toNat ++ ("/**\n" ++ rest)) ∧
    ∀ i, "*/".toList <+: (joinLines (indent depth (docBlock remarks))).toList.drop i ↔
      i + 2 = (joinLines (indent depth (docBlock remarks))).length := by
  refine ⟨exists_commentText_eq depth remarks, fun i => ?_⟩
  -- all that stands in front of the last two characters
  have hfront := (neverCloses_front depth remarks).append_cons (c := '\n') (by decide) (by decide)
    (neverCloses_margin_append depth.toNat (t := " ") (by decide))
  have htext : (joinLines (indent depth (docBlock remarks))).toList =
      ((joinLines ((margin depth.toNat ++ "/**") :: commentBody depth remarks)).toList ++
        '\n' :: (margin depth.toNat ++ " ").toList) ++ ['*', '/'] := by
    have h := congrArg String.toList (commentText_eq depth remarks)
    rw [commentText] at h
    rw [h]
    simp
  have hlength := congrArg List.length htext
  rw [String.length_toList, List.length_append] at hlength
  rw [htext, hlength]
  exact (hfront.close_iff i).trans (by simp)

end GirTypings.Declaration
