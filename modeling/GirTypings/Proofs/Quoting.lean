import GirTypings.Proofs.EnumerationMember

/-!
# Where a quoted value ends

A value in single quotes ends at the first quote that no backslash takes as a character.  A
reader that goes from left to right and takes a backslash together with the character behind
it gets back what was written, and stops at the quote that was put behind it, whatever
follows.  The marks in the value itself have a backslash in front, and the backslashes that
stood in the value already are doubled, so that none of them takes the closing quote.

* `readQuotedChars_escapeChars`: a value comes back as it was, with anything behind it;
* `escapeChars_eq_flatMap`: the backslashes are doubled before the quotes get theirs;
* `exists_text_enumeration`, `declaration_of_quoted`: the places where values are quoted;
* `escape_read_back`: the values of all members and constants end where they should.
-/

namespace GirTypings

open Declaration Text

namespace Declaration

/-! ### Reading -/

/-- Reads characters up to the first quote that stands for itself.  A backslash is read
together with the character behind it, as that character.  What comes after the quote is
left; `none` if there is no such quote. -/
def readQuotedChars : List Char → Option (List Char × List Char)
  | [] => none
  | '\'' :: rest => some ([], rest)
  | '\\' :: c :: rest => (readQuotedChars rest).map fun (value, after) => (c :: value, after)
  | c :: rest => (readQuotedChars rest).map fun (value, after) => (c :: value, after)

/-- What is read of a text behind an opening quote, and what comes after the closing one. -/
def readQuoted? (t : String) : Option (String × String) :=
  (readQuotedChars t.toList).map fun (value, after) => (.ofList value, .ofList after)

theorem readQuotedChars_of_ne {c : Char} (hquote : c ≠ '\'') (hback : c ≠ '\\')
    (rest : List Char) : readQuotedChars (c :: rest) =
      (readQuotedChars rest).map fun (value, after) => (c :: value, after) := by
  rw [readQuotedChars]
  · rintro ⟨⟩
    exact hquote rfl
  · rintro _ _ ⟨⟩
    exact absurd rfl hback

/-- **A value comes back as it was**, and what is left begins behind the closing quote. -/
theorem readQuotedChars_escapeChars (value rest : List Char) :
    readQuotedChars (escapeChars value ++ '\'' :: rest) = some (value, rest) := by
  fun_induction escapeChars value with
  | case1 => rfl
  | case2 c more hmark ih => rw [List.cons_append, List.cons_append, readQuotedChars, ih]; rfl
  | case3 c more hmark ih =>
    rw [Bool.or_eq_true, decide_eq_true_eq, decide_eq_true_eq, not_or] at hmark
    rw [List.cons_append, readQuotedChars_of_ne hmark.2 hmark.1, ih]
    rfl

theorem readQuoted?_escape (value rest : String) :
    readQuoted? (escape value ++ ("'" ++ rest)) = some (value, rest) := by
  have hchars : (escape value ++ ("'" ++ rest)).toList =
      escapeChars value.toList ++ '\'' :: rest.toList := by
    rw [String.toList_append, String.toList_append, escape, String.toList_ofList]
    rfl
  rw [readQuoted?, hchars, readQuotedChars_escapeChars]
  exact congrArg some (Prod.ext String.ofList_toList String.ofList_toList)

/-- Values that are written alike are equal. -/
theorem escape_injective : Function.Injective escape := by
  intro value value' h
  have hread := readQuoted?_escape value ""
  rw [h, readQuoted?_escape] at hread
  exact congrArg Prod.fst (Option.some.inj hread.symm)

/-! ### The order of the two replacements -/

/-- A character, with a backslash in front if it is the given mark. -/
def marked (mark c : Char) : List Char :=
  if c = mark then ['\\', c] else [c]

/-- A value is written as if its backslashes were doubled first, and the quotes got theirs
after that.  The other way round the new backslashes would be doubled too. -/
theorem escapeChars_eq_flatMap (cs : List Char) :
    escapeChars cs = (cs.flatMap (marked '\\')).flatMap (marked '\'') := by
  induction cs with
  | nil => rfl
  | cons c rest ih =>
    rw [escapeChars, List.flatMap_cons, List.flatMap_append, ← ih]
    by_cases hback : c = '\\'
    · subst hback
      rfl
    by_cases hquote : c = '\''
    · subst hquote
      rfl
    · simp [marked, hback, hquote]

/-! ### Values in declarations -/

/-- A line in front of others ends where it ends. -/
theorem exists_joinLines_eq (front : List String) (line : String) {back : List String}
    (hback : back ≠ []) :
    ∃ before, joinLines (front ++ line :: back) = before ++ (line ++ ("\n" ++ joinLines back)) := by
  induction front with
  | nil =>
    refine ⟨"", ?_⟩
    rw [List.nil_append, String.empty_append]
    exact joinWith_cons "\n" line hback
  | cons first front ih =>
    obtain ⟨before, hbefore⟩ := ih
    refine ⟨first ++ ("\n" ++ before), ?_⟩
    have hmore : front ++ line :: back ≠ [] := by simp
    rw [joinLines] at hbefore
    rw [List.cons_append, joinLines, joinWith_cons _ _ hmore, hbefore]
    simp only [String.append_assoc]

theorem memberLine_append_newline (identifier value rest : String) :
    Enumeration.memberLine identifier value ++ ("\n" ++ rest) =
      "    " ++ identifier ++ " = '" ++ (escape value ++ ("'" ++ (",\n" ++ rest))) := by
  have hcomma : ",\n" ++ rest = "," ++ ("\n" ++ rest) := by
    rw [← String.append_assoc]
    rfl
  have hquote : ∀ t, "'," ++ t = "'" ++ ("," ++ t) := by
    intro t
    rw [← String.append_assoc]
    rfl
  rw [Enumeration.memberLine, hcomma, ← hquote]
  simp only [String.append_assoc]

/-- Where the value of a member stands in the text of an enumeration. -/
theorem exists_text_enumeration (documented : Bool) {en : Enumeration} {identifier value : String}
    (h : (identifier, value) ∈ en.declaredMembers) :
    ∃ before after, en.layout.text documented =
      before ++ ("    " ++ identifier ++ " = '" ++
        (escape value ++ ("'" ++ (",\n" ++ after)))) := by
  obtain ⟨first, last, hsplit⟩ := List.append_of_mem h
  let line : String × String → String := fun m => Enumeration.memberLine m.1 m.2
  have hlast : last.map line ++ ["\x7d"] ≠ [] := by simp
  obtain ⟨before, htext⟩ := exists_joinLines_eq
    ((Layout.comment 0 (docLines en.docstring)).lines documented ++ en.header :: first.map line)
    (line (identifier, value)) hlast
  refine ⟨before, joinLines (last.map line ++ ["\x7d"]), ?_⟩
  rw [← memberLine_append_newline, text_enumeration, hsplit, List.map_append, List.map_cons,
    List.append_assoc]
  rw [List.append_assoc] at htext
  exact htext

/-- A value is written as it is or in quotes. -/
theorem literal_eq_or (type value : String) :
    literal type (some value) = value ∨
      literal type (some value) = "'" ++ escape value ++ "'" := by
  rw [literal]
  split
  · exact .inl rfl
  split
  · exact .inl rfl
  · exact .inr rfl

/-- Where the value of a quoted constant stands in its declaration. -/
theorem declaration_of_quoted (name : String) {type value : String}
    (h : literal type (some value) ≠ value) :
    (Constant.mk name (some value) type).declaration =
      "export const " ++ name ++ " = '" ++ (escape value ++ ("'" ++ ";")) := by
  show "export const " ++ name ++ " = " ++ literal type (some value) ++ ";" = _
  rw [(literal_eq_or type value).resolve_left h, show " = '" = " = " ++ "'" from rfl]
  simp only [String.append_assoc]

end Declaration

/-- **A quoted value ends where it should.**  What is written of a value and a closing quote
is read back as that value, up to that quote, whatever follows; so values that differ are
written differently.  In the text of an enumeration the value of each member that is declared
is read back from behind its opening quote, up to the comma that ends its line, and in the
declaration of a quoted constant up to the semicolon that ends it. -/
theorem escape_read_back :
    (∀ value rest : String, readQuoted? (escape value ++ ("'" ++ rest)) = some (value, rest)) ∧
    Function.Injective escape ∧
    (∀ cs, escapeChars cs = (cs.flatMap (marked '\\')).flatMap (marked '\'')) ∧
    (∀ (documented : Bool) (en : Enumeration), ∀ m ∈ en.declaredMembers, ∃ before quoted after,
      en.layout.text documented = before ++ ("    " ++ m.1 ++ " = '" ++ quoted) ∧
      readQuoted? quoted = some (m.2, ",\n" ++ after)) ∧
    ∀ name type value : String, literal type (some value) ≠ value → ∃ quoted,
      (Constant.mk name (some value) type).declaration =
        "export const " ++ name ++ " = '" ++ quoted ∧
      readQuoted? quoted = some (value, ";") := by
  refine ⟨readQuoted?_escape, escape_injective, escapeChars_eq_flatMap, ?_, ?_⟩
  · rintro documented en ⟨identifier, value⟩ hm
    obtain ⟨before, after, htext⟩ := exists_text_enumeration documented hm
    exact ⟨before, _, after, htext, readQuoted?_escape value _⟩
  · intro name type value hquoted
    exact ⟨_, declaration_of_quoted name hquoted, readQuoted?_escape value ";"⟩

/-- An enumeration with both marks in the value of a member. -/
def shares : Enumeration :=
  ⟨"Place", "", [("share", "\\'")]⟩

/-- A constant whose value ends in a backslash, and a member whose value has both marks. -/
theorem escape_read_back_of_shares :
    literal "string" (some "C:\\") ≠ "C:\\" ∧ ("SHARE", "\\'") ∈ shares.declaredMembers ∧
    (∃ quoted, (Constant.mk "ROOT" (some "C:\\") "string").declaration =
        "export const ROOT = '" ++ quoted ∧ readQuoted? quoted = some ("C:\\", ";")) ∧
    ∃ before quoted after,
      shares.layout.text true = before ++ ("    SHARE = '" ++ quoted) ∧
      readQuoted? quoted = some ("\\'", ",\n" ++ after) := by
  obtain ⟨-, -, -, hmember, hconstant⟩ := escape_read_back
  have hquoted : literal "string" (some "C:\\") ≠ "C:\\" := by decide +kernel
  have hdeclared : ("SHARE", "\\'") ∈ shares.declaredMembers := by decide +kernel
  obtain ⟨quoted, htext, hread⟩ := hconstant "ROOT" "string" "C:\\" hquoted
  obtain ⟨before, quoted', after, htext', hread'⟩ := hmember true shares _ hdeclared
  exact ⟨hquoted, hdeclared, ⟨quoted, htext, hread⟩, before, quoted', after, htext', hread'⟩

end GirTypings
