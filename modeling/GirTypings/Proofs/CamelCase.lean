import Mathlib
import GirTypings.Proofs.LegalName

/-!
# Letters and digits in camel case

A name is put into camel case by way of its words, which are cut from its end.  What comes
out can be said character by character, from the start: `pascalFrom` goes through the name
once and remembers only the character before, since a letter that does not join the one
before it is a capital.  Camel case is that with a small first letter.

* `pascalFrom_eq_words`: the words of a name, capitalized, are what the one pass gives;
* `camelChars_eq`: camel case by the one pass;
* `map_toLower_camelChars`: no letter or digit is lost, added or moved;
* `getElem?_camelChars`: where each letter and digit is found, and how it is written;
* `camelCase_keeps_letters_and_digits`: all of this for texts.
-/

namespace GirTypings.Naming

open Text

/-! ### Letters and digits -/

theorem not_isDigit_of_isAlpha {c : Char} (h : c.isAlpha = true) : c.isDigit = false :=
  not_isDigit_of_isIdentifierStart (by rw [isIdentifierStart, h]; rfl)

theorem not_isUpper_of_isDigit {c : Char} (h : c.isDigit = true) : ¬ c.isUpper = true := by
  intro hupper
  have halpha : c.isAlpha = true := by rw [Char.isAlpha, hupper]; rfl
  rw [not_isDigit_of_isAlpha halpha] at h
  cases h

theorem isAlphanum_toLower (c : Char) : c.toLower.isAlphanum = c.isAlphanum := by
  by_cases h : c.isUpper = true
  · have halpha : c.isAlpha = true := by rw [Char.isAlpha, h]; rfl
    rw [Char.isAlphanum, Char.isAlphanum, Char.isAlpha_toLower_eq_isAlpha, halpha]
    rfl
  · rw [Char.toLower_eq_of_not_isUpper h]

theorem joins_cons {before c : Char} {rest : List Char} :
    joins before (c :: rest) = true ↔
      before.isAlpha = true ∧ c.isLower = true ∨ before.isDigit = true ∧ c.isDigit = true := by
  rw [joins, Bool.or_eq_true, Bool.and_eq_true, Bool.and_eq_true]

/-- Nothing joins a character that is no letter or digit. -/
theorem isAlphanum_before_of_joins {before : Char} {rest : List Char}
    (h : joins before rest = true) : before.isAlphanum = true := by
  cases rest with
  | nil => cases h
  | cons c rest =>
    rw [Char.isAlphanum, Bool.or_eq_true]
    exact (joins_cons.1 h).imp And.left And.left

/-- In particular nothing joins a blank. -/
theorem not_joins_blank (rest : List Char) : ¬ joins ' ' rest = true := fun h =>
  absurd (isAlphanum_before_of_joins h) (by decide)

/-- Nothing but letters and digits joins the character before it. -/
theorem isAlphanum_of_joins {before c : Char} {rest : List Char}
    (h : joins before (c :: rest) = true) : c.isAlphanum = true := by
  rw [Char.isAlphanum, Char.isAlpha, Bool.or_eq_true, Bool.or_eq_true]
  exact (joins_cons.1 h).imp (fun hletters => .inr hletters.2) And.right

/-- What joins the character before it is no capital. -/
theorem toLower_of_joins {before c : Char} {rest : List Char}
    (h : joins before (c :: rest) = true) : c.toLower = c := by
  refine Char.toLower_eq_of_not_isUpper ?_
  rcases joins_cons.1 h with ⟨-, hlower⟩ | ⟨-, hdigit⟩
  · exact Char.not_isUpper_of_isLower hlower
  · exact not_isUpper_of_isDigit hdigit

/-! ### One pass over the name -/

/-- The letters and digits of a name after a character, with capitals where words begin. -/
def pascalFrom (before : Char) : List Char → List Char
  | [] => []
  | c :: rest =>
    if !c.isAlphanum then pascalFrom c rest
    else (if joins before (c :: rest) then c else c.toUpper) :: pascalFrom c rest

theorem pascalFrom_skip {c : Char} (h : c.isAlphanum = false) (before : Char) (rest : List Char) :
    pascalFrom before (c :: rest) = pascalFrom c rest := by
  rw [pascalFrom, h]
  rfl

theorem pascalFrom_keep {c : Char} (h : c.isAlphanum = true) (before : Char) (rest : List Char) :
    pascalFrom before (c :: rest) =
      (if joins before (c :: rest) then c else c.toUpper) :: pascalFrom c rest := by
  rw [pascalFrom, h]
  rfl

theorem pascalFrom_append (before : Char) (front back : List Char) :
    pascalFrom before (front ++ back) =
      pascalFrom before front ++ pascalFrom (front.getLastD before) back := by
  induction front generalizing before with
  | nil => rfl
  | cons c rest ih =>
    rw [List.cons_append, List.getLastD_cons]
    cases h : c.isAlphanum with
    | false => rw [pascalFrom_skip h, pascalFrom_skip h, ih]
    | true =>
      rw [pascalFrom_keep h, pascalFrom_keep h, ih]
      rfl

/-- Up to case the pass keeps the letters and digits of a name, and nothing else. -/
theorem map_toLower_pascalFrom (before : Char) (name : List Char) :
    (pascalFrom before name).map Char.toLower =
      (name.filter Char.isAlphanum).map Char.toLower := by
  induction name generalizing before with
  | nil => rfl
  | cons c rest ih =>
    cases h : c.isAlphanum with
    | false => rw [pascalFrom_skip h, List.filter_cons_of_neg (by simp [h]), ih]
    | true =>
      rw [pascalFrom_keep h, List.filter_cons_of_pos h, List.map_cons, List.map_cons, ih]
      split
      · rfl
      · rw [Char.toLower_toUpper_eq_toLower]

theorem length_pascalFrom (before : Char) (name : List Char) :
    (pascalFrom before name).length = (name.filter Char.isAlphanum).length := by
  have hlength := congrArg List.length (map_toLower_pascalFrom before name)
  rwa [List.length_map, List.length_map] at hlength

/-! ### The words of a name, one after the other -/

/-- Words one after the other, the first small and the others with a capital. -/
def joinCamel : List (List Char) → List Char
  | [] => []
  | head :: tail => head.map Char.toLower ++ tail.flatMap capitalize

theorem joinCamel_growFirst (c : Char) (words : List (List Char)) :
    joinCamel (growFirst c words) = c.toLower :: joinCamel words := by
  cases words <;> rfl

theorem flatMap_capitalize_growFirst (c : Char) (words : List (List Char)) :
    (growFirst c words).flatMap capitalize = c.toUpper :: joinCamel words := by
  cases words <;> rfl

/-- **One pass over a name writes its words**, by induction on the name: each with a capital,
or the first small if it joins the character before. -/
theorem pascalFrom_eq_words (before : Char) (name : List Char) :
    pascalFrom before name =
      if joins before name then joinCamel (nameWords name)
      else (nameWords name).flatMap capitalize := by
  induction name generalizing before with
  | nil => rfl
  | cons c rest ih =>
    by_cases hc : c.isAlphanum = true
    · -- the character begins a word of its own, or grows the word that joins it
      have hwords : nameWords (c :: rest) =
          if joins c rest then growFirst c (nameWords rest) else [c] :: nameWords rest := by
        rw [nameWords, hc]
        rfl
      rw [pascalFrom_keep hc, ih, hwords]
      by_cases hnext : joins c rest = true
      · rw [if_pos hnext, if_pos hnext, joinCamel_growFirst, flatMap_capitalize_growFirst]
        split
        · next hjoins => rw [toLower_of_joins hjoins]
        · rfl
      · rw [if_neg hnext, if_neg hnext]
        split
        · next hjoins =>
          rw [joinCamel, List.map_singleton, toLower_of_joins hjoins]
          rfl
        · rfl
    · -- what is left out joins nothing, and nothing joins it
      have hskip : c.isAlphanum = false := Bool.eq_false_iff.2 hc
      have hwords : nameWords (c :: rest) = nameWords rest := by
        rw [nameWords, hskip]
        rfl
      have hjoins : ¬ joins before (c :: rest) = true := fun h => hc (isAlphanum_of_joins h)
      have hnext : ¬ joins c rest = true := fun h => hc (isAlphanum_before_of_joins h)
      rw [pascalFrom_skip hskip, ih, hwords, if_neg hjoins, if_neg hnext]

/-- No word is empty. -/
theorem ne_nil_of_mem_nameWords (name : List Char) : ∀ w ∈ nameWords name, w ≠ [] := by
  fun_induction nameWords name with
  | case1 => simp
  | case2 c rest _ ih => exact ih
  | case3 c rest _ _ ih =>
    cases hwords : nameWords rest with
    | nil => simp [growFirst]
    | cons w ws =>
      rw [hwords] at ih
      exact List.forall_mem_cons.2 ⟨List.cons_ne_nil _ _, (List.forall_mem_cons.1 ih).2⟩
  | case4 c rest _ _ ih => exact List.forall_mem_cons.2 ⟨List.cons_ne_nil _ _, ih⟩

/-! ### Camel case -/

/-- **Camel case by the one pass**: its first letter small, or the name itself if the pass
finds nothing. -/
theorem camelChars_eq (name : List Char) :
    camelChars name =
      match pascalFrom ' ' name with
      | [] => name
      | first :: rest => first.toLower :: rest := by
  have hpass : pascalFrom ' ' name = (nameWords name).flatMap capitalize := by
    -- the first word has its capital too
    rw [pascalFrom_eq_words, if_neg (not_joins_blank name)]
  rw [hpass, camelChars]
  cases hwords : nameWords name with
  | nil => rfl
  | cons head tail =>
    obtain ⟨hhead, -⟩ := List.forall_mem_cons.1 (hwords ▸ ne_nil_of_mem_nameWords name)
    obtain ⟨c, cs, rfl⟩ := List.exists_cons_of_ne_nil hhead
    simp [capitalize]

theorem exists_pascalFrom_eq_cons {name : List Char} (h : name.filter Char.isAlphanum ≠ [])
    (before : Char) : ∃ first rest, pascalFrom before name = first :: rest := by
  refine List.exists_cons_of_length_pos ?_
  rw [length_pascalFrom]
  exact List.length_pos_of_ne_nil h

/-- A name with a letter or a digit loses none, gets none and keeps their order. -/
theorem map_toLower_camelChars {name : List Char} (h : name.filter Char.isAlphanum ≠ []) :
    (camelChars name).map Char.toLower = (name.filter Char.isAlphanum).map Char.toLower := by
  obtain ⟨first, rest, hpass⟩ := exists_pascalFrom_eq_cons h ' '
  rw [← map_toLower_pascalFrom ' ', camelChars_eq, hpass]
  simp

/-- In camel case nothing is left but letters and digits. -/
theorem isAlphanum_of_mem_camelChars {name : List Char} (h : name.filter Char.isAlphanum ≠ [])
    {c : Char} (hc : c ∈ camelChars name) : c.isAlphanum = true := by
  have hlower : c.toLower ∈ (name.filter Char.isAlphanum).map Char.toLower := by
    rw [← map_toLower_camelChars h]
    exact List.mem_map_of_mem hc
  obtain ⟨d, hd, heq⟩ := List.mem_map.1 hlower
  rw [← isAlphanum_toLower, ← heq, isAlphanum_toLower]
  exact List.of_mem_filter hd

/-- **Where a letter or a digit is found**, and how it is written: behind as many characters
as there are letters and digits in front of it, and as it is only if it joins the character
before it. -/
theorem getElem?_camelChars {front back : List Char} {c : Char} (hc : c.isAlphanum = true)
    (hfront : front.filter Char.isAlphanum ≠ []) :
    (camelChars (front ++ c :: back))[(front.filter Char.isAlphanum).length]? =
      some (if joins (front.getLastD ' ') (c :: back) then c else c.toUpper) := by
  -- the first character is one of those in front, so the one that is looked for is not changed
  obtain ⟨first, rest, hpass⟩ := exists_pascalFrom_eq_cons hfront ' '
  have hlength : (front.filter Char.isAlphanum).length = rest.length + 1 := by
    rw [← length_pascalFrom ' ', hpass, List.length_cons]
  rw [camelChars_eq, pascalFrom_append, hpass, pascalFrom_keep hc, hlength]
  simp

/-- A letter is a capital if it was one, or if no letter stands in front of it. -/
theorem isUpper_iff_of_isAlpha {before c : Char} {back : List Char} (hc : c.isAlpha = true) :
    (if joins before (c :: back) then c else c.toUpper).isUpper = true ↔
      c.isUpper = true ∨ before.isAlpha = false := by
  have hdigit : ¬ c.isDigit = true := by
    rw [not_isDigit_of_isAlpha hc]
    exact Bool.false_ne_true
  split
  · next hjoins =>
    rcases joins_cons.1 hjoins with ⟨hbefore, hlower⟩ | ⟨-, h⟩
    · have hupper := Char.not_isUpper_of_isLower hlower
      simp [hupper, hbefore]
    · exact absurd h hdigit
  · next hjoins =>
    rw [Char.isUpper_toUpper_eq_isAlpha]
    refine iff_of_true hc ?_
    by_cases hbefore : before.isAlpha = true
    · -- a small letter would have joined the one before it
      rw [Char.isAlpha, Bool.or_eq_true] at hc
      exact .inl (hc.resolve_right fun hlower => hjoins (joins_cons.2 (.inl ⟨hbefore, hlower⟩)))
    · exact .inr (Bool.eq_false_iff.2 hbefore)

theorem isAlpha_getLastD (front : List Char) :
    (front.getLastD ' ').isAlpha = front.getLast?.any Char.isAlpha := by
  rw [List.getLastD_eq_getLast?]
  cases front.getLast? <;> rfl

/-- **Camel case neither loses, moves nor repeats letters and digits.**  A text without any
stays as it is.  Of every other its letters and digits are left and nothing else, in their
order and up to their case; the first of them is no capital; and a letter behind that is a
capital if it was one in the text, or if no letter stands directly in front of it there, and
only then.  It is found behind as many characters as there are letters and digits in front of
it. -/
theorem camelCase_keeps_letters_and_digits (t : String) :
    (t.toList.filter Char.isAlphanum = [] → camelCase t = t) ∧
    (t.toList.filter Char.isAlphanum ≠ [] →
      (∀ c ∈ (camelCase t).toList, c.isAlphanum = true) ∧
      (camelCase t).toList.map Char.toLower =
        (t.toList.filter Char.isAlphanum).map Char.toLower ∧
      (∃ first, (camelCase t).toList.head? = some first ∧ first.isUpper = false) ∧
      ∀ (front back : List Char) (c : Char), t.toList = front ++ c :: back →
        c.isAlpha = true → front.filter Char.isAlphanum ≠ [] →
        ∃ d, (camelCase t).toList[(front.filter Char.isAlphanum).length]? = some d ∧
          d.toLower = c.toLower ∧
          (d.isUpper = true ↔ c.isUpper = true ∨ front.getLast?.any Char.isAlpha = false)) := by
  have hchars : (camelCase t).toList = camelChars t.toList := String.toList_ofList
  constructor
  · intro h
    have hwords : nameWords t.toList = [] := nameWords_eq_nil_iff.2 fun c hc =>
      Bool.eq_false_iff.2 (List.filter_eq_nil_iff.1 h c hc)
    rw [camelCase, camelChars, hwords, String.ofList_toList]
  · intro h
    rw [hchars]
    refine ⟨fun c hc => isAlphanum_of_mem_camelChars h hc, map_toLower_camelChars h, ?_, ?_⟩
    · obtain ⟨first, rest, hpass⟩ := exists_pascalFrom_eq_cons h ' '
      refine ⟨first.toLower, ?_, Char.isUpper_toLower_eq_false first⟩
      rw [camelChars_eq, hpass]
      rfl
    · intro front back c hsplit halpha hfront
      have hc : c.isAlphanum = true := by rw [Char.isAlphanum, halpha]; rfl
      refine ⟨if joins (front.getLastD ' ') (c :: back) then c else c.toUpper, ?_, ?_, ?_⟩
      · rw [hsplit, getElem?_camelChars hc hfront]
      · split
        · rfl
        · exact Char.toLower_toUpper_eq_toLower c
      · rw [isUpper_iff_of_isAlpha halpha, isAlpha_getLastD]

/-- In a name with signs and digits, the letter behind a sign becomes a capital, the letter
behind a digit too, and a capital stays one. -/
theorem camelCase_of_windowId :
    "get_x11-windowID".toList.filter Char.isAlphanum ≠ [] ∧
    camelCase "get_x11-windowID" = "getX11WindowID" ∧
    ∃ d, (camelCase "get_x11-windowID").toList[6]? = some d ∧ d.toLower = 'w' ∧
      d.isUpper = true := by
  have hletters : "get_x11-windowID".toList.filter Char.isAlphanum ≠ [] := by decide
  obtain ⟨-, -, -, hplace⟩ := (camelCase_keeps_letters_and_digits "get_x11-windowID").2 hletters
  obtain ⟨d, hd, hlower, hupper⟩ :=
    hplace "get_x11-".toList "indowID".toList 'w' (by decide) (by decide) (by decide)
  exact ⟨hletters, by decide +kernel, d, hd, hlower, hupper.2 (.inr (by decide))⟩

end GirTypings.Naming
