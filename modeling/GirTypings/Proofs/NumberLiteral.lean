import GirTypings.Declaration.Literal
import GirTypings.Proofs.DecimalNotation

/-!
# The test for numbers

A value is taken for a number if it is the spelling of a numeral with digits of any script.
The test skips one part of a numeral after the other; each part ends where the next begins,
so it stops where the numeral stops.  It also puts up with one line feed at the end.

* `afterMantissa?_mantissa`, `afterExponent_spelling`: each part is skipped as a whole;
* `exists_mantissa_of_afterMantissa?`, `exists_exponent`: and nothing else is skipped;
* `isNumberLiteral_iff`: the test accepts the spellings of numerals, and those with a line
  feed behind them.
-/

namespace GirTypings

open Declaration Text

variable {n : Numeral} {cs run rest : List Char}

/-! ### Digits and the point -/

theorem afterDigits?_run (hne : run ≠ []) (hrun : ∀ c ∈ run, isDecimalDigit c = true)
    (hrest : EndsRun isDecimalDigit rest) : afterDigits? (run ++ rest) = some rest := by
  obtain ⟨c, more, rfl⟩ := List.exists_cons_of_ne_nil hne
  obtain ⟨hc, hmore⟩ := List.forall_mem_cons.1 hrun
  rw [List.cons_append, afterDigits?, if_pos hc, dropWhile_run hmore hrest]

theorem exists_run_of_afterDigits? (h : afterDigits? cs = some rest) :
    ∃ run, run ≠ [] ∧ (∀ c ∈ run, isDecimalDigit c = true) ∧ cs = run ++ rest := by
  cases cs with
  | nil => cases h
  | cons c more =>
    rw [afterDigits?] at h
    split at h
    · next hc =>
      obtain rfl := Option.some.inj h
      refine ⟨c :: more.takeWhile isDecimalDigit, List.cons_ne_nil _ _,
        List.forall_mem_cons.2 ⟨hc, fun d hd => List.mem_takeWhile_imp hd⟩, ?_⟩
      rw [List.cons_append, List.takeWhile_append_dropWhile]
    · cases h

theorem afterMantissa?_of_ne {c : Char} (hc : c ≠ '.') (cs : List Char) :
    afterMantissa? (c :: cs) =
      match afterDigits? (c :: cs) with
      | some ('.' :: rest) => some (rest.dropWhile isDecimalDigit)
      | found => found :=
  afterMantissa?.eq_2 (c :: cs) fun _ heq => hc (List.cons.inj heq).1

/-- The test finds what stands behind a mantissa. -/
theorem afterMantissa?_mantissa (hn : n.HasDigits isDecimalDigit)
    (hrest : EndsRun isDecimalDigit rest) (hpoint : rest.head? ≠ some '.') :
    afterMantissa? (n.mantissa ++ rest) = some rest := by
  rw [Numeral.mantissa, List.append_assoc]
  cases hwhole : n.whole with
  | nil =>
    obtain ⟨ds, hds, hne⟩ := hn.mantissa.resolve_left (not_not_intro hwhole)
    have hds : n.fraction = some ds := hds
    rw [hds]
    exact afterDigits?_run hne (hn.fraction ds hds) hrest
  | cons c more =>
    have hdigits := hn.whole
    rw [hwhole] at hdigits
    have hc : c ≠ '.' := by
      rintro rfl
      exact absurd (hdigits '.' (List.mem_cons_self ..)) (by decide)
    have hfound := afterDigits?_run (List.cons_ne_nil c more) hdigits
      (Numeral.endsRun_fraction n.fraction hrest)
    rw [List.cons_append] at hfound
    rw [List.cons_append, afterMantissa?_of_ne hc, hfound]
    cases hds : n.fraction with
    | none =>
      show (match some rest with
        | some ('.' :: rest) => some (rest.dropWhile isDecimalDigit)
        | found => found) = some rest
      split
      · next tail heq =>
        obtain rfl := Option.some.inj heq
        exact absurd rfl hpoint
      · rfl
    | some ds => exact congrArg some (dropWhile_run (hn.fraction ds hds) hrest)

/-- What the test skips is a mantissa. -/
theorem exists_mantissa_of_afterMantissa? (h : afterMantissa? cs = some rest) :
    ∃ whole fraction, (∀ negative exponent,
        (∀ x ∈ exponent, x.digits ≠ [] ∧ ∀ c ∈ x.digits, isDecimalDigit c = true) →
        (Numeral.mk negative whole fraction exponent).HasDigits isDecimalDigit) ∧
      cs = whole ++ fraction.elim [] ('.' :: ·) ++ rest := by
  rw [afterMantissa?.eq_def] at h
  split at h
  · next more =>
    obtain ⟨run, hne, hrun, rfl⟩ := exists_run_of_afterDigits? h
    refine ⟨[], some run, fun _ _ hexponent => ⟨nofun, ?_, .inr ⟨run, rfl, hne⟩, hexponent⟩, rfl⟩
    rintro _ ⟨⟩
    exact hrun
  · split at h
    · next more hfound =>
      obtain ⟨run, hne, hrun, rfl⟩ := exists_run_of_afterDigits? hfound
      obtain rfl := Option.some.inj h
      refine ⟨run, some (more.takeWhile isDecimalDigit),
        fun _ _ hexponent => ⟨hrun, ?_, .inl hne, hexponent⟩, ?_⟩
      · rintro _ ⟨⟩ c hc
        exact List.mem_takeWhile_imp hc
      · rw [Option.elim_some, List.append_assoc, List.cons_append, List.takeWhile_append_dropWhile]
    · obtain ⟨run, hne, hrun, rfl⟩ := exists_run_of_afterDigits? h
      refine ⟨run, none, fun _ _ hexponent => ⟨hrun, nofun, .inl hne, hexponent⟩, ?_⟩
      rw [Option.elim_none, List.append_nil]

/-! ### The exponent -/

/-- Characters without a sign in front. -/
def afterSign : List Char → List Char
  | [] => []
  | s :: more => if s = '-' || s = '+' then more else s :: more

theorem afterSign_char (s : Sign) (cs : List Char) : afterSign (s.char :: cs) = cs := by
  cases s <;> rfl

theorem afterSign_of_isDecimalDigit {c : Char} (hc : isDecimalDigit c = true) (cs : List Char) :
    afterSign (c :: cs) = c :: cs := by
  have hsign : (c = '-' || c = '+') = false := by
    rw [Bool.or_eq_false_iff, decide_eq_false_iff_not, decide_eq_false_iff_not]
    constructor <;> rintro rfl <;> exact absurd hc (by decide)
  rw [afterSign, hsign, if_neg Bool.false_ne_true]

theorem exists_sign (cs : List Char) :
    ∃ sign : Option Sign, cs = (sign.map Sign.char).toList ++ afterSign cs := by
  cases cs with
  | nil => exact ⟨none, rfl⟩
  | cons s more =>
    by_cases hminus : s = '-'
    · exact ⟨some .minus, by rw [hminus]; rfl⟩
    by_cases hplus : s = '+'
    · exact ⟨some .plus, by rw [hplus]; rfl⟩
    · exact ⟨none, by simp [afterSign, hminus, hplus]⟩

theorem afterExponent_cons {e : Char} (he : e = 'e' ∨ e = 'E') (cs : List Char) :
    afterExponent (e :: cs) = (afterDigits? (afterSign cs)).getD (e :: cs) := by
  show (if e = 'e' || e = 'E' then _ else e :: cs) = _
  rw [if_pos (by simpa using he)]
  cases cs <;> rfl

theorem afterExponent_of_ne {e : Char} (he : ¬ (e = 'e' ∨ e = 'E')) (cs : List Char) :
    afterExponent (e :: cs) = e :: cs := by
  show (if e = 'e' || e = 'E' then _ else e :: cs) = _
  rw [if_neg (by simpa using he)]

/-- The test finds what stands behind an exponent. -/
theorem afterExponent_spelling {x : Exponent}
    (hx : x.digits ≠ [] ∧ ∀ c ∈ x.digits, isDecimalDigit c = true)
    (hrest : EndsRun isDecimalDigit rest) : afterExponent (x.spelling ++ rest) = rest := by
  obtain ⟨hne, hdigits⟩ := hx
  have hsign : afterSign ((x.sign.map Sign.char).toList ++ (x.digits ++ rest)) =
      x.digits ++ rest := by
    cases x.sign with
    | none =>
      obtain ⟨c, more, hcons⟩ := List.exists_cons_of_ne_nil hne
      rw [hcons]
      exact afterSign_of_isDecimalDigit (hdigits c (hcons ▸ List.mem_cons_self ..)) _
    | some s => exact afterSign_char s _
  rw [Exponent.spelling, List.cons_append, List.append_assoc, afterExponent_cons x.mark_eq, hsign,
    afterDigits?_run hne hdigits hrest]
  rfl

/-- What the test skips is an exponent, or nothing. -/
theorem exists_exponent (cs : List Char) :
    ∃ exponent : Option Exponent,
      (∀ x ∈ exponent, x.digits ≠ [] ∧ ∀ c ∈ x.digits, isDecimalDigit c = true) ∧
      cs = exponent.elim [] Exponent.spelling ++ afterExponent cs := by
  cases cs with
  | nil => exact ⟨none, nofun, rfl⟩
  | cons e cs =>
    by_cases he : e = 'e' ∨ e = 'E'
    · cases hfound : afterDigits? (afterSign cs) with
      | none => exact ⟨none, nofun, by rw [afterExponent_cons he, hfound]; rfl⟩
      | some rest =>
        obtain ⟨run, hne, hrun, hdigits⟩ := exists_run_of_afterDigits? hfound
        obtain ⟨sign, hsign⟩ := exists_sign cs
        have hmark : (Exponent.mk (e = 'E') sign run).mark = e := by
          rcases he with rfl | rfl <;> rfl
        refine ⟨some ⟨e = 'E', sign, run⟩, ?_, ?_⟩
        · rintro _ ⟨⟩
          exact ⟨hne, hrun⟩
        · rw [Option.elim_some, Exponent.spelling, hmark, afterExponent_cons he, hfound,
            Option.getD_some, List.cons_append, List.append_assoc, ← hdigits, ← hsign]
    · exact ⟨none, nofun, by rw [afterExponent_of_ne he]; rfl⟩

/-! ### The whole text -/

/-- Characters without a minus in front. -/
def unsigned : List Char → List Char
  | '-' :: rest => rest
  | cs => cs

theorem isNumberLiteral_eq (t : String) :
    isNumberLiteral t = (afterMantissa? (unsigned t.toList)).any fun rest =>
      afterExponent rest = [] || afterExponent rest = ['\n'] := by
  rw [isNumberLiteral]
  split
  · next hnone =>
    rw [show afterMantissa? (unsigned t.toList) = none from hnone]
    rfl
  · next rest hsome =>
    rw [show afterMantissa? (unsigned t.toList) = some rest from hsome]
    rfl

theorem exists_minus (cs : List Char) :
    ∃ negative : Bool, cs = (if negative then ['-'] else []) ++ unsigned cs := by
  rw [unsigned.eq_def]
  split
  · exact ⟨true, rfl⟩
  · exact ⟨false, rfl⟩

theorem unsigned_of_ne {c : Char} (hc : c ≠ '-') (cs : List Char) :
    unsigned (c :: cs) = c :: cs := by
  rw [unsigned]
  rintro _ ⟨⟩
  exact hc rfl

theorem unsigned_spelling (hn : n.HasDigits isDecimalDigit) (rest : List Char) :
    unsigned (n.spelling ++ rest) = n.mantissa ++ (n.ending ++ rest) := by
  obtain ⟨c, more, hmantissa, hc⟩ := Numeral.exists_mantissa_eq_cons hn
  rw [Numeral.spelling, List.append_assoc, List.append_assoc]
  cases n.negative with
  | true => rfl
  | false =>
    rw [hmantissa]
    exact unsigned_of_ne hc _

/-- The test accepts a numeral with nothing behind it, or with a line feed. -/
theorem isNumberLiteral_of_spelling {t : String} (hn : n.HasDigits isDecimalDigit)
    (hrest : rest = [] ∨ rest = ['\n']) (ht : t.toList = n.spelling ++ rest) :
    isNumberLiteral t = true := by
  have hends : EndsRun isDecimalDigit rest := by
    rcases hrest with rfl | rfl
    · exact endsRun_nil
    · exact endsRun_cons (by decide)
  have hbehind : EndsRun isDecimalDigit (n.ending ++ rest) ∧ (n.ending ++ rest).head? ≠ some '.' ∧
      afterExponent (n.ending ++ rest) = rest := by
    rw [Numeral.ending]
    cases hx : n.exponent with
    | none =>
      refine ⟨hends, ?_, ?_⟩
      · rcases hrest with rfl | rfl <;> decide
      · rcases hrest with rfl | rfl <;> rfl
    | some x =>
      refine ⟨endsRun_cons ?_, ?_, afterExponent_spelling (hn.exponent x hx) hends⟩
      · rcases x.mark_eq with h | h <;> rw [h] <;> decide
      · rcases x.mark_eq with h | h <;>
          rw [Option.elim_some, Exponent.spelling, List.cons_append, List.head?_cons, h] <;> decide
  obtain ⟨hrun, hpoint, hafter⟩ := hbehind
  rw [isNumberLiteral_eq, ht, unsigned_spelling hn, afterMantissa?_mantissa hn hrun hpoint,
    Option.any_some, hafter]
  rcases hrest with rfl | rfl <;> rfl

/-- **What the test for numbers accepts**: the spellings of numerals, and those with a line
feed behind them. -/
theorem isNumberLiteral_iff (t : String) :
    isNumberLiteral t = true ↔ ∃ n : Numeral, n.HasDigits isDecimalDigit ∧
      (t.toList = n.spelling ∨ t.toList = n.spelling ++ ['\n']) := by
  constructor
  · intro h
    rw [isNumberLiteral_eq, Option.any_eq_true] at h
    obtain ⟨rest, hmantissa, hend⟩ := h
    obtain ⟨whole, fraction, hdigits, hbody⟩ := exists_mantissa_of_afterMantissa? hmantissa
    obtain ⟨exponent, hexponent, hrest⟩ := exists_exponent rest
    obtain ⟨negative, hminus⟩ := exists_minus t.toList
    have htext : t.toList =
        (Numeral.mk negative whole fraction exponent).spelling ++ afterExponent rest := by
      rw [hminus, hbody, Numeral.spelling, Numeral.mantissa, Numeral.ending]
      simp only [List.append_assoc]
      rw [← hrest]
    refine ⟨_, hdigits negative exponent hexponent, ?_⟩
    rw [Bool.or_eq_true, decide_eq_true_eq, decide_eq_true_eq] at hend
    rcases hend with hend | hend
    · exact .inl (by rw [htext, hend, List.append_nil])
    · exact .inr (by rw [htext, hend])
  · rintro ⟨n, hn, ht | ht⟩
    · exact isNumberLiteral_of_spelling hn (.inl rfl) (ht.trans (List.append_nil _).symm)
    · exact isNumberLiteral_of_spelling hn (.inr rfl) ht

end GirTypings
