import Mathlib.Algebra.Field.Rat
import Mathlib.Data.List.TakeWhile
import GirTypings.Proofs.Run
import GirTypings.Text.Digit
import GirTypings.Text.Numeral

/-!
# Numbers in decimal notation

A **numeral** is a sign perhaps, digits with perhaps a point among them, and perhaps an
exponent.  It is kept in parts, and its spelling puts the parts together.  The digits may be
those of ASCII only or those of any script; what a list of digits means is left open, so that
both can be read.

Digits are followed by something else than a digit, so that they can be told apart from it.
That makes a numeral the only one with its spelling.

* `Numeral.spelling_inj`: a text is the spelling of one numeral at most;
* `Numeral.value_eq_of_ascii`: with ASCII digits both ways of reading agree.
-/

namespace GirTypings

open Text

/-! ### Numerals -/

/-- The sign of an exponent. -/
inductive Sign where
  | plus
  | minus
deriving DecidableEq

namespace Sign

/-- How a sign is written. -/
def char : Sign → Char
  | plus => '+'
  | minus => '-'

theorem char_injective : Function.Injective char := by
  intro s s' h
  revert h
  cases s <;> cases s' <;> decide

/-- A sign is no digit. -/
theorem not_isDecimalDigit_char (s : Sign) : isDecimalDigit s.char = false := by
  cases s <;> decide

/-- The number with a sign and a size. -/
def apply (size : Nat) : Sign → Int
  | plus => size
  | minus => -size

end Sign

/-- The exponent of a numeral. -/
structure Exponent where
  /-- Whether its mark is a capital letter. -/
  capital : Bool
  /-- The sign, if there is one. -/
  sign : Option Sign
  /-- The digits. -/
  digits : List Char
deriving DecidableEq

/-- A number in decimal notation. -/
structure Numeral where
  /-- Whether a minus stands in front. -/
  negative : Bool
  /-- The digits in front of the point. -/
  whole : List Char
  /-- The digits behind the point, if there is a point. -/
  fraction : Option (List Char)
  /-- The exponent, if there is one. -/
  exponent : Option Exponent
deriving DecidableEq

namespace Exponent

/-- The mark of an exponent. -/
def mark (x : Exponent) : Char :=
  if x.capital then 'E' else 'e'

/-- How an exponent is written. -/
def spelling (x : Exponent) : List Char :=
  x.mark :: ((x.sign.map Sign.char).toList ++ x.digits)

theorem mark_eq (x : Exponent) : x.mark = 'e' ∨ x.mark = 'E' := by
  rw [mark]
  split
  · exact .inr rfl
  · exact .inl rfl

/-- Digits do not start with a sign. -/
theorem ne_char_append {s : Sign} {ds es : List Char} (hds : ∀ c ∈ ds, isDecimalDigit c = true) :
    ds ≠ s.char :: es := by
  rintro rfl
  have hdigit := hds s.char (List.mem_cons_self ..)
  rw [s.not_isDecimalDigit_char] at hdigit
  cases hdigit

/-- A text is the spelling of one exponent at most. -/
theorem spelling_inj {x y : Exponent} (hx : ∀ c ∈ x.digits, isDecimalDigit c = true)
    (hy : ∀ c ∈ y.digits, isDecimalDigit c = true) (h : x.spelling = y.spelling) : x = y := by
  obtain ⟨hmark, hmore⟩ := List.cons.inj h
  obtain ⟨capital, sign, digits⟩ := x
  obtain ⟨capital', sign', digits'⟩ := y
  have hcapital : capital = capital' := by
    have hmark : (if capital then 'E' else 'e') = if capital' then 'E' else 'e' := hmark
    revert hmark
    cases capital <;> cases capital' <;> decide
  cases sign with
  | none =>
    cases sign' with
    | none =>
      obtain rfl : digits = digits' := hmore
      rw [hcapital]
    | some s' => exact absurd hmore (ne_char_append hx)
  | some s =>
    cases sign' with
    | none => exact absurd hmore.symm (ne_char_append hy)
    | some s' =>
      obtain ⟨hchar, hdigits⟩ := List.cons.inj hmore
      obtain rfl : digits = digits' := hdigits
      rw [hcapital, Sign.char_injective hchar]

/-- The number that an exponent stands for, where digits are read in some way. -/
def value (read : List Char → Nat) (x : Exponent) : Int :=
  (x.sign.getD .plus).apply (read x.digits)

end Exponent

namespace Numeral

/-- The digits and the point of a numeral. -/
def mantissa (n : Numeral) : List Char :=
  n.whole ++ n.fraction.elim [] ('.' :: ·)

/-- The exponent as it is written, or nothing. -/
def ending (n : Numeral) : List Char :=
  n.exponent.elim [] Exponent.spelling

/-- How a numeral is written. -/
def spelling (n : Numeral) : List Char :=
  (if n.negative then ['-'] else []) ++ (n.mantissa ++ n.ending)

/-- The number that a numeral stands for, where digits are read in some way. -/
def value (read : List Char → Nat) (n : Numeral) : ℚ :=
  let fraction := n.fraction.getD []
  let places : Int := n.exponent.elim 0 (Exponent.value read) - fraction.length
  (if n.negative then -1 else 1) * read (n.whole ++ fraction) * 10 ^ places

/-- Whether a numeral has digits of a class where it needs digits, and nowhere others. -/
structure HasDigits (p : Char → Bool) (n : Numeral) : Prop where
  whole : ∀ c ∈ n.whole, p c = true
  fraction : ∀ ds ∈ n.fraction, ∀ c ∈ ds, p c = true
  mantissa : n.whole ≠ [] ∨ ∃ ds ∈ n.fraction, ds ≠ []
  exponent : ∀ x ∈ n.exponent, x.digits ≠ [] ∧ ∀ c ∈ x.digits, p c = true

/-! ### The characters of a numeral -/

/-- The characters of numerals that are no digits. -/
def marks : List Char := ['-', '+', '.', 'e', 'E']

variable {p : Char → Bool} {n m : Numeral} {c : Char} {rest : List Char}

theorem eq_of_mem_marks (hc : c ∈ marks) : c = '-' ∨ c = '+' ∨ c = '.' ∨ c = 'e' ∨ c = 'E' := by
  simpa [marks] using hc

/-- A numeral holds digits and marks only. -/
theorem HasDigits.mem_spelling (h : n.HasDigits p) (hc : c ∈ n.spelling) :
    p c = true ∨ c ∈ marks := by
  rcases List.mem_append.1 hc with hc | hc
  · split at hc
    · exact .inr (List.mem_singleton.1 hc ▸ by decide)
    · cases hc
  rcases List.mem_append.1 hc with hc | hc
  · rcases List.mem_append.1 hc with hc | hc
    · exact .inl (h.whole c hc)
    · cases hfraction : n.fraction with
      | none =>
        rw [hfraction] at hc
        cases hc
      | some ds =>
        rw [hfraction] at hc
        rcases List.mem_cons.1 hc with rfl | hc
        · exact .inr (by decide)
        · exact .inl (h.fraction ds hfraction c hc)
  · cases hexponent : n.exponent with
    | none =>
      rw [ending, hexponent] at hc
      cases hc
    | some x =>
      rw [ending, hexponent] at hc
      rcases List.mem_cons.1 hc with rfl | hc
      · exact .inr (by rcases x.mark_eq with h | h <;> rw [h] <;> decide)
      rcases List.mem_append.1 hc with hc | hc
      · right
        obtain ⟨s, -, rfl⟩ := Option.map_eq_some_iff.1 (Option.mem_toList.1 hc)
        cases s <;> decide
      · exact .inl ((h.exponent x hexponent).2 c hc)

/-- With other digits a numeral stays one. -/
theorem HasDigits.of_forall {q : Char → Bool} (h : n.HasDigits p)
    (hq : ∀ c ∈ n.spelling, p c = true → q c = true) : n.HasDigits q where
  whole c hc := hq c (by simp [spelling, Numeral.mantissa, hc]) (h.whole c hc)
  fraction ds hds c hc := by
    refine hq c ?_ (h.fraction ds hds c hc)
    have hds : n.fraction = some ds := hds
    simp [spelling, Numeral.mantissa, hds, hc]
  mantissa := h.mantissa
  exponent x hx := by
    refine ⟨(h.exponent x hx).1, fun c hc => hq c ?_ ((h.exponent x hx).2 c hc)⟩
    have hx : n.exponent = some x := hx
    simp [spelling, ending, hx, Exponent.spelling, hc]

/-! ### A numeral is told by its spelling -/

variable (hn : n.HasDigits isDecimalDigit) (hm : m.HasDigits isDecimalDigit)

include hn in
theorem exists_mantissa_eq_cons : ∃ c rest, n.mantissa = c :: rest ∧ c ≠ '-' := by
  cases hwhole : n.whole with
  | nil =>
    obtain ⟨ds, hds, -⟩ := hn.mantissa.resolve_left (not_not_intro hwhole)
    have hds : n.fraction = some ds := hds
    exact ⟨'.', ds, by rw [mantissa, hwhole, hds]; rfl, by decide⟩
  | cons c more =>
    refine ⟨c, more ++ n.fraction.elim [] ('.' :: ·), by rw [mantissa, hwhole]; rfl, ?_⟩
    rintro rfl
    have hdigit := hn.whole '-' (hwhole ▸ List.mem_cons_self ..)
    exact absurd hdigit (by decide)

/-- An exponent starts with its mark. -/
theorem head?_ending (h : n.ending.head? = some c) : c = 'e' ∨ c = 'E' := by
  cases hexponent : n.exponent with
  | none =>
    rw [ending, hexponent] at h
    cases h
  | some x =>
    rw [ending, hexponent] at h
    obtain rfl := Option.some.inj h
    exact x.mark_eq

theorem endsRun_ending : EndsRun isDecimalDigit n.ending := by
  intro c hc
  rcases head?_ending hc with rfl | rfl <;> decide

theorem endsRun_fraction (fraction : Option (List Char)) (hrest : EndsRun isDecimalDigit rest) :
    EndsRun isDecimalDigit (fraction.elim [] ('.' :: ·) ++ rest) := by
  cases fraction with
  | none => exact hrest
  | some ds => exact endsRun_cons (by decide)

include hn hm in
theorem exponent_inj (h : n.ending = m.ending) : n.exponent = m.exponent := by
  rw [ending, ending] at h
  cases hx : n.exponent with
  | none =>
    cases hy : m.exponent with
    | none => rfl
    | some y =>
      rw [hx, hy] at h
      cases h
  | some x =>
    cases hy : m.exponent with
    | none =>
      rw [hx, hy] at h
      cases h
    | some y =>
      rw [hx, hy] at h
      exact congrArg some
        (Exponent.spelling_inj (hn.exponent x hx).2 (hm.exponent y hy).2 h)

include hn hm in
/-- **A text is the spelling of one numeral at most.** -/
theorem spelling_inj (h : n.spelling = m.spelling) : n = m := by
  have hsign : n.negative = m.negative ∧ n.mantissa ++ n.ending = m.mantissa ++ m.ending := by
    obtain ⟨c, more, hmantissa, hc⟩ := exists_mantissa_eq_cons hn
    obtain ⟨c', more', hmantissa', hc'⟩ := exists_mantissa_eq_cons hm
    rw [spelling, spelling] at h
    cases hneg : n.negative <;> cases hneg' : m.negative <;> rw [hneg, hneg'] at h
    · exact ⟨rfl, h⟩
    · rw [hmantissa] at h
      exact absurd (List.cons.inj h).1 hc
    · rw [hmantissa'] at h
      exact absurd (List.cons.inj h).1.symm hc'
    · exact ⟨rfl, (List.cons.inj h).2⟩
  obtain ⟨hnegative, hbody⟩ := hsign
  rw [mantissa, mantissa, List.append_assoc, List.append_assoc] at hbody
  obtain ⟨hwhole, hmore⟩ := run_inj hn.whole (endsRun_fraction _ endsRun_ending) hm.whole
    (endsRun_fraction _ endsRun_ending) hbody
  have hpoint : ∀ {n : Numeral} {cs : List Char}, n.ending ≠ '.' :: cs := by
    intro n cs heq
    rcases head?_ending (n := n) (by rw [heq]; rfl) with h | h <;> cases h
  have hfraction : n.fraction = m.fraction ∧ n.ending = m.ending := by
    cases hds : n.fraction with
    | none =>
      cases hds' : m.fraction with
      | none =>
        rw [hds, hds'] at hmore
        exact ⟨rfl, hmore⟩
      | some ds' =>
        rw [hds, hds'] at hmore
        exact absurd hmore hpoint
    | some ds =>
      cases hds' : m.fraction with
      | none =>
        rw [hds, hds'] at hmore
        exact absurd hmore.symm hpoint
      | some ds' =>
        rw [hds, hds'] at hmore
        obtain ⟨rfl, hending⟩ := run_inj (hn.fraction ds hds) endsRun_ending
          (hm.fraction ds' hds') endsRun_ending (List.cons.inj hmore).2
        exact ⟨rfl, hending⟩
  obtain ⟨hfraction, hending⟩ := hfraction
  have hexponent := exponent_inj hn hm hending
  obtain ⟨negative, whole, fraction, exponent⟩ := n
  obtain ⟨negative', whole', fraction', exponent'⟩ := m
  exact (Numeral.mk.injEq ..).mpr ⟨hnegative, hwhole, hfraction, hexponent⟩

end Numeral

/-! ### Two ways of reading digits -/

/-- The number that digits of any script write; nothing writes zero. -/
def wideNumber (ds : List Char) : Nat :=
  (decimalOf? ds).getD 0

theorem decimalValue?_of_ascii {c : Char} (h : c.isDigit = true) :
    decimalValue? c = digitValue? c := by
  have hzero : decimalZeros.find? (fun n => n ≤ c.toNat && c.toNat ≤ n + 9) = some 0x30 := by
    simp only [Char.isDigit, Bool.and_eq_true, decide_eq_true_eq] at h
    have hlow : (0x30 : Nat) ≤ c.toNat := h.1
    have hhigh : c.toNat ≤ (0x30 : Nat) + 9 := h.2
    exact List.find?_cons_of_pos (by simp [hlow, hhigh])
  rw [decimalValue?, hzero, digitValue?, if_pos h]
  rfl

theorem wideNumber_of_ascii {ds : List Char} (h : ∀ c ∈ ds, c.isDigit = true) :
    wideNumber ds = numberOf 10 ds := by
  have hfold : ∀ n, ds.foldlM (fun n c => (decimalValue? c).map (n * 10 + ·)) n =
      some (ds.foldl (fun n c => n * 10 + (digitValue? c).getD 0) n) := by
    induction ds with
    | nil => exact fun n => rfl
    | cons c rest ih =>
      obtain ⟨hc, hrest⟩ := List.forall_mem_cons.1 h
      obtain ⟨v, hv⟩ : ∃ v, digitValue? c = some v := ⟨_, if_pos hc⟩
      intro n
      rw [List.foldlM_cons, List.foldl_cons, decimalValue?_of_ascii hc, hv]
      exact ih hrest _
  rw [wideNumber, decimalOf?]
  split
  · next hnil =>
    subst hnil
    rfl
  · rw [hfold]
    rfl

/-- **With ASCII digits both ways of reading agree.** -/
theorem Numeral.value_eq_of_ascii {n : Numeral} (h : n.HasDigits Char.isDigit) :
    n.value wideNumber = n.value (numberOf 10) := by
  have hmantissa : wideNumber (n.whole ++ n.fraction.getD []) =
      numberOf 10 (n.whole ++ n.fraction.getD []) := by
    refine wideNumber_of_ascii (List.forall_mem_append.2 ⟨h.whole, ?_⟩)
    cases hds : n.fraction with
    | none => exact nofun
    | some ds => exact h.fraction ds hds
  have hexponent : n.exponent.elim 0 (Exponent.value wideNumber) =
      n.exponent.elim 0 (Exponent.value (numberOf 10)) := by
    cases hx : n.exponent with
    | none => rfl
    | some x =>
      rw [Option.elim_some, Option.elim_some, Exponent.value, Exponent.value,
        wideNumber_of_ascii (h.exponent x hx).2]
  rw [Numeral.value, Numeral.value, hmantissa, hexponent]

end GirTypings
