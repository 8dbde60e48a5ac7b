import GirTypings.Proofs.NumberLiteral
import GirTypings.Proofs.Quoting
import GirTypings.Text.Surrogate

/-!
# Literals of strict code

The value of a constant is written where the declaration language expects a literal.  In
strict code a literal is one of the words for truth values, a decimal number in ASCII digits
with no zero idle in front of others, perhaps with a minus, or a text in single quotes with
no line broken in it.  Each stands for a datum, and so does each value with its type.

What is written for a value is a literal for the same datum, unless the value is not
**plain**.  A line feed or a carriage return in quotes breaks the line.  A number is written
as it stands, so digits of other scripts, idle zeros, and the line feed that the test for
numbers puts up with, are written as well.

* `Spells`, `StrictLiteral`: literals and what they stand for;
* `Means`, `existsUnique_means`: a value of a type stands for one datum;
* `Spells.not_mem`, `Spells.eq_of_escapeChars`: nothing in quotes breaks a line, and what is
  escaped is read back as nothing else;
* `strictLiteral_quoted_iff`, `strictLiteral_iff_of_isNumberLiteral`,
  `strictLiteral_truthWord_iff`: what is read of each kind of literal;
* `strict_literal_iff_plain`: which values are written as literals.
-/

namespace GirTypings

open Declaration Text

/-! ### Literals -/

/-- What a literal stands for.  Numbers are not rounded. -/
inductive Datum where
  | truth (b : Bool)
  | number (q : ℚ)
  | text (t : String)

/-- The word for a truth value. -/
def truthWord (b : Bool) : String :=
  if b then "true" else "false"

/-- The characters that have a letter behind a backslash, or a mark. -/
def namedEscapes : List (Char × Char) := [
  ('b', '\x08'), ('t', '\t'), ('n', '\n'), ('v', '\x0b'), ('f', '\x0c'), ('r', '\r'),
  ('"', '"'), ('\'', '\''), ('\\', '\\')]

/-- The characters that break a line. -/
def lineBreaks : List Char := ['\n', '\r']

/-- The line and paragraph separators, which may stand in quotes. -/
def softBreaks : List Char := ['\u2028', '\u2029']

/-- What stands behind a backslash to give the number of a character or of half a pair. -/
inductive NumberEscape : List Char → Nat → Prop
  | two {a b : Char} : isHexDigit a = true → isHexDigit b = true →
      NumberEscape ['x', a, b] (numberOf 16 [a, b])
  | four {a b c d : Char} : isHexDigit a = true → isHexDigit b = true → isHexDigit c = true →
      isHexDigit d = true → NumberEscape ['u', a, b, c, d] (numberOf 16 [a, b, c, d])
  | braces {ds : List Char} : ds ≠ [] → (∀ d ∈ ds, isHexDigit d = true) →
      numberOf 16 ds ≤ 0x10FFFF → NumberEscape ('u' :: '\x7b' :: (ds ++ ['\x7d'])) (numberOf 16 ds)

/-- How the inside of single quotes is read in strict code.  A backslash that breaks a line
is left out, as no line may be broken, and half a pair that stands alone writes no
character. -/
inductive Spells : List Char → List Char → Prop
  | nil : Spells [] []
  | plain {c : Char} {source value : List Char} : c ∉ ['\'', '\\', '\n', '\r'] →
      Spells source value → Spells (c :: source) (c :: value)
  | named {c d : Char} {source value : List Char} : (c, d) ∈ namedEscapes →
      Spells source value → Spells ('\\' :: c :: source) (d :: value)
  | other {c : Char} {source value : List Char} : c ∉ namedEscapes.map Prod.fst →
      c.isDigit = false → c ∉ ['x', 'u', '\n', '\r'] → c ∉ softBreaks →
      Spells source value → Spells ('\\' :: c :: source) (c :: value)
  | null {source value : List Char} : (∀ c, source.head? = some c → c.isDigit = false) →
      Spells source value → Spells ('\\' :: '0' :: source) ('\x00' :: value)
  | number {code source value : List Char} {n : Nat} : NumberEscape code n → n.isValidChar →
      Spells source value → Spells ('\\' :: (code ++ source)) (Char.ofNat n :: value)
  | pair {code code' source value : List Char} {u v : Nat} : NumberEscape code u →
      isLeading u = true → NumberEscape code' v → isTrailing v = true → Spells source value →
      Spells ('\\' :: (code ++ '\\' :: (code' ++ source))) (pairChar u v :: value)
  | broken {c : Char} {source value : List Char} : c ∈ softBreaks → Spells source value →
      Spells ('\\' :: c :: source) value

/-- Whether a numeral has ASCII digits only, and no zero idle in front of others. -/
structure Numeral.IsStrict (n : Numeral) : Prop where
  digits : n.HasDigits Char.isDigit
  zero : ∀ more, n.whole = '0' :: more → more = []

/-- The literals of strict code that a value can be written as, and what they stand for. -/
inductive StrictLiteral : String → Datum → Prop
  | truth (b : Bool) : StrictLiteral (truthWord b) (.truth b)
  | number {t : String} {n : Numeral} : n.IsStrict → t.toList = n.spelling →
      StrictLiteral t (.number (n.value (numberOf 10)))
  | text {source value : String} : Spells source.toList value.toList →
      StrictLiteral ("'" ++ source ++ "'") (.text value)

/-! ### Values -/

/-- What a value of a type stands for: a truth value or a number if it is written as one, with
digits of any script, and otherwise itself. -/
inductive Means (type value : String) : Datum → Prop
  | truth (b : Bool) : type = "boolean" → value = truthWord b → Means type value (.truth b)
  | number {n : Numeral} : type = "number" → n.HasDigits isDecimalDigit →
      value.toList = n.spelling → Means type value (.number (n.value wideNumber))
  | text : (∀ b, type = "boolean" → value ≠ truthWord b) →
      (∀ n : Numeral, type = "number" → n.HasDigits isDecimalDigit → value.toList ≠ n.spelling) →
      Means type value (.text value)

/-- Whether a zero stands in front of another digit. -/
def startsIdle : List Char → Bool
  | [] => false
  | c :: rest => c = '0' && rest.head?.any Char.isDigit

/-- Whether a value of a type can be written as it should be. -/
structure IsPlain (type value : String) : Prop where
  newline : '\n' ∉ value.toList
  carriage : '\r' ∉ value.toList
  ascii : type = "number" → isNumberLiteral value = true → ∀ c ∈ value.toList, c.toNat < 128
  zero : type = "number" → isNumberLiteral value = true → startsIdle (unsigned value.toList) = false

theorem truthWord_inj : ∀ b b', truthWord b = truthWord b' → b = b' := by decide

theorem Means.unique {type value : String} {d d' : Datum} (h : Means type value d)
    (h' : Means type value d') : d = d' := by
  cases h with
  | truth b htype hvalue =>
    cases h' with
    | truth b' _ hvalue' =>
      rw [truthWord_inj b b' (hvalue.symm.trans hvalue')]
    | number htype' => exact absurd (htype.symm.trans htype') (by decide)
    | text hwords _ => exact absurd hvalue (hwords b htype)
  | number htype hn hvalue =>
    cases h' with
    | truth _ htype' => exact absurd (htype.symm.trans htype') (by decide)
    | number _ hm hvalue' => rw [Numeral.spelling_inj hn hm (hvalue.symm.trans hvalue')]
    | text _ hnumerals => exact absurd hvalue (hnumerals _ htype hn)
  | text hwords hnumerals =>
    cases h' with
    | truth b htype hvalue => exact absurd hvalue (hwords b htype)
    | number htype hn hvalue => exact absurd hvalue (hnumerals _ htype hn)
    | text _ _ => rfl

/-! ### Quotes -/

/-- What escaping gives is read back, if no line is broken. -/
theorem spells_escapeChars {value : List Char} (hnewline : '\n' ∉ value)
    (hcarriage : '\r' ∉ value) : Spells (escapeChars value) value := by
  fun_induction escapeChars value with
  | case1 => exact .nil
  | case2 c rest hmark ih =>
    rw [List.mem_cons, not_or] at hnewline hcarriage
    refine .named ?_ (ih hnewline.2 hcarriage.2)
    rw [Bool.or_eq_true, decide_eq_true_eq, decide_eq_true_eq] at hmark
    rcases hmark with rfl | rfl <;> decide
  | case3 c rest hmark ih =>
    rw [List.mem_cons, not_or] at hnewline hcarriage
    rw [Bool.or_eq_true, decide_eq_true_eq, decide_eq_true_eq, not_or] at hmark
    refine .plain ?_ (ih hnewline.2 hcarriage.2)
    simp [hmark.1, hmark.2, Ne.symm hnewline.1, Ne.symm hcarriage.1]

theorem eq_of_mem_lineBreaks {c : Char} (hc : c ∈ lineBreaks) : c = '\n' ∨ c = '\r' := by
  simpa [lineBreaks] using hc

/-- A number behind a backslash is written without breaks. -/
theorem NumberEscape.not_mem {code : List Char} {n : Nat} (h : NumberEscape code n) {c : Char}
    (hc : c ∈ lineBreaks) : c ∉ code := by
  have hhex : ∀ {d : Char}, isHexDigit d = true → c ≠ d := by
    rintro d hd rfl
    rcases eq_of_mem_lineBreaks hc with rfl | rfl <;> exact absurd hd (by decide)
  have hmarks : c ≠ 'x' ∧ c ≠ 'u' ∧ c ≠ '\x7b' ∧ c ≠ '\x7d' := by
    rcases eq_of_mem_lineBreaks hc with rfl | rfl <;> decide
  cases h with
  | two ha hb => simp [hmarks, hhex ha, hhex hb]
  | four ha hb hc hd => simp [hmarks, hhex ha, hhex hb, hhex hc, hhex hd]
  | braces _ hds _ =>
    have hds : c ∉ _ := fun hmem => hhex (hds c hmem) rfl
    simp [hmarks, hds]

/-- **Nothing in quotes breaks a line.** -/
theorem Spells.not_mem {source value : List Char} (h : Spells source value) {c : Char}
    (hc : c ∈ lineBreaks) : c ∉ source := by
  obtain ⟨hback, hzero, hnone, hsofts⟩ : c ≠ '\\' ∧ c ≠ '0' ∧
      c ∉ namedEscapes.map Prod.fst ∧ c ∉ softBreaks := by
    rcases eq_of_mem_lineBreaks hc with rfl | rfl <;> decide
  induction h with
  | nil => exact List.not_mem_nil
  | plain hplain _ ih =>
    refine List.not_mem_cons_of_ne_of_not_mem ?_ ih
    rintro rfl
    exact hplain (List.mem_cons_of_mem _ (List.mem_cons_of_mem _ hc))
  | named hnamed _ ih =>
    refine List.not_mem_cons_of_ne_of_not_mem hback (List.not_mem_cons_of_ne_of_not_mem ?_ ih)
    rintro rfl
    exact hnone (List.mem_map_of_mem hnamed)
  | other _ _ hother _ _ ih =>
    refine List.not_mem_cons_of_ne_of_not_mem hback (List.not_mem_cons_of_ne_of_not_mem ?_ ih)
    rintro rfl
    exact hother (List.mem_cons_of_mem _ (List.mem_cons_of_mem _ hc))
  | null _ _ ih => simp [hback, hzero, ih]
  | number hcode _ _ ih => simp [hback, hcode.not_mem hc, ih]
  | pair hcode _ hcode' _ _ ih => simp [hback, hcode.not_mem hc, hcode'.not_mem hc, ih]
  | broken hsoft _ ih =>
    refine List.not_mem_cons_of_ne_of_not_mem hback (List.not_mem_cons_of_ne_of_not_mem ?_ ih)
    rintro rfl
    exact hsofts hsoft

/-- A number behind a backslash starts with its letter. -/
theorem NumberEscape.append_ne {code : List Char} {n : Nat} (h : NumberEscape code n) {c : Char}
    (hc : c ∉ ['x', 'u']) (source rest : List Char) : c :: rest ≠ code ++ source := by
  rintro heq
  refine hc ?_
  cases h <;> rw [(List.cons.inj heq).1] <;> decide

/-- A mark behind a backslash is read as itself. -/
theorem Spells.of_mark {c : Char} (hc : c ∈ ['\\', '\'']) {source value : List Char}
    (h : Spells ('\\' :: c :: source) value) : ∃ rest, value = c :: rest ∧ Spells source rest := by
  have hc : c = '\\' ∨ c = '\'' := by simpa using hc
  have hself : ∀ d, (c, d) ∈ namedEscapes → d = c := by
    rcases hc with rfl | rfl <;> simp [namedEscapes]
  obtain ⟨hfirst, hnumber, hzero, hsofts⟩ :
      c ∈ namedEscapes.map Prod.fst ∧ c ∉ ['x', 'u'] ∧ c ≠ '0' ∧ c ∉ softBreaks := by
    rcases hc with rfl | rfl <;> decide
  generalize ht : '\\' :: c :: source = t at h
  cases h with
  | nil => cases ht
  | plain hplain _ =>
    obtain ⟨rfl, -⟩ := List.cons.inj ht
    exact absurd (by decide) hplain
  | named hmem hrest =>
    obtain ⟨rfl, rfl⟩ := List.cons.inj (List.cons.inj ht).2
    exact ⟨_, congrArg (· :: _) (hself _ hmem), hrest⟩
  | other hother _ _ _ _ =>
    obtain ⟨rfl, rfl⟩ := List.cons.inj (List.cons.inj ht).2
    exact absurd hfirst hother
  | null _ _ => exact absurd (List.cons.inj (List.cons.inj ht).2).1 hzero
  | number hcode _ _ => exact absurd (List.cons.inj ht).2 (hcode.append_ne hnumber _ _)
  | pair hcode _ _ _ _ => exact absurd (List.cons.inj ht).2 (hcode.append_ne hnumber _ _)
  | broken hsoft _ =>
    obtain ⟨rfl, -⟩ := List.cons.inj (List.cons.inj ht).2
    exact absurd hsoft hsofts

/-- A character without a backslash is read as itself. -/
theorem Spells.of_ne {c : Char} (hc : c ≠ '\\') {source value : List Char}
    (h : Spells (c :: source) value) : ∃ rest, value = c :: rest ∧ Spells source rest := by
  generalize ht : c :: source = t at h
  cases h with
  | nil => cases ht
  | plain _ hrest =>
    obtain ⟨rfl, rfl⟩ := List.cons.inj ht
    exact ⟨_, rfl, hrest⟩
  | _ => exact absurd (List.cons.inj ht).1 hc

/-- What escaping gives is read back as nothing else. -/
theorem Spells.eq_of_escapeChars {value read : List Char} (h : Spells (escapeChars value) read) :
    read = value := by
  induction value generalizing read with
  | nil =>
    cases h
    rfl
  | cons c rest ih =>
    rw [escapeChars] at h
    split at h
    · next hmark =>
      obtain ⟨more, rfl, hmore⟩ := h.of_mark (by simpa using hmark)
      rw [ih hmore]
    · next hmark =>
      rw [Bool.or_eq_true, decide_eq_true_eq, decide_eq_true_eq, not_or] at hmark
      obtain ⟨more, rfl, hmore⟩ := h.of_ne hmark.1
      rw [ih hmore]

theorem mem_escapeChars {value : List Char} {c : Char} (h : c ∈ value) : c ∈ escapeChars value := by
  fun_induction escapeChars value with
  | case1 => exact h
  | case2 d rest _ ih =>
    rcases List.mem_cons.1 h with rfl | h
    · simp
    · simp [ih h]
  | case3 d rest _ ih =>
    rcases List.mem_cons.1 h with rfl | h
    · simp
    · simp [ih h]

theorem quote_mem (source : String) : '\'' ∈ ("'" ++ source ++ "'").toList := by
  simp

theorem quoted_inj {source source' : String} (h : "'" ++ source ++ "'" = "'" ++ source' ++ "'") :
    source = source' := by
  have hchars := congrArg String.toList h
  simp only [String.toList_append] at hchars
  exact String.toList_injective (List.append_cancel_left (List.append_cancel_right hchars))

theorem quote_not_mem_truthWord : ∀ b, '\'' ∉ (truthWord b).toList := by decide

/-- **What is read of a value in quotes**: itself if it breaks no line, and else nothing. -/
theorem strictLiteral_quoted_iff (value : String) (d : Datum) :
    StrictLiteral ("'" ++ escape value ++ "'") d ↔
      ('\n' ∉ value.toList ∧ '\r' ∉ value.toList) ∧ d = .text value := by
  constructor
  · intro h
    generalize ht : "'" ++ escape value ++ "'" = t at h
    cases h with
    | truth b => exact absurd (ht ▸ quote_mem _) (quote_not_mem_truthWord b)
    | number hn htext =>
      have hquote : '\'' ∈ Numeral.spelling _ := htext ▸ ht ▸ quote_mem _
      rcases hn.digits.mem_spelling hquote with h | h <;> exact absurd h (by decide)
    | text hspells =>
      rw [← quoted_inj ht, escape, String.toList_ofList] at hspells
      have hbreaks : ∀ c ∈ lineBreaks, c ∉ value.toList :=
        fun c hc hmem => hspells.not_mem hc (mem_escapeChars hmem)
      refine ⟨⟨hbreaks _ (by decide), hbreaks _ (by decide)⟩, ?_⟩
      rw [String.toList_injective hspells.eq_of_escapeChars]
  · rintro ⟨⟨hnewline, hcarriage⟩, rfl⟩
    refine .text ?_
    rw [escape, String.toList_ofList]
    exact spells_escapeChars hnewline hcarriage

/-! ### Numbers and truth values -/

/-- Among the ASCII characters the decimal digits are those from zero to nine. -/
theorem isDigit_of_isDecimalDigit_of_lt {c : Char} (h : isDecimalDigit c = true)
    (hc : c.toNat < 128) : c.isDigit = true := by
  obtain ⟨z, hz, hrange⟩ := List.any_eq_true.1 h
  rw [Bool.and_eq_true, decide_eq_true_eq, decide_eq_true_eq] at hrange
  have hzeros : ∀ z ∈ decimalZeros, z < 128 → z = 0x30 := by decide
  obtain rfl := hzeros z hz (by omega)
  exact Bool.and_eq_true_iff.2 ⟨decide_eq_true hrange.1, decide_eq_true hrange.2⟩

theorem toNat_lt_of_isDigit {c : Char} (h : c.isDigit = true) : c.toNat < 128 := by
  have hhigh : c.toNat ≤ 57 := of_decide_eq_true (Bool.and_eq_true_iff.1 h).2
  omega

/-- Nothing behind the first digits makes a zero idle. -/
theorem startsIdle_spelling {n : Numeral} (hn : n.HasDigits isDecimalDigit) :
    startsIdle (unsigned n.spelling) = startsIdle n.whole := by
  have hbody := unsigned_spelling hn []
  rw [List.append_nil, List.append_nil] at hbody
  rw [hbody, Numeral.mantissa, List.append_assoc]
  have hbehind : (n.fraction.elim [] ('.' :: ·) ++ n.ending).head?.any Char.isDigit = false := by
    cases n.fraction with
    | none =>
      rw [Option.any_eq_false]
      intro c hc
      rcases Numeral.head?_ending hc with rfl | rfl <;> decide
    | some ds => rfl
  cases hwhole : n.whole with
  | nil =>
    obtain ⟨ds, hds, -⟩ := hn.mantissa.resolve_left (not_not_intro hwhole)
    have hds : n.fraction = some ds := hds
    rw [hds]
    rfl
  | cons c more =>
    rw [List.cons_append, startsIdle, startsIdle]
    cases more with
    | nil => rw [List.nil_append, List.head?_nil, Option.any_none, hbehind]
    | cons d more => rfl

theorem startsIdle_eq_false_iff {whole : List Char} (hdigits : ∀ c ∈ whole, c.isDigit = true) :
    startsIdle whole = false ↔ ∀ more, whole = '0' :: more → more = [] := by
  constructor
  · rintro h more rfl
    cases more with
    | nil => rfl
    | cons d more =>
      have hd : d.isDigit = true := hdigits d (by simp)
      rw [startsIdle, List.head?_cons, Option.any_some, hd] at h
      cases h
  · intro h
    cases whole with
    | nil => rfl
    | cons c more =>
      rw [startsIdle, Bool.and_eq_false_imp, decide_eq_true_eq]
      rintro rfl
      rw [h more rfl]
      rfl

/-- A numeral is strict if its text shows it to be. -/
theorem Numeral.isStrict_iff {n : Numeral} (hn : n.HasDigits isDecimalDigit) :
    n.IsStrict ↔ (∀ c ∈ n.spelling, c.toNat < 128) ∧ startsIdle (unsigned n.spelling) = false := by
  rw [startsIdle_spelling hn]
  constructor
  · rintro ⟨hdigits, hzero⟩
    refine ⟨fun c hc => ?_, (startsIdle_eq_false_iff hdigits.whole).2 hzero⟩
    rcases hdigits.mem_spelling hc with h | h
    · exact toNat_lt_of_isDigit h
    · rcases eq_of_mem_marks h with rfl | rfl | rfl | rfl | rfl <;> decide
  · rintro ⟨hascii, hzero⟩
    have hdigits : n.HasDigits Char.isDigit :=
      hn.of_forall fun c hc hdigit => isDigit_of_isDecimalDigit_of_lt hdigit (hascii c hc)
    exact ⟨hdigits, (startsIdle_eq_false_iff hdigits.whole).1 hzero⟩

theorem Numeral.IsStrict.hasDigits {n : Numeral} (h : n.IsStrict) : n.HasDigits isDecimalDigit :=
  h.digits.of_forall fun _ _ hdigit => isDecimalDigit_of_ascii hdigit

/-- A number is written with digits, the marks of numerals, and line feeds. -/
theorem mem_of_isNumberLiteral {t : String} (h : isNumberLiteral t = true) {c : Char}
    (hc : c ∈ t.toList) : isDecimalDigit c = true ∨ c ∈ '\n' :: Numeral.marks := by
  obtain ⟨n, hn, htext | htext⟩ := (isNumberLiteral_iff t).1 h <;> rw [htext] at hc
  · exact (hn.mem_spelling hc).imp_right (List.mem_cons_of_mem _)
  · rcases List.mem_append.1 hc with hc | hc
    · exact (hn.mem_spelling hc).imp_right (List.mem_cons_of_mem _)
    · exact .inr (List.mem_singleton.1 hc ▸ List.mem_cons_self ..)

theorem isNumberLiteral_truthWord : ∀ b, isNumberLiteral (truthWord b) = false := by
  decide +kernel

/-- What is read of a number: its value if it is the spelling of a strict numeral. -/
theorem strictLiteral_iff_of_isNumberLiteral {t : String} (h : isNumberLiteral t = true)
    (d : Datum) : StrictLiteral t d ↔ ∃ n : Numeral, n.IsStrict ∧ t.toList = n.spelling ∧
      d = .number (n.value (numberOf 10)) := by
  constructor
  · intro hd
    cases hd with
    | truth b =>
      rw [isNumberLiteral_truthWord] at h
      cases h
    | number hn htext => exact ⟨_, hn, htext, rfl⟩
    | text _ =>
      rcases mem_of_isNumberLiteral h (quote_mem _) with h | h <;> exact absurd h (by decide)
  · rintro ⟨n, hn, htext, rfl⟩
    exact .number hn htext

/-- What is read of a word for a truth value: that value. -/
theorem strictLiteral_truthWord_iff (b : Bool) (d : Datum) :
    StrictLiteral (truthWord b) d ↔ d = .truth b := by
  constructor
  · intro hd
    generalize ht : truthWord b = t at hd
    cases hd with
    | truth b' => rw [truthWord_inj b b' ht]
    | number hn htext =>
      have hnumber := (isNumberLiteral_iff _).2 ⟨_, hn.hasDigits, .inl htext⟩
      rw [← ht, isNumberLiteral_truthWord] at hnumber
      cases hnumber
    | text _ => exact absurd (ht ▸ quote_mem _) (quote_not_mem_truthWord b)
  · rintro rfl
    exact .truth b

/-! ### What is written for a value -/

/-- A value of a type stands for one datum. -/
theorem existsUnique_means (type value : String) : ∃! d, Means type value d := by
  suffices h : ∃ d, Means type value d from h.imp fun d hd => ⟨hd, fun _ hd' => hd'.unique hd⟩
  by_cases hword : ∃ b, type = "boolean" ∧ value = truthWord b
  · obtain ⟨b, htype, hvalue⟩ := hword
    exact ⟨_, .truth b htype hvalue⟩
  by_cases hnumeral : ∃ n : Numeral, type = "number" ∧ n.HasDigits isDecimalDigit ∧
      value.toList = n.spelling
  · obtain ⟨n, htype, hn, hvalue⟩ := hnumeral
    exact ⟨_, .number htype hn hvalue⟩
  · exact ⟨_, .text (fun b htype hvalue => hword ⟨b, htype, hvalue⟩)
      fun n htype hn hvalue => hnumeral ⟨n, htype, hn, hvalue⟩⟩

theorem Means.eq_iff {type value : String} {d : Datum} (h : Means type value d) (d' : Datum) :
    Means type value d' ↔ d' = d :=
  ⟨fun h' => h'.unique h, fun heq => heq ▸ h⟩

/-- Which numbers are plain, and what they stand for. -/
theorem isPlain_and_means_number_iff {value : String} (h : isNumberLiteral value = true)
    (d : Datum) : IsPlain "number" value ∧ Means "number" value d ↔
      ∃ n : Numeral, n.IsStrict ∧ value.toList = n.spelling ∧
        d = .number (n.value (numberOf 10)) := by
  constructor
  · rintro ⟨hplain, hmeans⟩
    obtain ⟨n, hn, htext | htext⟩ := (isNumberLiteral_iff value).1 h
    · have hascii := hplain.ascii rfl h
      have hidle := hplain.zero rfl h
      rw [htext] at hascii hidle
      have hstrict : n.IsStrict := (Numeral.isStrict_iff hn).2 ⟨hascii, hidle⟩
      refine ⟨n, hstrict, htext, ?_⟩
      rw [← Numeral.value_eq_of_ascii hstrict.digits]
      exact hmeans.unique (.number rfl hn htext)
    · exact absurd (by simp [htext]) hplain.newline
  · rintro ⟨n, hstrict, htext, rfl⟩
    obtain ⟨hascii, hidle⟩ := (Numeral.isStrict_iff hstrict.hasDigits).1 hstrict
    have hbreaks : ∀ c ∈ lineBreaks, c ∉ value.toList := by
      intro c hc hmem
      rw [htext] at hmem
      rcases hstrict.digits.mem_spelling hmem with h | h <;>
        rcases eq_of_mem_lineBreaks hc with rfl | rfl <;> exact absurd h (by decide)
    rw [← Numeral.value_eq_of_ascii hstrict.digits]
    exact ⟨⟨hbreaks _ (by decide), hbreaks _ (by decide), fun _ _ => htext ▸ hascii,
      fun _ _ => htext ▸ hidle⟩, .number rfl hstrict.hasDigits htext⟩

/-- The words for truth values are plain. -/
theorem isPlain_truthWord (b : Bool) : IsPlain "boolean" (truthWord b) where
  newline := by cases b <;> decide
  carriage := by cases b <;> decide
  ascii htype := absurd htype (by decide)
  zero htype := absurd htype (by decide)

/-- Which other values are plain. -/
theorem isPlain_iff_of_not {type value : String}
    (h : ¬ (type = "number" ∧ isNumberLiteral value = true)) :
    IsPlain type value ↔ '\n' ∉ value.toList ∧ '\r' ∉ value.toList :=
  ⟨fun hplain => ⟨hplain.newline, hplain.carriage⟩, fun ⟨hnewline, hcarriage⟩ =>
    ⟨hnewline, hcarriage, fun htype hnumber => absurd ⟨htype, hnumber⟩ h,
      fun htype hnumber => absurd ⟨htype, hnumber⟩ h⟩⟩

/-- **A value is written as the literal for what it stands for if it is plain**, and
otherwise as no literal at all.  What it stands for is fixed by its type. -/
theorem strict_literal_iff_plain (name type value : String) :
    (Constant.mk name (some value) type).declaration =
        "export const " ++ name ++ " = " ++ literal type (some value) ++ ";" ∧
      (∃! d, Means type value d) ∧
      ∀ d, StrictLiteral (literal type (some value)) d ↔
        IsPlain type value ∧ Means type value d := by
  refine ⟨rfl, existsUnique_means type value, fun d => ?_⟩
  -- the cases are the ways in which a value is written: as a number, as a word, in quotes
  rw [literal]
  split
  · next hnumber =>
    rw [Bool.and_eq_true, decide_eq_true_eq] at hnumber
    obtain ⟨rfl, hnumber⟩ := hnumber
    rw [strictLiteral_iff_of_isNumberLiteral hnumber, isPlain_and_means_number_iff hnumber]
  · next hnumber =>
    rw [Bool.and_eq_true, decide_eq_true_eq] at hnumber
    split
    · next hword =>
      rw [Bool.and_eq_true, Bool.or_eq_true, decide_eq_true_eq, decide_eq_true_eq,
        decide_eq_true_eq] at hword
      obtain ⟨rfl, hvalue⟩ := hword
      obtain ⟨b, rfl⟩ : ∃ b, value = truthWord b :=
        hvalue.elim (⟨true, ·⟩) (⟨false, ·⟩)
      rw [strictLiteral_truthWord_iff, Means.eq_iff (.truth b rfl rfl)]
      exact (and_iff_right (isPlain_truthWord b)).symm
    · next hword =>
      have hmeans : Means type value (.text value) := by
        refine .text ?_ fun n htype hn htext =>
          hnumber ⟨htype, (isNumberLiteral_iff value).2 ⟨n, hn, .inl htext⟩⟩
        rintro b rfl rfl
        exact hword (by cases b <;> rfl)
      rw [strictLiteral_quoted_iff, isPlain_iff_of_not hnumber, hmeans.eq_iff]

/-- The parts of `-0.5e3`. -/
def stepSize : Numeral :=
  ⟨true, ['0'], some ['5'], some ⟨false, none, ['3']⟩⟩

theorem hasDigits_stepSize : stepSize.HasDigits isDecimalDigit where
  whole := List.forall_mem_singleton.2 (by decide)
  fraction := by
    rintro _ ⟨⟩
    exact List.forall_mem_singleton.2 (by decide)
  mantissa := .inl (by decide)
  exponent := by
    rintro _ ⟨⟩
    exact ⟨by decide, List.forall_mem_singleton.2 (by decide)⟩

/-- A number and a text that are plain. -/
theorem strict_literals_of_step_and_title :
    StrictLiteral (literal "number" (some "-0.5e3")) (.number (-500)) ∧
      StrictLiteral (literal "string" (some "it's")) (.text "it's") := by
  constructor
  · have hvalue : stepSize.value wideNumber = -500 := by decide +kernel
    have hplain : IsPlain "number" "-0.5e3" :=
      ⟨by decide, by decide, fun _ _ => by simp, fun _ _ => by decide⟩
    refine ((strict_literal_iff_plain "STEP" "number" "-0.5e3").2.2 _).2 ⟨hplain, ?_⟩
    rw [← hvalue]
    exact .number rfl hasDigits_stepSize (by decide)
  · have hstring : "string" ≠ "number" ∧ "string" ≠ "boolean" := by decide
    have hplain : IsPlain "string" "it's" :=
      ⟨by decide, by decide, fun htype => absurd htype hstring.1,
        fun htype => absurd htype hstring.1⟩
    refine ((strict_literal_iff_plain "TITLE" "string" "it's").2.2 _).2 ⟨hplain, ?_⟩
    exact .text (fun _ htype => absurd htype hstring.2) fun _ htype => absurd htype hstring.1

/-- A line feed is left as it is, and breaks the line within the quotes. -/
theorem line_feed_left_in_quotes :
    (Constant.mk "GREETING" (some "a\nb") "string").declaration =
        "export const GREETING = 'a\nb';" ∧
      ∀ d, ¬ StrictLiteral (literal "string" (some "a\nb")) d := by
  have hliteral : literal "string" (some "a\nb") = "'" ++ escape "a\nb" ++ "'" := by
    decide +kernel
  refine ⟨by decide +kernel, fun d hd => ?_⟩
  rw [hliteral, strictLiteral_quoted_iff] at hd
  exact hd.1.1 (by decide)

end GirTypings
