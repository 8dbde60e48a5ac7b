import GirTypings.Text.Piece

/-!
# Blank characters

Words are separated by **blank** characters: the ASCII controls from tab to
carriage return, the four information separators, the space, the next-line
control, and the spaces and separators of the wider character set.  Trimming
removes blanks at an end of a text, `words` cuts a text at its runs of blanks, and
`collapse` puts one space where each inner run was.

Each operation is written by recursion on the characters; the versions on
`String` only wrap them.
-/

namespace GirTypings.Text

/-- Whether a character separates words. -/
def isBlank (c : Char) : Bool :=
  let n := c.toNat
  (9 ≤ n && n ≤ 13) || (28 ≤ n && n ≤ 32) || n == 0x85 || n == 0xA0 || n == 0x1680 ||
    (0x2000 ≤ n && n ≤ 0x200A) || n == 0x2028 || n == 0x2029 || n == 0x202F || n == 0x205F ||
    n == 0x3000

/-! ### Trimming -/

/-- What is left of a text once the blanks at its start are removed. -/
def trimLeftChars (cs : List Char) : List Char :=
  cs.dropWhile isBlank

/-- What is left of a text once the blanks at its end are removed: a blank stays
only if something that stays follows it. -/
def trimRightChars : List Char → List Char
  | [] => []
  | c :: rest =>
    match trimRightChars rest with
    | [] => if isBlank c then [] else [c]
    | kept => c :: kept

/-- The text without the blanks at its two ends. -/
def trimChars (cs : List Char) : List Char :=
  trimRightChars (trimLeftChars cs)

/-- The text without the blanks at its two ends. -/
def trim (t : String) : String :=
  .ofList (trimChars t.toList)

@[simp] theorem trimRightChars_nil : trimRightChars [] = [] := rfl

@[simp] theorem trimChars_nil : trimChars [] = [] := rfl

/-- Trimming the end leaves nothing exactly of the texts of blanks. -/
theorem trimRightChars_eq_nil {cs : List Char} :
    trimRightChars cs = [] ↔ ∀ c ∈ cs, isBlank c = true := by
  induction cs with
  | nil => simp
  | cons c rest ih =>
    cases h : trimRightChars rest with
    | nil =>
      have hall := ih.1 h
      by_cases hc : isBlank c = true
      · simp [trimRightChars, h, hc]
        exact hall
      · simp [trimRightChars, h, hc]
    | cons d kept =>
      have hne : ¬ ∀ x ∈ rest, isBlank x = true := fun hall => by simp [ih.2 hall] at h
      simp only [trimRightChars, h, List.mem_cons, forall_eq_or_imp]
      simp [hne]

/-- Trimming the end leaves what stands in front. -/
theorem isPrefix_trimRightChars (cs : List Char) : trimRightChars cs <+: cs := by
  induction cs with
  | nil => exact List.nil_prefix
  | cons c rest ih =>
    rw [trimRightChars]
    split
    · split
      · exact List.nil_prefix
      · exact List.prefix_cons_inj c |>.2 List.nil_prefix
    · exact List.prefix_cons_inj c |>.2 ih

/-! ### Words -/

/-- Whether a text starts inside a word. -/
def startsWord : List Char → Bool
  | [] => false
  | c :: _ => !isBlank c

/-- The maximal runs of characters that are not blank, in order. -/
def wordChars : List Char → List (List Char)
  | [] => []
  | c :: rest =>
    if isBlank c then wordChars rest
    else if startsWord rest then growFirst c (wordChars rest)
    else [c] :: wordChars rest

/-- The words of a text, in order. -/
def words (t : String) : List String :=
  (wordChars t.toList).map .ofList

/-- No word holds a blank. -/
theorem not_isBlank_of_mem_wordChars (cs : List Char) :
    ∀ w ∈ wordChars cs, ∀ c ∈ w, ¬ isBlank c = true := by
  fun_induction wordChars cs with
  | case1 => simp
  | case2 c rest hblank ih => exact ih
  | case3 c rest hblank hstarts ih => exact forall_mem_growFirst hblank ih
  | case4 c rest hblank hstarts ih => simpa [hblank] using ih

end GirTypings.Text
