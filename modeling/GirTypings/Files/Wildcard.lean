/-!
# Wildcards

A part of a pattern may stand for several names: a star for any characters, a question
mark for one, and a set in brackets for one character of the set.  A set lists single
characters, and ranges with a hyphen between their ends; a range whose ends are in the
wrong order holds nothing.  An exclamation mark at the start of a set inverts it.  It
does so too if it comes to the start because all ranges before it hold nothing; a range
from it then stands for the hyphen and its end.

Matching goes through the signs once.  For each it keeps a **row**, which tells for
every end of the name whether the signs from there on stand for it; so the time taken
is the product of the lengths, however many stars there are.  `signsMatch_one` and
`signsMatch_star` say what a row means.
-/

namespace GirTypings.Files

/-! ### Sets of characters -/

/-- A part of a set in brackets. -/
inductive SetItem where
  /-- A character. -/
  | single (c : Char)
  /-- The characters between two, with them. -/
  | range (low high : Char)
deriving DecidableEq, Repr

namespace SetItem

/-- Whether a character is among those that are listed. -/
def holds : SetItem → Char → Bool
  | single a, c => a == c
  | range low high, c => low ≤ c && c ≤ high

/-- Whether no character is among those that are listed. -/
def isEmpty : SetItem → Bool
  | single _ => false
  | range low high => !(low ≤ high)

/-- What the characters between brackets list. -/
def ofChars : List Char → List SetItem
  | [] => []
  | a :: '-' :: b :: rest => .range a b :: ofChars rest
  | a :: rest => .single a :: ofChars rest

/-- A part of a set that is empty holds no character. -/
theorem holds_eq_false_of_isEmpty {s : SetItem} (h : s.isEmpty = true) (c : Char) :
    s.holds c = false := by
  cases s with
  | single a => simp [isEmpty] at h
  | range low high =>
    simp only [isEmpty, Bool.not_eq_true', decide_eq_false_iff_not] at h
    simp only [holds, Bool.and_eq_false_imp, decide_eq_true_eq, decide_eq_false_iff_not]
    exact fun hl hh => h (Char.le_trans hl hh)

end SetItem

/-- Whether a character is in the set that the characters between brackets write. -/
def inBrackets : List Char → Char → Bool
  | '!' :: set, c => !(SetItem.ofChars set).any (·.holds c)
  | set, c =>
    match (SetItem.ofChars set).filter (!·.isEmpty) with
    | .single '!' :: items => !items.any (·.holds c)
    | .range '!' high :: items => !(c == '-' || c == high || items.any (·.holds c))
    | items => items.any (·.holds c)

/-- What stands before the next closing bracket, and what after it. -/
def splitBracket? : List Char → Option (List Char × List Char)
  | [] => none
  | ']' :: rest => some ([], rest)
  | c :: rest => (splitBracket? rest).map fun (set, after) => (c :: set, after)

/-- The characters between an opening bracket and the one that closes it, and what
follows.  A closing bracket at the start of the set belongs to it. -/
def bracketed? : List Char → Option (List Char × List Char)
  | '!' :: ']' :: rest => (splitBracket? rest).map fun (set, after) => ('!' :: ']' :: set, after)
  | '!' :: rest => (splitBracket? rest).map fun (set, after) => ('!' :: set, after)
  | ']' :: rest => (splitBracket? rest).map fun (set, after) => (']' :: set, after)
  | cs => splitBracket? cs

theorem length_splitBracket? {cs set after : List Char} (h : splitBracket? cs = some (set, after)) :
    after.length < cs.length := by
  induction cs generalizing set after with
  | nil => simp [splitBracket?] at h
  | cons c rest ih =>
    unfold splitBracket? at h
    split at h
    · simp at h
    · simp_all
    · rename_i hcons
      obtain ⟨rfl, rfl⟩ := List.cons.inj hcons
      simp only [Option.map_eq_some_iff, Prod.exists, Prod.mk.injEq] at h
      obtain ⟨s, r, hs, _, rfl⟩ := h
      exact Nat.lt_succ_of_lt (ih hs)

theorem length_bracketed? {cs set after : List Char} (h : bracketed? cs = some (set, after)) :
    after.length < cs.length := by
  unfold bracketed? at h
  split at h
  · simp only [Option.map_eq_some_iff, Prod.exists, Prod.mk.injEq] at h
    obtain ⟨s, r, hs, _, rfl⟩ := h
    have := length_splitBracket? hs
    simp; omega
  · simp only [Option.map_eq_some_iff, Prod.exists, Prod.mk.injEq] at h
    obtain ⟨s, r, hs, _, rfl⟩ := h
    have := length_splitBracket? hs
    simp; omega
  · simp only [Option.map_eq_some_iff, Prod.exists, Prod.mk.injEq] at h
    obtain ⟨s, r, hs, _, rfl⟩ := h
    have := length_splitBracket? hs
    simp; omega
  · exact length_splitBracket? h

/-! ### Signs -/

/-- A sign of a pattern. -/
inductive Sign where
  /-- Any number of any characters. -/
  | star
  /-- One character of some class. -/
  | one (among : Char → Bool)

/-- The signs of a part of a pattern.  A bracket that nothing closes is a character. -/
def signs : List Char → List Sign
  | [] => []
  | c :: rest =>
    if c = '*' then .star :: signs rest
    else if c = '?' then .one (fun _ => true) :: signs rest
    else if c = '[' then
      match h : bracketed? rest with
      | some (set, after) =>
        have := length_bracketed? h
        .one (inBrackets set) :: signs after
      | none => .one (· == '[') :: signs rest
    else .one (· == c) :: signs rest
termination_by cs => cs.length

/-- Whether a part of a pattern may stand for several names. -/
def isOpen (part : String) : Bool :=
  part.toList.any fun c => c == '*' || c == '?' || c == '['

/-! ### Matching -/

/-- At each place, whether a row holds there or at a later place. -/
def orLater : List Bool → List Bool
  | [] => []
  | b :: rest =>
    let later := orLater rest
    (b || later.headD false) :: later

/-- For every end of a name, longest first, whether signs stand for it. -/
def matchRow : List Sign → List Char → List Bool
  | [], cs => cs.map (fun _ => false) ++ [true]
  | .one among :: more, cs =>
    List.zipWith (fun c after => among c && after) cs (matchRow more cs).tail ++ [false]
  | .star :: more, cs => orLater (matchRow more cs)

/-- Whether signs stand for a name. -/
def signsMatch (p : List Sign) (cs : List Char) : Bool :=
  (matchRow p cs).headD false

@[simp] theorem length_orLater (row : List Bool) : (orLater row).length = row.length := by
  induction row with
  | nil => rfl
  | cons b rest ih => simp [orLater, ih]

@[simp] theorem tail_orLater (row : List Bool) : (orLater row).tail = orLater row.tail := by
  cases row <;> rfl

@[simp] theorem length_matchRow (p : List Sign) (cs : List Char) :
    (matchRow p cs).length = cs.length + 1 := by
  induction p with
  | nil => simp [matchRow]
  | cons s more ih => cases s <;> simp [matchRow, ih]

/-- The row of a name goes on with that of the name without its first character. -/
theorem matchRow_cons (p : List Sign) (c : Char) (cs : List Char) :
    matchRow p (c :: cs) = signsMatch p (c :: cs) :: matchRow p cs := by
  have tail_eq : (matchRow p (c :: cs)).tail = matchRow p cs := by
    induction p with
    | nil => rfl
    | cons s more ih =>
      cases s with
      | star => simp [matchRow, ih]
      | one among =>
        have hlen := length_matchRow more cs
        cases hrow : matchRow more cs with
        | nil => simp [hrow] at hlen
        | cons b row => simp [matchRow, ih, hrow]
  have hlen := length_matchRow p (c :: cs)
  cases hrow : matchRow p (c :: cs) with
  | nil => simp [hrow] at hlen
  | cons b row =>
    rw [hrow] at tail_eq
    simp [signsMatch, hrow, ← tail_eq]

@[simp] theorem signsMatch_nil (cs : List Char) : signsMatch [] cs = cs.isEmpty := by
  cases cs <;> rfl

/-- A class takes one character away. -/
theorem signsMatch_one (among : Char → Bool) (more : List Sign) (c : Char) (cs : List Char) :
    signsMatch (.one among :: more) (c :: cs) = (among c && signsMatch more cs) := by
  have hrow : matchRow more cs = signsMatch more cs :: (matchRow more cs).tail := by
    cases cs with
    | cons d rest => rw [matchRow_cons, List.tail_cons]
    | nil =>
      have hlen := length_matchRow more []
      cases h : matchRow more [] with
      | nil => simp [h] at hlen
      | cons b row => simp [signsMatch, h]
  rw [signsMatch, matchRow, matchRow_cons, List.tail_cons, hrow]
  rfl

/-- A class stands for no empty name. -/
theorem signsMatch_one_nil (among : Char → Bool) (more : List Sign) :
    signsMatch (.one among :: more) [] = false := rfl

/-- A star stands for nothing, or for a character and then for more. -/
theorem signsMatch_star (more : List Sign) (c : Char) (cs : List Char) :
    signsMatch (.star :: more) (c :: cs) =
      (signsMatch more (c :: cs) || signsMatch (.star :: more) cs) := by
  conv => lhs; rw [signsMatch, matchRow, matchRow_cons]
  rfl

end GirTypings.Files
