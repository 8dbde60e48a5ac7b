import GirTypings.Text.Piece

/-!
# Lines

A text is cut into lines at every **line break**: line feed, vertical tab, form
feed, carriage return, the three upper information separators, the next-line
control and the line and paragraph separators.  A carriage return followed by a
line feed is one break.  A break at the very end closes the last line and opens no
new one.

Files are read with a narrower rule: `unifyNewlines` turns a carriage return, and a
carriage return with its line feed, into one line feed.
-/

namespace GirTypings.Text

/-- Whether a character ends a line. -/
def isLineBreak (c : Char) : Bool :=
  let n := c.toNat
  (10 ≤ n && n ≤ 13) || (28 ≤ n && n ≤ 30) || n == 0x85 || n == 0x2028 || n == 0x2029

/-- The lines of a text without their breaks. -/
def lineChars : List Char → List (List Char)
  | [] => []
  | '\r' :: '\n' :: rest => [] :: lineChars rest
  | c :: rest => if isLineBreak c then [] :: lineChars rest else growFirst c (lineChars rest)

/-- The lines of a text without their breaks. -/
def lines (t : String) : List String :=
  (lineChars t.toList).map .ofList

@[simp] theorem lineChars_nil : lineChars [] = [] := rfl

/-- No line holds a line break. -/
theorem not_isLineBreak_of_mem_lineChars (cs : List Char) :
    ∀ l ∈ lineChars cs, ∀ c ∈ l, ¬ isLineBreak c = true := by
  fun_induction lineChars cs with
  | case1 => simp
  | case2 rest ih => simpa using ih
  | case3 c rest _ hbreak ih => simpa using ih
  | case4 c rest _ hbreak ih => exact forall_mem_growFirst hbreak ih

/-! ### Newlines of files -/

/-- Every carriage return, with the line feed after it if there is one, becomes one
line feed. -/
def unifyNewlineChars : List Char → List Char
  | [] => []
  | '\r' :: '\n' :: rest => '\n' :: unifyNewlineChars rest
  | c :: rest => (if c = '\r' then '\n' else c) :: unifyNewlineChars rest

/-- The text with every carriage return, alone or before a line feed, made a line
feed. -/
def unifyNewlines (t : String) : String :=
  .ofList (unifyNewlineChars t.toList)

/-- No carriage return is left. -/
theorem cr_not_mem_unifyNewlineChars (cs : List Char) : '\r' ∉ unifyNewlineChars cs := by
  fun_induction unifyNewlineChars cs with
  | case1 => simp
  | case2 rest ih => simpa using ih
  | case3 c rest _ ih =>
    by_cases h : c = '\r'
    · simpa [h] using ih
    · simpa [h, eq_comm] using ih

end GirTypings.Text
