/-!
# Numerals

A numeral is a list of digits, the most significant first, in a base up to sixteen.  The
digits above nine are the letters from a to f, small or capital.
-/

namespace GirTypings.Text

/-- The value of a digit. -/
def digitValue? (c : Char) : Option Nat :=
  if c.isDigit then some (c.toNat - 48)
  else if 'a' ≤ c ∧ c ≤ 'f' then some (c.toNat - 87)
  else if 'A' ≤ c ∧ c ≤ 'F' then some (c.toNat - 55)
  else none

/-- Whether a character is a digit of base sixteen. -/
def isHexDigit (c : Char) : Bool :=
  (digitValue? c).isSome

/-- The number that digits write in a base. -/
def numberOf (base : Nat) (digits : List Char) : Nat :=
  digits.foldl (fun n d => n * base + (digitValue? d).getD 0) 0

@[simp] theorem numberOf_nil (base : Nat) : numberOf base [] = 0 := rfl

end GirTypings.Text
