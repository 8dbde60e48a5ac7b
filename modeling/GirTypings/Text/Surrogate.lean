/-!
# Surrogate pairs

A character beyond the basic plane is written with two 16-bit units, a **leading** and a
**trailing** one, which are no characters themselves.  The low ten bits of each hold a
half of the distance from the end of the basic plane.
-/

namespace GirTypings.Text

/-- Whether a unit is the first of a pair. -/
def isLeading (u : Nat) : Bool :=
  0xD800 ≤ u && u < 0xDC00

/-- Whether a unit is the second of a pair. -/
def isTrailing (u : Nat) : Bool :=
  0xDC00 ≤ u && u < 0xE000

/-- The number of the character that a pair writes.  Only the low ten bits of each unit
count. -/
def pairNumber (leading trailing : Nat) : Nat :=
  0x10000 + leading % 0x400 * 0x400 + trailing % 0x400

/-- The character that a pair writes. -/
def pairChar (leading trailing : Nat) : Char :=
  Char.ofNat (pairNumber leading trailing)

/-- Two units write a character, whatever they are, and one beyond the basic plane. -/
theorem pairNumber_valid (u v : Nat) :
    (pairNumber u v).isValidChar ∧ 0x10000 ≤ pairNumber u v := by
  refine ⟨.inr ⟨?_, ?_⟩, ?_⟩ <;> unfold pairNumber <;> omega

end GirTypings.Text
