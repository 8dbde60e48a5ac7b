/-!
# Digits

The **decimal digits** of a script are ten consecutive characters, zero to nine, so
a table of the zeros lists them all.  The **digits** also contain characters that
stand for a digit without belonging to a decimal system: superscripts, subscripts,
circled and parenthesised digits, and the digits of a few older scripts.
-/

namespace GirTypings.Text

/-- The zero of each run of ten decimal digits, in increasing order. -/
def decimalZeros : List Nat := [
  0x0030, 0x0660, 0x06F0, 0x07C0, 0x0966, 0x09E6, 0x0A66, 0x0AE6, 0x0B66, 0x0BE6, 0x0C66, 0x0CE6,
  0x0D66, 0x0DE6, 0x0E50, 0x0ED0, 0x0F20, 0x1040, 0x1090, 0x17E0, 0x1810, 0x1946, 0x19D0, 0x1A80,
  0x1A90, 0x1B50, 0x1BB0, 0x1C40, 0x1C50, 0xA620, 0xA8D0, 0xA900, 0xA9D0, 0xA9F0, 0xAA50, 0xABF0,
  0xFF10, 0x104A0, 0x10D30, 0x11066, 0x110F0, 0x11136, 0x111D0, 0x112F0, 0x11450, 0x114D0,
  0x11650, 0x116C0, 0x11730, 0x118E0, 0x11950, 0x11C50, 0x11D50, 0x11DA0, 0x16A60, 0x16AC0,
  0x16B50, 0x1D7CE, 0x1D7D8, 0x1D7E2, 0x1D7EC, 0x1D7F6, 0x1E140, 0x1E2F0, 0x1E950, 0x1FBF0]

/-- Whether a character is a decimal digit of some script. -/
def isDecimalDigit (c : Char) : Bool :=
  decimalZeros.any fun n => n ≤ c.toNat && c.toNat ≤ n + 9

/-- The value of a decimal digit. -/
def decimalValue? (c : Char) : Option Nat :=
  (decimalZeros.find? fun n => n ≤ c.toNat && c.toNat ≤ n + 9).map (c.toNat - ·)

/-- The number that decimal digits write, of whatever scripts; `none` if there are none,
or if something else stands among them. -/
def decimalOf? (cs : List Char) : Option Nat :=
  if cs = [] then none
  else cs.foldlM (fun n c => (decimalValue? c).map (n * 10 + ·)) 0

/-- The ranges of the digits that belong to no decimal system. -/
def standaloneDigits : List (Nat × Nat) := [
  (0x00B2, 0x00B3), (0x00B9, 0x00B9), (0x1369, 0x1371), (0x19DA, 0x19DA), (0x2070, 0x2070),
  (0x2074, 0x2079), (0x2080, 0x2089), (0x2460, 0x2468), (0x2474, 0x247C), (0x2488, 0x2490),
  (0x24EA, 0x24EA), (0x24F5, 0x24FD), (0x24FF, 0x24FF), (0x2776, 0x277E), (0x2780, 0x2788),
  (0x278A, 0x2792), (0x10A40, 0x10A43), (0x10E60, 0x10E68), (0x11052, 0x1105A), (0x1F100, 0x1F10A)]

/-- Whether a character stands for a digit. -/
def isDigit (c : Char) : Bool :=
  isDecimalDigit c || standaloneDigits.any fun r => r.1 ≤ c.toNat && c.toNat ≤ r.2

/-- The ASCII digits are decimal digits. -/
theorem isDecimalDigit_of_ascii {c : Char} (h : c.isDigit = true) : isDecimalDigit c = true := by
  simp only [Char.isDigit, Bool.and_eq_true, decide_eq_true_eq] at h
  have h0 : (0x30 : Nat) ≤ c.toNat := h.1
  have h9 : c.toNat ≤ (0x30 : Nat) + 9 := h.2
  exact List.any_eq_true.2 ⟨0x30, by decide, by simp [h0, h9]⟩

end GirTypings.Text
