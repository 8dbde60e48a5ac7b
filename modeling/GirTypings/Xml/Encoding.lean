import GirTypings.Text.Surrogate

/-!
# Wide characters

A document starts with an ASCII character.  If the text given has a NUL in one of its
first two places, then its bytes are in truth 16-bit units, each with the more
significant byte first or last, and were taken for single bytes.  `recognize?` puts such
a text right and leaves every other as it is.
-/

namespace GirTypings.Xml

/-- The 16-bit units of some bytes; `none` if half a unit is left. -/
def units? (highFirst : Bool) : List UInt8 → Option (List Nat)
  | [] => some []
  | [_] => none
  | a :: b :: rest =>
    let unit := if highFirst then a.toNat * 256 + b.toNat else b.toNat * 256 + a.toNat
    (units? highFirst rest).map (unit :: ·)

/-- The characters that 16-bit units write.  A leading unit makes a pair with whatever
unit follows; `none` if nothing follows one, or if a trailing unit stands alone. -/
def charsOfUnits? : List Nat → Option (List Char)
  | [] => some []
  | u :: rest =>
    if u.isValidChar then (charsOfUnits? rest).map (Char.ofNat u :: ·)
    else match rest with
      | [] => none
      | v :: more =>
        if Text.isLeading u then
          (charsOfUnits? more).map (Text.pairChar u v :: ·)
        else none

/-- The characters of a document whose text is given; `none` if they cannot be made out. -/
def recognize? (text : String) : Option (List Char) :=
  match text.toList with
  | c :: d :: rest =>
    if c = '\x00' then (units? true text.toUTF8.toList).bind charsOfUnits?
    else if d = '\x00' && c.toNat < 128 then
      (units? false text.toUTF8.toList).bind charsOfUnits?
    else some (c :: d :: rest)
  | cs => some cs

end GirTypings.Xml
