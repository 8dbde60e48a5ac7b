import GirTypings.Text.Numeral
import GirTypings.Xml.Name

/-!
# Characters and references

A document may hold the tab, the line feed, the carriage return, and every character
from the space on except the two at the end of the basic plane.  A character may also
be written by its number, and an **entity** is referred to by name.  Five entities are
predefined and stand for the characters of markup.

A quoted value is a list of **fragments**: characters that stand for themselves, and
references.
-/

namespace GirTypings.Xml

open Scanner

/-- Whether a character may stand in a document. -/
def isDocumentChar (c : Char) : Bool :=
  let n := c.toNat
  n == 9 || n == 10 || n == 13 || (0x20 ≤ n && n != 0xFFFE && n != 0xFFFF)

/-- The character with a given number, if a document may hold it. -/
def charOfNumber? (n : Nat) : Option Char :=
  if n.isValidChar && isDocumentChar (Char.ofNat n) then some (Char.ofNat n) else none

/-- What a reference stands for. -/
inductive Reference where
  /-- A character given by its number. -/
  | character (c : Char)
  /-- A named entity. -/
  | entity (name : String)
deriving DecidableEq, Repr

/-- A reference after its ampersand, with the semicolon. -/
def referenceBody : Scanner Char Reference :=
  (do word "#x"
      let digits ← (someCharsWhere Text.isHexDigit).scan
      word ";"
      let c ← Scanner.ofOption (charOfNumber? (Text.numberOf 16 digits))
      return .character c)
  <|> (do word "#"
          let digits ← (someCharsWhere Char.isDigit).scan
          word ";"
          let c ← Scanner.ofOption (charOfNumber? (Text.numberOf 10 digits))
          return .character c)
  <|> (do let name ← plainName.scan
          word ";"
          return .entity name)

/-- A reference. -/
def reference : Eager Char Reference :=
  (char '&').andThen fun _ => referenceBody

/-- The character that a predefined entity stands for. -/
def predefined? (name : String) : Option Char :=
  if name = "lt" then some '<'
  else if name = "gt" then some '>'
  else if name = "amp" then some '&'
  else if name = "apos" then some '\''
  else if name = "quot" then some '"'
  else none

/-- A part of a quoted value. -/
inductive Fragment where
  /-- A character that is written as it is. -/
  | plain (c : Char)
  /-- A reference to a character or to an entity. -/
  | reference (r : Reference)
deriving DecidableEq, Repr

/-- A fragment of a quoted value. -/
def fragment : Eager Char Fragment :=
  (reference.andThen fun r => pure (.reference r))
  <|> ((charWhere (· != '&')).andThen fun c => pure (.plain c))

/-- The fragments of a value; `none` if an ampersand starts no reference. -/
def fragments? (value : List Char) : Option (List Fragment) :=
  fragment.many.all? value

/-- What stands between two equal quotation marks. -/
def quoted : Eager Char (List Char) :=
  ((char '"').andThen fun _ => through "\"") <|> ((char '\'').andThen fun _ => through "'")

end GirTypings.Xml
