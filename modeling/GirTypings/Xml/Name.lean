import GirTypings.Xml.NameChar
import GirTypings.Scanner

/-!
# Names as they are written

A name in a tag is **qualified**: an optional prefix with a colon, then a local name,
both plain.  Inside declarations names are read more loosely, as runs of name
characters and colons, and `isDeclaredName` tells which runs can name an element or an
attribute there.
-/

namespace GirTypings.Xml

open Scanner

/-- Whether a character is one of the four spaces of markup. -/
def isSpace (c : Char) : Bool :=
  c == ' ' || c == '\t' || c == '\n' || c == '\r'

/-- Any number of spaces. -/
def spaces : Scanner Char Unit := do
  let _ ← charsWhere isSpace

/-- One space or more. -/
def someSpaces : Eager Char Unit :=
  (charWhere isSpace).andThen fun _ => spaces

/-- A name without a colon. -/
def plainName : Eager Char String :=
  (charWhere isNameStart).andThen fun c => do return .ofList (c :: (← charsWhere isNameChar))

/-- A name as a tag writes it. -/
structure QualifiedName where
  /-- What stands before the colon, if there is one. -/
  qualifier : Option String
  /-- What stands after the colon, or the whole name. -/
  localName : String
deriving DecidableEq, Repr

/-- The name as it is written. -/
def QualifiedName.text (q : QualifiedName) : String :=
  match q.qualifier with
  | none => q.localName
  | some p => p ++ ":" ++ q.localName

/-- A plain name, or two with a colon between them. -/
def qualifiedName : Eager Char QualifiedName :=
  plainName.andThen fun first =>
    ((char ':').andThen fun _ => do return ⟨some first, ← plainName.scan⟩).scan
      <|> pure ⟨none, first⟩

/-- Whether a run of name characters and colons can name an element or an attribute
in a declaration: it starts a name, and holds at most one colon, which is neither the
first nor the last character. -/
def isDeclaredName (t : String) : Bool :=
  match t.toList.span (· != ':') with
  | (first, []) => isPlainName first
  | (first, _ :: second) => isPlainName first && !second.isEmpty && second.all isNameChar

end GirTypings.Xml
