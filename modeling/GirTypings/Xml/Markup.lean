import GirTypings.Xml.Declaration

/-!
# Markup

The body of a document, and the text of an entity that content refers to, is a
sequence of **pieces**: runs of text, references, and tags.  Pieces are what can be
told apart without knowing the declarations: attribute values are still as they were
written, and references are not replaced.  Comments and processing instructions are
pieces that say nothing.
-/

namespace GirTypings.Xml

open Scanner

/-- A piece of content. -/
inductive Piece where
  /-- Characters that are written as they are. -/
  | text (run : List Char)
  /-- Characters of a section in which nothing is markup. -/
  | verbatim (run : List Char)
  /-- A reference. -/
  | reference (r : Reference)
  /-- A start tag with the attributes as they are written; `closed` if it is its own
  end tag. -/
  | opens (name : QualifiedName) (attributes : List (QualifiedName × List Char)) (closed : Bool)
  /-- An end tag. -/
  | closes (name : QualifiedName)
  /-- A comment or a processing instruction. -/
  | silent
deriving DecidableEq, Repr

/-- Whether a text holds the end mark of a verbatim section. -/
def holdsSectionEnd : List Char → Bool
  | [] => false
  | c :: rest => (dropStart? [']', ']', '>'] (c :: rest)).isSome || holdsSectionEnd rest

/-- An attribute of a tag, with the space before it. -/
def taggedAttribute : Eager Char (QualifiedName × List Char) :=
  someSpaces.andThen fun _ => do
    let name ← qualifiedName.scan
    spaces
    word "="
    spaces
    return (name, ← quoted.scan)

/-- A start tag after `<`. -/
def startTagBody : Scanner Char Piece := do
  let name ← qualifiedName.scan
  let attributes ← taggedAttribute.many
  spaces
  (do word ">"; return .opens name attributes false)
    <|> (do word "/>"; return .opens name attributes true)

/-- An end tag after `<`. -/
def endTagBody : Scanner Char Piece := do
  word "/"
  let name ← qualifiedName.scan
  spaces
  word ">"
  return .closes name

/-- A verbatim section after `<`. -/
def sectionBody : Scanner Char Piece := do
  word "![CDATA["
  return .verbatim (← through "]]>")

/-- A comment or a processing instruction after `<`. -/
def silentBody : Scanner Char Unit :=
  (do word "!"; commentBody) <|> (do word "?"; instructionBody)

/-- A run of text.  The end mark of a verbatim section may not stand in it. -/
def textRun : Eager Char Piece :=
  (someCharsWhere fun c => c != '<' && c != '&').andThen fun run => do
    .require (!holdsSectionEnd run)
    return .text run

/-- A piece of content. -/
def piece : Eager Char Piece :=
  textRun
  <|> (reference.andThen fun r => pure (.reference r))
  <|> ((char '<').andThen fun _ =>
    startTagBody <|> endTagBody <|> sectionBody <|> do silentBody; return .silent)

/-- The pieces of a whole text. -/
def pieces? (text : List Char) : Option (List Piece) :=
  piece.many.all? text

end GirTypings.Xml
