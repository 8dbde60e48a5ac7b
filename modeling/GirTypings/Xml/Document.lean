import GirTypings.Text.Line
import GirTypings.Xml.Binding
import GirTypings.Xml.Encoding
import GirTypings.Xml.Token

/-!
# Documents

A document is an optional declaration of its version, a prolog with at most one
document type declaration, one element, and an epilog of comments, processing
instructions and spaces.  `document?` reads a text and answers its outermost element,
or nothing if the text is malformed in any way.

The declaration of the version may name an encoding.  Texts are given as characters
here, so the name has to be well formed and means nothing.

Newlines are made line feeds before anything else is read.  A carriage return that is
given by its number is therefore kept, also where it comes out of the text of an entity.
-/

namespace GirTypings.Xml

open Scanner

/-! ### The declaration of the version -/

/-- Whether a character may stand in a value of the declaration. -/
def isDeclarationChar (c : Char) : Bool :=
  c.isAlphanum || c == '.' || c == '-' || c == '_'

/-- A name, an equals sign and a quoted value, with the space before them. -/
def declarationItem : Eager Char (String × List Char) :=
  someSpaces.andThen fun _ => do
    let name ← (someCharsWhere fun c => !isSpace c && c != '=').scan
    spaces
    word "="
    spaces
    let value ← quoted.scan
    .require (value.all isDeclarationChar)
    return (.ofList name, value)

/-- Whether an encoding can have a name: it starts with a letter. -/
def isEncodingName (name : List Char) : Bool :=
  name.head?.any Char.isAlpha

/-- What a declaration says about standing alone, `none` if it is malformed. -/
def standaloneOf? : List (String × List Char) → Option Bool
  | ("version", _) :: rest =>
    match rest with
    | ("encoding", name) :: more => if isEncodingName name then last? more else none
    | _ => last? rest
  | _ => none
where
  /-- The last item, which is optional. -/
  last? : List (String × List Char) → Option Bool
    | [] => some false
    | [("standalone", ['y', 'e', 's'])] => some true
    | [("standalone", ['n', 'o'])] => some false
    | _ => none

/-- The declaration of the version; whether the document stands alone. -/
def versionDeclaration : Scanner Char Bool := do
  word "<?xml"
  .require (!(← aheadIs isNameChar))
  let inside ← through "?>"
  .ofOption <| (do let items ← declarationItem.many; spaces; return items : Scanner Char _).all? inside
    |>.bind standaloneOf?

/-! ### Prolog and epilog -/

/-- Spaces, a comment or a processing instruction. -/
def miscellany : Eager Char Unit :=
  someSpaces <|> ((char '<').andThen fun _ => silentBody)

/-- What comes before the outermost element: the type of the document, of which so many
bytes of entity texts may be opened.  A malformed declaration of the version is not passed
over: no processing instruction may have its target. -/
def prolog (allowed : Nat) : Scanner Char Doctype := do
  let standalone ← versionDeclaration <|> pure false
  let _ ← miscellany.many
  let start : Doctype := { allowed, standalone }
  let doctype ←
    (do word "<!"
        let (outside, declarations) ← doctypeBody
        .ofOption (declarations.foldlM (·.declare) { start with incomplete := outside }))
    <|> pure start
  let _ ← miscellany.many
  return doctype

/-- How many elements are open after a piece.  Outside the outermost element only its
start may stand. -/
def depthPast? : Nat → Piece → Option Nat
  | depth, .opens _ _ closed => some (if closed then depth else depth + 1)
  | 0, _ => none
  | depth + 1, .closes _ => some depth
  | depth, _ => some depth

/-- The pieces of the outermost element, and those after it. -/
def splitRoot? : Nat → List Piece → Option (List Piece × List Piece)
  | _, [] => none
  | depth, p :: rest =>
    match depthPast? depth p with
    | none => none
    | some 0 => some ([p], rest)
    | some deeper => (splitRoot? deeper rest).map fun (inside, outside) => (p :: inside, outside)

/-- Whether a piece may follow the outermost element. -/
def Piece.isEpilog : Piece → Bool
  | .silent => true
  | .text run => run.all isSpace
  | _ => false

/-! ### The tree -/

/-- An element that has begun and not ended. -/
structure Frame where
  /-- The name as the start tag writes it. -/
  written : QualifiedName
  /-- The expanded name. -/
  name : ExpandedName
  /-- The attributes. -/
  attributes : List Attribute
  /-- What prefixes stand for inside the element. -/
  scope : Bindings
  /-- The content so far, last part first. -/
  content : List Node

namespace Frame

/-- The frame with one more part of content.  A run of text joins one before it. -/
def push (f : Frame) (n : Node) : Frame :=
  match n, f.content with
  | .text run, .text before :: rest => { f with content := .text (before ++ run) :: rest }
  | _, content => { f with content := n :: content }

/-- The element, once its end has been reached. -/
def element (f : Frame) : Element :=
  .mk f.name f.attributes f.content.reverse

/-- The frame of an element that begins where prefixes stand for `scope`. -/
def open? (scope : Bindings) (written : QualifiedName) (attributes : List (QualifiedName × String)) :
    Option Frame := do
  let inner ← scope.enter? attributes
  return ⟨written, ← inner.element? written, ← inner.attributes? attributes, inner, []⟩

end Frame

/-- The element that tokens make, where `frames` have begun, innermost first. -/
def elementOf? : List Frame → List Token → Option Element
  | _, [] => none
  | [], .opens name attributes :: rest => do
    elementOf? [← Frame.open? .initial name attributes] rest
  | [], _ => none
  | f :: frames, .text run :: rest => elementOf? (f.push (.text run) :: frames) rest
  | f :: frames, .opens name attributes :: rest => do
    elementOf? ((← Frame.open? f.scope name attributes) :: f :: frames) rest
  | f :: frames, .closes name :: rest =>
    if f.written != name then none
    else match frames with
      | [] => if rest.isEmpty then some f.element else none
      | g :: outer => elementOf? (g.push (.element f.element) :: outer) rest

/-- The outermost element of a document; `none` if the text is malformed.  A byte order
mark at the start is passed over. -/
def document? (text : String) : Option Element := do
  let cs := match ← recognize? text with
    | '\uFEFF' :: rest => rest
    | cs => cs
  guard (cs.all isDocumentChar)
  let (doctype, pieces) ←
    (do return (← prolog (allowance (byteCount cs)), ← piece.many) : Scanner Char _).all?
      (Text.unifyNewlineChars cs)
  let (inside, outside) ← splitRoot? 0 pieces
  guard (outside.all Piece.isEpilog)
  guard (opensWithin doctype.allowed doctype.entities (inside.flatMap Piece.entityNames))
  elementOf? [] (← doctype.tokens? doctype.entities inside)

end GirTypings.Xml
