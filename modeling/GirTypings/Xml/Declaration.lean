import GirTypings.Xml.Reference

/-!
# Declarations

The internal subset of a document type declaration holds declarations of entities,
attributes, elements and notations, references to parameter entities, and comments
and processing instructions, which mean nothing here.

A declaration is first cut into **symbols**, which spaces may separate.  A symbol
must be followed by something that can end it: a literal, for instance, by a space, by
an opening bracket or by the end of the declaration.  The grammar of each declaration
is then a condition on its symbols.
-/

namespace GirTypings.Xml

open Scanner

/-! ### Comments and processing instructions -/

/-- What follows `<!` in a comment: two hyphens may occur only before its end. -/
def commentBody : Scanner Char Unit := do
  word "--"
  let _ ← through "--"
  word ">"

/-- What follows `<?` in a processing instruction.  No target may spell `xml`. -/
def instructionBody : Scanner Char Unit := do
  let target ← plainName.scan
  .require (target.toLower != "xml")
  word "?>" <|> do
    someSpaces.scan
    let _ ← through "?>"

/-! ### Symbols -/

/-- A symbol of a declaration. -/
inductive Symbol where
  /-- A run of name characters and colons, and the mark of repetition after it. -/
  | word (text : String) (mark : Option Char)
  /-- A word after a number sign. -/
  | keyword (text : String)
  /-- A quoted text. -/
  | literal (value : List Char)
  /-- A percent sign with a space after it. -/
  | percent
  /-- An opening parenthesis. -/
  | opening
  /-- A closing parenthesis, and the mark of repetition after it. -/
  | closing (mark : Option Char)
  /-- A comma. -/
  | comma
  /-- A vertical bar. -/
  | bar
deriving DecidableEq, Repr

/-- Goes on only where the text ends or continues with a space or a given character. -/
def endsBefore (stops : List Char) : Scanner Char Unit := do
  .require (← aheadIs fun c => isSpace c || stops.contains c)

/-- A mark of repetition. -/
def mark : Eager Char Char :=
  charWhere fun c => c == '?' || c == '*' || c == '+'

/-- A mark of repetition, or the end of a symbol before one of the given characters. -/
def markOrEnd (stops : List Char) : Scanner Char (Option Char) :=
  (do return some (← mark.scan)) <|> (do endsBefore stops; return none)

/-- A symbol of a declaration. -/
def symbol : Eager Char Symbol :=
  ((someCharsWhere fun c => isNameChar c || c == ':').andThen fun cs => do
    return .word (.ofList cs) (← markOrEnd ['>', ')', ',', '|', '[']))
  <|> ((char '#').andThen fun _ => do
    let t ← plainName.scan
    endsBefore ['>', ')', '|']
    return .keyword t)
  <|> (quoted.andThen fun value => do
    endsBefore ['>', '[']
    return .literal value)
  <|> ((char '%').andThen fun _ => do
    .require (!(← aheadIs fun c => !isSpace c))
    return .percent)
  <|> ((char '(').andThen fun _ => pure .opening)
  <|> ((char ')').andThen fun _ => do
    return .closing (← markOrEnd ['>', ')', ',', '|']))
  <|> ((char ',').andThen fun _ => pure .comma)
  <|> ((char '|').andThen fun _ => pure .bar)

/-- The symbols of a declaration, with the spaces around them. -/
def symbols : Scanner Char (List Symbol) := do
  spaces
  (symbol.andThen fun s => do spaces; return s).many

/-! ### Declarations -/

/-- What an entity stands for, as its declaration writes it. -/
inductive Replacement where
  /-- A quoted text. -/
  | literal (value : List Char)
  /-- A resource outside the document. -/
  | external
  /-- A resource outside the document that is no markup. -/
  | unparsed
deriving DecidableEq, Repr

/-- The declaration of one attribute of an element. -/
structure AttributeRule where
  /-- The attribute's name as it is written. -/
  name : String
  /-- Whether the value is a list of tokens, so that spaces in it do not count. -/
  tokenized : Bool
  /-- The default value, if there is one. -/
  fallback : Option (List Char)
deriving DecidableEq, Repr

/-- A declaration of the internal subset. -/
inductive Declaration where
  /-- An entity for use in the document. -/
  | entity (name : String) (replacement : Replacement)
  /-- An entity for use in declarations, with its value if it is written here. -/
  | parameterEntity (value : Option (List Char))
  /-- Attributes of an element. -/
  | attributes (element : String) (rules : List AttributeRule)
  /-- A reference to a parameter entity, which is not followed. -/
  | parameterReference
  /-- A declaration, comment or instruction without effect. -/
  | silent
deriving DecidableEq, Repr

/-- Whether a character may stand in a public identifier. -/
def isPublicChar (c : Char) : Bool :=
  c.isAlphanum || " \r\n-'()+,./:=?;!*#@$_%".toList.contains c

/-- The replacement that symbols describe. -/
def replacement? : List Symbol → Option Replacement
  | [.literal value] => some (.literal value)
  | .word "SYSTEM" none :: .literal _ :: rest => external? rest
  | .word "PUBLIC" none :: .literal identifier :: .literal _ :: rest =>
    if identifier.all isPublicChar then external? rest else none
  | _ => none
where
  /-- The replacement by an outside resource, with or without a notation. -/
  external? : List Symbol → Option Replacement
    | [] => some .external
    | [.word "NDATA" none, .word format none] =>
      if isPlainName format.toList then some .unparsed else none
    | _ => none

/-- The entity declaration that symbols make. -/
def entityDeclaration? : List Symbol → Option Declaration
  | .percent :: .word name none :: rest => do
    guard (isPlainName name.toList)
    match ← replacement? rest with
    | .literal value => some (.parameterEntity (some value))
    | .external => some (.parameterEntity none)
    | .unparsed => none
  | .word name none :: rest => do
    guard (isPlainName name.toList)
    return .entity name (← replacement? rest)
  | _ => none

/-- One given symbol. -/
def one (s : Symbol) : Eager Symbol Unit :=
  item fun t => if t = s then some () else none

/-- A word without a mark, of a class. -/
def wordWhere (p : String → Bool) : Eager Symbol String :=
  item fun
    | .word t none => if p t then some t else none
    | _ => none

/-- Alternatives of a class in parentheses, with bars between them. -/
def enumeration (p : String → Bool) : Scanner Symbol Unit := do
  (one .opening).scan
  let _ ← (wordWhere p).scan
  let _ ← ((one .bar).andThen fun _ => (wordWhere p).scan).many
  (one (.closing none)).scan

/-- The words that name a type of attribute whose values are tokens. -/
def tokenTypes : List String :=
  ["ID", "IDREF", "IDREFS", "ENTITY", "ENTITIES", "NMTOKEN", "NMTOKENS"]

/-- The type of an attribute: whether its values are tokens. -/
def attributeType : Scanner Symbol Bool :=
  (do let _ ← (wordWhere (· == "CDATA")).scan; return false)
  <|> (do let _ ← (wordWhere tokenTypes.contains).scan; return true)
  <|> (do
    let _ ← (wordWhere (· == "NOTATION")).scan
    enumeration fun t => isPlainName t.toList
    return true)
  <|> (do enumeration fun _ => true; return true)

/-- The default of an attribute, if it has one. -/
def attributeDefault : Scanner Symbol (Option (List Char)) :=
  (do (one (.keyword "IMPLIED")).scan; return none)
  <|> (do (one (.keyword "REQUIRED")).scan; return none)
  <|> (do
    (one (.keyword "FIXED")).scan <|> pure ()
    return some (← (item fun | .literal value => some value | _ => none).scan))

/-- The declaration of one attribute. -/
def attributeRule : Eager Symbol AttributeRule :=
  (wordWhere isDeclaredName).andThen fun name => do
    let tokenized ← attributeType
    return ⟨name, tokenized, ← attributeDefault⟩

/-- The attribute declaration that symbols make. -/
def attributesDeclaration? : List Symbol → Option Declaration :=
  Scanner.all? do
    let element ← (wordWhere isDeclaredName).scan
    return .attributes element (← attributeRule.many)

/-- What joins the particles of a group. -/
inductive Connector where
  /-- A comma. -/
  | sequence
  /-- A vertical bar. -/
  | choice
deriving DecidableEq

mutual

/-- Whether symbols continue a content model where a particle is due.  The list holds
what joins the particles of each open group, innermost first. -/
def particleDue : List (Option Connector) → List Symbol → Bool
  | groups, .opening :: rest => particleDue (none :: groups) rest
  | groups, .word name _ :: rest => isDeclaredName name && particleDone groups rest
  | _, _ => false

/-- Whether symbols continue a content model after a particle. -/
def particleDone : List (Option Connector) → List Symbol → Bool
  | [_], [.closing _] => true
  | _ :: outer, .closing _ :: rest => !outer.isEmpty && particleDone outer rest
  | joint :: outer, .comma :: rest =>
    joint != some .choice && particleDue (some .sequence :: outer) rest
  | joint :: outer, .bar :: rest =>
    joint != some .sequence && particleDue (some .choice :: outer) rest
  | _, _ => false

end

/-- Whether symbols are the names of a mixed content model and its end. -/
def mixedModel : List Symbol → Bool
  | [.closing (some '*')] => true
  | .bar :: .word name none :: rest => isDeclaredName name && mixedModel rest
  | _ => false

/-- Whether symbols describe the content of an element. -/
def isContentModel : List Symbol → Bool
  | [.word t none] => t == "EMPTY" || t == "ANY"
  | .opening :: .keyword "PCDATA" :: rest => rest == [.closing none] || mixedModel rest
  | .opening :: rest => particleDue [none] rest
  | _ => false

/-- The element declaration that symbols make. -/
def elementDeclaration? : List Symbol → Option Declaration
  | .word name none :: model =>
    if isDeclaredName name && isContentModel model then some .silent else none
  | _ => none

/-- The notation declaration that symbols make. -/
def notationDeclaration? : List Symbol → Option Declaration
  | .word name none :: rest =>
    let wellFormed := isPlainName name.toList && match rest with
      | [.word "SYSTEM" none, .literal _] => true
      | [.word "PUBLIC" none, .literal identifier] => identifier.all isPublicChar
      | [.word "PUBLIC" none, .literal identifier, .literal _] => identifier.all isPublicChar
      | _ => false
    if wellFormed then some .silent else none
  | _ => none

/-- A declaration after `<!`: its keyword, a space, its symbols and the end. -/
def declarationBody (keyword : String) (meaning : List Symbol → Option Declaration) :
    Scanner Char Declaration := do
  word keyword
  someSpaces.scan
  let found ← symbols
  word ">"
  .ofOption (meaning found)

/-- A part of the internal subset. -/
def declaration : Eager Char Declaration :=
  (someSpaces.andThen fun _ => pure .silent)
  <|> ((char '%').andThen fun _ => do
    let _ ← plainName.scan
    word ";"
    return .parameterReference)
  <|> ((char '<').andThen fun _ =>
    (do word "?"; instructionBody; return .silent)
    <|> do
      word "!"
      (do commentBody; return .silent)
        <|> declarationBody "ENTITY" entityDeclaration?
        <|> declarationBody "ATTLIST" attributesDeclaration?
        <|> declarationBody "ELEMENT" elementDeclaration?
        <|> declarationBody "NOTATION" notationDeclaration?)

end GirTypings.Xml
