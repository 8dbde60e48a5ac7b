import GirTypings.Xml.Declaration
import GirTypings.Xml.Expansion

/-!
# What a document type declares

From the internal subset a document takes its entities and the declared attributes of
its elements.  Of several declarations of one entity, or of one attribute of one
element, the first counts.  An outside subset, or a reference to a parameter entity,
makes the declarations **incomplete**: neither is read.  After such a reference the
declarations that follow are no longer taken, and a name that nothing declares is not
an error in an attribute value.  A document that stands alone promises that nothing
outside matters, and for it neither applies.

The entities in a default value are opened when the attribute is declared.  Each default
value is compared with the allowance on its own: what others open is not added up
(see `Expansion`).
-/

namespace GirTypings.Xml

open Scanner

/-- A declared attribute of an element. -/
structure DeclaredAttribute where
  /-- The element's name as it is written. -/
  element : String
  /-- The attribute's name as it is written. -/
  name : String
  /-- Whether the value is a list of tokens. -/
  tokenized : Bool
  /-- The value where a tag writes none. -/
  fallback : Option String
deriving DecidableEq, Repr

/-- What has been declared. -/
structure Doctype where
  /-- How many bytes of entity texts may be opened. -/
  allowed : Nat
  /-- Whether the document stands alone. -/
  standalone : Bool := false
  /-- Whether there are declarations that were not read. -/
  incomplete : Bool := false
  /-- Whether declarations are still taken. -/
  taking : Bool := true
  /-- The declared entities. -/
  entities : List Entity := []
  /-- The declared attributes, in order. -/
  attributes : List DeclaredAttribute := []

namespace Doctype

/-- Whether an entity is declared. -/
def declares (d : Doctype) (name : String) : Bool :=
  d.entities.any (·.name == name)

/-- Whether a reference to an undeclared entity is an error in every place. -/
def strict (d : Doctype) : Bool :=
  d.standalone || !d.incomplete

/-- One space between the tokens of a value and none around them. -/
def squeeze : List Char → List Char
  | [] => []
  | c :: rest =>
    if c = ' ' then
      match squeeze rest with
      | [] => []
      | d :: kept => if d = ' ' then d :: kept else ' ' :: d :: kept
    else c :: squeeze rest

/-- The value of an attribute from the text between its quotation marks, where the
given entities may be opened. -/
def value? (d : Doctype) (available : List Entity) (tokenized : Bool) (raw : List Char) :
    Option String := do
  let parts ← fragments? raw
  let cs ← valueOf? d.declares d.strict available parts
  return .ofList (if tokenized then (squeeze cs).dropWhile (· == ' ') else cs)

/-- The declaration of an attribute of an element, if there is one. -/
def attribute? (d : Doctype) (element name : String) : Option DeclaredAttribute :=
  d.attributes.find? fun a => a.element == element && a.name == name

/-- Takes the declaration of an entity, unless its name has a meaning already. -/
def declareEntity (d : Doctype) (name : String) (text : EntityText) : Doctype :=
  if (predefined? name).isSome || d.declares name then d
  else { d with entities := d.entities ++ [⟨name, text⟩] }

/-- Takes the declaration of an attribute, unless the element has one of its name. -/
def declareAttribute (d : Doctype) (element : String) (rule : AttributeRule) :
    Option Doctype := do
  let fallback ← match rule.fallback with
    | none => pure none
    | some raw =>
      guard (opensWithin d.allowed d.entities (fragmentNames ((fragments? raw).getD [])))
      some <$> d.value? d.entities rule.tokenized raw
  return if (d.attribute? element rule.name).isSome then d
    else { d with attributes := d.attributes ++ [⟨element, rule.name, rule.tokenized, fallback⟩] }

/-- Takes a declaration; `none` if it is malformed. -/
def declare (d : Doctype) : Declaration → Option Doctype
  | .silent => some d
  | .parameterReference => some { d with incomplete := true, taking := d.standalone }
  | .entity name (.literal value) =>
    if d.taking then (entityText? value).map fun text => d.declareEntity name (.internal text)
    else some d
  | .entity name _ => some (if d.taking then d.declareEntity name .external else d)
  | .parameterEntity none => some d
  | .parameterEntity (some value) => if d.taking then (entityText? value).map fun _ => d else some d
  | .attributes element rules =>
    if d.taking then rules.foldlM (·.declareAttribute element) d else some d

end Doctype

/-- The header of a document type declaration: whether it names an outside subset. -/
def doctypeHeader? : List Symbol → Option Bool
  | [.word name none] => if isDeclaredName name then some false else none
  | [.word name none, .word "SYSTEM" none, .literal _] =>
    if isDeclaredName name then some true else none
  | [.word name none, .word "PUBLIC" none, .literal identifier, .literal _] =>
    if isDeclaredName name && identifier.all isPublicChar then some true else none
  | _ => none

/-- A document type declaration after `<!`: whether it names an outside subset, and the
declarations of the internal one. -/
def doctypeBody : Scanner Char (Bool × List Declaration) := do
  word "DOCTYPE"
  someSpaces.scan
  let outside ← .ofOption (doctypeHeader? (← symbols))
  let inside ← (do word "["; let found ← declaration.many; word "]"; spaces; return found)
    <|> pure []
  word ">"
  return (outside, inside)

end GirTypings.Xml
