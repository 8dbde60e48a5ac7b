import GirTypings.Xml.Element
import GirTypings.Xml.Name

/-!
# Namespaces

An attribute `xmlns` binds the default prefix, and `xmlns:p` binds `p`, to a namespace
for the element and all it contains.  These attributes are declarations and not
attributes of the element.  Names without a prefix take the default namespace if they
name elements, and none if they name attributes; a prefix that nothing binds is an
error, and so are two attributes of one element with the same expanded name.

The prefix `xml` is bound from the start and stands for its own namespace alone; no
other may stand for it, none may stand for the namespace of the declarations, and no
identifier may hold a closing brace.
-/

namespace GirTypings.Xml

/-- The identifier of a namespace that the rules on namespaces reserve.  Such identifiers
have the form of addresses and share an authority. -/
def reservedNamespace (path : String) : String :=
  "http://" ++ "www.w3.org" ++ path

/-- The namespace of the prefix `xml`. -/
def xmlNamespace : String :=
  reservedNamespace "/XML/1998/namespace"

/-- The namespace of the declarations themselves. -/
def declarationNamespace : String :=
  reservedNamespace "/2000/xmlns/"

/-- What prefixes stand for, the innermost binding first; `none` is the default prefix,
and an empty identifier is no namespace. -/
abbrev Bindings := List (Option String × String)

/-- The bindings outside the outermost element. -/
def Bindings.initial : Bindings :=
  [(some "xml", xmlNamespace)]

/-- The prefix that an attribute binds, if it is a declaration. -/
def boundPrefix? (name : QualifiedName) : Option (Option String) :=
  match name.qualifier with
  | none => if name.localName = "xmlns" then some none else none
  | some q => if q = "xmlns" then some (some name.localName) else none

/-- Whether a prefix may be bound to an identifier. -/
def isBindable : Option String → String → Bool
  | p, uri =>
    (p.isNone || uri != "") && p != some "xmlns" && ((p == some "xml") == (uri == xmlNamespace)) &&
      uri != declarationNamespace && !uri.toList.contains '\x7d'

/-- Whether the local part of a name holds name characters only. -/
def QualifiedName.isProper (name : QualifiedName) : Bool :=
  name.localName.toList.all isNameChar

/-- The expanded name of a proper name in the namespace of a prefix. -/
def Bindings.prefixed? (scope : Bindings) (p : String) (name : QualifiedName) :
    Option ExpandedName :=
  if name.isProper then (scope.lookup (some p)).map fun uri => ⟨some uri, name.localName⟩
  else none

/-- The expanded name of an element. -/
def Bindings.element? (scope : Bindings) (name : QualifiedName) : Option ExpandedName :=
  match name.qualifier with
  | some p => scope.prefixed? p name
  | none =>
    if name.isProper then
      some ⟨(scope.lookup none).filter (· != ""), name.localName⟩
    else none

/-- The expanded name of an attribute. -/
def Bindings.attribute? (scope : Bindings) (name : QualifiedName) : Option ExpandedName :=
  match name.qualifier with
  | some p => scope.prefixed? p name
  | none => if name.isProper then some ⟨none, name.localName⟩ else none

/-- The bindings inside an element with the given attributes. -/
def Bindings.enter? (scope : Bindings) (attributes : List (QualifiedName × String)) :
    Option Bindings :=
  let declared := attributes.filterMap fun (name, uri) => (boundPrefix? name).map (·, uri)
  if declared.all fun (p, uri) => isBindable p uri then some (declared ++ scope) else none

/-- The attributes that are no declarations, with their expanded names; no two may have
the same. -/
def Bindings.attributes? (scope : Bindings) (attributes : List (QualifiedName × String)) :
    Option (List Attribute) := do
  let named ← (attributes.filter fun a => (boundPrefix? a.1).isNone).mapM fun (name, value) => do
    return ⟨← scope.attribute? name, value⟩
  guard (named.map Attribute.name).Nodup
  return named

end GirTypings.Xml
