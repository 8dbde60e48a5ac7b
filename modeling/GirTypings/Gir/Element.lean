import GirTypings.Table
import GirTypings.Xml.Selector.Reader

/-!
# Introspection elements

An introspection document takes its elements and attributes from three namespaces.
Names of the core namespace are written bare, those of the other two with a short
prefix (`c:type`, `glib:signal`), and a name of any other namespace is written without
telling which.  `Element.kind` is the short name of an element, and `attr?` finds an
attribute by a short name.

Where a rule is about the core namespace only, it asks for `coreChildren`.  `find?` is
more general: it takes the name of a child in any namespace, and after it the rest of a
selector.
-/

namespace GirTypings

namespace Gir

/-- The namespace of introspection elements. -/
def coreNamespace : String :=
  "http://www.gtk.org/introspection/core/1.0"

/-- The namespace of names of the described language. -/
def cNamespace : String :=
  "http://www.gtk.org/introspection/c/1.0"

/-- The namespace of the object system. -/
def glibNamespace : String :=
  "http://www.gtk.org/introspection/glib/1.0"

/-- What short names put before the local name. -/
def shortPrefix (space : Option String) : String :=
  match space with
  | none => ""
  | some uri => if uri = cNamespace then "c:" else if uri = glibNamespace then "glib:" else ""

/-- The short name. -/
def shortName (n : Xml.ExpandedName) : String :=
  shortPrefix n.space ++ n.localName

/-- The namespace that a short prefix stands for. -/
def namespaceOfPrefix? (p : List Char) : Option String :=
  if p = ['c'] then some cNamespace
  else if p = ['g', 'l', 'i', 'b'] then some glibNamespace
  else none

/-- The key of the attribute that a short name means: the part before the first colon
is a prefix if it is one of the two, and a part of the name otherwise. -/
def attributeKey (short : String) : String :=
  match short.toList.span (· != ':') with
  | (p, _ :: localName) =>
    match namespaceOfPrefix? p with
    | some uri => Xml.ExpandedName.key ⟨some uri, .ofList localName⟩
    | none => short
  | (_, []) => short

/-- An element that lacks an attribute which its reader cannot do without. -/
structure Skip where
  /-- The kind of the element. -/
  element : String
  /-- The attribute that it lacks. -/
  missing : String
deriving DecidableEq, Repr

/-- Why the element is left out. -/
def Skip.reason (s : Skip) : String :=
  "missing '" ++ s.missing ++ "' attribute"

/-- The element and why it is left out. -/
def Skip.message (s : Skip) : String :=
  "<" ++ s.element ++ ">: " ++ s.reason

end Gir

namespace Xml.Element

open Gir

/-- The short name of an element. -/
def kind (e : Element) : String :=
  shortName e.name

/-- The value of an attribute, found by its short name or by its key. -/
def attr? (e : Element) (short : String) : Option String :=
  e.value? (attributeKey short)

/-- The value of an attribute that must be there. -/
def require (e : Element) (short : String) : Except Skip String :=
  match e.attr? short with
  | some value => .ok value
  | none => .error ⟨e.kind, short⟩

/-- The value of an attribute, if it is there and not empty. -/
def filled? (e : Element) (short : String) : Option String :=
  (e.attr? short).filter (· != "")

/-- The attributes under their short names.  Of two that shorten to the same name the
later counts. -/
def shortAttributes (e : Element) : Table String String :=
  .ofEntries (e.attributes.map fun a => (shortName a.name, a.value))

/-- The first child of a kind. -/
def child? (e : Element) (kind : String) : Option Element :=
  e.children.find? (·.kind == kind)

/-- The children with a name of the core namespace. -/
def coreChildren (e : Element) (localName : String) : List Element :=
  e.children.filter (·.name == ⟨some coreNamespace, localName⟩)

/-- What a selector leads to that starts with a tag of some namespace; `none` if it makes
no sense. -/
def find? (e : Element) (tag : String) (space : String := coreNamespace) :
    Option (List Element) :=
  (Selector.read? ("\x7b" ++ space ++ "\x7d" ++ tag)).map (·.select e)

/-- A short description: the kind, and the name if there is one. -/
def summary (e : Element) : String :=
  "<GirElement " ++ e.kind ++ ((e.filled? "name").elim "" (" " ++ ·)) ++ ">"

end Xml.Element

end GirTypings
