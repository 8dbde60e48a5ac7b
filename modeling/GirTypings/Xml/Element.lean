/-!
# Elements

A document is a tree of **elements**.  An element has a name, attributes in the order
they were written, and content: runs of text and further elements.  Names are
**expanded**: a local name, and the identifier of the namespace it belongs to, if any.
What a document says in comments, processing instructions and declarations is not part
of the tree.
-/

namespace GirTypings.Xml

/-- A name together with the namespace that its prefix stands for. -/
structure ExpandedName where
  /-- The identifier of the namespace; `none` for a name outside every namespace. -/
  space : Option String
  /-- The name within its namespace. -/
  localName : String
deriving DecidableEq, Repr

/-- The name as one text: the namespace in braces, then the local name. -/
def ExpandedName.key (n : ExpandedName) : String :=
  match n.space with
  | none => n.localName
  | some uri => "\x7b" ++ uri ++ "\x7d" ++ n.localName

/-- A named value of an element. -/
structure Attribute where
  /-- The attribute's name. -/
  name : ExpandedName
  /-- Its value, with references replaced. -/
  value : String
deriving DecidableEq, Repr

mutual

/-- An element of a document. -/
inductive Element where
  | mk (name : ExpandedName) (attributes : List Attribute) (content : List Node)

/-- A part of an element's content. -/
inductive Node where
  /-- A run of characters. -/
  | text (run : String)
  /-- An element inside the element. -/
  | element (e : Element)

end

namespace Element

/-- The expanded name. -/
def name : Element → ExpandedName
  | mk n _ _ => n

/-- The attributes in the order they were written, defaults last. -/
def attributes : Element → List Attribute
  | mk _ as _ => as

/-- Text and elements in document order. -/
def content : Element → List Node
  | mk _ _ c => c

@[simp] theorem name_mk (n : ExpandedName) (as : List Attribute) (c : List Node) :
    (mk n as c).name = n := rfl

@[simp] theorem attributes_mk (n : ExpandedName) (as : List Attribute) (c : List Node) :
    (mk n as c).attributes = as := rfl

@[simp] theorem content_mk (n : ExpandedName) (as : List Attribute) (c : List Node) :
    (mk n as c).content = c := rfl

end Element

/-- The value of the attribute with a key. -/
def Element.value? (e : Element) (key : String) : Option String :=
  (e.attributes.find? (·.name.key == key)).map Attribute.value

/-- The element that a part of some content is, if it is one. -/
def Node.element? : Node → Option Element
  | .text _ => none
  | .element e => some e

/-- The elements directly inside an element, in document order. -/
def Element.children (e : Element) : List Element :=
  e.content.filterMap Node.element?

mutual

/-- All text inside an element, at any depth, in document order. -/
def Element.text : Element → String
  | .mk _ _ content => contentText content

/-- All text of a part of some content. -/
def Node.innerText : Node → String
  | .text run => run
  | .element e => e.text

/-- All text of some content. -/
def contentText : List Node → String
  | [] => ""
  | n :: rest => n.innerText ++ contentText rest

end

end GirTypings.Xml
