import GirTypings.Xml.Element

/-!
# Selectors

A **selector** leads from an element to other elements of the same tree.  It is a list
of steps, and each step goes from all places that the steps before it have reached: to
children, to everything inside, to the parent, or to those of the places that meet a
condition.  Names are tested by their keys.

A `Place` is an element together with the way back to where the selector started, so
that parents are known and two equal elements in different places differ.  Nothing
outside the first element is known: it has no parent.
-/

namespace GirTypings.Xml

/-- What is asked of the name of an element. -/
inductive NameTest where
  /-- Nothing. -/
  | any
  /-- That it has a given key. -/
  | key (k : String)
  /-- That it belongs to no namespace. -/
  | unqualified
  /-- That its local name, or its whole key, is a given one. -/
  | localName (l : String)
  /-- That its key starts with a given text. -/
  | startsWith (k : String)
deriving DecidableEq, Repr

/-- Whether a name passes a test. -/
def NameTest.holds (t : NameTest) (n : ExpandedName) : Bool :=
  match t with
  | any => true
  | key k => n.key == k
  | unqualified => n.space.isNone
  | localName l => n.key == l || ('\x7d' :: l.toList).isSuffixOf n.key.toList
  | startsWith k => k.toList.isPrefixOf n.key.toList

/-- How a text is compared with a given one. -/
inductive Comparison where
  /-- It is the same. -/
  | same
  /-- It is another. -/
  | other
deriving DecidableEq, Repr

/-- Whether a text compares with a given one as it should. -/
def Comparison.holds (c : Comparison) (found given : String) : Bool :=
  match c with
  | same => found == given
  | other => found != given

/-- What can be asked of a place. -/
inductive Condition where
  /-- That the element has an attribute with a key. -/
  | hasAttribute (key : String)
  /-- That it has one, and how its value compares. -/
  | attributeValue (key : String) (c : Comparison) (given : String)
  /-- That some child has a name. -/
  | hasChild (t : NameTest)
  /-- How all text inside the element compares. -/
  | text (c : Comparison) (given : String)
  /-- How all text inside some child with a name compares. -/
  | childText (t : NameTest) (c : Comparison) (given : String)
  /-- That so many children of its name come before it in its parent. -/
  | after (count : Nat)
  /-- That so many children of its name come after it in its parent. -/
  | before (count : Nat)
deriving DecidableEq, Repr

/-- A step of a selector. -/
inductive SelectorStep where
  /-- To the place itself. -/
  | here
  /-- To the parent. -/
  | parent
  /-- To the children with a name. -/
  | child (t : NameTest)
  /-- To everything inside that has a name. -/
  | inside (t : NameTest)
  /-- To the place itself, if it meets a condition. -/
  | which (c : Condition)
deriving DecidableEq, Repr

/-! ### Places -/

/-- An element in a tree. -/
structure Place where
  /-- The element. -/
  element : Element
  /-- The elements around it, innermost first, each with where in its content the way
  leads on. -/
  around : List (Element × Nat)

namespace Place

/-- The place of the element that the selector starts from. -/
def start (e : Element) : Place :=
  ⟨e, []⟩

/-- The way to a place, last turn first. -/
def way (p : Place) : List Nat :=
  p.around.map Prod.snd

/-- The place of the parent, if it is known. -/
def parent? (p : Place) : Option Place :=
  match p.around with
  | [] => none
  | (e, _) :: rest => some ⟨e, rest⟩

/-- The places of the elements in some content that starts at an index. -/
def childrenFrom (p : Place) : Nat → List Node → List Place
  | _, [] => []
  | i, .text _ :: rest => p.childrenFrom (i + 1) rest
  | i, .element e :: rest => ⟨e, (p.element, i) :: p.around⟩ :: p.childrenFrom (i + 1) rest

/-- The places of the children. -/
def children (p : Place) : List Place :=
  p.childrenFrom 0 p.element.content

/-- The places of the children of the same parent with the same name, its own among
them. -/
def namesakes (p : Place) : List Place :=
  match p.parent? with
  | none => []
  | some q => q.children.filter (·.element.name == p.element.name)

theorem map_element_childrenFrom (p : Place) (i : Nat) (content : List Node) :
    (p.childrenFrom i content).map element = content.filterMap Node.element? := by
  induction content generalizing i with
  | nil => rfl
  | cons n rest ih =>
    cases n with
    | text run => rw [childrenFrom, ih]; rfl
    | element e => rw [childrenFrom, List.map_cons, ih]; rfl

/-- The elements at the places of the children are the children. -/
@[simp] theorem map_element_children (p : Place) :
    p.children.map element = p.element.children :=
  p.map_element_childrenFrom 0 _

end Place

mutual

/-- The places of all elements inside an element that lies inside `around`. -/
def Element.placesInside (around : List (Element × Nat)) : Element → List Place
  | .mk name attributes content =>
    contentPlaces (.mk name attributes content) around 0 content

/-- The places of an element at an index of some content and of all inside it. -/
def Node.places (outer : Element) (around : List (Element × Nat)) (index : Nat) :
    Node → List Place
  | .text _ => []
  | .element e =>
    ⟨e, (outer, index) :: around⟩ :: e.placesInside ((outer, index) :: around)

/-- The places of all elements in some content that starts at an index. -/
def contentPlaces (outer : Element) (around : List (Element × Nat)) (index : Nat) :
    List Node → List Place
  | [] => []
  | n :: rest => n.places outer around index ++ contentPlaces outer around (index + 1) rest

end

/-- The places of all elements inside the one at a place, in document order. -/
def Place.inside (p : Place) : List Place :=
  p.element.placesInside p.around

/-! ### Selection -/

/-- Whether a place meets a condition. -/
def Condition.holds (c : Condition) (p : Place) : Bool :=
  match c with
  | hasAttribute key => (p.element.value? key).isSome
  | attributeValue key c given => (p.element.value? key).any (c.holds · given)
  | hasChild t => p.element.children.any (t.holds ·.name)
  | text c given => c.holds p.element.text given
  | childText t c given => p.element.children.any fun e => t.holds e.name && c.holds e.text given
  | after count => p.namesakes[count]?.any (·.way == p.way)
  | before count => p.namesakes.reverse[count]?.any (·.way == p.way)

/-- Where a step leads from some places.  A parent is reached once, however many of its
children the step comes from. -/
def SelectorStep.apply (s : SelectorStep) (places : List Place) : List Place :=
  match s with
  | here => places
  | parent => (places.filterMap Place.parent?).eraseDupsBy (·.way == ·.way)
  | child t => places.flatMap fun p => p.children.filter (t.holds ·.element.name)
  | inside t => places.flatMap fun p => p.inside.filter (t.holds ·.element.name)
  | which c => places.filter c.holds

/-- A selector. -/
abbrev Selector := List SelectorStep

/-- The elements that a selector leads to. -/
def Selector.select (s : Selector) (e : Element) : List Element :=
  (s.foldl (fun places step => step.apply places) [Place.start e]).map Place.element

/-- A selector of one name leads to the children with that name. -/
theorem Selector.select_child (t : NameTest) (e : Element) :
    Selector.select [.child t] e = e.children.filter (t.holds ·.name) := by
  simp only [Selector.select, List.foldl_cons, List.foldl_nil, SelectorStep.apply,
    List.flatMap_cons, List.flatMap_nil, List.append_nil]
  rw [show (fun p : Place => t.holds p.element.name) = (fun e => t.holds e.name) ∘ Place.element from rfl,
    ← List.filter_map, Place.map_element_children]
  rfl

end GirTypings.Xml
