import GirTypings.Declaration.Enumeration
import GirTypings.Declaration.Shell
import GirTypings.Gir.Member

/-!
# Classes, interfaces and enumerations

The elements that make records.  A record has the name of its element, the parents in
the order class, interfaces, prerequisites, and the layout of the declaration.  In the
body of a class properties come first, then constructors, functions and methods, each
group in document order; an interface has properties and methods only.
-/

namespace GirTypings.Xml.Element

open GirTypings.Declaration Gir Registry

/-- Whether an element describes an interface. -/
def isInterface (e : Element) : Bool :=
  e.kind == "interface"

/-- The names that the children with a tag of the core namespace give. -/
def namesOf (e : Element) (tag : String) : List String :=
  (e.coreChildren tag).filterMap (·.filled? "name")

/-- The names of the parents: the class extended, the interfaces implemented, and the
prerequisites. -/
def parentNames (e : Element) : List String :=
  (e.filled? "parent").toList ++ e.namesOf "implements" ++ e.namesOf "prerequisite"

/-- The layouts of all members, group by group. -/
def memberLayouts (camel : Bool) (className : String) (e : Element) : List Layout :=
  e.propertyLayouts ++
    (if e.isInterface then []
      else e.constructorLayouts camel className ++ e.functionLayouts camel) ++
    e.methodLayouts camel

/-- The declaration of a class or interface of a name. -/
def shell (camel : Bool) (className : String) (e : Element) : Shell where
  name := className
  kind := if e.isInterface then "interface" else "class"
  docstring := e.docstring
  base := e.attr? "parent"
  interfaces := e.namesOf "implements"
  members := e.memberLayouts camel className

/-- The record of a class or interface. -/
def classRecord (camel : Bool) (e : Element) : Except Skip (Record Layout) := do
  let name ← e.require "name"
  return ⟨name, e.parentNames, (e.shell camel name).layout⟩

/-- What reading a class or interface puts into the journal. -/
def classJournal (e : Element) : List Entry :=
  match e.attr? "name" with
  | none => []
  | some name => e.children.flatMap (memberJournal e.isInterface name)

/-- The name and value of a member of an enumeration. -/
def enumerationMember (m : Element) : Except Skip (String × String) := do
  return (← m.require "name", ← m.require "value")

/-- The declaration of an enumeration of a name. -/
def enumeration (name : String) (e : Element) : Enumeration :=
  ⟨name, e.docstring, (e.coreChildren "member").filterMap fun m => m.enumerationMember.toOption⟩

/-- The record of an enumeration. -/
def enumerationRecord (e : Element) : Except Skip (Record Layout) := do
  let name ← e.require "name"
  return ⟨name, [], (e.enumeration name).layout⟩

/-- What reading an enumeration puts into the journal. -/
def enumerationJournal (e : Element) : List Entry :=
  match e.attr? "name" with
  | none => []
  | some name => (e.coreChildren "member").flatMap fun m =>
      skipEntry "class_graph" ("member of enum " ++ name) m.enumerationMember

end GirTypings.Xml.Element
