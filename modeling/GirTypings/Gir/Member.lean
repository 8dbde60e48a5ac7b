import GirTypings.Declaration.Callable
import GirTypings.Declaration.Property

/-!
# Members

The children of a class or interface describe its members: properties, constructors,
functions and methods.  A member needs a name; what has none is left out.

A constructor makes a static factory that returns the class.  One named `new` is also
the constructor of the declaration itself, which stands in front of the factory.
-/

namespace GirTypings.Xml.Element

open GirTypings.Declaration Gir

/-- The callable that an element describes. -/
def callable (e : Element) (modifiers : List String) : Except Skip Callable := do
  return ⟨← e.require "name", e.signature, e.docstring, modifiers⟩

/-- The property that an element describes. -/
def property (e : Element) : Except Skip Property := do
  return ⟨← e.require "name", e.typeSpelling, some (collapseBlanks e.docstring),
    e.attr? "writable" = some "1"⟩

/-- What a constructor of a class returns. -/
def instanceOf (className : String) : ReturnValue :=
  ⟨className, some ("Instance of " ++ className ++ ".")⟩

/-- The callables that a constructor of a class makes. -/
def constructorCallables (e : Element) (className : String) : Except Skip (List Callable) := do
  let name ← e.require "name"
  let signature : Signature := ⟨e.parameters, instanceOf className⟩
  let factory : Callable := ⟨name, signature, e.docstring, ["static"]⟩
  return if name = "new" then [⟨constructorName, signature, e.docstring, []⟩, factory]
    else [factory]

/-- Whether an element describes a method. -/
def isMethod (e : Element) : Bool :=
  e.kind == "method" || e.kind == "virtual-method"

/-! ### The groups of members -/

/-- The depth at which members stand. -/
def memberDepth : Int := 1

/-- The layouts of the properties of a class or interface. -/
def propertyLayouts (e : Element) : List Layout :=
  (e.children.filter (·.kind == "property")).filterMap fun m =>
    m.property.toOption.map (Property.layout memberDepth)

/-- The layouts of the constructors of a class. -/
def constructorLayouts (camel : Bool) (className : String) (e : Element) : List Layout :=
  (e.children.filter (·.kind == "constructor")).flatMap fun m =>
    ((m.constructorCallables className).toOption.getD []).map (Callable.layout camel memberDepth)

/-- The layouts of the functions of a class. -/
def functionLayouts (camel : Bool) (e : Element) : List Layout :=
  (e.children.filter (·.kind == "function")).filterMap fun m =>
    (m.callable ["static"]).toOption.map (Callable.layout camel memberDepth)

/-- The layouts of the methods of a class or interface. -/
def methodLayouts (camel : Bool) (e : Element) : List Layout :=
  (e.children.filter isMethod).filterMap fun m =>
    (m.callable []).toOption.map (Callable.layout camel memberDepth)

/-! ### What is left out -/

/-- The entry for an element that lacks an attribute, if it does. -/
def skipEntry {α : Type} (channel whose : String) : Except Skip α → List Entry
  | .ok _ => []
  | .error skip => [⟨.debug, channelName channel, "Skipping " ++ whose ++ ": " ++ skip.message⟩]

/-- What a member of a class or interface puts into the journal. -/
def memberJournal (isInterface : Bool) (className : String) (m : Element) : List Entry :=
  let skipped := skipEntry "class_graph" ("member of " ++ className) (m.require "name")
  if m.kind = "property" then skipped
  else if m.isMethod then m.signatureJournal ++ skipped
  else if m.kind = "constructor" || m.kind = "function" then
    if isInterface then
      [⟨.debug, channelName "class_graph",
        "Skipping " ++ m.summary ++ " on interface " ++ className⟩]
    else if m.kind = "function" then m.signatureJournal ++ skipped
    else if (m.attr? "name").isSome then m.signatureJournal
    else skipped
  else []

end GirTypings.Xml.Element
