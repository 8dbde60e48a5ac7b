import GirTypings.Declaration.Layout
import GirTypings.Naming.Identifier

/-!
# Properties

A property is declared with its name, in which hyphens become underscores, and its
type.  One that cannot be written is marked as such.
-/

namespace GirTypings.Declaration

/-- A property as it is to be declared. -/
structure Property where
  /-- The name before any rewriting. -/
  name : String
  /-- The type as it is written. -/
  type : String
  /-- The documentation, on one line. -/
  doc : Option String
  /-- Whether the property can be written. -/
  writable : Bool

namespace Property

/-- The name under which a property is declared. -/
def declaredName (p : Property) : String :=
  Naming.sanitize (.ofList (p.name.toList.map fun c => if c = '-' then '_' else c))

/-- The declaration. -/
def declaration (p : Property) : String :=
  (if p.writable then "" else "readonly ") ++ p.declaredName ++ ": " ++ p.type ++ ";"

/-- The layout at a depth. -/
def layout (depth : Int) (p : Property) : Layout :=
  Layout.comment depth (p.doc.filter (· != "")).toList ++ Layout.line depth p.declaration

end Property

end GirTypings.Declaration
