import GirTypings.Declaration.Layout
import GirTypings.Declaration.Literal

/-!
# Constants

A constant is declared with its value.  Its name gets an underscore if it starts with a
digit and is otherwise left alone.
-/

namespace GirTypings.Declaration

/-- The name under which a constant is declared. -/
def constantName (name : String) : String :=
  match name.toList with
  | c :: _ => if Text.isDigit c then "_" ++ name else name
  | [] => name

/-- A constant as it is to be declared. -/
structure Constant where
  /-- The name. -/
  name : String
  /-- The value, if it is known. -/
  value : Option String
  /-- The type as it is written. -/
  type : String

namespace Constant

/-- The declaration. -/
def declaration (c : Constant) : String :=
  "export const " ++ c.name ++ " = " ++ literal c.type c.value ++ ";"

/-- The layout. -/
def layout (c : Constant) : Layout :=
  [.code c.declaration]

end Constant

end GirTypings.Declaration
