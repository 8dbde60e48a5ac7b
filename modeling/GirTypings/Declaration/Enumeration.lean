import GirTypings.Declaration.Layout
import GirTypings.Declaration.Literal
import GirTypings.FirstUse
import GirTypings.Naming.Identifier
import GirTypings.Text.Upper

/-!
# Enumerations

An enumeration lists its members with their values.  The **identifier** of a member is
its name in upper case, with an underscore in front if it would be empty or start with
a digit.  Of several members with one identifier the first counts.
-/

namespace GirTypings.Declaration

/-- The text, with an underscore in front if it is empty or starts with a digit. -/
def memberIdentifier (name : String) : String :=
  let capitals := Text.upper name
  match capitals.toList with
  | [] => "_"
  | c :: _ => if Text.isDigit c then "_" ++ capitals else capitals

/-- An enumeration as it is to be declared. -/
structure Enumeration where
  /-- The name before any rewriting. -/
  name : String
  /-- The documentation text. -/
  docstring : String
  /-- Names and values of the members. -/
  members : List (String × String)

namespace Enumeration

/-- The members that are declared, under their identifiers. -/
def declaredMembers (e : Enumeration) : List (String × String) :=
  firstBy Prod.fst (e.members.map fun (name, value) => (memberIdentifier name, value))

/-- The line of a member. -/
def memberLine (identifier value : String) : String :=
  "    " ++ identifier ++ " = '" ++ escape value ++ "',"

/-- The line that opens the declaration. -/
def header (e : Enumeration) : String :=
  "export enum " ++ Naming.sanitize e.name ++ " \x7b"

/-- The layout. -/
def layout (e : Enumeration) : Layout :=
  Layout.comment 0 (docLines e.docstring) ++
    (.code e.header :: (e.declaredMembers.map fun (identifier, value) =>
      .code (memberLine identifier value)) ++ [.code "\x7d"])

end Enumeration

end GirTypings.Declaration
