import GirTypings.Text.Join

/-!
# Headers

A module starts with a comment on its origin, if there is one, and a line for each
namespace that it imports.  No newline ends the header; an empty header is no header.
-/

namespace GirTypings.Declaration

/-- What stands at the start of a module. -/
structure Header where
  /-- The comment; none if it is empty. -/
  comment : String
  /-- The imported namespaces with their versions. -/
  imports : List (String × String)

namespace Header

/-- The line that imports a version of a namespace. -/
def importLine (space version : String) : String :=
  "import " ++ space ++ " from 'gi://" ++ space ++ "?version=" ++ version ++ "';"

/-- The lines of a header. -/
def lines (h : Header) : List String :=
  (if h.comment = "" then [] else ["// " ++ h.comment]) ++
    h.imports.map fun (space, version) => importLine space version

/-- The text of a header, with no newline at its end. -/
def text (h : Header) : String :=
  .ofList ((Text.joinLines h.lines).toList.reverse.dropWhile (· == '\n')).reverse

end Header

end GirTypings.Declaration
