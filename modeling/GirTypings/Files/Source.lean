import GirTypings.Files.Pattern

/-!
# Sources

A source is a document to compile, under the name that its module gets.  Documents are
named after a module and a version, `Gtk-3.0.gir`: the name of the module is what
stands before the last hyphen.  A file that is named otherwise is not found by a
pattern; one that is named on the command line gives its whole name to the module.
-/

namespace GirTypings.Files

/-- The characters of a file name without its last extension, if that is `.gir`. -/
def dropGirChars : List Char → List Char
  | [] => []
  | ['.', 'g', 'i', 'r'] => []
  | c :: rest => c :: dropGirChars rest

/-- The name of the module that a path is for, if the path is named as a document is. -/
def moduleName? (p : Path) : Option String :=
  match beforeLast? '-' (dropGirChars p.name.toList) with
  | none => none
  | some [] => none
  | some cs => some (.ofList cs)

/-- A document to compile. -/
structure Source where
  /-- The name of the module. -/
  name : String
  /-- Where the document is. -/
  path : Path
deriving DecidableEq, Repr

/-- The source at a location that was asked for. -/
def Source.ofLocation (l : Location) : Source :=
  ⟨(moduleName? l.path).getD l.path.stem, l.path⟩

/-- The sources that a pattern finds. -/
def discover (t : Tree) (start : Location) (pattern : String) : List Source :=
  (matchedPaths t start pattern).filterMap fun p => (moduleName? p).map (⟨·, p⟩)

/-- The directory for modules, by the value of the variable that can name another than
the working directory. -/
def outputDirectory (named : Option String) : Path :=
  (Path.ofText ((named.filter (· != "")).getD ".")).child "types"

end GirTypings.Files
