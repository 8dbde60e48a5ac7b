import GirTypings.Text.Blank
import GirTypings.Text.Join
import GirTypings.Text.Line

/-!
# Doc comments

A doc comment is a block of lines: one that opens it, one for each line it says, and
one that closes it.  A star before a slash inside the comment would close it early, so
`guardChars` puts a backslash between the two.  Lines are set in by four spaces for
each level of depth; empty lines stay empty, and a depth of zero or less sets nothing
in.
-/

namespace GirTypings.Declaration

/-! ### Lines set in -/

/-- So many levels of four spaces. -/
def margin : Nat → String
  | 0 => ""
  | n + 1 => "    " ++ margin n

/-- A line at a depth. -/
def indentLine (depth : Int) (line : String) : String :=
  if line = "" then line else margin depth.toNat ++ line

/-- Lines at a depth. -/
def indent (depth : Int) (lines : List String) : List String :=
  lines.map (indentLine depth)

/-! ### The text of documentation -/

/-- The lines of a documentation text, without the blank lines at its ends and without
the blanks at the end of each line. -/
def docLines (docstring : String) : List String :=
  (Text.lineChars (Text.trimChars docstring.toList)).map fun l => .ofList (Text.trimRightChars l)

/-! ### Comments -/

/-- The characters of a text with a backslash in every `*/`. -/
def guardChars : List Char → List Char
  | [] => []
  | '*' :: '/' :: rest => '*' :: '\\' :: '/' :: guardChars rest
  | c :: rest => c :: guardChars rest

/-- A line of a comment. -/
def commentLine (line : String) : String :=
  .ofList (Text.trimRightChars (' ' :: '*' :: ' ' :: guardChars line.toList))

/-- The comment that says some lines. -/
def docBlock (lines : List String) : List String :=
  "/**" :: (lines.map commentLine ++ [" */"])

end GirTypings.Declaration
