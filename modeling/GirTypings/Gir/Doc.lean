import GirTypings.Gir.Element
import GirTypings.Text.Blank
import GirTypings.Text.Join

/-!
# Documentation of elements

An element is documented by its first `doc` child.  In documentation a backslash
before an x is dropped.  Callables, classes and properties keep the text as it is;
parameters and return values have **inline** documentation, in which every run of
blanks is one space.
-/

namespace GirTypings

/-- The characters of a text without the backslashes that stand before an x. -/
def unescapeXChars : List Char → List Char
  | [] => []
  | '\\' :: 'x' :: rest => 'x' :: unescapeXChars rest
  | c :: rest => c :: unescapeXChars rest

/-- The text without the backslashes that stand before an x. -/
def unescapeX (t : String) : String :=
  .ofList (unescapeXChars t.toList)

/-- The words of a text with one space between neighbours. -/
def collapseBlanks (t : String) : String :=
  Text.joinWith " " (Text.words t)

namespace Xml.Element

/-- The text of the first `doc` child, if there is one. -/
def doc? (e : Element) : Option String :=
  (e.child? "doc").map fun d => unescapeX d.text

/-- The documentation of an element, empty if it has none. -/
def docstring (e : Element) : String :=
  e.doc?.getD ""

/-- The inline documentation of an element. -/
def inlineDoc? (e : Element) : Option String :=
  e.doc?.map collapseBlanks

end Xml.Element

end GirTypings
