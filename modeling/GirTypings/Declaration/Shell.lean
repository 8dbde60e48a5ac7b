import GirTypings.Declaration.Layout
import GirTypings.Naming.Identifier
import GirTypings.Registry.Record

/-!
# Classes and interfaces

A class or interface is a shell around its members.  Its header tells the class it
extends; interfaces extend nothing here.  The interfaces that it implements are named
in its comment only.  Classes of the same namespace are referred to by the names under
which they are declared, those of other namespaces by their qualified names.
-/

namespace GirTypings.Declaration

/-- The name that refers to a class or interface. -/
def referenceName (name : String) : String :=
  if Registry.isForeign name then name else Naming.sanitize name

/-- A class or interface as it is to be declared. -/
structure Shell where
  /-- The name before any rewriting. -/
  name : String
  /-- The word that declares it. -/
  kind : String
  /-- The documentation text. -/
  docstring : String
  /-- The class that it extends, if it is a class. -/
  base : Option String
  /-- The interfaces that it implements. -/
  interfaces : List String
  /-- The layouts of the members. -/
  members : List Layout

namespace Shell

/-- The class that the header names. -/
def extended? (s : Shell) : Option String :=
  if s.kind = "class" then (s.base.filter (· != "")).map referenceName else none

/-- The line that opens the declaration. -/
def header (s : Shell) : String :=
  "export " ++ s.kind ++ " " ++ Naming.sanitize s.name ++
    (s.extended?.elim "" (" extends " ++ ·)) ++ " \x7b"

/-- What the comment says. -/
def remarks (s : Shell) : List String :=
  docLines s.docstring ++ s.interfaces.map fun i => "@implements \x7b" ++ referenceName i ++ "\x7d"

/-- The layout. -/
def layout (s : Shell) : Layout :=
  Layout.comment 0 s.remarks ++ (.code s.header :: (s.members.flatten ++ [.code "\x7d"]))

end Shell

end GirTypings.Declaration
