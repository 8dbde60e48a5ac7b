import GirTypings.Declaration.Layout
import GirTypings.Gir.Signature
import GirTypings.Naming.CamelCase

/-!
# Callables

A callable is written on one line: its modifiers, its name, its parameters with their
types, and what it returns.  The **printed name** is put into camel case if that is
wanted, and gets an underscore if it is reserved.  A callable printed as `constructor`
has no return type.
-/

namespace GirTypings.Declaration

/-- A callable as it is to be declared. -/
structure Callable where
  /-- The name before any rewriting. -/
  name : String
  /-- Parameters and return value. -/
  signature : Signature
  /-- The documentation text. -/
  docstring : String
  /-- The words in front of the name. -/
  modifiers : List String

/-- The name under which a callable is declared. -/
def printedName (camel : Bool) (name : String) : String :=
  Naming.sanitize (if camel then Naming.camelCase name else name)

/-- The printed name of the callable that makes new objects. -/
def constructorName : String :=
  "constructor"

/-- The type of a return value in a declaration. -/
def returnType (r : ReturnValue) : String :=
  if r.isVoid then "void" else r.type

/-- A parameter in a declaration. -/
def parameterText (p : Parameter) : String :=
  p.name ++ ": " ++ p.type

/-- The parameters in a declaration. -/
def parameterList (ps : List Parameter) : String :=
  Text.commaList (ps.map parameterText)

namespace Callable

/-- Whether a callable makes new objects. -/
def isConstructor (camel : Bool) (c : Callable) : Bool :=
  printedName camel c.name = constructorName

/-- The declaration without its modifiers. -/
def head (camel : Bool) (c : Callable) : String :=
  printedName camel c.name ++ "(" ++ parameterList c.signature.parameters ++ ")" ++
    (if c.isConstructor camel then "" else ": " ++ returnType c.signature.returns) ++ ";"

/-- The declaration. -/
def declaration (camel : Bool) (c : Callable) : String :=
  Text.joinWith " " (c.modifiers ++ [c.head camel])

/-- A text with a space in front, or nothing. -/
def remark (doc : Option String) : String :=
  match doc with
  | none => ""
  | some t => if t = "" then "" else " " ++ t

/-- What the comment says of a parameter. -/
def parameterRemark (p : Parameter) : String :=
  "@param \x7b" ++ p.type ++ "\x7d " ++ p.name ++ remark p.doc

/-- What the comment says of the return value. -/
def returnRemark (r : ReturnValue) : String :=
  "@returns \x7b" ++ returnType r ++ "\x7d" ++ remark r.doc

/-- What the comment says. -/
def remarks (camel : Bool) (c : Callable) : List String :=
  docLines c.docstring ++ c.signature.parameters.map parameterRemark ++
    (if c.isConstructor camel then [] else [returnRemark c.signature.returns])

/-- The layout at a depth. -/
def layout (camel : Bool) (depth : Int) (c : Callable) : Layout :=
  Layout.comment depth (c.remarks camel) ++ Layout.line depth (c.declaration camel)

end Callable

end GirTypings.Declaration
