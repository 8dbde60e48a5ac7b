import GirTypings.Text.Blank

/-!
# Native types

A native type name stands for one of four basic types of the declaration language, for
the absence of a value, or for anything at all.  Blanks around the name and one
leading `const` qualifier do not matter.  An array of a type is written with a pair of
brackets after it.
-/

namespace GirTypings

/-- The types that native names can stand for. -/
inductive Scalar where
  | boolean
  | number
  | string
  /-- No value. -/
  | null
  /-- Any value: what is not known to be one of the others. -/
  | any
deriving DecidableEq, Repr

/-- How a type is written. -/
def Scalar.spelling : Scalar → String
  | .boolean => "boolean"
  | .number => "number"
  | .string => "string"
  | .null => "null"
  | .any => "any"

/-- The native names that stand for something else than any value. -/
def nativeTypes : List (String × Scalar) := [
  ("gboolean", .boolean),
  ("gint", .number), ("guint", .number), ("gint8", .number), ("guint8", .number),
  ("gint16", .number), ("guint16", .number), ("gint32", .number), ("guint32", .number),
  ("gint64", .number), ("guint64", .number), ("gshort", .number), ("gushort", .number),
  ("glong", .number), ("gulong", .number), ("glong64", .number), ("gulong64", .number),
  ("gsize", .number), ("gssize", .number), ("gfloat", .number), ("gdouble", .number),
  ("gunichar", .number),
  ("gchar", .string), ("guchar", .string), ("gchar*", .string), ("guchar*", .string),
  ("utf8", .string), ("filename", .string), ("string", .string), ("GString", .string),
  ("none", .null)]

/-- What is left of a trimmed name without its leading qualifier. -/
def dropConst : List Char → List Char
  | 'c' :: 'o' :: 'n' :: 's' :: 't' :: ' ' :: rest => Text.trimChars rest
  | name => name

/-- The type that a native name stands for. -/
def nativeScalar (native : String) : Scalar :=
  (nativeTypes.lookup (.ofList (dropConst (Text.trimChars native.toList)))).getD .any

/-- A type of a value: arrays of arrays, so many deep, of a scalar type. -/
structure ValueType where
  /-- The innermost type. -/
  scalar : Scalar
  /-- How many arrays are around it. -/
  rank : Nat
deriving DecidableEq, Repr

namespace ValueType

/-- Any value. -/
def any : ValueType :=
  ⟨.any, 0⟩

/-- An array of values of a type. -/
def array (t : ValueType) : ValueType :=
  { t with rank := t.rank + 1 }

/-- So many pairs of brackets. -/
def brackets : Nat → String
  | 0 => ""
  | n + 1 => "[]" ++ brackets n

/-- How a type is written. -/
def spelling (t : ValueType) : String :=
  t.scalar.spelling ++ brackets t.rank

end ValueType

end GirTypings
