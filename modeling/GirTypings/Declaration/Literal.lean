import GirTypings.Text.Digit

/-!
# Literals

A value is written as a number, a truth value, `null`, or a text in single quotes.  In
quotes a backslash and a quote are written with a backslash in front.
-/

namespace GirTypings.Declaration

/-- The characters that write a value between single quotes. -/
def escapeChars : List Char → List Char
  | [] => []
  | c :: rest => if c = '\\' || c = '\'' then '\\' :: c :: escapeChars rest else c :: escapeChars rest

/-- What writes a value between single quotes. -/
def escape (value : String) : String :=
  .ofList (escapeChars value.toList)

/-- What is left after one digit or more. -/
def afterDigits? : List Char → Option (List Char)
  | [] => none
  | c :: rest =>
    if Text.isDecimalDigit c then some (rest.dropWhile Text.isDecimalDigit) else none

/-- What is left after the digits of a number and its fraction. -/
def afterMantissa? : List Char → Option (List Char)
  | '.' :: rest => afterDigits? rest
  | cs =>
    match afterDigits? cs with
    | some ('.' :: rest) => some (rest.dropWhile Text.isDecimalDigit)
    | found => found

/-- What is left after an exponent, if there is one. -/
def afterExponent (cs : List Char) : List Char :=
  match cs with
  | [] => cs
  | e :: rest =>
    if e = 'e' || e = 'E' then
      let unsigned := match rest with
        | s :: more => if s = '-' || s = '+' then more else rest
        | [] => rest
      (afterDigits? unsigned).getD cs
    else cs

/-- Whether a text is a number: a sign perhaps, digits with perhaps a point among them,
and perhaps an exponent.  Digits may be those of any script, and one line feed may
follow. -/
def isNumberLiteral (t : String) : Bool :=
  let unsigned := match t.toList with
    | '-' :: rest => rest
    | cs => cs
  match afterMantissa? unsigned with
  | none => false
  | some rest => afterExponent rest = [] || afterExponent rest = ['\n']

/-- How a value of a type is written, `null` if there is no value. -/
def literal (type : String) : Option String → String
  | none => "null"
  | some value =>
    if type = "number" && isNumberLiteral value then value
    else if type = "boolean" && (value = "true" || value = "false") then value
    else "'" ++ escape value ++ "'"

end GirTypings.Declaration
