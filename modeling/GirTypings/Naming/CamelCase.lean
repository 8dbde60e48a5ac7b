import GirTypings.Text.Piece

/-!
# Camel case

A name is cut into **words**: a run of small letters, a capital with the small letters
after it, or a run of digits; nothing else is part of a word, and only ASCII letters
and digits count.  In camel case the first word is written small, every other word
that starts with a letter gets a capital, and what stood between words is left out.  A
name without words stays as it is.
-/

namespace GirTypings.Naming

/-- Whether a character belongs to the word of the one before it: a small letter after a
letter, or a digit after a digit. -/
def joins (before : Char) : List Char → Bool
  | [] => false
  | c :: _ => (before.isAlpha && c.isLower) || (before.isDigit && c.isDigit)

/-- The words of a name. -/
def nameWords : List Char → List (List Char)
  | [] => []
  | c :: rest =>
    if !c.isAlphanum then nameWords rest
    else if joins c rest then Text.growFirst c (nameWords rest)
    else [c] :: nameWords rest

/-- A word with its first letter a capital and the others small. -/
def capitalize : List Char → List Char
  | [] => []
  | c :: rest => c.toUpper :: rest.map Char.toLower

/-- The name in camel case, as characters. -/
def camelChars (name : List Char) : List Char :=
  match nameWords name with
  | [] => name
  | head :: tail => head.map Char.toLower ++ tail.flatMap capitalize

/-- The name in camel case. -/
def camelCase (name : String) : String :=
  .ofList (camelChars name.toList)

end GirTypings.Naming
