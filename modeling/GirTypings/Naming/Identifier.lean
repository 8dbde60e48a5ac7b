/-!
# Identifiers

A word can name a binding of the declaration language if it is an **identifier** (an
ASCII letter, an underscore or a dollar sign, then any number of these and ASCII
digits) and not a reserved word.  One line feed after an identifier is tolerated.
Every other word is **reserved**, and `sanitize` puts an underscore in front of it.
-/

namespace GirTypings.Naming

/-- The words that cannot be bound: the keywords, the words that strict code reserves,
and the literals. -/
def reservedWords : List String := [
  "arguments", "await", "break", "case", "catch", "class", "const", "continue", "debugger",
  "default", "delete", "do", "else", "enum", "eval", "export", "extends", "false", "finally",
  "for", "function", "if", "implements", "import", "in", "instanceof", "interface", "let",
  "new", "null", "package", "private", "protected", "public", "return", "static", "super",
  "switch", "this", "throw", "true", "try", "typeof", "var", "void", "while", "with", "yield"]

/-- Whether a character can start an identifier. -/
def isIdentifierStart (c : Char) : Bool :=
  c.isAlpha || c == '_' || c == '$'

/-- Whether a character can stand in an identifier after its start. -/
def isIdentifierChar (c : Char) : Bool :=
  isIdentifierStart c || c.isDigit

/-- Whether characters are identifier characters to the end, or to one line feed that
ends the text. -/
def isIdentifierTail : List Char → Bool
  | [] => true
  | ['\n'] => true
  | c :: rest => isIdentifierChar c && isIdentifierTail rest

/-- Whether a text has the form of an identifier, with perhaps a line feed after it. -/
def isIdentifierForm (t : String) : Bool :=
  match t.toList with
  | [] => false
  | c :: rest => isIdentifierStart c && isIdentifierTail rest

/-- Whether a word cannot name a binding. -/
def isReserved (word : String) : Bool :=
  reservedWords.contains word || !isIdentifierForm word

/-- The word itself, or with an underscore in front if it is reserved. -/
def sanitize (word : String) : String :=
  if isReserved word then "_" ++ word else word

/-- A word that is not reserved stays as it is. -/
theorem sanitize_of_not_isReserved {word : String} (h : isReserved word = false) :
    sanitize word = word := by
  simp [sanitize, h]

/-- A reserved word gets one underscore. -/
theorem sanitize_of_isReserved {word : String} (h : isReserved word = true) :
    sanitize word = "_" ++ word := by
  simp [sanitize, h]

end GirTypings.Naming
