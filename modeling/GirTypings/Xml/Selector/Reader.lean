import GirTypings.Scanner
import GirTypings.Text.Blank
import GirTypings.Text.Digit
import GirTypings.Xml.Reference
import GirTypings.Xml.Selector

/-!
# Reading selectors

A written selector is a path: names of children with slashes between them.  A name has
its namespace in braces before it; an asterisk stands for any local name or, in the
braces, for any namespace.  Alone it stands for any child, a dot for the place itself,
and two dots for the parent.  What follows two slashes may be at any depth.  A condition
stands in brackets.  A path that ends with a slash goes on to all children.

A path is first cut into lexemes.  Blanks are no part of a name and stand for an empty
one, which nothing has; only inside brackets are they passed over.
-/

namespace GirTypings.Xml

open Scanner

/-- The test that a written name is. -/
def NameTest.ofText (t : String) : NameTest :=
  match t.toList with
  | ['\x7b', '*', '\x7d', '*'] => .any
  | ['\x7b', '\x7d', '*'] => .unqualified
  | '\x7b' :: '*' :: '\x7d' :: rest => .localName (.ofList rest)
  | cs =>
    if ['\x7d', '*'].isSuffixOf cs then .startsWith (.ofList cs.dropLast)
    else match cs with
      | '\x7b' :: '\x7d' :: rest => .key (.ofList rest)
      | _ => .key t

namespace Selector

/-! ### Lexemes -/

/-- A part of a written selector. -/
inductive Lexeme where
  /-- A name; the empty one stands for blanks. -/
  | name (t : String)
  /-- A text in quotation marks. -/
  | quoted (t : String)
  /-- A slash. -/
  | slash
  /-- Two slashes. -/
  | slashes
  /-- A dot. -/
  | dot
  /-- Two dots. -/
  | dots
  /-- An asterisk. -/
  | star
  /-- A colon, or two. -/
  | colon
  /-- An opening bracket. -/
  | opens
  /-- A closing bracket. -/
  | closes
  /-- A pair of parentheses. -/
  | call
  /-- An opening parenthesis. -/
  | opensCall
  /-- A closing parenthesis. -/
  | closesCall
  /-- An at sign. -/
  | atSign
  /-- An equals sign. -/
  | equal
  /-- An equals sign with an exclamation mark before it. -/
  | unequal
deriving DecidableEq, Repr

/-- The lexemes that are always one character. -/
def single? (c : Char) : Option Lexeme :=
  if c = '*' then some .star
  else if c = '[' then some .opens
  else if c = ']' then some .closes
  else if c = ')' then some .closesCall
  else if c = '@' then some .atSign
  else if c = '=' then some .equal
  else none

/-- A character, and what it is with a second one after it and without. -/
def oneOrTwo (first second : Char) (two one : Lexeme) : Eager Char Lexeme :=
  (char first).andThen fun _ =>
    ((char second).andThen fun _ => pure two).scan <|> pure one

/-- A lexeme that is no name and no quoted text. -/
def mark : Eager Char Lexeme :=
  oneOrTwo ':' ':' .colon .colon
  <|> oneOrTwo '/' '/' .slashes .slash
  <|> oneOrTwo '.' '.' .dots .dot
  <|> oneOrTwo '(' ')' .call .opensCall
  <|> ((char '!').andThen fun _ => do let _ ← (char '=').scan; return .unequal)
  <|> item single?

/-- Whether a character may stand in a name outside the braces. -/
def isPathNameChar (c : Char) : Bool :=
  !Text.isBlank c && !(['/', '[', ']', '(', ')', '@', '!', '='].contains c)

/-- A name with a namespace in braces. -/
def qualified : Eager Char Lexeme :=
  (char '\x7b').andThen fun _ => do
    let space ← (someCharsWhere (· != '\x7d')).scan
    let _ ← (char '\x7d').scan
    let rest ← (someCharsWhere isPathNameChar).scan
    return .name (.ofList ('\x7b' :: (space ++ '\x7d' :: rest)))

/-- A name. -/
def named : Eager Char Lexeme :=
  qualified <|> (someCharsWhere isPathNameChar).andThen fun cs => pure (.name (.ofList cs))

/-- Blanks. -/
def blanks : Eager Char Lexeme :=
  (someCharsWhere Text.isBlank).andThen fun _ => pure (.name "")

/-- A text in quotation marks. -/
def quotation : Eager Char Lexeme :=
  quoted.andThen fun cs => pure (.quoted (.ofList cs))

/-- A lexeme; a character that starts none is passed over. -/
def lexeme : Eager Char (Option Lexeme) :=
  ((quotation <|> mark <|> named <|> blanks).andThen fun l => pure (some l))
  <|> item fun _ => some none

/-- Whether a lexeme has a meaning.  A name with a colon has none unless its namespace is
given. -/
def Lexeme.isKnown : Lexeme → Bool
  | .name t => t.toList.head? == some '\x7b' || !t.toList.contains ':'
  | _ => true

/-! ### Conditions -/

/-- A whole number, which may have a minus sign before it. -/
def wholeNumber? (t : String) : Option Int :=
  match t.toList with
  | '-' :: cs => (Text.decimalOf? cs).map fun n => -(n : Int)
  | cs => (Text.decimalOf? cs).map Int.ofNat

/-- The comparison that a lexeme stands for. -/
def comparison? : Lexeme → Option Comparison
  | .equal => some .same
  | .unequal => some .other
  | _ => none

/-- How many children of the name come after the one that is so far from the last. -/
def beforeLast? (offset : String) : Option Condition :=
  match wholeNumber? offset with
  | some (.negSucc n) => some (.before (n + 1))
  | _ => none

/-- The condition that the lexemes between brackets are. -/
def condition? : List Lexeme → Option Condition
  | [.atSign, .name key] => some (.hasAttribute key)
  | [.atSign, .name key, c, .quoted given] => (comparison? c).map (.attributeValue key · given)
  | [.dot, c, .quoted given] => (comparison? c).map (.text · given)
  | [.name t, .call] => if t = "last" then some (.before 0) else none
  | [.name t, .opensCall, .closesCall] => if t = "last" then some (.before 0) else none
  | [.name t, .call, .name offset] => if t = "last" then beforeLast? offset else none
  | [.name t, c, .quoted given] =>
    if (wholeNumber? t).isSome then none
    else (comparison? c).map (.childText (.ofText t) · given)
  | [.name t] =>
    match wholeNumber? t with
    | none => some (.hasChild (.ofText t))
    | some (.ofNat (n + 1)) => some (.after n)
    | some _ => none
  | _ => none

/-! ### Steps -/

/-- A given lexeme. -/
def exactly (l : Lexeme) : Eager Lexeme Unit :=
  item fun found => if found = l then some () else none

/-- What is asked of names. -/
def nameTest : Eager Lexeme NameTest :=
  item fun
    | .star => some .any
    | .name t => some (.ofText t)
    | _ => none

/-- A step. -/
def step : Eager Lexeme SelectorStep :=
  (nameTest.andThen fun t => pure (.child t))
  <|> ((exactly .dot).andThen fun _ => pure .here)
  <|> ((exactly .dots).andThen fun _ => pure .parent)
  <|> ((exactly .slashes).andThen fun _ => do return .inside (← nameTest.scan))
  <|> ((exactly .opens).andThen fun _ => do
    let between ← (item fun l => if l = .closes then none else some l).many
    let _ ← (exactly .closes).scan
    let c ← .ofOption (condition? (between.filter (· ≠ .name "")))
    return .which c)

/-- Steps; there may be a slash before each but the first, and one at the end. -/
def steps : Scanner Lexeme Selector := do
  let first ← step.scan
  let others ← ((exactly .slash).andThen (fun _ => step.scan) <|> step).many
  (exactly .slash).scan <|> pure ()
  return first :: others

/-- The selector that a text writes; `none` if it writes none. -/
def read? (text : String) : Option Selector := do
  let cs := text.toList
  let lexemes := (← lexeme.many.all? (if cs.getLast? = some '/' then cs ++ ['*'] else cs)).filterMap id
  guard (lexemes.all Lexeme.isKnown)
  steps.all? lexemes

end Selector

end GirTypings.Xml
