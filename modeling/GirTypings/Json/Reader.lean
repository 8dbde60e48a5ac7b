import GirTypings.Json
import GirTypings.Scanner
import GirTypings.Table
import GirTypings.Text.Numeral
import GirTypings.Text.Surrogate

/-!
# Reading JSON

`Json.read?` reads a text that is one JSON value with spaces around it.  Of several
fields with one name the last counts.  A control character has to be escaped inside a
text, and two escapes that make a surrogate pair are one character.
-/

namespace GirTypings.Json

open Scanner

/-- Whether a character may stand between the parts of a value. -/
def isGap (c : Char) : Bool :=
  c == ' ' || c == '\t' || c == '\n' || c == '\r'

/-- Any number of spaces. -/
def gap : Scanner Char Unit := do
  let _ ← charsWhere isGap

/-! ### Texts -/

/-- A hexadecimal digit. -/
def hexDigit : Scanner Char Char :=
  (charWhere Text.isHexDigit).scan

/-- The number that four hexadecimal digits write. -/
def codeUnit : Scanner Char Nat := do
  return Text.numberOf 16 [← hexDigit, ← hexDigit, ← hexDigit, ← hexDigit]

/-- The number of what a code unit writes: itself, or the character that it makes with the
escape after it if the two are a pair. -/
def unitCode (unit : Nat) : Scanner Char Nat :=
  (do .require (Text.isLeading unit)
      word "\\u"
      let second ← codeUnit
      .require (Text.isTrailing second)
      return Text.pairNumber unit second)
  <|> pure unit

/-- What an escape of one letter stands for. -/
def escaped? (c : Char) : Option Char :=
  match c with
  | '"' => some '"'
  | '\\' => some '\\'
  | '/' => some '/'
  | 'b' => some '\x08'
  | 'f' => some '\x0C'
  | 'n' => some '\n'
  | 'r' => some '\r'
  | 't' => some '\t'
  | _ => none

/-- A character of a text, or the half of a pair, by its number. -/
def textCode : Eager Char Nat :=
  ((charWhere fun c => 32 ≤ c.toNat && c != '"' && c != '\\').andThen fun c => pure c.toNat)
  <|> (char '\\').andThen fun _ =>
    (do return (← (item escaped?).scan).toNat) <|> do word "u"; unitCode (← codeUnit)

/-- A text in double quotes, by numbers. -/
def textToken : Eager Char (List Nat) :=
  (char '"').andThen fun _ => do
    let codes ← textCode.many
    word "\""
    return codes

/-! ### Numbers -/

/-- A fraction: its digits. -/
def fraction : Scanner Char (List Char) := do
  word "."
  (someCharsWhere Char.isDigit).scan

/-- An exponent. -/
def exponent : Scanner Char Int := do
  let _ ← (charWhere fun c => c == 'e' || c == 'E').scan
  let negative ← (do word "-"; return true) <|> (do word "+"; return false) <|> pure false
  let n := Text.numberOf 10 (← (someCharsWhere Char.isDigit).scan)
  return if negative then -n else n

/-- A number after its first digit.  Nothing but a fraction or an exponent follows a
leading zero. -/
def numberFrom (negative : Bool) (first : Char) : Scanner Char Json := do
  let whole ← if first = '0' then pure [first] else (first :: ·) <$> charsWhere Char.isDigit
  let after ← (do return some (← fraction)) <|> pure none
  let power ← (do return some (← exponent)) <|> pure none
  match after, power with
  | none, none =>
    let n := Text.numberOf 10 whole
    return .integer (if negative then -n else n)
  | _, _ =>
    let places := after.getD []
    return .decimal ⟨negative, Text.numberOf 10 (whole ++ places), power.getD 0 - places.length⟩

/-- A number. -/
def number : Eager Char Json :=
  ((char '-').andThen fun _ =>
    (do word "Infinity"; return .infinity true)
    <|> do numberFrom true (← (charWhere Char.isDigit).scan))
  <|> (charWhere Char.isDigit).andThen (numberFrom false)

/-! ### Values -/

/-- A word that stands for a value. -/
def keyword (first : Char) (others : String) (value : Json) : Eager Char Json :=
  (char first).andThen fun _ => do word others; return value

/-- Things with commas between them, up to a closing character; there may be none. -/
def listed {α : Type} (thing : Eager Char α) (close : String) : Scanner Char (List α) := do
  gap
  (do word close; return [])
    <|> (do
      let first ← thing.scan
      gap
      let others ← ((char ',').andThen fun _ => do gap; let t ← thing.scan; gap; return t).many
      word close
      return first :: others)

/-- A field of an object. -/
def field (value : Eager Char Json) : Eager Char (String × Json) :=
  textToken.andThen fun name => do
    gap
    word ":"
    gap
    return (textOfCodes name, ← value.scan)

/-- A value. -/
def value : Eager Char Json :=
  Eager.nested fun self =>
    (textToken.andThen fun codes => pure (.ofCodes codes))
    <|> number
    <|> ((char '[').andThen fun _ => do return .array (← listed (self ()) "]"))
    <|> ((char '\x7b').andThen fun _ => do
      return .object (Table.ofEntries (← listed (field (self ())) "\x7d")))
    <|> keyword 'n' "ull" .null
    <|> keyword 't' "rue" (.bool true)
    <|> keyword 'f' "alse" (.bool false)
    <|> keyword 'N' "aN" .notANumber
    <|> keyword 'I' "nfinity" (.infinity false)

/-- The value that a text is; `none` if it is not JSON. -/
def read? (text : String) : Option Json :=
  (do gap; let v ← value.scan; gap; return v : Scanner Char Json).all? text.toList

end GirTypings.Json
