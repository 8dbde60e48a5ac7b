import GirTypings.Decimal
import GirTypings.Text.Join
import GirTypings.Text.Printable

/-!
# Settings as data

Settings are given as JSON values.  Only two questions are asked of a value: whether it
counts as **on**, and how it is written out as text.  A text is written as it is; inside
a list or an object it is quoted, in single quotes unless it holds one and no double
quote.

An escape can put a half of a surrogate pair into a text.  Such a text is not made of
characters alone and is a value of its own kind.  It can be quoted, with escapes, but not
written as it is.
-/

namespace GirTypings

/-- A JSON value.  Besides the numbers of the format there are three that its readers
commonly know: no number, and the two infinities. -/
inductive Json where
  | null
  | bool (b : Bool)
  | integer (n : Int)
  | decimal (n : Decimal.Numeral)
  | infinity (negative : Bool)
  | notANumber
  | string (t : String)
  /-- A text with halves of surrogate pairs in it: the numbers of those and of its
  characters. -/
  | halves (codes : List Nat)
  | array (items : List Json)
  /-- Named values, in order. -/
  | object (fields : List (String × Json))
deriving Inhabited

namespace Json

/-- Whether a value counts as on: nothing, zero and what is empty do not. -/
def isOn : Json → Bool
  | null => false
  | bool b => b
  | integer n => n != 0
  | decimal n => !n.isZero
  | infinity _ => true
  | notANumber => true
  | string t => t != ""
  | halves codes => !codes.isEmpty
  | array items => !items.isEmpty
  | object fields => !fields.isEmpty

/-- A number in so many hexadecimal digits, at least. -/
def hex (width n : Nat) : List Char :=
  let ds := Nat.toDigits 16 n
  List.replicate (width - ds.length) '0' ++ ds

/-- A character inside the given quotation marks. -/
def quotedChar (quote c : Char) : List Char :=
  if c = quote || c = '\\' then ['\\', c]
  else if c = '\n' then ['\\', 'n']
  else if c = '\r' then ['\\', 'r']
  else if c = '\t' then ['\\', 't']
  else if Text.isPrintable c then [c]
  else if c.toNat < 0x100 then '\\' :: 'x' :: hex 2 c.toNat
  else if c.toNat < 0x10000 then '\\' :: 'u' :: hex 4 c.toNat
  else '\\' :: 'U' :: hex 8 c.toNat

/-- A text in quotation marks, by the numbers of its characters and of the halves of pairs
in it. -/
def quotedCodes (codes : List Nat) : String :=
  let quote := if codes.contains '\''.toNat && !codes.contains '"'.toNat then '"' else '\''
  let inside := codes.flatMap fun n =>
    if n.isValidChar then quotedChar quote (Char.ofNat n) else '\\' :: 'u' :: hex 4 n
  .ofList (quote :: (inside ++ [quote]))

/-- A text in quotation marks. -/
def quotedText (t : String) : String :=
  quotedCodes (t.toList.map Char.toNat)

/-- The text with the given numbers of characters.  The replacement character stands for
the half of a pair. -/
def textOfCodes (codes : List Nat) : String :=
  .ofList (codes.map fun n => if n.isValidChar then Char.ofNat n else '\uFFFD')

/-- The value that is a text, by the numbers of what it is made of. -/
def ofCodes (codes : List Nat) : Json :=
  if codes.all fun n => n.isValidChar then string (textOfCodes codes) else halves codes

mutual

/-- The text of a value inside another. -/
def innerText : Json → String
  | null => "None"
  | bool b => if b then "True" else "False"
  | integer n => toString n
  | decimal n => n.text
  | infinity negative => if negative then "-inf" else "inf"
  | notANumber => "nan"
  | string t => quotedText t
  | halves codes => quotedCodes codes
  | array items => "[" ++ Text.commaList (itemTexts items) ++ "]"
  | object fields => "\x7b" ++ Text.commaList (fieldTexts fields) ++ "\x7d"

/-- The texts of the items of a list. -/
def itemTexts : List Json → List String
  | [] => []
  | item :: rest => item.innerText :: itemTexts rest

/-- The texts of the fields of an object. -/
def fieldTexts : List (String × Json) → List String
  | [] => []
  | (name, value) :: rest => (quotedText name ++ ": " ++ value.innerText) :: fieldTexts rest

end

/-- The text of a value. -/
def text : Json → String
  | string t => t
  | halves codes => textOfCodes codes
  | value => value.innerText

/-! ### Long numbers -/

/-- The least whole number that is too long to be read: it has 4301 digits. -/
def longNumber : Nat :=
  Nat.pow 10 4300

mutual

/-- Whether there is a whole number in a value that is too long to be read. -/
def holdsLong : Json → Bool
  | integer n => longNumber ≤ n.natAbs
  | array items => itemsHoldLong items
  | object fields => fieldsHoldLong fields
  | _ => false

/-- Whether there is one in some items. -/
def itemsHoldLong : List Json → Bool
  | [] => false
  | item :: rest => item.holdsLong || itemsHoldLong rest

/-- Whether there is one in some fields. -/
def fieldsHoldLong : List (String × Json) → Bool
  | [] => false
  | (_, value) :: rest => value.holdsLong || fieldsHoldLong rest

end

end Json

end GirTypings
