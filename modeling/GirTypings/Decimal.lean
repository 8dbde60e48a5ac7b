/-!
# Decimal numerals of binary numbers

Settings may hold numbers with a fraction.  Such a number is kept as the double that is
nearest to what was written, and is written back with the fewest digits that read as
the same double; of several such digit strings with one length, the one nearest to the
double is taken.

Everything is exact arithmetic on natural numbers.  A positive double is a significand
below 2⁵³ times a power of two, and the numbers that round to it form an interval whose
ends are half-way to its neighbours; the ends belong to it if the significand is even.
-/

namespace GirTypings.Decimal

/-- A number as it is written: a whole number times a power of ten. -/
structure Numeral where
  /-- Whether a minus sign is in front. -/
  negative : Bool
  /-- The digits before and after the point, as one number. -/
  digits : Nat
  /-- The power of ten. -/
  exponent : Int
deriving DecidableEq, Repr

/-- A double that is not negative: a significand times a power of two. -/
structure Magnitude where
  /-- The significand, below 2⁵³. -/
  significand : Nat
  /-- The power of two, at least -1074. -/
  exponent : Int
deriving DecidableEq, Repr

/-- The quotient, rounded to the nearest whole number and from half-way to an even one. -/
def roundDiv (num den : Nat) : Nat :=
  let whole := num / den
  let twice := 2 * (num % den)
  if twice < den then whole
  else if den < twice then whole + 1
  else if whole % 2 = 0 then whole else whole + 1

/-- A fraction for a number times a power of a base. -/
def scaled (base n : Nat) (e : Int) : Nat × Nat :=
  if 0 ≤ e then (n * base.pow e.toNat, 1) else (n, base.pow (-e).toNat)

/-- The quotient of two fractions. -/
def quotient (a b : Nat × Nat) : Nat × Nat :=
  (a.1 * b.2, a.2 * b.1)

/-- How many digits a whole number is written with. -/
def digitCount (n : Nat) : Nat :=
  (Nat.toDigits 10 n).length

/-- The double nearest to a numeral without its sign; `none` if it is beyond the largest. -/
def nearest? (n : Numeral) : Option Magnitude :=
  if n.digits = 0 then some ⟨0, -1074⟩
  else
    let size := (digitCount n.digits : Int) + n.exponent
    if 400 < size then none
    else if size < -400 then some ⟨0, -1074⟩
    else
      let value := scaled 10 n.digits n.exponent
      let guess := (value.1.log2 : Int) - value.2.log2
      let below := quotient value (scaled 2 1 guess)
      let power := max (if below.1 < below.2 then guess - 53 else guess - 52) (-1074)
      let ratio := quotient value (scaled 2 1 power)
      let significand := roundDiv ratio.1 ratio.2
      let found : Magnitude :=
        if significand = Nat.pow 2 53 then ⟨Nat.pow 2 52, power + 1⟩ else ⟨significand, power⟩
      if 971 < found.exponent then none else some found

/-- Whether a fraction lies in the interval of the numbers that round to a double. -/
def roundsTo (m : Magnitude) (x : Nat × Nat) : Bool :=
  let quarter := quotient x (scaled 2 1 (m.exponent - 2))
  let low := 4 * m.significand - if m.significand = Nat.pow 2 52 ∧ -1074 < m.exponent then 1 else 2
  let high := 4 * m.significand + 2
  let atLeast := low * quarter.2
  let atMost := high * quarter.2
  if m.significand % 2 = 0 then atLeast ≤ quarter.1 && quarter.1 ≤ atMost
  else atLeast < quarter.1 && quarter.1 < atMost

/-- The power of ten of the first digit of a positive fraction. -/
def leadingPower (x : Nat × Nat) : Int :=
  if x.2 ≤ x.1 then (digitCount (x.1 / x.2) : Int) - 1
  else -(((List.range 400).find? fun j => x.2 ≤ x.1 * Nat.pow 10 j).getD 400 : Int)

/-- A numeral of so many digits that reads as a double, if there is one: its digits and
the power of ten. -/
def numeralOfLength? (m : Magnitude) (count : Nat) : Option (Nat × Int) :=
  let value := scaled 2 m.significand m.exponent
  let power := leadingPower value - (count : Int) + 1
  let ratio := quotient value (scaled 10 1 power)
  let below := ratio.1 / ratio.2
  let reads (n : Nat) := roundsTo m (scaled 10 n power)
  let twice := 2 * (ratio.1 % ratio.2)
  let upFirst := ratio.2 < twice || (twice == ratio.2 && below % 2 == 1)
  if upFirst && reads (below + 1) then some (below + 1, power)
  else if reads below then some (below, power)
  else if reads (below + 1) then some (below + 1, power)
  else none

/-- The fewest digits that read as a positive double, and the power of ten of the
number they make. -/
def shortest (m : Magnitude) : Nat × Int :=
  ((List.range 17).findSome? fun n => numeralOfLength? m (n + 1)).getD (m.significand, m.exponent)

/-! ### Writing -/

/-- So many zeros. -/
def zeros (n : Nat) : List Char :=
  List.replicate n '0'

/-- The digits of a number without the zeros at their end, and how many those are. -/
def significantDigits (n : Nat) : List Char × Nat :=
  let ds := Nat.toDigits 10 n
  let kept := (ds.reverse.dropWhile (· == '0')).reverse
  (kept, ds.length - kept.length)

/-- The text of digits whose point stands after the first `point` of them.  Between
0.0001 and 10¹⁶ the point is written where it stands, beyond after the first digit and
with an exponent of at least two digits. -/
def place (ds : List Char) (point : Int) : List Char :=
  if point ≤ -4 ∨ 16 < point then
    let fraction := match ds.drop 1 with
      | [] => []
      | rest => '.' :: rest
    let power := point - 1
    let size := Nat.toDigits 10 power.natAbs
    ds.take 1 ++ fraction ++ 'e' :: (if power < 0 then '-' else '+') ::
      (zeros (2 - size.length) ++ size)
  else if point ≤ 0 then '0' :: '.' :: (zeros (-point).toNat ++ ds)
  else
    let whole := ds.take point.toNat ++ zeros (point.toNat - ds.length)
    let fraction := ds.drop point.toNat
    whole ++ '.' :: (if fraction.isEmpty then ['0'] else fraction)

/-- Whether a numeral reads as zero. -/
def Numeral.isZero (n : Numeral) : Bool :=
  (nearest? n).any (·.significand == 0)

/-- The text of the double that a numeral reads as. -/
def Numeral.text (n : Numeral) : String :=
  let unsigned := match nearest? n with
    | none => "inf"
    | some m =>
      if m.significand = 0 then "0.0"
      else
        let (number, power) := shortest m
        let (ds, dropped) := significantDigits number
        .ofList (place ds ((ds.length : Int) + dropped + power))
  if n.negative then "-" ++ unsigned else unsigned

end GirTypings.Decimal
