import CodeAtlas.Number.Double
/-!
  The text of a double: the fewest digits that read back.

  A decimal reads back as x when it lies in the interval of the reals that round to x (its two ends
  belong to it exactly if the significand is even).  For one digit, two digits, … the two neighbours of
  the value on that decimal grid are tried; the first grid with a hit wins, and of two hits the nearer one,
  a tie going to the even digit.  If any point of a grid lies in the interval then so does one of the two
  neighbours, hence no shorter decimal is missed.

  The text is positional for values from 10^-4 up to 10^16, always with a point; outside of that range it
  has one digit before the point and an exponent of at least two digits with its sign.
-/
namespace CodeAtlas.Double

/-- The value and the interval of the reals that round to it, over one denominator. -/
structure Neighbourhood where
  low : Nat
  value : Nat
  high : Nat
  den : Nat
  /-- Whether the two ends belong to the interval. -/
  closed : Bool

/-- The interval around a positive finite number.  Below a power of two the gap is half as wide. -/
def neighbourhood (x : Double) : Neighbourhood :=
  let m := x.significand
  let q := x.scale
  let power := m == Nat.pow 2 52 && q > -1074
  { low := (if power then 4 * m - 1 else 4 * m - 2) * Nat.pow 2 q.toNat
    value := 4 * m * Nat.pow 2 q.toNat
    high := (4 * m + 2) * Nat.pow 2 q.toNat
    den := 4 * Nat.pow 2 (-q).toNat
    closed := m % 2 == 0 }

/-- Whether the decimal `n · 10^e` lies in the interval. -/
def Neighbourhood.holds (b : Neighbourhood) (n : Nat) (e : Int) : Bool :=
  let value := n * Nat.pow 10 e.toNat * b.den
  let low := b.low * Nat.pow 10 (-e).toNat
  let high := b.high * Nat.pow 10 (-e).toNat
  if b.closed then low ≤ value && value ≤ high else low < value && value < high

/-- The neighbour of the value on the grid of the multiples of 10^e that reads back. -/
def Neighbourhood.onGrid? (b : Neighbourhood) (e : Int) : Option Nat :=
  let num := b.value * Nat.pow 10 (-e).toNat
  let den := b.den * Nat.pow 10 e.toNat
  let below := num / den
  let twice := 2 * (num % den)
  match b.holds below e, b.holds (below + 1) e with
  | true, true =>
    if twice < den then some below
    else if den < twice then some (below + 1)
    else some (below + below % 2)
  | true, false => some below
  | false, true => some (below + 1)
  | false, false => none

/-- Writes the decimal digits of `n` in front of `acc`; `fuel` bounds their number. -/
def digitsOnto : Nat → Nat → List Char → List Char
  | 0, _, acc => acc
  | fuel + 1, n, acc =>
    let acc := Char.ofNat (0x30 + n % 10) :: acc
    if n < 10 then acc else digitsOnto fuel (n / 10) acc

/-- The decimal digits of a natural number. -/
def decimalDigits (n : Nat) : List Char := digitsOnto (Nat.log2 n + 1) n []

/-- The number of decimal digits of the integer part of `num / den`; for a value below one the
    number of zeros that follow the point, negated. -/
def decimalExponent (num den : Nat) : Int :=
  let above := (decimalDigits (num / den)).length
  if den ≤ num then above
  else
    -- leading zeros behind the point
    let zeros := (List.range 400).find? fun z => den ≤ num * Nat.pow 10 (z + 1)
    Int.negOfNat (zeros.getD 0)

/-- The shortest digits of a positive finite number, as a natural `n` and an exponent: the value is
    about `n · 10^e`. -/
def shortest (x : Double) : Nat × Int :=
  let b := x.neighbourhood
  let point := decimalExponent b.value b.den
  let tries := (List.range 17).map fun d => point - (d + 1 : Nat)
  match tries.findSome? fun e => (b.onGrid? e).map (·, e) with
  | some hit => hit
  | none => (0, 0)

/-- Digits without the zeros at their end, with the exponent that goes with them. -/
def withoutTrailingZeros (digits : List Char) : List Char :=
  (digits.reverse.dropWhile (· == '0')).reverse

/-- The text of digits whose point stands after the first `point` of them. -/
def layout (digits : List Char) (point : Int) : List Char :=
  if -4 < point && point ≤ 16 then
    if point ≤ 0 then
      '0' :: '.' :: List.replicate (-point).toNat '0' ++ digits
    else
      let whole := digits.take point.toNat
      let fraction := digits.drop point.toNat
      whole ++ List.replicate (point.toNat - whole.length) '0' ++ '.'
        :: (if fraction.isEmpty then ['0'] else fraction)
  else
    let exponent := point - 1
    let size := decimalDigits exponent.natAbs
    digits.take 1 ++ (if digits.length ≤ 1 then [] else '.' :: digits.drop 1)
      ++ 'e' :: (if exponent < 0 then '-' else '+')
      :: (if size.length < 2 then '0' :: size else size)

/-- The text of a finite number without its sign. -/
def magnitudeText (x : Double) : List Char :=
  if x.isZero then ['0', '.', '0']
  else
    let (n, e) := x.shortest
    let digits := decimalDigits n
    layout (withoutTrailingZeros digits) (digits.length + e)

/-- The texts of the values that are no finite numbers. -/
structure SpecialTexts where
  infinity : String
  undefined : String

/-- The text of a double. -/
def text (special : SpecialTexts) (x : Double) : String :=
  let sign := if x.isNegative then "-" else ""
  if x.isNaN then special.undefined
  else if x.isInfinite then sign ++ special.infinity
  else sign ++ String.ofList x.magnitudeText

example : magnitudeText (ofDecimal false 15 (-1)) = ['1', '.', '5'] := by decide +kernel
example : magnitudeText (ofDecimal false 1 (-1)) = ['0', '.', '1'] := by decide +kernel
example : magnitudeText (ofDecimal false 5 (-324)) = "5e-324".toList := by decide +kernel
example : magnitudeText (ofDecimal false 1 16) = "1e+16".toList := by decide +kernel
example : magnitudeText (ofDecimal false 1 (-4)) = "0.0001".toList := by decide +kernel

end CodeAtlas.Double
