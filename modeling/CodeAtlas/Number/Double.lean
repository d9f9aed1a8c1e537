/-!
  Binary floating-point numbers of 64 bits, by their bit patterns.

  A number is sign, exponent and fraction.  A finite one is ± m · 2^q with natural m below 2^53 and
  integer q from -1074 to 971, and everything about it is computed in exact integer arithmetic on m and q:
  nothing here uses the machine's floating-point unit, so all of it can be reasoned about.

  `ofDecimal` is correct rounding: the value of a decimal numeral goes to the nearest double, and halfway
  between two of them to the one with the even m.
-/
namespace CodeAtlas

/-- A double, by its bit pattern. -/
structure Double where
  bits : UInt64
deriving DecidableEq, Repr, Inhabited

namespace Double

/-- The sign bit. -/
def isNegative (x : Double) : Bool := x.bits.toNat / Nat.pow 2 63 == 1

/-- The eleven bits of the exponent. -/
def exponentField (x : Double) : Nat := x.bits.toNat / Nat.pow 2 52 % Nat.pow 2 11

/-- The fifty-two bits of the fraction. -/
def fractionField (x : Double) : Nat := x.bits.toNat % Nat.pow 2 52

/-- Neither a number nor an infinity. -/
def isNaN (x : Double) : Bool := x.exponentField == 2047 && x.fractionField != 0

/-- One of the two infinities. -/
def isInfinite (x : Double) : Bool := x.exponentField == 2047 && x.fractionField == 0

/-- The natural m of a finite number ± m · 2^q. -/
def significand (x : Double) : Nat :=
  if x.exponentField = 0 then x.fractionField else x.fractionField + Nat.pow 2 52

/-- The integer q of a finite number ± m · 2^q. -/
def scale (x : Double) : Int :=
  if x.exponentField = 0 then -1074 else (x.exponentField : Int) - 1075

/-- One of the two zeros. -/
def isZero (x : Double) : Bool := x.exponentField == 0 && x.fractionField == 0

/-- The number with the given sign and the given lower 63 bits. -/
def ofFields (negative : Bool) (lower : Nat) : Double :=
  ⟨UInt64.ofNat ((if negative then Nat.pow 2 63 else 0) + lower)⟩

/-- Infinity with a sign. -/
def infinite (negative : Bool) : Double := ofFields negative (2047 * Nat.pow 2 52)

/-- The value that stands for an undefined result. -/
def nan : Double := ofFields false (2047 * Nat.pow 2 52 + Nat.pow 2 51)

/-- The quotient rounded to the nearest integer, a half to the even one. -/
def divRoundEven (num den : Nat) : Nat :=
  let q := num / den
  let twice := 2 * (num % den)
  if twice < den then q
  else if den < twice then q + 1
  else q + q % 2

/-- The numerator of `num / den · 2^(-q)` over the denominator `scaledDen`. -/
def scaledNum (num : Nat) (q : Int) : Nat := num * Nat.pow 2 (-q).toNat

/-- See `scaledNum`. -/
def scaledDen (den : Nat) (q : Int) : Nat := den * Nat.pow 2 q.toNat

/-- The double nearest to the positive quotient `num / den`. -/
def ofRatio (negative : Bool) (num den : Nat) : Double :=
  -- the quotient lies between 2^(k-1) and 2^(k+1)
  let k : Int := (Nat.log2 num : Int) - Nat.log2 den
  let q₀ : Int := max (k - 53) (-1074)
  -- at q₀ the integer part has 53 or 54 bits, so one step up may be needed
  let q : Int := if scaledNum num q₀ / scaledDen den q₀ < Nat.pow 2 53 then q₀ else q₀ + 1
  let m := divRoundEven (scaledNum num q) (scaledDen den q)
  -- the carry of the rounding moves into the exponent by itself
  let lower : Int := if m < Nat.pow 2 52 then m else (q + 1075) * Nat.pow 2 52 + ((m : Int) - Nat.pow 2 52)
  if lower < 2047 * Nat.pow 2 52 then ofFields negative lower.toNat else infinite negative

/-- The double nearest to `± digits · 10^exponent`.  Numerals far outside the range of the doubles are
    settled by the number of their digits alone, so that no huge power is computed. -/
def ofDecimal (negative : Bool) (digits : Nat) (exponent : Int) : Double :=
  if digits = 0 then ofFields negative 0
  else
    let magnitude : Int := (Nat.log2 digits : Int) * 3 / 10 + exponent
    if 400 < magnitude then infinite negative
    else if magnitude + (Nat.log2 digits : Int) / 10 + 2 < -400 then ofFields negative 0
    else ofRatio negative (digits * Nat.pow 10 exponent.toNat) (Nat.pow 10 (-exponent).toNat)

/-- The integer that a finite number equals, when there is one. -/
def integer? (x : Double) : Option Int :=
  if x.exponentField = 2047 then none
  else
    let m := x.significand
    let magnitude : Option Nat :=
      if 0 ≤ x.scale then some (m * Nat.pow 2 x.scale.toNat)
      else if m % Nat.pow 2 (-x.scale).toNat = 0 then some (m / Nat.pow 2 (-x.scale).toNat)
      else none
    magnitude.map fun n => if x.isNegative then -(n : Int) else n

example : ofDecimal false 15 (-1) = ⟨0x3FF8000000000000⟩ := by decide +kernel
example : ofDecimal false 1 (-1) = ⟨0x3FB999999999999A⟩ := by decide +kernel
example : ofDecimal true 5 (-324) = ⟨0x8000000000000001⟩ := by decide +kernel
example : ofDecimal false 17976931348623159 292 = infinite false := by decide +kernel
example : (ofDecimal false 20 (-1)).integer? = some 2 := by decide +kernel

end Double

end CodeAtlas
