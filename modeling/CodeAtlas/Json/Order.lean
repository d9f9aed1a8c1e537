import CodeAtlas.Json
import CodeAtlas.Text.Pieces
/-!
  The order of values.

  Numbers are compared by their values, truth values among them as 0 and 1, texts by code points, and lists
  item by item.  Objects and values of different sorts have no order, except that equal ones are equal.
-/
namespace CodeAtlas

/-- The exact value as a fraction.  The infinities are ±1 over 0, and the undefined number is 0 over 0, which
    is neither less nor greater than any number. -/
def Double.fraction (x : Double) : Int × Nat :=
  let sign : Int := if x.isNegative then -1 else 1
  if x.isNaN then (0, 0)
  else if x.isInfinite then (sign, 0)
  else (sign * (x.significand * Nat.pow 2 x.scale.toNat : Nat), Nat.pow 2 (-x.scale).toNat)

namespace Json

/-- A number as a fraction. -/
def fraction? : Json → Option (Int × Nat)
  | bool b => some (if b then 1 else 0, 1)
  | int n => some (n, 1)
  | float x => some x.fraction
  | _ => none

/-- Whether two fractions are the same number. -/
def sameFraction (a b : Int × Nat) : Bool :=
  if a.2 = 0 || b.2 = 0 then a = b else a.1 * b.2 = b.1 * a.2

/-- The order of fractions. -/
def compareFractions (a b : Int × Nat) : Ordering :=
  if a.2 = 0 && b.2 = 0 then compare a.1 b.1 else compare (a.1 * b.2) (b.1 * a.2)

/-- The order of texts. -/
def compareTexts (a b : String) : Ordering := if a < b then .lt else if b < a then .gt else .eq

mutual

/-- Equality by value: that of numbers, whatever sort they are of, and part by part that of lists and objects.
    The order of the fields does not matter. -/
def equal : Json → Json → Bool
  | arr as, arr bs => equalItems as bs
  | obj as, obj bs => as.length = bs.length && equalFields as bs
  | a, b =>
    match a.fraction?, b.fraction? with
    | some x, some y => sameFraction x y
    | _, _ => a = b

/-- Equality of lists item by item. -/
def equalItems : List Json → List Json → Bool
  | [], [] => true
  | a :: as, b :: bs => equal a b && equalItems as bs
  | _, _ => false

/-- Whether the fields are among some others, with equal values. -/
def equalFields : List (Key × Json) → List (Key × Json) → Bool
  | [], _ => true
  | (k, a) :: rest, others =>
    match lookup k others with
    | some b => equal a b && equalFields rest others
    | none => false

end

mutual

/-- The order of two values, if they have one. -/
def order? : Json → Json → Option Ordering
  | str a, str b => some (compareTexts a b)
  | arr as, arr bs => orderItems? as bs
  | a, b =>
    match a.fraction?, b.fraction? with
    | some x, some y => some (compareFractions x y)
    | _, _ => if equal a b then some .eq else none

/-- The order of two lists: that of the first items that are not equal. -/
def orderItems? : List Json → List Json → Option Ordering
  | [], [] => some .eq
  | [], _ :: _ => some .lt
  | _ :: _, [] => some .gt
  | a :: as, b :: bs => if equal a b then orderItems? as bs else order? a b

end

example : order? (int 2) (float (Double.ofDecimal false 25 (-1))) = some .lt := by decide +kernel
example : order? (int 1) (bool true) = some .eq ∧ order? (int 1) (str "1") = none := by decide +kernel
example : equal (obj [("a", int 1), ("b", null)]) (obj [("b", null), ("a", bool true)]) = true := by decide +kernel

end Json

end CodeAtlas
