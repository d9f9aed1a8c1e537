/-!
  The values of numerals.
-/
namespace CodeAtlas.Numeral

/-- The value of a hexadecimal digit. -/
def hexValue? (c : Char) : Option Nat :=
  if '0' ≤ c && c ≤ '9' then some (c.toNat - 0x30)
  else if 'a' ≤ c && c ≤ 'f' then some (c.toNat - 0x57)
  else if 'A' ≤ c && c ≤ 'F' then some (c.toNat - 0x37)
  else none

/-- The value of a digit; what is no digit counts as zero. -/
def digitValue (c : Char) : Nat := (hexValue? c).getD 0

/-- Hexadecimal digits. -/
def isHex (c : Char) : Bool := (hexValue? c).isSome

/-- The value of digits in a base, the highest digit first. -/
def value (base : Nat) (digits : List Char) : Nat :=
  digits.foldl (fun n c => n * base + digitValue c) 0

/-- The value of decimal digits. -/
def decimal (digits : List Char) : Nat := value 10 digits

/-- The value of hexadecimal digits, when all are some. -/
def hex? (digits : List Char) : Option Nat := if digits.all isHex then some (value 16 digits) else none

/-- An integer with more decimal digits than this is neither read nor displayed. -/
def maxDigits : Nat := 4300

/-- Whether an integer has more decimal digits than are displayed. -/
def isTooLong (n : Int) : Bool := Nat.pow 10 maxDigits ≤ n.natAbs

example : hex? "00e9".toList = some 233 ∧ hex? "0g".toList = none := by decide +kernel

end CodeAtlas.Numeral
