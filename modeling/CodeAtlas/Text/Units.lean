import CodeAtlas.Text.Half
/-!
  Texts in units of sixteen bits.

  Most characters are one unit; those beyond U+FFFF are a high half followed by a low half.  `joinPairs` makes
  code points of units and leaves a half that stands alone as it is; `joinNext?` lets a high half take whatever
  comes next and refuses a low half that is not taken.
-/
namespace CodeAtlas.Text

/-- First units of pairs. -/
def isHighHalf (n : Nat) : Bool := 0xD800 ≤ n && n ≤ 0xDBFF

/-- Second units of pairs. -/
def isLowHalf (n : Nat) : Bool := 0xDC00 ≤ n && n ≤ 0xDFFF

/-- The code points of some units, after the ones before (reversed). -/
def joinPairsOnto (acc : List Nat) : List Nat → List Nat
  | [] => acc.reverse
  | [n] => (n :: acc).reverse
  | high :: low :: rest =>
    if isHighHalf high && isLowHalf low then
      joinPairsOnto ((0x10000 + (high - 0xD800) * 0x400 + (low - 0xDC00)) :: acc) rest
    else joinPairsOnto (high :: acc) (low :: rest)

/-- The code points of some units. -/
def joinPairs (units : List Nat) : List Nat := joinPairsOnto [] units

/-- The characters of some units, after the ones before (reversed), when every high half takes the last ten
    binary digits of the next unit. -/
def joinNextOnto? (acc : List Char) : List Nat → Option (List Char)
  | [] => some acc.reverse
  | [n] => if isHalf n then none else some (Char.ofNat n :: acc).reverse
  | n :: next :: rest =>
    if isHighHalf n then joinNextOnto? (Char.ofNat (0x10000 + (n - 0xD800) * 0x400 + next % 0x400) :: acc) rest
    else if isLowHalf n then none
    else joinNextOnto? (Char.ofNat n :: acc) (next :: rest)

/-- The characters of some units, when every high half takes the last ten binary digits of the next unit. -/
def joinNext? (units : List Nat) : Option (List Char) := joinNextOnto? [] units

/-- The units of some bytes, after the ones before (reversed); two bytes make a unit. -/
def unitsOnto? (highFirst : Bool) (acc : List Nat) : List UInt8 → Option (List Nat)
  | [] => some acc.reverse
  | [_] => none
  | a :: b :: rest =>
    let n := if highFirst then a.toNat * 256 + b.toNat else b.toNat * 256 + a.toNat
    unitsOnto? highFirst (n :: acc) rest

/-- The units of some bytes. -/
def units? (highFirst : Bool) (bytes : List UInt8) : Option (List Nat) := unitsOnto? highFirst [] bytes

example : joinPairs [0x78, 0xD83D, 0xDE00, 0xD83D] = [0x78, 0x1F600, 0xD83D] := by decide +kernel
example : joinNext? [0xD83D, 0xDE00] = some ['😀'] ∧ joinNext? [0xDE00, 0xD83D] = none := by decide +kernel
example : units? false [0x3C, 0x00, 0x61] = none := by decide +kernel

end CodeAtlas.Text
