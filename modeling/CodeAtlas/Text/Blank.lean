/-!
  White space, and the texts around it.

  `isBlank` is the class of the white-space characters: the ones that Unicode gives the property
  White_Space together with the four information separators U+001C to U+001F.  `trim` cuts them off both
  ends of a text and touches nothing between the first and the last other character.
-/
namespace CodeAtlas.Text

/-- The white-space characters, as ranges of code points. -/
def blankRanges : List (Nat × Nat) :=
  [(0x09, 0x0D), (0x1C, 0x20), (0x85, 0x85), (0xA0, 0xA0), (0x1680, 0x1680), (0x2000, 0x200A),
    (0x2028, 0x2029), (0x202F, 0x202F), (0x205F, 0x205F), (0x3000, 0x3000)]

/-- Membership in a class given by ranges of code points, both ends included. -/
def inRanges (ranges : List (Nat × Nat)) (c : Char) : Bool :=
  ranges.any fun r => r.1 ≤ c.toNat && c.toNat ≤ r.2

/-- White space. -/
def isBlank (c : Char) : Bool := inRanges blankRanges c

/-- Drops the characters of a class from the end. -/
def dropEndWhile (p : Char → Bool) (cs : List Char) : List Char :=
  (cs.reverse.dropWhile p).reverse

/-- Drops the characters of a class from both ends. -/
def trimWhile (p : Char → Bool) (cs : List Char) : List Char :=
  dropEndWhile p (cs.dropWhile p)

/-- A text without the white space at its two ends. -/
def trim (s : String) : String := String.ofList (trimWhile isBlank s.toList)

/-- A text without the given characters at its two ends. -/
def trimOf (chars : List Char) (s : String) : String :=
  String.ofList (trimWhile chars.contains s.toList)

/-- A text without the given characters at its end. -/
def trimEndOf (chars : List Char) (s : String) : String :=
  String.ofList (dropEndWhile chars.contains s.toList)

/-- A text without the given characters at its start. -/
def trimStartOf (chars : List Char) (s : String) : String :=
  String.ofList (s.toList.dropWhile chars.contains)

example : trim "\u2003 a b\x1c" = "a b" := by decide +kernel
example : trimEndOf [' ', ':'] "def f() : " = "def f()" := by decide +kernel

end CodeAtlas.Text
