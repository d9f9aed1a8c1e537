import CodeAtlas.Fault
import CodeAtlas.Path
import CodeAtlas.Text.Half
/-!
  Names of files as bytes.

  A disk keeps names as bytes, and a text names a file by its bytes in UTF-8.  A low half from U+DC80 on stands
  for a byte that belongs to no character; any other half has no bytes.  The null character ends a name, so it
  can be in none.  Names and whole paths may not be too long, but that is only found out when they are
  followed.
-/
namespace CodeAtlas.Path

/-- The greatest number of bytes of a name. -/
def maxNameSize : Nat := 255

/-- The number of bytes that a whole path stays below. -/
def sizeLimit : Nat := 4096

/-- Halves that stand for a byte. -/
def isByteHalf (n : Nat) : Bool := 0xDC80 ≤ n && n ≤ 0xDCFF

/-- The number of bytes of a code point in a name. -/
def pointSize (n : Nat) : Nat := if Text.isHalf n then 1 else (Char.ofNat n).utf8Size

/-- The number of bytes of a name. -/
def nameSize (name : String) : Nat := (Text.codePoints name.toList).foldr (fun n size => pointSize n + size) 0

/-- Whether a name has too many bytes. -/
def isLongName (name : String) : Bool := maxNameSize < nameSize name

/-- Whether a path has too many bytes as a whole. -/
def isLong (p : Path) : Bool := sizeLimit ≤ nameSize p.text

/-- Fails on a path that has no bytes, or none that name a file. -/
def checkBytes (p : Path) : Except Fault Unit :=
  let points := Text.codePoints p.text.toList
  if points.any fun n => Text.isHalf n && !isByteHalf n then .error .unencodable
  else if points.contains 0 then .error .badValue
  else .ok ()

/-- The path from the top, without two dots, of a path that can be followed. -/
def resolve (p : Path) : Except Fault Path := p.checkBytes.map fun _ => p.absolute

example : nameSize "né" = 3 := by decide +kernel
example : (ofString "a/b").checkBytes.isOk = true ∧ (ofString "a\x00/b").checkBytes.isOk = false := by decide +kernel

end CodeAtlas.Path
