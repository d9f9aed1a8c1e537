/-!
  Code pages: encodings in which every byte is a character of its own.

  A page agrees with ASCII in its lower half, or leaves a character of it out, and says in a table of 128
  characters what its upper half is.  Bytes may be no character at all, so that not every sequence of bytes is
  a text.
-/
namespace CodeAtlas.Text

/-- An encoding with one byte for every character. -/
structure CodePage where
  /-- the characters of the bytes from 0x80 on -/
  upper : Array (Option Char)
  /-- the characters of ASCII that are missing -/
  without : List Char := []

namespace CodePage

/-- A page by the characters of its upper half; a replacement character, or an end before the last byte,
    stands for bytes that are no character. -/
def ofUpper (upper : String) : CodePage :=
  { upper := (upper.toList.map fun c => if c = '\uFFFD' then none else some c).toArray }

/-- Bytes below 0x80 only. -/
def ascii : CodePage := ofUpper ""

/-- Every byte is the character with its number. -/
def latin : CodePage := { upper := ((List.range 128).map fun n => some (Char.ofNat (128 + n))).toArray }

/-- The character of a byte. -/
def char? (p : CodePage) (b : UInt8) : Option Char :=
  if b.toNat < 128 then
    let c := Char.ofNat b.toNat
    if p.without.contains c then none else some c
  else (p.upper[b.toNat - 128]?).join

/-- The text of some bytes. -/
def decode? (p : CodePage) (bytes : List UInt8) : Option (List Char) := bytes.mapM p.char?

example : latin.decode? [0x41, 0xE9] = some ['A', 'é'] := by decide +kernel
example : ascii.decode? [0x41, 0xE9] = none := by decide +kernel

end CodePage

end CodeAtlas.Text
