import CodeAtlas.Text.Half
import CodeAtlas.Text.Printable
/-!
  Quoted texts, as they stand inside displayed lists and objects and inside messages.

  The quote is the single one, unless the text has a single quote and no double quote.  The quote in use
  and the backslash get a backslash; line feed, carriage return and tab have short escapes; any other
  character that is not printable is written by its number in two, four or eight hexadecimal digits.
-/
namespace CodeAtlas.Text

/-- A lower-case hexadecimal digit. -/
def hexDigit (n : Nat) : Char :=
  if n < 10 then Char.ofNat (0x30 + n) else Char.ofNat (0x57 + n)

/-- The last `width` hexadecimal digits of a number. -/
def hexDigits : Nat → Nat → List Char
  | 0, _ => []
  | width + 1, n => hexDigits width (n / 16) ++ [hexDigit (n % 16)]

/-- One code point inside quotes. -/
def quotedPoint (quote : Char) (n : Nat) : List Char :=
  let c := Char.ofNat n
  if c = quote || c = '\\' then ['\\', c]
  else if c = '\n' then ['\\', 'n']
  else if c = '\r' then ['\\', 'r']
  else if c = '\t' then ['\\', 't']
  else if !isHalf n && isPrintable c then [c]
  else if n < 0x100 then '\\' :: 'x' :: hexDigits 2 n
  else if n < 0x10000 then '\\' :: 'u' :: hexDigits 4 n
  else '\\' :: 'U' :: hexDigits 8 n

/-- The quote that a text is written with. -/
def quoteOf (cs : List Char) : Char :=
  if cs.contains '\'' && !cs.contains '"' then '"' else '\''

/-- A text in quotes. -/
def quoted (s : String) : String :=
  let cs := s.toList
  let quote := quoteOf cs
  String.ofList (quote :: (codePoints cs).flatMap (quotedPoint quote) ++ [quote])

example : quoted "it's" = "\"it's\"" ∧ quoted "a\n\\" = "'a\\n\\\\'" := by decide +kernel
example : quoted "\u200b\x7f" = "'\\u200b\\x7f'" := by decide +kernel
example : quoted (String.ofList (ofCodePoints [0xD800, 0xD7FF])) = "'\\ud800\\ud7ff'" := by decide +kernel

end CodeAtlas.Text
