import CodeAtlas.Json
import CodeAtlas.Number.Shortest
import CodeAtlas.Text.Half
import CodeAtlas.Text.Pieces
import CodeAtlas.Text.Quoted
/-!
  The JSON text of a value.

  `pretty` puts every item and every field on a line of its own, indented by two blanks for each level;
  `compact` writes no white space.  Only the printable characters of ASCII are written: any other character is
  escaped by its UTF-16 units, with lower-case digits, unless it has a short escape.  A `/` stands for
  itself.  Half a surrogate pair is escaped as the unit that it is.
-/
namespace CodeAtlas.Json

/-- How the doubles that are no finite numbers are written. -/
def writtenSpecial : Double.SpecialTexts := ⟨"Infinity", "NaN"⟩

/-- One UTF-16 unit as an escape. -/
def escapedUnit (n : Nat) : List Char := '\\' :: 'u' :: Text.hexDigits 4 n

/-- One code point inside of a JSON string. -/
def escapedPoint (n : Nat) : List Char :=
  if n = 0x22 then ['\\', '"']
  else if n = 0x5C then ['\\', '\\']
  else if n = 0x0A then ['\\', 'n']
  else if n = 0x0D then ['\\', 'r']
  else if n = 0x09 then ['\\', 't']
  else if n = 0x08 then ['\\', 'b']
  else if n = 0x0C then ['\\', 'f']
  else if 0x20 ≤ n && n < 0x7F then [Char.ofNat n]
  else if n < 0x10000 then escapedUnit n
  else escapedUnit (0xD800 + (n - 0x10000) / 0x400) ++ escapedUnit (0xDC00 + (n - 0x10000) % 0x400)

/-- A text as a JSON string. -/
def writtenText (s : String) : String :=
  String.ofList ('"' :: (Text.codePoints s.toList).flatMap escapedPoint ++ ['"'])

/-- The text of a key before it is put into quotes. -/
def Key.text : Key → String
  | .null => "null"
  | .bool true => "true"
  | .bool false => "false"
  | .int n => toString n
  | .float x => x.text writtenSpecial
  | .str s => s

/-- The JSON text of a value without parts. -/
def writtenScalar : Json → String
  | null => Key.text .null
  | bool b => Key.text (.bool b)
  | int n => Key.text (.int n)
  | float x => Key.text (.float x)
  | str s => writtenText s
  | arr _ => "[]"
  | obj _ => "\x7b\x7d"

/-- A new line at a level. -/
def lineStart (level : Nat) : String := String.ofList ('\n' :: List.replicate (2 * level) ' ')

mutual

/-- The JSON text of a value that starts at a level. -/
def prettyAt (level : Nat) : Json → String
  | arr (v :: rest) =>
    let start := lineStart (level + 1)
    "[" ++ start ++ Text.join ("," ++ start) (prettyItems (level + 1) (v :: rest))
      ++ lineStart level ++ "]"
  | obj (f :: rest) =>
    let start := lineStart (level + 1)
    "\x7b" ++ start ++ Text.join ("," ++ start) (prettyFields (level + 1) (f :: rest))
      ++ lineStart level ++ "\x7d"
  | v => writtenScalar v

/-- The JSON texts of the items of a list. -/
def prettyItems (level : Nat) : List Json → List String
  | [] => []
  | v :: rest => prettyAt level v :: prettyItems level rest

/-- The JSON texts of the fields of an object. -/
def prettyFields (level : Nat) : List (Key × Json) → List String
  | [] => []
  | (k, v) :: rest => (writtenText k.text ++ ": " ++ prettyAt level v) :: prettyFields level rest

end

/-- The JSON text with one item or field on each line. -/
def pretty (v : Json) : String := prettyAt 0 v

mutual

/-- The JSON text without white space. -/
def compact : Json → String
  | arr items => "[" ++ Text.join "," (compactItems items) ++ "]"
  | obj fields => "\x7b" ++ Text.join "," (compactFields fields) ++ "\x7d"
  | v => writtenScalar v

/-- The compact texts of the items of a list. -/
def compactItems : List Json → List String
  | [] => []
  | v :: rest => compact v :: compactItems rest

/-- The compact texts of the fields of an object. -/
def compactFields : List (Key × Json) → List String
  | [] => []
  | (k, v) :: rest => (writtenText k.text ++ ":" ++ compact v) :: compactFields rest

end

example : pretty (obj [("a", arr [int 1]), ("b", arr [])]) =
    "\x7b\n  \"a\": [\n    1\n  ],\n  \"b\": []\n\x7d" := by decide +kernel
example : writtenText "é😀" = "\"\\u00e9\\ud83d\\ude00\"" := by decide +kernel

end CodeAtlas.Json
