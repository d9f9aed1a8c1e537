import CodeAtlas.Json
import CodeAtlas.Number.Shortest
import CodeAtlas.Text.Pieces
import CodeAtlas.Text.Quoted
/-!
  The display text of a value.

  Identifiers and titles may come as any value; `text` is what they become.  A text is displayed as it is,
  but inside of a list or an object, or when it is `shown` on its own, it stands in quotes.
-/
namespace CodeAtlas.Json

/-- How the doubles that are no finite numbers are displayed. -/
def displaySpecial : Double.SpecialTexts := ⟨"inf", "nan"⟩

/-- The display text of a key. -/
def Key.shown : Key → String
  | .null => "None"
  | .bool true => "True"
  | .bool false => "False"
  | .int n => toString n
  | .float x => x.text displaySpecial
  | .str s => Text.quoted s

mutual

/-- The display text with texts in quotes. -/
def shown : Json → String
  | null => Key.shown .null
  | bool b => Key.shown (.bool b)
  | int n => Key.shown (.int n)
  | float x => Key.shown (.float x)
  | str s => Key.shown (.str s)
  | arr items => "[" ++ Text.join ", " (shownItems items) ++ "]"
  | obj fields => "\x7b" ++ Text.join ", " (shownFields fields) ++ "\x7d"

/-- The display texts of the items of a list. -/
def shownItems : List Json → List String
  | [] => []
  | v :: rest => shown v :: shownItems rest

/-- The display texts of the fields of an object. -/
def shownFields : List (Key × Json) → List String
  | [] => []
  | (k, v) :: rest => (k.shown ++ ": " ++ shown v) :: shownFields rest

end

/-- The display text. -/
def text : Json → String
  | str s => s
  | v => shown v

/-- The display text, or nothing for an empty value. -/
def textOrEmpty (v : Json) : String := if v.isEmpty then "" else v.text

example : text (arr [int 1, str "x", null]) = "[1, 'x', None]" := by decide +kernel

end CodeAtlas.Json
