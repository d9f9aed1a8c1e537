import CodeAtlas.Fault
import CodeAtlas.Json.Display
import CodeAtlas.Number.Numeral
import CodeAtlas.Toml
/-!
  The display text of a TOML value, and the value as JSON.

  The display text is that of the JSON value with the same parts, and a date or a time has one too.  JSON has
  no dates and times, so `toJson` fails on a value that contains one.  An integer in another base than ten can
  have more digits than are displayed; then there is neither a text nor JSON.  Dotted keys can put any number
  of tables inside of each other, and a value with too many of them is not displayed.
-/
namespace CodeAtlas.Toml

/-- The integer, unless it is too long to be displayed. -/
def displayable (n : Int) : Except Fault Int := if Numeral.isTooLong n then .error .badValue else .ok n

mutual

/-- The display text with texts in quotes. -/
def shown : Toml → Except Fault String
  | text s => .ok (Text.quoted s)
  | integer n => (displayable n).map fun n => (Json.int n).shown
  | float x => .ok (Json.float x).shown
  | truth b => .ok (Json.bool b).shown
  | moment m => .ok m.shown
  | array items => (shownItems items).map fun parts => "[" ++ Text.join ", " parts ++ "]"
  | table _ fields => (shownFields fields).map fun parts => "\x7b" ++ Text.join ", " parts ++ "\x7d"
  | tables newestFirst => (shownItems newestFirst).map fun parts => "[" ++ Text.join ", " parts.reverse ++ "]"

/-- The display texts of the items of a list. -/
def shownItems : List Toml → Except Fault (List String)
  | [] => .ok []
  | v :: rest => do return (← shown v) :: (← shownItems rest)

/-- The display texts of the fields of a table. -/
def shownFields : Fields → Except Fault (List String)
  | [] => .ok []
  | (name, v) :: rest => do return (Text.quoted name ++ ": " ++ (← shown v)) :: (← shownFields rest)

end

/-- The display text. -/
def displayed : Toml → Except Fault String
  | text s => .ok s
  | moment m => .ok m.text
  | v => if Json.maxDepth < v.depth then .error .tooDeep else shown v

mutual

/-- The value as JSON. -/
def toJson : Toml → Except Fault Json
  | text s => .ok (.str s)
  | integer n => (displayable n).map .int
  | float x => .ok (.float x)
  | truth b => .ok (.bool b)
  | moment _ => .error .wrongShape
  | array items => (toJsonItems items).map .arr
  | table _ fields => (toJsonFields fields).map .obj
  | tables newestFirst => (toJsonItems newestFirst).map fun items => .arr items.reverse

/-- The items of a list as JSON. -/
def toJsonItems : List Toml → Except Fault (List Json)
  | [] => .ok []
  | v :: rest => do return (← toJson v) :: (← toJsonItems rest)

/-- The fields of a table as JSON. -/
def toJsonFields : Fields → Except Fault (List (Json.Key × Json))
  | [] => .ok []
  | (name, v) :: rest => do return (.str name, ← toJson v) :: (← toJsonFields rest)

end

end CodeAtlas.Toml
