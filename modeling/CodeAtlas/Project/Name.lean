import CodeAtlas.Toml.Display
/-!
  The name of a project.

  A manifest may give any value of its format as a name, and the name is displayed as that value is.  Most
  values can be written as JSON as well.  One with a date or a time in it cannot, and one with an overlong
  integer can be neither displayed nor written.  Nor can one with too many parts inside of each other, but that
  is only found out when it is tried.
-/
namespace CodeAtlas

/-- The name of a project. -/
inductive Project.Name where
  | plain (v : Json)
  /-- a value with a date or a time in it, as it is displayed -/
  | dated (text : String)
  /-- a value that can be neither displayed nor written, and why -/
  | unusable (fault : Fault)
deriving Repr, DecidableEq, Inhabited

namespace Project.Name

/-- A text as a name. -/
def ofText (s : String) : Name := plain (.str s)

/-- A TOML value as a name. -/
def ofToml (v : Toml) : Name :=
  match v.toJson, v.displayed with
  | .ok j, _ => plain j
  | .error _, .ok text => dated text
  | .error _, .error f => unusable f

/-- The display text. -/
def text : Name → Except Fault String
  | plain v => if Json.maxDepth < v.depth then .error .tooDeep else .ok v.text
  | dated text => .ok text
  | unusable f => .error f

/-- The value as JSON. -/
def toJson : Name → Except Fault Json
  | plain v => .ok v
  | dated _ => .error .wrongShape
  | unusable f => .error f

end Project.Name

end CodeAtlas
