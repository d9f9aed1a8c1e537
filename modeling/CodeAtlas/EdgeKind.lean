import CodeAtlas.Json.Access
import CodeAtlas.OrderedMap
import CodeAtlas.Text.LetterCase
/-!
  The kinds of edges that all languages share.

  Producers name their relations freely.  `ofRelation` maps any name onto a kind: it ignores case, white
  space around the name, the difference between `-` and `_`, and a plural s; a few synonyms of older
  producers are known.  Whatever is not recognized becomes a plain dependency, so that no relation is lost.
-/
namespace CodeAtlas

/-- A kind of edge. -/
inductive EdgeKind where
  | imports
  | inherits
  | implements
  | calls
  | uses
  | defines
  | depends
deriving Repr, DecidableEq, Inhabited

namespace EdgeKind

/-- All kinds. -/
def all : List EdgeKind := [imports, inherits, implements, calls, uses, defines, depends]

/-- The name under which a kind is written. -/
def name : EdgeKind → String
  | imports => "imports"
  | inherits => "extends"
  | implements => "implements"
  | calls => "calls"
  | uses => "uses"
  | defines => "defines"
  | depends => "dependency"

/-- The kind that is written under a name. -/
def named? (text : String) : Option EdgeKind := all.find? fun k => k.name = text

/-- Other names for the kinds. -/
def synonyms : List (String × EdgeKind) :=
  [("import", imports), ("require", imports), ("requires", imports),
    ("inherits", inherits), ("inheritance", inherits), ("call", calls), ("usage", uses),
    ("contains", defines), ("has_method", defines), ("depends_on", depends)]

/-- The kind with a synonym. -/
def synonym? (text : String) : Option EdgeKind := OrderedMap.lookup text synonyms

/-- The name without white space around it, in lower case, with `_` for `-`. -/
def normalized (relation : String) : String :=
  Text.replaceChar '-' '_' (Text.lower (Text.trim relation))

/-- The kind that a normalized name stands for. -/
def ofNormalized (text : String) : EdgeKind :=
  match synonym? text with
  | some k => k
  | none =>
    match named? text with
    | some k => k
    | none =>
      match named? (text ++ "s") with
      | some k => k
      | none => (named? (Text.trimEndOf ['s'] text)).getD depends

/-- The kind that the name of a relation stands for. -/
def ofRelation (relation : String) : EdgeKind := ofNormalized (normalized relation)

/-- The kind that any value stands for, by its display text. -/
def ofValue (v : Json) : EdgeKind := ofRelation v.textOrEmpty

/-- The kinds that a value selects: all of them for null, else those that its parts stand for. -/
def selection (v : Json) : Except Fault (Option (List EdgeKind)) :=
  match v with
  | .null => .ok none
  | v => v.items.map fun parts => some (parts.map ofValue)

example : ofRelation " Has-Method " = defines ∧ ofRelation "use" = uses ∧ ofRelation "callss" = depends := by
  decide +kernel

end EdgeKind

end CodeAtlas
