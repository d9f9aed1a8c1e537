import CodeAtlas.Fault
import CodeAtlas.Json.Display
/-!
  Taking values apart, with the faults that arise when the shape is wrong.

  There are two ways to ask for a field.  `required` fails on an object without it, and on anything else
  because nothing else has fields by name.  `optional` gives nothing on an object without the field, and
  fails with a cause of its own on anything else.

  `items` runs over the parts of a value: the items of a list, the code points of a text, the keys of an
  object.
-/
namespace CodeAtlas.Json

/-- The value of a field that has to be there. -/
def required (name : String) : Json → Except Fault Json
  | obj fields =>
    match lookup name fields with
    | some v => .ok v
    | none => .error (.missingField name)
  | _ => .error .wrongShape

/-- The value of a field that may be absent. -/
def optional (name : String) : Json → Except Fault (Option Json)
  | obj fields => .ok (lookup name fields)
  | _ => .error .noFields

/-- The value of a field that may be absent; an empty one counts as absent. -/
def nonEmptyField (name : String) (v : Json) : Except Fault (Option Json) :=
  (v.optional name).map fun found => found.bind nonEmpty?

/-- The display text of a field, or a fallback where the field is absent or empty. -/
def textField (name : String) (fallback : String) (v : Json) : Except Fault String :=
  (v.nonEmptyField name).map fun found => (found.map text).getD fallback

/-- The parts of a value, one after the other. -/
def items : Json → Except Fault (List Json)
  | arr vs => .ok vs
  | str s => .ok ((Text.singles s).map .str)
  | obj fields => .ok (fields.map fun f => ofKey f.1)
  | _ => .error .wrongShape

/-- The parts of a field; an absent or empty one has none. -/
def itemsField (name : String) (v : Json) : Except Fault (List Json) := do
  match ← v.nonEmptyField name with
  | some list => list.items
  | none => .ok []

/-- Whether a text is a key of an object, an item of a list, or a piece of a text. -/
def mentions (name : String) : Json → Except Fault Bool
  | obj fields => .ok (lookup name fields).isSome
  | arr vs => .ok (vs.contains (.str name))
  | str s => .ok (Text.hasPiece name s)
  | _ => .error .wrongShape

/-- A pair of a key and a value: a list, a text or an object with exactly two parts, of which the first is
    a value without parts. -/
def pair (v : Json) : Except Fault (Key × Json) := do
  match ← v.items with
  | [first, second] =>
    match first.key? with
    | some k => .ok (k, second)
    | none => .error .wrongShape
  | _ => .error .badValue

/-- The fields of a value that is an object, or a list of pairs, or empty. -/
def fieldsOf (v : Json) : Except Fault (List (Key × Json)) :=
  if v.isEmpty then .ok []
  else
    match v with
    | obj fields => .ok fields
    | v => do
      let pairs ← (← v.items).mapM pair
      return pairs.foldl (fun acc (k, x) => putField k x acc) []

/-- The fields of a field. -/
def fieldsField (name : String) (v : Json) : Except Fault (List (Key × Json)) := do
  match ← v.optional name with
  | some x => x.fieldsOf
  | none => .ok []

end CodeAtlas.Json
