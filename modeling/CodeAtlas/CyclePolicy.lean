import CodeAtlas.Json.Access
/-!
  What to do about dependency cycles.
-/
namespace CodeAtlas

/-- A cycle counts as one unit, or it is a fault. -/
inductive CyclePolicy where
  | condense
  | refuse
deriving Repr, DecidableEq, Inhabited

namespace CyclePolicy

/-- The name under which a policy is written. -/
def name : CyclePolicy → String
  | condense => "condense"
  | refuse => "raise"

/-- The policy that a value names. -/
def named? (v : Json) : Option CyclePolicy :=
  if v = .str "condense" then some condense
  else if v = .str "raise" then some refuse
  else none

/-- The policy that a value names; anything else is a fault. -/
def ofValue (v : Json) : Except Fault CyclePolicy :=
  match named? v with
  | some policy => .ok policy
  | none => .error (.unknownPolicy v.shown)

/-- The policy that a value names; anything else condenses. -/
def orCondense (v : Json) : CyclePolicy := (named? v).getD condense

end CyclePolicy

end CodeAtlas
