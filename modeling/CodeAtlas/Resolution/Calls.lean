import CodeAtlas.Declarations
import CodeAtlas.Graph.Frames
/-!
  From the calls in function bodies to the functions they mean.

  A call names a function, possibly behind the name of a receiver.  All functions of that name are
  candidates, and the candidates are narrowed by the first of these conditions that leaves any: their type
  or module has the receiver's name; they share the caller's type or module; they share the caller's file.
  A name with too many remaining candidates means nothing, and neither do some common names.
-/
namespace CodeAtlas

/-- A function with the identifier of its symbol. -/
structure NamedFunction where
  id : String
  record : FunctionRecord
deriving Repr, DecidableEq, Inhabited

/-- One function calls another one, first in a line. -/
structure CallEdge where
  caller : String
  callee : String
  line : Json
deriving Repr, DecidableEq, Inhabited

namespace CallEdge

/-- The name of the receiver, when there is one, and of the function. -/
def receiverAndName (called : String) : Option String × String :=
  match Text.cutLast? '.' called with
  | some (receiver, name) => (some receiver, name)
  | none => (none, called)

/-- The elements of a list at their first positions. -/
def distinct (ids : List String) : List String :=
  ids.foldl (fun acc id => if acc.contains id then acc else acc ++ [id]) []

/-- The identifiers of the functions of a name, each once. -/
def named (functions : List NamedFunction) (name : String) : List String :=
  distinct ((functions.filter fun f => f.record.name = name).map (·.id))

/-- The first function with an identifier. -/
def first? (functions : List NamedFunction) (id : String) : Option FunctionRecord :=
  (functions.find? fun f => f.id = id).map (·.record)

/-- The candidates under the first condition that leaves any, or all of them. -/
def narrow (candidates : List String) : List (String → Bool) → List String
  | [] => candidates
  | condition :: rest =>
    let left := candidates.filter condition
    if left.isEmpty then narrow candidates rest else left

/-- The functions that a call means. -/
def targets (functions : List NamedFunction) (maxTargets : Int) (excluded : List String)
    (caller : FunctionRecord) (called : String) : List String :=
  let (receiver, name) := receiverAndName called
  if excluded.contains name then []
  else
    let of (property : FunctionRecord → Bool) (id : String) : Bool :=
      (first? functions id).any property
    let found := narrow (named functions name)
      [of fun r => receiver = some (Text.afterLast '.' r.scope), of fun r => r.scope = caller.scope,
        of fun r => r.file = caller.file]
    if maxTargets < found.length then [] else found

/-- All edges, each pair of functions once, with the line of the first call. -/
def all (functions : List NamedFunction) (maxTargets : Int) (excluded : List String) : List CallEdge :=
  let every := functions.flatMap fun f =>
    f.record.calls.flatMap fun c =>
      ((targets functions maxTargets excluded f.record c.name).filter (· ≠ f.id)).map fun t =>
        ({ caller := f.id, callee := t, line := c.line } : CallEdge)
  every.foldl
    (fun acc e =>
      if acc.any fun d => d.caller = e.caller ∧ d.callee = e.callee then acc else acc ++ [e])
    []

/-- The table of some edges. -/
def frame (edges : List CallEdge) : Frame :=
  { columns := ["caller", "callee", "line"]
    rows := List.zipWith (fun e line => [.str e.caller, .str e.callee, line]) edges
      (Frame.typed (edges.map (·.line))) }

end CallEdge

end CodeAtlas
