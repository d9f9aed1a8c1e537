import CodeAtlas.Graph.Metrics
/-!
  Shared access to the current graph.

  A session holds at most one graph.  Its owner replaces the graph at any time; readers ask for nodes, edges
  and metrics.  Metrics are computed when they are first asked for and kept until the graph changes.

  Reading the metrics takes two locked sections with the computation between them, so other clients may
  step in between.  The state and every locked section are therefore given one by one: `beginMetrics` looks
  at the graph and the kept value, `endMetrics` keeps a computed value if the graph is still the one it was
  computed from.  Graphs carry stamps, because a graph that was replaced by an equal one is not the same.
-/
namespace CodeAtlas

/-- A value that can be told apart from equal ones. -/
structure Stamped (α : Type) where
  stamp : Nat
  value : α
deriving Repr, DecidableEq, Inhabited

/-- What a session holds. -/
structure Session where
  graph : Option (Stamped Graph)
  metrics : Option (Stamped Metrics)
  closed : Bool
  policy : CyclePolicy
deriving Repr, DecidableEq, Inhabited

namespace Session

/-- A new session. -/
def start (graph : Option (Stamped Graph)) (policy : CyclePolicy) : Session :=
  { graph, metrics := none, closed := false, policy }

/-- The node with an identifier in the current graph. -/
def find? (s : Session) (id : String) : Option Node := s.graph.bind fun g => g.value.find? id

/-- The edges at an identifier in the current graph. -/
def touching (s : Session) (id : String) : List Edge := (s.graph.map fun g => g.value.touching id).getD []

/-- Swaps the graph; a closed session refuses. -/
def replace (s : Session) (g : Stamped Graph) : Except Fault Session :=
  if s.closed then .error .sessionClosed
  else .ok { s with graph := some g, metrics := none }

/-- Closes the session and lets go of the graph. -/
def close (s : Session) : Session := { s with closed := true, graph := none, metrics := none }

/-! ## Metrics -/

/-- What the first locked section of a reading finds. -/
inductive Reading where
  /-- there is no graph -/
  | absent
  /-- the metrics are known -/
  | known (m : Stamped Metrics)
  /-- the metrics of this graph have to be computed -/
  | pending (g : Stamped Graph)
deriving Repr, DecidableEq, Inhabited

/-- The first locked section of a reading. -/
def beginMetrics (s : Session) : Reading :=
  match s.graph, s.metrics with
  | none, _ => .absent
  | some _, some m => .known m
  | some g, none => .pending g

/-- The second locked section: keeps the metrics computed from a graph if that graph is still the current
    one. -/
def endMetrics (s : Session) (g : Stamped Graph) (m : Stamped Metrics) : Session :=
  if s.graph.map (·.stamp) = some g.stamp then { s with metrics := some m } else s

/-- A reading without anything in between; `stamp` is for a value that has to be computed. -/
def readMetrics (s : Session) (stamp : Nat) : Except Fault (Option (Stamped Metrics) × Session) :=
  match s.beginMetrics with
  | .absent => .ok (none, s)
  | .known m => .ok (some m, s)
  | .pending g => do
    let m := ⟨stamp, ← g.value.metrics s.policy none⟩
    return (some m, s.endMetrics g m)

end Session

end CodeAtlas
