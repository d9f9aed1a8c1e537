import CodeAtlas.CyclePolicy
import CodeAtlas.Graph.Components
/-!
  Structural metrics: dependency cycles and the longest dependency chain.

  A cycle is a component with at least two members, or a single vertex with an edge to itself.  Its members
  are listed in the order of the vertices, and cycles in the order of their first members.

  The depth of a graph is the length of the longest chain when every cycle counts as one unit.  Components
  come after the ones they reach, so one pass over them suffices: the depths of all successors are known
  when a component is looked at.

  The kinds of edges that are looked at are given as a list, which can be gone through any number of times.  A
  selection that can be gone through only once is left out: it would be used up by the table of successors, and a
  policy that refuses cycles would then look for them along no edges at all.
-/
namespace CodeAtlas

namespace Adjacency

variable {α : Type} [DecidableEq α]

/-- Whether a component is a dependency cycle. -/
def isCycle (g : Adjacency α) : List α → Bool
  | [] => false
  | [v] => (g.successors v).contains v
  | _ => true

/-- The members of a component in the order of the vertices. -/
def inOrder (g : Adjacency α) (component : List α) : List α :=
  g.vertices.filter component.contains

/-- The place of the first member of a cycle. -/
def place (g : Adjacency α) (cycle : List α) : Nat :=
  match cycle with
  | [] => g.vertices.length
  | v :: _ => g.vertices.idxOf v

/-- The dependency cycles. -/
def cycles (g : Adjacency α) : List (List α) :=
  ((g.components.filter g.isCycle).map g.inOrder).mergeSort fun a b => g.place a ≤ g.place b

/-- The depth of a vertex in a table of depths. -/
def depthIn (depths : OrderedMap α Nat) (v : α) : Nat := (depths.get? v).getD 0

/-- Where the edges out of a component lead. -/
def outside (g : Adjacency α) (component : List α) : List α :=
  component.flatMap fun v => (g.successors v).filter fun w => !component.contains w

/-- The depth of a component, from the depths of the vertices of the earlier ones. -/
def componentDepth (g : Adjacency α) (depths : OrderedMap α Nat) (component : List α) : Nat :=
  ((g.outside component).map fun w => depthIn depths w + 1).foldl max 0

/-- The depths of the vertices of a component together with those of the earlier ones. -/
def addDepths (g : Adjacency α) (depths : OrderedMap α Nat) (component : List α) : OrderedMap α Nat :=
  depths.insertAll component (g.componentDepth depths component)

/-- The depth of every vertex, component by component. -/
def depths (g : Adjacency α) : OrderedMap α Nat := g.components.foldl g.addDepths .empty

/-- The length of the longest chain, with every cycle as one unit. -/
def depth (g : Adjacency α) : Nat := g.depths.values.foldl max 0

end Adjacency

/-- The figures of a graph. -/
structure Metrics where
  nodeCount : Nat
  edgeCount : Nat
  maxDepth : Nat
  cycles : List (List String)
deriving Repr, DecidableEq, Inhabited

/-- The written form of the figures. -/
def Metrics.toJson (m : Metrics) : Json :=
  .obj [("node_count", .int m.nodeCount), ("edge_count", .int m.edgeCount),
    ("max_depth", .int m.maxDepth),
    ("cycles", .arr (m.cycles.map fun c => .arr (c.map .str)))]

namespace Graph

/-- The dependency cycles along the edges of the selected kinds. -/
def cycles (g : Graph) (kinds : Option (List EdgeKind)) : List (List String) :=
  (Adjacency.ofGraph g kinds).cycles

/-- The length of the longest chain along the edges of the selected kinds.  One of the policies refuses
    a graph with cycles, and finds them along the same kinds of edges. -/
def maxDepth (g : Graph) (policy : CyclePolicy) (kinds : Option (List EdgeKind)) : Except Fault Nat :=
  let found := g.cycles kinds
  if policy = .refuse ∧ found ≠ [] then .error (.cyclic found)
  else .ok (Adjacency.ofGraph g kinds).depth

/-- All figures of a graph. -/
def metrics (g : Graph) (policy : CyclePolicy) (kinds : Option (List EdgeKind)) : Except Fault Metrics :=
  let found := g.cycles kinds
  if policy = .refuse ∧ found ≠ [] then .error (.cyclic found)
  else
    .ok
      { nodeCount := g.nodes.length
        edgeCount := g.edges.length
        maxDepth := (Adjacency.ofGraph g kinds).depth
        cycles := found }

end Graph

end CodeAtlas
