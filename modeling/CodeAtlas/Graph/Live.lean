import CodeAtlas.Graph
/-!
  A graph that is changed in place, with an index of its nodes.

  The owner of a graph may push, take out, replace, reorder and rename nodes at any time, behind the back of
  the index.  So a node is told by a stamp and not by what it is: `node` has what each stamp stands for at
  present, and the graph is a list of stamps.  A node that was taken out keeps its stamp and may come back, and
  a node that stands in the list twice is renamed at both places.

  The index remembers the stamps in the order of its last rebuild.  A lookup rebuilds it exactly when the stamps
  of the list are not the remembered ones.  Hence a lookup after a renaming, which changes no stamp, answers by
  the identifiers at the time of the last rebuild.
-/
namespace CodeAtlas

/-- The index: the identifiers and stamps of the nodes at the last rebuild. -/
structure NodeIndex where
  entries : List (String × Nat)
deriving Repr, DecidableEq, Inhabited

/-- A graph under change. -/
structure LiveGraph where
  /-- the node with each stamp -/
  node : Nat → Node
  /-- the stamps of the nodes of the graph in order -/
  members : List Nat
  edges : List Edge
  metadata : Metadata
  /-- the stamp of the next node -/
  fresh : Nat
  index : Option NodeIndex
deriving Inhabited

namespace NodeIndex

/-- The stamps of the indexed nodes in order. -/
def stamps (i : NodeIndex) : List Nat := i.entries.map (·.2)

/-- The stamp of the last node that had the identifier when the index was built. -/
def stamp? (i : NodeIndex) (id : String) : Option Nat :=
  (i.entries.reverse.find? fun e => e.1 = id).map (·.2)

end NodeIndex

namespace LiveGraph

/-- A graph of fresh nodes. -/
def ofGraph (g : Graph) : LiveGraph :=
  { node := fun stamp => g.nodes.getD stamp default
    members := List.range g.nodes.length
    edges := g.edges
    metadata := g.metadata
    fresh := g.nodes.length
    index := none }

/-- The graph as it is now. -/
def toGraph (g : LiveGraph) : Graph :=
  { nodes := g.members.map g.node, edges := g.edges, metadata := g.metadata }

/-- The index of the nodes as they are now. -/
def indexed (g : LiveGraph) : NodeIndex := ⟨g.members.map fun stamp => ((g.node stamp).id, stamp)⟩

/-- The index that a lookup uses: the present one while the stamps are the indexed ones. -/
def currentIndex (g : LiveGraph) : NodeIndex :=
  match g.index with
  | some i => if i.stamps = g.members then i else g.indexed
  | none => g.indexed

/-- Looks an identifier up; the index may be rebuilt on the way. -/
def find? (g : LiveGraph) (id : String) : Option Node × LiveGraph :=
  let i := g.currentIndex
  ((i.stamp? id).map g.node, { g with index := some i })

/-- Whether an identifier can be looked up. -/
def contains (g : LiveGraph) (id : String) : Bool × LiveGraph :=
  let i := g.currentIndex
  ((i.stamp? id).isSome, { g with index := some i })

/-! ## Changes -/

/-- A new node, which is not in the graph yet; its stamp is `fresh`. -/
def make (g : LiveGraph) (n : Node) : LiveGraph :=
  { g with node := fun stamp => if stamp = g.fresh then n else g.node stamp, fresh := g.fresh + 1 }

/-- Puts the node with a stamp in front of a position; there is a last position behind all nodes. -/
def insert (g : LiveGraph) (position stamp : Nat) : LiveGraph :=
  { g with members := g.members.take position ++ stamp :: g.members.drop position }

/-- Puts a new node at the end. -/
def addNode (g : LiveGraph) (n : Node) : LiveGraph := (g.make n).insert g.members.length g.fresh

/-- Puts an edge at the end. -/
def addEdge (g : LiveGraph) (e : Edge) : LiveGraph := { g with edges := g.edges ++ [e] }

/-- The position that a number means in a list of the given length; negative numbers count from the end. -/
def position? (length : Nat) (i : Int) : Option Nat :=
  let j := if i < 0 then i + length else i
  if 0 ≤ j ∧ j < length then some j.toNat else none

/-- The position that a number means, and the stamp there. -/
def place (g : LiveGraph) (i : Int) : Except Fault (Nat × Nat) :=
  match position? g.members.length i with
  | none => .error .outOfRange
  | some k =>
    match g.members[k]? with
    | none => .error .outOfRange
    | some stamp => .ok (k, stamp)

/-- Takes the node at a position out. -/
def removeNode (g : LiveGraph) (i : Int) : Except Fault (Node × LiveGraph) := do
  let (k, stamp) ← g.place i
  return (g.node stamp, { g with members := g.members.eraseIdx k })

/-- Puts the node with a stamp into the place of the one at a position. -/
def exchange (g : LiveGraph) (i : Int) (stamp : Nat) : Except Fault LiveGraph := do
  let (k, _) ← g.place i
  return { g with members := g.members.set k stamp }

/-- Puts a new node into the place of the one at a position. -/
def replaceNode (g : LiveGraph) (i : Int) (n : Node) : Except Fault LiveGraph := (g.make n).exchange i g.fresh

/-- Gives the node with a stamp another identifier, wherever it stands. -/
def relabel (g : LiveGraph) (stamp : Nat) (id : String) : LiveGraph :=
  { g with node := fun k => if k = stamp then { g.node k with id } else g.node k }

/-- Gives the node at a position another identifier. -/
def rename (g : LiveGraph) (i : Int) (id : String) : Except Fault LiveGraph := do
  let (_, stamp) ← g.place i
  return g.relabel stamp id

/-- Reverses the order of the nodes. -/
def reverse (g : LiveGraph) : LiveGraph := { g with members := g.members.reverse }

/-! ## Histories -/

/-- What the owner of a graph and its readers do.  Adding a node is making it and inserting it, and replacing one
    is making the new one and exchanging them. -/
inductive Step where
  | make (n : Node)
  | insert (position stamp : Nat)
  | remove (i : Int)
  | exchange (i : Int) (stamp : Nat)
  | relabel (stamp : Nat) (id : String)
  | reverse
  | lookup (id : String)
deriving Repr, DecidableEq, Inhabited

/-- Lookups. -/
def Step.isLookup : Step → Bool
  | .lookup _ => true
  | _ => false

/-- One step.  A position outside of the list changes nothing. -/
def step (g : LiveGraph) : Step → LiveGraph
  | .make n => g.make n
  | .insert position stamp => g.insert position stamp
  | .remove i =>
    match g.removeNode i with
    | .ok (_, g) => g
    | .error _ => g
  | .exchange i stamp =>
    match g.exchange i stamp with
    | .ok g => g
    | .error _ => g
  | .relabel stamp id => g.relabel stamp id
  | .reverse => g.reverse
  | .lookup id => (g.find? id).2

/-- One step after the other. -/
def run (g : LiveGraph) (steps : List Step) : LiveGraph := steps.foldl step g

/-- Adding a node is making it and putting it at the end of the list. -/
theorem addNode_eq_run (g : LiveGraph) (n : Node) :
    g.addNode n = g.run [.make n, .insert g.members.length g.fresh] := rfl

/-- Replacing one is making another and exchanging them; a place that is not there changes nothing. -/
theorem replaceNode_eq_run {g g' : LiveGraph} {i : Int} {n : Node} (h : g.replaceNode i n = .ok g') :
    g' = g.run [.make n, .exchange i g.fresh] := by
  rw [replaceNode] at h
  show g' = (g.make n).step (.exchange i g.fresh)
  rw [step, h]

/-- Renaming goes through the node itself, so it is seen wherever the node is. -/
theorem rename_eq_run {g g' : LiveGraph} {i : Int} {id : String} (h : g.rename i id = .ok g') :
    ∃ k stamp, g.place i = .ok (k, stamp) ∧ g' = g.run [.relabel stamp id] := by
  obtain ⟨⟨k, stamp⟩, hplace, hg⟩ := Fault.bind_eq_ok_iff.1 h
  exact ⟨k, stamp, hplace, (Except.ok.inj hg).symm⟩

end LiveGraph

end CodeAtlas
