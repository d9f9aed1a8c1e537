import CodeAtlas.EdgeKind
import CodeAtlas.Metadata
/-!
  The dependency graph: nodes with identifiers, typed edges between identifiers, and free-form metadata.

  Both lists keep their order, which is part of the written form.  A graph may be broken: identifiers may
  repeat and edges may dangle.  `Graph.validate` names the first such fault.

  The codecs `toJson` and `ofJson` are partners.  Reading is lenient: identifiers and titles may be any
  value, absent titles and types have defaults, and the kind of an edge may be any name of a relation.
-/
namespace CodeAtlas

/-- A node of the graph. -/
structure Node where
  id : String
  title : String
  kind : String
  metadata : Metadata
deriving Repr, DecidableEq, Inhabited

/-- A directed edge between the nodes with two identifiers. -/
structure Edge where
  source : String
  target : String
  kind : EdgeKind
deriving Repr, DecidableEq, Inhabited

/-- A graph with its nodes and edges in order. -/
structure Graph where
  nodes : List Node
  edges : List Edge
  metadata : Metadata
deriving Repr, DecidableEq, Inhabited

namespace Node

/-- The written form of a node. -/
def toJson (n : Node) : Json :=
  .obj [("id", .str n.id), ("title", .str n.title), ("type", .str n.kind),
    ("metadata", n.metadata.toJson)]

/-- The node that a value describes. -/
def ofJson (v : Json) : Except Fault Node := do
  let id := (← v.required "id").text
  let title ← v.textField "title" id
  let kind ← v.textField "type" "symbol"
  return { id, title, kind, metadata := ← Metadata.ofField "metadata" v }

end Node

namespace Edge

/-- The written form of an edge. -/
def toJson (e : Edge) : Json :=
  .obj [("source", .str e.source), ("target", .str e.target), ("type", .str e.kind.name)]

/-- The edge that a value describes. -/
def ofJson (v : Json) : Except Fault Edge := do
  let source := (← v.required "source").text
  let target := (← v.required "target").text
  let kind := EdgeKind.ofValue ((← v.optional "type").getD .null)
  return { source, target, kind }

/-- Whether the edge starts or ends at an identifier. -/
def touches (id : String) (e : Edge) : Bool := e.source = id || e.target = id

end Edge

namespace Graph

/-- The identifiers of the nodes. -/
def ids (g : Graph) : List String := g.nodes.map (·.id)

/-- The node with an identifier; of several ones the last. -/
def find? (g : Graph) (id : String) : Option Node := g.nodes.reverse.find? fun n => n.id = id

/-- The edges that start or end at an identifier. -/
def touching (g : Graph) (id : String) : List Edge := g.edges.filter (Edge.touches id)

/-- The edges that start at an identifier. -/
def outgoing (g : Graph) (id : String) : List Edge := g.edges.filter fun e => e.source = id

/-- The edges that end at an identifier. -/
def incoming (g : Graph) (id : String) : List Edge := g.edges.filter fun e => e.target = id

/-! ## Integrity -/

/-- The first identifier of a list that stands further in front too. -/
def firstRepeated? (seen : List String) : List String → Option String
  | [] => none
  | id :: rest => if seen.contains id then some id else firstRepeated? (id :: seen) rest

/-- The fault of an edge with an end outside of the identifiers; the source is looked at first. -/
def danglingFault? (ids : List String) (e : Edge) : Option Fault :=
  if !ids.contains e.source then some (.danglingEdge e.source e.target e.source)
  else if !ids.contains e.target then some (.danglingEdge e.source e.target e.target)
  else none

/-- The first fault of a graph: a repeated identifier, else a dangling edge. -/
def fault? (g : Graph) : Option Fault :=
  match firstRepeated? [] g.ids with
  | some id => some (.duplicateNode id)
  | none => g.edges.findSome? (danglingFault? g.ids)

/-- Fails on a repeated identifier or a dangling edge. -/
def validate (g : Graph) : Except Fault Unit :=
  match g.fault? with
  | some fault => .error fault
  | none => .ok ()

/-- What an intact graph is: identifiers are distinct and every edge joins two nodes. -/
def Intact (g : Graph) : Prop :=
  g.ids.Nodup ∧ ∀ e ∈ g.edges, e.source ∈ g.ids ∧ e.target ∈ g.ids

theorem firstRepeated?_eq_none_iff (seen ids : List String) :
    firstRepeated? seen ids = none ↔ ids.Nodup ∧ ∀ id ∈ ids, id ∉ seen := by
  induction ids generalizing seen with
  | nil => simp [firstRepeated?]
  | cons id rest ih =>
    by_cases h : id ∈ seen
    · simp [firstRepeated?, h]
    · simp only [firstRepeated?, List.contains_eq_mem, h, decide_false, Bool.false_eq_true,
        if_false, ih, List.nodup_cons, List.mem_cons, not_or, forall_eq_or_imp, not_false_eq_true,
        true_and]
      constructor
      · rintro ⟨hn, hs⟩
        exact ⟨⟨fun hid => (hs id hid).1 rfl, hn⟩, fun x hx => (hs x hx).2⟩
      · rintro ⟨⟨hid, hn⟩, hs⟩
        exact ⟨hn, fun x hx => ⟨fun he => hid (he ▸ hx), hs x hx⟩⟩

theorem danglingFault?_eq_none_iff (ids : List String) (e : Edge) :
    danglingFault? ids e = none ↔ e.source ∈ ids ∧ e.target ∈ ids := by
  by_cases hs : e.source ∈ ids
  · by_cases ht : e.target ∈ ids
    · simp [danglingFault?, hs, ht]
    · simp [danglingFault?, hs, ht]
  · simp [danglingFault?, hs]

theorem fault?_eq_none_iff (g : Graph) : g.fault? = none ↔ g.Intact := by
  have hrep := firstRepeated?_eq_none_iff [] g.ids
  unfold fault?
  cases h : firstRepeated? [] g.ids with
  | some id =>
    constructor
    · intro hf; nomatch hf
    · intro hi
      have hn := hrep.2 ⟨hi.1, fun _ _ => List.not_mem_nil⟩
      rw [h] at hn
      nomatch hn
  | none =>
    simp only [List.findSome?_eq_none_iff, danglingFault?_eq_none_iff]
    exact ⟨fun he => ⟨(hrep.1 h).1, he⟩, fun hi => hi.2⟩

/-- Validation accepts exactly the intact graphs. -/
theorem validate_eq_ok_iff (g : Graph) : g.validate = .ok () ↔ g.Intact := by
  rw [← fault?_eq_none_iff]
  unfold validate
  cases g.fault? with
  | some fault =>
    constructor
    · intro h; nomatch h
    · intro h; nomatch h
  | none => exact ⟨fun _ => rfl, fun _ => rfl⟩

/-! ## The written form -/

/-- The written form of a graph. -/
def toJson (g : Graph) : Json :=
  .obj [("nodes", .arr (g.nodes.map Node.toJson)), ("edges", .arr (g.edges.map Edge.toJson)),
    ("metadata", g.metadata.toJson)]

/-- The graph that a value describes. -/
def ofJson (v : Json) : Except Fault Graph := do
  let nodes ← (← v.itemsField "nodes").mapM Node.ofJson
  let edges ← (← v.itemsField "edges").mapM Edge.ofJson
  return { nodes, edges, metadata := ← Metadata.ofField "metadata" v }

end Graph

end CodeAtlas
