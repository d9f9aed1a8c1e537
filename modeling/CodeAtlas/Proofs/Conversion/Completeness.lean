import CodeAtlas.Conversion
import Mathlib.Data.Finset.Dedup
import Mathlib.Data.Finset.Card
/-!
  The symbols of a language and their graph say the same.

  `Depicts` compares a graph with the symbols directly: its nodes with the distinct identifiers of the symbols,
  its edges with the distinct triples of their relations, and both counts with the sizes of the sets of what is
  missing.  Nothing in it knows how the graph is put together.

  The graph is put together in two passes, first all nodes and then all edges.  So a relation may stand before
  the symbol that it leads to, and a later symbol with a repeated identifier still contributes its relations.
  Relations of different names may become the same edge; such an edge counts once, whether it is kept or not.
-/
namespace CodeAtlas

namespace Graph

/-- A list without its repetitions is as long as its set is large. -/
theorem length_firsts {α : Type} [DecidableEq α] (xs : List α) :
    (Adjacency.firsts xs).length = xs.toFinset.card := by
  have hset : (Adjacency.firsts xs).toFinset = xs.toFinset := by
    ext x
    rw [List.mem_toFinset, List.mem_toFinset, Adjacency.mem_firsts]
  rw [← hset, List.toFinset_card_of_nodup (Adjacency.nodup_firsts xs)]

/-- As many nodes stay as there are identifiers. -/
theorem length_firstNodes (nodes : List Node) :
    (firstNodes nodes).length = (nodes.map (·.id)).toFinset.card := by
  rw [← length_firsts, ← ids_firstNodes, List.length_map]

/-- A node that is kept is the first one with its identifier. -/
theorem find?_of_mem_firstNodes {nodes : List Node} {n : Node} (hn : n ∈ firstNodes nodes) :
    nodes.find? (fun m => m.id = n.id) = some n := by
  induction nodes with
  | nil => exact absurd hn List.not_mem_nil
  | cons m rest ih =>
    rw [firstNodes, List.mem_cons, List.mem_filter] at hn
    rw [List.find?_cons]
    rcases hn with rfl | ⟨hrest, hother⟩
    · simp
    · have hne : m.id ≠ n.id := Ne.symm (of_decide_eq_true hother)
      simpa [hne] using ih hrest

/-- Nothing is dropped from nodes with different identifiers. -/
theorem firstNodes_eq_self {nodes : List Node} (h : (nodes.map (·.id)).Nodup) : firstNodes nodes = nodes := by
  induction nodes with
  | nil => rfl
  | cons n rest ih =>
    obtain ⟨hn, hrest⟩ := List.nodup_cons.1 h
    rw [firstNodes, ih hrest, List.filter_eq_self.2]
    intro m hm
    exact decide_eq_true fun heq => hn (List.mem_map.2 ⟨m, hm, heq⟩)

/-! ## The counts of what is dropped -/

/-- What is counted as pruned are the different edges that do not join two nodes. -/
theorem get?_pruned_assemble (nodes : List Node) (edges : List Edge) (metadata : Metadata) :
    (assemble nodes edges metadata).metadata.get? "pruned_edges" =
      some (.int ((edges.filter fun e => !joins (assemble nodes edges metadata).ids e).toFinset.card)) := by
  rw [← length_firsts, ← Adjacency.filter_firsts]
  show (Metadata.setIf _ _ _ _).get? _ = _
  rw [Metadata.setIf]
  split
  · rw [Metadata.get?_set, if_neg (by decide), Metadata.get?_set, if_pos rfl]
    rfl
  · rw [Metadata.get?_set, if_pos rfl]
    rfl

/-- Repeated nodes are counted only if there are any. -/
theorem get?_repeated_assemble (nodes : List Node) (edges : List Edge) (metadata : Metadata) :
    (assemble nodes edges metadata).metadata.get? "duplicate_nodes" =
      if (nodes.map (·.id)).Nodup then metadata.get? "duplicate_nodes"
      else some (.int (nodes.length - (nodes.map (·.id)).toFinset.card)) := by
  have hle : (nodes.map (·.id)).toFinset.card ≤ nodes.length := by
    have h := List.toFinset_card_le (nodes.map (·.id))
    rwa [List.length_map] at h
  -- nothing repeats exactly if the set is as large as the list is long
  have hnodup : (nodes.map (·.id)).Nodup ↔ nodes.length - (firstNodes nodes).length = 0 := by
    rw [length_firstNodes, Nat.sub_eq_zero_iff_le]
    constructor
    · intro h
      rw [List.toFinset_card_of_nodup h, List.length_map]
    · intro h
      refine List.dedup_eq_self.1 ((List.dedup_sublist _).eq_of_length_le ?_)
      rwa [List.length_map, ← List.card_toFinset]
  show (Metadata.setIf _ (nodes.length - (firstNodes nodes).length ≠ 0) _ _).get? _ = _
  rw [Metadata.setIf]
  by_cases h : (nodes.map (·.id)).Nodup
  · have hnone : ¬ decide (nodes.length - (firstNodes nodes).length ≠ 0) = true := by
      simpa using hnodup.1 h
    rw [if_neg hnone, if_pos h, Metadata.get?_set, if_neg (by decide)]
  · have hsome : decide (nodes.length - (firstNodes nodes).length ≠ 0) = true := by
      simpa using fun hzero => h (hnodup.2 hzero)
    rw [if_pos hsome, if_neg h, Metadata.get?_set, if_pos rfl, length_firstNodes, Int.ofNat_sub hle]

end Graph

/-! ## The graph of symbols -/

namespace Dependencies

/-- The identifiers of the symbols, with repetitions. -/
def ids (d : Dependencies) : List String := d.symbols.map (·.id)

/-- What the relations of all symbols say, with repetitions. -/
def triples (d : Dependencies) : List Edge :=
  d.symbols.flatMap fun s => s.relations.map fun r => ⟨s.id, r.target, EdgeKind.ofRelation r.kind⟩

end Dependencies

namespace Graph

/-- A graph says what some symbols say, no less and no more. -/
structure Depicts (g : Graph) (d : Dependencies) : Prop where
  /-- the nodes have the identifiers of the symbols -/
  ids : Adjacency.FirstSeen d.ids g.ids
  /-- and are taken from the first symbols with them -/
  nodes : ∀ n ∈ g.nodes, ∃ s, d.symbols.find? (fun s => s.id = n.id) = some s ∧
    n = nodeOfSymbol d.language s
  /-- the edges are the relations that lead to a symbol -/
  edges : Adjacency.FirstSeen (d.triples.filter fun e => e.target ∈ d.ids) g.edges
  /-- the others are counted -/
  pruned : g.metadata.get? "pruned_edges" =
    some (.int (d.triples.filter fun e => e.target ∉ d.ids).toFinset.card)
  /-- and so are the symbols without a node of their own, if there are any -/
  repeated : g.metadata.get? "duplicate_nodes" =
    if d.ids.Nodup then none else some (.int (d.symbols.length - d.ids.toFinset.card))

/-! ## The graph that is put together, part by part -/

/-- A node has the identifier of its symbol. -/
theorem map_id_nodeOfSymbol (d : Dependencies) :
    (d.symbols.map (nodeOfSymbol d.language)).map (·.id) = d.ids := by
  rw [List.map_map]
  rfl

/-- The identifiers of the symbols, each where it comes first. -/
theorem ids_ofDependencies (d : Dependencies) : (ofDependencies d).ids = Adjacency.firsts d.ids := by
  rw [ofDependencies, ids_assemble, map_id_nodeOfSymbol]

/-- Symbols with different identifiers have a node each. -/
theorem nodes_ofDependencies {d : Dependencies} (h : d.ids.Nodup) :
    (ofDependencies d).nodes = d.symbols.map (nodeOfSymbol d.language) :=
  firstNodes_eq_self (by rw [map_id_nodeOfSymbol]; exact h)

/-- Every node is that of the first symbol with its identifier. -/
theorem find?_of_mem_nodes_ofDependencies {d : Dependencies} {n : Node}
    (hn : n ∈ (ofDependencies d).nodes) :
    ∃ s, d.symbols.find? (fun s => s.id = n.id) = some s ∧ n = nodeOfSymbol d.language s := by
  have hfirst := find?_of_mem_firstNodes hn
  rw [List.find?_map] at hfirst
  obtain ⟨s, hs, rfl⟩ := Option.map_eq_some_iff.1 hfirst
  exact ⟨s, hs, rfl⟩

/-- A relation of a symbol can leave the graph only by its target. -/
theorem joins_ofDependencies {d : Dependencies} {e : Edge} (he : e ∈ d.triples) :
    joins (ofDependencies d).ids e = decide (e.target ∈ d.ids) := by
  have hsource : e.source ∈ d.ids := by
    obtain ⟨s, hs, hes⟩ := List.mem_flatMap.1 he
    obtain ⟨r, -, rfl⟩ := List.mem_map.1 hes
    exact List.mem_map_of_mem hs
  simp [joins, ids_ofDependencies, hsource]

/-- The edges are the distinct triples whose target is a symbol. -/
theorem edges_ofDependencies (d : Dependencies) :
    (ofDependencies d).edges = Adjacency.firsts (d.triples.filter fun e => e.target ∈ d.ids) := by
  have hkept : (d.triples.filter fun e => e.target ∈ d.ids) =
      d.triples.filter (joins (ofDependencies d).ids) :=
    List.filter_congr fun e he => (joins_ofDependencies he).symm
  rw [hkept, ← Adjacency.filter_firsts]
  rfl

theorem get?_pruned_ofDependencies (d : Dependencies) :
    (ofDependencies d).metadata.get? "pruned_edges" =
      some (.int (d.triples.filter fun e => e.target ∉ d.ids).toFinset.card) := by
  have hdropped : (d.triples.filter fun e => e.target ∉ d.ids) =
      d.triples.filter fun e => !joins (ofDependencies d).ids e := by
    refine List.filter_congr fun e he => ?_
    rw [joins_ofDependencies he, decide_not]
  rw [hdropped]
  exact get?_pruned_assemble _ _ _

theorem get?_repeated_ofDependencies (d : Dependencies) :
    (ofDependencies d).metadata.get? "duplicate_nodes" =
      if d.ids.Nodup then none else some (.int (d.symbols.length - d.ids.toFinset.card)) := by
  rw [ofDependencies, get?_repeated_assemble, map_id_nodeOfSymbol, List.length_map]
  simp [Metadata.ofList, Metadata.get?_set, Metadata.get?_empty]

end Graph

namespace DependencyData

/-- **Nothing is lost and nothing is invented.** Symbols can always be converted, and their graph depicts them: a node
    for each identifier, an edge for each relation that leads to one, and counts of all that had to be left out. -/
theorem depicts_of_symbols (d : Dependencies) :
    ∃ g, (symbols d).toGraph = .ok g ∧ g.Depicts d := by
  refine ⟨Graph.ofDependencies d, rfl, ?_⟩
  exact
    { ids := by
        rw [Graph.ids_ofDependencies]
        exact Adjacency.firstSeen_firsts d.ids
      nodes := fun n hn => Graph.find?_of_mem_nodes_ofDependencies hn
      edges := by
        rw [Graph.edges_ofDependencies]
        exact Adjacency.firstSeen_firsts _
      pruned := Graph.get?_pruned_ofDependencies d
      repeated := Graph.get?_repeated_ofDependencies d }

/-- A symbol twice, a relation to a symbol that comes later, and two names for one kind of edge. -/
example :
    (Graph.ofDependencies ⟨"java", .str "p", "/r", [
      ⟨"A", "A", "class", "A.java", .int 1, .empty,
        [⟨"import", "B"⟩, ⟨"extends", "Out"⟩, ⟨"inherits", "Out"⟩]⟩,
      ⟨"A", "other", "class", "B.java", .int 1, .empty, [⟨"imports", "B"⟩, ⟨"calls", "A"⟩]⟩,
      ⟨"B", "B", "class", "B.java", .int 9, .empty, []⟩], []⟩).edges =
      [⟨"A", "B", .imports⟩, ⟨"A", "A", .calls⟩] := by
  decide +kernel

end DependencyData

end CodeAtlas
