import CodeAtlas.Conversion
import Mathlib.Data.List.Nodup
/-!
  Whatever is converted holds together.

  There are three ways to a graph, and each has its own reason to end in an intact one:

    1. a written graph is only let through by `Graph.validate`, which accepts exactly the intact graphs;
    2. the symbols of a language and
    3. the classes of a list are put together by `Graph.assemble`, which keeps the first node of an
       identifier, each edge once, and only edges between nodes that are kept.

  `Graph.convert_cases` says which of the three a successful conversion went.  After it nobody has to look
  into the reading of values: however malformed they are, either nothing comes out or one of the three.
-/
namespace CodeAtlas

namespace Graph

/-! ## Graphs that are put together -/

/-- **What is put together is intact**, whatever the nodes and edges are. -/
theorem intact_assemble (nodes : List Node) (edges : List Edge) (metadata : Metadata) :
    (assemble nodes edges metadata).Intact := by
  refine ⟨?_, fun e he => ?_⟩
  · rw [ids_assemble]
    exact Adjacency.nodup_firsts _
  · rw [edges_assemble] at he
    have hj := (List.mem_filter.1 he).2
    simpa [joins] using hj

/-- An edge is its source, its target and its kind, so distinct edges are distinct triples. -/
theorem nodup_triples_assemble (nodes : List Node) (edges : List Edge) (metadata : Metadata) :
    ((assemble nodes edges metadata).edges.map fun e => (e.source, e.target, e.kind)).Nodup := by
  have hinj : Function.Injective fun e : Edge => (e.source, e.target, e.kind) := by
    rintro ⟨s, t, k⟩ ⟨s', t', k'⟩ h
    simpa using h
  rw [edges_assemble]
  exact ((Adjacency.nodup_firsts edges).filter _).map hinj

/-! ## The ways to a graph -/

/-- Reading the items one by one, and then putting the graph together. -/
theorem convert_of_classes {v : Json} (h : Shape.ofJson v = .classes) :
    convert v = (v.itemsField "classes" >>= fun values => (values.filterMapM ClassEntry.ofJson?).map ofClasses) := by
  unfold convert
  rw [h]
  simp only
  congr 1

/-- **A successful conversion went one of three ways**, by the shape of the value. -/
theorem convert_cases {v : Json} {g : Graph} (h : convert v = .ok g) :
    (Shape.ofJson v = .graph ∧ ofJson v = .ok g ∧ g.Intact) ∨
    (Shape.ofJson v = .symbols ∧ ∃ d, Dependencies.ofJson v = .ok d ∧ g = ofDependencies d) ∨
    (Shape.ofJson v = .classes ∧ ∃ classes, g = ofClasses classes) := by
  cases hs : Shape.ofJson v with
  | graph =>
    simp only [convert, hs] at h
    obtain ⟨g₀, hg₀, hv⟩ := Fault.bind_eq_ok_iff.1 h
    obtain ⟨hi, rfl⟩ := (validated_eq_ok_iff g₀ g).1 hv
    exact .inl ⟨rfl, hg₀, hi⟩
  | symbols =>
    simp only [convert, hs] at h
    obtain ⟨d, hd, rfl⟩ := Fault.map_eq_ok_iff.1 h
    exact .inr (.inl ⟨rfl, d, hd, rfl⟩)
  | classes =>
    rw [convert_of_classes hs] at h
    obtain ⟨values, -, h⟩ := Fault.bind_eq_ok_iff.1 h
    obtain ⟨entries, -, heq⟩ := Fault.map_eq_ok_iff.1 h
    exact .inr (.inr ⟨rfl, entries, heq.symm⟩)
  | unknown =>
    simp only [convert, hs] at h
    nomatch h

/-- Each of the three ways ends in an intact graph. -/
theorem intact_of_convert {v : Json} {g : Graph} (h : convert v = .ok g) : g.Intact := by
  rcases convert_cases h with ⟨-, -, hintact⟩ | ⟨-, d, -, rfl⟩ | ⟨-, classes, rfl⟩
  · exact hintact
  · exact intact_assemble _ _ _
  · exact intact_assemble _ _ _

end Graph

namespace DependencyData

/-- **Conversion never gives a broken graph.**  Identifiers are distinct, every edge joins two nodes, and so
    the graph passes validation.  A graph that is put together has no edge twice; a written one may. -/
theorem intact_of_toGraph (x : DependencyData) (g : Graph) (h : x.toGraph = .ok g) :
    g.ids.Nodup ∧ (∀ e ∈ g.edges, e.source ∈ g.ids ∧ e.target ∈ g.ids) ∧ g.validate = .ok () ∧
      (x.shape = .symbols ∨ x.shape = .classes →
        (g.edges.map fun e => (e.source, e.target, e.kind)).Nodup) := by
  have hboth : g.Intact ∧ (x.shape = .symbols ∨ x.shape = .classes →
      (g.edges.map fun e => (e.source, e.target, e.kind)).Nodup) := by
    cases x with
    | value v =>
      rcases Graph.convert_cases h with ⟨hs, _, hi⟩ | ⟨_, d, _, rfl⟩ | ⟨_, classes, rfl⟩
      · refine ⟨hi, fun hshape => ?_⟩
        rw [show (value v).shape = .graph from hs] at hshape
        simp at hshape
      · exact ⟨Graph.intact_assemble _ _ _, fun _ => Graph.nodup_triples_assemble _ _ _⟩
      · exact ⟨Graph.intact_assemble _ _ _, fun _ => Graph.nodup_triples_assemble _ _ _⟩
    | symbols d =>
      cases h
      exact ⟨Graph.intact_assemble _ _ _, fun _ => Graph.nodup_triples_assemble _ _ _⟩
    | graph g₀ =>
      obtain ⟨hi, rfl⟩ := (Graph.validated_eq_ok_iff g₀ g).1 h
      refine ⟨hi, fun hshape => ?_⟩
      simp [shape] at hshape
  obtain ⟨hi, hn⟩ := hboth
  exact ⟨hi.1, hi.2, (Graph.validate_eq_ok_iff g).2 hi, hn⟩

/-- Two classes of one name, a reference twice, one into the own package and one that leads nowhere. -/
def tangled : DependencyData :=
  .value (.obj [("classes", .arr [
    .obj [("name", .str "A"), ("package", .str "p"), ("extends", .str "B"),
      ("dependencies", .arr [.str "B", .str "p.B", .str "Nowhere", .null])],
    .obj [("name", .str "B"), ("package", .str "p"), ("imports", .arr [.str "A"])],
    .obj [("name", .str "p.A"), ("dependencies", .str "p.B")]])])

/-- The graph of `tangled`. -/
def untangled : Graph :=
  { nodes := ["A", "B"].map fun name =>
      { id := "p." ++ name, title := name, kind := "class"
        metadata := ⟨[("file_path", .str ""), ("line", .null), ("package", .str "p"),
          ("language", .str "java")]⟩ }
    edges := [⟨"p.A", "p.B", .inherits⟩, ⟨"p.A", "p.B", .depends⟩, ⟨"p.B", "p.A", .imports⟩]
    metadata := ⟨[("source_format", .str "legacy-java"), ("language", .str "java"),
      ("diagnostics", .arr []), ("pruned_edges", .int 1), ("duplicate_nodes", .int 1)]⟩ }

/-- A list with edges to nowhere and a class that is there twice. -/
theorem intact_untangled :
    tangled.toGraph = .ok untangled ∧ tangled.shape = .classes ∧ untangled.validate = .ok () ∧
      (untangled.edges.map fun e => (e.source, e.target, e.kind)).Nodup := by
  have h : tangled.toGraph = .ok untangled := by decide +kernel
  have hs : tangled.shape = .classes := by decide +kernel
  obtain ⟨_, _, hv, hn⟩ := intact_of_toGraph tangled untangled h
  exact ⟨h, hs, hv, hn (.inr hs)⟩

end DependencyData

end CodeAtlas
