import CodeAtlas.Graph.Metrics
import CodeAtlas.Proofs.Graph.Components
/-!
  The dependency cycles of a graph.

  1. **Which components are cycles** (`Component.isCycle_iff`).  Of two different members of a component
     each reaches the other, so both are on a closed walk.  The only member of a component is on one exactly
     if it has an edge to itself: the first edge of a closed walk does not leave the component.

  2. **The order** does not depend on the search.  The members of a cycle are filtered out of the vertices.
     Cycles are sorted by the place of their first members, and these are different, because cycles have no
     member in common: so the order is strict.

  `CycleGroups` says what the cycles along any relation are; `cycleGroups_cycles` says that they are found.
-/
namespace CodeAtlas

open Relation

/-- **The cycles along a relation**: all vertices on closed walks that are not empty, in groups of those
    that reach each other, everything in the order in which the vertices occur first in a list. -/
structure CycleGroups {α : Type} [DecidableEq α] (R : α → α → Prop) (order : List α)
    (groups : List (List α)) : Prop where
  cyclic : ∀ v, (∃ c ∈ groups, v ∈ c) ↔ TransGen R v v
  together : ∀ c ∈ groups, ∀ u ∈ c, ∀ v, v ∈ c ↔ Mutual R u v
  nonempty : ∀ c ∈ groups, c ≠ []
  nodup : ∀ c ∈ groups, c.Nodup
  disjoint : groups.Pairwise List.Disjoint
  inside : ∀ c ∈ groups, c.Pairwise fun a b => order.idxOf a < order.idxOf b
  ordered : groups.Pairwise fun c d => ∀ a ∈ c.head?, ∀ b ∈ d.head?, order.idxOf a < order.idxOf b

namespace Adjacency

variable {α : Type} [DecidableEq α] {g : Adjacency α} {c : List α} {u v : α}

/-! ## Components -/

/-- A strongly connected component: some vertices, each once, and with each of them exactly those that it
    reaches and that reach it. -/
structure Component (g : Adjacency α) (c : List α) : Prop where
  nonempty : c ≠ []
  nodup : c.Nodup
  inside : ∀ v ∈ c, v ∈ g.vertices
  whole : ∀ u ∈ c, ∀ v, v ∈ c ↔ Mutual g.Edge u v

theorem component_of_mem (hg : g.Closed) (hc : c ∈ g.components) : g.Component c := by
  obtain ⟨hfinished, hnd, hall⟩ := finished_components hg
  obtain ⟨hne, hwhole⟩ := hfinished.whole c (List.mem_reverse.2 hc)
  exact
    { nonempty := hne
      nodup := (List.nodup_flatten.1 hnd).1 c hc
      inside := fun v hv => (hall v).1 (List.mem_flatten.2 ⟨c, hc, hv⟩)
      whole := hwhole }

theorem exists_component (hg : g.Closed) (hv : v ∈ g.vertices) : ∃ c ∈ g.components, v ∈ c :=
  List.mem_flatten.1 (((finished_components hg).2.2 v).2 hv)

theorem disjoint_components (hg : g.Closed) : g.components.Pairwise List.Disjoint :=
  (List.nodup_flatten.1 (finished_components hg).2.1).2

/-- **A component is a cycle exactly if a closed walk passes through its members.** -/
theorem Component.isCycle_iff (h : g.Component c) (hu : u ∈ c) :
    g.isCycle c = true ↔ TransGen g.Edge u u := by
  match c with
  | [v] =>
    rw [List.mem_singleton.1 hu]
    have hv : v ∈ g.vertices := h.inside v List.mem_cons_self
    constructor
    · intro hself
      exact .single ⟨hv, List.contains_iff_mem.1 hself⟩
    · intro hwalk
      obtain ⟨w, hvw, hwv⟩ := TransGen.head'_iff.1 hwalk
      -- the first edge of the walk stays in the component
      have hw : w ∈ [v] := (h.whole v List.mem_cons_self w).2 ⟨.single hvw, hwv⟩
      rw [List.mem_singleton.1 hw] at hvw
      exact List.contains_iff_mem.2 hvw.2
  | v :: w :: rest =>
    refine ⟨fun _ => ?_, fun _ => rfl⟩
    have hvw : v ≠ w := fun he => (List.nodup_cons.1 h.nodup).1 (he ▸ List.mem_cons_self)
    have hw : w ∈ v :: w :: rest := List.mem_cons_of_mem v List.mem_cons_self
    by_cases huv : u = v
    · exact ((h.whole u hu w).1 hw).cycle (huv ▸ hvw)
    · exact ((h.whole u hu v).1 List.mem_cons_self).cycle huv

/-! ## Cycles -/

/-- Putting a component in the order of the vertices changes no members. -/
theorem mem_inOrder (g : Adjacency α) (c : List α) (v : α) :
    v ∈ g.inOrder c ↔ v ∈ g.vertices ∧ v ∈ c := by
  rw [inOrder, List.mem_filter, List.contains_iff_mem]

/-- Sorting does not change what a component holds. -/
theorem Component.mem_inOrder (h : g.Component c) (v : α) : v ∈ g.inOrder c ↔ v ∈ c := by
  rw [Adjacency.mem_inOrder]
  exact ⟨And.right, fun hv => ⟨h.inside v hv, hv⟩⟩

/-- The groups are the components that have a cycle. -/
theorem mem_cycles (g : Adjacency α) (d : List α) :
    d ∈ g.cycles ↔ ∃ c ∈ g.components, g.isCycle c = true ∧ g.inOrder c = d := by
  simp only [cycles, List.mem_mergeSort, List.mem_map, List.mem_filter, and_assoc]

/-- **A cycle** is a whole component, in the order of the vertices. -/
theorem component_of_mem_cycles (hg : g.Closed) (hvs : g.vertices.Nodup) (hc : c ∈ g.cycles) :
    g.Component c := by
  obtain ⟨d, hd, -, rfl⟩ := (mem_cycles g c).1 hc
  have h := component_of_mem hg hd
  refine ⟨?_, hvs.filter _, fun v hv => ((mem_inOrder g d v).1 hv).1, fun u hu v => ?_⟩
  · obtain ⟨v, hv⟩ := List.exists_mem_of_ne_nil d h.nonempty
    exact List.ne_nil_of_mem ((h.mem_inOrder v).2 hv)
  · rw [h.mem_inOrder] at hu ⊢
    exact h.whole u hu v

/-- **The vertices of the cycles** are those on closed walks. -/
theorem exists_cycle_iff (hg : g.Closed) (v : α) :
    (∃ c ∈ g.cycles, v ∈ c) ↔ TransGen g.Edge v v := by
  constructor
  · rintro ⟨d, hd, hv⟩
    obtain ⟨c, hc, hcycle, rfl⟩ := (mem_cycles g d).1 hd
    have h := component_of_mem hg hc
    exact (h.isCycle_iff ((h.mem_inOrder v).1 hv)).1 hcycle
  · intro hwalk
    obtain ⟨w, hvw, -⟩ := TransGen.head'_iff.1 hwalk
    obtain ⟨c, hc, hv⟩ := exists_component hg hvw.1
    have h := component_of_mem hg hc
    exact ⟨g.inOrder c, (mem_cycles g _).2 ⟨c, hc, (h.isCycle_iff hv).2 hwalk, rfl⟩,
      (h.mem_inOrder v).2 hv⟩

theorem disjoint_cycles (hg : g.Closed) : g.cycles.Pairwise List.Disjoint := by
  have hfiltered : (g.components.filter g.isCycle).Pairwise List.Disjoint :=
    (disjoint_components hg).filter _
  have hmapped : ((g.components.filter g.isCycle).map g.inOrder).Pairwise List.Disjoint := by
    refine List.pairwise_map.2 (hfiltered.imp fun hcd v hv hw => ?_)
    exact hcd ((mem_inOrder g _ v).1 hv).2 ((mem_inOrder g _ v).1 hw).2
  exact hmapped.perm (List.mergeSort_perm _ _).symm List.disjoint_symm

/-- The cycles are sorted by place; equal places are not ruled out yet. -/
theorem sorted_cycles (g : Adjacency α) : g.cycles.Pairwise fun c d => g.place c ≤ g.place d := by
  have h : g.cycles.Pairwise fun c d => decide (g.place c ≤ g.place d) = true := by
    refine List.pairwise_mergeSort (fun a b c hab hbc => ?_) (fun a b => ?_) _
    · exact decide_eq_true ((of_decide_eq_true hab).trans (of_decide_eq_true hbc))
    · simpa using Nat.le_total (g.place a) (g.place b)
  exact h.imp of_decide_eq_true

/-- **The first members of the cycles stand in the order of the vertices.** -/
theorem ordered_cycles (hg : g.Closed) (hvs : g.vertices.Nodup) :
    g.cycles.Pairwise fun c d =>
      ∀ a ∈ c.head?, ∀ b ∈ d.head?, g.vertices.idxOf a < g.vertices.idxOf b := by
  refine (g.sorted_cycles.and (disjoint_cycles hg)).imp_of_mem ?_
  rintro c d hc hd ⟨hle, hdisjoint⟩ a ha b hb
  obtain ⟨rest, rfl⟩ := List.head?_eq_some_iff.1 ha
  obtain ⟨rest', rfl⟩ := List.head?_eq_some_iff.1 hb
  have hav := (component_of_mem_cycles hg hvs hc).inside a List.mem_cons_self
  -- cycles with the same place would have their first members in common
  refine lt_of_le_of_ne hle fun heq => ?_
  have hab : a = b := List.idxOf_inj hav |>.1 heq
  exact hdisjoint List.mem_cons_self (hab ▸ List.mem_cons_self)

end Adjacency

/-! ## The cycles of a graph -/

namespace Graph

/-- **The cycles that are found are exactly the dependency cycles.** A vertex is in a group exactly if some walk leads
    from it back to it, two vertices are in one group exactly if each reaches the other, and the groups and their
    members come in the order of the graph. -/
theorem cycleGroups_cycles (g : Graph) (kinds : Option (List EdgeKind)) :
    CycleGroups (g.Leads kinds) g.ids (g.cycles kinds) := by
  have hg := Adjacency.closed_ofGraph g kinds
  have hvs : (Adjacency.ofGraph g kinds).vertices.Nodup := Adjacency.nodup_firsts g.ids
  have hmem : ∀ c ∈ g.cycles kinds, (Adjacency.ofGraph g kinds).Component c :=
    fun c hc => Adjacency.component_of_mem_cycles hg hvs hc
  rw [← Adjacency.edge_ofGraph]
  exact
    { cyclic := Adjacency.exists_cycle_iff hg
      together := fun c hc => (hmem c hc).whole
      nonempty := fun c hc => (hmem c hc).nonempty
      nodup := fun c hc => (hmem c hc).nodup
      disjoint := Adjacency.disjoint_cycles hg
      inside := fun c hc => by
        obtain ⟨d, -, -, rfl⟩ := (Adjacency.mem_cycles _ c).1 hc
        exact (Adjacency.pairwise_idxOf_firsts g.ids).filter _
      ordered := (Adjacency.ordered_cycles hg hvs).imp_of_mem fun {c d} _ hd hcd a ha b hb => by
        have hbd : b ∈ d := List.mem_of_mem_head? hb
        have hids := (Adjacency.mem_vertices_ofGraph g kinds b).1 ((hmem d hd).inside b hbd)
        exact Adjacency.idxOf_lt_of_idxOf_firsts_lt g.ids hids (hcd a ha b hb) }

end Graph

end CodeAtlas
