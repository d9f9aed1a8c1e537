import CodeAtlas.Graph.Adjacency
import Mathlib.Data.List.Chain
import Mathlib.Logic.Relation
import Mathlib.Order.Bounds.Defs
/-!
  What can be reached in a graph, and how.

  One vertex *reaches* another when there is a path of edges, possibly of none:  that is
  `Relation.ReflTransGen`.  A closed walk that is not empty is `Relation.TransGen v v`.  Two vertices that
  reach each other are `Mutual`; who is mutual with one vertex makes up its strongly connected component.

  All of this is about a relation.  There are two that matter, and `edge_ofGraph` says that they are one:

    * `Graph.Leads`, read off the list of edges of a graph: what a dependency *is*;
    * `Adjacency.Edge`, read off the table of successors: what the algorithms look at.
-/
namespace CodeAtlas

open Relation

section Relations

variable {α : Type} {R : α → α → Prop} {u v w : α}

/-- Two vertices that reach each other. -/
def Mutual (R : α → α → Prop) (u v : α) : Prop := ReflTransGen R u v ∧ ReflTransGen R v u

/-- Whoever reaches another vertex that reaches back is on a closed walk. -/
theorem Mutual.cycle (h : Mutual R u v) (hne : u ≠ v) : TransGen R u u := by
  rcases reflTransGen_iff_eq_or_transGen.1 h.1 with he | huv
  · exact absurd he.symm hne
  · exact huv.trans_left h.2

/-- A set that no edge leaves is not left by any path either. -/
theorem mem_of_reaches {S : α → Prop} (hS : ∀ x y, S x → R x y → S y) (hu : S u)
    (h : ReflTransGen R u v) : S v := by
  induction h with
  | refl => exact hu
  | tail _ hedge ih => exact hS _ _ ih hedge

/-! ## Walks -/

/-- A walk: at least one of the vertices, and an edge from each to the next. -/
structure IsWalk (vertices : List α) (R : α → α → Prop) (walk : List α) : Prop where
  nonempty : walk ≠ []
  inside : ∀ v ∈ walk, v ∈ vertices
  linked : walk.IsChain R

/-- The steps of a walk. -/
def steps (walk : List α) : List (α × α) := walk.zip walk.tail

open Classical in
/-- The number of steps of a walk whose two ends do not reach each other. -/
noncomputable def crossings (R : α → α → Prop) (walk : List α) : Nat :=
  (steps walk).countP fun s => ¬ Mutual R s.1 s.2

theorem IsWalk.singleton {vertices : List α} (hu : u ∈ vertices) : IsWalk vertices R [u] :=
  ⟨List.cons_ne_nil u [], fun _ hv => List.mem_singleton.1 hv ▸ hu, List.isChain_singleton u⟩

theorem IsWalk.cons {vertices walk : List α} (h : IsWalk vertices R (v :: walk)) (hu : u ∈ vertices)
    (huv : R u v) : IsWalk vertices R (u :: v :: walk) := by
  refine ⟨List.cons_ne_nil u _, fun w hw => ?_, List.isChain_cons_cons.2 ⟨huv, h.linked⟩⟩
  rcases List.mem_cons.1 hw with rfl | hw
  · exact hu
  · exact h.inside w hw

theorem crossings_singleton (R : α → α → Prop) (u : α) : crossings R [u] = 0 := rfl

/-- An edge inside of a component crosses nothing. -/
theorem crossings_of_mutual (h : Mutual R u v) (walk : List α) :
    crossings R (u :: v :: walk) = crossings R (v :: walk) := by
  show List.countP _ ((u, v) :: steps (v :: walk)) = List.countP _ (steps (v :: walk))
  rw [List.countP_cons_of_neg]
  simpa using h

/-- Any other edge crosses from one component to another. -/
theorem crossings_of_not_mutual (h : ¬ Mutual R u v) (walk : List α) :
    crossings R (u :: v :: walk) = crossings R (v :: walk) + 1 := by
  show List.countP _ ((u, v) :: steps (v :: walk)) = List.countP _ (steps (v :: walk)) + 1
  rw [List.countP_cons_of_pos]
  simpa using h

/-- Without closed walks, every step is a crossing. -/
theorem crossings_of_acyclic (hR : ∀ v, ¬ TransGen R v v) {walk : List α} (h : walk.IsChain R) :
    crossings R walk = (steps walk).length := by
  induction h with
  | nil => rfl
  | singleton u => rfl
  | @cons_cons u v walk huv _ ih =>
    have hne : ¬ Mutual R u v := fun hm => hR u ((TransGen.single huv).trans_left hm.2)
    rw [crossings_of_not_mutual hne, ih]
    rfl

end Relations

/-! ## The dependencies of a graph -/

/-- **A dependency**: an edge of a selected kind, from one node of the graph to another one. -/
def Graph.Leads (g : Graph) (kinds : Option (List EdgeKind)) (u v : String) : Prop :=
  u ∈ g.ids ∧ v ∈ g.ids ∧
    ∃ e ∈ g.edges, e.source = u ∧ e.target = v ∧ ∀ selected ∈ kinds, e.kind ∈ selected

namespace Adjacency

/-- An edge counts if its kind is selected and both ends are vertices. -/
theorem counts_eq_true_iff (vertices : List String) (kinds : Option (List EdgeKind))
    (e : CodeAtlas.Edge) :
    counts vertices kinds e = true ↔
      (∀ selected ∈ kinds, e.kind ∈ selected) ∧ e.source ∈ vertices ∧ e.target ∈ vertices := by
  cases kinds with
  | none => simp [counts]
  | some selected => simp [counts, and_assoc]

/-- **The table of successors holds exactly the dependencies.** -/
theorem edge_ofGraph (g : Graph) (kinds : Option (List EdgeKind)) :
    (ofGraph g kinds).Edge = g.Leads kinds := by
  funext u v
  refine propext ⟨?_, ?_⟩
  · rintro ⟨hu, hv⟩
    rw [mem_vertices_ofGraph] at hu
    rw [successors_ofGraph, if_pos hu, mem_targets] at hv
    obtain ⟨e, he, hs, ht⟩ := hv
    obtain ⟨hmem, hcounts⟩ := List.mem_filter.1 he
    obtain ⟨hkind, _, htarget⟩ := (counts_eq_true_iff _ kinds e).1 hcounts
    rw [ht, mem_firsts] at htarget
    exact ⟨hu, htarget, e, hmem, hs, ht, hkind⟩
  · rintro ⟨hu, hv, e, he, hs, ht, hkind⟩
    refine ⟨(mem_vertices_ofGraph g kinds u).2 hu, ?_⟩
    rw [successors_ofGraph, if_pos hu, mem_targets]
    refine ⟨e, List.mem_filter.2 ⟨he, (counts_eq_true_iff _ kinds e).2 ⟨hkind, ?_, ?_⟩⟩, hs, ht⟩
    · rw [hs, mem_firsts]; exact hu
    · rw [ht, mem_firsts]; exact hv

/-- Edges that lead out of the graph are left out, so the table is closed. -/
theorem closed_ofGraph (g : Graph) (kinds : Option (List EdgeKind)) : (ofGraph g kinds).Closed := by
  intro u v h
  rw [edge_ofGraph] at h
  exact (mem_vertices_ofGraph g kinds v).2 h.2.1

end Adjacency

end CodeAtlas
