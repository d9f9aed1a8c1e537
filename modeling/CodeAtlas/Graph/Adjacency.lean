import CodeAtlas.Graph
import CodeAtlas.OrderedMap
/-!
  The successor relation of a graph.

  `Adjacency.ofGraph` takes the distinct identifiers in the order of their first nodes as vertices, and for
  each of them the targets of its edges in order.  Edges of kinds that are not selected, and edges with an
  end outside of the graph, do not count.
-/
namespace CodeAtlas

/-- A finite directed graph: distinct vertices in order, and the successors of each. -/
structure Adjacency (α : Type) where
  vertices : List α
  successors : α → List α

namespace Adjacency

/-- The elements of a list at their first positions. -/
def firsts {α : Type} [DecidableEq α] : List α → List α
  | [] => []
  | x :: rest => x :: (firsts rest).filter fun y => y ≠ x

/-- Whether an edge is of a selected kind and joins two of the vertices. -/
def counts (vertices : List String) (kinds : Option (List EdgeKind)) (e : Edge) : Bool :=
  (match kinds with
    | some selected => selected.contains e.kind
    | none => true)
    && vertices.contains e.source && vertices.contains e.target

/-- The targets of the edges from a vertex. -/
def targets (edges : List Edge) (v : String) : List String :=
  (edges.filter fun e => e.source = v).map (·.target)

/-- The vertices and edges of a graph that count. -/
def ofGraph (g : Graph) (kinds : Option (List EdgeKind)) : Adjacency String :=
  let vertices := firsts g.ids
  let edges := g.edges.filter (counts vertices kinds)
  let table : OrderedMap String (List String) := ⟨vertices.map fun v => (v, targets edges v)⟩
  { vertices
    successors := fun v => (table.get? v).getD [] }

/-! ## Edges -/

/-- There is an edge from one vertex to another. -/
def Edge {α : Type} (g : Adjacency α) (u v : α) : Prop := u ∈ g.vertices ∧ v ∈ g.successors u

/-- All successors of vertices are vertices. -/
def Closed {α : Type} (g : Adjacency α) : Prop := ∀ u v, g.Edge u v → v ∈ g.vertices

section Firsts

variable {α : Type} [DecidableEq α]

@[simp] theorem mem_firsts (x : α) (xs : List α) : x ∈ firsts xs ↔ x ∈ xs := by
  induction xs with
  | nil => rfl
  | cons y rest ih =>
    by_cases h : x = y
    · simp [firsts, h]
    · simp [firsts, h, ih]

theorem nodup_firsts (xs : List α) : (firsts xs).Nodup := by
  induction xs with
  | nil => exact List.nodup_nil
  | cons y rest ih => exact List.nodup_cons.2 ⟨by simp, ih.filter _⟩

/-- The distinct elements stand in the order of their first occurrences. -/
theorem pairwise_idxOf_firsts (xs : List α) :
    (firsts xs).Pairwise fun a b => xs.idxOf a < xs.idxOf b := by
  induction xs with
  | nil => exact List.Pairwise.nil
  | cons y rest ih =>
    have hne : ∀ a ∈ (firsts rest).filter (fun a => a ≠ y), (y == a) = false := by
      intro a ha
      have hay : a ≠ y := of_decide_eq_true (List.mem_filter.1 ha).2
      exact beq_false_of_ne (Ne.symm hay)
    refine List.pairwise_cons.2 ⟨fun b hb => ?_, ?_⟩
    · simp [List.idxOf_cons, hne b hb]
    · refine (ih.filter _).imp_of_mem fun {a b} ha hb hlt => ?_
      simpa [List.idxOf_cons, hne a ha, hne b hb] using hlt

/-- Some elements of a list are the distinct ones of another list, in the order in which they are first seen
    there. -/
structure FirstSeen (xs ys : List α) : Prop where
  nodup : ys.Nodup
  mem_iff : ∀ x, x ∈ ys ↔ x ∈ xs
  ordered : ys.Pairwise fun a b => xs.idxOf a < xs.idxOf b

theorem firstSeen_firsts (xs : List α) : FirstSeen xs (firsts xs) :=
  ⟨nodup_firsts xs, fun x => mem_firsts x xs, pairwise_idxOf_firsts xs⟩

/-- It does not matter whether one first takes the distinct elements or first those that are wanted. -/
theorem filter_firsts (p : α → Bool) (xs : List α) : (firsts xs).filter p = firsts (xs.filter p) := by
  induction xs with
  | nil => rfl
  | cons x rest ih =>
    have hswap : ((firsts rest).filter fun y => y ≠ x).filter p =
        (firsts (rest.filter p)).filter fun y => y ≠ x := by
      rw [← ih, List.filter_filter, List.filter_filter]
      exact List.filter_congr fun y _ => Bool.and_comm _ _
    cases hx : p x with
    | true =>
      rw [firsts, List.filter_cons_of_pos hx, List.filter_cons_of_pos hx, firsts, hswap]
    | false =>
      have hgone : ∀ y ∈ firsts (rest.filter p), decide (y ≠ x) = true := by
        intro y hy
        rw [mem_firsts, List.mem_filter] at hy
        refine decide_eq_true fun heq => ?_
        rw [heq, hx] at hy
        exact Bool.false_ne_true hy.2
      have hno : ¬ p x = true := by rw [hx]; exact Bool.false_ne_true
      rw [firsts, List.filter_cons_of_neg hno, List.filter_cons_of_neg hno, hswap,
        List.filter_eq_self.2 hgone]

/-- An element that comes later among the distinct ones occurs later. -/
theorem idxOf_lt_of_idxOf_firsts_lt {a b : α} (xs : List α) (hb : b ∈ xs)
    (h : (firsts xs).idxOf a < (firsts xs).idxOf b) : xs.idxOf a < xs.idxOf b := by
  have hblt := List.idxOf_lt_length_of_mem ((mem_firsts b xs).2 hb)
  have halt := Nat.lt_trans h hblt
  have hlt := List.pairwise_iff_getElem.1 (pairwise_idxOf_firsts xs) _ _ halt hblt h
  rwa [List.getElem_idxOf halt, List.getElem_idxOf hblt] at hlt

end Firsts

theorem mem_targets (edges : List CodeAtlas.Edge) (v w : String) :
    w ∈ targets edges v ↔ ∃ e ∈ edges, e.source = v ∧ e.target = w := by
  simp only [targets, List.mem_map, List.mem_filter, decide_eq_true_eq, and_assoc]

@[simp] theorem mem_vertices_ofGraph (g : Graph) (kinds : Option (List EdgeKind)) (v : String) :
    v ∈ (ofGraph g kinds).vertices ↔ v ∈ g.ids :=
  mem_firsts v g.ids

theorem successors_ofGraph (g : Graph) (kinds : Option (List EdgeKind)) (v : String) :
    (ofGraph g kinds).successors v =
      if v ∈ g.ids then targets (g.edges.filter (counts (firsts g.ids) kinds)) v else [] := by
  simp only [ofGraph, OrderedMap.get?, OrderedMap.lookup_map, mem_firsts]
  split <;> rfl

end Adjacency

end CodeAtlas
