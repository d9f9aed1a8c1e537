import CodeAtlas.Proofs.Graph.Components
import Mathlib.Algebra.GroupWithZero.Nat
import Mathlib.Algebra.Order.BigOperators.Group.List
import Mathlib.Algebra.Order.Group.Nat
import Mathlib.Logic.Function.Iterate
/-!
  The search for strongly connected components ends, and what it has found then.

  The search is looked at here as one machine, with the vertices that it has still to begin with beside the state
  of the search: `advance` begins with the next of them when the path is empty, and makes one step otherwise.

  1. **It ends** (`exists_iterate_advance`).  `effort` counts the vertices to begin with, the vertices on the path and
     their pending successors, and for each vertex that is not entered yet what entering it will put on the path.
     Every move takes something off, so from the start there are at most two moves for each vertex and one for each
     edge.

  2. **The components** are the strongly connected components in reverse topological order (`Condensation`).

  Nothing is called within itself, so a long chain is only a long path in the state.
-/
namespace CodeAtlas

open Relation

namespace Search

variable {α : Type} [DecidableEq α] {g : Adjacency α}

/-! ## The whole search as one machine -/

/-- One move of the whole search: the vertices to begin with, and the state. -/
def advance (g : Adjacency α) : List α × Search α → List α × Search α
  | (roots, s) =>
    if s.work = [] then
      match roots with
      | [] => ([], s)
      | root :: rest => (rest, if s.entered root then s else s.enter g root)
    else (roots, step g s)

/-- What the vertices that are not entered yet will put on the path: each itself and its successors. -/
def reserve (g : Adjacency α) (s : Search α) : Nat :=
  (g.vertices.map fun v => if s.entered v then 0 else (g.successors v).length + 1).sum

/-- How many moves are left at most. -/
def effort (g : Adjacency α) (roots : List α) (s : Search α) : Nat :=
  roots.length + reserve g s + pending s.work

/-! ### What one move takes off -/

/-- Entering a vertex puts no more on the path than was in reserve for it. -/
theorem reserve_enter (s : Search α) {w : α} (hw : w ∈ g.vertices) (hn : s.entered w = false) :
    reserve g (s.enter g w) + ((g.successors w).length + 1) ≤ reserve g s := by
  have hentered : ∀ x, (s.enter g w).entered x = (decide (w = x) || s.entered x) :=
    fun x => entered_insert s.index w x _
  have hle : ∀ x, (if (decide (w = x) || s.entered x) = true then 0 else (g.successors x).length + 1) ≤
      if s.entered x = true then 0 else (g.successors x).length + 1 := by
    intro x
    split
    · exact Nat.zero_le _
    · next hx => rw [if_neg fun he => hx (by rw [he, Bool.or_true])]
  unfold reserve
  simp only [hentered]
  generalize g.vertices = vertices at hw
  induction vertices with
  | nil => exact absurd hw List.not_mem_nil
  | cons x rest ih =>
    rw [List.map_cons, List.map_cons, List.sum_cons, List.sum_cons]
    rcases List.mem_cons.1 hw with rfl | hmem
    · have hrest := List.sum_le_sum (l := rest) fun x _ => hle x
      rw [hn, decide_eq_true rfl, Bool.true_or, if_pos rfl, if_neg Bool.false_ne_true]
      omega
    · have := ih hmem
      have := hle x
      omega

/-- Every step takes something off the path, or more off the reserve than it puts on the path. -/
theorem step_lt (s : Search α) (h : s.work ≠ []) :
    reserve g (step g s) + pending (step g s).work < reserve g s + pending s.work := by
  unfold step
  split
  · contradiction
  · next v rest hwork =>
    have hreserve : reserve g (s.leave v rest) = reserve g s := by
      unfold reserve entered
      rw [index_leave]
    have hleave : (s.leave v rest).work = rest := by
      cases rest <;> exact work_close _ v
    rw [hreserve, hleave, hwork]
    simp [pending]
  · next v w ws rest hwork =>
    have hpending : pending ((v, ws) :: rest) < pending s.work := by
      rw [hwork]
      simp [pending]
    -- the state with one successor less, which has the same reserve
    obtain ⟨t, ht⟩ : ∃ t : Search α, t = { s with work := (v, ws) :: rest } := ⟨_, rfl⟩
    have hreserve : reserve g t = reserve g s := by rw [ht]; rfl
    have hwork' : t.work = (v, ws) :: rest := by rw [ht]
    rw [← ht]
    by_cases hentered : t.entered w = true
    · rw [if_pos hentered]
      split
      · show reserve g t + pending t.work < _
        rw [hreserve, hwork']
        omega
      · rw [hreserve, hwork']
        omega
    · rw [if_neg hentered]
      split
      · next hc =>
        have henter := reserve_enter t (List.contains_iff_mem.1 hc) (Bool.eq_false_iff.2 hentered)
        show reserve g (t.enter g w) + ((g.successors w).length + 1 + pending t.work) < _
        rw [hreserve] at henter
        rw [hwork']
        omega
      · rw [hreserve, hwork']
        omega

/-! ### The search ends -/

/-- **The search ends**, with the outcome of the searches one after the other, before the moves that it has left are
    used up. -/
theorem exists_iterate_advance (roots : List α) (s : Search α) (hroots : ∀ r ∈ roots, r ∈ g.vertices) :
    ∃ n ≤ effort g roots s, (advance g)^[n] (roots, s) = ([], searchFrom g roots (run g s)) := by
  induction heffort : effort g roots s using Nat.strongRecOn generalizing roots s with
  | ind left ih =>
    -- a move makes the effort smaller and keeps the outcome
    have hmove : ∀ roots' s', advance g (roots, s) = (roots', s') → (∀ r ∈ roots', r ∈ g.vertices) →
        effort g roots' s' < left → searchFrom g roots' (run g s') = searchFrom g roots (run g s) →
        ∃ n ≤ left, (advance g)^[n] (roots, s) = ([], searchFrom g roots (run g s)) := by
      intro roots' s' hadvance hroots' hlt hsame
      obtain ⟨n, hn, hiterate⟩ := ih (effort g roots' s') hlt roots' s' hroots' rfl
      refine ⟨n + 1, by omega, ?_⟩
      rw [Function.iterate_succ_apply, hadvance, hiterate, hsame]
    rw [effort] at heffort
    by_cases hwork : s.work = []
    · have hrun : run g s = s := by rw [run, dif_pos hwork]
      cases roots with
      | nil =>
        refine ⟨0, Nat.zero_le _, ?_⟩
        rw [hrun]
        rfl
      | cons root rest =>
        have hrest : ∀ r ∈ rest, r ∈ g.vertices := fun r hr => hroots r (List.mem_cons_of_mem _ hr)
        rw [List.length_cons] at heffort
        by_cases hentered : s.entered root = true
        · refine hmove rest s ?_ hrest ?_ ?_
          · simp only [advance, if_pos hwork, if_pos hentered]
          · rw [effort]
            omega
          · rw [hrun, searchFrom, searchFrom, List.foldl_cons, if_pos hentered]
        · refine hmove rest (s.enter g root) ?_ hrest ?_ ?_
          · simp only [advance, if_pos hwork, if_neg hentered]
          · have henter := reserve_enter s (hroots root List.mem_cons_self) (Bool.eq_false_iff.2 hentered)
            have hpush : pending (s.enter g root).work = (g.successors root).length + 1 + pending s.work := rfl
            rw [effort, hpush]
            omega
          · rw [hrun, searchFrom, searchFrom, List.foldl_cons, if_neg hentered]
    · refine hmove roots (step g s) ?_ hroots ?_ ?_
      · simp only [advance, if_neg hwork]
      · have := step_lt (g := g) s hwork
        rw [effort]
        omega
      · rw [run.eq_def g s, dif_neg hwork]

/-- At the start there are two moves for each vertex and one for each edge. -/
theorem effort_start (g : Adjacency α) :
    effort g g.vertices start = 2 * g.vertices.length + (g.vertices.flatMap g.successors).length := by
  have hreserve : reserve g start = (g.vertices.flatMap g.successors).length + g.vertices.length := by
    unfold reserve
    generalize g.vertices = vertices
    induction vertices with
    | nil => rfl
    | cons v rest ih =>
      have hv : (start : Search α).entered v = false := rfl
      rw [List.map_cons, List.sum_cons, ih, hv, if_neg Bool.false_ne_true, List.flatMap_cons, List.length_append,
        List.length_cons]
      omega
  have hpending : pending (start : Search α).work = 0 := rfl
  rw [effort, hreserve, hpending]
  omega

end Search

namespace Adjacency

variable {α : Type} [DecidableEq α] {g : Adjacency α}

/-! ## The components -/

/-- **The strongly connected components of a graph, in reverse topological order.** -/
structure Condensation (g : Adjacency α) (components : List (List α)) : Prop where
  /-- every vertex occurs once in all components together, and nothing else occurs -/
  once : ∀ v, components.flatten.count v = if v ∈ g.vertices then 1 else 0
  /-- two vertices are in one component exactly if each can be reached from the other -/
  together : ∀ u ∈ g.vertices, ∀ v ∈ g.vertices,
    (∃ c ∈ components, u ∈ c ∧ v ∈ c) ↔ ReflTransGen g.Edge u v ∧ ReflTransGen g.Edge v u
  /-- no component is empty -/
  nonempty : ∀ c ∈ components, c ≠ []
  /-- an edge to another component leads to an earlier one -/
  ordered : ∀ i (hi : i < components.length) j (hj : j < components.length), ∀ u ∈ components[i],
    ∀ v ∈ components[j], g.Edge u v → i ≠ j → j < i

omit [DecidableEq α] in
/-- No edge leads from a component to one that is finished later. -/
theorem pairwise_of_finished {found : List (List α)} (h : Search.Finished g found) (hnd : found.flatten.Nodup) :
    found.Pairwise fun later earlier => ∀ u ∈ earlier, ∀ v ∈ later, ¬ g.Edge u v := by
  induction h with
  | nil => exact List.Pairwise.nil
  | @component c before _ _ _ hbefore ih =>
    rw [List.flatten_cons] at hnd
    refine List.pairwise_cons.2 ⟨fun d hd u hu v hv huv => ?_, ih (List.nodup_append.1 hnd).2.1⟩
    have hv' : v ∈ before.flatten := hbefore.closed u v (List.mem_flatten.2 ⟨d, hd, hu⟩) huv
    exact List.disjoint_of_nodup_append hnd hv hv'

theorem condensation_components (hg : g.Closed) : g.Condensation g.components := by
  obtain ⟨hfinished, hnd, hall⟩ := finished_components hg
  have hwhole : ∀ c ∈ g.components, c ≠ [] ∧ ∀ u ∈ c, ∀ v, v ∈ c ↔ Mutual g.Edge u v :=
    fun c hc => hfinished.whole c (List.mem_reverse.2 hc)
  refine ⟨fun v => ?_, fun u hu v _ => ⟨?_, fun hmutual => ?_⟩, fun c hc => (hwhole c hc).1, ?_⟩
  · by_cases hv : v ∈ g.vertices
    · rw [if_pos hv]
      exact List.count_eq_one_of_mem hnd ((hall v).2 hv)
    · rw [if_neg hv]
      exact List.count_eq_zero_of_not_mem fun hmem => hv ((hall v).1 hmem)
  · rintro ⟨c, hc, huc, hvc⟩
    exact ((hwhole c hc).2 u huc v).1 hvc
  · obtain ⟨c, hc, huc⟩ := List.mem_flatten.1 ((hall u).2 hu)
    exact ⟨c, hc, huc, ((hwhole c hc).2 u huc v).2 hmutual⟩
  · have hndr : g.components.reverse.flatten.Nodup :=
      ((List.reverse_perm g.components).flatten).nodup_iff.2 hnd
    have hpairwise := List.pairwise_reverse.1 (pairwise_of_finished hfinished hndr)
    intro i hi j hj u hu v hv huv hne
    rcases Nat.lt_or_gt_of_ne hne with hlt | hgt
    · exact absurd huv (List.pairwise_iff_getElem.1 hpairwise i j hi hj hlt u hu v hv)
    · exact hgt

/-- **The search ends with the components**: after at most two moves for each vertex and one for each edge there is
    nothing left to do, and the components that are found then are the strongly connected components in reverse
    topological order. -/
theorem condensation_of_closed (hg : g.Closed) :
    ∃ n ≤ 2 * g.vertices.length + (g.vertices.flatMap g.successors).length, ∃ final : Search α,
      (Search.advance g)^[n] (g.vertices, Search.start) = ([], final) ∧ final.work = [] ∧
        g.components = final.found.reverse ∧ g.Condensation g.components := by
  obtain ⟨n, hn, hiterate⟩ := Search.exists_iterate_advance g.vertices Search.start fun _ hr => hr
  have hstart : Search.run g Search.start = Search.start := by rw [Search.run]; rfl
  have hend := (Search.invariant_from hg g.vertices (fun _ hr => hr) Search.start (Search.invariant_start g) rfl).2.1
  rw [Search.effort_start] at hn
  rw [hstart] at hiterate
  exact ⟨n, hn, _, hiterate, hend, rfl, condensation_components hg⟩

/-- Two vertices that lead to each other, a third one behind them, and at the end one that leads to itself. -/
def chained : Adjacency String where
  vertices := ["a", "b", "c", "d"]
  successors
    | "a" => ["b", "b"]
    | "b" => ["c", "a"]
    | "c" => ["d"]
    | "d" => ["d"]
    | _ => []

/-- What is behind comes first. -/
theorem condensation_chained : chained.Closed ∧ chained.components = [["d"], ["c"], ["b", "a"]] ∧
    (∃ n ≤ 14, ∃ final : Search String,
      (Search.advance chained)^[n] (chained.vertices, Search.start) = ([], final) ∧
      final.work = [] ∧ chained.components = final.found.reverse ∧ chained.Condensation chained.components) := by
  have hclosed : chained.Closed := by
    have hall : ∀ u ∈ chained.vertices, ∀ v ∈ chained.successors u, v ∈ chained.vertices := by decide
    exact fun u v huv => hall u huv.1 v huv.2
  exact ⟨hclosed, by cbv, condensation_of_closed hclosed⟩

end Adjacency

end CodeAtlas
