import CodeAtlas.Proofs.Graph.Cycles
/-!
  The depth of a graph is the longest chain of its components.

  1. **Depths** (`Layered`).  Vertices that reach each other have the same depth; an edge between components
     leads to a smaller depth; and a depth that is not zero comes from an edge out of the component to a depth
     that is one less.

  2. **The pass over the components** (`layered_depthsOf`).  Each component comes after those to which its
     edges lead.  So the depths that are looked up are there, and as no component comes twice they are final.

  3. **Walks**.  Along a walk the depth falls at every crossing, so a walk has at most as many crossings as
     the depth of its start (`Layered.crossings_le`).  The other way round, a walk is put together from the
     edges that depths come from, with paths inside the components between them (`Layered.exists_walk`).

  Every vertex has a walk, namely the one without steps.  The depth of the graph is the greatest of all
  depths, and so the greatest number of crossings.
-/
namespace CodeAtlas

open Relation

/-- No number is greater than what the maximum folds the numbers to. -/
theorem le_foldl_max {xs : List Nat} {x : Nat} (hx : x ∈ xs) : x ≤ xs.foldl max 0 := by
  rw [List.foldl_max]
  cases h : xs.max? with
  | none =>
    rw [List.max?_eq_none_iff.1 h] at hx
    nomatch hx
  | some m => exact ((List.max?_eq_some_iff.1 h).2 x hx).trans (Nat.le_max_right 0 m)

/-- And if there are any numbers then it is one of them. -/
theorem foldl_max_mem {xs : List Nat} (hne : xs ≠ []) : xs.foldl max 0 ∈ xs := by
  rw [List.foldl_max]
  cases h : xs.max? with
  | none => exact absurd (List.max?_eq_none_iff.1 h) hne
  | some m =>
    rw [Option.getD_some, Nat.zero_max]
    exact List.max?_mem h

/-! ## Depths along a relation -/

/-- **Depths** of some of the vertices, as the components and the edges between them ask for. -/
structure Layered {α : Type} (R : α → α → Prop) (vertices : List α) (depth : α → Nat) : Prop where
  level : ∀ u ∈ vertices, ∀ v, Mutual R u v → depth v = depth u
  falls : ∀ u ∈ vertices, ∀ v, R u v → ¬ Mutual R u v → depth v + 1 ≤ depth u
  attained : ∀ u ∈ vertices, depth u = 0 ∨
    ∃ v w, Mutual R u v ∧ R v w ∧ ¬ Mutual R v w ∧ depth u = depth w + 1

section Walks

variable {α : Type} {R : α → α → Prop} {vertices : List α} {depth : α → Nat} {u v : α}

/-- **A walk crosses at most as often as its start is deep.** -/
theorem Layered.crossings_le (h : Layered R vertices depth) (walk : List α)
    (hwalk : IsWalk vertices R (u :: walk)) : crossings R (u :: walk) ≤ depth u := by
  induction walk generalizing u with
  | nil => exact Nat.zero_le _
  | cons v walk ih =>
    have hu : u ∈ vertices := hwalk.inside u List.mem_cons_self
    obtain ⟨huv, hlinked⟩ := List.isChain_cons_cons.1 hwalk.linked
    have hrest : IsWalk vertices R (v :: walk) :=
      ⟨List.cons_ne_nil v walk, fun w hw => hwalk.inside w (List.mem_cons_of_mem u hw), hlinked⟩
    have hle := ih hrest
    by_cases hm : Mutual R u v
    · rw [crossings_of_mutual hm]
      have := h.level u hu v hm
      omega
    · rw [crossings_of_not_mutual hm]
      have := h.falls u hu v huv hm
      omega

/-- A walk can be extended to the front inside a component, without another crossing. -/
theorem exists_walk_of_mutual (hin : ∀ x y, R x y → x ∈ vertices) (huv : Mutual R u v) {walk : List α}
    (hwalk : IsWalk vertices R (v :: walk)) :
    ∃ walk', IsWalk vertices R (u :: walk') ∧ crossings R (u :: walk') = crossings R (v :: walk) := by
  obtain ⟨hto, hback⟩ := huv
  induction hto using ReflTransGen.head_induction_on with
  | refl => exact ⟨walk, hwalk, rfl⟩
  | @head a b hab hbv ih =>
    obtain ⟨walk', hwalk', heq⟩ := ih (hback.tail hab)
    have hm : Mutual R a b := ⟨.single hab, hbv.trans hback⟩
    exact ⟨b :: walk', hwalk'.cons (hin a b hab) hab, (crossings_of_mutual hm walk').trans heq⟩

/-- **Some walk crosses as often as its start is deep.** -/
theorem Layered.exists_walk (h : Layered R vertices depth) (hin : ∀ x y, R x y → x ∈ vertices)
    (hclosed : ∀ x y, R x y → y ∈ vertices) (n : Nat) (hu : u ∈ vertices) (hn : depth u = n) :
    ∃ walk, IsWalk vertices R (u :: walk) ∧ crossings R (u :: walk) = n := by
  -- on the depth: the edge that a depth comes from leads to the one below
  induction n generalizing u with
  | zero => exact ⟨[], .singleton hu, crossings_singleton R u⟩
  | succ n ih =>
    obtain hzero | ⟨v, w, huv, hvw, hne, hdepth⟩ := h.attained u hu
    · rw [hzero] at hn
      nomatch hn
    · have hw : depth w = n := by omega
      obtain ⟨walk, hwalk, hcross⟩ := ih (hclosed v w hvw) hw
      obtain ⟨walk', hwalk', hcross'⟩ :=
        exists_walk_of_mutual hin huv (hwalk.cons (hin v w hvw) hvw)
      refine ⟨walk', hwalk', ?_⟩
      rw [hcross', crossings_of_not_mutual hne, hcross]

end Walks

namespace Adjacency

variable {α : Type} [DecidableEq α] {g : Adjacency α} {c : List α} {u v w : α}

/-! ## The pass over the components -/

/-- Where the edges of a component lead to, outside of it. -/
theorem mem_outside (g : Adjacency α) (c : List α) (w : α) :
    w ∈ g.outside c ↔ ∃ v ∈ c, w ∈ g.successors v ∧ w ∉ c := by
  simp [outside, List.mem_flatMap, List.mem_filter]

/-- A component is deeper than whatever its edges lead to outside of it. -/
theorem lt_componentDepth (g : Adjacency α) (depths : OrderedMap α Nat) (hv : v ∈ c)
    (hw : w ∈ g.successors v) (hwc : w ∉ c) : depthIn depths w + 1 ≤ g.componentDepth depths c :=
  le_foldl_max (List.mem_map_of_mem ((mem_outside g c w).2 ⟨v, hv, hw, hwc⟩))

/-- And it is not deeper than that. -/
theorem componentDepth_attained (g : Adjacency α) (depths : OrderedMap α Nat) (c : List α) :
    g.componentDepth depths c = 0 ∨
      ∃ v ∈ c, ∃ w ∈ g.successors v, w ∉ c ∧ g.componentDepth depths c = depthIn depths w + 1 := by
  by_cases hnone : g.outside c = []
  · rw [componentDepth, hnone]
    exact .inl rfl
  · have hsome : (g.outside c).map (fun w => depthIn depths w + 1) ≠ [] :=
      fun h => hnone (List.map_eq_nil_iff.1 h)
    obtain ⟨w, hw, heq⟩ := List.mem_map.1 (foldl_max_mem hsome)
    obtain ⟨v, hv, hvw, hwc⟩ := (mem_outside g c w).1 hw
    exact .inr ⟨v, hv, w, hvw, hwc, heq.symm⟩

/-- The depths of components that were found one after the other, the last one first. -/
def depthsOf (g : Adjacency α) (found : List (List α)) : OrderedMap α Nat :=
  found.foldr (fun c depths => g.addDepths depths c) .empty

/-- Depths are given to the components in the order in which their edges point. -/
theorem depths_eq (g : Adjacency α) : g.depths = g.depthsOf g.components.reverse := by
  rw [depthsOf, List.foldr_reverse]
  rfl

/-- One component after those that its edges lead to. -/
theorem depthsOf_cons (g : Adjacency α) (c : List α) (before : List (List α)) :
    g.depthsOf (c :: before) = g.addDepths (g.depthsOf before) c := rfl

/-- All vertices of a component get the same depth, and the others keep theirs. -/
theorem depthIn_addDepths (g : Adjacency α) (depths : OrderedMap α Nat) (c : List α) (v : α) :
    depthIn (g.addDepths depths c) v = if v ∈ c then g.componentDepth depths c else depthIn depths v := by
  rw [depthIn, addDepths, OrderedMap.get?_insertAll]
  split <;> rfl

/-- **One pass computes the depths**, as each component comes after those to which its edges lead. -/
theorem layered_depthsOf {found : List (List α)} (h : Search.Finished g found)
    (hnd : found.flatten.Nodup) (hin : ∀ v ∈ found.flatten, v ∈ g.vertices) :
    Layered g.Edge found.flatten (depthIn (g.depthsOf found)) := by
  induction h with
  | nil =>
    have hnone : ∀ u : α, u ∉ ([] : List (List α)).flatten := fun _ => List.not_mem_nil
    exact ⟨fun u hu => absurd hu (hnone u), fun u hu => absurd hu (hnone u),
      fun u hu => absurd hu (hnone u)⟩
  | @component c before hne hwhole hleads hbefore ih =>
    rw [List.flatten_cons] at hnd hin ⊢
    obtain ⟨-, hndb, hdisjoint⟩ := List.nodup_append'.1 hnd
    have ih := ih hndb fun v hv => hin v (List.mem_append_right c hv)
    -- the depths before and after this component
    have hc : ∀ v ∈ c, depthIn (g.depthsOf (c :: before)) v = g.componentDepth (g.depthsOf before) c :=
      fun v hv => (depthIn_addDepths g _ c v).trans (if_pos hv)
    have hb : ∀ v ∈ before.flatten,
        depthIn (g.depthsOf (c :: before)) v = depthIn (g.depthsOf before) v :=
      fun v hv => (depthIn_addDepths g _ c v).trans (if_neg fun hvc => hdisjoint hvc hv)
    have hclosed := hbefore.closed
    refine ⟨fun u hu v hm => ?_, fun u hu v huv hm => ?_, fun u hu => ?_⟩
    -- a vertex is in this component, or whatever it reaches is in an earlier one
    · rcases List.mem_append.1 hu with huc | hub
      · rw [hc v ((hwhole u huc v).2 hm), hc u huc]
      · rw [hb v (mem_of_reaches hclosed hub hm.1), hb u hub]
        exact ih.level u hub v hm
    · rcases List.mem_append.1 hu with huc | hub
      · -- the edge leaves the component, and so the depth of its end is known
        have hvc : v ∉ c := fun hvc => hm ((hwhole u huc v).1 hvc)
        rw [hb v ((hleads u huc v huv).resolve_left hvc), hc u huc]
        exact lt_componentDepth g _ huc huv.2 hvc
      · rw [hb v (hclosed u v hub huv), hb u hub]
        exact ih.falls u hub v huv hm
    · rcases List.mem_append.1 hu with huc | hub
      · rw [hc u huc]
        obtain hzero | ⟨v, hv, w, hvw, hwc, heq⟩ := componentDepth_attained g (g.depthsOf before) c
        · exact .inl hzero
        · have hedge : g.Edge v w := ⟨hin v (List.mem_append_left _ hv), hvw⟩
          have hwb : w ∈ before.flatten := (hleads v hv w hedge).resolve_left hwc
          refine .inr ⟨v, w, (hwhole u huc v).1 hv, hedge, fun hm => hwc ((hwhole v hv w).2 hm), ?_⟩
          rw [hb w hwb]
          exact heq
      · rw [hb u hub]
        obtain hzero | ⟨v, w, hm, hvw, hne', heq⟩ := ih.attained u hub
        · exact .inl hzero
        · have hvb := mem_of_reaches hclosed hub hm.1
          refine .inr ⟨v, w, hm, hvw, hne', ?_⟩
          rw [hb w (hclosed v w hvb hvw)]
          exact heq

/-- So the depths are what the condensation says they should be. -/
theorem layered_depths (hg : g.Closed) : Layered g.Edge g.vertices (depthIn g.depths) := by
  obtain ⟨hfinished, hnd, hall⟩ := finished_components hg
  have hmem : ∀ v, v ∈ g.components.reverse.flatten ↔ v ∈ g.vertices := fun v =>
    ((List.reverse_perm _).flatten.mem_iff).trans (hall v)
  have hndr : g.components.reverse.flatten.Nodup := (List.reverse_perm _).flatten.nodup_iff.2 hnd
  obtain ⟨hlevel, hfalls, hattained⟩ := layered_depthsOf hfinished hndr fun v hv => (hmem v).1 hv
  rw [depths_eq]
  exact ⟨fun u hu => hlevel u ((hmem u).2 hu), fun u hu => hfalls u ((hmem u).2 hu),
    fun u hu => hattained u ((hmem u).2 hu)⟩

/-! ## The greatest depth -/

theorem nodup_keys_depthsOf (g : Adjacency α) (found : List (List α)) : (g.depthsOf found).keys.Nodup := by
  induction found with
  | nil => exact List.nodup_nil
  | cons c before ih =>
    rw [depthsOf_cons]
    exact OrderedMap.nodup_keys_insertAll _ c _ ih

/-- A vertex has a depth if its component has come. -/
theorem get?_depthsOf_isSome_iff (g : Adjacency α) (found : List (List α)) (v : α) :
    ((g.depthsOf found).get? v).isSome = true ↔ v ∈ found.flatten := by
  induction found with
  | nil => exact iff_of_false Bool.false_ne_true List.not_mem_nil
  | cons c before ih =>
    rw [depthsOf_cons, addDepths, OrderedMap.get?_insertAll, List.flatten_cons, List.mem_append]
    by_cases hv : v ∈ c
    · rw [if_pos hv]
      exact iff_of_true rfl (.inl hv)
    · rw [if_neg hv, ih]
      exact ⟨.inr, fun h => h.resolve_left hv⟩

/-- The depths in the table are those of the vertices. -/
theorem mem_values_depths (hg : g.Closed) (n : Nat) :
    n ∈ g.depths.values ↔ ∃ v ∈ g.vertices, depthIn g.depths v = n := by
  obtain ⟨-, -, hall⟩ := finished_components hg
  have hvertices : ∀ v, (g.depths.get? v).isSome = true ↔ v ∈ g.vertices := by
    intro v
    rw [depths_eq, get?_depthsOf_isSome_iff, ← hall v]
    exact (List.reverse_perm _).flatten.mem_iff
  have hnd : g.depths.keys.Nodup := by
    rw [depths_eq]
    exact nodup_keys_depthsOf g _
  rw [OrderedMap.mem_values_iff _ hnd]
  constructor
  · rintro ⟨v, hv⟩
    refine ⟨v, (hvertices v).1 (by rw [hv]; rfl), ?_⟩
    rw [depthIn, hv]
    rfl
  · rintro ⟨v, hv, hdepth⟩
    obtain ⟨m, hm⟩ := Option.isSome_iff_exists.1 ((hvertices v).2 hv)
    rw [depthIn, hm, Option.getD_some] at hdepth
    exact ⟨v, hdepth ▸ hm⟩

/-- **The depth of a graph is the greatest number of crossings of its walks.** -/
theorem isGreatest_depth (hg : g.Closed) (hne : g.vertices ≠ []) :
    IsGreatest {n | ∃ walk, IsWalk g.vertices g.Edge walk ∧ crossings g.Edge walk = n} g.depth := by
  have hlayered := layered_depths hg
  constructor
  · -- a vertex has a depth, so there is a greatest one
    obtain ⟨v, hv⟩ := List.exists_mem_of_ne_nil _ hne
    have hdepths : g.depths.values ≠ [] := List.ne_nil_of_mem ((mem_values_depths hg _).2 ⟨v, hv, rfl⟩)
    obtain ⟨u, hu, hdepth⟩ := (mem_values_depths hg _).1 (foldl_max_mem hdepths)
    have hin : ∀ x y, g.Edge x y → x ∈ g.vertices := fun x y hxy => hxy.1
    obtain ⟨walk, hwalk, hcross⟩ := hlayered.exists_walk hin hg g.depth hu hdepth
    exact ⟨u :: walk, hwalk, hcross⟩
  · rintro n ⟨walk, hwalk, rfl⟩
    obtain ⟨u, rest, rfl⟩ := List.exists_cons_of_ne_nil hwalk.nonempty
    have hu : u ∈ g.vertices := hwalk.inside u List.mem_cons_self
    have hvalue := (mem_values_depths hg _).2 ⟨u, hu, rfl⟩
    exact (hlayered.crossings_le rest hwalk).trans (le_foldl_max hvalue)

/-- Without vertices there are no walks, and the depth is zero. -/
theorem depth_of_vertices_eq_nil (hg : g.Closed) (h : g.vertices = []) : g.depth = 0 := by
  have hnone : g.depths.values = [] := by
    refine List.eq_nil_iff_forall_not_mem.2 fun n hn => ?_
    obtain ⟨v, hv, -⟩ := (mem_values_depths hg n).1 hn
    rw [h] at hv
    nomatch hv
  rw [depth, hnone]
  rfl

end Adjacency

/-! ## The depth of a graph -/

namespace Graph

/-- **The greatest measure** of the walks along the dependencies of a graph; zero if there are no walks. -/
def GreatestOfWalks (g : Graph) (kinds : Option (List EdgeKind)) (measure : List String → Nat)
    (d : Nat) : Prop :=
  (g.nodes = [] ∧ d = 0) ∨
    IsGreatest {n | ∃ walk, IsWalk g.ids (g.Leads kinds) walk ∧ measure walk = n} d

/-- The depth counts crossings. -/
theorem greatestOfWalks_crossings (g : Graph) (kinds : Option (List EdgeKind)) :
    g.GreatestOfWalks kinds (crossings (g.Leads kinds)) (Adjacency.ofGraph g kinds).depth := by
  have hg := Adjacency.closed_ofGraph g kinds
  have hmem := Adjacency.mem_vertices_ofGraph g kinds
  by_cases hnodes : g.nodes = []
  · refine .inl ⟨hnodes, Adjacency.depth_of_vertices_eq_nil hg ?_⟩
    refine List.eq_nil_iff_forall_not_mem.2 fun v hv => ?_
    have hv := (hmem v).1 hv
    rw [ids, hnodes] at hv
    nomatch hv
  · have hne : (Adjacency.ofGraph g kinds).vertices ≠ [] := by
      obtain ⟨node, hnode⟩ := List.exists_mem_of_ne_nil _ hnodes
      exact List.ne_nil_of_mem ((hmem node.id).2 (List.mem_map_of_mem hnode))
    have hwalks : ∀ walk, IsWalk (Adjacency.ofGraph g kinds).vertices (g.Leads kinds) walk ↔
        IsWalk g.ids (g.Leads kinds) walk := fun walk =>
      ⟨fun h => ⟨h.nonempty, fun v hv => (hmem v).1 (h.inside v hv), h.linked⟩,
        fun h => ⟨h.nonempty, fun v hv => (hmem v).2 (h.inside v hv), h.linked⟩⟩
    have hgreatest := Adjacency.isGreatest_depth hg hne
    simp only [Adjacency.edge_ofGraph, hwalks] at hgreatest
    exact .inr hgreatest

/-- Without closed walks the depth counts steps. -/
theorem greatestOfWalks_length (g : Graph) (kinds : Option (List EdgeKind))
    (hacyclic : ¬ ∃ v, TransGen (g.Leads kinds) v v) :
    g.GreatestOfWalks kinds (fun walk => (steps walk).length) (Adjacency.ofGraph g kinds).depth := by
  obtain hnil | hgreatest := greatestOfWalks_crossings g kinds
  · exact .inl hnil
  · have hset : {n | ∃ walk, IsWalk g.ids (g.Leads kinds) walk ∧ crossings (g.Leads kinds) walk = n} =
        {n | ∃ walk, IsWalk g.ids (g.Leads kinds) walk ∧ (steps walk).length = n} := by
      ext n
      refine exists_congr fun walk => and_congr_right fun hwalk => ?_
      rw [crossings_of_acyclic (fun v hv => hacyclic ⟨v, hv⟩) hwalk.linked]
    rw [hset] at hgreatest
    exact .inr hgreatest

/-- There is a group of cycles exactly if some vertex reaches itself. -/
theorem cycles_ne_nil_iff (g : Graph) (kinds : Option (List EdgeKind)) :
    g.cycles kinds ≠ [] ↔ ∃ v, TransGen (g.Leads kinds) v v := by
  rw [← Adjacency.edge_ofGraph]
  have hg := Adjacency.closed_ofGraph g kinds
  have hvs : (Adjacency.ofGraph g kinds).vertices.Nodup := Adjacency.nodup_firsts g.ids
  constructor
  · intro hne
    obtain ⟨c, hc⟩ := List.exists_mem_of_ne_nil _ hne
    obtain ⟨v, hv⟩ := List.exists_mem_of_ne_nil c (Adjacency.component_of_mem_cycles hg hvs hc).nonempty
    exact ⟨v, (Adjacency.exists_cycle_iff hg v).1 ⟨c, hc, hv⟩⟩
  · rintro ⟨v, hv⟩
    obtain ⟨c, hc, -⟩ := (Adjacency.exists_cycle_iff hg v).2 hv
    exact List.ne_nil_of_mem hc

/-- **What the depth of a graph is.**  When cycles are condensed it is the greatest number of crossings of
    a walk.  When they are refused, a graph with a closed walk fails with its cycles; any other graph has
    the length of its longest walk as its depth. -/
theorem maxDepth_greatestOfWalks (g : Graph) (kinds : Option (List EdgeKind)) :
    (∃ d, g.maxDepth .condense kinds = .ok d ∧
        g.GreatestOfWalks kinds (crossings (g.Leads kinds)) d) ∧
      ((∃ v, TransGen (g.Leads kinds) v v) → g.maxDepth .refuse kinds = .error (.cyclic (g.cycles kinds))) ∧
      ((¬ ∃ v, TransGen (g.Leads kinds) v v) → ∃ d, g.maxDepth .refuse kinds = .ok d ∧
        g.GreatestOfWalks kinds (fun walk => (steps walk).length) d) := by
  refine ⟨⟨_, rfl, greatestOfWalks_crossings g kinds⟩, fun hcyclic => ?_, fun hacyclic => ?_⟩
  · have hfound := (cycles_ne_nil_iff g kinds).2 hcyclic
    simp only [maxDepth, if_pos (And.intro trivial hfound)]
  · have hnone : ¬ g.cycles kinds ≠ [] := fun hne => hacyclic ((cycles_ne_nil_iff g kinds).1 hne)
    refine ⟨_, ?_, greatestOfWalks_length g kinds hacyclic⟩
    simp only [maxDepth, if_neg fun h => hnone (And.right h)]

end Graph

end CodeAtlas
