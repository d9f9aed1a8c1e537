import CodeAtlas.Proofs.Graph.Search
/-!
  The components that the search finds.

  A run of the search ends with an empty path, and then the stack is empty too: every vertex that was
  entered is in a finished component.  The searches from all vertices, one after the other, enter all of
  them.  So the components are exactly the strongly connected components, each once, and each comes after
  all those to which its edges lead (`finished_components`).

  What a single step keeps is not asked here again: the invariant of the search is carried through a run by its step
  lemma, and through the runs from all vertices by induction on the vertices that are left (`invariant_from`).  A
  vertex that was entered in an earlier run is passed over, and this is no loss, as it is in a component by then.
-/
namespace CodeAtlas

namespace Search

variable {α : Type} [DecidableEq α] {g : Adjacency α}

/-- **A run** ends with an empty path, keeps the invariant and forgets no vertex. -/
theorem invariant_run (hg : g.Closed) (s : Search α) (h : Invariant g s) :
    Invariant g (run g s) ∧ (run g s).work = [] ∧
      ∀ x, s.entered x = true → (run g s).entered x = true := by
  induction s using run.induct g with
  | case1 s hwork =>
    rw [run, dif_pos hwork]
    exact ⟨h, hwork, fun _ hx => hx⟩
  | case2 s hwork ih =>
    rw [run, dif_neg hwork]
    obtain ⟨hinv, hend, hkeep⟩ := ih (invariant_step hg h)
    exact ⟨hinv, hend, fun x hx => hkeep x (entered_step g s x hx)⟩

/-- The search from one vertex after the other. -/
def searchFrom (g : Adjacency α) (roots : List α) (s : Search α) : Search α :=
  roots.foldl (fun s root => if s.entered root then s else (s.enter g root).run g) s

/-- Searching from some vertices enters all of them. -/
theorem invariant_from (hg : g.Closed) (roots : List α) (hroots : ∀ r ∈ roots, r ∈ g.vertices)
    (s : Search α) (h : Invariant g s) (hwork : s.work = []) :
    Invariant g (searchFrom g roots s) ∧ (searchFrom g roots s).work = [] ∧
      ∀ x, s.entered x = true ∨ x ∈ roots → (searchFrom g roots s).entered x = true := by
  induction roots generalizing s with
  | nil =>
    refine ⟨h, hwork, ?_⟩
    rintro x (hx | hx)
    · exact hx
    · nomatch hx
  | cons root roots ih =>
    have hrest : ∀ r ∈ roots, r ∈ g.vertices := fun r hr => hroots r (List.mem_cons_of_mem _ hr)
    -- the state after the first of the vertices
    obtain ⟨t, ht, hinv, hend, hkeep⟩ : ∃ t, searchFrom g (root :: roots) s = searchFrom g roots t ∧
        Invariant g t ∧ t.work = [] ∧ ∀ x, s.entered x = true ∨ x = root → t.entered x = true := by
      by_cases hentered : s.entered root = true
      · refine ⟨s, ?_, h, hwork, ?_⟩
        · rw [searchFrom, List.foldl_cons, if_pos hentered]; rfl
        · rintro x (hx | rfl)
          · exact hx
          · exact hentered
      · have hroot := hroots root List.mem_cons_self
        have hstart := invariant_enter_root h hwork hroot (Bool.eq_false_iff.2 hentered)
        obtain ⟨hinv, hend, hkeep⟩ := invariant_run hg _ hstart
        refine ⟨run g (s.enter g root), ?_, hinv, hend, fun x hx => hkeep x ?_⟩
        · rw [searchFrom, List.foldl_cons, if_neg hentered]; rfl
        · rw [entered_enter s root x s.work]
          exact hx.symm.imp Eq.symm id
    obtain ⟨hinv', hend', hkeep'⟩ := ih hrest t hinv hend
    rw [ht]
    refine ⟨hinv', hend', ?_⟩
    rintro x (hx | hx)
    · exact hkeep' x (.inl (hkeep x (.inl hx)))
    · rcases List.mem_cons.1 hx with rfl | hx
      · exact hkeep' x (.inl (hkeep x (.inr rfl)))
      · exact hkeep' x (.inr hx)

end Search

namespace Adjacency

variable {α : Type} [DecidableEq α] {g : Adjacency α}

/-- **The components of a graph**: every vertex is in exactly one place of exactly one of them, each is a
    whole strongly connected component, and each comes after all those to which its edges lead. -/
theorem finished_components (hg : g.Closed) :
    Search.Finished g g.components.reverse ∧ g.components.flatten.Nodup ∧
      ∀ v, v ∈ g.components.flatten ↔ v ∈ g.vertices := by
  have hroots : ∀ r ∈ g.vertices, r ∈ g.vertices := fun _ hr => hr
  obtain ⟨hinv, hend, hall⟩ :=
    Search.invariant_from hg g.vertices hroots Search.start (Search.invariant_start g) rfl
  have hcomponents : g.components = (Search.searchFrom g g.vertices Search.start).found.reverse := rfl
  have hstack : (Search.searchFrom g g.vertices Search.start).stack = [] := by
    have hframed := hinv.framed
    rw [hend] at hframed
    generalize (Search.searchFrom g g.vertices Search.start).stack = stack at hframed
    cases hframed
    rfl
  have hperm : g.components.flatten.Perm (Search.searchFrom g g.vertices Search.start).done := by
    rw [hcomponents]
    exact (List.reverse_perm _).flatten
  have hnd := hinv.nodup
  rw [hstack, List.nil_append] at hnd
  refine ⟨?_, hperm.nodup_iff.2 hnd, fun v => ?_⟩
  · rw [hcomponents, List.reverse_reverse]
    exact hinv.finished
  · rw [hperm.mem_iff]
    constructor
    · intro hv
      exact hinv.inside v ((hinv.entered_iff v).2 (.inr hv))
    · intro hv
      have hmem := (hinv.entered_iff v).1 (hall v (.inr hv))
      rw [hstack] at hmem
      exact hmem.resolve_left List.not_mem_nil

end Adjacency

end CodeAtlas
