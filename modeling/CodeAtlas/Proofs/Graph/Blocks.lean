import CodeAtlas.Graph.Components
import CodeAtlas.Proofs.Graph.Walks
/-!
  The stack of the search for strongly connected components, in blocks.

  The stack is cut by the vertices of the path: the block of a vertex `v` of the path is `v` itself and
  `above` it the vertices that were entered from it and are fully explored.  Three things hold of a block:

    * `v` reaches all of its block, and whatever is in the block reaches the path again;
    * an edge that the search has looked at is *settled*: it leads into a finished component, or to a vertex
      of the stack whose number is not below the low number of the block.  So the low number bounds where
      the edges of the block lead;
    * the low number is attained: it is the number of a vertex at `v` or below that `v` reaches.

  `Framed` says this of all blocks at once.  It speaks of the state only through numbers and settled edges,
  and that is why it survives every step that leaves those alone (`Framed.transfer`).  The other lemmas are
  what the steps of the search do to a block: they look at one more successor (`Framed.look`), lower its
  low number (`Framed.lower`), and merge it into the block below (`Framed.absorb`).
-/
namespace CodeAtlas

namespace Search

open Relation

variable {α : Type} [DecidableEq α] {g : Adjacency α} {s s' : Search α}

/-! ## Numbers -/

/-- The number under which a vertex was entered. -/
def number (s : Search α) (v : α) : Nat := (s.index.get? v).getD 0

/-- The low number of a vertex. -/
def lowNumber (s : Search α) (v : α) : Nat := (s.low.get? v).getD 0

/-- The vertices of the finished components. -/
def done (s : Search α) : List α := s.found.flatten

/-- Numbers fall from the top of the stack downwards. -/
def Falling (s : Search α) (stack : List α) : Prop := stack.Pairwise fun a b => s.number b < s.number a

/-- Below a vertex of the stack there are smaller numbers. -/
theorem Falling.below {above below : List α} {v y : α} (h : s.Falling (above ++ v :: below))
    (hy : y ∈ below) : s.number y < s.number v :=
  (List.pairwise_cons.1 (List.pairwise_append.1 h).2.1).1 y hy

theorem Falling.above {above below : List α} {v y : α} (h : s.Falling (above ++ v :: below))
    (hy : y ∈ above) : s.number v < s.number y :=
  (List.pairwise_append.1 h).2.2 y hy v List.mem_cons_self

/-- What has at least the number of `v` stands in the block of `v`. -/
theorem Falling.mem_block {above below : List α} {v y : α} (h : s.Falling (above ++ v :: below))
    (hy : y ∈ above ++ v :: below) (hn : s.number v ≤ s.number y) : y ∈ above ++ [v] := by
  rcases List.mem_append.1 hy with ha | hb
  · exact List.mem_append_left _ ha
  · rcases List.mem_cons.1 hb with rfl | hb
    · exact List.mem_append_right _ List.mem_cons_self
    · have := h.below hb; omega

/-- What has at most the number of `v` stands at `v` or below. -/
theorem Falling.mem_rest {above below : List α} {v y : α} (h : s.Falling (above ++ v :: below))
    (hy : y ∈ above ++ v :: below) (hn : s.number y ≤ s.number v) : y ∈ v :: below := by
  rcases List.mem_append.1 hy with ha | hb
  · have := h.above ha; omega
  · exact hb

/-! ## Edges that are settled -/

/-- An edge to `y` that was looked at: `y` is finished, or on the stack and not numbered below `low`. -/
def Settled (s : Search α) (low : Nat) (y : α) : Prop := y ∈ s.done ∨ y ∈ s.stack ∧ low ≤ s.number y

theorem Settled.mono {low low' : Nat} {y : α} (h : s.Settled low y) (hle : low' ≤ low) :
    s.Settled low' y := by
  rcases h with hd | ⟨hs, hn⟩
  · exact .inl hd
  · exact .inr ⟨hs, by omega⟩

/-! ## Blocks and frames -/

/-- What holds of the block of a vertex `v` of the path.  `path` are the vertices of the path before `v`,
    and `pending` the successors of `v` that are still to be looked at. -/
structure Block (g : Adjacency α) (s : Search α) (path above : List α) (v : α)
    (below pending : List α) : Prop where
  parent : ∀ p ∈ path.head?, g.Edge p v
  low : ∃ u ∈ v :: below, s.number u = s.lowNumber v ∧ ReflTransGen g.Edge v u
  looked : ∃ before, g.successors v = before ++ pending ∧ ∀ y ∈ before, s.Settled (s.lowNumber v) y
  explored : ∀ x ∈ above, ∀ y ∈ g.successors x, s.Settled (s.lowNumber v) y
  reached : ∀ x ∈ above, ReflTransGen g.Edge v x
  returns : ∀ x ∈ above, ∃ q ∈ v :: path, ReflTransGen g.Edge x q

/-- The low number of a block is the number of a vertex at `v` or below, so it is at most that of `v`. -/
theorem Block.low_le {path above below pending : List α} {v : α}
    (h : Block g s path above v below pending) (hf : s.Falling (above ++ v :: below)) :
    s.lowNumber v ≤ s.number v := by
  obtain ⟨u, hu, hnu, _⟩ := h.low
  rcases List.mem_cons.1 hu with rfl | hb
  · omega
  · have := hf.below hb; omega

/-- When `v` has no successors left, all edges of its block are settled. -/
theorem Block.settled {path above below : List α} {v : α} (h : Block g s path above v below []) :
    ∀ x ∈ above ++ [v], ∀ y ∈ g.successors x, s.Settled (s.lowNumber v) y := by
  intro x hx y hy
  rcases List.mem_append.1 hx with ha | hv
  · exact h.explored x ha y hy
  · obtain ⟨before, hsucc, hbefore⟩ := h.looked
    rw [List.mem_singleton.1 hv, hsucc, List.append_nil] at hy
    exact hbefore y hy

/-- Everything in a block can be reached from `v`. -/
theorem Block.reached_all {path above below pending : List α} {v : α}
    (h : Block g s path above v below pending) : ∀ x ∈ above ++ [v], ReflTransGen g.Edge v x := by
  intro x hx
  rcases List.mem_append.1 hx with ha | hv
  · exact h.reached x ha
  · rw [List.mem_singleton.1 hv]

/-- The stack is cut into the blocks of the vertices of the path. -/
inductive Framed (g : Adjacency α) (s : Search α) : List (α × List α) → List α → Prop where
  | nil : Framed g s [] []
  | frame {v : α} {pending : List α} {rest : List (α × List α)} {above below : List α} :
      Block g s (rest.map (·.1)) above v below pending → Framed g s rest below →
      Framed g s ((v, pending) :: rest) (above ++ v :: below)

/-- A block of a single vertex goes on top. -/
theorem Framed.push {v : α} {pending : List α} {rest : List (α × List α)} {below : List α}
    (hblock : Block g s (rest.map (·.1)) [] v below pending) (hrest : Framed g s rest below) :
    Framed g s ((v, pending) :: rest) (v :: below) :=
  .frame hblock hrest

/-- The stack falls into the block of the vertex at work and the blocks below it. -/
theorem Framed.cut {v : α} {pending : List α} {rest : List (α × List α)} {stack : List α}
    (h : Framed g s ((v, pending) :: rest) stack) :
    ∃ above below, stack = above ++ v :: below ∧
      Block g s (rest.map (·.1)) above v below pending ∧ Framed g s rest below := by
  cases h with
  | frame hblock hrest => exact ⟨_, _, rfl, hblock, hrest⟩

/-- Everything on the stack reaches the path. -/
theorem Framed.returns {work : List (α × List α)} {stack : List α} (h : Framed g s work stack) :
    ∀ x ∈ stack, ∃ q ∈ work.map (·.1), ReflTransGen g.Edge x q := by
  induction h with
  | nil => intro x hx; nomatch hx
  | @frame v pending rest above below hblock _ ih =>
    intro x hx
    rcases List.mem_append.1 hx with ha | hx
    · exact hblock.returns x ha
    · rcases List.mem_cons.1 hx with rfl | hb
      · exact ⟨x, List.mem_cons_self, .refl⟩
      · obtain ⟨q, hq, hr⟩ := ih x hb
        exact ⟨q, List.mem_cons_of_mem _ hq, hr⟩

/-- The path stands on the stack. -/
theorem Framed.path {work : List (α × List α)} {stack : List α} (h : Framed g s work stack) :
    ∀ q ∈ work.map (·.1), q ∈ stack := by
  induction h with
  | nil => intro q hq; nomatch hq
  | @frame v pending rest above below _ _ ih =>
    intro q hq
    rcases List.mem_cons.1 hq with rfl | hq
    · exact List.mem_append_right _ List.mem_cons_self
    · exact List.mem_append_right _ (List.mem_cons_of_mem _ (ih q hq))

/-- Frames depend on the numbers of the stack and on the settled edges alone. -/
theorem Framed.transfer {work : List (α × List α)} {stack : List α} (h : Framed g s work stack)
    (hn : ∀ x ∈ stack, s'.number x = s.number x) (hl : ∀ x ∈ stack, s'.lowNumber x = s.lowNumber x)
    (hs : ∀ low y, s.Settled low y → s'.Settled low y) : Framed g s' work stack := by
  induction h with
  | nil => exact .nil
  | @frame v pending rest above below hblock _ ih =>
    have hmem : ∀ x ∈ v :: below, x ∈ above ++ v :: below := fun x hx => List.mem_append_right _ hx
    have hlv : s'.lowNumber v = s.lowNumber v := hl v (hmem v List.mem_cons_self)
    refine .frame ?_ (ih (fun x hx => hn x (hmem x (List.mem_cons_of_mem _ hx)))
      fun x hx => hl x (hmem x (List.mem_cons_of_mem _ hx)))
    obtain ⟨u, hu, hnu, hru⟩ := hblock.low
    obtain ⟨before, hsucc, hbefore⟩ := hblock.looked
    exact
      { parent := hblock.parent
        low := ⟨u, hu, by rw [hn u (hmem u hu), hlv, hnu], hru⟩
        looked := ⟨before, hsucc, fun y hy => hlv ▸ hs _ y (hbefore y hy)⟩
        explored := fun x hx y hy => hlv ▸ hs _ y (hblock.explored x hx y hy)
        reached := hblock.reached
        returns := hblock.returns }

/-- Only the number of one vertex is lowered. -/
theorem lowNumber_lower (s : Search α) (v x : α) (n : Nat) :
    (s.lower v n).lowNumber x = if v = x then min (s.lowNumber v) n else s.lowNumber x := by
  unfold lowNumber lower
  rw [OrderedMap.get?_insert]
  split <;> rfl

/-- Having looked at one more successor, which is settled. -/
theorem Framed.look {v w : α} {ws : List α} {rest : List (α × List α)} {stack : List α}
    (h : Framed g s ((v, w :: ws) :: rest) stack) (hw : s.Settled (s.lowNumber v) w) :
    Framed g s ((v, ws) :: rest) stack := by
  obtain ⟨above, below, rfl, hblock, hrest⟩ := h.cut
  refine .frame { hblock with looked := ?_ } hrest
  obtain ⟨before, hsucc, hbefore⟩ := hblock.looked
  refine ⟨before ++ [w], by rw [hsucc, List.append_assoc]; rfl, fun y hy => ?_⟩
  rcases List.mem_append.1 hy with hy | hy
  · exact hbefore y hy
  · rw [List.mem_singleton.1 hy]; exact hw

/-- **Lowering the low number** to the number of a vertex within reach keeps the frames: below `v` nothing
    changes, and the new low number is again attained. -/
theorem Framed.lower {v w : α} {pending : List α} {rest : List (α × List α)} {stack : List α}
    (h : Framed g s ((v, pending) :: rest) stack) (hf : s.Falling stack) (hw : w ∈ stack)
    (hr : ReflTransGen g.Edge v w) :
    Framed g (s.lower v (s.number w)) ((v, pending) :: rest) stack := by
  obtain ⟨above, below, rfl, hblock, hrest⟩ := h.cut
  have hlow : (s.lower v (s.number w)).lowNumber v = min (s.lowNumber v) (s.number w) := by
    rw [lowNumber_lower, if_pos rfl]
  have hle : (s.lower v (s.number w)).lowNumber v ≤ s.lowNumber v := by omega
  refine .frame ?_ (hrest.transfer (fun _ _ => rfl) (fun x hx => ?_) fun _ _ hy => hy)
  · obtain ⟨before, hsucc, hbefore⟩ := hblock.looked
    refine { hblock with low := ?_, looked := ?_, explored := ?_ }
    · rcases Nat.le_total (s.lowNumber v) (s.number w) with hlw | hwl
      · obtain ⟨u, hu, hnu, hru⟩ := hblock.low
        refine ⟨u, hu, ?_, hru⟩
        show s.number u = _
        omega
      · have hlv := hblock.low_le hf
        refine ⟨w, hf.mem_rest hw (by omega), ?_, hr⟩
        show s.number w = _
        omega
    · exact ⟨before, hsucc, fun y hy => (hbefore y hy).mono hle⟩
    · exact fun x hx y hy => (hblock.explored x hx y hy).mono hle
  · have hne : v ≠ x := by
      rintro rfl
      have := hf.below hx
      omega
    rw [lowNumber_lower, if_neg hne]

/-- More vertices above the block of the last vertex of the path. -/
theorem Framed.absorb {p : α} {pending : List α} {rest : List (α × List α)} {stack : List α}
    (h : Framed g s ((p, pending) :: rest) stack) (more : List α)
    (hexplored : ∀ x ∈ more, ∀ y ∈ g.successors x, s.Settled (s.lowNumber p) y)
    (hreached : ∀ x ∈ more, ReflTransGen g.Edge p x)
    (hreturns : ∀ x ∈ more, ∃ q ∈ p :: rest.map (·.1), ReflTransGen g.Edge x q) :
    Framed g s ((p, pending) :: rest) (more ++ stack) := by
  obtain ⟨above, below, rfl, hblock, hrest⟩ := h.cut
  rw [← List.append_assoc]
  refine .frame { hblock with explored := ?_, reached := ?_, returns := ?_ } hrest
  · intro x hx
    exact (List.mem_append.1 hx).elim (hexplored x) (hblock.explored x)
  · intro x hx
    exact (List.mem_append.1 hx).elim (hreached x) (hblock.reached x)
  · intro x hx
    exact (List.mem_append.1 hx).elim (hreturns x) (hblock.returns x)

end Search

end CodeAtlas
