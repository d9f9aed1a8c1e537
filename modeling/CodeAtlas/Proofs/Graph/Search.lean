import CodeAtlas.Proofs.Graph.Blocks
import Mathlib.Data.List.Nodup
/-!
  The invariant of the search for strongly connected components.

  1. **What is finished** (`Finished`) is never looked into again.  Each finished component is a whole one,
     and its edges lead to itself or to components that were finished before: this is the reverse
     topological order.

  2. **The crux** (`Block.component`).  When `v` has no successors left and its low number is its own
     number, no edge leads from its block to the rest of the stack.  Then whatever can be reached from the
     block is in it or finished.  Everything in the block reaches the path, and the only vertex of the path
     within reach is `v`: so everything in the block reaches `v`, and the block is a component.

  3. **The invariant** puts the frames of the stack, the finished components and the order of the numbers
     together.  Entering a vertex, looking at a successor, and going back from a vertex, with or without a
     finished component, each have a lemma of their own; `invariant_step` only tells them apart.
-/
namespace CodeAtlas

namespace Search

open Relation

variable {α : Type} [DecidableEq α] {g : Adjacency α} {s : Search α}

/-! ## Finished components -/

/-- Finished components, the last one first. -/
inductive Finished (g : Adjacency α) : List (List α) → Prop where
  | nil : Finished g []
  | component {c : List α} {before : List (List α)} :
      c ≠ [] → (∀ u ∈ c, ∀ v, v ∈ c ↔ Mutual g.Edge u v) →
      (∀ u ∈ c, ∀ v, g.Edge u v → v ∈ c ∨ v ∈ before.flatten) → Finished g before →
      Finished g (c :: before)

omit [DecidableEq α] in
/-- No edge leads out of the finished components. -/
theorem Finished.closed {found : List (List α)} (h : Finished g found) :
    ∀ x y, x ∈ found.flatten → g.Edge x y → y ∈ found.flatten := by
  induction h with
  | nil => intro x y hx; nomatch hx
  | @component c before _ _ hleads _ ih =>
    intro x y hx hxy
    rw [List.flatten_cons] at hx ⊢
    rcases List.mem_append.1 hx with hx | hx
    · rcases hleads x hx y hxy with hc | hb
      · exact List.mem_append_left _ hc
      · exact List.mem_append_right _ hb
    · exact List.mem_append_right _ (ih x y hx hxy)

omit [DecidableEq α] in
/-- Each of the finished components is a whole one. -/
theorem Finished.whole {found : List (List α)} (h : Finished g found) :
    ∀ c ∈ found, c ≠ [] ∧ ∀ u ∈ c, ∀ v, v ∈ c ↔ Mutual g.Edge u v := by
  induction h with
  | nil => intro c hc; nomatch hc
  | component hne hscc _ _ ih =>
    intro c hc
    rcases List.mem_cons.1 hc with rfl | hc
    · exact ⟨hne, hscc⟩
    · exact ih c hc

/-- An edge of a block whose low number is its own number leads into the block or to what is finished, once
    `v` has no successors left. -/
theorem Block.leads {path above below : List α} {v : α} (h : Block g s path above v below [])
    (hstack : s.stack = above ++ v :: below) (hf : s.Falling s.stack)
    (hlow : s.lowNumber v = s.number v) :
    ∀ u ∈ above ++ [v], ∀ w, g.Edge u w → w ∈ above ++ [v] ∨ w ∈ s.done := by
  intro u hu w huw
  rcases h.settled u hu w huw.2 with hdone | ⟨hw, hn⟩
  · exact .inr hdone
  · rw [hstack] at hf hw
    exact .inl (hf.mem_block hw (by omega))

/-- If whatever the block reaches is in it or finished, then everything in it reaches `v`: the rest of the
    path is below the block, and so out of reach. -/
theorem Block.reaches_top {path above below : List α} {v : α} (h : Block g s path above v below [])
    (hstack : s.stack = above ++ v :: below) (hf : s.Falling s.stack)
    (hapart : ∀ x ∈ s.stack, x ∉ s.done) (hpath : ∀ q ∈ path, q ∈ below)
    (hwithin : ∀ u ∈ above ++ [v], ∀ w, ReflTransGen g.Edge u w → w ∈ above ++ [v] ∨ w ∈ s.done) :
    ∀ x ∈ above ++ [v], ReflTransGen g.Edge x v := by
  rw [hstack] at hf
  intro x hx
  rcases List.mem_append.1 hx with ha | hv
  · obtain ⟨q, hq, hr⟩ := h.returns x ha
    rcases List.mem_cons.1 hq with rfl | hq
    · exact hr
    · have hqb := hpath q hq
      have hqs : q ∈ s.stack := by rw [hstack]; simp [hqb]
      rcases hwithin x hx q hr with hqv | hqd
      · rcases List.mem_append.1 hqv with hqa | hqv
        · have := hf.above hqa
          have := hf.below hqb
          omega
        · rw [← List.mem_singleton.1 hqv]; exact hr
      · exact absurd hqd (hapart q hqs)
  · rw [List.mem_singleton.1 hv]

/-- **A block whose low number is its own number is a component**, once `v` has no successors left. -/
theorem Block.component {path above below : List α} {v : α} (h : Block g s path above v below [])
    (hstack : s.stack = above ++ v :: below) (hf : s.Falling s.stack) (hnd : (s.stack ++ s.done).Nodup)
    (hpath : ∀ q ∈ path, q ∈ below) (hdone : ∀ x y, x ∈ s.done → g.Edge x y → y ∈ s.done)
    (hlow : s.lowNumber v = s.number v) :
    (∀ u ∈ above ++ [v], ∀ w, w ∈ above ++ [v] ↔ Mutual g.Edge u w) ∧
      (∀ u ∈ above ++ [v], ∀ w, g.Edge u w → w ∈ above ++ [v] ∨ w ∈ s.done) := by
  have hblock : ∀ x ∈ above ++ [v], x ∈ s.stack := by
    intro x hx
    rw [hstack, List.append_cons]
    exact List.mem_append_left _ hx
  have hapart : ∀ x ∈ s.stack, x ∉ s.done := fun x hx hd => List.disjoint_of_nodup_append hnd hx hd
  have hleads := h.leads hstack hf hlow
  have hwithin : ∀ u ∈ above ++ [v], ∀ w, ReflTransGen g.Edge u w → w ∈ above ++ [v] ∨ w ∈ s.done := by
    intro u hu w
    refine mem_of_reaches (S := fun x => x ∈ above ++ [v] ∨ x ∈ s.done) ?_ (.inl hu)
    rintro x y (hx | hx) hxy
    · exact hleads x hx y hxy
    · exact .inr (hdone x y hx hxy)
  have hfrom := h.reached_all
  have hto := h.reaches_top hstack hf hapart hpath hwithin
  refine ⟨fun u hu w => ⟨fun hw => ?_, fun hm => ?_⟩, hleads⟩
  · exact ⟨(hto u hu).trans (hfrom w hw), (hto w hw).trans (hfrom u hu)⟩
  · rcases hwithin u hu w hm.1 with hw | hw
    · exact hw
    · have hud : u ∈ s.done := mem_of_reaches hdone hw hm.2
      exact absurd hud (hapart u (hblock u hu))

/-! ## The invariant -/

/-- What holds of the search at all times. -/
structure Invariant (g : Adjacency α) (s : Search α) : Prop where
  inside : ∀ v, s.entered v = true → v ∈ g.vertices
  entered_iff : ∀ v, s.entered v = true ↔ v ∈ s.stack ∨ v ∈ s.done
  low_known : ∀ v, s.entered v = true → s.low.contains v = true
  fresh : ∀ v, s.entered v = true → s.number v < s.index.entries.length
  nodup : (s.stack ++ s.done).Nodup
  falling : s.Falling s.stack
  framed : Framed g s s.work s.stack
  finished : Finished g s.found

theorem invariant_start (g : Adjacency α) : Invariant g (start : Search α) where
  inside := by intro v hv; nomatch hv
  entered_iff := by
    intro v
    constructor
    · intro hv; nomatch hv
    · rintro (hv | hv) <;> nomatch hv
  low_known := by intro v hv; nomatch hv
  fresh := by intro v hv; nomatch hv
  nodup := List.nodup_nil
  falling := List.Pairwise.nil
  framed := .nil
  finished := .nil

/-- A change of the low numbers and of the path keeps the invariant when it keeps the frames. -/
theorem Invariant.rework (h : Invariant g s) {low : OrderedMap α Nat} {work : List (α × List α)}
    (hk : ∀ v, s.low.contains v = true → low.contains v = true)
    (hframed : Framed g { s with low := low, work := work } work s.stack) :
    Invariant g { s with low := low, work := work } where
  inside := h.inside
  entered_iff := h.entered_iff
  low_known := fun v hv => hk v (h.low_known v hv)
  fresh := h.fresh
  nodup := h.nodup
  falling := h.falling
  framed := hframed
  finished := h.finished

/-- What is not entered yet is neither on the stack nor finished. -/
theorem Invariant.ne_of_not_entered (h : Invariant g s) {w x : α} (hn : s.entered w = false)
    (hx : x ∈ s.stack ∨ x ∈ s.done) : w ≠ x := by
  rintro rfl
  have := (h.entered_iff w).2 hx
  simp [hn] at this

/-- What is known of the last vertex of the path and of its next successor. -/
theorem Invariant.next_edge (h : Invariant g s) {v w : α} {ws : List α} {rest : List (α × List α)}
    (hwork : s.work = (v, w :: ws) :: rest) : g.Edge v w := by
  have hframed := h.framed
  rw [hwork] at hframed
  have hv : v ∈ s.stack := hframed.path v List.mem_cons_self
  obtain ⟨above, below, _, hblock, _⟩ := hframed.cut
  obtain ⟨before, hsucc, _⟩ := hblock.looked
  refine ⟨h.inside v ((h.entered_iff v).2 (.inl hv)), ?_⟩
  rw [hsucc]
  exact List.mem_append_right _ List.mem_cons_self

/-! ## Looking at a successor -/

theorem contains_low_lower (s : Search α) (v x : α) (n : Nat) (hx : s.low.contains x = true) :
    (s.lower v n).low.contains x = true := by
  simp [lower, entered_insert, hx]

/-- The next successor is finished: nothing changes. -/
theorem invariant_pass (h : Invariant g s) {v w : α} {ws : List α} {rest : List (α × List α)}
    (hwork : s.work = (v, w :: ws) :: rest) (hw : w ∈ s.done) :
    Invariant g { s with work := (v, ws) :: rest } := by
  have hframed := h.framed
  rw [hwork] at hframed
  refine h.rework (fun _ hv => hv) ?_
  exact (hframed.look (.inl hw)).transfer (fun _ _ => rfl) (fun _ _ => rfl) fun _ _ hy => hy

/-- The next successor is on the stack: the low number gets to know of it. -/
theorem invariant_lower (h : Invariant g s) {v w : α} {ws : List α} {rest : List (α × List α)}
    (hwork : s.work = (v, w :: ws) :: rest) (hw : w ∈ s.stack) :
    Invariant g ({ s with work := (v, ws) :: rest }.lower v (s.number w)) := by
  have hframed := h.framed
  rw [hwork] at hframed
  have hlowered := hframed.lower h.falling hw (.single (h.next_edge hwork))
  have hle : (s.lower v (s.number w)).lowNumber v ≤ s.number w := by
    rw [lowNumber_lower, if_pos rfl]
    omega
  refine h.rework (contains_low_lower s v · _) ?_
  exact (hlowered.look (.inr ⟨hw, hle⟩)).transfer (fun _ _ => rfl) (fun _ _ => rfl) fun _ _ hy => hy

/-! ## Entering a vertex -/

/-- A vertex that is entered gets the next number. -/
theorem number_enter (s : Search α) (w x : α) (work : List (α × List α)) :
    ({ s with work := work }.enter g w).number x =
      if w = x then s.index.entries.length else s.number x := by
  unfold number enter
  rw [OrderedMap.get?_insert]
  split <;> rfl

/-- And the same number as its low one. -/
theorem lowNumber_enter (s : Search α) (w x : α) (work : List (α × List α)) :
    ({ s with work := work }.enter g w).lowNumber x =
      if w = x then s.index.entries.length else s.lowNumber x := by
  unfold lowNumber enter
  rw [OrderedMap.get?_insert]
  split <;> rfl

/-- It is entered then, and no other one is. -/
theorem entered_enter (s : Search α) (w x : α) (work : List (α × List α)) :
    ({ s with work := work }.enter g w).entered x = true ↔ w = x ∨ s.entered x = true := by
  simp [entered, enter, entered_insert]

/-- Entering a vertex does not touch the frames below. -/
theorem Invariant.framed_enter (h : Invariant g s) {w : α} (hn : s.entered w = false)
    (work : List (α × List α)) :
    Framed g ({ s with work := work }.enter g w) s.work s.stack := by
  have hne : ∀ x ∈ s.stack, w ≠ x := fun x hx => h.ne_of_not_entered hn (.inl hx)
  refine h.framed.transfer (fun x hx => ?_) (fun x hx => ?_) ?_
  · rw [number_enter, if_neg (hne x hx)]
  · rw [lowNumber_enter, if_neg (hne x hx)]
  · rintro low y (hd | ⟨hy, hle⟩)
    · exact .inl hd
    · refine .inr ⟨List.mem_cons_of_mem _ hy, ?_⟩
      rw [number_enter, if_neg (hne y hy)]
      exact hle

/-- A vertex that was entered just now is a block by itself. -/
theorem block_enter (s : Search α) (w : α) (work : List (α × List α)) (path : List α)
    (hparent : ∀ p ∈ path.head?, g.Edge p w) :
    Block g ({ s with work := work }.enter g w) path [] w s.stack (g.successors w) where
  parent := hparent
  low := ⟨w, List.mem_cons_self, by rw [number_enter, lowNumber_enter, if_pos rfl, if_pos rfl], .refl⟩
  looked := ⟨[], rfl, fun y hy => nomatch hy⟩
  explored := fun x hx => nomatch hx
  reached := fun x hx => nomatch hx
  returns := fun x hx => nomatch hx

/-- **A new vertex** gets a number above all others, so the numbers fall on. -/
theorem invariant_enter (h : Invariant g s) {w : α} (hw : w ∈ g.vertices) (hn : s.entered w = false)
    (work : List (α × List α))
    (hframed : Framed g ({ s with work := work }.enter g w) ((w, g.successors w) :: work) (w :: s.stack)) :
    Invariant g ({ s with work := work }.enter g w) where
  inside := by
    intro v hv
    rcases (entered_enter s w v work).1 hv with rfl | hv
    · exact hw
    · exact h.inside v hv
  entered_iff := by
    intro v
    rw [entered_enter, h.entered_iff]
    show w = v ∨ v ∈ s.stack ∨ v ∈ s.done ↔ v ∈ w :: s.stack ∨ v ∈ s.done
    rw [List.mem_cons, or_assoc, eq_comm]
  low_known := by
    intro v hv
    show (s.low.insert w _).contains v = true
    rw [entered_insert]
    rcases (entered_enter s w v work).1 hv with rfl | hv
    · simp
    · simp [h.low_known v hv]
  fresh := by
    intro v hv
    have hlength : ({ s with work := work }.enter g w).index.entries.length
        = s.index.entries.length + 1 := by
      have hnone : OrderedMap.lookup w s.index.entries = none := by
        rw [← Option.not_isSome_iff_eq_none]
        simpa [entered, OrderedMap.contains, OrderedMap.get?] using hn
      show (OrderedMap.put w _ s.index.entries).length = _
      rw [OrderedMap.put_of_lookup_eq_none _ _ _ hnone, List.length_append]
      rfl
    rw [number_enter, hlength]
    rcases (entered_enter s w v work).1 hv with rfl | hv
    · rw [if_pos rfl]; omega
    · have := h.fresh v hv
      split <;> omega
  nodup := by
    refine List.nodup_cons.2 ⟨fun hmem => ?_, h.nodup⟩
    exact h.ne_of_not_entered hn (List.mem_append.1 hmem) rfl
  falling := by
    have hne : ∀ x ∈ s.stack, w ≠ x := fun x hx => h.ne_of_not_entered hn (.inl hx)
    refine List.pairwise_cons.2 ⟨fun y hy => ?_, h.falling.imp_of_mem fun {a b} ha hb hlt => ?_⟩
    · rw [number_enter, number_enter, if_pos rfl, if_neg (hne y hy)]
      exact h.fresh y ((h.entered_iff y).2 (.inl hy))
    · rw [number_enter, number_enter, if_neg (hne a ha), if_neg (hne b hb)]
      exact hlt
  framed := hframed
  finished := h.finished

/-- Entering a vertex to begin with. -/
theorem invariant_enter_root (h : Invariant g s) (hwork : s.work = []) {w : α} (hw : w ∈ g.vertices)
    (hn : s.entered w = false) : Invariant g (s.enter g w) := by
  have hframed := h.framed_enter hn s.work
  refine invariant_enter h hw hn s.work (.push (block_enter s w s.work _ ?_) hframed)
  intro p hp
  rw [hwork] at hp
  nomatch hp

/-- Entering the next successor. -/
theorem invariant_enter_child (h : Invariant g s) {v w : α} {ws : List α} {rest : List (α × List α)}
    (hwork : s.work = (v, w :: ws) :: rest) (hw : w ∈ g.vertices) (hn : s.entered w = false) :
    Invariant g ({ s with work := (v, ws) :: rest }.enter g w) := by
  have hframed := h.framed_enter hn ((v, ws) :: rest)
  rw [hwork] at hframed
  have hv : v ∈ s.stack := hframed.path v List.mem_cons_self
  -- the low number of `v` is below the new number, so the edge to `w` is settled
  have hsettled : ({ s with work := (v, ws) :: rest }.enter g w).Settled
      (({ s with work := (v, ws) :: rest }.enter g w).lowNumber v) w := by
    refine .inr ⟨List.mem_cons_self, ?_⟩
    have hne := h.ne_of_not_entered hn (.inl hv)
    have hlow : s.lowNumber v ≤ s.number v := by
      have hold := h.framed
      rw [hwork] at hold
      obtain ⟨above, below, hstack, hblock, _⟩ := hold.cut
      exact hblock.low_le (hstack ▸ h.falling)
    have hfresh := h.fresh v ((h.entered_iff v).2 (.inl hv))
    rw [lowNumber_enter, number_enter, if_pos rfl, if_neg hne]
    omega
  refine invariant_enter h hw hn _
    (.push (block_enter s w _ _ ?_) (hframed.look hsettled))
  intro p hp
  cases hp
  exact h.next_edge hwork

/-! ## Going back from a vertex -/

omit [DecidableEq α] in
/-- What is on the stack goes with the component, or stays below it. -/
theorem mem_pop {above below : List α} {v x : α} (hx : x ∈ above ++ v :: below) :
    x ∈ above ++ [v] ∨ x ∈ below := by
  rw [List.append_cons] at hx
  exact List.mem_append.1 hx

/-- Popping ends at the first occurrence of the vertex, and there is only one. -/
theorem popThrough_append {v : α} {above below : List α} (hv : v ∉ above) :
    popThrough v (above ++ v :: below) = (above ++ [v], below) := by
  induction above with
  | nil => simp [popThrough]
  | cons a rest ih =>
    have ha : a ≠ v := fun he => hv (he ▸ List.mem_cons_self)
    have hrest : v ∉ rest := fun hr => hv (List.mem_cons_of_mem _ hr)
    simp [popThrough, ha, ih hrest]

/-- The program compares entries of two maps; both are there, so this is comparing numbers. -/
theorem get?_low_eq_iff {v : α} (hi : s.entered v = true) (hl : s.low.contains v = true) :
    s.low.get? v = s.index.get? v ↔ s.lowNumber v = s.number v := by
  obtain ⟨n, hn⟩ := Option.isSome_iff_exists.1 hi
  obtain ⟨m, hm⟩ := Option.isSome_iff_exists.1 hl
  rw [lowNumber, number, hn, hm]
  simp

/-- **A finished component** goes off the stack; the frames below it do not notice, because the low numbers
    there are the same. -/
theorem invariant_close (h : Invariant g s) {v : α} {rest : List (α × List α)}
    (hwork : s.work = (v, []) :: rest) (heq : s.lowNumber v = s.number v) (low : OrderedMap α Nat)
    (hk : ∀ x, s.low.contains x = true → low.contains x = true)
    (hlow : ∀ x ∈ s.stack, (low.get? x).getD 0 = s.lowNumber x) :
    Invariant g (({ s with low := low, work := rest } : Search α).close v) := by
  have hframed := h.framed
  rw [hwork] at hframed
  obtain ⟨above, below, hstack, hblock, hrest⟩ := hframed.cut
  have hf := h.falling
  have hnd := h.nodup
  have hv : v ∈ s.stack := by rw [hstack]; simp
  have hpopped : popThrough v s.stack = (above ++ [v], below) := by
    rw [hstack] at hf ⊢
    refine popThrough_append fun hva => ?_
    have := hf.above hva
    omega
  have hclose : ({ s with low := low, work := rest } : Search α).close v =
      { s with low := low, work := rest, stack := below, found := (above ++ [v]) :: s.found } := by
    have hi : s.entered v = true := (h.entered_iff v).2 (.inl hv)
    have hget : low.get? v = s.index.get? v := by
      refine (get?_low_eq_iff (s := { s with low := low }) hi (hk v (h.low_known v hi))).2 ?_
      show (low.get? v).getD 0 = s.number v
      rw [hlow v hv, heq]
    simp only [close, hget, if_true, hpopped]
  have hcomponent := hblock.component hstack hf hnd hrest.path h.finished.closed heq
  rw [hclose]
  have hperm : ((above ++ [v]) ++ below ++ s.done).Perm (below ++ ((above ++ [v]) ++ s.done)) := by
    rw [List.append_assoc]
    exact List.perm_append_comm_assoc _ _ _
  rw [hstack, List.append_cons] at hnd
  refine
    { inside := h.inside
      entered_iff := fun x => ?_
      low_known := fun x hx => hk x (h.low_known x hx)
      fresh := h.fresh
      nodup := hperm.nodup_iff.1 hnd
      falling := ?_
      framed := ?_
      finished := .component (by simp) hcomponent.1 hcomponent.2 h.finished }
  · show s.entered x = true ↔ x ∈ below ∨ x ∈ (above ++ [v]) ++ s.done
    rw [h.entered_iff, hstack, List.append_cons, ← List.mem_append, hperm.mem_iff, List.mem_append]
  · rw [hstack] at hf
    exact (List.pairwise_cons.1 (List.pairwise_append.1 hf).2.1).2
  · refine hrest.transfer (fun _ _ => rfl) (fun x hx => hlow x (by rw [hstack]; simp [hx])) ?_
    rintro n y (hd | ⟨hy, hn⟩)
    · exact .inl (List.mem_append_right _ hd)
    · rw [hstack] at hy
      rcases mem_pop hy with hy | hy
      · exact .inl (List.mem_append_left _ hy)
      · exact .inr ⟨hy, hn⟩

/-- **A block that is no component** leads further down, so it joins the block below. -/
theorem invariant_merge (h : Invariant g s) {v p : α} {ws : List α} {rest : List (α × List α)}
    (hwork : s.work = (v, []) :: (p, ws) :: rest) (hne : s.lowNumber v ≠ s.number v) :
    Invariant g ({ s with work := (p, ws) :: rest }.lower p (s.lowNumber v)) := by
  have hframed := h.framed
  rw [hwork] at hframed
  obtain ⟨above, below, hstack, hblock, hrest⟩ := hframed.cut
  have hf := h.falling
  rw [hstack] at hf
  have hbelow : s.Falling below := (List.pairwise_cons.1 (List.pairwise_append.1 hf).2.1).2
  -- the low number of `v` is attained further down
  obtain ⟨u, hu, hnu, hvu⟩ := hblock.low
  have hub : u ∈ below := by
    rcases List.mem_cons.1 hu with rfl | hub
    · exact absurd hnu.symm hne
    · exact hub
  have hpv : g.Edge p v := hblock.parent p rfl
  have hlowered := hrest.lower hbelow hub (hvu.head hpv)
  rw [hnu] at hlowered
  have hle : (s.lower p (s.lowNumber v)).lowNumber p ≤ s.lowNumber v := by
    rw [lowNumber_lower, if_pos rfl]
    omega
  obtain ⟨q, hq, huq⟩ := hrest.returns u hub
  have hjoined : Framed g (s.lower p (s.lowNumber v)) ((p, ws) :: rest) ((above ++ [v]) ++ below) := by
    refine hlowered.absorb (above ++ [v]) ?_ ?_ ?_
    · intro x hx y hy
      have hsettled : (s.lower p (s.lowNumber v)).Settled (s.lowNumber v) y := hblock.settled x hx y hy
      exact hsettled.mono hle
    · intro x hx
      exact (hblock.reached_all x hx).head hpv
    · intro x hx
      rcases List.mem_append.1 hx with ha | hxv
      · obtain ⟨r, hr, hxr⟩ := hblock.returns x ha
        rcases List.mem_cons.1 hr with rfl | hr
        · exact ⟨q, hq, hxr.trans (hvu.trans huq)⟩
        · exact ⟨r, hr, hxr⟩
      · rw [List.mem_singleton.1 hxv]; exact ⟨q, hq, hvu.trans huq⟩
  rw [← List.append_cons, ← hstack] at hjoined
  refine h.rework (contains_low_lower s p · _) ?_
  exact hjoined.transfer (fun _ _ => rfl) (fun _ _ => rfl) fun _ _ hy => hy

/-- Going back from a vertex all of whose successors were looked at. -/
theorem invariant_leave (h : Invariant g s) {v : α} {rest : List (α × List α)}
    (hwork : s.work = (v, []) :: rest) : Invariant g (s.leave v rest) := by
  have hframed := h.framed
  rw [hwork] at hframed
  obtain ⟨above, below, hstack, hblock, hrest⟩ := hframed.cut
  have hf := h.falling
  rw [hstack] at hf
  have hv : v ∈ s.stack := by rw [hstack]; simp
  have hi : s.entered v = true := (h.entered_iff v).2 (.inl hv)
  cases rest with
  | nil =>
    -- there is nothing below, so the low number can only be the own one
    have heq : s.lowNumber v = s.number v := by
      obtain ⟨u, hu, hnu, _⟩ := hblock.low
      cases hrest
      rw [← hnu, List.mem_singleton.1 hu]
    exact invariant_close h hwork heq s.low (fun _ hx => hx) fun _ _ => rfl
  | cons e rest =>
    obtain ⟨p, ws⟩ := e
    have hp : p ∈ below := hrest.path p List.mem_cons_self
    have hpv : s.number p < s.number v := hf.below hp
    show Invariant g (({ s with work := (p, ws) :: rest }.lower p (s.lowNumber v)).close v)
    by_cases heq : s.lowNumber v = s.number v
    · refine invariant_close h hwork heq _ (contains_low_lower s p · _) fun x _ => ?_
      show (s.lower p (s.lowNumber v)).lowNumber x = s.lowNumber x
      rw [lowNumber_lower]
      split
      · next hpx =>
        -- the low number of the parent is smaller anyhow
        obtain ⟨a, b, hb, hparent, _⟩ := hrest.cut
        have hlow := hparent.low_le (hb ▸ (List.pairwise_cons.1 (List.pairwise_append.1 hf).2.1).2)
        rw [← hpx]
        omega
      · rfl
    · have hmerged := invariant_merge h hwork heq
      have hne : ¬ ({ s with work := (p, ws) :: rest }.lower p (s.lowNumber v)).low.get? v
          = ({ s with work := (p, ws) :: rest }.lower p (s.lowNumber v)).index.get? v := by
        have hpne : p ≠ v := by
          rintro rfl
          omega
        have hlow : (s.lower p (s.lowNumber v)).lowNumber v = s.lowNumber v := by
          rw [lowNumber_lower, if_neg hpne]
        have hiff := get?_low_eq_iff (s := s.lower p (s.lowNumber v)) hi
          (contains_low_lower s p v _ (h.low_known v hi))
        rw [hlow] at hiff
        exact fun hget => heq (hiff.1 hget)
      rw [close, if_neg hne]
      exact hmerged

theorem index_leave (s : Search α) (v : α) (rest : List (α × List α)) :
    (s.leave v rest).index = s.index := by
  have hclose : ∀ t : Search α, (t.close v).index = t.index := by
    intro t
    unfold close
    split <;> rfl
  unfold leave
  rw [hclose]
  cases rest <;> rfl

/-! ## Steps -/

/-- **Each step keeps the invariant.** -/
theorem invariant_step (hg : g.Closed) (h : Invariant g s) : Invariant g (step g s) := by
  unfold step
  split
  · exact h
  · next v rest hwork => exact invariant_leave h hwork
  · next v w ws rest hwork =>
    have hw : w ∈ g.vertices := hg v w (h.next_edge hwork)
    show Invariant g (if s.entered w then
        if s.stack.contains w then { s with work := (v, ws) :: rest }.lower v (s.number w)
        else { s with work := (v, ws) :: rest }
      else if g.vertices.contains w then { s with work := (v, ws) :: rest }.enter g w
      else { s with work := (v, ws) :: rest })
    by_cases hentered : s.entered w = true
    · rw [if_pos hentered]
      by_cases hstack : w ∈ s.stack
      · rw [if_pos (List.contains_iff_mem.2 hstack)]
        exact invariant_lower h hwork hstack
      · rw [if_neg (fun hc => hstack (List.contains_iff_mem.1 hc))]
        exact invariant_pass h hwork (((h.entered_iff w).1 hentered).resolve_left hstack)
    · rw [if_neg hentered, if_pos (List.contains_iff_mem.2 hw)]
      exact invariant_enter_child h hwork hw (Bool.eq_false_iff.2 hentered)

/-- No step forgets a vertex that was entered. -/
theorem entered_step (g : Adjacency α) (s : Search α) (x : α) (hx : s.entered x = true) :
    (step g s).entered x = true := by
  unfold step
  split
  · exact hx
  · next v rest _ =>
    unfold entered
    rw [index_leave]
    exact hx
  · next v w ws rest _ =>
    dsimp only
    split
    · split <;> exact hx
    · split
      · exact (entered_enter s w x _).2 (.inr hx)
      · exact hx

end Search

end CodeAtlas
