import CodeAtlas.Session.Shared
import Mathlib.Data.List.Induction
/-!
  A session never hands out metrics of another graph.

  The metrics are computed outside of the lock, so they may be late: the graph may have been replaced once or
  more often, put back, or taken away for ever in the meantime.  `Consistent` says what clients can rely on
  nevertheless, after any moves of any number of them:

    1. the session holds the graph that was put in last, and none once it is closed;
    2. metrics that it keeps are those of the graph that it holds;
    3. a reading answers with the metrics of the graph that was held when it began, whatever happened since,
       or with nothing if there was none;
    4. a closed session refuses every graph and stays as it is.

  The first part is read off the moves (`current`), not off the state.  It carries the second one: a late
  value is kept only where its graph is the one with the stamp that is held, and a stamp has one graph.
-/
namespace CodeAtlas

namespace Session

@[simp] theorem graph_endMetrics (s : Session) (g : Stamped Graph) (m : Stamped Metrics) :
    (s.endMetrics g m).graph = s.graph := by
  unfold endMetrics
  split <;> rfl

@[simp] theorem closed_endMetrics (s : Session) (g : Stamped Graph) (m : Stamped Metrics) :
    (s.endMetrics g m).closed = s.closed := by
  unfold endMetrics
  split <;> rfl

@[simp] theorem policy_endMetrics (s : Session) (g : Stamped Graph) (m : Stamped Metrics) :
    (s.endMetrics g m).policy = s.policy := by
  unfold endMetrics
  split <;> rfl

/-- What is kept was there before, or it has been computed from the graph that is held. -/
theorem metrics_endMetrics {s : Session} {g : Stamped Graph} {m kept : Stamped Metrics}
    (h : (s.endMetrics g m).metrics = some kept) :
    s.metrics = some kept ∨ kept = m ∧ s.graph.map (·.stamp) = some g.stamp := by
  unfold endMetrics at h
  split at h
  · next hheld => exact .inr ⟨(Option.some.inj h).symm, hheld⟩
  · exact .inl h

/-- What the first section of a reading finds. -/
theorem beginMetrics_cases (s : Session) :
    (s.graph = none ∧ s.beginMetrics = .absent) ∨
      ∃ g, s.graph = some g ∧
        ((∃ m, s.metrics = some m ∧ s.beginMetrics = .known m) ∨
          (s.metrics = none ∧ s.beginMetrics = .pending g)) := by
  cases hgraph : s.graph with
  | none => exact .inl ⟨rfl, by simp [beginMetrics, hgraph]⟩
  | some g =>
    refine .inr ⟨g, rfl, ?_⟩
    cases hmetrics : s.metrics with
    | none => exact .inr ⟨rfl, by simp [beginMetrics, hgraph, hmetrics]⟩
    | some m => exact .inl ⟨m, rfl, by simp [beginMetrics, hgraph, hmetrics]⟩

/-- A session takes a graph exactly as long as it is open. -/
theorem replace_cases (s : Session) (g : Stamped Graph) :
    (s.closed = true ∧ s.replace g = .error .sessionClosed) ∨
      (s.closed = false ∧ s.replace g = .ok { s with graph := some g, metrics := none }) := by
  cases hclosed : s.closed with
  | true => exact .inl ⟨rfl, by simp [replace, hclosed]⟩
  | false => exact .inr ⟨rfl, by simp [replace, hclosed]⟩

end Session

namespace Session.Shared

variable (graphs : Nat → Graph)

/-! ## One move -/

/-- What a move can do to the session and to the readings. -/
inductive Effect (s : Shared) : Move → Shared → Prop where
  | nothing (m : Move) (hkeeps : m ≠ .close) (hrefused : ∀ n, m = .replace n → s.session.closed = true) :
      Effect s m s
  | count (hknown : ∀ g, s.session.beginMetrics ≠ .pending g) :
      Effect s .ask { s with begun := s.begun + 1 }
  | begin (g : Stamped Graph) (hheld : s.session.graph = some g) :
      Effect s .ask { s with begun := s.begun + 1, pending := s.pending.insert s.begun g }
  | keep (reading : Nat) (g : Stamped Graph) (m : Stamped Metrics)
      (hseen : s.pending.get? reading = some g) (hcomputed : s.computed reading g = .ok m) :
      Effect s (.settle reading)
        { s with session := s.session.endMetrics g m, pending := s.pending.erase reading }
  | fail (reading : Nat) : Effect s (.settle reading) { s with pending := s.pending.erase reading }
  | replace (n : Nat) (hopen : s.session.closed = false) :
      Effect s (.replace n)
        { s with session := { s.session with graph := some (stamped graphs n), metrics := none } }
  | close : Effect s .close { s with session := s.session.close }

/-- There is one constructor for each thing that can happen, so later proofs go through these and never open a move. -/
theorem effect_step (s : Shared) (m : Move) : Effect graphs s m (s.step graphs m) := by
  cases m with
  | ask =>
    obtain ⟨-, hbegin⟩ | ⟨g, hheld, ⟨m, -, hbegin⟩ | ⟨-, hbegin⟩⟩ := s.session.beginMetrics_cases
    · simp only [step, hbegin]
      exact .count (by simp [hbegin])
    · simp only [step, hbegin]
      exact .count (by simp [hbegin])
    · simp only [step, hbegin]
      exact .begin g hheld
  -- the value may be late, and the graph may be another one by now
  | settle reading =>
    cases hseen : s.pending.get? reading with
    | none =>
      simp only [step, hseen]
      exact .nothing _ (by simp) (by simp)
    | some g =>
      cases hcomputed : s.computed reading g with
      | error f =>
        simp only [step, hseen, hcomputed]
        exact .fail reading
      | ok m =>
        simp only [step, hseen, hcomputed]
        exact .keep reading g m hseen hcomputed
  | look => exact .nothing _ (by simp) (by simp)
  | replace n =>
    obtain ⟨hclosed, hreplace⟩ | ⟨hopen, hreplace⟩ := s.session.replace_cases (stamped graphs n)
    · simp only [step, hreplace]
      exact .nothing _ (by simp) fun _ _ => hclosed
    · simp only [step, hreplace]
      exact .replace n hopen
  | close => exact .close

/-! ## The graph that is held -/

/-- The stamp of the graph that some moves leave: the last one that was put in, and none after closing. -/
def current (initial : Option Nat) (moves : List Move) : Option Nat :=
  if .close ∈ moves then none else (moves.filterMap Move.brings?).getLast?.or initial

/-- Nothing is left after closing, whatever comes behind it. -/
theorem current_of_close {moves : List Move} (h : .close ∈ moves) (initial : Option Nat) :
    current initial moves = none := if_pos h

/-- A last graph counts, unless the session is closed by then. -/
theorem current_concat (initial : Option Nat) (moves : List Move) (m : Move) :
    current initial (moves ++ [m]) =
      if .close ∈ moves ∨ m = .close then none else m.brings?.or (current initial moves) := by
  by_cases hclose : .close ∈ moves
  · simp [current, hclose]
  · cases m with
    | replace n => simp [current, hclose, Move.brings?]
    | close => simp [current]
    | ask => simp [current, hclose, Move.brings?]
    | settle reading => simp [current, hclose, Move.brings?]
    | look => simp [current, hclose, Move.brings?]

/-- What the session is, as far as it can be read off the moves. -/
structure Holds (initial : Option Nat) (policy : CyclePolicy) (moves : List Move) (s : Shared) : Prop where
  graph_eq : s.session.graph = (current initial moves).map (stamped graphs)
  closed_iff : s.session.closed = true ↔ .close ∈ moves
  policy_eq : s.session.policy = policy

/-- One move keeps this.  Only two of the moves have to do with it: a graph that is taken, and the end. -/
theorem Effect.holds {initial : Option Nat} {policy : CyclePolicy} {moves : List Move} {s s' : Shared}
    {m : Move} (heffect : Effect graphs s m s') (h : Holds graphs initial policy moves s) :
    Holds graphs initial policy (moves ++ [m]) s' := by
  obtain ⟨hgraph, hclosed, hpolicy⟩ := h
  -- a move that is neither a graph nor the end changes nothing of this
  have hquiet : m.brings? = none → m ≠ .close →
      current initial (moves ++ [m]) = current initial moves ∧ (.close ∈ moves ++ [m] ↔ .close ∈ moves) := by
    intro hbrings hclose
    refine ⟨?_, by simp [Ne.symm hclose]⟩
    rw [current_concat, hbrings, Option.none_or]
    split
    · next h => rw [current_of_close (h.resolve_right hclose)]
    · rfl
  cases heffect with
  | nothing m hkeeps hrefused =>
    have hcurrent : current initial (moves ++ [m]) = current initial moves := by
      cases hbrings : m.brings? with
      | none => exact (hquiet hbrings hkeeps).1
      | some n =>
        have hmove : m = .replace n := by
          cases m <;> simp_all [Move.brings?]
        have hclose := hclosed.1 (hrefused n hmove)
        rw [current_of_close hclose, current_of_close (List.mem_append_left _ hclose)]
    exact ⟨hcurrent ▸ hgraph, by simp [hclosed, Ne.symm hkeeps], hpolicy⟩
  | count =>
    obtain ⟨hcurrent, hclose⟩ := hquiet rfl Move.noConfusion
    exact ⟨hcurrent ▸ hgraph, hclosed.trans hclose.symm, hpolicy⟩
  | begin =>
    obtain ⟨hcurrent, hclose⟩ := hquiet rfl Move.noConfusion
    exact ⟨hcurrent ▸ hgraph, hclosed.trans hclose.symm, hpolicy⟩
  | keep reading g computed =>
    obtain ⟨hcurrent, hclose⟩ := hquiet rfl Move.noConfusion
    exact ⟨by simp [hgraph, hcurrent], by simp [hclosed], by simp [hpolicy]⟩
  | fail =>
    obtain ⟨hcurrent, hclose⟩ := hquiet rfl Move.noConfusion
    exact ⟨hcurrent ▸ hgraph, hclosed.trans hclose.symm, hpolicy⟩
  | replace n hopen =>
    have hclose : .close ∉ moves := by simpa [hopen] using hclosed
    exact ⟨by simp [current_concat, hclose, Move.brings?], by simp [hclosed], hpolicy⟩
  | close => exact ⟨by simp [Session.close, current], by simp [Session.close], hpolicy⟩

/-- So the state can be read off the moves. -/
theorem holds_run (initial : Option Nat) (policy : CyclePolicy) (moves : List Move) :
    Holds graphs initial policy moves ((start graphs initial policy).run graphs moves) := by
  induction moves using List.reverseRecOn with
  | nil => exact ⟨rfl, iff_of_false Bool.false_ne_true List.not_mem_nil, rfl⟩
  | append_singleton moves m ih =>
    rw [run_concat]
    exact (effect_step graphs _ m).holds graphs ih

/-! ## Kept metrics -/

/-- What is kept or waited for belongs to its graph. -/
structure Faithful (s : Shared) : Prop where
  kept : ∀ m, s.session.metrics = some m →
    ∃ g, s.session.graph = some g ∧ g.value.metrics s.session.policy none = .ok m.value
  seen : ∀ reading g, s.pending.get? reading = some g → g = stamped graphs g.stamp
  numbered : ∀ reading g, s.pending.get? reading = some g → reading < s.begun

/-- Metrics have the stamp of their reading and the policy of the session. -/
theorem computed_eq_ok_iff {s : Shared} {reading : Nat} {g : Stamped Graph} {m : Stamped Metrics} :
    s.computed reading g = .ok m ↔
      m.stamp = reading ∧ g.value.metrics s.session.policy none = .ok m.value := by
  rw [computed, Fault.map_eq_ok_iff]
  constructor
  · rintro ⟨value, hvalue, rfl⟩
    exact ⟨rfl, hvalue⟩
  · rintro ⟨rfl, hvalue⟩
    exact ⟨m.value, hvalue, rfl⟩

/-- A late value is the one danger: it is kept only if the graph that is held has the stamp of its reading, and by
    then this is its graph. -/
theorem Effect.faithful {s s' : Shared} {m : Move} (heffect : Effect graphs s m s')
    (hheld : ∀ g, s.session.graph = some g → g = stamped graphs g.stamp) (h : Faithful graphs s) :
    Faithful graphs s' := by
  obtain ⟨hkept, hseen, hnumbered⟩ := h
  -- a reading that has ended is not waited for any more, and nothing else changes for the others
  have hrest : ∀ ended reading g, (s.pending.erase ended).get? reading = some g →
      s.pending.get? reading = some g := by
    intro ended reading g hg
    rw [OrderedMap.get?_erase] at hg
    split at hg
    · cases hg
    · exact hg
  cases heffect with
  | nothing => exact ⟨hkept, hseen, hnumbered⟩
  | count => exact ⟨hkept, hseen, fun reading g hg => Nat.lt_succ_of_lt (hnumbered reading g hg)⟩
  | begin held hg =>
    refine ⟨hkept, fun reading g hpending => ?_, fun reading g hpending => ?_⟩
    · rw [OrderedMap.get?_insert] at hpending
      split at hpending
      · exact hheld g (hpending ▸ hg)
      · exact hseen reading g hpending
    · rw [OrderedMap.get?_insert] at hpending
      split at hpending
      · next hreading => exact hreading ▸ Nat.lt_succ_self _
      · exact Nat.lt_succ_of_lt (hnumbered reading g hpending)
  | keep ended seen computed hpending hcomputed =>
    refine ⟨fun kept hmetrics => ?_, fun reading g hg => hseen reading g (hrest ended reading g hg),
      fun reading g hg => hnumbered reading g (hrest ended reading g hg)⟩
    rw [graph_endMetrics, policy_endMetrics]
    rcases metrics_endMetrics hmetrics with hbefore | ⟨rfl, hstamp⟩
    · exact hkept kept hbefore
    · -- the graph that is held now has the stamp of the one that was seen, so it is the same graph
      obtain ⟨held, hgraph, hsame⟩ := Option.map_eq_some_iff.1 hstamp
      have hequal : held = seen := by
        rw [hheld held hgraph, hseen ended seen hpending, hsame]
      exact ⟨held, hgraph, hequal ▸ (computed_eq_ok_iff.1 hcomputed).2⟩
  | fail ended =>
    exact ⟨hkept, fun reading g hg => hseen reading g (hrest ended reading g hg),
      fun reading g hg => hnumbered reading g (hrest ended reading g hg)⟩
  | replace n hopen => exact ⟨fun m hm => (by cases hm), hseen, hnumbered⟩
  | close => exact ⟨fun m hm => (by cases hm), hseen, hnumbered⟩

/-- So kept metrics are always those of the graph that is held. -/
theorem faithful_run (initial : Option Nat) (policy : CyclePolicy) (moves : List Move) :
    Faithful graphs ((start graphs initial policy).run graphs moves) := by
  induction moves using List.reverseRecOn with
  | nil => exact ⟨fun m hm => (nomatch hm), fun reading g hg => (nomatch hg), fun reading g hg => (nomatch hg)⟩
  | append_singleton moves m ih =>
    rw [run_concat]
    refine (effect_step graphs _ m).faithful graphs (fun g hg => ?_) ih
    rw [(holds_run graphs initial policy moves).graph_eq] at hg
    obtain ⟨n, -, rfl⟩ := Option.map_eq_some_iff.1 hg
    rfl

/-! ## Readings -/

/-- A reading waits until it hands something in, with the graph that it has seen. -/
theorem waits_step {s : Shared} {reading : Nat} {g : Stamped Graph} (hfaithful : Faithful graphs s)
    (hpending : s.pending.get? reading = some g) {m : Move} (hm : m ≠ .settle reading) :
    (s.step graphs m).pending.get? reading = some g := by
  have heffect := effect_step graphs s m
  generalize s.step graphs m = s' at heffect
  cases heffect with
  | nothing => exact hpending
  | count => exact hpending
  | begin =>
    have hother : s.begun ≠ reading := Nat.ne_of_gt (hfaithful.numbered reading g hpending)
    rw [OrderedMap.get?_insert, if_neg hother, hpending]
  | keep ended =>
    have hother : ended ≠ reading := by rintro rfl; exact hm rfl
    rw [OrderedMap.get?_erase, if_neg hother, hpending]
  | fail ended =>
    have hother : ended ≠ reading := by rintro rfl; exact hm rfl
    rw [OrderedMap.get?_erase, if_neg hother, hpending]
  | replace => exact hpending
  | close => exact hpending

/-- Moves of others do not change what a reading has begun with. -/
theorem waits_run {initial : Option Nat} {policy : CyclePolicy} {before between : List Move} {reading : Nat}
    {g : Stamped Graph}
    (hpending : ((start graphs initial policy).run graphs before).pending.get? reading = some g)
    (hbetween : .settle reading ∉ between) :
    ((start graphs initial policy).run graphs (before ++ between)).pending.get? reading = some g := by
  induction between using List.reverseRecOn with
  | nil => rwa [List.append_nil]
  | append_singleton between m ih =>
    rw [List.mem_append, List.mem_singleton, not_or] at hbetween
    rw [← List.append_assoc, run_concat]
    exact waits_step graphs (faithful_run graphs initial policy _) (ih hbetween.1) (Ne.symm hbetween.2)

/-- A reading that has seen a graph answers with the metrics of that graph, whatever comes in between. -/
theorem answer_run_settle (initial : Option Nat) (policy : CyclePolicy) {before between : List Move} {n : Nat}
    (hseen : ((start graphs initial policy).run graphs before).session.beginMetrics =
      .pending (stamped graphs n))
    (hbetween : .settle ((start graphs initial policy).run graphs before).begun ∉ between) :
    let s := (start graphs initial policy).run graphs before
    ((s.step graphs .ask).run graphs between).answer graphs (.settle s.begun) =
      Answer.ofComputed (((graphs n).metrics policy none).map fun m => ⟨s.begun, m⟩) := by
  intro s
  have hmoves : (s.step graphs .ask).run graphs between =
      (start graphs initial policy).run graphs (before ++ [.ask] ++ between) := by
    rw [run_append, run_concat]
  have hasked :
      ((start graphs initial policy).run graphs (before ++ [.ask])).pending.get? s.begun =
        some (stamped graphs n) := by
    simp [run_concat, step, hseen, OrderedMap.get?_insert, s]
  have hwaits := waits_run graphs hasked hbetween
  have hpolicy := (holds_run graphs initial policy (before ++ [.ask] ++ between)).policy_eq
  rw [← hmoves] at hwaits hpolicy
  simp only [answer, hwaits, computed, hpolicy]
  rfl

/-- The same in terms of the moves: what is kept are the metrics of the current graph. -/
theorem kept_run (initial : Option Nat) (policy : CyclePolicy) (moves : List Move) {m : Stamped Metrics}
    (hm : ((start graphs initial policy).run graphs moves).session.metrics = some m) :
    ∃ n, current initial moves = some n ∧ (graphs n).metrics policy none = .ok m.value := by
  have hholds := holds_run graphs initial policy moves
  obtain ⟨g, hgraph, hvalue⟩ := (faithful_run graphs initial policy moves).kept m hm
  rw [hholds.graph_eq] at hgraph
  obtain ⟨n, hn, rfl⟩ := Option.map_eq_some_iff.1 hgraph
  exact ⟨n, hn, hholds.policy_eq ▸ hvalue⟩

/-- What clients can rely on after some moves. -/
structure Consistent (initial : Option Nat) (policy : CyclePolicy) (moves : List Move) (s : Shared) : Prop where
  /-- The session holds the graph that was put in last. -/
  held : s.session.graph = (current initial moves).map (stamped graphs)
  /-- Kept metrics are those of the graph that is held now. -/
  kept : ∀ m, s.session.metrics = some m →
    ∃ n, current initial moves = some n ∧ (graphs n).metrics policy none = .ok m.value
  /-- A reading that begins without a graph finds nothing. -/
  absent : current initial moves = none → s.answer graphs .ask = .metrics none
  /-- A reading that begins with a graph answers with the metrics of that graph: at once, or when it hands them
      in after any other moves. -/
  answered : ∀ n, current initial moves = some n →
    (∃ m, s.answer graphs .ask = .metrics (some m) ∧ (graphs n).metrics policy none = .ok m.value) ∨
      (s.answer graphs .ask = .silence ∧ ∀ between, .settle s.begun ∉ between →
        ((s.step graphs .ask).run graphs between).answer graphs (.settle s.begun) =
          Answer.ofComputed (((graphs n).metrics policy none).map fun m => ⟨s.begun, m⟩))
  /-- A session that has been closed is empty and takes nothing any more. -/
  closed : .close ∈ moves → s.session.graph = none ∧ s.session.metrics = none ∧
    ∀ n, s.answer graphs (.replace n) = .refused .sessionClosed ∧ s.step graphs (.replace n) = s

/-- **A session is consistent**, whatever its clients do: their moves may be interleaved in any way, and readings may
    end long after the graph was replaced or the session closed. -/
theorem consistent_run_moves (initial : Option Nat) (policy : CyclePolicy) (moves : List Move) :
    Consistent graphs initial policy moves ((start graphs initial policy).run graphs moves) := by
  have hholds := holds_run graphs initial policy moves
  refine ⟨hholds.graph_eq, fun m => kept_run graphs initial policy moves, fun hnone => ?_, fun n hn => ?_,
    fun hclose => ?_⟩
  · have hgraph := hholds.graph_eq
    rw [hnone, Option.map_none] at hgraph
    simp [answer, beginMetrics, hgraph]
  · have hgraph := hholds.graph_eq
    rw [hn, Option.map_some] at hgraph
    obtain ⟨hnone, -⟩ | ⟨g, hg, ⟨m, hm, hbegin⟩ | ⟨-, hbegin⟩⟩ := beginMetrics_cases _
    · rw [hgraph] at hnone
      cases hnone
    · obtain ⟨n', hn', hvalue⟩ := kept_run graphs initial policy moves hm
      obtain rfl : n = n' := Option.some.inj (hn.symm.trans hn')
      exact .inl ⟨m, by simp [answer, hbegin], hvalue⟩
    · obtain rfl : stamped graphs n = g := Option.some.inj (hgraph.symm.trans hg)
      exact .inr ⟨by simp [answer, hbegin], fun between => answer_run_settle graphs initial policy hbegin⟩
  · have hcurrent := current_of_close hclose initial
    refine ⟨by rw [hholds.graph_eq, hcurrent, Option.map_none], ?_, fun n => ?_⟩
    · refine Option.eq_none_iff_forall_ne_some.2 fun m hm => ?_
      obtain ⟨n, hn, -⟩ := kept_run graphs initial policy moves hm
      rw [hcurrent] at hn
      cases hn
    · have hclosed := hholds.closed_iff.2 hclose
      simp [answer, step, replace, hclosed]

end Session.Shared

end CodeAtlas
