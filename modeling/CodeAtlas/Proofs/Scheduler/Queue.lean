import CodeAtlas.Scheduler.Threads
import Mathlib.Data.List.Induction
/-!
  When a queued run is forgotten.

  A queued run is taken up by the thread that is in the run before it.  So a scheduler without a run in flight
  should have none queued (`Sound`).  It does not always:

    1. An interruption leaves the loop past the section that hands over.  A run that was queued by then stays
       queued.
    2. After that section, or an interruption, the scheduler still looks as if a run were in flight.  Whoever
       takes up pending work now queues a run behind one that is over.

  In both cases the thread of the runs is *leaving* while a run is queued (`Stranded`).  Only closing helps,
  as it drops the queued run.  `stranded_step_iff` says what one section does to this, `stranded_run_iff` what
  any number of them do, and `sound_run_iff` says that there is no other way to forget a run.
-/
namespace CodeAtlas

namespace Scheduler

variable {ρ ε : Type}

/-- No run is queued unless one is in flight. -/
def Sound (s : Scheduler ρ ε) : Prop := s.running = false → s.pending = false

instance (s : Scheduler ρ ε) : Decidable s.Sound := inferInstanceAs (Decidable (_ → _))

namespace Threads

variable {t : Threads ρ ε}

/-- A run is queued that nobody is going to take up. -/
def Stranded (t : Threads ρ ε) : Prop := t.stage = .leaving ∧ t.shared.pending = true

/-- Whether a move abandons a run: a queued one by an interruption, or one that it queues itself although the
    loop of the runs has been left. -/
def abandons (t : Threads ρ ε) : Move ρ ε → Bool
  | .finish .interrupted => t.stage = .inRun ∧ t.shared.pending
  | .expire timer => t.stage = .leaving ∧ t.shared.armed = some timer ∧ !t.shared.closed
  | .take => t.stage = .leaving ∧ t.flushing ≠ 0 ∧ !t.shared.closed
  | _ => false

/-! ## The invariant -/

/-- What holds at all times: the scheduler is running as long as there is a thread of the runs, and nothing is
    queued at a closed one. -/
structure Consistent (t : Threads ρ ε) : Prop where
  running_iff : t.shared.running = true ↔ t.stage ≠ .absent
  closed : t.shared.closed = true → t.shared.pending = false

/-- A thread of the runs, wherever it is, keeps the scheduler running. -/
theorem Consistent.running (h : t.Consistent) {stage : Stage} (hstage : t.stage = stage)
    (hne : stage ≠ .absent) : t.shared.running = true :=
  h.running_iff.2 (hstage ▸ hne)

/-- At first there is neither a thread nor a run. -/
theorem consistent_start : (start : Threads ρ ε).Consistent := by
  refine ⟨?_, fun _ => rfl⟩
  exact iff_of_false Bool.false_ne_true fun h => h rfl

/-- Taking up pending work starts a thread if the scheduler is not running, and queues a run if it is. -/
theorem consistent_fire (timer : Option Nat) (h : t.Consistent) : (t.fire timer).Consistent := by
  obtain ⟨-, -, hfire⟩ | ⟨-, ⟨-, hfire⟩ | ⟨hopen, hrunning, hfire⟩ | ⟨hopen, -, hfire⟩⟩ :=
    t.fire_cases timer
  · rw [hfire]
    exact h
  · rw [hfire]
    exact ⟨h.running_iff, h.closed⟩
  · rw [hfire]
    refine ⟨h.running_iff, fun hclosed => ?_⟩
    exact absurd (hopen.symm.trans hclosed) Bool.false_ne_true
  · rw [hfire]
    exact ⟨iff_of_true rfl Stage.noConfusion, h.closed⟩

/-- One case for each section.  A section that belongs to another stage changes nothing. -/
theorem consistent_step (h : t.Consistent) (m : Move ρ ε) : (t.step m).Consistent := by
  cases m with
  | change =>
    rw [step]
    obtain ⟨-, hnotify⟩ | ⟨-, hnotify⟩ := t.shared.notify_cases
    · rw [hnotify]
      exact h
    · rw [hnotify]
      exact ⟨h.running_iff, h.closed⟩
  | close => exact ⟨h.running_iff, fun _ => rfl⟩
  | expire timer => exact consistent_fire (some timer) h
  | look =>
    rw [step]
    split
    · exact ⟨h.running_iff, h.closed⟩
    · exact h
  | take =>
    rw [step]
    split
    · exact h
    · exact consistent_fire none ⟨h.running_iff, h.closed⟩
  | finish outcome =>
    by_cases hstage : t.stage = .inRun
    · have hrunning := h.running hstage Stage.noConfusion
      rw [step, if_pos hstage]
      cases outcome with
      | returned result => exact ⟨iff_of_true hrunning Stage.noConfusion, h.closed⟩
      | failed error => exact ⟨iff_of_true hrunning Stage.noConfusion, h.closed⟩
      | interrupted => exact ⟨iff_of_true hrunning Stage.noConfusion, h.closed⟩
    · rw [step, if_neg hstage]
      exact h
  | handOver =>
    by_cases hstage : t.stage = .ended
    · have hrunning := h.running hstage Stage.noConfusion
      rw [step, if_pos hstage]
      split
      · exact ⟨iff_of_true hrunning Stage.noConfusion, fun _ => rfl⟩
      · exact ⟨iff_of_true hrunning Stage.noConfusion, h.closed⟩
    · rw [step, if_neg hstage]
      exact h
  | release =>
    rw [step]
    split
    · exact ⟨iff_of_false Bool.false_ne_true fun hne => hne rfl, h.closed⟩
    · exact h

/-- So it is after any number of sections. -/
theorem consistent_run (h : t.Consistent) (ms : List (Move ρ ε)) : (t.run ms).Consistent := by
  induction ms generalizing t with
  | nil => exact h
  | cons m rest ih => exact ih (consistent_step h m)

/-! ## Stranded runs -/

/-- Taking pending work up strands a run exactly if the loop has been left and the scheduler is open. -/
theorem stranded_fire_iff (timer : Option Nat) (h : t.Consistent) :
    (t.fire timer).Stranded ↔
      (t.stage = .leaving ∧ (timer = none ∨ timer = t.shared.armed) ∧ t.shared.closed = false) ∨
        t.Stranded := by
  obtain ⟨hsome, harmed, hfire⟩ | ⟨hcounts, ⟨hclosed, hfire⟩ | ⟨hopen, -, hfire⟩ | ⟨-, hidle, hfire⟩⟩ :=
    t.fire_cases timer
  · rw [hfire]
    refine ⟨.inr, fun hor => hor.resolve_left ?_⟩
    rintro ⟨-, hcounts, -⟩
    exact hcounts.elim hsome harmed
  · rw [hfire]
    refine ⟨.inr, fun hor => hor.resolve_left ?_⟩
    rintro ⟨-, -, hopen⟩
    exact Bool.false_ne_true (hopen.symm.trans hclosed)
  · rw [hfire]
    constructor
    · rintro ⟨hstage, -⟩
      exact .inl ⟨hstage, hcounts, hopen⟩
    · rintro (⟨hstage, -⟩ | ⟨hstage, -⟩)
      · exact ⟨hstage, rfl⟩
      · exact ⟨hstage, rfl⟩
  · rw [hfire]
    -- without a run in flight there is no thread that could be leaving
    have hstage : t.stage ≠ .leaving := by
      intro hleaving
      exact Bool.false_ne_true (hidle.symm.trans (h.running hleaving Stage.noConfusion))
    constructor
    · rintro ⟨hinRun, -⟩
      exact Stage.noConfusion hinRun
    · rintro (⟨hleaving, -⟩ | ⟨hleaving, -⟩)
      · exact absurd hleaving hstage
      · exact absurd hleaving hstage

/-- Handing over takes a queued run up or finds none, but in neither case is one left behind. -/
theorem stranded_handOver (h : t.Consistent) : (t.step .handOver).Stranded ↔ t.Stranded := by
  by_cases hstage : t.stage = .ended
  · have hnot : ¬ t.Stranded := fun hs => Stage.noConfusion (hstage.symm.trans hs.1)
    rw [step, if_pos hstage]
    refine iff_of_false ?_ hnot
    cases hgoes : t.shared.goesOn with
    | true => exact fun hs => Stage.noConfusion hs.1
    | false =>
      -- a queued run that does not follow is one at a closed scheduler, and there is none
      rintro ⟨-, hpending⟩
      have hpending : t.shared.pending = true := hpending
      have hclosed : t.shared.closed = true := by
        rw [goesOn, hpending, Bool.true_and, Bool.not_eq_false'] at hgoes
        exact hgoes
      exact Bool.false_ne_true ((h.closed hclosed).symm.trans hpending)
  · rw [step, if_neg hstage]

/-- The end of a run strands the queued one only if it is an interruption. -/
theorem stranded_finish_iff (outcome : Outcome ρ ε) :
    (t.step (.finish outcome)).Stranded ↔ t.abandons (.finish outcome) = true ∨ t.Stranded := by
  by_cases hstage : t.stage = .inRun
  · have hnot : ¬ t.Stranded := fun hs => Stage.noConfusion (hstage.symm.trans hs.1)
    rw [step, if_pos hstage, or_iff_left hnot]
    cases outcome with
    | returned result => exact iff_of_false (fun hs => Stage.noConfusion hs.1) Bool.false_ne_true
    | failed error => exact iff_of_false (fun hs => Stage.noConfusion hs.1) Bool.false_ne_true
    | interrupted =>
      rw [abandons, decide_eq_true_iff]
      exact ⟨fun hs => ⟨hstage, hs.2⟩, fun hs => ⟨rfl, hs.2⟩⟩
  · rw [step, if_neg hstage, or_iff_right]
    cases outcome with
    | returned result => exact Bool.false_ne_true
    | failed error => exact Bool.false_ne_true
    | interrupted =>
      rw [abandons, decide_eq_true_iff]
      exact fun hs => hstage hs.1

/-- **What a section does to a stranded run**: it stays until the scheduler is closed or released. -/
theorem stranded_step_iff (h : t.Consistent) (m : Move ρ ε) :
    (t.step m).Stranded ↔ t.abandons m = true ∨ t.Stranded ∧ m ≠ .close ∧ m ≠ .release := by
  cases m with
  | change =>
    rw [step]
    obtain ⟨-, hnotify⟩ | ⟨-, hnotify⟩ := t.shared.notify_cases
    · rw [hnotify]
      simp [abandons]
    · rw [hnotify]
      simp [abandons, Stranded]
  | close =>
    simp [abandons, step, Stranded, close]
  | expire timer =>
    have harmed : some timer = t.shared.armed ↔ t.shared.armed = some timer := eq_comm
    rw [step, stranded_fire_iff (some timer) h]
    simp [abandons, harmed]
  | look =>
    rw [step]
    split
    · simp [abandons, Stranded]
    · simp [abandons]
  | take =>
    rw [step]
    split
    · next hnone => simp [abandons, hnone]
    · next hsome =>
      have htaken : Consistent { t with flushing := t.flushing - 1 } := ⟨h.running_iff, h.closed⟩
      rw [stranded_fire_iff none htaken]
      simp [abandons, hsome, Stranded]
  | finish outcome =>
    rw [stranded_finish_iff]
    simp
  | handOver =>
    rw [stranded_handOver h]
    simp [abandons]
  | release =>
    rw [step]
    split
    · simp [abandons, Stranded]
    · next hstage => simp [abandons, Stranded, hstage]

/-- **Stranded runs.**  A run is stranded exactly if some move has abandoned one, and the scheduler has neither
    been closed nor released since. -/
theorem stranded_run_iff (ms : List (Move ρ ε)) :
    (start.run ms).Stranded ↔
      ∃ before m after, ms = before ++ m :: after ∧ (start.run before).abandons m = true ∧
        .close ∉ after ∧ .release ∉ after := by
  -- on the moves from the last one backwards, as the last one decides what was stranded before it
  induction ms using List.reverseRecOn with
  | nil =>
    constructor
    · rintro ⟨hstage, -⟩
      exact Stage.noConfusion hstage
    · rintro ⟨before, m, after, hms, -⟩
      exact absurd hms.symm (List.append_ne_nil_of_right_ne_nil before (List.cons_ne_nil m after))
  | append_singleton ms last ih =>
    have hconsistent : (start.run ms : Threads ρ ε).Consistent := consistent_run consistent_start ms
    rw [run_concat, stranded_step_iff hconsistent, ih]
    constructor
    · rintro (hlast | ⟨⟨before, m, after, hms, hm, hclose, hrelease⟩, hlc, hlr⟩)
      · exact ⟨ms, last, [], rfl, hlast, List.not_mem_nil, List.not_mem_nil⟩
      · refine ⟨before, m, after ++ [last], ?_, hm, ?_, ?_⟩
        · rw [hms, List.append_assoc, List.cons_append]
        · simpa [hclose] using hlc.symm
        · simpa [hrelease] using hlr.symm
    · rintro ⟨before, m, after, hms, hm, hclose, hrelease⟩
      -- either the last move is the one that abandons, or it comes after it
      rcases List.eq_nil_or_concat after with rfl | ⟨init, x, rfl⟩
      · obtain ⟨rfl, rfl⟩ := List.append_singleton_inj.1 hms
        exact .inl hm
      · rw [List.concat_eq_append] at hms hclose hrelease
        rw [← List.cons_append, ← List.append_assoc] at hms
        obtain ⟨rfl, rfl⟩ := List.append_singleton_inj.1 hms
        simp only [List.mem_append, List.mem_singleton, not_or] at hclose hrelease
        exact .inr ⟨⟨before, m, init, rfl, hm, hclose.1, hrelease.1⟩, Ne.symm hclose.2,
          Ne.symm hrelease.2⟩

/-! ## The queue -/

/-- A run is queued only behind one in flight. -/
theorem sound_fire (timer : Option Nat) (hs : t.shared.Sound) : (t.fire timer).shared.Sound := by
  obtain ⟨-, -, hfire⟩ | ⟨-, ⟨-, hfire⟩ | ⟨-, hrunning, hfire⟩ | ⟨-, -, hfire⟩⟩ := t.fire_cases timer
  · rw [hfire]
    exact hs
  · rw [hfire]
    exact hs
  · rw [hfire]
    exact fun hidle => absurd (hidle.symm.trans hrunning) Bool.false_ne_true
  · rw [hfire]
    exact fun hidle => absurd hidle.symm Bool.false_ne_true

/-- Only a release can forget a run. -/
theorem sound_step (hs : t.shared.Sound) {m : Move ρ ε} (hm : m ≠ .release) : (t.step m).shared.Sound := by
  cases m with
  | change =>
    rw [step]
    obtain ⟨-, hnotify⟩ | ⟨-, hnotify⟩ := t.shared.notify_cases
    · rw [hnotify]
      exact hs
    · rw [hnotify]
      exact hs
  | close => exact fun _ => rfl
  | expire timer => exact sound_fire (some timer) hs
  | look =>
    rw [step]
    split
    · exact hs
    · exact hs
  | take =>
    rw [step]
    split
    · exact hs
    · exact sound_fire none hs
  | finish outcome =>
    rw [step]
    split
    · cases outcome with
      | returned result => exact hs
      | failed error => exact hs
      | interrupted => exact hs
    · exact hs
  | handOver =>
    rw [step]
    split
    · split
      · exact fun _ => rfl
      · exact hs
    · exact hs
  | release => exact absurd rfl hm

/-- As long as no thread releases the scheduler, it looks as if a run were in flight, and soundness asks for nothing. -/
theorem sound_run_of_no_release (hs : t.shared.Sound) (ms : List (Move ρ ε)) (hms : .release ∉ ms) :
    (t.run ms).shared.Sound := by
  induction ms generalizing t with
  | nil => exact hs
  | cons m rest ih =>
    have hm : m ≠ .release := fun he => hms (he ▸ List.mem_cons_self)
    exact ih (sound_step hs hm) fun hrest => hms (List.mem_cons_of_mem m hrest)

/-- And it forgets one exactly if one is stranded. -/
theorem sound_release_iff (hs : t.shared.Sound) : (t.step .release).shared.Sound ↔ ¬ t.Stranded := by
  by_cases hstage : t.stage = .leaving
  · rw [step, if_pos hstage, Stranded, and_iff_right hstage, Bool.not_eq_true]
    exact ⟨fun hsound => hsound rfl, fun hpending _ => hpending⟩
  · rw [step, if_neg hstage]
    exact iff_of_true hs fun hstranded => hstage hstranded.1

/-- Nothing is forgotten as long as no release comes while a run is stranded. -/
theorem sound_iff_not_stranded (ms : List (Move ρ ε)) :
    (∀ before, before <+: ms → (start.run before).shared.Sound) ↔
      ∀ before, before ++ [.release] <+: ms → ¬ (start.run before).Stranded := by
  constructor
  · intro hsound before hbefore
    have hnow := hsound before ((List.prefix_append _ _).trans hbefore)
    have hnext := hsound _ hbefore
    rw [run_concat, sound_release_iff hnow] at hnext
    exact hnext
  · intro hstranded before
    induction before using List.reverseRecOn with
    | nil => exact fun _ _ => rfl
    | append_singleton before m ih =>
      intro hbefore
      have hnow := ih ((List.prefix_append _ _).trans hbefore)
      rw [run_concat]
      by_cases hm : m = .release
      · subst hm
        exact (sound_release_iff hnow).2 (hstranded before hbefore)
      · exact sound_step hnow hm

/-- **When queued runs are forgotten.**  In no state is a run queued while none is in flight, exactly if after
    every move that abandons a run the scheduler is closed before the thread of the runs goes. -/
theorem sound_run_iff (ms : List (Move ρ ε)) :
    (∀ before, before <+: ms → (start.run before).shared.Sound) ↔
      ∀ before m after, before ++ m :: after ++ [.release] <+: ms →
        (start.run before).abandons m = true → .close ∈ after ∨ .release ∈ after := by
  rw [sound_iff_not_stranded]
  constructor
  · intro hstranded before m after hms hm
    by_contra hnone
    obtain ⟨hclose, hrelease⟩ := not_or.1 hnone
    exact hstranded _ hms ((stranded_run_iff _).2 ⟨before, m, after, rfl, hm, hclose, hrelease⟩)
  · intro hall before hms hstranded
    obtain ⟨first, m, after, rfl, hm, hclose, hrelease⟩ := (stranded_run_iff before).1 hstranded
    exact (hall first m after hms hm).elim hclose hrelease

/-- A run is interrupted behind which another one is queued. -/
def interruptedRun : List (Move Nat String) :=
  [.change, .look, .take, .change, .look, .take, .finish .interrupted, .release]

/-- The queued run is forgotten, and yet the scheduler says that it is idle. -/
theorem forgotten_interruptedRun :
    ¬ (start.run interruptedRun).shared.Sound ∧ (start.run interruptedRun).shared.idle = true := by
  decide

/-- Work that comes in late is forgotten too, even if no run is interrupted. -/
example : ¬ (start.run [.change, .look, .take, .change, .look, .finish (.returned 0), .handOver, .take,
    .release] : Threads Nat String).shared.Sound := by
  decide

/-! ## Whole operations -/

/-- Between whole operations there is no thread of the runs. -/
theorem consistent_atRest {s : Scheduler ρ ε} (hclosed : s.closed = true → s.pending = false) :
    (atRest s).Consistent := by
  refine ⟨?_, hclosed⟩
  show s.running = true ↔ (if s.running then Stage.inRun else Stage.absent) ≠ .absent
  cases hrunning : s.running with
  | true => exact iff_of_true rfl Stage.noConfusion
  | false => exact iff_of_false Bool.false_ne_true fun hne => hne rfl

/-- So there is none that could leave a run behind. -/
theorem not_stranded_atRest (s : Scheduler ρ ε) : ¬ (atRest s).Stranded := by
  rintro ⟨hstage, -⟩
  have hstage : (if s.running then Stage.inRun else Stage.absent) = .leaving := hstage
  split at hstage
  · exact Stage.noConfusion hstage
  · exact Stage.noConfusion hstage

/-- An interruption abandons what is queued behind the run in flight. -/
theorem abandons_finish_iff (s : Scheduler ρ ε) (outcome : Outcome ρ ε) :
    (atRest s).abandons (.finish outcome) = true ↔
      outcome = .interrupted ∧ s.running = true ∧ s.pending = true := by
  cases outcome with
  | returned result => exact iff_of_false Bool.false_ne_true fun h => nomatch h.1
  | failed error => exact iff_of_false Bool.false_ne_true fun h => nomatch h.1
  | interrupted =>
    have hstage : (atRest s).stage = .inRun ↔ s.running = true := by
      show (if s.running then Stage.inRun else Stage.absent) = .inRun ↔ s.running = true
      cases hrunning : s.running with
      | true => exact iff_of_true rfl rfl
      | false => exact iff_of_false Stage.noConfusion Bool.false_ne_true
    rw [abandons, decide_eq_true_iff, hstage, and_iff_right rfl]
    rfl

end Threads

/-- **Of whole operations**, only an interruption forgets a run, namely the one that is queued. -/
theorem sound_step_iff {s : Scheduler ρ ε} (hs : s.Sound) (hclosed : s.closed = true → s.pending = false)
    (e : Event ρ ε) :
    (s.step e).Sound ↔ ¬ (e = .finish .interrupted ∧ s.running = true ∧ s.pending = true) := by
  have hmoves : (s.step e).Sound ↔ ((Threads.atRest s).run (Threads.moves e)).shared.Sound := by
    rw [Threads.run_moves]
    rfl
  have hgood : ∀ ms : List (Move ρ ε), .release ∉ ms → ((Threads.atRest s).run ms).shared.Sound :=
    Threads.sound_run_of_no_release (t := Threads.atRest s) hs
  rw [hmoves]
  cases e with
  | change => exact iff_of_true (hgood _ (by simp [Threads.moves])) fun h => nomatch h.1
  | flush => exact iff_of_true (hgood _ (by simp [Threads.moves])) fun h => nomatch h.1
  | close => exact iff_of_true (hgood _ (by simp [Threads.moves])) fun h => nomatch h.1
  | expire timer => exact iff_of_true (hgood _ (by simp [Threads.moves])) fun h => nomatch h.1
  | finish outcome =>
    have hconsistent := Threads.consistent_step (Threads.consistent_atRest hclosed) (.finish outcome)
    have hbefore := hgood [.finish outcome, .handOver] (by simp)
    -- only the last of the three sections can forget a run
    show (Threads.run (Threads.atRest s) ([.finish outcome, .handOver] ++ [.release])).shared.Sound ↔ _
    rw [Threads.run_concat, Threads.sound_release_iff hbefore]
    have hstranded : (Threads.run (Threads.atRest s) [.finish outcome, .handOver]).Stranded ↔
        outcome = .interrupted ∧ s.running = true ∧ s.pending = true := by
      show (((Threads.atRest s).step (.finish outcome)).step .handOver).Stranded ↔ _
      rw [Threads.stranded_handOver hconsistent, Threads.stranded_finish_iff,
        or_iff_left (Threads.not_stranded_atRest s), Threads.abandons_finish_iff]
    rw [hstranded, Event.finish.injEq]

/-- Nothing is queued at a closed scheduler. -/
theorem pending_of_closed (events : List (Event ρ ε)) (hclosed : (start.run events).closed = true) :
    (start.run events).pending = false := by
  have hconsistent := Threads.consistent_run Threads.consistent_start (events.flatMap Threads.moves)
  have hrun : (Threads.start : Threads ρ ε).run (events.flatMap Threads.moves) =
      Threads.atRest (start.run events) := Threads.run_flatMap_moves start events
  rw [hrun] at hconsistent
  exact hconsistent.closed hclosed

/-- **Whole operations forget a queued run** exactly if the run in front of it is interrupted. -/
theorem sound_operations_iff (events : List (Event ρ ε)) :
    (∀ before, before <+: events → (start.run before).Sound) ↔
      ∀ before, before ++ [.finish .interrupted] <+: events →
        ¬ ((start.run before).running = true ∧ (start.run before).pending = true) := by
  have hstep : ∀ (before : List (Event ρ ε)) (e : Event ρ ε), (start.run before).Sound →
      ((start.run (before ++ [e])).Sound ↔ ¬ (e = .finish .interrupted ∧
        (start.run before).running = true ∧ (start.run before).pending = true)) := by
    intro before e hs
    rw [run, List.foldl_append]
    exact sound_step_iff hs (pending_of_closed before) e
  constructor
  · intro hsound before hbefore hqueued
    have hnow := hsound before ((List.prefix_append _ _).trans hbefore)
    exact (hstep before _ hnow).1 (hsound _ hbefore) ⟨rfl, hqueued⟩
  · intro hall before
    induction before using List.reverseRecOn with
    | nil => exact fun _ _ => rfl
    | append_singleton before e ih =>
      intro hbefore
      have hnow := ih ((List.prefix_append _ _).trans hbefore)
      refine (hstep before e hnow).2 ?_
      rintro ⟨rfl, hqueued⟩
      exact hall before hbefore hqueued

end Scheduler

end CodeAtlas
