import CodeAtlas.Proofs.Scheduler.Effects
/-!
  Runs one after the other, and timers that count.

  Whatever happens, in whatever way runs end, and also inside of a run:

    1. who waits for the scheduler waits exactly as long as a timer is armed or a run is in flight;
    2. when a run starts, all that started before have ended, and the scheduler has not been closed;
    3. a closed scheduler has no armed timer;
    4. a timer does something when it expires exactly if it is the one that was created last and has been
       neither cancelled nor used since.

  The first three are read off the effects.  For the last one the armed timer is found in the events
  (`armed_run_iff`): nothing has to be known about runs for it, as no run touches a timer.

  The events are whole operations, which come one after the other or inside of a run.  Nothing is said of threads whose
  operations take turns section by section (`Scheduler.Threads`).  There two flushes can both see the armed timer before
  one of them takes it up, so that both start a run, one behind the other; and a scheduler can count as idle with work
  in its queue, as a late change is lost when the thread of the runs is just leaving.
-/
namespace CodeAtlas

namespace Scheduler

variable {ρ ε : Type}

/-! ## The current timer -/

/-- An event after which a timer does not count any more: a change supersedes it, a flush and closing cancel
    it, and its own expiration uses it up. -/
def Event.spends (timer : Nat) : Event ρ ε → Bool
  | .change => true
  | .flush => true
  | .close => true
  | .expire other => other = timer
  | .finish _ => false

/-- A timer that was created last, for a change at an open scheduler, and is neither cancelled nor used. -/
def Current (timer : Nat) (events : List (Event ρ ε)) : Prop :=
  ∃ before after, events = before ++ .change :: after ∧
    (Scheduler.start.run before : Scheduler ρ ε).timers = timer ∧ .close ∉ before ∧
    ∀ e ∈ after, e.spends timer = false

/-- An event makes a timer the current one by creating it, or leaves it so. -/
theorem current_concat_iff (timer : Nat) (events : List (Event ρ ε)) (e : Event ρ ε) :
    Current timer (events ++ [e]) ↔
      (e = .change ∧ .close ∉ events ∧ (Scheduler.start.run events : Scheduler ρ ε).timers = timer) ∨
        (Current timer events ∧ e.spends timer = false) := by
  constructor
  · rintro ⟨before, after, hevents, htimer, hopen, hafter⟩
    rcases (concat_eq_iff _ _ _ _ _).1 hevents with ⟨rfl, rfl, rfl⟩ | ⟨between, rfl, rfl⟩
    · exact .inl ⟨rfl, hopen, htimer⟩
    · simp only [List.mem_append, List.mem_singleton] at hafter
      have hcurrent : Current timer (before ++ .change :: between) :=
        ⟨before, between, rfl, htimer, hopen, fun x hx => hafter x (.inl hx)⟩
      exact .inr ⟨hcurrent, hafter e (.inr rfl)⟩
  · rintro (⟨rfl, hopen, htimer⟩ | ⟨⟨before, after, rfl, htimer, hopen, hafter⟩, he⟩)
    · exact ⟨events, [], rfl, htimer, hopen, fun x hx => absurd hx List.not_mem_nil⟩
    · refine ⟨before, after ++ [e], by simp, htimer, hopen, fun x hx => ?_⟩
      rcases List.mem_append.1 hx with hx | hx
      · exact hafter x hx
      · rw [List.mem_singleton.1 hx]
        exact he

theorem closed_fire (timer : Option Nat) (s : Scheduler ρ ε) : (s.fire timer).closed = s.closed := by
  obtain ⟨-, -, hfire⟩ | ⟨-, ⟨-, hfire⟩ | ⟨-, -, hfire⟩ | ⟨-, -, hfire⟩⟩ := s.fire_cases timer
  all_goals rw [hfire]

/-- Only the timer that is armed is disarmed by expiring. -/
theorem armed_fire (timer : Option Nat) (s : Scheduler ρ ε) :
    (s.fire timer).armed = if timer = none ∨ timer = s.armed then none else s.armed := by
  obtain ⟨hsome, harmed, hfire⟩ | ⟨hcounts, ⟨-, hfire⟩ | ⟨-, -, hfire⟩ | ⟨-, -, hfire⟩⟩ := s.fire_cases timer
  · rw [hfire, if_neg (not_or.2 ⟨hsome, harmed⟩)]
  · rw [hfire, if_pos hcounts]
  · rw [hfire, if_pos hcounts]
  · rw [hfire, if_pos hcounts]

/-- The end of a run has nothing to do with timers and closing. -/
theorem finish_keeps (outcome : Outcome ρ ε) (s : Scheduler ρ ε) :
    (s.finish outcome).armed = s.armed ∧ (s.finish outcome).closed = s.closed := by
  obtain ⟨result, error, hrecord⟩ := s.record_eq outcome
  rw [finish_eq_follows, hrecord]
  split
  · exact ⟨rfl, rfl⟩
  · exact ⟨rfl, rfl⟩

/-- Closing is the one event that closes, and nothing opens again. -/
theorem closed_step_iff (s : Scheduler ρ ε) (e : Event ρ ε) :
    (s.step e).closed = true ↔ s.closed = true ∨ e = .close := by
  cases e with
  | change =>
    obtain ⟨-, hnotify⟩ | ⟨-, hnotify⟩ := s.notify_cases
    · simp [step, hnotify]
    · simp [step, hnotify]
  | flush =>
    rw [step]
    split
    · simp [closed_fire]
    · simp
  | close => simp [step, close]
  | expire timer => simp [step, closed_fire]
  | finish outcome =>
    rw [step]
    split
    · simp [(finish_keeps outcome s).2]
    · simp

/-- So a scheduler is closed exactly if it has been. -/
theorem closed_run_iff (events : List (Event ρ ε)) :
    (Scheduler.start.run events : Scheduler ρ ε).closed = true ↔ .close ∈ events := by
  induction events using List.reverseRecOn with
  | nil => exact iff_of_false Bool.false_ne_true List.not_mem_nil
  | append_singleton before e ih =>
    rw [run, List.foldl_append, List.mem_append, List.mem_singleton, ← ih, eq_comm (a := Event.close)]
    exact closed_step_iff (Scheduler.start.run before) e

/-- A timer is armed by the change that it is created for, and stays so until it is spent. -/
theorem armed_step_iff {s : Scheduler ρ ε} (hdisarmed : s.closed = true → s.armed = none) (timer : Nat)
    (e : Event ρ ε) :
    (s.step e).armed = some timer ↔
      (e = .change ∧ s.closed = false ∧ s.timers = timer) ∨
        (s.armed = some timer ∧ e.spends timer = false) := by
  cases e with
  | change =>
    obtain ⟨hclosed, hnotify⟩ | ⟨hopen, hnotify⟩ := s.notify_cases
    · simp [step, hnotify, Event.spends, hclosed, hdisarmed hclosed]
    · simp [step, hnotify, Event.spends, hopen]
  | flush =>
    have hnone : (s.step .flush).armed = none := by
      rw [step]
      split
      · simp [armed_fire]
      · next hpending => simpa [hasPending] using hpending
    simp [hnone, Event.spends]
  | close => simp [step, close, Event.spends]
  | expire other =>
    rw [step, armed_fire]
    by_cases hsame : s.armed = some other
    · simp [hsame, Event.spends]
    · have hother : ∀ n, s.armed = some n → other ≠ n := by
        rintro n harmed rfl
        exact hsame harmed
      simp only [reduceCtorEq, false_or, Ne.symm hsame, if_false, false_and, Event.spends,
        decide_eq_false_iff_not]
      exact ⟨fun harmed => ⟨harmed, hother timer harmed⟩, fun h => h.1⟩
  | finish outcome =>
    rw [step]
    split
    · simp [(finish_keeps outcome s).1, Event.spends]
    · simp [Event.spends]

end Scheduler

namespace Scheduler.Logged

variable {ρ ε : Type}

/-- **The armed timer** is the current one. -/
theorem armed_run_iff (events : List (Event ρ ε)) (timer : Nat) :
    (start.run events).now.armed = some timer ↔ Current timer events := by
  induction events using List.reverseRecOn with
  | nil =>
    refine iff_of_false (fun hsome => nomatch hsome) ?_
    rintro ⟨before, after, hnil, -⟩
    exact List.append_ne_nil_of_right_ne_nil before (List.cons_ne_nil _ after) hnil.symm
  | append_singleton before e ih =>
    have ht := tidy_run before
    have hopen : (start.run before).now.closed = false ↔ .close ∉ before := by
      rw [← Bool.not_eq_true, now_run, closed_run_iff]
    rw [run_concat, now_step ht, armed_step_iff ht.disarmed, ih, hopen, now_run, ← current_concat_iff]

/-- A timer that expires starts a run or queues one exactly if it is the current one. -/
theorem uptake_run_iff (events : List (Event ρ ε)) (timer : Nat) :
    ((start.run events).now.uptake (some timer) = .started ∨
        (start.run events).now.uptake (some timer) = .queued) ↔ Current timer events := by
  have ht := tidy_run events
  rw [← armed_run_iff]
  obtain ⟨-, harmed, huptake⟩ | ⟨hcounts, hcases⟩ := (start.run events).now.uptake_cases (some timer)
  · rw [huptake]
    exact iff_of_false (by simp) (Ne.symm harmed)
  · have harmed : (start.run events).now.armed = some timer := by
      rcases hcounts with hnone | harmed
      · nomatch hnone
      · exact harmed.symm
    rw [iff_true_right harmed]
    obtain ⟨hclosed, -⟩ | ⟨-, -, huptake⟩ | ⟨-, -, huptake⟩ := hcases
    · rw [ht.disarmed hclosed] at harmed
      nomatch harmed
    · exact .inr huptake
    · exact .inl huptake

/-! ## Runs one after the other -/

/-- Whenever a run starts, all that started before have ended, and the scheduler has not been closed. -/
def Orderly (log : List Mark) : Prop :=
  ∀ before, before ++ [.started] <+: log →
    before.count .started = before.count .ended ∧ .closed ∉ before

/-- A mark more matters only if it is the start of a run. -/
theorem orderly_concat_iff (log : List Mark) (m : Mark) :
    Orderly (log ++ [m]) ↔
      Orderly log ∧ (m = .started → log.count .started = log.count .ended ∧ .closed ∉ log) := by
  constructor
  · intro h
    refine ⟨fun before hbefore => h before (hbefore.trans (List.prefix_append _ _)), ?_⟩
    rintro rfl
    exact h log List.prefix_rfl
  · rintro ⟨hlog, hm⟩ before hbefore
    rcases List.prefix_concat_iff.1 hbefore with heq | hinside
    · obtain ⟨rfl, hstarted⟩ := List.append_singleton_inj.1 heq
      exact hm hstarted.symm
    · exact hlog before hinside

/-- Only the start of a run can be out of order. -/
theorem orderly_append {log : List Mark} (h : Orderly log) (ms : List Mark) (hms : .started ∉ ms) :
    Orderly (log ++ ms) := by
  induction ms using List.reverseRecOn with
  | nil => rwa [List.append_nil]
  | append_singleton ms m ih =>
    rw [← List.append_assoc, orderly_concat_iff]
    rw [List.mem_append, List.mem_singleton, not_or] at hms
    exact ⟨ih hms.1, fun hm => absurd hm.symm hms.2⟩

/-- What the log says about the runs and about closing. -/
structure Recorded (h : Logged ρ ε) : Prop where
  ended : h.log.count .ended = h.now.runCount
  started : h.log.count .started = h.log.count .ended + h.inFlight.length
  closed_iff : .closed ∈ h.log ↔ h.now.closed = true
  orderly : Orderly h.log

theorem recorded_start : (start : Logged ρ ε).Recorded where
  ended := rfl
  started := rfl
  closed_iff := iff_of_false List.not_mem_nil Bool.false_ne_true
  orderly := by
    intro before hbefore
    have hnil := List.prefix_nil.1 hbefore
    exact absurd hnil (List.append_ne_nil_of_right_ne_nil before (List.cons_ne_nil _ _))

/-- Each event writes what it does, one case for each. -/
theorem Effect.recorded {h h' : Logged ρ ε} {e : Event ρ ε} (heffect : Effect h e h') (ht : h.Tidy)
    (hr : h.Recorded) : h'.Recorded := by
  obtain ⟨hended, hstarted, hclosed, horderly⟩ := hr
  cases heffect with
  | nothing => exact ⟨hended, hstarted, hclosed, horderly⟩
  | accept hopen =>
    refine ⟨?_, ?_, ?_, orderly_append horderly _ (by decide)⟩
    · simpa using hended
    · simpa using hstarted
    · simpa using hclosed
  | close =>
    refine ⟨?_, ?_, ?_, orderly_append horderly _ (by decide)⟩
    · simpa [Scheduler.close] using hended
    · simpa using hstarted
    · simp [Scheduler.close]
  | queue _ caller hopen harmed hrunning =>
    have hstart : .started ∉ caller.answer := caller.not_mem_answer Mark.noConfusion
    have hend : .ended ∉ caller.answer := caller.not_mem_answer Mark.noConfusion
    have hclose : .closed ∉ caller.answer := caller.not_mem_answer Mark.noConfusion
    refine ⟨?_, ?_, ?_, orderly_append horderly _ ?_⟩
    · simpa [List.count_eq_zero.2 hend] using hended
    · simpa [List.count_eq_zero.2 hstart, List.count_eq_zero.2 hend] using hstarted
    · simpa [hclose] using hclosed
    · simpa using hstart
  | start _ caller hopen harmed hrunning =>
    -- nothing is in flight, so as many runs have ended as have started
    have hnone := ht.still_iff.1 hrunning
    refine ⟨?_, ?_, ?_, ?_⟩
    · simpa using hended
    · simp [hstarted, hnone]
    · simpa using hclosed
    · show Orderly (h.log ++ [.taken caller, .started])
      rw [List.append_cons, orderly_concat_iff]
      refine ⟨orderly_append horderly _ (by simp), fun _ => ⟨?_, ?_⟩⟩
      · simpa [hnone] using hstarted
      · simpa [hopen] using hclosed
  | follow outcome hinFlight hwhole hpending hopen =>
    obtain ⟨result, error, hrecord⟩ := h.now.record_eq outcome
    -- the run that ends was the only one, so the next one starts alone
    have hone : h.inFlight.length = 1 := by
      have hpos := List.length_pos_iff.2 hinFlight
      have hsingle := ht.single
      omega
    rw [hrecord]
    refine ⟨?_, ?_, ?_, ?_⟩
    · simpa [takeQueued] using hended
    · simp [hstarted]
      omega
    · simpa [takeQueued] using hclosed
    · show Orderly (h.log ++ [.ended, .started])
      rw [List.append_cons, orderly_concat_iff]
      refine ⟨orderly_append horderly _ (by simp), fun _ => ⟨?_, ?_⟩⟩
      · simp [hstarted, hone]
      · simpa [hopen] using hclosed
  | leave outcome caller outer hinFlight hover =>
    obtain ⟨result, error, hrecord⟩ := h.now.record_eq outcome
    have hstart : .started ∉ caller.leave outcome :=
      caller.not_mem_leave outcome Mark.noConfusion Mark.noConfusion
    have hend : .ended ∉ caller.leave outcome :=
      caller.not_mem_leave outcome Mark.noConfusion Mark.noConfusion
    have hclose : .closed ∉ caller.leave outcome :=
      caller.not_mem_leave outcome Mark.noConfusion Mark.noConfusion
    rw [hrecord]
    refine ⟨?_, ?_, ?_, orderly_append horderly _ ?_⟩
    · simpa [release, List.count_eq_zero.2 hend] using hended
    · simp [List.count_eq_zero.2 hstart, List.count_eq_zero.2 hend, hstarted, hinFlight]
      omega
    · simpa [release, hclose] using hclosed
    · simpa using hstart

/-- So the log of any number of events tells the state. -/
theorem recorded_run (events : List (Event ρ ε)) : (start.run events).Recorded :=
  run_induction recorded_start (fun _ _ _ ht hr heffect => heffect.recorded ht hr) events

/-- **The scheduler keeps order**, whatever happens.  It is idle exactly if no timer is armed and no run is in flight;
    runs do not overlap, and none starts after closing; closing disarms; and a timer that expires takes work up exactly
    if it is the one that was created last and is neither cancelled nor used. -/
theorem ordered_run (events : List (Event ρ ε)) :
    ((start.run events).now.idle = true ↔
        (start.run events).now.armed = none ∧ (start.run events).inFlight = []) ∧
      Orderly (start.run events).log ∧
      (.close ∈ events → (start.run events).now.armed = none) ∧
      ∀ timer, ((start.run events).now.uptake (some timer) = .started ∨
        (start.run events).now.uptake (some timer) = .queued) ↔ Current timer events := by
  have ht := tidy_run events
  refine ⟨ht.idle_iff, (recorded_run events).orderly, fun hclose => ?_, uptake_run_iff events⟩
  rw [← closed_run_iff, ← now_run] at hclose
  exact ht.disarmed hclose

end Scheduler.Logged

end CodeAtlas
