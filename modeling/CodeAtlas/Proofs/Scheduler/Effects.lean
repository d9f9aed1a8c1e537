import CodeAtlas.Scheduler.Log
import Mathlib.Data.List.Induction
/-!
  What an event can do to a scheduler.

  `Effect` lists it, once and for all: nothing, accept a change, close, queue a run, start one, let the queued
  run follow one that ended, or leave the loop of the runs.  Everything that holds of all runs is proved from
  this list (`run_induction`), and never from the definition of a step.

  An event has one of these effects only while the scheduler is tidy, and every effect leaves it tidy:

    * it believes that a run is in flight exactly if one is, and there is never more than one;
    * it says that it is idle exactly if no timer is armed and no run is in flight;
    * nothing is armed or queued once it is closed.

  So at all times the scheduler with its log is the scheduler (`now_run`), and a run starts in the log exactly
  when it does for the scheduler (`count_started_step`).
-/
namespace CodeAtlas

namespace Scheduler

variable {ρ ε : Type}

/-- The last element of a list is the one that is looked for, or comes after it. -/
theorem concat_eq_iff {α : Type} (init before after : List α) (last x : α) :
    init ++ [last] = before ++ x :: after ↔
      (before = init ∧ x = last ∧ after = []) ∨
        ∃ between, after = between ++ [last] ∧ init = before ++ x :: between := by
  constructor
  · intro h
    rcases List.eq_nil_or_concat after with rfl | ⟨between, y, rfl⟩
    · obtain ⟨rfl, rfl⟩ := List.append_singleton_inj.1 h
      exact .inl ⟨rfl, rfl, rfl⟩
    · rw [List.concat_eq_append, ← List.cons_append, ← List.append_assoc] at h
      obtain ⟨rfl, rfl⟩ := List.append_singleton_inj.1 h
      exact .inr ⟨between, List.concat_eq_append, rfl⟩
  · rintro (⟨rfl, rfl, rfl⟩ | ⟨between, rfl, rfl⟩)
    · rfl
    · rw [List.append_assoc, List.cons_append]

namespace Logged

/-- What holds at all times. -/
structure Tidy (h : Logged ρ ε) : Prop where
  running_iff : h.now.running = true ↔ h.inFlight ≠ []
  single : h.inFlight.length ≤ 1
  idle_iff : h.now.idle = true ↔ h.now.armed = none ∧ h.inFlight = []
  disarmed : h.now.closed = true → h.now.armed = none
  unqueued : h.now.closed = true → h.now.pending = false

/-- Nothing is running exactly if no caller is in a run. -/
theorem Tidy.still_iff {h : Logged ρ ε} (ht : h.Tidy) : h.now.running = false ↔ h.inFlight = [] := by
  rw [← Bool.not_eq_true, ht.running_iff, not_not]

/-- What an event can do. -/
inductive Effect (h : Logged ρ ε) : Event ρ ε → Logged ρ ε → Prop where
  | nothing (e : Event ρ ε) : Effect h e h
  | accept (hopen : h.now.closed = false) :
      Effect h .change
        { h with
          now := { h.now with armed := some h.now.timers, timers := h.now.timers + 1, idle := false }
          log := h.log ++ [.accepted] }
  | close : Effect h .close { h with now := h.now.close, log := h.log ++ [.closed] }
  | queue (e : Event ρ ε) (caller : Caller) (hopen : h.now.closed = false) (harmed : h.now.armed ≠ none)
      (hrunning : h.now.running = true) :
      Effect h e
        { h with
          now := { h.now with armed := none, pending := true }
          log := h.log ++ .taken caller :: .queued :: caller.answer }
  | start (e : Event ρ ε) (caller : Caller) (hopen : h.now.closed = false) (harmed : h.now.armed ≠ none)
      (hrunning : h.now.running = false) :
      Effect h e
        { now := { h.now with armed := none, running := true }
          inFlight := caller :: h.inFlight
          log := h.log ++ [.taken caller, .started] }
  | follow (outcome : Outcome ρ ε) (hinFlight : h.inFlight ≠ []) (hwhole : outcome ≠ .interrupted)
      (hpending : h.now.pending = true) (hopen : h.now.closed = false) :
      Effect h (.finish outcome)
        { h with
          now := (h.now.record outcome).takeQueued
          log := h.log ++ [.ended, .started] }
  | leave (outcome : Outcome ρ ε) (caller : Caller) (outer : List Caller)
      (hinFlight : h.inFlight = caller :: outer)
      (hover : outcome = .interrupted ∨ h.now.pending = false ∨ h.now.closed = true) :
      Effect h (.finish outcome)
        { now := (h.now.record outcome).release
          inFlight := outer
          log := h.log ++ .ended :: caller.leave outcome }

variable {h h' : Logged ρ ε}

/-! ## Every event has an effect -/

/-- A call that finds an armed timer queues a run or starts one. -/
theorem effect_takeUp (ht : h.Tidy) (e : Event ρ ε) (caller : Caller) {timer : Option Nat}
    (hflush : timer = none → h.now.armed ≠ none) : Effect h e (h.takeUp caller timer) := by
  have hfire := h.now.fire_eq_uptake timer
  obtain ⟨-, -, huptake⟩ | ⟨hcounts, hcases⟩ := h.now.uptake_cases timer
  · rw [huptake] at hfire
    have hsame : h.takeUp caller timer = h := by simp [takeUp, hfire, huptake, Uptake.marks]
    rw [hsame]
    exact .nothing e
  · have harmed : h.now.armed ≠ none := by
      rcases hcounts with hnone | harmed
      · exact hflush hnone
      · exact fun hnone => hflush (harmed.trans hnone) hnone
    -- closing has taken the timer away, so there is nothing left to be dropped
    obtain ⟨hclosed, -⟩ | ⟨hopen, hrunning, huptake⟩ | ⟨hopen, hrunning, huptake⟩ := hcases
    · exact absurd (ht.disarmed hclosed) harmed
    · rw [huptake] at hfire
      rw [takeUp, hfire, huptake]
      exact .queue e caller hopen harmed hrunning
    · rw [huptake] at hfire
      rw [takeUp, hfire, huptake]
      exact .start e caller hopen harmed hrunning

/-- The end of a run: another one follows, or its callers are answered. -/
theorem effect_finish (outcome : Outcome ρ ε) : Effect h (.finish outcome) (h.finish outcome) := by
  unfold finish
  split
  · exact .nothing _
  · next caller outer hinFlight =>
    rw [finish_eq_follows]
    cases hfollows : h.now.follows outcome with
    | true =>
      obtain ⟨hwhole, hpending, hopen⟩ := (h.now.follows_eq outcome).1 hfollows
      exact .follow outcome (by simp [hinFlight]) hwhole hpending hopen
    | false =>
      have hnot : ¬ (outcome ≠ .interrupted ∧ h.now.pending = true ∧ h.now.closed = false) := by
        rw [← follows_eq, hfollows]
        exact Bool.false_ne_true
      refine .leave outcome caller outer hinFlight ?_
      by_contra hgoes
      simp only [not_or, Bool.not_eq_true, Bool.not_eq_false] at hgoes
      exact hnot hgoes

/-- **Every event of a tidy scheduler has one of the effects.** -/
theorem effect_step (ht : h.Tidy) (e : Event ρ ε) : Effect h e (h.step e) := by
  cases e with
  | change =>
    rw [step]
    obtain ⟨hclosed, hnotify⟩ | ⟨hopen, hnotify⟩ := h.now.notify_cases
    · have hmark : (if h.now.closed then [] else [Mark.accepted]) = [] := by rw [hclosed]; rfl
      rw [hnotify, hmark, List.append_nil]
      exact .nothing .change
    · have hmark : (if h.now.closed then [] else [Mark.accepted]) = [.accepted] := by rw [hopen]; rfl
      rw [hnotify, hmark]
      exact .accept hopen
  | flush =>
    rw [step]
    split
    · next hpending =>
      have harmed : h.now.armed ≠ none := Option.isSome_iff_ne_none.1 hpending
      exact effect_takeUp ht .flush .flush fun _ => harmed
    · exact .nothing .flush
  | close => exact .close
  | expire timer => exact effect_takeUp ht (.expire timer) .timer fun hnone => nomatch hnone
  | finish outcome => exact effect_finish outcome

/-! ## Every effect leaves the scheduler tidy -/

theorem tidy_start : (start : Logged ρ ε).Tidy where
  running_iff := iff_of_false Bool.false_ne_true fun hne => hne rfl
  single := Nat.zero_le 1
  idle_iff := iff_of_true rfl ⟨rfl, rfl⟩
  disarmed := fun _ => rfl
  unqueued := fun _ => rfl

theorem Effect.tidy {e : Event ρ ε} (heffect : Effect h e h') (ht : h.Tidy) : h'.Tidy := by
  cases heffect with
  | nothing => exact ht
  | accept hopen =>
    refine ⟨ht.running_iff, ht.single, ?_, ?_, ht.unqueued⟩
    · exact iff_of_false Bool.false_ne_true fun hnone => Option.some_ne_none _ hnone.1
    · exact fun hclosed => absurd (hopen.symm.trans hclosed) Bool.false_ne_true
  | close =>
    refine ⟨ht.running_iff, ht.single, ?_, fun _ => rfl, fun _ => rfl⟩
    simp only [Scheduler.close, Bool.or_eq_true, Bool.not_eq_true', true_and]
    rw [ht.idle_iff, ht.still_iff]
    constructor
    · rintro (⟨-, hnone⟩ | hnone)
      · exact hnone
      · exact hnone
    · exact .inr
  | queue _ caller hopen harmed hrunning =>
    have hinFlight := ht.running_iff.1 hrunning
    have hbusy : h.now.idle ≠ true := fun hidle => hinFlight (ht.idle_iff.1 hidle).2
    refine ⟨ht.running_iff, ht.single, iff_of_false hbusy fun hnone => hinFlight hnone.2, fun _ => rfl, ?_⟩
    exact fun hclosed => absurd (hopen.symm.trans hclosed) Bool.false_ne_true
  | start _ caller hopen harmed hrunning =>
    have hnone := ht.still_iff.1 hrunning
    have hbusy : h.now.idle ≠ true := fun hidle => harmed (ht.idle_iff.1 hidle).1
    refine ⟨iff_of_true rfl (List.cons_ne_nil _ _), ?_, ?_, fun _ => rfl, ht.unqueued⟩
    · rw [hnone]
      exact Nat.le_refl 1
    · exact iff_of_false hbusy fun hempty => List.cons_ne_nil _ _ hempty.2
  | follow outcome hinFlight hwhole hpending hopen =>
    obtain ⟨result, error, hrecord⟩ := h.now.record_eq outcome
    rw [hrecord]
    exact ⟨ht.running_iff, ht.single, ht.idle_iff, ht.disarmed, fun _ => rfl⟩
  | leave outcome caller outer hinFlight hover =>
    -- the run that ends was the only one, so from now on only the timer decides whether it is idle
    have hempty : outer = [] := by
      have hsingle := ht.single
      rw [hinFlight, List.length_cons] at hsingle
      exact List.eq_nil_of_length_eq_zero (by omega)
    have hbusy : h.now.idle = false := by
      rw [Bool.eq_false_iff]
      intro hidle
      rw [(ht.idle_iff.1 hidle).2] at hinFlight
      nomatch hinFlight
    obtain ⟨result, error, hrecord⟩ := h.now.record_eq outcome
    rw [hrecord, hempty]
    refine ⟨iff_of_false Bool.false_ne_true fun hne => hne rfl, Nat.zero_le 1, ?_, ht.disarmed, ht.unqueued⟩
    simp [release, hbusy]

/-- **What holds at the start and survives every effect** holds after any events. -/
theorem run_induction {P : Logged ρ ε → Prop} (hstart : P start)
    (hstep : ∀ h h' e, Tidy h → P h → Effect h e h' → P h') (events : List (Event ρ ε)) :
    P (start.run events) := by
  have hboth : (start.run events).Tidy ∧ P (start.run events) := by
    induction events using List.reverseRecOn with
    | nil => exact ⟨tidy_start, hstart⟩
    | append_singleton before e ih =>
      obtain ⟨ht, hp⟩ := ih
      have heffect := effect_step ht e
      rw [run_concat]
      exact ⟨heffect.tidy ht, hstep _ _ e ht hp heffect⟩
  exact hboth.2

theorem tidy_run (events : List (Event ρ ε)) : (start.run events : Logged ρ ε).Tidy :=
  run_induction tidy_start (fun _ _ _ ht _ heffect => heffect.tidy ht) events

/-! ## The log is about the scheduler -/

/-- A step of the scheduler with its log is one of the scheduler. -/
theorem now_step (ht : h.Tidy) (e : Event ρ ε) : (h.step e).now = h.now.step e := by
  cases e with
  | change => rfl
  | flush =>
    rw [step, Scheduler.step]
    split
    · rfl
    · rfl
  | close => rfl
  | expire timer => rfl
  | finish outcome =>
    show (h.finish outcome).now = if h.now.running then h.now.finish outcome else h.now
    unfold Logged.finish
    split
    · next hinFlight =>
      rw [ht.still_iff.2 hinFlight]
      rfl
    · next caller outer hinFlight =>
      have hrunning : h.now.running = true := ht.running_iff.2 (by simp [hinFlight])
      rw [hrunning]
      dsimp only
      split
      · rfl
      · rfl

/-- **The log comes on top**: it changes nothing for the scheduler. -/
theorem now_run (events : List (Event ρ ε)) :
    (start.run events : Logged ρ ε).now = Scheduler.start.run events := by
  induction events using List.reverseRecOn with
  | nil => rfl
  | append_singleton before e ih =>
    rw [run_concat, now_step (tidy_run before), ih, Scheduler.run, Scheduler.run, List.foldl_append]
    rfl

/-- Taking work up starts a run if none is running. -/
theorem count_started_takeUp (caller : Caller) (timer : Option Nat) :
    (h.takeUp caller timer).log.count .started =
      h.log.count .started + ((h.now.fire timer).running && !h.now.running).toNat := by
  have hfire := h.now.fire_eq_uptake timer
  have hlog : (h.takeUp caller timer).log.count .started =
      h.log.count .started + ((h.now.uptake timer).marks caller).count .started := List.count_append
  have hanswer : caller.answer.count .started = 0 :=
    List.count_eq_zero.2 (caller.not_mem_answer Mark.noConfusion)
  rw [hlog]
  obtain ⟨-, -, huptake⟩ | ⟨-, ⟨-, huptake⟩ | ⟨-, hrunning, huptake⟩ | ⟨-, hrunning, huptake⟩⟩ :=
    h.now.uptake_cases timer
  · rw [huptake] at hfire ⊢
    simp [hfire, Uptake.marks]
  · rw [huptake] at hfire ⊢
    simp [hfire, Uptake.marks, hanswer]
  · rw [huptake] at hfire ⊢
    simp [hfire, Uptake.marks, hanswer, hrunning]
  · rw [huptake] at hfire ⊢
    simp [hfire, Uptake.marks, hrunning]

/-- **A run starts in the log** exactly when the scheduler starts one. -/
theorem count_started_step (ht : h.Tidy) (e : Event ρ ε) :
    (h.step e).log.count .started = h.log.count .started + (h.now.starts e).toNat := by
  cases e with
  | change =>
    obtain ⟨hclosed, hnotify⟩ | ⟨hopen, hnotify⟩ := h.now.notify_cases
    · simp [step, starts, Scheduler.step, hnotify, hclosed]
    · simp [step, starts, Scheduler.step, hnotify, hopen]
  | flush =>
    show (h.step .flush).log.count .started =
      h.log.count .started + ((h.now.step .flush).running && !h.now.running).toNat
    rw [step, Scheduler.step]
    split
    · exact count_started_takeUp .flush none
    · simp
  | close => simp [step, starts, Scheduler.step, Scheduler.close]
  | expire timer => exact count_started_takeUp .timer (some timer)
  | finish outcome =>
    show (h.finish outcome).log.count .started = _
    unfold Logged.finish
    split
    · next hinFlight =>
      simp [starts, Scheduler.step, ht.still_iff.2 hinFlight]
    · next caller outer hinFlight =>
      have hrunning : h.now.running = true := ht.running_iff.2 (by simp [hinFlight])
      obtain ⟨result, error, hrecord⟩ := h.now.record_eq outcome
      have hleave : (caller.leave outcome).count .started = 0 :=
        List.count_eq_zero.2 (caller.not_mem_leave outcome Mark.noConfusion Mark.noConfusion)
      simp only [starts, Scheduler.step, hrunning, if_true, finish_eq_follows, hrecord]
      split
      · simp [takeQueued]
      · simp [release, hleave]

end Logged

end Scheduler

end CodeAtlas
