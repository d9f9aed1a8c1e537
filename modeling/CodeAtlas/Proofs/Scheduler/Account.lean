import CodeAtlas.Proofs.Scheduler.Effects
/-!
  Every run is paid for by a change.

  A change that is accepted arms a timer.  An armed timer is good for one uptake of work: its own expiration or
  a flush, whichever comes first; and a later change or closing takes it away.  An uptake is good for one run,
  which starts at once or is queued.  So an armed timer and a queued run are what is left of what was paid
  (`Balanced`): a run that an interruption leaves in the queue is still paid for when it starts at last.

  A flush that takes work up does not always return.  `interruptedFlush` is a run that is counted although no
  timer expired and no flush returned.  What can be said is that a flush which took work up has returned, or
  was left by an interruption, or is the call inside of which a run is in flight.

  What is counted are whole operations.  Between their locked sections (`Scheduler.Threads`) the account does not hold:
  two flushes that both see one armed timer before either takes it up are two uptakes for one change, and both start a
  run.  A late change, on the other hand, can be lost there.
-/
namespace CodeAtlas

namespace Scheduler.Logged

variable {ρ ε : Type}

/-- What was paid, and what is left of it. -/
structure Balanced (h : Logged ρ ε) : Prop where
  /-- every uptake is good for one run -/
  runs : h.log.count .started + h.now.pending.toNat ≤
    h.log.count (.taken .timer) + h.log.count (.taken .flush)
  /-- every change is good for one uptake -/
  uptakes : h.log.count (.taken .timer) + h.log.count (.taken .flush) + h.now.armed.isSome.toNat ≤
    h.log.count .accepted
  /-- every flush that took work up has ended, or is in flight -/
  flushes : h.log.count (.taken .flush) =
    h.log.count .returned + h.log.count .raised + h.inFlight.count .flush

theorem balanced_start : (start : Logged ρ ε).Balanced where
  runs := Nat.le_refl 0
  uptakes := Nat.le_refl 0
  flushes := rfl

theorem Effect.balanced {h h' : Logged ρ ε} {e : Event ρ ε} (heffect : Effect h e h') (hb : h.Balanced) :
    h'.Balanced := by
  obtain ⟨hruns, huptakes, hflushes⟩ := hb
  cases heffect with
  | nothing => exact ⟨hruns, huptakes, hflushes⟩
  | accept hopen =>
    refine ⟨?_, ?_, ?_⟩
    · simpa using hruns
    · simp
      omega
    · simpa using hflushes
  | close =>
    refine ⟨?_, ?_, ?_⟩
    · simp [Scheduler.close]
      omega
    · simp [Scheduler.close]
      omega
    · simpa using hflushes
  | queue _ caller hopen harmed hrunning =>
    have hone : h.now.armed.isSome.toNat = 1 := by rw [Option.isSome_iff_ne_none.2 harmed, Bool.toNat_true]
    -- the timer pays for the uptake, and the uptake for the run in the queue
    cases caller with
    | flush =>
      refine ⟨?_, ?_, ?_⟩ <;> simp [Caller.answer] <;> omega
    | timer =>
      refine ⟨?_, ?_, ?_⟩ <;> simp [Caller.answer] <;> omega
  | start _ caller hopen harmed hrunning =>
    have hone : h.now.armed.isSome.toNat = 1 := by rw [Option.isSome_iff_ne_none.2 harmed, Bool.toNat_true]
    cases caller with
    | flush =>
      refine ⟨?_, ?_, ?_⟩ <;> simp <;> omega
    | timer =>
      refine ⟨?_, ?_, ?_⟩ <;> simp <;> omega
  | follow outcome hinFlight hwhole hpending hopen =>
    obtain ⟨result, error, hrecord⟩ := h.now.record_eq outcome
    -- the run that starts is the one that was paid for while it was queued
    rw [hpending, Bool.toNat_true] at hruns
    rw [hrecord]
    refine ⟨?_, ?_, ?_⟩
    · simpa [takeQueued] using hruns
    · simpa [takeQueued] using huptakes
    · simpa using hflushes
  | leave outcome caller outer hinFlight hover =>
    obtain ⟨result, error, hrecord⟩ := h.now.record_eq outcome
    rw [hinFlight] at hflushes
    rw [hrecord]
    cases caller with
    | timer =>
      refine ⟨?_, ?_, ?_⟩
      · simpa [release, Caller.leave] using hruns
      · simpa [release, Caller.leave] using huptakes
      · simpa [Caller.leave] using hflushes
    | flush =>
      rw [List.count_cons_self] at hflushes
      cases outcome with
      | returned result =>
        refine ⟨?_, ?_, ?_⟩ <;> simp [release, Caller.leave] <;> omega
      | failed error =>
        refine ⟨?_, ?_, ?_⟩ <;> simp [release, Caller.leave] <;> omega
      | interrupted =>
        refine ⟨?_, ?_, ?_⟩ <;> simp [release, Caller.leave] <;> omega

theorem balanced_run (events : List (Event ρ ε)) : (start.run events).Balanced :=
  run_induction balanced_start (fun _ _ _ _ hb heffect => heffect.balanced hb) events

/-- **No run without a change of its own.**  There are at most as many runs as uptakes of work, by the armed
    timer or by a flush, and at most as many uptakes as accepted changes.  A flush that took work up has
    returned, unless an interruption left it or one of its runs is in flight. -/
theorem started_le_taken_le_accepted (events : List (Event ρ ε)) :
    let h : Logged ρ ε := start.run events
    h.log.count .started ≤ h.log.count (.taken .timer) + h.log.count (.taken .flush) ∧
      h.log.count (.taken .timer) + h.log.count (.taken .flush) ≤ h.log.count .accepted ∧
      h.log.count (.taken .flush) =
        h.log.count .returned + h.log.count .raised + h.inFlight.count .flush := by
  obtain ⟨hruns, huptakes, hflushes⟩ := balanced_run events
  exact ⟨by omega, by omega, hflushes⟩

/-- A flush whose run is interrupted. -/
def interruptedFlush : List (Event Nat String) := [.change, .flush, .finish .interrupted]

/-- The flushes that returned do not pay for all runs. -/
theorem unpaid_interruptedFlush :
    ¬ ∀ events : List (Event Nat String),
      (start.run events).log.count .started ≤
          (start.run events).log.count (.taken .timer) + (start.run events).log.count .returned ∧
        (start.run events).log.count (.taken .timer) + (start.run events).log.count .returned ≤
          (start.run events).log.count .accepted := by
  intro hall
  have hunpaid : ¬ (start.run interruptedFlush).log.count .started ≤
      (start.run interruptedFlush).log.count (.taken .timer) +
        (start.run interruptedFlush).log.count .returned := by
    decide
  exact hunpaid (hall interruptedFlush).1

end Scheduler.Logged

end CodeAtlas
