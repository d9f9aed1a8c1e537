import CodeAtlas.Scheduler
/-!
  The scheduler with a log of what happens.

  The state of a scheduler does not say what has happened so far: which changes were accepted, when runs
  started and ended, who is still waiting for a run.  `Logged` keeps this beside the scheduler.  Events are
  whole operations here, as they are for `Scheduler.step`; `Threads` takes them apart.

  Runs take place inside of a call: the expiration that took the pending work up, or the flush that did, goes
  on until no run follows.  `inFlight` has these calls.  A run in flight is one of them, whatever the
  scheduler itself believes; that its `running` says the same is a theorem and not part of the definition.
  All that happens while a run is in flight comes between the marks of its start and its end.

  A flush that takes pending work up tells that there was some, but it does so only when it returns: at once
  if the work is queued behind a run in flight, else after the last of the runs that it started, and not at
  all if one of these was interrupted.  So a flush that took work up and a flush that returned are different
  marks.
-/
namespace CodeAtlas

namespace Scheduler

variable {ρ ε : Type}

/-! ## Taking pending work up -/

/-- What becomes of pending work when somebody comes for it. -/
inductive Uptake where
  /-- a timer that does not count any more leaves it alone -/
  | superseded
  /-- the scheduler is closed, so it is dropped -/
  | dropped
  /-- it is queued behind the run in flight -/
  | queued
  /-- a run starts -/
  | started
deriving Repr, DecidableEq, Inhabited

/-- What becomes of the pending work; an expiring timer names itself. -/
def uptake (timer : Option Nat) (s : Scheduler ρ ε) : Uptake :=
  if timer.isSome && timer ≠ s.armed then .superseded
  else if s.closed then .dropped
  else if s.running then .queued
  else .started

/-- What an uptake does to the scheduler. -/
theorem fire_eq_uptake (timer : Option Nat) (s : Scheduler ρ ε) :
    s.fire timer =
      match s.uptake timer with
      | .superseded => s
      | .dropped => { s with armed := none }
      | .queued => { s with armed := none, pending := true }
      | .started => { s with armed := none, running := true } := by
  rw [fire, uptake]
  split
  · rfl
  · cases hclosed : s.closed with
    | true => rfl
    | false =>
      cases hrunning : s.running with
      | true => rfl
      | false => rfl

/-- Pending work is only left alone by a timer that does not count.  Else the scheduler decides: it drops the
    work if it is closed, queues a run behind the one in flight, or starts one. -/
theorem uptake_cases (timer : Option Nat) (s : Scheduler ρ ε) :
    (timer ≠ none ∧ timer ≠ s.armed ∧ s.uptake timer = .superseded) ∨
      (timer = none ∨ timer = s.armed) ∧
        (s.closed = true ∧ s.uptake timer = .dropped ∨
          s.closed = false ∧ s.running = true ∧ s.uptake timer = .queued ∨
          s.closed = false ∧ s.running = false ∧ s.uptake timer = .started) := by
  by_cases hcounts : timer = none ∨ timer = s.armed
  · have hguard : (timer.isSome && decide (timer ≠ s.armed)) = false := by
      rcases hcounts with rfl | rfl
      · rfl
      · simp
    refine .inr ⟨hcounts, ?_⟩
    rw [uptake, hguard]
    cases hclosed : s.closed with
    | true => exact .inl ⟨rfl, rfl⟩
    | false =>
      cases hrunning : s.running with
      | true => exact .inr (.inl ⟨rfl, rfl, rfl⟩)
      | false => exact .inr (.inr ⟨rfl, rfl, rfl⟩)
  · obtain ⟨hsome, harmed⟩ := not_or.1 hcounts
    exact .inl ⟨hsome, harmed, by simp [uptake, harmed, Option.isSome_iff_ne_none.2 hsome]⟩

/-- Whether another run follows the one that ends. -/
def follows (outcome : Outcome ρ ε) (s : Scheduler ρ ε) : Bool :=
  match outcome with
  | .interrupted => false
  | _ => (s.record outcome).goesOn

/-- What a run came to has nothing to do with timers and queues. -/
theorem record_eq (outcome : Outcome ρ ε) (s : Scheduler ρ ε) :
    ∃ result error, s.record outcome =
      { s with runCount := s.runCount + 1, lastResult := result, lastError := error } := by
  cases outcome with
  | returned result => exact ⟨some result, none, rfl⟩
  | failed error => exact ⟨s.lastResult, some error, rfl⟩
  | interrupted => exact ⟨s.lastResult, s.lastError, rfl⟩

theorem follows_eq (outcome : Outcome ρ ε) (s : Scheduler ρ ε) :
    s.follows outcome = true ↔ outcome ≠ .interrupted ∧ s.pending = true ∧ s.closed = false := by
  have hgoes : (s.record outcome).goesOn = (s.pending && !s.closed) := by
    obtain ⟨result, error, hrecord⟩ := s.record_eq outcome
    rw [hrecord]
    rfl
  cases outcome with
  | returned result => simp [follows, hgoes]
  | failed error => simp [follows, hgoes]
  | interrupted => simp [follows]

/-- Another run takes the queued one's place, or the loop is left. -/
theorem finish_eq_follows (outcome : Outcome ρ ε) (s : Scheduler ρ ε) :
    s.finish outcome =
      if s.follows outcome then (s.record outcome).takeQueued else (s.record outcome).release := by
  cases outcome with
  | returned result => rfl
  | failed error => rfl
  | interrupted => rfl

/-! ## The log -/

/-- A call that takes pending work up, and inside of which the runs take place that it starts. -/
inductive Caller where
  /-- somebody who wanted the pending work right away -/
  | flush
  /-- the thread of an armed timer that expired -/
  | timer
deriving Repr, DecidableEq, Inhabited

/-- Something that happened. -/
inductive Mark where
  /-- a change was accepted -/
  | accepted
  /-- pending work was taken up -/
  | taken (caller : Caller)
  /-- a run was queued -/
  | queued
  /-- a run started -/
  | started
  /-- a run ended, in whatever way -/
  | ended
  /-- a flush that had taken work up returned -/
  | returned
  /-- a flush that had taken work up was left together with its interrupted run -/
  | raised
  /-- the scheduler was closed -/
  | closed
deriving Repr, DecidableEq, Inhabited

namespace Caller

/-- The mark of a call that is over at once. -/
def answer : Caller → List Mark
  | flush => [.returned]
  | timer => []

/-- The mark of a call that is over together with its last run.  Nobody is told by a thread of a timer. -/
def leave (outcome : Outcome ρ ε) : Caller → List Mark
  | timer => []
  | flush =>
    match outcome with
    | .interrupted => [.raised]
    | _ => [.returned]

theorem not_mem_answer (caller : Caller) {m : Mark} (hm : m ≠ .returned) : m ∉ caller.answer := by
  cases caller with
  | flush => exact fun hmem => hm (List.mem_singleton.1 hmem)
  | timer => exact List.not_mem_nil

theorem not_mem_leave (caller : Caller) (outcome : Outcome ρ ε) {m : Mark} (hreturned : m ≠ .returned)
    (hraised : m ≠ .raised) : m ∉ caller.leave outcome := by
  cases caller with
  | timer => exact List.not_mem_nil
  | flush =>
    cases outcome with
    | returned result => exact fun hmem => hreturned (List.mem_singleton.1 hmem)
    | failed error => exact fun hmem => hreturned (List.mem_singleton.1 hmem)
    | interrupted => exact fun hmem => hraised (List.mem_singleton.1 hmem)

end Caller

/-- The marks of an uptake.  A call that starts a run is not over yet. -/
def Uptake.marks (caller : Caller) : Uptake → List Mark
  | superseded => []
  | dropped => .taken caller :: caller.answer
  | queued => .taken caller :: .queued :: caller.answer
  | started => [.taken caller, .started]

/-- A scheduler and what happened so far. -/
structure Logged (ρ ε : Type) where
  now : Scheduler ρ ε
  /-- the calls inside of which a run is in flight, the innermost first -/
  inFlight : List Caller
  /-- the marks of all that happened, in order -/
  log : List Mark
deriving Repr, DecidableEq, Inhabited

namespace Logged

/-- A new scheduler at which nothing has happened. -/
def start : Logged ρ ε := { now := Scheduler.start, inFlight := [], log := [] }

/-- A call comes for the pending work. -/
def takeUp (caller : Caller) (timer : Option Nat) (h : Logged ρ ε) : Logged ρ ε :=
  let uptake := h.now.uptake timer
  { now := h.now.fire timer
    inFlight := if uptake = .started then caller :: h.inFlight else h.inFlight
    log := h.log ++ uptake.marks caller }

/-- The innermost run ends.  Its call goes on with the run that follows, or is over. -/
def finish (outcome : Outcome ρ ε) (h : Logged ρ ε) : Logged ρ ε :=
  match h.inFlight with
  | [] => h
  | caller :: outer =>
    let now := h.now.finish outcome
    if h.now.follows outcome then { h with now, log := h.log ++ [.ended, .started] }
    else { now, inFlight := outer, log := h.log ++ .ended :: caller.leave outcome }

/-- One event. -/
def step (h : Logged ρ ε) : Event ρ ε → Logged ρ ε
  | .change =>
    { h with now := h.now.notify, log := h.log ++ (if h.now.closed then [] else [.accepted]) }
  | .flush => if h.now.hasPending then h.takeUp .flush none else h
  | .close => { h with now := h.now.close, log := h.log ++ [.closed] }
  | .expire timer => h.takeUp .timer (some timer)
  | .finish outcome => h.finish outcome

/-- One event after the other. -/
def run (h : Logged ρ ε) (events : List (Event ρ ε)) : Logged ρ ε := events.foldl step h

theorem run_concat (h : Logged ρ ε) (events : List (Event ρ ε)) (e : Event ρ ε) :
    h.run (events ++ [e]) = (h.run events).step e := by
  rw [run, List.foldl_append]
  rfl

end Logged

end Scheduler

end CodeAtlas
