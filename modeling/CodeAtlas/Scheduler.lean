/-!
  Debounced runs of an analysis that never overlap.

  Every change arms a new timer in place of the armed one.  When the armed timer expires, or somebody asks
  for the pending work right away, a run starts; if one is in flight already, a single follow-up run is
  queued.  A run may return, fail, or be interrupted.  Whoever waits for the scheduler to become idle waits
  until no timer is armed and no run is in flight.

  The scheduler is shared between threads and protected by a lock.  Each section that holds the lock is a
  function on the state; these are the atomic steps.  `step` puts them together to whole operations.  A run
  in flight is a state, `running`, and its end is an event like any other; the events in between are those
  that happen while it is in flight.

  Timers are numbered in the order of their creation.  An expiration names its timer, because a timer that
  was superseded or cancelled may expire all the same.
-/
namespace CodeAtlas

/-- The state of a scheduler; runs return a `ρ` or fail with an `ε`. -/
structure Scheduler (ρ ε : Type) where
  /-- the armed timer -/
  armed : Option Nat
  /-- how many timers have been created -/
  timers : Nat
  /-- a run is in flight -/
  running : Bool
  /-- a follow-up run is queued -/
  pending : Bool
  closed : Bool
  idle : Bool
  runCount : Nat
  lastResult : Option ρ
  lastError : Option ε
deriving Repr, DecidableEq, Inhabited

namespace Scheduler

variable {ρ ε : Type}

/-- How a run ends. -/
inductive Outcome (ρ ε : Type) where
  | returned (result : ρ)
  | failed (error : ε)
  /-- the run was left in a way that ends its thread -/
  | interrupted
deriving Repr, DecidableEq, Inhabited

/-- A new scheduler. -/
def start : Scheduler ρ ε :=
  { armed := none, timers := 0, running := false, pending := false, closed := false, idle := true
    runCount := 0, lastResult := none, lastError := none }

/-! ## Locked sections -/

/-- A change arms a new timer; a closed scheduler takes no changes. -/
def notify (s : Scheduler ρ ε) : Scheduler ρ ε :=
  if s.closed then s
  else { s with armed := some s.timers, timers := s.timers + 1, idle := false }

/-- Whether there is pending work to be done right away. -/
def hasPending (s : Scheduler ρ ε) : Bool := s.armed.isSome

/-- Takes the pending work up: it starts a run, or queues one behind the run in flight.  An expiring timer
    names itself, and only the armed one counts. -/
def fire (timer : Option Nat) (s : Scheduler ρ ε) : Scheduler ρ ε :=
  if timer.isSome && timer ≠ s.armed then s
  else
    let s := { s with armed := none }
    if s.closed then s
    else if s.running then { s with pending := true }
    else { s with running := true }

theorem notify_cases (s : Scheduler ρ ε) :
    s.closed = true ∧ s.notify = s ∨
      s.closed = false ∧
        s.notify = { s with armed := some s.timers, timers := s.timers + 1, idle := false } := by
  cases h : s.closed with
  | true => exact .inl ⟨rfl, by rw [notify, h]; rfl⟩
  | false => exact .inr ⟨rfl, by rw [notify, h]; rfl⟩

/-- Taking pending work up does nothing for a timer that does not count.  Else it disarms the timer; and unless
    the scheduler is closed, it queues a run or starts one. -/
theorem fire_cases (timer : Option Nat) (s : Scheduler ρ ε) :
    (timer ≠ none ∧ timer ≠ s.armed ∧ s.fire timer = s) ∨
      (timer = none ∨ timer = s.armed) ∧
        (s.closed = true ∧ s.fire timer = { s with armed := none } ∨
          s.closed = false ∧ s.running = true ∧
            s.fire timer = { s with armed := none, pending := true } ∨
          s.closed = false ∧ s.running = false ∧
            s.fire timer = { s with armed := none, running := true }) := by
  by_cases hcounts : timer = none ∨ timer = s.armed
  · have hguard : (timer.isSome && decide (timer ≠ s.armed)) = false := by
      rcases hcounts with rfl | rfl
      · rfl
      · simp
    have hfire : s.fire timer =
        if s.closed then { s with armed := none }
        else if s.running then { s with armed := none, pending := true }
        else { s with armed := none, running := true } := by
      rw [fire, hguard]
      rfl
    refine .inr ⟨hcounts, ?_⟩
    rw [hfire]
    cases hclosed : s.closed with
    | true => exact .inl ⟨rfl, rfl⟩
    | false =>
      cases hrunning : s.running with
      | true => exact .inr (.inl ⟨rfl, rfl, rfl⟩)
      | false => exact .inr (.inr ⟨rfl, rfl, rfl⟩)
  · obtain ⟨hsome, harmed⟩ := not_or.1 hcounts
    exact .inl ⟨hsome, harmed, by simp [fire, harmed, Option.isSome_iff_ne_none.2 hsome]⟩

/-- Closing disarms the timer and drops a queued run. -/
def close (s : Scheduler ρ ε) : Scheduler ρ ε :=
  { s with
    closed := true
    armed := none
    pending := false
    idle := s.idle || !s.running }

/-- Keeps what a run came to. -/
def record (outcome : Outcome ρ ε) (s : Scheduler ρ ε) : Scheduler ρ ε :=
  let s := { s with runCount := s.runCount + 1 }
  match outcome with
  | .returned result => { s with lastResult := some result, lastError := none }
  | .failed error => { s with lastError := some error }
  | .interrupted => s

/-- Whether a finished run is followed by the queued one. -/
def goesOn (s : Scheduler ρ ε) : Bool := s.pending && !s.closed

/-- Takes the queued run up. -/
def takeQueued (s : Scheduler ρ ε) : Scheduler ρ ε := { s with pending := false }

/-- Leaves the loop of the runs. -/
def release (s : Scheduler ρ ε) : Scheduler ρ ε :=
  { s with
    running := false
    idle := s.idle || s.armed.isNone }

/-! ## Operations -/

/-- What can happen to a scheduler. -/
inductive Event (ρ ε : Type) where
  /-- something changed -/
  | change
  /-- the pending work is wanted right away -/
  | flush
  | close
  /-- a timer expires -/
  | expire (timer : Nat)
  /-- the run in flight ends -/
  | finish (outcome : Outcome ρ ε)
deriving Repr, DecidableEq, Inhabited

/-- The end of a run: the queued one follows at once, else the loop is left.  An interruption leaves it in
    any case. -/
def finish (outcome : Outcome ρ ε) (s : Scheduler ρ ε) : Scheduler ρ ε :=
  let s := s.record outcome
  match outcome with
  | .interrupted => s.release
  | _ => if s.goesOn then s.takeQueued else s.release

/-- One event.  Nothing finishes while no run is in flight. -/
def step (s : Scheduler ρ ε) : Event ρ ε → Scheduler ρ ε
  | .change => s.notify
  | .flush => if s.hasPending then s.fire none else s
  | .close => s.close
  | .expire timer => s.fire (some timer)
  | .finish outcome => if s.running then s.finish outcome else s

/-- One event after the other. -/
def run (s : Scheduler ρ ε) (events : List (Event ρ ε)) : Scheduler ρ ε := events.foldl step s

/-- Whether an event starts a run. -/
def starts (s : Scheduler ρ ε) (e : Event ρ ε) : Bool :=
  (s.step e).running && match e with
    | .finish _ => s.running
    | _ => !s.running

end Scheduler

end CodeAtlas
