import CodeAtlas.Scheduler
/-!
  The scheduler section by section.

  Between two locked sections of one thread there can be any sections of other threads.  Two operations have
  more than one section:

    * whoever asks for the pending work looks for it first and takes it up later;
    * the thread of the runs hands a finished run over to the queued one, or finds that there is none;  it
      leaves the loop in a section of its own, and after an interruption that section is the only one.

  `Threads` is a scheduler with all that has to be known about the threads: where the one of the runs is, and
  how many others are about to take up pending work.  A move is one section of one thread; a move of a thread
  that is somewhere else does nothing.  `moves` takes an operation apart, and `run_moves` says that the moves
  of an operation, one right after the other, are the operation.
-/
namespace CodeAtlas

namespace Scheduler

/-- Where the thread of the runs is. -/
inductive Stage where
  /-- there is no such thread -/
  | absent
  /-- in a run -/
  | inRun
  /-- behind a run that returned or failed -/
  | ended
  /-- out of the loop, but the scheduler is not released yet -/
  | leaving
deriving Repr, DecidableEq, Inhabited

/-- Where the thread of the runs is when a run has ended. -/
def Stage.behind {ρ ε : Type} : Outcome ρ ε → Stage
  | .returned _ => ended
  | .failed _ => ended
  | .interrupted => leaving

/-- A scheduler and the threads that use it. -/
structure Threads (ρ ε : Type) where
  shared : Scheduler ρ ε
  stage : Stage
  /-- how many threads have seen pending work and not taken it up yet -/
  flushing : Nat
deriving Repr, DecidableEq, Inhabited

/-- One section of one thread. -/
inductive Move (ρ ε : Type) where
  | change
  | close
  | expire (timer : Nat)
  /-- somebody who wants the pending work sees that there is some -/
  | look
  /-- and takes it up -/
  | take
  /-- the run in flight ends -/
  | finish (outcome : Outcome ρ ε)
  /-- the queued run follows, or the loop is left -/
  | handOver
  /-- the thread of the runs is gone -/
  | release
deriving Repr, DecidableEq, Inhabited

namespace Threads

variable {ρ ε : Type}

/-- A new scheduler without threads. -/
def start : Threads ρ ε := { shared := Scheduler.start, stage := .absent, flushing := 0 }

/-- Pending work is taken up; if no run is in flight then this thread is the one of the runs from now on. -/
def fire (timer : Option Nat) (t : Threads ρ ε) : Threads ρ ε :=
  let shared := t.shared.fire timer
  { t with
    shared
    stage := if shared.running && !t.shared.running then .inRun else t.stage }

/-- Taking pending work up, with the thread that does it: if it starts a run then it is in that run. -/
theorem fire_cases (timer : Option Nat) (t : Threads ρ ε) :
    (timer ≠ none ∧ timer ≠ t.shared.armed ∧ t.fire timer = t) ∨
      (timer = none ∨ timer = t.shared.armed) ∧
        (t.shared.closed = true ∧ t.fire timer = { t with shared := { t.shared with armed := none } } ∨
          t.shared.closed = false ∧ t.shared.running = true ∧
            t.fire timer = { t with shared := { t.shared with armed := none, pending := true } } ∨
          t.shared.closed = false ∧ t.shared.running = false ∧
            t.fire timer =
              { t with shared := { t.shared with armed := none, running := true }, stage := .inRun }) := by
  obtain ⟨hsome, harmed, hfire⟩ | ⟨hcounts, hcases⟩ := t.shared.fire_cases timer
  · refine .inl ⟨hsome, harmed, ?_⟩
    simp [fire, hfire]
  · refine .inr ⟨hcounts, ?_⟩
    obtain ⟨hclosed, hfire⟩ | ⟨hopen, hrunning, hfire⟩ | ⟨hopen, hidle, hfire⟩ := hcases
    · exact .inl ⟨hclosed, by simp [fire, hfire]⟩
    · exact .inr (.inl ⟨hopen, hrunning, by simp [fire, hfire, hrunning]⟩)
    · exact .inr (.inr ⟨hopen, hidle, by simp [fire, hfire, hidle]⟩)

/-- One move. -/
def step (t : Threads ρ ε) : Move ρ ε → Threads ρ ε
  | .change => { t with shared := t.shared.notify }
  | .close => { t with shared := t.shared.close }
  | .expire timer => t.fire (some timer)
  | .look => if t.shared.hasPending then { t with flushing := t.flushing + 1 } else t
  | .take => if t.flushing = 0 then t else fire none { t with flushing := t.flushing - 1 }
  | .finish outcome =>
    if t.stage = .inRun then
      { t with shared := t.shared.record outcome, stage := .behind outcome }
    else t
  | .handOver =>
    if t.stage = .ended then
      if t.shared.goesOn then { t with shared := t.shared.takeQueued, stage := .inRun }
      else { t with stage := .leaving }
    else t
  | .release =>
    if t.stage = .leaving then { t with shared := t.shared.release, stage := .absent } else t

/-- One move after the other. -/
def run (t : Threads ρ ε) (moves : List (Move ρ ε)) : Threads ρ ε := moves.foldl step t

theorem run_append (t : Threads ρ ε) (before after : List (Move ρ ε)) :
    t.run (before ++ after) = (t.run before).run after :=
  List.foldl_append

theorem run_concat (t : Threads ρ ε) (before : List (Move ρ ε)) (m : Move ρ ε) :
    t.run (before ++ [m]) = (t.run before).step m := by
  rw [run_append]
  rfl

/-! ## Operations -/

/-- The threads between two operations: nobody is between two sections. -/
def atRest (s : Scheduler ρ ε) : Threads ρ ε :=
  { shared := s, stage := if s.running then .inRun else .absent, flushing := 0 }

/-- The sections of an operation. -/
def moves : Event ρ ε → List (Move ρ ε)
  | .change => [.change]
  | .flush => [.look, .take]
  | .close => [.close]
  | .expire timer => [.expire timer]
  | .finish outcome => [.finish outcome, .handOver, .release]

/-- Taking pending work up leaves a thread of the runs where it is, and else may start one. -/
theorem fire_atRest (timer : Option Nat) (s : Scheduler ρ ε) :
    (atRest s).fire timer = atRest (s.fire timer) := by
  have hshared : ((atRest s).fire timer).shared = s.fire timer := rfl
  obtain ⟨-, -, hfire⟩ | ⟨-, ⟨-, hfire⟩ | ⟨-, hrunning, hfire⟩ | ⟨-, -, hfire⟩⟩ :=
    (atRest s).fire_cases timer
  all_goals
    rw [← hshared, hfire]
    rfl

/-- The end of a run and the sections behind it are the end of a run as a whole. -/
theorem run_finish (outcome : Outcome ρ ε) (s : Scheduler ρ ε) (hrunning : s.running = true) :
    (atRest s).run [.finish outcome, .handOver, .release] = atRest (s.finish outcome) := by
  have hrest : atRest s = ⟨s, .inRun, 0⟩ := by rw [atRest, if_pos hrunning]
  rw [hrest]
  -- the two ways out of a run that was not interrupted
  have hthrough : ∀ u : Scheduler ρ ε, u.running = true →
      ((Threads.mk u .ended 0).step .handOver).step .release =
        atRest (if u.goesOn then u.takeQueued else u.release) := by
    intro u hu
    cases hgoes : u.goesOn with
    | true =>
      simp only [step, hgoes, if_true]
      rw [atRest, if_pos (show u.takeQueued.running = true from hu)]
      rfl
    | false =>
      simp only [step, hgoes]
      rfl
  cases outcome with
  | returned result => exact hthrough (s.record (.returned result)) hrunning
  | failed error => exact hthrough (s.record (.failed error)) hrunning
  | interrupted => rfl

/-- **The sections of an operation, one right after the other, are the operation.** -/
theorem run_moves (s : Scheduler ρ ε) (e : Event ρ ε) : (atRest s).run (moves e) = atRest (s.step e) := by
  cases e with
  | change =>
    show Threads.mk s.notify (atRest s).stage 0 = atRest s.notify
    have hrunning : s.notify.running = s.running := by
      unfold Scheduler.notify
      split <;> rfl
    rw [atRest, atRest, hrunning]
  | flush =>
    show ((atRest s).step .look).step .take = atRest (if s.hasPending then s.fire none else s)
    have hlook : (atRest s).step .look =
        if s.hasPending then { atRest s with flushing := 1 } else atRest s := rfl
    cases hpending : s.hasPending with
    | true =>
      rw [hlook, hpending]
      exact fire_atRest none s
    | false =>
      rw [hlook, hpending]
      rfl
  | close => rfl
  | expire timer => exact fire_atRest (some timer) s
  | finish outcome =>
    show (atRest s).run [.finish outcome, .handOver, .release] =
      atRest (if s.running then s.finish outcome else s)
    cases hrunning : s.running with
    | true => exact run_finish outcome s hrunning
    | false =>
      have hrest : atRest s = ⟨s, .absent, 0⟩ := by rw [atRest, hrunning]; rfl
      rw [hrest]
      exact hrest.symm

/-- **Operations one after the other** are what the threads do when none of them gets in between. -/
theorem run_flatMap_moves (s : Scheduler ρ ε) (events : List (Event ρ ε)) :
    (atRest s).run (events.flatMap moves) = atRest (s.run events) := by
  induction events generalizing s with
  | nil => rfl
  | cons e rest ih =>
    rw [List.flatMap_cons, run_append, run_moves]
    exact ih (s.step e)

end Threads

end Scheduler

end CodeAtlas
