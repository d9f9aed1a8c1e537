import CodeAtlas.Proofs.Scheduler.Effects
import CodeAtlas.Proofs.Scheduler.Queue
/-!
  No change is lost.

  An accepted change waits for a run that starts after it.  On its way there it is handed on: from the armed
  timer to the queue behind a run in flight, to the timer of a later change, or to a run.  So as long as the
  scheduler is open, one of three things holds (`covered_run`): a timer is armed, or a run is queued, or every
  accepted change was followed by the start of a run.

  This is so whatever way runs end.  An interruption breaks something else: it may leave a run in the queue
  that nobody takes up.  Without interruptions nothing is queued unless a run is in flight
  (`sound_operations_iff`), and then an idle scheduler has no place left where a change could wait.

  All of this is about whole operations: changes, flushes, expirations, closing and the ends of runs, each one at once,
  and nested only where a run in flight calls back.  Between the locked sections that an operation is made of
  (`Scheduler.Threads`) more can happen.  The thread of the runs first finds that nothing is queued and then leaves;
  work that is taken up in between is queued behind a run that has ended, and nobody looks for it again.  So there a
  late change can be lost, and two flushes can both start a run for one change.
-/
namespace CodeAtlas

namespace Scheduler.Logged

variable {ρ ε : Type}

/-- Every accepted change was followed by a run that started after it. -/
def Followed (log : List Mark) : Prop :=
  ∀ before after, log = before ++ .accepted :: after → .started ∈ after

/-- The start of a run follows all that was accepted before; any other mark leaves things as they were,
    unless it is a new change. -/
theorem followed_concat_iff (log : List Mark) (m : Mark) :
    Followed (log ++ [m]) ↔ m = .started ∨ m ≠ .accepted ∧ Followed log := by
  constructor
  · intro h
    by_cases hm : m = .started
    · exact .inl hm
    · refine .inr ⟨?_, fun before after hlog => ?_⟩
      · rintro rfl
        exact absurd (h log [] rfl) List.not_mem_nil
      · have hafter : .started ∈ after ++ [m] := h before (after ++ [m]) (by rw [hlog]; simp)
        rcases List.mem_append.1 hafter with hstarted | hlast
        · exact hstarted
        · exact absurd (List.mem_singleton.1 hlast).symm hm
  · intro h before after hlog
    rcases (concat_eq_iff _ _ _ _ _).1 hlog with ⟨rfl, rfl, rfl⟩ | ⟨between, rfl, rfl⟩
    · rcases h with hm | ⟨hm, -⟩
      · exact Mark.noConfusion hm
      · exact absurd rfl hm
    · rw [List.mem_append, List.mem_singleton]
      rcases h with hm | ⟨-, hbefore⟩
      · exact .inr hm.symm
      · exact .inl (hbefore before between rfl)

theorem followed_append {log : List Mark} (h : Followed log) (ms : List Mark) (hms : .accepted ∉ ms) :
    Followed (log ++ ms) := by
  induction ms using List.reverseRecOn with
  | nil => rwa [List.append_nil]
  | append_singleton ms m ih =>
    rw [List.mem_append, List.mem_singleton, not_or] at hms
    rw [← List.append_assoc, followed_concat_iff]
    exact .inr ⟨Ne.symm hms.2, ih hms.1⟩

/-- A change that was accepted waits at a timer or in the queue, or was followed by a run. -/
def Covered (h : Logged ρ ε) : Prop :=
  h.now.closed = false → h.now.armed ≠ none ∨ h.now.pending = true ∨ Followed h.log

theorem Effect.covered {h h' : Logged ρ ε} {e : Event ρ ε} (heffect : Effect h e h') (hc : h.Covered) :
    h'.Covered := by
  cases heffect with
  | nothing => exact hc
  | accept hopen => exact fun _ => .inl (Option.some_ne_none _)
  | close => exact fun hopen => Bool.noConfusion hopen
  | queue _ caller hopen harmed hrunning => exact fun _ => .inr (.inl rfl)
  | start _ caller hopen harmed hrunning =>
    intro _
    refine .inr (.inr ?_)
    show Followed (h.log ++ [.taken caller, .started])
    rw [List.append_cons, followed_concat_iff]
    exact .inl rfl
  | follow outcome hinFlight hwhole hpending hopen =>
    intro _
    refine .inr (.inr ?_)
    show Followed (h.log ++ [.ended, .started])
    rw [List.append_cons, followed_concat_iff]
    exact .inl rfl
  | leave outcome caller outer hinFlight hover =>
    obtain ⟨result, error, hrecord⟩ := h.now.record_eq outcome
    rw [hrecord]
    intro hopen
    rcases hc hopen with harmed | hpending | hfollowed
    · exact .inl harmed
    · exact .inr (.inl hpending)
    · refine .inr (.inr (followed_append hfollowed _ ?_))
      simpa using caller.not_mem_leave outcome Mark.noConfusion Mark.noConfusion

/-- **Where changes wait**, in whatever way runs end. -/
theorem covered_run (events : List (Event ρ ε)) : (start.run events).Covered := by
  refine run_induction (fun _ => .inr (.inr ?_)) (fun _ _ _ _ hc heffect => heffect.covered hc) events
  intro before after hnil
  exact absurd hnil.symm (List.append_ne_nil_of_right_ne_nil before (List.cons_ne_nil _ after))

/-- **No change is lost** as long as no run is interrupted: when an open scheduler is idle, every change that
    it accepted was followed by a run that started after it. -/
theorem followed_of_idle (events : List (Event ρ ε)) (hwhole : .finish .interrupted ∉ events)
    (hopen : (start.run events).now.closed = false) (hidle : (start.run events).now.idle = true) :
    Followed (start.run events).log := by
  have ht := tidy_run events
  obtain ⟨harmed, hinFlight⟩ := ht.idle_iff.1 hidle
  have hstill := ht.still_iff.2 hinFlight
  have hsound : (start.run events).now.Sound := by
    rw [now_run]
    refine (sound_operations_iff events).2 (fun before hbefore => ?_) events List.prefix_rfl
    exact absurd (hbefore.subset (List.mem_append_right before List.mem_cons_self)) hwhole
  -- neither a timer nor the queue is left as a place to wait
  rcases covered_run events hopen with hwaiting | hpending | hfollowed
  · exact absurd harmed hwaiting
  · exact absurd ((hsound hstill).symm.trans hpending) Bool.false_ne_true
  · exact hfollowed

/-- Changes on all ways to a run: taken up by a flush; superseded during that run, and queued behind it by the
    timer of the next change while the old timer expires in vain; and armed during the run that follows. -/
def burst : List (Event Nat String) :=
  [.change, .flush, .change, .change, .expire 1, .expire 2, .finish (.failed "boom"), .change,
    .finish (.returned 1), .expire 3, .expire 3, .finish (.returned 2)]

theorem followed_burst :
    .finish .interrupted ∉ burst ∧ (start.run burst).now.closed = false ∧
      (start.run burst).now.idle = true ∧ (start.run burst).log.count .accepted = 4 ∧
      (start.run burst).log.count .started = 3 ∧ Followed (start.run burst).log := by
  have hwhole : .finish .interrupted ∉ burst := by decide
  have hopen : (start.run burst).now.closed = false := by decide
  have hidle : (start.run burst).now.idle = true := by decide
  exact ⟨hwhole, hopen, hidle, by decide, by decide, followed_of_idle burst hwhole hopen hidle⟩

end Scheduler.Logged

end CodeAtlas
