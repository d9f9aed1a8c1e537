import CodeAtlas.OrderedMap
import CodeAtlas.Session
/-!
  A session with many clients.

  Every locked section is one move, and between two sections of one client there can be any moves of other
  clients.  Only a reading of the metrics has two sections: in the first one the client sees the graph and the
  kept metrics, in the second one it hands in what it has computed from that graph.  Who makes a move does not
  matter to the session, so clients have no names.  Readings have numbers instead, in the order in which they
  begin, and `Shared` knows of every reading that is between its sections which graph it has seen.

  A graph is told by its stamp.  `graphs` is the graph with each stamp: whoever puts in the same graph again
  puts in the same stamp.  The metrics that a reading computes carry the number of the reading as their stamp.

  `run_ask_settle` says that the two sections of a reading, one right after the other, are the reading as a
  whole.
-/
namespace CodeAtlas

namespace Session

/-- A session, and the readings that clients are busy with. -/
structure Shared where
  session : Session
  /-- how many readings have begun -/
  begun : Nat
  /-- the readings between their two sections, with the graphs that they have seen -/
  pending : OrderedMap Nat (Stamped Graph)
deriving Repr, DecidableEq, Inhabited

/-- One section of one client. -/
inductive Move where
  /-- a reading begins -/
  | ask
  /-- a reading hands in what it has computed -/
  | settle (reading : Nat)
  /-- somebody fetches the graph -/
  | look
  /-- somebody puts the graph with a stamp in -/
  | replace (graph : Nat)
  | close
deriving Repr, DecidableEq, Inhabited

/-- What a client gets back for a move. -/
inductive Answer where
  /-- nothing, or nothing yet -/
  | silence
  | metrics (found : Option (Stamped Metrics))
  | graph (held : Option (Stamped Graph))
  | refused (fault : Fault)
deriving Repr, DecidableEq, Inhabited

/-- The answer to what has been computed. -/
def Answer.ofComputed : Except Fault (Stamped Metrics) → Answer
  | .ok m => .metrics (some m)
  | .error f => .refused f

/-- The graph that a move brings. -/
def Move.brings? : Move → Option Nat
  | .replace n => some n
  | _ => none

namespace Shared

variable (graphs : Nat → Graph)

/-- The graph with a stamp. -/
def stamped (n : Nat) : Stamped Graph := ⟨n, graphs n⟩

/-- A new session without readings. -/
def start (initial : Option Nat) (policy : CyclePolicy) : Shared :=
  { session := Session.start (initial.map (stamped graphs)) policy, begun := 0, pending := .empty }

/-- What a reading of a graph computes. -/
def computed (s : Shared) (reading : Nat) (g : Stamped Graph) : Except Fault (Stamped Metrics) :=
  (g.value.metrics s.session.policy none).map fun m => ⟨reading, m⟩

/-- The answer to a move. -/
def answer (s : Shared) : Move → Answer
  | .ask =>
    match s.session.beginMetrics with
    | .absent => .metrics none
    | .known m => .metrics (some m)
    | .pending _ => .silence
  | .settle reading =>
    match s.pending.get? reading with
    | some g => Answer.ofComputed (s.computed reading g)
    | none => .silence
  | .look => .graph s.session.graph
  | .replace n =>
    match s.session.replace (stamped graphs n) with
    | .ok _ => .silence
    | .error f => .refused f
  | .close => .silence

/-- One move.  A reading that is not between its sections hands nothing in, and one whose metrics cannot be
    computed ends without its second section. -/
def step (s : Shared) : Move → Shared
  | .ask =>
    match s.session.beginMetrics with
    | .pending g => { s with begun := s.begun + 1, pending := s.pending.insert s.begun g }
    | _ => { s with begun := s.begun + 1 }
  | .settle reading =>
    match s.pending.get? reading with
    | some g =>
      { s with
        pending := s.pending.erase reading
        session :=
          match s.computed reading g with
          | .ok m => s.session.endMetrics g m
          | .error _ => s.session }
    | none => s
  | .look => s
  | .replace n =>
    match s.session.replace (stamped graphs n) with
    | .ok session => { s with session }
    | .error _ => s
  | .close => { s with session := s.session.close }

/-- One move after the other. -/
def run (s : Shared) (moves : List Move) : Shared := moves.foldl (step graphs) s

theorem run_append (s : Shared) (before after : List Move) :
    s.run graphs (before ++ after) = (s.run graphs before).run graphs after :=
  List.foldl_append

theorem run_concat (s : Shared) (moves : List Move) (m : Move) :
    s.run graphs (moves ++ [m]) = (s.run graphs moves).step graphs m := by
  rw [run_append]
  rfl

/-- **The sections of a reading, one right after the other, are the reading as a whole**: with the answer of
    the first one that has an answer, and the same session behind them. -/
theorem run_ask_settle (s : Shared) (hnew : s.pending.get? s.begun = none) :
    (match s.answer graphs .ask with
      | .silence => (s.step graphs .ask).answer graphs (.settle s.begun)
      | a => a,
      (s.run graphs [.ask, .settle s.begun]).session) =
    match s.session.readMetrics s.begun with
    | .ok (found, session) => (.metrics found, session)
    | .error f => (.refused f, s.session) := by
  cases hbegin : s.session.beginMetrics with
  | absent => simp [run, step, answer, readMetrics, hbegin, hnew]
  | known m => simp [run, step, answer, readMetrics, hbegin, hnew]
  | pending g =>
    have hseen : (s.pending.insert s.begun g).get? s.begun = some g := by simp [OrderedMap.get?_insert]
    cases hmetrics : g.value.metrics s.session.policy none with
    | ok m =>
      simp [run, step, answer, computed, readMetrics, hbegin, hseen, hmetrics, Except.map, Answer.ofComputed,
        bind, Except.bind, pure, Except.pure]
    | error f =>
      simp [run, step, answer, computed, readMetrics, hbegin, hseen, hmetrics, Except.map, Answer.ofComputed,
        bind, Except.bind]

end Shared

end Session

end CodeAtlas
