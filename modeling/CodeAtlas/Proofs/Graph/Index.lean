import CodeAtlas.Graph.Live
import Mathlib.Data.List.Find
/-!
  Which node a lookup finds in a graph that is changed in place.

  The index is never told of a change.  So what it knows is what the graph was when it was built, and that is
  a matter of the history alone: `lastRebuild` reads it off the lookups, of which one rebuilds exactly if the
  list has other nodes or another order than at the rebuild before it.  At all times the index is the one of that
  graph (`index_run`).

  Hence a lookup finds the last node of the present list that had the identifier then (`answers_run`).  It never
  finds a node that is not in the list any more, and it is right about the present identifiers as long as they
  are the ones of that rebuild.
-/
namespace CodeAtlas

namespace LiveGraph

/-- The graph that the index has to be about at a lookup: the one of the previous rebuild while the list has the
    same nodes in the same order, else the present one. -/
def basis (now : LiveGraph) : Option LiveGraph → LiveGraph
  | some built => if built.members = now.members then built else now
  | none => now

/-- The graph as it was at the last rebuild of some steps; `built` is the one before them. -/
def lastRebuild (now : LiveGraph) (built : Option LiveGraph) : List Step → Option LiveGraph
  | [] => built
  | s :: rest => lastRebuild (now.step s) (if s.isLookup then some (now.basis built) else built) rest

/-- The basis of the index has the members of the graph as it is now. -/
theorem members_basis (now : LiveGraph) (built : Option LiveGraph) :
    (now.basis built).members = now.members := by
  cases built with
  | none => rfl
  | some built =>
    rw [basis]
    split
    · assumption
    · rfl

/-- An index that was just built knows all members. -/
theorem stamps_indexed (g : LiveGraph) : g.indexed.stamps = g.members := by
  simp [indexed, NodeIndex.stamps, Function.comp_def]

/-- A lookup uses the index of the last rebuild, counting its own. -/
theorem currentIndex_eq {now : LiveGraph} {built : Option LiveGraph} (h : now.index = built.map indexed) :
    now.currentIndex = (now.basis built).indexed := by
  rw [currentIndex, h]
  cases built with
  | none => rfl
  | some built =>
    simp only [Option.map_some, stamps_indexed, basis]
    split <;> rfl

/-- A lookup may rebuild the index, and no change touches it. -/
theorem index_step {now : LiveGraph} {built : Option LiveGraph} (h : now.index = built.map indexed) (s : Step) :
    (now.step s).index = (if s.isLookup then some (now.basis built) else built).map indexed := by
  cases s with
  | make n => exact h
  | insert position stamp => exact h
  | remove i =>
    rw [step, removeNode]
    cases now.place i with
    | error f => exact h
    | ok place => exact h
  | exchange i stamp =>
    rw [step, exchange]
    cases now.place i with
    | error f => exact h
    | ok place => exact h
  | relabel stamp id => exact h
  | reverse => exact h
  | lookup id => exact congrArg some (currentIndex_eq h)

/-- **The index is the one of the graph at the last rebuild.** -/
theorem index_run (steps : List Step) {now : LiveGraph} {built : Option LiveGraph}
    (h : now.index = built.map indexed) :
    (now.run steps).index = (now.lastRebuild built steps).map indexed := by
  induction steps generalizing now built with
  | nil => exact h
  | cons s rest ih => exact ih (index_step h s)

/-! ## Lookups -/

/-- The last node of a graph that has an identifier. -/
theorem stamp?_indexed (g : LiveGraph) (id : String) :
    g.indexed.stamp? id = g.members.reverse.find? fun stamp => (g.node stamp).id = id := by
  rw [NodeIndex.stamp?, indexed, ← List.map_reverse, List.find?_map, Option.map_map]
  simp [Function.comp_def]

/-- What lookups answer, where the index is about an earlier state of the graph. -/
structure Answers (built now : LiveGraph) (id : String) : Prop where
  /-- The list has the nodes of that state in the same order. -/
  members : built.members = now.members
  /-- The last node of the list that had the identifier is found, as it is now. -/
  found : (now.find? id).1 =
    (now.members.reverse.find? fun stamp => (built.node stamp).id = id).map now.node
  /-- An identifier is there exactly if it can be looked up. -/
  contained : (now.contains id).1 = (now.find? id).1.isSome
  /-- Nothing is found but the nodes of the list. -/
  present : ∀ n, (now.find? id).1 = some n → ∃ stamp ∈ now.members, n = now.node stamp
  /-- While no identifier has changed, the node with the present identifier is found. -/
  right : (∀ stamp ∈ now.members, (built.node stamp).id = (now.node stamp).id) →
    (now.find? id).1 = now.toGraph.find? id
  /-- The index is about that state from then on. -/
  kept : (now.find? id).2.index = some built.indexed ∧ (now.contains id).2.index = some built.indexed

/-- What an index answers is what the graph answered when it was built. -/
theorem answers_of_index {now : LiveGraph} {built : Option LiveGraph} (h : now.index = built.map indexed)
    (id : String) : Answers (now.basis built) now id := by
  have hmembers := members_basis now built
  have hindex := currentIndex_eq h
  have hfound : (now.find? id).1 =
      (now.members.reverse.find? fun stamp => ((now.basis built).node stamp).id = id).map now.node := by
    rw [find?, hindex, stamp?_indexed, hmembers]
  refine ⟨hmembers, hfound, by simp [contains, find?], fun n hn => ?_, fun hsame => ?_, ?_⟩
  · rw [hfound] at hn
    obtain ⟨stamp, hstamp, rfl⟩ := Option.map_eq_some_iff.1 hn
    exact ⟨stamp, List.mem_reverse.1 (List.mem_of_find?_eq_some hstamp), rfl⟩
  · have hsearch : (now.members.reverse.find? fun stamp => ((now.basis built).node stamp).id = id) =
        now.members.reverse.find? fun stamp => (now.node stamp).id = id := by
      refine List.find?_congr fun stamp hstamp => ?_
      rw [hsame stamp (List.mem_reverse.1 hstamp)]
    rw [hfound, hsearch, Graph.find?, toGraph, ← List.map_reverse, List.find?_map]
    rfl
  · simp [find?, contains, hindex]

/-- **A lookup answers as of the last rebuild**, whatever was done to the graph.  A rebuild happens when the list has
    other nodes or another order than at the one before it, so nodes that are added or exchanged are found, and one
    that was renamed since then is found by the name that it had. -/
theorem answers_run (g : Graph) (steps : List Step) (id : String) :
    ((ofGraph g).run steps).index = ((ofGraph g).lastRebuild none steps).map indexed ∧
      Answers (((ofGraph g).run steps).basis ((ofGraph g).lastRebuild none steps)) ((ofGraph g).run steps)
        id := by
  have hindex : ((ofGraph g).run steps).index = ((ofGraph g).lastRebuild none steps).map indexed :=
    index_run steps rfl
  exact ⟨hindex, answers_of_index hindex id⟩

end LiveGraph

end CodeAtlas
