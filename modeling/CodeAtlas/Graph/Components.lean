import CodeAtlas.Graph.Adjacency
/-!
  Strongly connected components by one depth-first search.

  The search is a machine with an explicit state and a step function.  A vertex gets its number when the
  search enters it and goes on a stack.  Its low number is the least number on the stack that is known to
  be reachable.  When all successors of a vertex are done and its low number is its own number, the
  vertices above it on the stack, itself included, are a component.

  So a component is complete only after every component that can be reached from it: components come out in
  reverse topological order.

  Each step either enters a vertex for the first time or uses up one pending successor, and that is why
  the search ends.
-/
namespace CodeAtlas

/-- The state of the search. -/
structure Search (α : Type) where
  /-- the vertices entered so far with their numbers -/
  index : OrderedMap α Nat
  low : OrderedMap α Nat
  /-- entered vertices that are in no component yet, the last one first -/
  stack : List α
  /-- the path to the present vertex, with the successors still to look at -/
  work : List (α × List α)
  /-- the components found so far, the last one first -/
  found : List (List α)

namespace Search

variable {α : Type} [DecidableEq α]

/-- Before the search. -/
def start : Search α :=
  { index := .empty, low := .empty, stack := [], work := [], found := [] }

/-- Whether the search has entered a vertex. -/
def entered (s : Search α) (v : α) : Bool := s.index.contains v

/-- Enters a vertex. -/
def enter (g : Adjacency α) (v : α) (s : Search α) : Search α :=
  let number := s.index.entries.length
  { s with
    index := s.index.insert v number
    low := s.low.insert v number
    stack := v :: s.stack
    work := (v, g.successors v) :: s.work }

/-- Lowers the low number of a vertex. -/
def lower (v : α) (number : Nat) (s : Search α) : Search α :=
  { s with low := s.low.insert v (min ((s.low.get? v).getD 0) number) }

/-- What stands on a stack down to a vertex, that one included, and what stands below it. -/
def popThrough (v : α) : List α → List α × List α
  | [] => ([], [])
  | w :: rest =>
    if w = v then ([w], rest)
    else
      let (popped, below) := popThrough v rest
      (w :: popped, below)

/-- Takes the component of a vertex off the stack when the vertex is the first of it. -/
def close (v : α) (s : Search α) : Search α :=
  if s.low.get? v = s.index.get? v then
    let (component, below) := popThrough v s.stack
    { s with stack := below, found := component :: s.found }
  else s

/-- Goes back from a vertex whose successors are all done. -/
def leave (v : α) (rest : List (α × List α)) (s : Search α) : Search α :=
  let s := { s with work := rest }
  let s := match rest with
    | (parent, _) :: _ => s.lower parent ((s.low.get? v).getD 0)
    | [] => s
  s.close v

/-- One step of the search. -/
def step (g : Adjacency α) (s : Search α) : Search α :=
  match s.work with
  | [] => s
  | (v, []) :: rest => s.leave v rest
  | (v, w :: ws) :: rest =>
    let s := { s with work := (v, ws) :: rest }
    if s.entered w then
      if s.stack.contains w then s.lower v ((s.index.get? w).getD 0) else s
    else if g.vertices.contains w then s.enter g w
    else s

/-! ## The search ends -/

/-- The number of vertices that the search has not entered. -/
def unentered (g : Adjacency α) (s : Search α) : Nat :=
  g.vertices.countP fun v => !s.entered v

/-- The number of pending successors and of vertices on the path. -/
def pending (work : List (α × List α)) : Nat :=
  work.foldr (fun e n => e.2.length + 1 + n) 0

omit [DecidableEq α] in
theorem countP_lt {p q : α → Bool} {xs : List α} {a : α} (ha : a ∈ xs) (hq : q a = true)
    (hp : p a = false) (h : ∀ x, p x = true → q x = true) : xs.countP p < xs.countP q := by
  induction xs with
  | nil => simp at ha
  | cons x rest ih =>
    have hle : rest.countP p ≤ rest.countP q := List.countP_mono_left fun y _ => h y
    rcases List.mem_cons.1 ha with rfl | hr
    · simp [hq, hp]; omega
    · have := ih hr
      simp only [List.countP_cons]
      by_cases hx : p x = true
      · simp [hx, h x hx]; omega
      · simp [hx]; omega

theorem entered_insert (m : OrderedMap α Nat) (v w : α) (n : Nat) :
    (m.insert v n).contains w = (decide (v = w) || m.contains w) := by
  simp only [OrderedMap.contains, OrderedMap.get?_insert]
  by_cases h : v = w <;> simp [h]

theorem unentered_enter_lt (g : Adjacency α) (s : Search α) (w : α) (hw : w ∈ g.vertices)
    (hn : s.entered w = false) : unentered g (s.enter g w) < unentered g s := by
  refine countP_lt hw (by simpa using hn) ?_ ?_
  · simp [entered, enter, entered_insert]
  · intro x hx
    simp [entered, enter, entered_insert] at hx
    simp [entered, hx.2]

@[simp] theorem work_close (s : Search α) (v : α) : (s.close v).work = s.work := by
  unfold close
  split <;> rfl

theorem step_decreases (g : Adjacency α) (s : Search α) (h : s.work ≠ []) :
    unentered g (step g s) < unentered g s ∨
      unentered g (step g s) = unentered g s ∧ pending (step g s).work < pending s.work := by
  unfold step
  split
  · contradiction
  · next v rest hw =>
    right
    constructor
    · cases rest <;> simp [leave, unentered, entered] <;> unfold close <;> split <;> rfl
    · cases rest <;> simp [leave, lower, pending, hw]
  · next v w ws rest hw =>
    simp only
    split
    · right
      split
      · exact ⟨rfl, by simp [lower, pending, hw]⟩
      · exact ⟨rfl, by simp [pending, hw]⟩
    · next hn =>
      split
      · next hc =>
        left
        exact unentered_enter_lt g { s with work := (v, ws) :: rest } w (by simpa using hc)
          (by simpa using hn)
      · exact .inr ⟨rfl, by simp [pending, hw]⟩

/-- Runs the search until its path is empty. -/
def run (g : Adjacency α) (s : Search α) : Search α :=
  if _h : s.work = [] then s else run g (step g s)
termination_by (unentered g s, pending s.work)
decreasing_by
  rcases step_decreases g s ‹_› with hlt | ⟨heq, hlt⟩
  · exact Prod.Lex.left _ _ hlt
  · rw [heq]; exact Prod.Lex.right _ hlt

end Search

/-- The strongly connected components; each one comes after all others that can be reached from it. -/
def Adjacency.components {α : Type} [DecidableEq α] (g : Adjacency α) : List (List α) :=
  let final := g.vertices.foldl
    (fun s root => if s.entered root then s else (s.enter g root).run g) Search.start
  final.found.reverse

end CodeAtlas
