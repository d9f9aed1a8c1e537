/-!
  Syntax trees, as a grammar gives them.

  A node has a kind, the range of bytes that it covers, and the name of the field that it fills in its
  parent.  Trees are walked in two ways.  `visits` keeps a stack of the trees that are still to come and is
  what the extraction runs; `preorder` is the recursive order that the walk follows.  Both take a condition
  that says below which nodes to go on.  `visitsByLevel` keeps a queue instead.
-/
namespace CodeAtlas

/-- A node with its children. -/
inductive SyntaxTree where
  | node (kind : String) (named missing hasError : Bool) (start stop : Nat) (field : String)
      (children : List SyntaxTree)
deriving Repr, Inhabited

namespace SyntaxTree

/-- The kind of the node. -/
def kind : SyntaxTree → String
  | node k .. => k

/-- Whether the node stands for a rule of the grammar, not for a literal token. -/
def isNamed : SyntaxTree → Bool
  | node _ n .. => n

/-- Whether the node was made up to repair the text. -/
def isMissing : SyntaxTree → Bool
  | node _ _ m .. => m

/-- Whether there is an error in the tree. -/
def hasError : SyntaxTree → Bool
  | node _ _ _ e .. => e

/-- The first byte. -/
def start : SyntaxTree → Nat
  | node _ _ _ _ s .. => s

/-- The byte after the last one. -/
def stop : SyntaxTree → Nat
  | node _ _ _ _ _ s .. => s

/-- The field that the node fills in its parent. -/
def field : SyntaxTree → String
  | node _ _ _ _ _ _ f _ => f

/-- The children in order. -/
def children : SyntaxTree → List SyntaxTree
  | node _ _ _ _ _ _ _ cs => cs

/-- The first child that fills a field. -/
def child? (t : SyntaxTree) (name : String) : Option SyntaxTree :=
  t.children.find? fun c => c.field = name

/-- The children that fill a field. -/
def childrenAt (t : SyntaxTree) (name : String) : List SyntaxTree :=
  t.children.filter fun c => c.field = name

/-- The named children. -/
def namedChildren (t : SyntaxTree) : List SyntaxTree := t.children.filter isNamed

/-- The first child of one of some kinds. -/
def childOfKind? (t : SyntaxTree) (kinds : List String) : Option SyntaxTree :=
  t.children.find? fun c => kinds.contains c.kind

mutual

/-- The number of nodes. -/
def size : SyntaxTree → Nat
  | node _ _ _ _ _ _ _ cs => sizeOfAll cs + 1

/-- The number of nodes of several trees. -/
def sizeOfAll : List SyntaxTree → Nat
  | [] => 0
  | t :: rest => size t + sizeOfAll rest

end

theorem size_eq (t : SyntaxTree) : t.size = sizeOfAll t.children + 1 := by
  cases t; rfl

theorem sizeOfAll_append (a b : List SyntaxTree) : sizeOfAll (a ++ b) = sizeOfAll a + sizeOfAll b := by
  induction a with
  | nil => simp [sizeOfAll]
  | cons t rest ih => simp [sizeOfAll, ih]; omega

/-! ## Walks -/

/-- The nodes that a walk meets when it goes on from a stack of trees, the top of the stack first. -/
def visitsFrom (below : SyntaxTree → Bool) : List SyntaxTree → List SyntaxTree
  | [] => []
  | t :: stack => t :: visitsFrom below (if below t then t.children ++ stack else stack)
termination_by stack => sizeOfAll stack
decreasing_by
  have := size_eq t
  split <;> simp [sizeOfAll, sizeOfAll_append] <;> omega

/-- The nodes of a tree in the order of a walk with a stack. -/
def visits (below : SyntaxTree → Bool) (t : SyntaxTree) : List SyntaxTree := visitsFrom below [t]

mutual

/-- The nodes of a tree, each one before its descendants. -/
def preorder (below : SyntaxTree → Bool) : SyntaxTree → List SyntaxTree
  | t@(node _ _ _ _ _ _ _ cs) => t :: (if below t then preorderOfAll below cs else [])

/-- The nodes of several trees, one tree after the other. -/
def preorderOfAll (below : SyntaxTree → Bool) : List SyntaxTree → List SyntaxTree
  | [] => []
  | t :: rest => preorder below t ++ preorderOfAll below rest

end

theorem sizeOfAll_filter_le (p : SyntaxTree → Bool) (ts : List SyntaxTree) :
    sizeOfAll (ts.filter p) ≤ sizeOfAll ts := by
  induction ts with
  | nil => simp [sizeOfAll]
  | cons t rest ih =>
    by_cases h : p t = true <;> simp [h, sizeOfAll] <;> omega

/-- The nodes that a walk meets when it goes on from a queue of trees, the head of the queue first.  It goes
    on to named nodes only. -/
def visitsByLevel (below : SyntaxTree → Bool) : List SyntaxTree → List SyntaxTree
  | [] => []
  | t :: queue => t :: visitsByLevel below (if below t then queue ++ t.namedChildren else queue)
termination_by queue => sizeOfAll queue
decreasing_by
  have h₁ := size_eq t
  have h₂ := sizeOfAll_filter_le isNamed t.children
  split <;> simp [sizeOfAll, sizeOfAll_append, namedChildren] <;> omega

/-! ## Errors -/

/-- A node that shows an error of the text. -/
def isError (t : SyntaxTree) : Bool := t.kind = "ERROR" || t.isMissing

/-- The first node that shows an error; the walk goes on below the nodes that say so only. -/
def firstError? (t : SyntaxTree) : Option SyntaxTree := (t.visits hasError).find? isError

end SyntaxTree

end CodeAtlas
