import CodeAtlas.SyntaxTree
/-!
  Nodes at their places.

  What stands before a declaration can belong to it: a documentation comment, a decorator, the word that
  exports it.  A tree does not know its surroundings, so a site carries them along.
-/
namespace CodeAtlas

/-- A node with what stands before it. -/
structure Site where
  tree : SyntaxTree
  /-- the earlier children of the parent, the nearest first -/
  before : List SyntaxTree
  /-- the kind of the parent; empty at the root -/
  parentKind : String
  /-- what stands before the parent, the nearest first -/
  beforeParent : List SyntaxTree
deriving Repr, Inhabited

namespace Site

/-- The root of a tree has nothing around it. -/
def root (tree : SyntaxTree) : Site := { tree, before := [], parentKind := "", beforeParent := [] }

/-- The sites of some children of a node, after the ones in `before`. -/
def childrenFrom (s : Site) (before : List SyntaxTree) : List SyntaxTree → List Site
  | [] => []
  | tree :: rest =>
    { tree, before, parentKind := s.tree.kind, beforeParent := s.before }
      :: childrenFrom s (tree :: before) rest

/-- The sites of the children. -/
def children (s : Site) : List Site := s.childrenFrom [] s.tree.children

/-- The first child that fills a field. -/
def child? (s : Site) (name : String) : Option Site :=
  s.children.find? fun c => c.tree.field = name

/-- The nearest named node before this one. -/
def named? (before : List SyntaxTree) : Option SyntaxTree := before.find? SyntaxTree.isNamed

theorem tree_mem_of_mem_childrenFrom {s c : Site} {before ts : List SyntaxTree}
    (h : c ∈ s.childrenFrom before ts) : c.tree ∈ ts := by
  induction ts generalizing before with
  | nil => simp [childrenFrom] at h
  | cons t rest ih =>
    rcases List.mem_cons.1 h with rfl | h
    · exact List.mem_cons_self
    · exact List.mem_cons_of_mem _ (ih h)

theorem size_le_sizeOfAll {t : SyntaxTree} {ts : List SyntaxTree} (h : t ∈ ts) :
    t.size ≤ SyntaxTree.sizeOfAll ts := by
  induction ts with
  | nil => simp at h
  | cons u rest ih =>
    rcases List.mem_cons.1 h with rfl | h
    · simp [SyntaxTree.sizeOfAll]
    · have := ih h
      simp only [SyntaxTree.sizeOfAll]
      omega

/-- A child is smaller than its parent. -/
theorem size_lt_of_mem_children {s c : Site} (h : c ∈ s.children) : c.tree.size < s.tree.size := by
  have := size_le_sizeOfAll (tree_mem_of_mem_childrenFrom h)
  rw [SyntaxTree.size_eq s.tree]
  omega

end Site

end CodeAtlas
