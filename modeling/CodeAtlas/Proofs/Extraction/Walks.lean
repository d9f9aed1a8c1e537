import Mathlib.Logic.Relation
import CodeAtlas.Extraction.Java
import CodeAtlas.Extraction.Python
import CodeAtlas.Extraction.Script
/-!
  Walks with a stack follow the pre-order.

  The crux is `visitsFrom_eq_preorderOfAll`, an induction over the walk in which the whole stack is general: what is
  on the stack are the trees that are still to come, at all levels, and the walk gives their pre-orders one after the
  other.

  A walk may go on below some nodes only.  To say which nodes it leaves out, `occurrences` lists each node of a tree
  with the nodes above it.  A pruned walk meets the nodes with no pruned node above them, and in the same order.
-/
namespace CodeAtlas

namespace SyntaxTree

variable {below : SyntaxTree → Bool}

/-! ## The walk and the recursion -/

/-- A node comes before what is below it. -/
theorem preorder_eq (t : SyntaxTree) :
    preorder below t = t :: (if below t then preorderOfAll below t.children else []) := by
  cases t; rfl

theorem preorderOfAll_append (a b : List SyntaxTree) :
    preorderOfAll below (a ++ b) = preorderOfAll below a ++ preorderOfAll below b := by
  induction a with
  | nil => rfl
  | cons t rest ih => rw [List.cons_append, preorderOfAll, preorderOfAll, ih, List.append_assoc]

/-- A walk from a stack gives the nodes of the trees on it, one tree after the other. -/
theorem visitsFrom_eq_preorderOfAll (stack : List SyntaxTree) :
    visitsFrom below stack = preorderOfAll below stack := by
  fun_induction visitsFrom below stack with
  | case1 => rfl
  | case2 t stack ih =>
    rw [dite_eq_ite] at ih
    rw [ih, preorderOfAll, preorder_eq, List.cons_append]
    congr 1
    -- the children of the node are put in front of what was below it on the stack
    split
    · rw [preorderOfAll_append]
    · rfl

/-- A walk with a stack is a pre-order. -/
theorem visits_eq_preorder (t : SyntaxTree) : visits below t = preorder below t := by
  rw [visits, visitsFrom_eq_preorderOfAll, preorderOfAll, preorderOfAll, List.append_nil]

/-! ## All nodes -/

/-- A node and all its descendants in pre-order. -/
def nodes (t : SyntaxTree) : List SyntaxTree := t.preorder fun _ => true

/-- A node of some trees is a node of one of them. -/
theorem mem_preorderOfAll_iff {x : SyntaxTree} {ts : List SyntaxTree} :
    x ∈ preorderOfAll below ts ↔ ∃ t ∈ ts, x ∈ preorder below t := by
  induction ts with
  | nil => simp [preorderOfAll]
  | cons t rest ih => simp [preorderOfAll, ih]

/-- A node is the top, or a node of a child. -/
theorem mem_nodes {t x : SyntaxTree} : x ∈ t.nodes ↔ x = t ∨ ∃ c ∈ t.children, x ∈ c.nodes := by
  rw [nodes, preorder_eq, if_pos rfl, List.mem_cons, mem_preorderOfAll_iff]
  rfl

/-- The nodes of a tree are those that steps to children lead to. -/
theorem mem_nodes_iff {t x : SyntaxTree} :
    x ∈ t.nodes ↔ Relation.ReflTransGen (fun parent child => child ∈ parent.children) t x := by
  constructor
  · induction h : t.size using Nat.strongRecOn generalizing t with
    | ind n ih =>
      intro hx
      rcases mem_nodes.1 hx with rfl | ⟨c, hc, hx⟩
      · exact .refl
      · have hlt : c.size < n := by
          rw [← h, size_eq t]
          exact Nat.lt_succ_of_le (Site.size_le_sizeOfAll hc)
        exact .head hc (ih c.size hlt rfl hx)
  · intro h
    induction h using Relation.ReflTransGen.head_induction_on with
    | refl => exact mem_nodes.2 (.inl rfl)
    | head hc _ ih => exact mem_nodes.2 (.inr ⟨_, hc, ih⟩)

/-! ## Nodes with what is above them -/

/-- A node of a tree, with the nodes above it, the nearest first. -/
structure Occurrence where
  node : SyntaxTree
  above : List SyntaxTree

mutual

/-- The nodes of a tree that stands below some nodes, in pre-order. -/
def occurrencesBelow (above : List SyntaxTree) : SyntaxTree → List Occurrence
  | t@(node _ _ _ _ _ _ _ cs) => ⟨t, above⟩ :: occurrencesBelowOfAll (t :: above) cs

/-- The nodes of several trees that stand below some nodes. -/
def occurrencesBelowOfAll (above : List SyntaxTree) : List SyntaxTree → List Occurrence
  | [] => []
  | t :: rest => occurrencesBelow above t ++ occurrencesBelowOfAll above rest

end

/-- The nodes of a tree, each with those above it, in pre-order. -/
def occurrences (t : SyntaxTree) : List Occurrence := occurrencesBelow [] t

mutual

/-- Of the nodes of a tree, a pruned pre-order has those with no pruned node above. -/
theorem map_node_filter_below (below : SyntaxTree → Bool) (above : List SyntaxTree) : (t : SyntaxTree) →
    ((occurrencesBelow above t).filter fun x => x.above.all below).map Occurrence.node =
      if above.all below then preorder below t else []
  | node kind named missing hasError start stop field cs => by
    have hchildren := map_node_filter_belowOfAll below (node kind named missing hasError start stop field cs :: above) cs
    rw [List.all_cons] at hchildren
    rw [occurrencesBelow, preorder, List.filter_cons]
    -- below the node, the list of what is above is longer by the node
    cases habove : above.all below with
    | true =>
      rw [habove, Bool.and_true] at hchildren
      rw [if_pos rfl, if_pos rfl, List.map_cons, hchildren]
    | false =>
      rw [habove, Bool.and_false] at hchildren
      rw [if_neg Bool.false_ne_true, if_neg Bool.false_ne_true, hchildren, if_neg Bool.false_ne_true]

/-- The same for trees side by side, which have the same nodes above them. -/
theorem map_node_filter_belowOfAll (below : SyntaxTree → Bool) (above : List SyntaxTree) : (ts : List SyntaxTree) →
    ((occurrencesBelowOfAll above ts).filter fun x => x.above.all below).map Occurrence.node =
      if above.all below then preorderOfAll below ts else []
  | [] => by rw [preorderOfAll, ite_self]; rfl
  | t :: rest => by
    rw [occurrencesBelowOfAll, preorderOfAll, List.filter_append, List.map_append, map_node_filter_below below above t,
      map_node_filter_belowOfAll below above rest]
    split
    · rfl
    · rfl

end

/-- For a whole tree there is nothing above to begin with. -/
theorem map_node_filter_occurrences (t : SyntaxTree) :
    (t.occurrences.filter fun x => x.above.all below).map Occurrence.node = preorder below t :=
  map_node_filter_below below [] t

/-- The nodes of a tree, with what is above them forgotten. -/
theorem map_node_occurrences (t : SyntaxTree) : t.occurrences.map Occurrence.node = t.nodes := by
  rw [nodes, ← map_node_filter_occurrences, List.filter_eq_self.2 fun x _ => List.all_eq_true.2 fun _ _ => rfl]

/-- The nodes of one sort with no node of that sort above them, in pre-order. -/
def outermost (p : SyntaxTree → Bool) (t : SyntaxTree) : List SyntaxTree :=
  (t.occurrences.filter fun x => p x.node && !x.above.any p).map Occurrence.node

/-- A walk that stops at the nodes of a sort meets the outermost ones. -/
theorem filter_visits (p : SyntaxTree → Bool) (t : SyntaxTree) :
    (t.visits fun x => !p x).filter p = t.outermost p := by
  rw [visits_eq_preorder, ← map_node_filter_occurrences, List.filter_map, List.filter_filter, outermost]
  congr 2
  funext x
  rw [Function.comp_apply, List.not_any_eq_all_not]

end SyntaxTree

/-! ## The walks of the extraction -/

theorem FileContext.calls_eq (entry : SyntaxTree → Except Fault (List Call)) (t : SyntaxTree) :
    FileContext.calls entry t = (t.nodes.mapM entry).map List.flatten := by
  rw [calls, SyntaxTree.visits_eq_preorder, SyntaxTree.nodes]

/-- **The walks of the extraction are pre-orders.**  The calls in a body, and the imports by calls of `require`, are
    those of its nodes taken alone, one after the other; the types that a type mentions are its outermost names. -/
theorem walks_follow_preorder (c : FileContext) (path root : Path) :
    (∀ body, Python.callsIn c (some body) = (body.nodes.mapM (Python.callEntry c)).map List.flatten) ∧
    (∀ body : Site, Script.callsIn c (some body) = (body.tree.nodes.mapM (Script.callEntry c)).map List.flatten) ∧
    (∀ body, Java.callsIn c (some body) = (body.nodes.mapM (Java.callEntry c)).map List.flatten) ∧
    (∀ tree, Script.requires c path root tree = (tree.nodes.mapM (Script.requiredBy c path root)).map List.flatten) ∧
    ∀ t, Java.typeArguments c t = (t.outermost Java.isTypeName).mapM c.text := by
  refine ⟨fun body => FileContext.calls_eq _ body, fun body => FileContext.calls_eq _ body.tree,
    fun body => FileContext.calls_eq _ body, fun tree => ?_, fun t => ?_⟩
  · rw [Script.requires, SyntaxTree.visits_eq_preorder, SyntaxTree.nodes]
  · rw [Java.typeArguments, SyntaxTree.filter_visits, FileContext.texts]

end CodeAtlas
