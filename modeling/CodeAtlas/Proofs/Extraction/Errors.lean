import CodeAtlas.Extraction
import CodeAtlas.Proofs.Extraction.Walks
/-!
  The first error of a syntax tree.

  The search for an error is a walk that leaves out what is below the nodes without the flag.  A walk that leaves out
  only what has nothing to be found finds the same node as a search through all nodes (`find?_preorder`).  Where the
  flags tell the truth this is so for errors, and then the line that is told is that of the first error in pre-order.

  `FirstError` is what to find, said without any search: a node that shows an error, and in front of which no other
  one does.  The flag is set by whoever makes the tree, so that it tells the truth is a condition on the tree
  (`Truthful`), and a search that trusts a wrong flag may miss an error.
-/
namespace CodeAtlas

namespace SyntaxTree

variable {below p : SyntaxTree → Bool}

/-! ## Searches that leave something out -/

mutual

/-- Where there is nothing to be found below the nodes that a walk does not go on from, it finds what comes first
    among all nodes. -/
theorem find?_preorder : (t : SyntaxTree) → (∀ x ∈ t.nodes, below x = false → ∀ y ∈ x.nodes, p y = false) →
    (preorder below t).find? p = t.nodes.find? p
  | node kind named missing hasError start stop field cs, h => by
    have hchildren := find?_preorderOfAll cs fun c hc x hx => h x (mem_nodes.2 (.inr ⟨c, hc, hx⟩))
    have hself := h _ (mem_nodes.2 (.inl rfl))
    rw [nodes, preorder, preorder, if_pos rfl, List.find?_cons, List.find?_cons]
    cases hbelow : below (node kind named missing hasError start stop field cs) with
    | true => rw [if_pos rfl, hchildren]
    | false =>
      have hnone : (preorderOfAll (fun _ => true) cs).find? p = none := by
        refine List.find?_eq_none.2 fun y hy => ?_
        obtain ⟨c, hc, hy⟩ := mem_preorderOfAll_iff.1 hy
        rw [hself hbelow y (mem_nodes.2 (.inr ⟨c, hc, hy⟩))]
        exact Bool.false_ne_true
      rw [if_neg Bool.false_ne_true, hnone, List.find?_nil]

/-- The same for trees side by side: the first of them that has something decides. -/
theorem find?_preorderOfAll : (ts : List SyntaxTree) →
    (∀ t ∈ ts, ∀ x ∈ t.nodes, below x = false → ∀ y ∈ x.nodes, p y = false) →
    (preorderOfAll below ts).find? p = (preorderOfAll (fun _ => true) ts).find? p
  | [], _ => rfl
  | t :: rest, h => by
    rw [preorderOfAll, preorderOfAll, List.find?_append, List.find?_append,
      find?_preorder t (h t List.mem_cons_self),
      find?_preorderOfAll rest fun u hu => h u (List.mem_cons_of_mem t hu), nodes]

end

/-! ## Errors -/

/-- A node for a part of the text that the grammar could not read, or for something that it missed. -/
def ShowsError (t : SyntaxTree) : Prop := t.kind = "ERROR" ∨ t.isMissing = true

theorem isError_iff (t : SyntaxTree) : t.isError = true ↔ t.ShowsError := by
  rw [isError, Bool.or_eq_true, decide_eq_true_iff, ShowsError]

/-- The flag of every node tells whether there is an error in its subtree. -/
def Truthful (t : SyntaxTree) : Prop := ∀ x ∈ t.nodes, x.hasError = true ↔ ∃ y ∈ x.nodes, y.ShowsError

/-- Where the flags tell the truth, no error is passed over. -/
theorem Truthful.firstError?_eq {t : SyntaxTree} (h : t.Truthful) : t.firstError? = t.nodes.find? isError := by
  rw [firstError?, visits_eq_preorder]
  refine find?_preorder t fun x hx hflag y hy => Bool.eq_false_iff.2 fun herror => ?_
  have hset := (h x hx).2 ⟨y, hy, (isError_iff y).1 herror⟩
  rw [hflag] at hset
  nomatch hset

/-- A node shows an error, and none before it in pre-order does. -/
def FirstError (t x : SyntaxTree) : Prop :=
  x.ShowsError ∧ ∃ before after, t.nodes = before ++ x :: after ∧ ∀ y ∈ before, ¬ y.ShowsError

/-- A search through all nodes finds the first one. -/
theorem find?_isError_eq_some_iff {t x : SyntaxTree} : t.nodes.find? isError = some x ↔ t.FirstError x := by
  rw [List.find?_eq_some_iff_append, isError_iff, FirstError]
  simp only [Bool.not_eq_true', Bool.eq_false_iff, ne_eq, isError_iff]

end SyntaxTree

namespace Source

open SyntaxTree

/-- **The line that is told of a tree is that of its first error.**  It is counted from one by the line feeds before
    the node.  No line is told exactly if there is no error. -/
theorem firstErrorLine_iff (s : Source) {t : SyntaxTree} (h : t.Truthful) :
    (∀ n, s.firstErrorLine t = some n ↔
      ∃ x, t.FirstError x ∧ n = (s.bytes.extract 0 x.start).data.toList.count lineFeed + 1) ∧
    (s.firstErrorLine t = none ↔ ∀ x ∈ t.nodes, ¬ x.ShowsError) := by
  rw [firstErrorLine, h.firstError?_eq]
  constructor
  · intro n
    rw [Option.map_eq_some_iff]
    refine exists_congr fun x => ?_
    rw [find?_isError_eq_some_iff, eq_comm (a := n)]
    rfl
  · rw [Option.map_eq_none_iff, List.find?_eq_none]
    simp only [isError_iff]

/-- `x = 1`, a line feed, `if`, and two errors behind it: the first one is below the second statement. -/
def brokenSource : Source := ⟨"x = 1\nif (:\n) ]\n".toUTF8⟩

/-- Its tree.  A child without the flag stands before the first error, and so does a node that is no error itself. -/
def brokenTree : SyntaxTree :=
  .node "module" true false true 0 16 "" [
    .node "expression_statement" true false false 0 5 "" [.node "assignment" true false false 0 5 "" []],
    .node "if_statement" true false true 6 13 "" [
      .node "if" false false false 6 8 "" [],
      .node "parenthesized_expression" true false true 9 13 "condition" [
        .node "(" false false false 9 10 "" [],
        .node "identifier" true true true 10 10 "" [],
        .node ")" false false false 12 13 "" []]],
    .node "ERROR" true false true 14 15 "" []]

/-- Two errors, of which the first one is told. -/
theorem firstErrorLine_brokenTree : brokenTree.Truthful ∧ brokenSource.firstErrorLine brokenTree = some 2 := by
  have htruthful : brokenTree.Truthful := by
    unfold Truthful ShowsError
    decide +kernel
  refine ⟨htruthful, ((firstErrorLine_iff brokenSource htruthful).1 2).2 ?_⟩
  refine ⟨.node "identifier" true true true 10 10 "" [], ⟨.inr rfl, ?_⟩, by decide +kernel⟩
  exact ⟨brokenTree.nodes.take 7, brokenTree.nodes.drop 8, rfl, by unfold ShowsError; decide +kernel⟩

end Source

end CodeAtlas
