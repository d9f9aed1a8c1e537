import Mathlib.Data.List.Forall2
import CodeAtlas.Proofs.Extraction.Closure
import CodeAtlas.Proofs.Extraction.Walks
/-!
  Fields that an initializer assigns.

  The walk through an initializer goes over its nodes in pre-order, but not below inner functions, classes and lambdas,
  and keeps the names that it has seen.  `SetOnce` is what comes out: the names that some of the nodes set and that are
  not taken, each once, in the order of the nodes that set them first, and with the line and the type from there.  Its
  two step lemmas, `SetOnce.skip` and `SetOnce.add`, are the two things that the walk does with a node.

  1. What sets a name is said of nodes (`SetsSelf`, `SetInBody`), and what the program finds is compared with this.
  2. The body of a class comes before its initializer, so its names are taken when the walk begins.
  3. The initializer is the first function of its name among the statements of the class (`FirstInitializer`), be it
     decorated or not.
  4. The walk is a fold over the nodes that are visited, and these are the outer ones of the body (`visits_sameScope`).

  Nothing but the text of a node of the class can stop this: `Misreads` are the causes of failure.
-/
namespace CodeAtlas

open Fault

namespace SyntaxTree

variable {t x y : SyntaxTree}

theorem mem_nodes_self (t : SyntaxTree) : t ∈ t.nodes := mem_nodes.2 (.inl rfl)

/-- Nodes of a node are nodes of the whole tree. -/
theorem mem_nodes_trans (h : x ∈ t.nodes) (h' : y ∈ x.nodes) : y ∈ t.nodes :=
  mem_nodes_iff.2 ((mem_nodes_iff.1 h).trans (mem_nodes_iff.1 h'))

theorem mem_nodes_of_mem_children (h : x ∈ t.nodes) (hy : y ∈ x.children) : y ∈ t.nodes :=
  mem_nodes_trans h (mem_nodes.2 (.inr ⟨y, hy, mem_nodes_self y⟩))

theorem mem_nodes_of_child? (h : x ∈ t.nodes) {field : String} (hy : x.child? field = some y) : y ∈ t.nodes :=
  mem_nodes_of_mem_children h (List.mem_of_find?_eq_some hy)

end SyntaxTree

namespace FileContext

variable (c : FileContext) {t x : SyntaxTree}

/-- The text of some node of a tree cannot be read. -/
def Misreads (t : SyntaxTree) (f : Fault) : Prop := ∃ x ∈ t.nodes, c.text x = .error f

/-- Reading the text of a node can fail, and this is the only cause that there is. -/
theorem ends_text (hx : x ∈ t.nodes) : Ends (c.text x) (fun s => c.text x = .ok s) (c.Misreads t) :=
  ⟨fun h => h, fun h => ⟨x, hx, h⟩⟩

/-- The name of a node is the text of a child, or empty. -/
theorem ends_nameOf (hx : x ∈ t.nodes) : Ends (c.nameOf x) (fun s => c.nameOf x = .ok s) (c.Misreads t) := by
  have hname : Ends (c.text? (x.child? "name")) (fun _ => True) (c.Misreads t) := by
    unfold text?
    split
    · next name hname => exact (c.ends_text (SyntaxTree.mem_nodes_of_child? hx hname)).map fun _ _ => trivial
    · exact ends_ok trivial
  exact (hname.map fun _ _ => trivial).eq_ok

end FileContext

namespace Python

variable {c : FileContext} {t : SyntaxTree}

/-! ## What sets a name -/

/-- A node assigns a field of `self`. -/
def SetsSelf (c : FileContext) (n : SyntaxTree) (name : String) : Prop :=
  n.kind = "assignment" ∧ ∃ left, n.child? "left" = some left ∧ left.kind = "attribute" ∧
    c.text left = .ok ("self." ++ name) ∧ name ≠ "" ∧ '.' ∉ name.toList

/-- A statement in the body of a class assigns a plain name. -/
def SetInBody (c : FileContext) (t : SyntaxTree) (name : String) : Prop :=
  ∃ s ∈ statements t, s.kind = "expression_statement" ∧ ∃ a ∈ s.children, a.kind = "assignment" ∧
    ∃ left, a.child? "left" = some left ∧ left.kind = "identifier" ∧ c.text left = .ok name

/-- The name of an assigned field is what stands behind `self.`, if that is one name. -/
theorem selfName_of_text {text name : String} :
    (if (Text.afterStart? "self." text).getD "" = "" || Text.hasChar '.' ((Text.afterStart? "self." text).getD "")
      then none else some ((Text.afterStart? "self." text).getD "")) = some name ↔
      text = "self." ++ name ∧ name ≠ "" ∧ '.' ∉ name.toList := by
  rw [Option.ite_none_left_eq_some, Option.some.injEq, Bool.or_eq_true, decide_eq_true_eq, Text.hasChar_iff, not_or]
  constructor
  · rintro ⟨⟨hne, hdot⟩, rfl⟩
    refine ⟨?_, hne, hdot⟩
    cases h : Text.afterStart? "self." text with
    | none => exact absurd (by rw [h]; rfl) hne
    | some rest => exact Text.afterStart?_eq_some_iff.1 h
  · rintro ⟨h, hne, hdot⟩
    rw [Text.afterStart?_eq_some_iff.2 h]
    exact ⟨⟨hne, hdot⟩, rfl⟩

/-- What the program takes for the name of a field is the name of a field, and it takes all of them. -/
theorem ends_selfName {n : SyntaxTree} (hn : n ∈ t.nodes) :
    Ends (selfName c n) (fun found => ∀ name, found = some name ↔ SetsSelf c n name) (c.Misreads t) := by
  unfold selfName
  split
  · next hkind => exact ends_pure fun name => iff_of_false nofun fun h => hkind h.1
  · next hkind =>
    split
    · next hleft =>
      refine ends_pure fun name => iff_of_false nofun fun ⟨_, left, hchild, hattribute, _⟩ => ?_
      rw [hchild, Option.filter_some, if_pos (decide_eq_true hattribute)] at hleft
      nomatch hleft
    · next left hleft =>
      obtain ⟨hchild, hattribute⟩ := Option.filter_eq_some_iff.1 hleft
      refine (c.ends_text (SyntaxTree.mem_nodes_of_child? hn hchild)).bind fun text htext => ends_pure fun name => ?_
      rw [selfName_of_text]
      constructor
      · rintro ⟨rfl, hname⟩
        exact ⟨Decidable.not_not.1 hkind, left, hchild, of_decide_eq_true hattribute, htext, hname⟩
      · rintro ⟨-, left', hchild', -, htext', hname⟩
        rw [hchild] at hchild'
        cases hchild'
        rw [htext] at htext'
        exact ⟨Except.ok.inj htext', hname⟩

/-! ## Records of fields -/

/-- The type of a field is its annotation, or what is called on the right. -/
theorem ends_assignedType {a : SyntaxTree} (ha : a ∈ t.nodes) :
    Ends (assignedType c a) (fun type => assignedType c a = .ok type) (c.Misreads t) := by
  refine Ends.eq_ok ?_
  unfold assignedType
  split
  · next annotation h => exact (c.ends_text (SyntaxTree.mem_nodes_of_child? ha h)).map fun _ _ => trivial
  · split
    · next f h =>
      obtain ⟨right, hright, hf⟩ := Option.bind_eq_some_iff.1 h
      have hcall := SyntaxTree.mem_nodes_of_child? ha (Option.filter_eq_some_iff.1 hright).1
      split
      · exact (c.ends_text (SyntaxTree.mem_nodes_of_child? hcall hf)).map fun _ _ => trivial
      · exact ends_ok trivial
    · exact ends_ok trivial

/-- A record has the name and the line that are given, and the type of the assignment. -/
theorem ends_attributeOf (owner name : String) (line : Int) {a : SyntaxTree} (ha : a ∈ t.nodes) :
    Ends (attributeOf c owner name line a)
      (fun r => r.name = name ∧ r.line = line ∧ assignedType c a = .ok r.declaredType) (c.Misreads t) :=
  (ends_assignedType ha).bind fun _ htype => ends_pure ⟨rfl, rfl, htype⟩

/-! ## The body of a class -/

/-- The statements of a class are among its nodes. -/
theorem mem_nodes_of_mem_statements {s : SyntaxTree} (hs : s ∈ statements t) : s ∈ t.nodes := by
  unfold statements at hs
  cases hbody : block? t with
  | none => rw [hbody] at hs; nomatch hs
  | some body =>
    rw [hbody] at hs
    have hblock := SyntaxTree.mem_nodes_of_mem_children t.mem_nodes_self (List.mem_of_find?_eq_some hbody)
    exact SyntaxTree.mem_nodes_of_mem_children hblock hs

theorem mem_assignments {s a : SyntaxTree} :
    a ∈ assignments s ↔ s.kind = "expression_statement" ∧ a ∈ s.children ∧ a.kind = "assignment" := by
  unfold assignments
  split
  · next h => simp [h]
  · next h => simp [h]

theorem assignedName_eq_some {a left : SyntaxTree} :
    assignedName a = some left ↔ a.child? "left" = some left ∧ left.kind = "identifier" := by
  rw [assignedName, Option.filter_eq_some_iff, decide_eq_true_eq]

/-- The assignments of plain names in the body of a class, each with its statement and the name. -/
theorem mem_bodyAssignments {s a left : SyntaxTree} :
    (s, a, left) ∈ ((statements t).flatMap fun s =>
      (assignments s).filterMap fun a => (assignedName a).map fun left => (s, a, left)) ↔
      s ∈ statements t ∧ a ∈ assignments s ∧ assignedName a = some left := by
  simp only [List.mem_flatMap, List.mem_filterMap, Option.map_eq_some_iff, Prod.mk.injEq]
  constructor
  · rintro ⟨s, hs, a, ha, left, hleft, rfl, rfl, rfl⟩
    exact ⟨hs, ha, hleft⟩
  · rintro ⟨hs, ha, hleft⟩
    exact ⟨s, hs, a, ha, left, hleft, rfl, rfl, rfl⟩

/-- The same in terms of the functions that find the assignments. -/
theorem setInBody_iff {name : String} :
    SetInBody c t name ↔
      ∃ s a left, (s ∈ statements t ∧ a ∈ assignments s ∧ assignedName a = some left) ∧ c.text left = .ok name := by
  simp only [mem_assignments, assignedName_eq_some]
  constructor
  · rintro ⟨s, hs, hkind, a, ha, hassignment, left, hchild, hidentifier, htext⟩
    exact ⟨s, a, left, ⟨hs, ⟨hkind, ha, hassignment⟩, hchild, hidentifier⟩, htext⟩
  · rintro ⟨s, a, left, ⟨hs, ⟨hkind, ha, hassignment⟩, hchild, hidentifier⟩, htext⟩
    exact ⟨s, hs, hkind, a, ha, hassignment, left, hchild, hidentifier, htext⟩

/-- The fields of a class before those of its initializer are the ones that its body sets. -/
theorem mem_bodyAttributes {owner name : String} {own : List AttributeRecord} (h : bodyAttributes c owner t = .ok own) :
    name ∈ own.map (·.name) ↔ SetInBody c t name := by
  have hname {s a left : SyntaxTree} {r : AttributeRecord}
      (hr : (c.text left >>= fun name => attributeOf c owner name (c.line s) a) = .ok r) : c.text left = .ok r.name := by
    obtain ⟨name, htext, hr⟩ := bind_eq_ok_iff.1 hr
    obtain ⟨type, -, hr⟩ := bind_eq_ok_iff.1 hr
    cases hr
    exact htext
  rw [setInBody_iff, List.mem_map]
  constructor
  · rintro ⟨r, hr, rfl⟩
    obtain ⟨⟨s, a, left⟩, hx, hr⟩ := (mem_of_mapM_eq_ok h r).1 hr
    exact ⟨s, a, left, mem_bodyAssignments.1 hx, hname hr⟩
  · -- all records were made, so there is one for the assignment
    rintro ⟨s, a, left, hx, htext⟩
    have hx := mem_bodyAssignments.2 hx
    obtain ⟨r, hr⟩ := exists_mapM_eq_ok_iff.1 ⟨own, h⟩ _ hx
    exact ⟨r, (mem_of_mapM_eq_ok h r).2 ⟨_, hx, hr⟩, Except.ok.inj ((hname hr).symm.trans htext)⟩

/-- The records of the body are made, or the text of some node cannot be read. -/
theorem ends_bodyAttributes (owner : String) :
    Ends (bodyAttributes c owner t) (fun own => bodyAttributes c owner t = .ok own) (c.Misreads t) := by
  refine ((ends_mapM (fun _ => True) ?_).mono fun _ _ => trivial).eq_ok
  rintro ⟨s, a, left⟩ hx
  obtain ⟨hs, ha, hleft⟩ := mem_bodyAssignments.1 hx
  have hassignment := SyntaxTree.mem_nodes_of_mem_children (mem_nodes_of_mem_statements hs) (mem_assignments.1 ha).2.1
  refine (c.ends_text (SyntaxTree.mem_nodes_of_child? hassignment (assignedName_eq_some.1 hleft).1)).bind fun name _ => ?_
  exact (ends_attributeOf owner name _ hassignment).mono fun _ _ => trivial

/-! ## The initializer -/

/-- A statement of a class defines the initializer `f`, with decorators or without. -/
def Initializes (c : FileContext) (s f : SyntaxTree) : Prop :=
  undecorated s = some f ∧ f.kind = "function_definition" ∧ c.nameOf f = .ok "__init__"

/-- The first initializer among some statements. -/
inductive FirstInitializer (c : FileContext) : List SyntaxTree → SyntaxTree → Prop
  | here {s f : SyntaxTree} {rest : List SyntaxTree} (h : Initializes c s f) : FirstInitializer c (s :: rest) f
  | later {s f : SyntaxTree} {rest : List SyntaxTree} (h : ∀ g, ¬ Initializes c s g) (hrest : FirstInitializer c rest f) :
      FirstInitializer c (s :: rest) f

theorem Initializes.unique {s f g : SyntaxTree} (hf : Initializes c s f) (hg : Initializes c s g) : f = g :=
  Option.some.inj (hf.1.symm.trans hg.1)

/-- The first one is the one in front, if this is one. -/
theorem firstInitializer_cons_of_initializes {s f g : SyntaxTree} {rest : List SyntaxTree} (h : Initializes c s f) :
    FirstInitializer c (s :: rest) g ↔ f = g := by
  constructor
  · intro hg
    cases hg with
    | here hg => exact h.unique hg
    | later hnone _ => exact absurd h (hnone f)
  · rintro rfl
    exact .here h

theorem firstInitializer_cons_of_not {s f : SyntaxTree} {rest : List SyntaxTree} (h : ∀ g, ¬ Initializes c s g) :
    FirstInitializer c (s :: rest) f ↔ FirstInitializer c rest f := by
  constructor
  · intro hf
    cases hf with
    | here hf => exact absurd hf (h f)
    | later _ hrest => exact hrest
  · exact .later h

/-- Below its decorators, a definition is a node of the class. -/
theorem mem_nodes_of_undecorated {s f : SyntaxTree} (hs : s ∈ t.nodes) (h : undecorated s = some f) : f ∈ t.nodes := by
  unfold undecorated at h
  split at h
  · exact SyntaxTree.mem_nodes_of_child? hs h
  · cases h
    exact hs

theorem FirstInitializer.mem_nodes {ss : List SyntaxTree} {f : SyntaxTree} (h : FirstInitializer c ss f)
    (hss : ∀ s ∈ ss, s ∈ t.nodes) : f ∈ t.nodes := by
  induction h with
  | here h => exact mem_nodes_of_undecorated (hss _ List.mem_cons_self) h.1
  | later _ _ ih => exact ih fun s hs => hss s (List.mem_cons_of_mem _ hs)

/-- The search ends at the first initializer, or at a name in front of it that cannot be read. -/
theorem ends_initializer? {ss : List SyntaxTree} (hss : ∀ s ∈ ss, s ∈ t.nodes) :
    Ends (initializer? c ss) (fun found => ∀ f, found = some f ↔ FirstInitializer c ss f) (c.Misreads t) := by
  induction ss with
  | nil => exact ends_ok fun f => iff_of_false nofun nofun
  | cons s rest ih =>
    obtain ⟨hs, hrest⟩ := List.forall_mem_cons.1 hss
    unfold initializer?
    split
    · next hnone =>
      refine (ih hrest).mono fun found hfound f => (hfound f).trans (firstInitializer_cons_of_not fun g hg => ?_).symm
      rw [hg.1, Option.filter_some, if_pos (decide_eq_true hg.2.1)] at hnone
      nomatch hnone
    · next f hf =>
      obtain ⟨hdefined, hkind⟩ := Option.filter_eq_some_iff.1 hf
      refine (c.ends_nameOf (mem_nodes_of_undecorated hs hdefined)).bind fun name hname => ?_
      split
      · next hinit =>
        have h : Initializes c s f := ⟨hdefined, of_decide_eq_true hkind, by rw [hname, hinit]⟩
        exact ends_pure fun g => Option.some_inj.trans (firstInitializer_cons_of_initializes h).symm
      · next hinit =>
        refine (ih hrest).mono fun found hfound g => (hfound g).trans (firstInitializer_cons_of_not fun g hg => ?_).symm
        have heq : f = g := Option.some.inj (hdefined.symm.trans hg.1)
        subst heq
        exact hinit (Except.ok.inj (hname.symm.trans hg.2.2))

/-- The nodes of a body outside of inner functions, classes and lambdas, in pre-order. -/
def outerNodes (body : SyntaxTree) : List SyntaxTree :=
  (body.occurrences.filter fun x => !x.above.any fun n => innerScopes.contains n.kind).map SyntaxTree.Occurrence.node

/-- Not going below some nodes is the same as leaving out all nodes that have such a node above them. -/
theorem visits_sameScope (body : SyntaxTree) : body.visits sameScope = outerNodes body := by
  rw [SyntaxTree.visits_eq_preorder, ← SyntaxTree.map_node_filter_occurrences, outerNodes]
  congr 2
  funext x
  rw [List.not_any_eq_all_not]
  rfl

theorem mem_nodes_of_mem_outerNodes {body n : SyntaxTree} (h : n ∈ outerNodes body) : n ∈ body.nodes := by
  rw [← SyntaxTree.map_node_occurrences]
  exact List.map_subset _ (List.filter_subset_self _) h

/-! ## Names set once -/

/-- A record is made from the node at a place, and no node before it sets the same name. -/
def MadeAt (c : FileContext) (nodes : List SyntaxTree) (r : AttributeRecord) (i : Nat) : Prop :=
  ∃ n, nodes[i]? = some n ∧ SetsSelf c n r.name ∧ (∀ m ∈ nodes.take i, ¬ SetsSelf c m r.name) ∧
    r.line = c.line n ∧ assignedType c n = .ok r.declaredType

/-- Records of the names that nodes set and that are not taken: one for each name, in the order of the first nodes that
    set them, and made from these. -/
structure SetOnce (c : FileContext) (nodes : List SyntaxTree) (taken : String → Prop) (set : List AttributeRecord) :
    Prop where
  names : ∀ name, name ∈ set.map (·.name) ↔ (∃ n ∈ nodes, SetsSelf c n name) ∧ ¬ taken name
  nodup : (set.map (·.name)).Nodup
  places : ∃ places : List Nat, places.Pairwise (· < ·) ∧ List.Forall₂ (MadeAt c nodes) set places

theorem setOnce_nil (taken : String → Prop) : SetOnce c [] taken [] where
  names _ := iff_of_false (fun h => nomatch h) fun ⟨⟨_, hn, _⟩, _⟩ => nomatch hn
  nodup := List.nodup_nil
  places := ⟨[], .nil, .nil⟩

variable {n : SyntaxTree} {nodes : List SyntaxTree} {taken : String → Prop} {set : List AttributeRecord}

/-- A node in front moves the place on by one, and the record stays as long as that node does not set its name. -/
theorem MadeAt.succ {r : AttributeRecord} {i : Nat} (h : MadeAt c nodes r i) (hn : ¬ SetsSelf c n r.name) :
    MadeAt c (n :: nodes) r (i + 1) := by
  obtain ⟨m, hm, hset, hfirst, hrest⟩ := h
  refine ⟨m, hm, hset, ?_, hrest⟩
  rw [List.take_succ_cons]
  exact List.forall_mem_cons.2 ⟨hn, hfirst⟩

/-- The places move on by one, if the node in front sets none of the names. -/
theorem SetOnce.places_cons (h : SetOnce c nodes taken set) (hn : ∀ name, SetsSelf c n name → name ∉ set.map (·.name)) :
    ∃ places : List Nat, places.Pairwise (· < ·) ∧ (∀ i ∈ places, 0 < i) ∧
      List.Forall₂ (MadeAt c (n :: nodes)) set places := by
  obtain ⟨places, hsorted, hmade⟩ := h.places
  refine ⟨places.map (· + 1), ?_, ?_, ?_⟩
  · exact List.pairwise_map.2 (hsorted.imp Nat.succ_lt_succ)
  · simp
  · rw [List.forall₂_map_right_iff]
    have hfree : ∀ r ∈ set, ¬ SetsSelf c n r.name := fun r hr hset => hn r.name hset (List.mem_map_of_mem hr)
    exact ((List.forall₂_and_left _ _).2 ⟨hfree, hmade⟩).imp fun r i h => h.2.succ h.1

/-- A node that sets no name, or one that is taken, changes nothing. -/
theorem SetOnce.skip (h : SetOnce c nodes taken set) (hn : ∀ name, SetsSelf c n name → taken name) :
    SetOnce c (n :: nodes) taken set where
  names name := by
    rw [h.names, List.exists_mem_cons_iff]
    constructor
    · rintro ⟨hset, htaken⟩
      exact ⟨.inr hset, htaken⟩
    · rintro ⟨hset | hset, htaken⟩
      · exact absurd (hn name hset) htaken
      · exact ⟨hset, htaken⟩
  nodup := h.nodup
  places := by
    obtain ⟨places, hsorted, -, hmade⟩ := h.places_cons (n := n) fun name hset hmem =>
      ((h.names name).1 hmem).2 (hn name hset)
    exact ⟨places, hsorted, hmade⟩

/-- A node that sets a name that is not taken gives a record, and the name is taken from then on. -/
theorem SetOnce.add {name : String} {r : AttributeRecord}
    (h : SetOnce c nodes (fun x => x = name ∨ taken x) set) (hn : ∀ x, SetsSelf c n x ↔ x = name) (htaken : ¬ taken name)
    (hname : r.name = name) (hline : r.line = c.line n) (htype : assignedType c n = .ok r.declaredType) :
    SetOnce c (n :: nodes) taken (r :: set) where
  names x := by
    rw [List.map_cons, List.mem_cons, h.names, List.exists_mem_cons_iff, hn, hname]
    constructor
    · rintro (rfl | ⟨hset, hnot⟩)
      · exact ⟨.inl rfl, htaken⟩
      · exact ⟨.inr hset, fun hx => hnot (.inr hx)⟩
    · rintro ⟨rfl | hset, hnot⟩
      · exact .inl rfl
      · by_cases hx : x = name
        · exact .inl hx
        · exact .inr ⟨hset, fun h => h.elim hx hnot⟩
  nodup := by
    rw [List.map_cons, List.nodup_cons, h.names, hname]
    exact ⟨fun hmem => hmem.2 (.inl rfl), h.nodup⟩
  places := by
    obtain ⟨places, hsorted, hpositive, hmade⟩ := h.places_cons (n := n) fun x hset hmem =>
      ((h.names x).1 hmem).2 (.inl ((hn x).1 hset))
    refine ⟨0 :: places, List.pairwise_cons.2 ⟨hpositive, hsorted⟩, .cons ⟨n, rfl, ?_, nofun, hline, htype⟩ hmade⟩
    exact (hn r.name).2 hname

/-- The walk through an initializer, from some names that it has seen. -/
theorem ends_selfAttributes (owner : String) {seen : List String} (hnodes : ∀ n ∈ nodes, n ∈ t.nodes) :
    Ends (selfAttributes c owner seen nodes) (SetOnce c nodes (· ∈ seen)) (c.Misreads t) := by
  -- one node after the other; the names that were seen grow on the way
  induction nodes generalizing seen with
  | nil => exact ends_ok (setOnce_nil _)
  | cons n rest ih =>
    obtain ⟨hn, hrest⟩ := List.forall_mem_cons.1 hnodes
    unfold selfAttributes
    refine (ends_selfName hn).bind fun found hfound => ?_
    split
    · exact (ih hrest).mono fun set hset => hset.skip fun name h => nomatch (hfound name).2 h
    · next name =>
      have hn' : ∀ x, SetsSelf c n x ↔ x = name := fun x => by rw [← hfound, Option.some.injEq, eq_comm]
      split
      · next hseen =>
        refine (ih hrest).mono fun set hset => hset.skip fun x h => ?_
        rw [(hn' x).1 h]
        exact List.contains_iff_mem.1 hseen
      · next hseen =>
        rw [List.contains_iff_mem] at hseen
        refine (ends_attributeOf owner name _ hn).bind fun r ⟨hname, hline, htype⟩ => ?_
        refine (@ih (name :: seen) hrest).bind fun set hset => ends_pure ?_
        simp only [List.mem_cons] at hset
        exact hset.add hn' hseen hname hline htype

/-- The nodes that are looked at for fields of `self`: those of the block of the first initializer. -/
inductive InitializerNodes (c : FileContext) (t : SyntaxTree) : List SyntaxTree → Prop
  | found {f body : SyntaxTree} (hf : FirstInitializer c (statements t) f) (hbody : block? f = some body) :
      InitializerNodes c t (outerNodes body)
  | absent (h : ∀ f, FirstInitializer c (statements t) f → block? f = none) : InitializerNodes c t []

/-- **The fields of a class.**  After those that the body sets come the ones that the first initializer sets, each name
    once and from its first assignment.  Only the text of a node of the class can stop this. -/
theorem fields_set_once (c : FileContext) (owner : String) (t : SyntaxTree) :
    Ends (attributesOf c owner t)
      (fun fields => ∃ own set nodes, bodyAttributes c owner t = .ok own ∧ fields = own ++ set ∧
        InitializerNodes c t nodes ∧ SetOnce c nodes (SetInBody c t) set)
      (c.Misreads t) := by
  refine (ends_bodyAttributes owner).bind fun own hown => ?_
  have hnames : (· ∈ own.map (·.name)) = SetInBody c t := funext fun name => propext (mem_bodyAttributes hown)
  refine (ends_initializer? fun s hs => mem_nodes_of_mem_statements hs).bind fun found hfound => ?_
  cases hbody : found.bind block? with
  | none =>
    rw [initializedAttributes, hbody]
    refine ends_ok ⟨own, [], [], hown, rfl, .absent fun f hf => ?_, setOnce_nil _⟩
    rw [(hfound f).2 hf] at hbody
    exact hbody
  | some body =>
    obtain ⟨f, hf, hblock⟩ := Option.bind_eq_some_iff.1 hbody
    have hfirst := (hfound f).1 hf
    rw [initializedAttributes, hbody]
    refine (ends_selfAttributes owner (t := t) fun n hn => ?_).bind fun set hset => ?_
    · rw [visits_sameScope] at hn
      have hinitializer := hfirst.mem_nodes fun s hs => mem_nodes_of_mem_statements hs
      exact SyntaxTree.mem_nodes_trans
        (SyntaxTree.mem_nodes_of_mem_children hinitializer (List.mem_of_find?_eq_some hblock))
        (mem_nodes_of_mem_outerNodes hn)
    · rw [visits_sameScope, hnames] at hset
      exact ends_pure ⟨own, set, _, hown, rfl, .found hfirst hblock, hset⟩

/-! ### Chains and lists of targets -/

/-- An assignment gives a value to a target: its left side, or one of several targets there. -/
def Assigns (c : FileContext) (n : SyntaxTree) (kind name : String) : Prop :=
  n.kind = "assignment" ∧ ∃ left target, n.child? "left" = some left ∧
    (target = left ∨ left.kind = "pattern_list" ∧ target ∈ left.children) ∧ target.kind = kind ∧ c.text target = .ok name

/-- `a = b = 1` in the body of the class, then `self.b = 2` and `self.c, self.d = 3, 4` in its initializer. -/
def chainedFile : FileContext :=
  { source := ⟨"class K:\n  a = b = 1\n  def __init__(self):\n    self.b = 2\n    self.c, self.d = 3, 4\n".toUTF8⟩
    file := "k.py"
    modulePath := "k" }

/-- The inner assignment of the chain. -/
def innerAssignment : SyntaxTree :=
  .rule "assignment" "right" 15 20 [.rule "identifier" "left" 15 16 [], .rule "integer" "right" 19 20 []]

/-- The assignment with two targets. -/
def pairAssignment : SyntaxTree :=
  .rule "assignment" "" 62 83 [.rule "pattern_list" "left" 62 76 [.rule "attribute" "" 62 68 [], .rule "attribute" "" 70 76 []],
    .rule "expression_list" "right" 79 83 [.rule "integer" "" 79 80 [], .rule "integer" "" 82 83 []]]

def chainedBody : SyntaxTree :=
  .rule "block" "body" 47 83 [
    .rule "expression_statement" "" 47 57 [
      .rule "assignment" "" 47 57 [.rule "attribute" "left" 47 53 [], .rule "integer" "right" 56 57 []]],
    .rule "expression_statement" "" 62 83 [pairAssignment]]

def chainedInitializer : SyntaxTree :=
  .rule "function_definition" "" 23 83 [.rule "identifier" "name" 27 35 [], chainedBody]

def chainedClassBody : SyntaxTree :=
  .rule "block" "body" 11 83 [
    .rule "expression_statement" "" 11 20 [
      .rule "assignment" "" 11 20 [.rule "identifier" "left" 11 12 [], innerAssignment]],
    chainedInitializer]

def chainedClass : SyntaxTree :=
  .rule "class_definition" "" 0 83 [.rule "identifier" "name" 6 7 [], chainedClassBody]

/-- A name that the body of a class assigns in a chain is a field of the initializer all the same, and fields that are
    targets of one assignment together are none. -/
theorem chained_fields : ∃ own set,
    bodyAttributes chainedFile "k.K" chainedClass = .ok own ∧
    attributesOf chainedFile "k.K" chainedClass = .ok (own ++ set) ∧
    FirstInitializer chainedFile (statements chainedClass) chainedInitializer ∧
    block? chainedInitializer = some chainedBody ∧ block? chainedClass = some chainedClassBody ∧
    ("c" ∉ set.map (·.name) ∧ ∃ n ∈ outerNodes chainedBody, Assigns chainedFile n "attribute" "self.c") ∧
    ¬ ∀ name, name ∈ set.map (·.name) ↔
      (∃ n ∈ outerNodes chainedBody, Assigns chainedFile n "attribute" ("self." ++ name)) ∧
        ¬ ∃ n ∈ outerNodes chainedClassBody, Assigns chainedFile n "identifier" name := by
  have hpair : pairAssignment ∈ outerNodes chainedBody := List.mem_of_getElem? (i := 6) rfl
  have hinner : innerAssignment ∈ outerNodes chainedClassBody := List.mem_of_getElem? (i := 4) rfl
  have hfirst : FirstInitializer chainedFile (statements chainedClass) chainedInitializer :=
    .later (fun g hg => by cases hg.1; exact absurd hg.2.1 (by decide)) (.here ⟨rfl, rfl, by decide +kernel⟩)
  refine ⟨[⟨"a", "k.K.a", "k.K", none, "public", "k.py", 2⟩], [⟨"b", "k.K.b", "k.K", none, "public", "k.py", 4⟩],
    by decide +kernel, by decide +kernel, hfirst, rfl, rfl, ⟨by decide, pairAssignment, hpair, ?_⟩, fun h => ?_⟩
  · exact ⟨rfl, _, _, rfl, .inr ⟨rfl, List.mem_cons_self⟩, rfl, by decide +kernel⟩
  · exact ((h "b").1 (by decide)).2 ⟨innerAssignment, hinner, rfl, _, _, rfl, .inl rfl, rfl, by decide +kernel⟩

end Python

end CodeAtlas
