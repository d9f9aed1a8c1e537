import Mathlib.Data.List.Forall2
import CodeAtlas.Proofs.Extraction.Closure
/-!
  Variables that hold functions and classes.

  A file declares what its statements declare, one after the other, and a variable declaration what its declarators
  declare; an exported declaration counts as much as a plain one, however deep it is inside of exports.  So one can say
  which part of the file's declarations stems from which declarator.  `DeclaresOnce` asks for one record there; it is
  what a declarator with a function or an arrow function has, and one with a class does not.

  1. **Declarators** (`Stems`): a declarator has its one record exactly if its value is taken for a function, and it has
     none if it is not.
  2. **Statements** (`InOrder`): a declaration of variables is the parts of its declarators, and exports are opened until
     there is a declaration (`StandsFor`).
  3. **Files** (`InFileOrder`): the parts of the statements are put together in the order of the statements.
-/
namespace CodeAtlas

namespace Fault

variable {α β : Type} {bad : Fault → Prop}

/-- What is good for each element is good for the elements and results of a list, pair by pair. -/
theorem ends_mapM_pairs {good : α → β → Prop} {f : α → Except Fault β} {xs : List α}
    (hf : ∀ x, Ends (f x) (good x) bad) : Ends (xs.mapM f) (List.Forall₂ good xs) bad := by
  induction xs with
  | nil => exact ends_ok .nil
  | cons x rest ih =>
    rw [List.mapM_cons]
    exact (hf x).bind fun y hy => ih.bind fun ys hys => ends_ok (.cons hy hys)

end Fault

/-- The surroundings of the children do not change what they are. -/
theorem Site.map_tree_childrenFrom (s : Site) (before ts : List SyntaxTree) :
    (s.childrenFrom before ts).map Site.tree = ts := by
  induction ts generalizing before with
  | nil => rfl
  | cons t rest ih => rw [childrenFrom, List.map_cons, ih]

/-- Looking for a child by its field does not depend on the surroundings. -/
theorem Site.map_tree_child? (s : Site) (field : String) : (s.child? field).map Site.tree = s.tree.child? field := by
  rw [child?, SyntaxTree.child?, children]
  conv_rhs => rw [← s.map_tree_childrenFrom [] s.tree.children]
  rw [List.find?_map]
  rfl

namespace Script

open Fault Declarations

/-! ## Declarators -/

/-- A statement stands for itself, or for what it exports. -/
inductive StandsFor : Site → Site → Prop
  | itself (s : Site) : StandsFor s s
  | exported {s d u : Site} (hkind : s.tree.kind = "export_statement") (hd : exportedDeclaration? s = some d)
      (h : StandsFor d u) : StandsFor s u

/-- Declarations of variables. -/
def DeclaresVariables (s : Site) : Prop := s.tree.kind = "lexical_declaration" ∨ s.tree.kind = "variable_declaration"

/-- The declarators of a declaration. -/
def declarators (s : Site) : List Site :=
  s.children.filter fun x => x.tree.isNamed && x.tree.kind = "variable_declarator"

/-- The kinds of expressions that are functions or classes. -/
def definitionKinds : List String :=
  ["arrow_function", "function", "function_expression", "generator_function", "class"]

/-- What is taken for a function is a function. -/
theorem mem_definitionKinds {kind : String} (h : functionValues.contains kind = true) : kind ∈ definitionKinds := by
  have hall : ∀ k ∈ functionValues, k ∈ definitionKinds := by decide
  exact hall kind (List.contains_iff_mem.1 h)

/-- A declarator gives a plain name to a function or a class. -/
structure Names (v : Site) (name value : SyntaxTree) : Prop where
  child_name : v.tree.child? "name" = some name
  plain : name.kind = "identifier"
  child_value : v.tree.child? "value" = some value
  kind : value.kind ∈ definitionKinds

/-- The names of functions and types with their qualified names. -/
def records (d : Declarations) : List (String × String) :=
  d.functions.map (fun f => (f.name, f.qualified)) ++ d.types.map fun r => (r.name, r.qualified)

/-- If a declarator names a function or a class, there is exactly one record, with this name. -/
def DeclaresOnce (c : FileContext) (v : Site) (d : Declarations) : Prop :=
  ∀ name value, Names v name value → ∃ n, c.text name = .ok n ∧ records d = [(n, c.modulePath ++ "." ++ n)]

/-- The value of a declarator is of a kind that is taken for a function. -/
def HoldsFunction (v : Site) : Prop := ∀ name value, Names v name value → functionValues.contains value.kind = true

variable (c : FileContext)

/-- What stems from a declarator: its one record exactly if its value is taken for a function, and nothing otherwise. -/
structure Stems (c : FileContext) (v : Site) (d : Declarations) : Prop where
  once_iff : DeclaresOnce c v d ↔ HoldsFunction v
  nothing : (∀ name value, Names v name value → functionValues.contains value.kind = false) → records d = []

/-- Without a record, all depends on whether there should have been one. -/
theorem stems_nothing {v : Site} {d : Declarations} (hd : records d = [])
    (hnot : ∀ name value, Names v name value → functionValues.contains value.kind = false) : Stems c v d where
  once_iff := by
    constructor
    · intro honce name value h
      obtain ⟨_, _, hrecords⟩ := honce name value h
      rw [hd] at hrecords
      nomatch hrecords
    · intro hholds name value h
      exact absurd ((hholds name value h).symm.trans (hnot name value h)) Bool.noConfusion
  nothing _ := hd

theorem stems_function {v : Site} {f : FunctionRecord} {name value : SyntaxTree} {n : String} (hv : Names v name value)
    (hvalue : functionValues.contains value.kind = true) (hn : c.text name = .ok n) (hname : f.name = n)
    (hqualified : f.qualified = c.modulePath ++ "." ++ n) : Stems c v (ofFunction f) where
  once_iff := by
    refine iff_of_true (fun name' value' h => ⟨n, ?_, ?_⟩) fun name' value' h => ?_
    · rw [← hn, Option.some.inj (h.child_name.symm.trans hv.child_name)]
    · show [(f.name, f.qualified)] = _
      rw [hname, hqualified]
    · rw [Option.some.inj (h.child_value.symm.trans hv.child_value)]
      exact hvalue
  nothing hnot := absurd (hvalue.symm.trans (hnot name value hv)) Bool.noConfusion

/-- Three questions are asked of a declarator: whether its name is plain, whether it has a value, and whether the kind
    of the value is one of those that are taken for functions. -/
theorem decodes_variableOf_stems (exported : Bool) (statement v : Site) :
    Decodes (variableOf c exported statement v) fun found => Stems c v found.declared := by
  unfold variableOf
  split
  · next hnone =>
    refine ends_pure (stems_nothing c rfl fun name value h => ?_)
    rw [h.child_name, Option.filter_some, if_pos (decide_eq_true h.plain)] at hnone
    nomatch hnone
  · next name hname =>
    obtain ⟨hchild, hplain⟩ := Option.filter_eq_some_iff.1 hname
    refine (c.reads_text name).eq_ok.bind fun n hn => ?_
    split
    · next hnone =>
      refine ends_pure (stems_nothing c rfl fun name value h => ?_)
      obtain ⟨s, hs, rfl⟩ := Option.map_eq_some_iff.1 ((v.map_tree_child? "value").trans h.child_value)
      rw [hs] at hnone
      simpa [Option.filter_some] using hnone
    · next s hs =>
      obtain ⟨hvalue, hfunction⟩ := Option.filter_eq_some_iff.1 hs
      have hnames : Names v name s.tree :=
        { child_name := hchild
          plain := of_decide_eq_true hplain
          child_value := by rw [← v.map_tree_child?, hvalue, Option.map_some]
          kind := mem_definitionKinds hfunction }
      refine (decodes_functionOf c n c.modulePath none s statement).bind fun f hf => ends_pure ?_
      exact stems_function c hnames hfunction hn hf.1 hf.2

/-! ## Statements -/

/-- What a variable declaration declares is what its declarators declare, one after the other. -/
def InOrder (c : FileContext) (s : Site) (d : Declarations) : Prop :=
  ∃ parts, d = mergeAll parts ∧ List.Forall₂ (Stems c) (declarators s) parts

/-- The parts of the statements are merged one after the other. -/
theorem declared_foldl_both (found : List Found) :
    (found.foldl Found.both Found.empty).declared = mergeAll (found.map Found.declared) := by
  have hfrom : ∀ acc : Found,
      (found.foldl Found.both acc).declared = (found.map Found.declared).foldl merge acc.declared := by
    induction found with
    | nil => exact fun acc => rfl
    | cons f rest ih => exact fun acc => ih (acc.both f)
  exact hfrom Found.empty

/-- A declaration of variables is gone through declarator by declarator. -/
theorem topLevel_of_declaresVariables {s : Site} (hs : DeclaresVariables s) (exported : Bool) :
    topLevel c exported s = (declarators s).mapM (variableOf c exported s) >>= fun found =>
      pure (found.foldl Found.both .empty) := by
  unfold topLevel
  rcases hs with hs | hs
  · simp only [hs]
    rfl
  · simp only [hs]
    rfl

/-- An export is what it exports, and the names that are exported besides. -/
theorem topLevel_of_exports {s d : Site} (hkind : s.tree.kind = "export_statement")
    (hd : exportedDeclaration? s = some d) (exported : Bool) :
    topLevel c exported s = topLevel c true d >>= fun inner => clauseExports c s.tree >>= fun more =>
      pure { inner with exports := inner.exports ++ more } := by
  conv_lhs => unfold topLevel
  simp only [hkind]
  rw [if_neg (by decide), if_neg (by decide), if_neg (by decide), if_neg (by decide), if_neg (by decide), if_pos trivial]
  split
  · next d' hd' =>
    rw [hd, Option.some.injEq] at hd'
    rw [hd']
  · next hnone =>
    rw [hd] at hnone
    exact absurd hnone (Option.some_ne_none d)

/-- The induction is on how a statement stands for its declaration: every export around it is opened. -/
theorem decodes_topLevel_inOrder {s u : Site} (h : StandsFor s u) (hu : DeclaresVariables u) (exported : Bool) :
    Decodes (topLevel c exported s) fun found => InOrder c u found.declared := by
  induction h generalizing exported with
  | itself s =>
    rw [topLevel_of_declaresVariables c hu]
    refine (ends_mapM_pairs fun v => decodes_variableOf_stems c exported s v).bind fun found hfound => ends_pure ?_
    exact ⟨_, declared_foldl_both found, List.forall₂_map_right_iff.2 hfound⟩
  | exported hkind hd _ ih =>
    rw [topLevel_of_exports c hkind hd]
    refine (ih hu true).bind fun inner hinner => ?_
    exact (reads_clauseExports c _).bind fun more _ => ends_pure hinner

/-- What a statement of a file declares.  Where it declares variables, in an export or not, these are in order. -/
def StatementOf (c : FileContext) (s : Site) (d : Declarations) : Prop :=
  namesModule s.tree = false → ∀ u, StandsFor s u → DeclaresVariables u → InOrder c u d

/-- Other statements may declare what they like: nothing is said of them. -/
theorem decodes_statement_inOrder {path root : Path} (h : path.IsUnder root) (s : Site) :
    Decodes (statement c path root s) fun found => StatementOf c s found.declared := by
  unfold statement
  split
  · next hname =>
    refine (decodes_importOf c h s.tree).map fun imports _ hnot => ?_
    rw [hname] at hnot
    nomatch hnot
  · refine ⟨fun hfound _ u hu hvariables => ?_, (decodes_topLevel c false s).of_error⟩
    exact (decodes_topLevel_inOrder c hu hvariables false).of_ok hfound

/-- The declarations of a file are those of its statements in order. -/
def InFileOrder (source : Source) (path root : Path) (tree : SyntaxTree) (d : Declarations) : Prop :=
  ∃ (c : FileContext) (parts : List Declarations), c.source = source ∧ modulePath path root = .ok c.modulePath ∧
    d = { mergeAll parts with files := d.files } ∧ List.Forall₂ (StatementOf c) (Site.root tree).children parts

/-- **Variables of a file.**  The declarations of a file are those of its statements in order; those of a variable
    declaration, exported or not, are those of its declarators in order; and a declarator that names a function or a
    class has exactly one record, with this name, if and only if its value is of a kind that is taken for a function. -/
theorem variables_in_order (language : Language) (source : Source) {path root : Path} (h : path.IsUnder root)
    (file : String) (tree : SyntaxTree) :
    Decodes (extract language source path root file tree) (InFileOrder source path root tree) := by
  refine (reads_modulePath h).eq_ok.bind fun module hmodule => ?_
  refine (ends_mapM_pairs fun s => decodes_statement_inOrder _ h s).bind fun found hfound => ?_
  refine (decodes_requires _ h tree).bind fun required _ => ends_pure ?_
  refine ⟨_, found.map Found.declared, rfl, hmodule, ?_, List.forall₂_map_right_iff.2 hfound⟩
  rw [← declared_foldl_both]
  rfl

/-! ### A function and a class in one declaration -/

/-- `export const f = () => 1, Foo = class {}` -/
def definitionsFile : ParsedFile :=
  { name := "a.js"
    text := "export const f = () => 1, Foo = class {}\n"
    statements := [
      .rule "export_statement" "" 0 40 [.rule "lexical_declaration" "declaration" 7 40 [
        .rule "variable_declarator" "" 13 24 [
          .rule "identifier" "name" 13 14 [],
          .rule "arrow_function" "value" 17 24 [
            .rule "formal_parameters" "parameters" 17 19 [], .rule "number" "body" 23 24 []]],
        .rule "variable_declarator" "" 26 40 [
          .rule "identifier" "name" 26 29 [],
          .rule "class" "value" 32 40 [.rule "class_body" "body" 38 40 []]]]]] }

/-- Of a function and a class in one declaration, only the function has a record. -/
theorem variables_of_definitions : Path.IsUnder ⟨"/", ["p", "a.js"]⟩ ⟨"/", ["p"]⟩ ∧
    ∃ d, Language.javascript.parse definitionsFile = .ok d ∧ records d = [("f", "a.f")] ∧
      InFileOrder ⟨definitionsFile.text.toUTF8⟩ ⟨"/", ["p", "a.js"]⟩ ⟨"/", ["p"]⟩
        (.rule "program" "" 0 definitionsFile.text.toUTF8.size definitionsFile.statements) d := by
  have hunder : Path.IsUnder ⟨"/", ["p", "a.js"]⟩ ⟨"/", ["p"]⟩ := ⟨["a.js"], List.cons_ne_nil _ _, rfl⟩
  have hrecords : (Language.javascript.parse definitionsFile).map records = .ok [("f", "a.f")] := by decide +kernel
  obtain ⟨d, hd, hrecords⟩ := map_eq_ok_iff.1 hrecords
  exact ⟨hunder, d, hd, hrecords, (variables_in_order .javascript _ hunder _ _).of_ok hd⟩

/-- `const Foo = class {}` -/
def classFile : ParsedFile :=
  { name := "a.js"
    text := "const Foo = class {}\n"
    statements := [
      .rule "lexical_declaration" "" 0 20 [
        .rule "variable_declarator" "" 6 20 [
          .rule "identifier" "name" 6 9 [],
          .rule "class" "value" 12 20 [.rule "class_body" "body" 18 20 []]]]] }

/-- A variable that holds a class has no record at all. -/
theorem class_of_variable_dropped : ∃ d, Language.javascript.parse classFile = .ok d ∧ records d = [] ∧
    ∃ s ∈ (Site.root (.rule "program" "" 0 21 classFile.statements)).children, namesModule s.tree = false ∧
      DeclaresVariables s ∧ ∃ v ∈ declarators s, ∃ name value, Names v name value ∧ value.kind = "class" ∧
        ¬ DeclaresOnce ⟨⟨classFile.text.toUTF8⟩, "a.js", "a"⟩ v d := by
  have hrecords : (Language.javascript.parse classFile).map records = .ok [] := by decide +kernel
  obtain ⟨d, hd, hrecords⟩ := map_eq_ok_iff.1 hrecords
  have hnames : Names ⟨.rule "variable_declarator" "" 6 20 [.rule "identifier" "name" 6 9 [],
      .rule "class" "value" 12 20 [.rule "class_body" "body" 18 20 []]], [], "lexical_declaration", []⟩
      (.rule "identifier" "name" 6 9 []) (.rule "class" "value" 12 20 [.rule "class_body" "body" 18 20 []]) :=
    ⟨rfl, rfl, rfl, by decide⟩
  refine ⟨d, hd, hrecords, _, List.mem_cons_self, rfl, .inl rfl, _, List.mem_cons_self, _, _, hnames, rfl, ?_⟩
  intro honce
  obtain ⟨n, -, hone⟩ := honce _ _ hnames
  rw [hrecords] at hone
  nomatch hone

end Script

end CodeAtlas
