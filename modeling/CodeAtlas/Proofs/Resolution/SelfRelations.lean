import CodeAtlas.Proofs.Graph.Cycles
import CodeAtlas.Proofs.Resolution.Containment
import CodeAtlas.Proofs.Resolution.Heritage
/-!
  Relations of a symbol to itself.

  Imports, calls and fields leave out what leads back to where it starts.  A clause leaves it out if its name means
  the declaring type, but not if it is kept as written.  Containment and construction leave out nothing.
  In orderly declarations nothing contains itself, because a scope is shorter than what stands in it, and a name that is
  the identifier of a type means that type.  What remains is a function that shares its symbol with a class and
  constructs it.

  So the relations are gone through by the phase that they come from (`Linked.irreflexive_iff`): three of the phases
  never make such a relation, and each of the other ones has a definition of when it does.  For parsed declarations two
  of these are then shown to be impossible.
-/
namespace CodeAtlas

open Fault

/-- No symbol has a relation to itself. -/
def Dependencies.Irreflexive (deps : Dependencies) : Prop := ∀ s ∈ deps.symbols, ∀ r ∈ s.relations, r.target ≠ s.id

instance (deps : Dependencies) : Decidable deps.Irreflexive :=
  inferInstanceAs (Decidable (∀ s ∈ deps.symbols, ∀ r ∈ s.relations, r.target ≠ s.id))

/-- A cycle of a single node is an edge from it to itself. -/
theorem Graph.exists_loop {g : Graph} {kinds : Option (List EdgeKind)} {id : String} (h : [id] ∈ g.cycles kinds) :
    ∃ e ∈ g.edges, e.source = id ∧ e.target = id := by
  have hg := Adjacency.closed_ofGraph g kinds
  have hcomponent := Adjacency.component_of_mem_cycles hg (Adjacency.nodup_firsts g.ids) h
  have hwalk := (Adjacency.exists_cycle_iff hg id).1 ⟨[id], h, List.mem_singleton_self id⟩
  obtain ⟨next, hedge, hback⟩ := Relation.TransGen.head'_iff.1 hwalk
  -- the first step does not leave the cycle
  have hnext : next ∈ [id] := (hcomponent.whole id (List.mem_singleton_self id) next).2 ⟨.single hedge, hback⟩
  rw [List.mem_singleton.1 hnext, Adjacency.edge_ofGraph] at hedge
  obtain ⟨-, -, e, he, hsource, htarget, -⟩ := hedge
  exact ⟨e, he, hsource, htarget⟩

/-- Calls lead from one function to another one. -/
theorem CallEdge.callee_ne_caller {functions : List NamedFunction} {maxTargets : Int} {excluded : List String}
    {e : CallEdge} (he : e ∈ all functions maxTargets excluded) : e.callee ≠ e.caller := by
  have hevery := (mem_of_mem_kept he).resolve_left List.not_mem_nil
  obtain ⟨f, -, hcalls⟩ := List.mem_flatMap.1 hevery
  obtain ⟨c, -, htargets⟩ := List.mem_flatMap.1 hcalls
  obtain ⟨target, htarget, rfl⟩ := List.mem_map.1 htargets
  exact of_decide_eq_true (List.mem_filter.1 htarget).2

namespace Declarations

open SymbolTable

variable {d : Declarations} {o : ResolutionOptions} {x : Setting} {t : SymbolTable} {deps : Dependencies}

/-! ## The phases that ask nothing -/

/-- A declaration stands in something with its own symbol. -/
def ContainsItself (x : Setting) : Prop :=
  (∃ s ∈ x.table.symbols.values, ContainsType x.modules x.table s s.id ⟨"defines", s.id⟩) ∨
    ∃ g ∈ x.functions, ContainsFunction x.modules x.table g g.id ⟨"defines", g.id⟩

/-- A clause with a name that means no type, and is the identifier of the declaring type. -/
def NamesItself (x : Setting) (c : Heritage) : Prop :=
  x.table.record? c.file c.source = some c.target ∧ clauseType x.scopes x.table c = .ok none

/-- A function constructs a class whose symbol is its own. -/
def ConstructsItself (x : Setting) (g : NamedFunction) : Prop := Constructs x.scopes x.table g.record g.id

/-- Nothing else makes a relation of a symbol to itself. -/
theorem Linked.irreflexive_iff (h : d.Linked o x t) (hdeps : deps.symbols = t.symbols.values) :
    deps.Irreflexive ↔
      ¬ ContainsItself x ∧ (∀ c ∈ d.heritage, ¬ NamesItself x c) ∧ ∀ g ∈ x.functions, ¬ ConstructsItself x g := by
  have hhas : deps.Irreflexive ↔ ∀ source r, t.Has source r → r.target ≠ source := by
    unfold Dependencies.Irreflexive
    rw [hdeps]
    constructor
    · rintro hsymbols source r ⟨s, hs, hr⟩
      have hid := h.sound.keyed source s hs
      exact hid ▸ hsymbols s ((h.sound.mem_values_iff s).2 (hid ▸ hs)) r hr
    · exact fun hhas s hs r hr => hhas s.id r ⟨s, (h.sound.mem_values_iff s).1 hs, hr⟩
  rw [hhas]
  constructor
  · intro hne
    refine ⟨?_, fun c hclause ⟨hsource, hnone⟩ => ?_, fun g hg hself => ?_⟩
    · rintro (⟨s, hs, hcontains⟩ | ⟨g, hg, hcontains⟩)
      · exact hne _ _ (h.has _ _ (.containsType hs hcontains)) rfl
      · exact hne _ _ (h.has _ _ (.containsFunction hg hcontains)) rfl
    · exact hne _ _ (h.has c.target ⟨c.kind, c.target⟩ (.inherits hclause ⟨hsource, .inl ⟨hnone, rfl⟩⟩)) rfl
    · exact hne _ _ (h.has g.id ⟨"uses", g.id⟩ (.usesClass hg ⟨rfl, g.id, hself, rfl⟩)) rfl
  · rintro ⟨hcontains, hclauses, hfunctions⟩ source r hr hself
    rcases h.origin _ _ hr with hadds | ⟨-, hne⟩
    · cases hadds with
      | @containsType s hs hadd =>
        cases hadd.2.2
        cases hself
        exact hcontains (.inl ⟨s, hs, hadd⟩)
      | @containsFunction g hg hadd =>
        cases hadd.2
        cases hself
        exact hcontains (.inr ⟨g, hg, hadd⟩)
      | @inherits c hclause hadd =>
        obtain ⟨hsource, ⟨hnone, rfl⟩ | ⟨target, -, hne, rfl⟩⟩ := hadd
        · cases hself
          exact hclauses c hclause ⟨hsource, hnone⟩
        · exact hne hself
      | calls he hadd =>
        obtain ⟨rfl, rfl⟩ := hadd
        exact CallEdge.callee_ne_caller he hself
      | @usesClass g hg hadd =>
        obtain ⟨rfl, target, hconstructs, rfl⟩ := hadd
        cases hself
        exact hfunctions g hg hconstructs
      | usesField ha hadd =>
        obtain ⟨-, declaredType, -, name, -, target, -, hne, rfl⟩ := hadd
        exact hne hself
    · exact hne hself

/-! ## Orderly declarations -/

/-- What stands in something has another symbol. -/
theorem Situated.around_ne (h : d.Situated o x) {f : SourceFile} {name qualified scope id : String}
    (hstands : d.StandsIn f name qualified scope) (hlt : f.modulePath.length < qualified.length)
    (hid : x.table.record? f.path qualified = some id) : x.table.around x.modules f.path scope ≠ some id := by
  intro haround
  rcases hstands.scope with hscope | htype
  · obtain ⟨module, -, hmodule, hrecord, -⟩ := h.module_symbol hstands.file
    rw [hscope, h.around_module hstands.file, hmodule] at haround
    cases haround
    have hkey := h.distinct _ _ _ _ _ hrecord hid
    exact h.coherent.not_isModuleKey h.orderly hstands.file hlt ⟨f, hstands.file, hkey⟩
  · obtain ⟨outer, houter, haround'⟩ := h.around_type htype
    rw [haround] at haround'
    cases haround'
    have hsame : scope = qualified := congrArg Prod.snd (h.distinct _ _ _ _ _ houter hid)
    have hlength := congrArg String.length hsame
    rcases hstands.splits with heq | ⟨-, rfl, -⟩
    · rw [heq, length_dotted] at hlength
      omega
    · rw [← hlength] at hlt
      exact absurd hlt (Nat.not_lt_zero _)

/-- What a declaration stands in has a shorter name, so it has another symbol. -/
theorem Situated.not_containsItself (h : d.Situated o x) : ¬ ContainsItself x := by
  rintro (⟨s, hs, hkind, ⟨scope, hscope, haround⟩, -⟩ | ⟨g, hg, haround, -⟩)
  · have hs := (h.indexed.sound.mem_values_iff s).1 hs
    obtain ⟨r, hr, hrecord, hfile, hname⟩ := h.exists_type hs (List.contains_iff_mem.1 hkind)
    obtain ⟨f, scope', hpath, hstands⟩ := h.coherent.standsIn_type hr
    rw [enclosing_eq hname (h.orderly.named r hr).2 hstands.splits] at hscope
    cases hscope
    rw [hfile, ← hpath] at haround
    exact h.around_ne hstands (h.coherent.modulePath_lt_type h.orderly hr hstands.file hpath) (hpath ▸ hrecord) haround
  · have hrecord := h.indexed.ids g hg
    have hg := h.indexed.record_mem hg
    obtain ⟨f, hpath, -, hstands⟩ := h.coherent.standsIn_function hg
    rw [h.aroundFunction_eq hg hstands.file hpath] at haround
    exact h.around_ne hstands (h.coherent.modulePath_lt_function h.orderly hg hstands.file hpath) (hpath ▸ hrecord)
      haround

/-- Names in clauses that are identifiers only where they are qualified names. -/
def HasPlainClauses (d : Declarations) : Prop :=
  ∀ c ∈ d.heritage, '@' ∉ c.target.toList ∧ Text.trim c.target = c.target

instance (d : Declarations) : Decidable d.HasPlainClauses :=
  inferInstanceAs (Decidable (∀ c ∈ d.heritage, '@' ∉ c.target.toList ∧ Text.trim c.target = c.target))

/-- The identifier of a type means that type, wherever it stands. -/
theorem Situated.resolveType_id (h : d.Situated o x) {r : TypeRecord} (hr : r ∈ d.types)
    (hid : x.table.record? r.file r.qualified = some r.qualified) (htrim : Text.trim r.qualified = r.qualified)
    (s : Scopes) (file : String) (scope : Option String) :
    s.resolveType x.table r.qualified file scope = .ok (some r.qualified) := by
  have hlookup : Scopes.typeOnly x.table (x.table.lookup? r.qualified) = some r.qualified := by
    unfold Scopes.typeOnly
    rw [h.indexed.plain _ _ hid, Option.filter_some, if_pos (h.isType_type hr hid)]
  unfold Scopes.resolveType
  simp only [htrim, hlookup]
  rw [if_neg (h.ne_empty hr)]

/-- A name that is the identifier of a type is looked up as such, so it does not go without a meaning. -/
theorem Situated.not_namesItself (h : d.Situated o x) (hplain : d.HasPlainClauses) {c : Heritage}
    (hclause : c ∈ d.heritage) : ¬ NamesItself x c := by
  rintro ⟨hsource, hnone⟩
  obtain ⟨hat, htrim⟩ := hplain c hclause
  obtain ⟨f, -, hplaced⟩ := h.coherent.heritage c hclause
  obtain ⟨r, hr, hfile, hname⟩ := hplaced.source
  -- the name has no at sign, so it is the qualified name of the type
  have heq : c.target = c.source := by
    refine (h.indexed.formed _ _ _ hsource).resolve_right fun hform => hat ?_
    rw [hform, String.toList_append, String.toList_append]
    simp
  rw [heq] at hsource htrim
  rw [← hname] at hsource htrim heq
  rw [hplaced.file, ← hfile] at hsource
  unfold clauseType at hnone
  rw [heq, h.resolveType_id hr hsource htrim] at hnone
  nomatch hnone

/-- A function that constructs itself has the name of a class of its file. -/
theorem Situated.isTypeKey_of_constructsItself (h : d.Situated o x) {g : NamedFunction} (hg : g ∈ x.functions)
    (hself : ConstructsItself x g) : d.IsTypeKey (g.record.file, g.record.qualified) := by
  obtain ⟨c, -, -, -, hkind⟩ := hself
  obtain ⟨s, hs, hclass⟩ := Option.map_eq_some_iff.1 hkind
  obtain ⟨r, hr, hrecord, -⟩ := h.exists_type hs (by rw [hclass]; decide)
  exact ⟨r, hr, h.distinct _ _ _ _ _ hrecord (h.indexed.ids g hg)⟩

/-- In orderly declarations only functions make relations of symbols to themselves. -/
theorem Situated.irreflexive_iff (h : d.Situated o x) (hx : d.Linked o x t) (hplain : d.HasPlainClauses)
    (hdeps : deps.symbols = t.symbols.values) : deps.Irreflexive ↔ ∀ g ∈ x.functions, ¬ ConstructsItself x g := by
  rw [hx.irreflexive_iff hdeps]
  exact ⟨fun hall => hall.2.2, fun hfunctions =>
    ⟨h.not_containsItself, fun c hclause => h.not_namesItself hplain hclause, hfunctions⟩⟩

/-- Without relations of symbols to themselves no cycle has a single member. -/
theorem Linked.not_mem_cycles (h : d.Linked o x t) (hdeps : deps.symbols = t.symbols.values) (hself : deps.Irreflexive)
    (kinds : Option (List EdgeKind)) (id : String) : [id] ∉ (Graph.ofDependencies deps).cycles kinds := by
  intro hcycle
  obtain ⟨e, hedge, hsource, htarget⟩ := Graph.exists_loop hcycle
  obtain ⟨-, r, ⟨s, hs, hr⟩, heq, -⟩ := (h.sound.mem_edges_iff hdeps e).1 hedge
  have hid := h.sound.keyed e.source s hs
  have hvalue : s ∈ deps.symbols := by
    rw [hdeps, h.sound.mem_values_iff, hid]
    exact hs
  exact hself s hvalue r hr (heq.trans (htarget.trans (hsource.symm.trans hid.symm)))

/-- **No symbol has a relation to itself**, unless a phase that asks nothing makes one; in orderly declarations,
    exactly if no function constructs itself.  Then no symbol is a dependency cycle on its own. -/
theorem irreflexive_resolve_iff (hparsed : d.Parsed) (h : d.resolve o = .ok deps) :
    ∃ x, d.setting o = .ok x ∧
      (deps.Irreflexive ↔
        ¬ ContainsItself x ∧ (∀ c ∈ d.heritage, ¬ NamesItself x c) ∧ ∀ g ∈ x.functions, ¬ ConstructsItself x g) ∧
      (d.Orderly → d.HasPlainClauses → (deps.Irreflexive ↔ ∀ g ∈ x.functions, ¬ ConstructsItself x g)) ∧
      (deps.Irreflexive → ∀ kinds id, [id] ∉ (Graph.ofDependencies deps).cycles kinds) := by
  obtain ⟨x, t, -, hx, hsymbols⟩ := linked_resolve h
  exact ⟨x, hx.setting, hx.irreflexive_iff hsymbols, fun horderly hplain =>
    (hx.situated hparsed horderly).irreflexive_iff hx hplain hsymbols, hx.not_mem_cycles hsymbols⟩

/-- So no symbol has one if no function has the name of a type of its file. -/
theorem irreflexive_of_distinct_names (hparsed : d.Parsed) (horderly : d.Orderly) (hplain : d.HasPlainClauses)
    (hnames : ∀ g ∈ d.functions, ¬ d.IsTypeKey (g.file, g.qualified)) (h : d.resolve o = .ok deps) :
    deps.Irreflexive := by
  obtain ⟨x, t, -, hx, hsymbols⟩ := linked_resolve h
  have hsituated := hx.situated hparsed horderly
  refine (hsituated.irreflexive_iff hx hplain hsymbols).2 fun g hg hself => ?_
  exact hnames g.record (hx.indexed.record_mem hg) (hsituated.isTypeKey_of_constructsItself hg hself)

/-- A class, and a function with its name that calls it. -/
def reboundFile : ParsedFile :=
  { name := "m.py"
    text := "class Foo: pass\ndef Foo(): return Foo()\n"
    statements := [
      .rule "class_definition" "" 0 15 [
        .rule "identifier" "name" 6 9 [], .rule "block" "body" 11 15 [.rule "pass_statement" "" 11 15 []]],
      .rule "function_definition" "" 16 39 [
        .rule "identifier" "name" 20 23 [],
        .rule "block" "body" 27 39 [.rule "return_statement" "" 27 39 [
          .rule "call" "" 34 39 [
            .rule "identifier" "function" 34 37 [], .rule "argument_list" "arguments" 37 39 []]]]]] }

/-- They have one symbol, which uses itself. -/
theorem resolve_rebound : ∃ d deps, Language.python.parse reboundFile = .ok d ∧ d.Orderly ∧ d.HasPlainClauses ∧
    d.resolve (plainOptions "python") = .ok deps ∧ ¬ deps.Irreflexive := by
  have hresult : (Language.python.parse reboundFile >>= fun d => (d.resolve (plainOptions "python")).map fun deps =>
      decide (d.Orderly ∧ d.HasPlainClauses ∧ ¬ deps.Irreflexive)) = .ok true := by decide +kernel
  obtain ⟨d, hd, hresult⟩ := bind_eq_ok_iff.1 hresult
  obtain ⟨deps, hdeps, hfacts⟩ := map_eq_ok_iff.1 hresult
  obtain ⟨horderly, hplain, hself⟩ := of_decide_eq_true hfacts
  exact ⟨d, deps, hd, horderly, hplain, hdeps, hself⟩

theorem not_irreflexive_rebound : ∃ d deps, Language.python.parse reboundFile = .ok d ∧ d.Parsed ∧
    d.resolve (plainOptions "python") = .ok deps ∧ ∃ s ∈ deps.symbols, ∃ r ∈ s.relations, r.target = s.id := by
  obtain ⟨d, deps, hd, -, -, hdeps, hself⟩ := resolve_rebound
  refine ⟨d, deps, hd, Language.parsed_parse hd, hdeps, ?_⟩
  simpa only [Dependencies.Irreflexive, ne_eq, not_forall, exists_prop, not_not] using hself

/-- It comes from a function that has the name and the symbol of the class that it makes. -/
theorem constructsItself_rebound : ∃ d deps x, Language.python.parse reboundFile = .ok d ∧ d.Parsed ∧ d.Orderly ∧
    d.HasPlainClauses ∧ d.resolve (plainOptions "python") = .ok deps ∧ d.setting (plainOptions "python") = .ok x ∧
      ∃ g ∈ x.functions, ConstructsItself x g := by
  obtain ⟨d, deps, hd, horderly, hplain, hdeps, hself⟩ := resolve_rebound
  have hparsed := Language.parsed_parse hd
  obtain ⟨x, hx, -, hiff, -⟩ := irreflexive_resolve_iff hparsed hdeps
  refine ⟨d, deps, x, hd, hparsed, horderly, hplain, hdeps, hx, Classical.byContradiction fun hnone => hself ?_⟩
  exact (hiff horderly hplain).2 fun g hg hconstructs => hnone ⟨g, hg, hconstructs⟩

end Declarations

end CodeAtlas
