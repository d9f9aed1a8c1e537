import CodeAtlas.Proofs.Conversion.Completeness
import CodeAtlas.Proofs.Resolution.Kinds
/-!
  What extends and implements what.

  A clause leads to the type that its name means.  A name that means no type is kept as written, and it is left to
  the conversion to drop the relation, because nothing has that name as its identifier.  But modules and functions have
  identifiers as well, and they may look like the name of a type: `Misled` are the clauses with such a name.  In orderly
  declarations these are all that can go wrong.

  1. What a name is resolved to is a type, if it is resolved at all: each way of finding it ends with the question
     whether it is one (`isType_of_typeOnly`, `isType_of_imported`).
  2. All relations of these two kinds come from clauses, as the other phases relate symbols in other ways
     (`not_isHeritage_of_mem`).
  3. So an edge that leads to something else comes from a clause whose name was kept, and whose name is the identifier
     of this something.
-/
namespace CodeAtlas

open Fault

/-! ## The graph of a table -/

namespace EdgeKind

/-- Edges between types that extend or implement each other. -/
def IsHeritage (k : EdgeKind) : Prop := k = .inherits ∨ k = .implements

instance (k : EdgeKind) : Decidable k.IsHeritage := inferInstanceAs (Decidable (k = .inherits ∨ k = .implements))

end EdgeKind

namespace Graph

/-- An identifier belongs to the node of a type. -/
def IsTypeNode (g : Graph) (id : String) : Prop := ∃ n ∈ g.nodes, n.id = id ∧ n.kind ∈ SymbolTable.typeKinds

/-- What extends or implements something is a type, and so is what it extends or implements. -/
def JoinsTypes (g : Graph) : Prop :=
  ∀ e ∈ g.edges, e.kind.IsHeritage → g.IsTypeNode e.source ∧ g.IsTypeNode e.target

end Graph

namespace SymbolTable

variable {t : SymbolTable} {deps : Dependencies}

/-- The symbols of a table have different identifiers. -/
theorem Sound.nodup_ids (h : t.Sound) (hdeps : deps.symbols = t.symbols.values) : deps.ids.Nodup := by
  unfold Dependencies.ids
  rw [hdeps, h.map_id_values]
  exact h.distinct

theorem Sound.mem_ids_iff (h : t.Sound) (hdeps : deps.symbols = t.symbols.values) (id : String) :
    id ∈ deps.ids ↔ t.symbols.contains id = true := by
  unfold Dependencies.ids
  rw [hdeps, h.map_id_values, OrderedMap.contains_iff]

/-- A node is a type exactly if its symbol is. -/
theorem Sound.isTypeNode_iff (h : t.Sound) (hdeps : deps.symbols = t.symbols.values) (id : String) :
    (Graph.ofDependencies deps).IsTypeNode id ↔ t.isType id = true := by
  unfold Graph.IsTypeNode
  rw [Graph.nodes_ofDependencies (h.nodup_ids hdeps), hdeps, isType_iff]
  constructor
  · rintro ⟨n, hn, rfl, hkind⟩
    obtain ⟨s, hs, rfl⟩ := List.mem_map.1 hn
    exact ⟨s, (h.mem_values_iff s).1 hs, hkind⟩
  · rintro ⟨s, hs, hkind⟩
    have hid := h.keyed id s hs
    exact ⟨_, List.mem_map_of_mem ((h.mem_values_iff s).2 (hid ▸ hs)), hid, hkind⟩

/-- The edges are the relations that lead to a symbol. -/
theorem Sound.mem_edges_iff (h : t.Sound) (hdeps : deps.symbols = t.symbols.values) (e : Edge) :
    e ∈ (Graph.ofDependencies deps).edges ↔ t.symbols.contains e.target = true ∧
      ∃ r, t.Has e.source r ∧ r.target = e.target ∧ EdgeKind.ofRelation r.kind = e.kind := by
  rw [Graph.edges_ofDependencies, Adjacency.mem_firsts, List.mem_filter, decide_eq_true_iff, h.mem_ids_iff hdeps,
    and_comm]
  refine and_congr_right fun _ => ?_
  unfold Dependencies.triples
  rw [hdeps, List.mem_flatMap]
  constructor
  · rintro ⟨s, hs, he⟩
    obtain ⟨r, hr, heq⟩ := List.mem_map.1 he
    obtain ⟨source, target, kind⟩ := e
    obtain ⟨hsource, htarget, hkind⟩ := Edge.mk.inj heq
    exact ⟨r, ⟨s, hsource ▸ (h.mem_values_iff s).1 hs, hr⟩, htarget, hkind⟩
  · rintro ⟨r, ⟨s, hs, hr⟩, htarget, hkind⟩
    have hid := h.keyed e.source s hs
    refine ⟨s, (h.mem_values_iff s).2 (hid ▸ hs), List.mem_map.2 ⟨r, hr, ?_⟩⟩
    rw [hid, htarget, hkind]

/-! ## Types are what names mean -/

theorem isType_of_typeOnly {found : Option String} {id : String} (h : Scopes.typeOnly t found = some id) :
    t.isType id = true :=
  (Option.filter_eq_some_iff.1 h).2

/-- An imported name that is bound to a module is not a type, so its qualified name is tried. -/
theorem isType_of_imported {s : Scopes} {file name id : String} (h : s.imported t file name = .ok (some id)) :
    t.isType id = true := by
  unfold Scopes.imported at h
  simp only at h
  split at h
  · cases h
  · split at h
    · exact isType_of_typeOnly (Except.ok.inj h)
    · obtain ⟨symbol, -, h⟩ := bind_eq_ok_iff.1 h
      exact isType_of_typeOnly (Except.ok.inj h)

/-- Provided that titles lead to types, a name leads to a type or nowhere. -/
theorem isType_of_resolveType {s : Scopes}
    (htitles : ∀ title ids, t.byTitle.get? title = some ids → ∀ id ∈ ids, t.isType id = true)
    {name file id : String} {scope : Option String} (h : s.resolveType t name file scope = .ok (some id)) :
    t.isType id = true := by
  unfold Scopes.resolveType at h
  simp only at h
  split at h
  · cases h
  · split at h
    · next hlookup =>
      cases h
      exact isType_of_typeOnly hlookup
    · split at h
      · next hscope =>
        cases h
        obtain ⟨scope', -, hfound⟩ := List.exists_of_findSome?_eq_some hscope
        exact isType_of_typeOnly hfound
      · obtain ⟨found, hfound, h⟩ := bind_eq_ok_iff.1 h
        cases found with
        | some found =>
          cases h
          exact isType_of_imported hfound
        | none =>
          have hunique : Scopes.uniqueByTitle t (Text.trim name) = some id := Except.ok.inj h
          unfold Scopes.uniqueByTitle at hunique
          split at hunique
          · next ids hids =>
            cases hunique
            cases htitle : t.byTitle.get? (Text.afterLast '.' (Text.trim name)) with
            | none =>
              rw [htitle] at hids
              cases hids
            | some ids =>
              rw [htitle, Option.getD_some] at hids
              exact htitles _ ids htitle id (hids ▸ List.mem_singleton_self id)
          · cases hunique

end SymbolTable

/-! ## Clauses -/

namespace Declarations

open SymbolTable

variable {d : Declarations} {o : ResolutionOptions} {x : Setting} {t : SymbolTable}

/-- The names of the other relations. -/
def otherKinds : List String := ["defines", "imports", "calls", "uses"]

/-- The words of the clauses stand for the kinds of these edges. -/
theorem isHeritage_of_isHeritage {kind : String} (h : IsHeritage kind) : (EdgeKind.ofRelation kind).IsHeritage := by
  rcases h with rfl | rfl <;> decide +kernel

/-- And the words of all other phases do not. -/
theorem not_isHeritage_of_mem {kind : String} (h : kind ∈ otherKinds) : ¬ (EdgeKind.ofRelation kind).IsHeritage := by
  have hall : ∀ kind ∈ otherKinds, ¬ (EdgeKind.ofRelation kind).IsHeritage := by decide +kernel
  exact hall kind h

/-- The relations that become edges between types are those of the clauses. -/
theorem Linked.has_heritage_iff (h : d.Linked o x t) (hc : d.Coherent) (source : String) (r : Relation) :
    t.Has source r ∧ (EdgeKind.ofRelation r.kind).IsHeritage ↔
      ∃ c ∈ d.heritage, Inherits x.scopes x.table c source r := by
  constructor
  · rintro ⟨hhas, hkind⟩
    rcases h.cases hhas with ⟨hdefines, -⟩ | hclause | hother
    · exact absurd hkind (not_isHeritage_of_mem (by simp [hdefines, otherKinds]))
    · exact hclause
    · exact absurd hkind (not_isHeritage_of_mem (List.mem_cons_of_mem "defines" hother))
  · rintro ⟨c, hclause, hinherits⟩
    obtain ⟨f, -, hplaced⟩ := hc.heritage c hclause
    exact ⟨h.has _ _ (.inherits hclause hinherits), isHeritage_of_isHeritage (hinherits.isHeritage hplaced.kind)⟩

/-- Both ends of a relation are types, unless it leads to no symbol. -/
def JoinsTypes (t : SymbolTable) (source : String) (r : Relation) : Prop :=
  t.symbols.contains r.target = true → t.isType source = true ∧ t.isType r.target = true

/-- The graph of the declarations is right if the clauses are. -/
theorem Linked.joinsTypes_iff (h : d.Linked o x t) (hc : d.Coherent) {deps : Dependencies}
    (hdeps : deps.symbols = t.symbols.values) :
    (Graph.ofDependencies deps).JoinsTypes ↔
      ∀ c ∈ d.heritage, ∀ source r, Inherits x.scopes x.table c source r → JoinsTypes x.table source r := by
  have hsame : JoinsTypes t = JoinsTypes x.table := by
    unfold JoinsTypes
    rw [isType_congr h.bare]
    simp only [contains_congr h.bare]
  constructor
  · intro hjoins c hclause source r hinherits
    obtain ⟨hhas, hkind⟩ := (h.has_heritage_iff hc source r).2 ⟨c, hclause, hinherits⟩
    rw [← hsame]
    intro hcontains
    obtain ⟨kind, hrelation⟩ : ∃ kind, EdgeKind.ofRelation r.kind = kind := ⟨_, rfl⟩
    have hedge := (h.sound.mem_edges_iff hdeps ⟨source, r.target, kind⟩).2 ⟨hcontains, r, hhas, rfl, hrelation⟩
    rw [hrelation] at hkind
    have hends := hjoins _ hedge hkind
    exact hends.imp (h.sound.isTypeNode_iff hdeps _).1 (h.sound.isTypeNode_iff hdeps _).1
  · intro hclauses e hedge hkind
    obtain ⟨hcontains, r, hhas, htarget, hrelation⟩ := (h.sound.mem_edges_iff hdeps e).1 hedge
    rw [← hrelation] at hkind
    obtain ⟨c, hclause, hinherits⟩ := (h.has_heritage_iff hc e.source r).1 ⟨hhas, hkind⟩
    have hjoins := hclauses c hclause e.source r hinherits
    rw [← hsame] at hjoins
    have hends := hjoins (htarget ▸ hcontains)
    rw [htarget] at hends
    exact hends.imp (h.sound.isTypeNode_iff hdeps _).2 (h.sound.isTypeNode_iff hdeps _).2

/-- A clause with a name that means no type, and is the identifier of something else. -/
def Misled (x : Setting) (c : Heritage) : Prop :=
  clauseType x.scopes x.table c = .ok none ∧ ∃ s, x.table.symbols.get? c.target = some s ∧ s.kind ∉ typeKinds

/-- If the name of a clause means something, it means a type. -/
theorem Situated.isType_of_clauseType (h : d.Situated o x) {c : Heritage} {target : String}
    (htarget : clauseType x.scopes x.table c = .ok (some target)) : x.table.isType target = true := by
  refine isType_of_resolveType (fun title ids hids id hid => ?_) htarget
  obtain ⟨r, hr, hrecord, -⟩ := h.indexed.titles title ids hids id hid
  exact h.isType_type hr hrecord

/-- In orderly declarations a clause goes wrong only if it is misled. -/
theorem Situated.joinsTypes_iff (h : d.Situated o x) {c : Heritage} (hclause : c ∈ d.heritage) :
    (∀ source r, Inherits x.scopes x.table c source r → JoinsTypes x.table source r) ↔ ¬ Misled x c := by
  obtain ⟨f, -, hplaced⟩ := h.coherent.heritage c hclause
  obtain ⟨source, hsource⟩ := h.indexed.exists_record hplaced.source
  have htype : x.table.isType source = true := by
    obtain ⟨r, hr, hfile, hname⟩ := hplaced.source
    rw [← hfile, ← hname] at hsource
    exact h.isType_type hr hsource
  rw [← hplaced.file] at hsource
  constructor
  · rintro hjoins ⟨hnone, s, hs, hkind⟩
    have hends := hjoins source ⟨c.kind, c.target⟩ ⟨hsource, .inl ⟨hnone, rfl⟩⟩ (OrderedMap.contains_of_get? hs)
    obtain ⟨s', hs', hkind'⟩ := isType_iff.1 hends.2
    rw [hs] at hs'
    cases hs'
    exact hkind hkind'
  · rintro hmisled source' r ⟨hsource', hinherits⟩ hcontains
    rw [hsource] at hsource'
    cases hsource'
    refine ⟨htype, ?_⟩
    rcases hinherits with ⟨hnone, rfl⟩ | ⟨target, htarget, -, rfl⟩
    · obtain ⟨s, hs⟩ := Option.isSome_iff_exists.1 hcontains
      exact isType_iff.2 ⟨s, hs, Decidable.byContradiction fun hkind => hmisled ⟨hnone, s, hs, hkind⟩⟩
    · exact h.isType_of_clauseType htarget

/-- **What extends or implements something is a type, and what it leads to is a type**, exactly if this is so for each
    clause; in orderly declarations, exactly if no clause is misled. -/
theorem joinsTypes_resolve_iff (hparsed : d.Parsed) {deps : Dependencies} (h : d.resolve o = .ok deps) :
    ∃ x, d.setting o = .ok x ∧
      ((Graph.ofDependencies deps).JoinsTypes ↔
        ∀ c ∈ d.heritage, ∀ source r, Inherits x.scopes x.table c source r → JoinsTypes x.table source r) ∧
      (d.Orderly → ((Graph.ofDependencies deps).JoinsTypes ↔ ∀ c ∈ d.heritage, ¬ Misled x c)) := by
  obtain ⟨x, t, -, hx, hsymbols⟩ := linked_resolve h
  refine ⟨x, hx.setting, hx.joinsTypes_iff hparsed.coherent hsymbols, fun horderly => ?_⟩
  refine (hx.joinsTypes_iff hparsed.coherent hsymbols).trans ?_
  exact forall₂_congr fun c hclause => (hx.situated hparsed horderly).joinsTypes_iff hclause

/-- A class whose base is a variable with the name of the module. -/
def baseFile : ParsedFile :=
  { name := "base.py"
    text := "base = object\nclass Model(base): pass\n"
    statements := [
      .rule "class_definition" "" 14 37 [
        .rule "identifier" "name" 20 25 [],
        .rule "argument_list" "superclasses" 25 31 [.rule "identifier" "" 26 30 []],
        .rule "block" "body" 33 37 [.rule "pass_statement" "" 33 37 []]]] }

/-- The class extends the module. -/
theorem resolve_base : ∃ d deps, Language.python.parse baseFile = .ok d ∧ d.Orderly ∧
    d.resolve (plainOptions "python") = .ok deps ∧
      (Graph.ofDependencies deps).nodes.map (fun n => (n.id, n.kind)) = [("base", "module"), ("base.Model", "class")] ∧
      (Graph.ofDependencies deps).edges = [⟨"base", "base.Model", .defines⟩, ⟨"base.Model", "base", .inherits⟩] := by
  have hresult : (Language.python.parse baseFile >>= fun d => (d.resolve (plainOptions "python")).map fun deps =>
      (decide d.Orderly, (Graph.ofDependencies deps).nodes.map (fun n => (n.id, n.kind)),
        (Graph.ofDependencies deps).edges)) =
      .ok (true, [("base", "module"), ("base.Model", "class")],
        [⟨"base", "base.Model", .defines⟩, ⟨"base.Model", "base", .inherits⟩]) := by decide +kernel
  obtain ⟨d, hd, hresult⟩ := bind_eq_ok_iff.1 hresult
  obtain ⟨deps, hdeps, hfacts⟩ := map_eq_ok_iff.1 hresult
  obtain ⟨horderly, hfacts⟩ := Prod.mk.inj hfacts
  obtain ⟨hnodes, hedges⟩ := Prod.mk.inj hfacts
  exact ⟨d, deps, hd, of_decide_eq_true horderly, hdeps, hnodes, hedges⟩

/-- The module is the only node of its name, and modules are no types. -/
theorem not_isTypeNode_base {g : Graph}
    (hnodes : g.nodes.map (fun n => (n.id, n.kind)) = [("base", "module"), ("base.Model", "class")]) :
    ¬ g.IsTypeNode "base" := by
  rintro ⟨n, hn, hid, hkind⟩
  have hmem : (n.id, n.kind) ∈ g.nodes.map fun n => (n.id, n.kind) := List.mem_map_of_mem hn
  rw [hnodes] at hmem
  simp only [List.mem_cons, Prod.mk.injEq, List.not_mem_nil, or_false] at hmem
  rcases hmem with ⟨-, hmodule⟩ | ⟨hother, -⟩
  · rw [hmodule] at hkind
    exact absurd hkind (by decide)
  · rw [hid] at hother
    exact absurd hother (by decide)

theorem not_joinsTypes_base : ∃ d deps, Language.python.parse baseFile = .ok d ∧ d.Parsed ∧ d.Orderly ∧
    d.resolve (plainOptions "python") = .ok deps ∧ ¬ (Graph.ofDependencies deps).JoinsTypes := by
  obtain ⟨d, deps, hd, horderly, hdeps, hnodes, hedges⟩ := resolve_base
  refine ⟨d, deps, hd, Language.parsed_parse hd, horderly, hdeps, fun hjoins => not_isTypeNode_base hnodes ?_⟩
  exact (hjoins ⟨"base.Model", "base", .inherits⟩ (by rw [hedges]; simp) (.inl rfl)).2

/-- A class that extends something called like the module that it is in. -/
theorem misled_base : ∃ d deps x, Language.python.parse baseFile = .ok d ∧ d.Parsed ∧ d.Orderly ∧
    d.resolve (plainOptions "python") = .ok deps ∧ d.setting (plainOptions "python") = .ok x ∧
      ∃ c ∈ d.heritage, Misled x c := by
  obtain ⟨d, deps, hd, horderly, hdeps, hnodes, hedges⟩ := resolve_base
  have hparsed := Language.parsed_parse hd
  obtain ⟨x, hx, -, hiff⟩ := joinsTypes_resolve_iff hparsed hdeps
  refine ⟨d, deps, x, hd, hparsed, horderly, hdeps, hx, Classical.byContradiction fun hnone => ?_⟩
  refine not_isTypeNode_base hnodes ?_
  have hjoins := (hiff horderly).2 fun c hclause hmisled => hnone ⟨c, hclause, hmisled⟩
  exact (hjoins ⟨"base.Model", "base", .inherits⟩ (by rw [hedges]; simp) (.inl rfl)).2

end Declarations

end CodeAtlas
