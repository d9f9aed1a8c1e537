import CodeAtlas.Proofs.Resolution.Kinds
/-!
  Containment is a forest.

  Types find what they stand in by cutting their qualified names, and functions by their owners.  Declarations of one
  name share a symbol, so both ways have to agree.  They do as long as declarations of one file with the same qualified
  name have the same name of their own: then the name decides what all of them stand in (`Situated.defines_iff`).  A
  scope is shorter than what stands in it, so the way up ends, and it ends at a module.

    1. **What defines a declaration**: the symbol around a place is that of the type there, if there is one, and else
       that of the module; for a type and for a function it is found in different ways, and both come to this.
    2. **One definition each**: the relations of this kind are those of the containment phase alone, so a symbol is
       defined by what its declarations stand in, and by nothing else.
    3. **The forest**: each symbol but those of the modules has exactly one parent, and the way from parent to parent
       comes to a module, by induction on the length of the qualified name (`Situated.climbs`).
-/
namespace CodeAtlas

open Fault

/-- The symbols that define a symbol, each as often as it says so. -/
def definers (symbols : List Symbol) (id : String) : List String :=
  symbols.flatMap fun s => (s.relations.filter fun r => r = ⟨"defines", id⟩).map fun _ => s.id

/-- Who defines a symbol is seen from the relations of all. -/
theorem mem_definers {symbols : List Symbol} {id source : String} :
    source ∈ definers symbols id ↔ ∃ s ∈ symbols, s.id = source ∧ ⟨"defines", id⟩ ∈ s.relations := by
  unfold definers
  simp only [List.mem_flatMap, List.mem_map, List.mem_filter, decide_eq_true_eq]
  constructor
  · rintro ⟨s, hs, r, ⟨hr, rfl⟩, heq⟩
    exact ⟨s, hs, heq, hr⟩
  · rintro ⟨s, hs, heq, hr⟩
    exact ⟨s, hs, _, ⟨hr, rfl⟩, heq⟩

/-- If no symbol says it twice, it is defined at most once by each. -/
theorem definers_sublist {symbols : List Symbol} (h : ∀ s ∈ symbols, s.relations.Nodup) (id : String) :
    (definers symbols id).Sublist (symbols.map (·.id)) := by
  induction symbols with
  | nil => exact List.Sublist.refl _
  | cons s rest ih =>
    obtain ⟨hs, hrest⟩ := List.forall_mem_cons.1 h
    have hfirst : ((s.relations.filter fun r => r = ⟨"defines", id⟩).map fun _ => s.id).Sublist [s.id] := by
      rw [List.filter_eq, List.map_replicate, hs.count]
      split
      · exact List.Sublist.refl _
      · exact List.nil_sublist _
    exact hfirst.append (ih hrest)

namespace Declarations

open SymbolTable

variable {d : Declarations} {o : ResolutionOptions} {x : Setting} {t : SymbolTable}

/-- A type or a function of a file, with its own name and its qualified one. -/
def Declares (d : Declarations) (file name qualified : String) : Prop :=
  (∃ r ∈ d.types, r.file = file ∧ r.name = name ∧ r.qualified = qualified) ∨
    ∃ g ∈ d.functions, g.file = file ∧ g.name = name ∧ g.qualified = qualified

/-- What shares its qualified name in a file has the same name of its own. -/
def NamedAlike (d : Declarations) : Prop :=
  ∀ file qualified name name', d.Declares file name qualified → d.Declares file name' qualified → name = name'

/-- Every declaration stands in something, if only in its module. -/
theorem Coherent.standsIn_declares (h : d.Coherent) {file name qualified : String}
    (hdeclares : d.Declares file name qualified) : ∃ f scope, f.path = file ∧ d.StandsIn f name qualified scope := by
  rcases hdeclares with ⟨r, hr, rfl, rfl, rfl⟩ | ⟨g, hg, rfl, rfl, rfl⟩
  · exact h.standsIn_type hr
  · obtain ⟨f, hpath, -, hstands⟩ := h.standsIn_function hg
    exact ⟨f, _, hpath, hstands⟩

/-- So it is if no name has a dot. -/
theorem Coherent.namedAlike_of_dotless (h : d.Coherent) (ho : d.Orderly)
    (hdotless : ∀ g ∈ d.functions, '.' ∉ g.name.toList) : d.NamedAlike := by
  have hname {file name qualified : String} (hdeclares : d.Declares file name qualified) : '.' ∉ name.toList := by
    rcases hdeclares with ⟨r, hr, -, rfl, -⟩ | ⟨g, hg, -, rfl, -⟩
    · exact (ho.named r hr).2
    · exact hdotless g hg
  -- the own name is what stands behind the last dot
  have hlast {file name qualified : String} (hdeclares : d.Declares file name qualified) :
      Text.afterLast '.' qualified = name := by
    obtain ⟨f, scope, -, hstands⟩ := h.standsIn_declares hdeclares
    rcases hstands.splits with rfl | ⟨-, -, rfl⟩
    · exact Text.afterLast_append scope (hname hdeclares)
    · exact Text.afterLast_eq_self (hname hdeclares)
  intro file qualified name name' hdeclares hdeclares'
  rw [← hlast hdeclares, hlast hdeclares']

/-! ## What defines a declaration -/

/-- The symbol around a type of a file is that of the type. -/
theorem Situated.around_type (h : d.Situated o x) {file scope : String} (hscope : d.HasType file scope) :
    ∃ id, x.table.record? file scope = some id ∧ x.table.around x.modules file scope = some id := by
  obtain ⟨id, hid⟩ := h.indexed.exists_record hscope
  obtain ⟨r, hr, rfl, rfl⟩ := hscope
  refine ⟨id, hid, ?_⟩
  unfold around
  rw [hid, Option.filter_some, if_pos (h.isType_type hr hid)]
  rfl

/-- The symbol around the top of a file is that of its module. -/
theorem Situated.around_module (h : d.Situated o x) {f : SourceFile} (hf : f ∈ d.files) :
    x.table.around x.modules f.path f.modulePath = x.modules.get? f.path := by
  have hnone : (x.table.record? f.path f.modulePath).filter x.table.isType = none := by
    refine Option.filter_eq_none_iff.2 fun id hid htype => ?_
    obtain ⟨s, hs, hkind⟩ := isType_iff.1 htype
    obtain ⟨r, hr, hrecord, -⟩ := h.exists_type hs hkind
    have hkey := h.distinct _ _ _ _ _ hrecord hid
    have hlt := h.coherent.modulePath_lt_type h.orderly hr hf (congrArg Prod.fst hkey).symm
    rw [show r.qualified = f.modulePath from congrArg Prod.snd hkey] at hlt
    omega
  unfold around
  rw [hnone]
  rfl

/-- A function is defined by what its name says it stands in. -/
theorem Situated.aroundFunction_eq (h : d.Situated o x) {g : FunctionRecord} (hg : g ∈ d.functions) {f : SourceFile}
    (hf : f ∈ d.files) (hpath : f.path = g.file) :
    x.table.aroundFunction x.modules g = x.table.around x.modules f.path (g.owner.getD f.modulePath) := by
  obtain ⟨f', hf', hplaced⟩ := h.coherent.functions g hg
  cases h.orderly.eq_of_path hf hf' (hpath.trans hplaced.file)
  unfold aroundFunction FunctionRecord.owner?
  rw [← hpath]
  cases howner : g.owner with
  | none => exact (h.around_module hf).symm
  | some outer =>
    have houter := hplaced.owner outer howner
    obtain ⟨id, hid, haround⟩ := h.around_type houter
    obtain ⟨r, hr, hfile, rfl⟩ := houter
    rw [Option.filter_some, if_pos (decide_eq_true (h.ne_empty hr)), Option.bind_some, hid, Option.getD_some, haround]
    rfl

/-- A type is defined by what its name says it stands in. -/
theorem enclosing_eq {s : Symbol} {module name qualified scope : String}
    (hs : s.metadata.get? "qualified_name" = some (.str qualified)) (hname : '.' ∉ name.toList)
    (hsplits : Splits module name qualified scope) : s.enclosing = .ok scope := by
  have hqualified : s.qualified = .ok (.str qualified) := by
    unfold Symbol.qualified
    rw [hs]
  have hdot : Text.hasPiece "." qualified = qualified.toList.contains '.' := Text.Chars.contains_singleton '.' _
  unfold Symbol.enclosing
  rw [hqualified]
  show (if Text.hasPiece "." qualified = true then Except.ok (Text.beforeLast '.' qualified) else Except.ok "") = _
  rw [hdot]
  rcases hsplits with rfl | ⟨-, rfl, rfl⟩
  · rw [if_pos (by simp), Text.beforeLast_append scope hname]
  · rw [if_neg (by simpa using hname)]

/-! ## One definition each -/

/-- What defines a symbol is found from the two sorts of declarations. -/
theorem Linked.has_defines_iff (h : d.Linked o x t) (hc : d.Coherent) (source id : String) :
    t.Has source ⟨"defines", id⟩ ↔
      (∃ s ∈ x.table.symbols.values, ContainsType x.modules x.table s source ⟨"defines", id⟩) ∨
        ∃ g ∈ x.functions, ContainsFunction x.modules x.table g source ⟨"defines", id⟩ := by
  constructor
  · intro hhas
    rcases h.cases hhas with ⟨-, hcontains⟩ | ⟨c, hclause, hinherits⟩ | hkind
    · exact hcontains
    · obtain ⟨f, -, hplaced⟩ := hc.heritage c hclause
      have hkind : IsHeritage "defines" := hinherits.isHeritage hplaced.kind
      unfold IsHeritage at hkind
      exact absurd hkind (by decide)
    · have hkind : "defines" ∈ ["imports", "calls", "uses"] := hkind
      exact absurd hkind (by decide)
  · rintro (⟨s, hs, hcontains⟩ | ⟨g, hg, hcontains⟩)
    · exact h.has _ _ (.containsType hs hcontains)
    · exact h.has _ _ (.containsFunction hg hcontains)

/-- The symbol of a function is defined by what is around the function. -/
theorem Linked.has_defines (h : d.Linked o x t) {g : FunctionRecord} (hg : g ∈ d.functions) {source id : String}
    (hid : x.table.record? g.file g.qualified = some id) (haround : x.table.aroundFunction x.modules g = some source) :
    t.Has source ⟨"defines", id⟩ := by
  obtain ⟨g', hg', rfl⟩ := List.mem_map.1 ((h.indexed.records g).2 hg)
  rw [h.indexed.ids g' hg'] at hid
  cases hid
  exact h.has _ _ (.containsFunction hg' ⟨haround, rfl⟩)

/-- **A declaration is defined by what it stands in, and by nothing else.** -/
theorem Situated.defines_iff (h : d.Situated o x) (hx : d.Linked o x t) (halike : d.NamedAlike) {f : SourceFile}
    {name qualified scope id : String} (hdeclares : d.Declares f.path name qualified)
    (hstands : d.StandsIn f name qualified scope) (hid : x.table.record? f.path qualified = some id) (source : String) :
    t.Has source ⟨"defines", id⟩ ↔ x.table.around x.modules f.path scope = some source := by
  -- what the symbol of a type of this name stands in
  have htype {r : TypeRecord} (hr : r ∈ d.types) (hfile : r.file = f.path) (hqualified : r.qualified = qualified)
      {s : Symbol} (hs : s.metadata.get? "qualified_name" = some (.str r.qualified)) : s.enclosing = .ok scope := by
    have hsame : r.name = name := halike f.path qualified _ _ (.inl ⟨r, hr, hfile, rfl, hqualified⟩) hdeclares
    have hsplits : Splits f.modulePath r.name r.qualified scope := by
      rw [hsame, hqualified]
      exact hstands.splits
    exact enclosing_eq hs (h.orderly.named r hr).2 hsplits
  -- and what a function of this name stands in
  have hfunction {g : FunctionRecord} (hg : g ∈ d.functions) (hfile : g.file = f.path)
      (hqualified : g.qualified = qualified) :
      x.table.aroundFunction x.modules g = x.table.around x.modules f.path scope := by
    have hsame : g.name = name := halike f.path qualified _ _ (.inr ⟨g, hg, hfile, rfl, hqualified⟩) hdeclares
    obtain ⟨f', hpath, -, hstands'⟩ := h.coherent.standsIn_function hg
    cases h.orderly.eq_of_path hstands.file hstands'.file (hfile.symm.trans hpath.symm)
    have hsplits := hstands'.splits
    rw [hsame, hqualified] at hsplits
    rw [h.aroundFunction_eq hg hstands.file hpath, hsplits.unique hstands.splits]
  constructor
  · rw [hx.has_defines_iff h.coherent]
    rintro (⟨s, hs, hkind, ⟨scope', hscope, haround⟩, heq⟩ | ⟨g, hg, haround, heq⟩)
    · cases heq
      have hs := (h.indexed.sound.mem_values_iff s).1 hs
      obtain ⟨r, hr, hrecord, hfile, hname⟩ := h.exists_type hs (List.contains_iff_mem.1 hkind)
      have hkey := h.distinct _ _ _ _ _ hrecord hid
      rw [htype hr (congrArg Prod.fst hkey) (congrArg Prod.snd hkey) hname] at hscope
      cases hscope
      rwa [hfile, show r.file = f.path from congrArg Prod.fst hkey] at haround
    · cases heq
      have hkey := h.distinct _ _ _ _ _ (h.indexed.ids g hg) hid
      rwa [hfunction (h.indexed.record_mem hg) (congrArg Prod.fst hkey) (congrArg Prod.snd hkey)] at haround
  · intro haround
    rcases hdeclares with ⟨r, hr, hfile, -, rfl⟩ | ⟨g, hg, hfile, -, rfl⟩
    · rw [← hfile] at hid haround
      obtain ⟨s, hs, rfl, hkind, hsfile, hname⟩ := h.type_symbol hr hid
      have hvalue := (h.indexed.sound.mem_values_iff s).2 hs
      refine hx.has _ _ (.containsType hvalue ⟨List.contains_iff_mem.2 hkind, ⟨scope, ?_, ?_⟩, rfl⟩)
      · exact htype hr hfile rfl hname
      · rw [hsfile]
        exact haround
    · exact hx.has_defines hg (hfile ▸ hid) ((hfunction hg hfile rfl).trans haround)

/-! ## The forest -/

/-- The phases add relations only, so a symbol that was made is there in the end. -/
theorem Linked.exists_value (h : d.Linked o x t) {id : String} {s : Symbol} (hs : x.table.symbols.get? id = some s) :
    ∃ s' ∈ t.symbols.values, s'.id = id ∧ s'.kind = s.kind := by
  obtain ⟨s', hs', hbare⟩ := exists_get?_congr h.bare hs
  have hid := h.sound.keyed id s' hs'
  have hkind : s'.bare.kind = s.bare.kind := congrArg Symbol.kind hbare
  exact ⟨s', (h.sound.mem_values_iff s').2 (hid ▸ hs'), hid, hkind⟩

/-- And a symbol that is there in the end was made. -/
theorem Linked.exists_bare (h : d.Linked o x t) {s : Symbol} (hs : s ∈ t.symbols.values) :
    ∃ s', x.table.symbols.get? s.id = some s' ∧ s'.kind = s.kind := by
  obtain ⟨s', hs', hbare⟩ := exists_get?_congr h.bare.symm ((h.sound.mem_values_iff s).1 hs)
  have hkind : s'.bare.kind = s.bare.kind := congrArg Symbol.kind hbare
  exact ⟨s', hs', hkind⟩

/-- Who defines a symbol, in terms of the table. -/
theorem Linked.mem_definers_iff (h : d.Linked o x t) {source id : String} :
    source ∈ definers t.symbols.values id ↔ t.Has source ⟨"defines", id⟩ := by
  rw [mem_definers]
  constructor
  · rintro ⟨s, hs, rfl, hr⟩
    exact ⟨s, (h.sound.mem_values_iff s).1 hs, hr⟩
  · rintro ⟨s, hs, hr⟩
    have hid := h.sound.keyed source s hs
    exact ⟨s, (h.sound.mem_values_iff s).2 (hid ▸ hs), hid, hr⟩

/-- No symbol has a relation twice, so one source is one entry of the list. -/
theorem Linked.definers_eq_singleton (h : d.Linked o x t) {id p : String}
    (hp : ∀ source, t.Has source ⟨"defines", id⟩ ↔ source = p) : definers t.symbols.values id = [p] := by
  have hids : (t.symbols.values.map (·.id)).Nodup := by
    rw [h.sound.map_id_values]
    exact h.sound.distinct
  have hnodup := hids.sublist (definers_sublist (fun s hs => h.once s.id s ((h.sound.mem_values_iff s).1 hs)) id)
  refine List.perm_singleton.1 ((List.perm_ext_iff_of_nodup hnodup (List.pairwise_singleton _ _)).2 fun source => ?_)
  rw [h.mem_definers_iff, hp, List.mem_singleton]

/-- The symbol of what a declaration stands in: of the type around it in its file if there is one, else of the
    module of the file. -/
def IsParent (d : Declarations) (byPackage : Bool) (t : SymbolTable) (file name qualified : String) (p : Symbol) :
    Prop :=
  (∃ outer ∈ d.types, outer.file = file ∧ qualified = outer.qualified ++ "." ++ name ∧
    t.record? file outer.qualified = some p.id ∧ p.kind ∈ typeKinds) ∨
  (∀ outer ∈ d.types, outer.file = file → qualified ≠ outer.qualified ++ "." ++ name) ∧
    ∃ f ∈ d.files, f.path = file ∧
      t.record? (moduleKey byPackage f).1 (moduleKey byPackage f).2 = some p.id ∧ p.kind = moduleKind byPackage

/-- Going up from a symbol. -/
def Climbs (symbols : List Symbol) : String → String → Prop :=
  Relation.ReflTransGen fun child parent => definers symbols child = [parent]

/-- Containment is a forest whose roots are the modules. -/
structure Forest (d : Declarations) (byPackage : Bool) (t : SymbolTable) : Prop where
  /-- nothing defines a module -/
  roots : ∀ s ∈ t.symbols.values, s.kind = moduleKind byPackage → definers t.symbols.values s.id = []
  /-- any other symbol is that of a type or a function -/
  declared : ∀ s ∈ t.symbols.values, s.kind ≠ moduleKind byPackage →
    ∃ file name qualified, d.Declares file name qualified ∧ t.record? file qualified = some s.id
  /-- and these are defined once, by what they stand in -/
  parents : ∀ file name qualified, d.Declares file name qualified → ∃ s ∈ t.symbols.values, ∃ p ∈ t.symbols.values,
    t.record? file qualified = some s.id ∧ definers t.symbols.values s.id = [p.id] ∧
      d.IsParent byPackage t file name qualified p
  climbs : ∀ s ∈ t.symbols.values, ∃ root ∈ t.symbols.values, root.kind = moduleKind byPackage ∧
    Climbs t.symbols.values s.id root.id

theorem Indexed.exists_declared (h : d.Indexed o x.modules x.functions x.table) {file name qualified : String}
    (hdeclares : d.Declares file name qualified) : ∃ id, x.table.record? file qualified = some id := by
  refine Option.isSome_iff_exists.1 ((h.known file qualified).2 (.inr ?_))
  rcases hdeclares with ⟨r, hr, rfl, -, rfl⟩ | ⟨g, hg, rfl, -, rfl⟩
  · exact .inl ⟨r, hr, rfl⟩
  · exact .inr ⟨g, hg, rfl⟩

/-- The symbol around a declaration is that of its parent. -/
theorem Situated.exists_parent (h : d.Situated o x) (hx : d.Linked o x t) {f : SourceFile}
    {name qualified scope : String} (hstands : d.StandsIn f name qualified scope) :
    ∃ p ∈ t.symbols.values, x.table.around x.modules f.path scope = some p.id ∧
      d.IsParent o.byPackage t f.path name qualified p := by
  have hrecord := record?_congr hx.bare
  by_cases htype : d.HasType f.path scope
  · obtain ⟨id, hid, haround⟩ := h.around_type htype
    obtain ⟨outer, houter, hfile, rfl⟩ := htype
    rw [← hfile] at hid
    obtain ⟨s, hs, -, hkind, -⟩ := h.type_symbol houter hid
    obtain ⟨p, hp, rfl, hpkind⟩ := hx.exists_value hs
    refine ⟨p, hp, haround, .inl ⟨outer, houter, hfile, ?_, ?_, hpkind ▸ hkind⟩⟩
    · exact hstands.splits.resolve_right fun ⟨_, hempty, _⟩ => h.ne_empty houter hempty
    · rw [hrecord, ← hfile]
      exact hid
  · obtain ⟨id, s, hmodule, hid, hs, -, hkind⟩ := h.module_symbol hstands.file
    obtain ⟨p, hp, rfl, hpkind⟩ := hx.exists_value hs
    have hscope := hstands.scope.resolve_right htype
    refine ⟨p, hp, ?_, .inr ⟨fun outer houter hfile heq => htype ?_, f, hstands.file, rfl, ?_, hpkind.trans hkind⟩⟩
    · rw [hscope, h.around_module hstands.file, hmodule]
    · exact ⟨outer, houter, hfile, Splits.unique (.inl heq) hstands.splits⟩
    · rw [hrecord]
      exact hid

/-- Every declaration is defined once. -/
theorem Situated.parents (h : d.Situated o x) (hx : d.Linked o x t) (halike : d.NamedAlike)
    {file name qualified : String} (hdeclares : d.Declares file name qualified) :
    ∃ s ∈ t.symbols.values, ∃ p ∈ t.symbols.values, t.record? file qualified = some s.id ∧
      definers t.symbols.values s.id = [p.id] ∧ d.IsParent o.byPackage t file name qualified p := by
  obtain ⟨f, scope, rfl, hstands⟩ := h.coherent.standsIn_declares hdeclares
  obtain ⟨id, hid⟩ := h.indexed.exists_declared hdeclares
  obtain ⟨s, hs, -⟩ := h.exists_symbol hid
  obtain ⟨s', hs', rfl, -⟩ := hx.exists_value hs
  obtain ⟨p, hp, haround, hparent⟩ := h.exists_parent hx hstands
  refine ⟨s', hs', p, hp, by rw [record?_congr hx.bare]; exact hid, hx.definers_eq_singleton fun source => ?_, hparent⟩
  rw [h.defines_iff hx halike hdeclares hstands hid, haround, Option.some.injEq, eq_comm]

theorem Situated.roots (h : d.Situated o x) (hx : d.Linked o x t) {s : Symbol} (hs : s ∈ t.symbols.values)
    (hkind : s.kind = moduleKind o.byPackage) : definers t.symbols.values s.id = [] := by
  obtain ⟨s', hs', hkind'⟩ := hx.exists_bare hs
  rw [hkind] at hkind'
  refine List.eq_nil_iff_forall_not_mem.2 fun source hsource => ?_
  rcases (hx.has_defines_iff h.coherent source s.id).1 (hx.mem_definers_iff.1 hsource) with
    ⟨s'', hs'', htype, -, heq⟩ | ⟨g, hg, -, heq⟩
  · -- the symbol of a type has another kind
    have hid : s.id = s''.id := congrArg Relation.target heq
    rw [h.indexed.sound.mem_values_iff, ← hid, hs'] at hs''
    cases hs''
    exact moduleKind_not_mem_typeKinds o.byPackage (hkind' ▸ List.contains_iff_mem.1 htype)
  · -- and a function shares its symbol with no module
    have hid : s.id = g.id := congrArg Relation.target heq
    have hrecord := h.indexed.ids g hg
    obtain ⟨f, hf, hmodule⟩ := h.exists_module hs' hkind'
    have hkey := h.distinct _ _ _ _ _ hmodule (hid ▸ hrecord)
    exact h.coherent.not_isModuleKey_function h.orderly (h.indexed.record_mem hg) ⟨f, hf, hkey⟩

/-- A symbol that is not that of a file is that of a type or a function. -/
theorem Situated.exists_declares (h : d.Situated o x) (hx : d.Linked o x t) {s : Symbol} (hs : s ∈ t.symbols.values)
    (hkind : s.kind ≠ moduleKind o.byPackage) :
    ∃ file name qualified, d.Declares file name qualified ∧ t.record? file qualified = some s.id := by
  obtain ⟨s', hs', hkind'⟩ := hx.exists_bare hs
  rw [record?_congr hx.bare]
  cases h.indexed.origin s.id s' hs' with
  | module _ _ hmodule => exact absurd (hkind'.symm.trans hmodule) hkind
  | @type r hr hrecord _ _ _ _ => exact ⟨r.file, r.name, r.qualified, .inl ⟨r, hr, rfl, rfl, rfl⟩, hrecord⟩
  | @function g hg hrecord _ _ _ => exact ⟨g.file, g.name, g.qualified, .inr ⟨g, hg, rfl, rfl, rfl⟩, hrecord⟩

/-- The way up from a declaration gets to a module, since what a name stands in has a shorter name. -/
theorem Situated.climbs (h : d.Situated o x) (hx : d.Linked o x t) (halike : d.NamedAlike)
    {file name qualified : String} (hdeclares : d.Declares file name qualified) {id : String}
    (hid : t.record? file qualified = some id) :
    ∃ root ∈ t.symbols.values, root.kind = moduleKind o.byPackage ∧ Climbs t.symbols.values id root.id := by
  induction hn : qualified.length using Nat.strongRecOn generalizing name qualified id with
  | ind n ih =>
    subst hn
    obtain ⟨s, -, p, hp, hsid, hdefiners, hparent⟩ := h.parents hx halike hdeclares
    rw [hid] at hsid
    cases hsid
    rcases hparent with ⟨outer, houter, hfile, heq, hpid, -⟩ | ⟨-, f, -, -, -, hkind⟩
    · have hshorter : outer.qualified.length < qualified.length := by
        rw [heq, length_dotted]
        omega
      obtain ⟨root, hroot, hkind, hclimbs⟩ := ih _ hshorter (.inl ⟨outer, houter, hfile, rfl, rfl⟩) hpid rfl
      exact ⟨root, hroot, hkind, .head hdefiners hclimbs⟩
    · exact ⟨p, hp, hkind, .single hdefiners⟩

theorem Situated.forest (h : d.Situated o x) (hx : d.Linked o x t) (halike : d.NamedAlike) :
    d.Forest o.byPackage t where
  roots _ hs hkind := h.roots hx hs hkind
  declared _ hs hkind := h.exists_declares hx hs hkind
  parents _ _ _ hdeclares := h.parents hx halike hdeclares
  climbs s hs := by
    by_cases hkind : s.kind = moduleKind o.byPackage
    · exact ⟨s, hs, hkind, .refl⟩
    · obtain ⟨file, name, qualified, hdeclares, hid⟩ := h.exists_declares hx hs hkind
      exact h.climbs hx halike hdeclares hid

/-- **Containment is a forest**, for all declarations that parsers give, as long as declarations that share a key
    share their own name.  Every symbol but a module is defined by exactly one other, which is the one it stands in,
    and all ways up end at modules. -/
theorem forest_of_parsed (hparsed : d.Parsed) (horderly : d.Orderly) (halike : d.NamedAlike) {deps : Dependencies}
    (h : d.resolve o = .ok deps) :
    ∃ t, d.related o = .ok t ∧ deps.symbols = t.symbols.values ∧ d.Forest o.byPackage t := by
  obtain ⟨x, t, ht, hx, hsymbols⟩ := linked_resolve h
  exact ⟨t, ht, hsymbols, (hx.situated hparsed horderly).forest hx halike⟩

/-- A class with a method in a class of its own file. -/
theorem forest_nested : ∃ d deps t, Language.python.parse nestedFile = .ok d ∧ d.Parsed ∧ d.Orderly ∧ d.NamedAlike ∧
    d.resolve (plainOptions "python") = .ok deps ∧ deps.symbols = t.symbols.values ∧ d.Forest false t := by
  have hresult : (Language.python.parse nestedFile).map (fun d => decide (d.Orderly ∧ d.HasLines ∧
      d.HasDots .dotted ∧ ∀ g ∈ d.functions, '.' ∉ g.name.toList)) = .ok true := by decide +kernel
  obtain ⟨d, hd, hfacts⟩ := map_eq_ok_iff.1 hresult
  obtain ⟨horderly, hlines, hdots, hdotless⟩ := of_decide_eq_true hfacts
  have hparsed := Language.parsed_parse hd
  have halike := hparsed.coherent.namedAlike_of_dotless horderly hdotless
  obtain ⟨deps, hdeps, -⟩ := (resolve_succeeds (o := plainOptions "python") hparsed.coherent.names hlines hdots
    (by decide)).exists_ok
  obtain ⟨t, -, hsymbols, hforest⟩ := forest_of_parsed hparsed horderly halike hdeps
  exact ⟨d, deps, t, hd, hparsed, horderly, halike, hdeps, hsymbols, hforest⟩

/-- A function whose name has a dot, and a method with its qualified name. -/
def dottedFile : ParsedFile :=
  { name := "a.py"
    text := "class C:\n  def m(self): pass\ndef C.m(): pass\n"
    statements := [
      .rule "class_definition" "" 0 28 [.rule "identifier" "name" 6 7 [], .rule "block" "body" 11 28 [
        .rule "function_definition" "" 11 28 [.rule "identifier" "name" 15 16 []]]],
      .rule "function_definition" "" 29 44 [.rule "identifier" "name" 33 36 []]] }

/-- They have one symbol, which is defined by the class and by the module. -/
theorem not_forest_dotted : ∃ d deps, Language.python.parse dottedFile = .ok d ∧ d.Parsed ∧ d.Orderly ∧
    d.resolve (plainOptions "python") = .ok deps ∧
      ∃ s ∈ deps.symbols, (s.kind = "method" ∨ s.kind = "function") ∧ ∀ p, definers deps.symbols s.id ≠ [p] := by
  have hresult : (Language.python.parse dottedFile).map (fun d => decide (d.Orderly ∧ d.HasLines ∧ d.HasDots .dotted ∧
      (∃ r ∈ d.types, r.file = "a.py" ∧ r.qualified = "a.C") ∧ (∀ r ∈ d.types, r.qualified ≠ "a.C.m") ∧
      (∃ g ∈ d.functions, g.file = "a.py" ∧ g.qualified = "a.C.m" ∧ g.owner = some "a.C") ∧
      ∃ g ∈ d.functions, g.file = "a.py" ∧ g.qualified = "a.C.m" ∧ g.owner = none)) = .ok true := by decide +kernel
  obtain ⟨d, hd, hfacts⟩ := map_eq_ok_iff.1 hresult
  obtain ⟨horderly, hlines, hdots, ⟨r, hr, hfile, hclass⟩, htypes, hmethod, hfunction⟩ := of_decide_eq_true hfacts
  have hparsed := Language.parsed_parse hd
  obtain ⟨deps, hdeps, -⟩ := (resolve_succeeds (o := plainOptions "python") hparsed.coherent.names hlines hdots
    (by decide)).exists_ok
  obtain ⟨x, t, -, hx, hsymbols⟩ := linked_resolve hdeps
  have h := hx.situated hparsed horderly
  obtain ⟨g, hg, hgfile, hgname, howner⟩ := hmethod
  obtain ⟨g', hg', hgfile', hgname', hnone⟩ := hfunction
  obtain ⟨id, hid⟩ := h.indexed.exists_declared (.inr ⟨g, hg, rfl, rfl, rfl⟩)
  have hid' : x.table.record? g'.file g'.qualified = some id := by rw [hgfile', hgname', ← hgfile, ← hgname, hid]
  -- the class defines the symbol
  obtain ⟨f, hpath, -, hstands⟩ := h.coherent.standsIn_function hg
  obtain ⟨p, hp, haround⟩ := h.around_type ⟨r, hr, hfile, hclass⟩
  have hhas : t.Has p ⟨"defines", id⟩ := hx.has_defines hg hid <| by
    rw [h.aroundFunction_eq hg hstands.file hpath, howner, Option.getD_some, hpath, hgfile]
    exact haround
  -- and so does the module
  obtain ⟨f', hpath', -, hstands'⟩ := h.coherent.standsIn_function hg'
  obtain ⟨m, -, hmodule, hm, -⟩ := h.module_symbol hstands'.file
  have hhas' : t.Has m ⟨"defines", id⟩ := hx.has_defines hg' hid' <| by
    rw [h.aroundFunction_eq hg' hstands'.file hpath', hnone, Option.getD_none, h.around_module hstands'.file, hmodule]
  have hne : p ≠ m := by
    rintro rfl
    rw [← hfile, ← hclass] at hp
    exact h.module_ne_type hstands'.file hr hmodule hp
  obtain ⟨s, hs, -, hkind⟩ := h.function_symbol hg hid fun ⟨r', hr', hkey⟩ =>
    htypes r' hr' ((congrArg Prod.snd hkey).trans hgname)
  obtain ⟨s', hs', rfl, hkind'⟩ := hx.exists_value hs
  refine ⟨d, deps, hd, hparsed, horderly, hdeps, s', hsymbols ▸ hs', hkind' ▸ hkind, fun q hq => ?_⟩
  rw [hsymbols] at hq
  have hsingle {source : String} (hsource : t.Has source ⟨"defines", s'.id⟩) : source = q :=
    List.mem_singleton.1 (hq ▸ hx.mem_definers_iff.2 hsource)
  exact hne ((hsingle hhas).trans (hsingle hhas').symm)

end Declarations

end CodeAtlas
