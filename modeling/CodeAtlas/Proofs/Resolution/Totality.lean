import CodeAtlas.Proofs.Conversion.Completeness
import CodeAtlas.Proofs.Resolution.Order
import CodeAtlas.Proofs.Resolution.Symbols
/-!
  Declarations can always be resolved, however little they fit together.

  Owners may be missing, files unknown, and types may extend each other in a circle.  What the phases look up
  comes from an index of the table, from the bindings, or from the functions and modules that were handed over,
  and all of these lead to symbols that are there.  `Ready` says this of the table: relations are added to
  symbols, so the identifiers stay what they were.  The proof goes through the phases in the order in which they are
  run:

  1. **Containment** (`Ready.relateContainment`): an owner is found by the records of the table, a module by the map of
     the files.
  2. **Imports** (`Ready.relateImports`): besides the table this phase makes the bindings, and `Bound` says that names
     are bound to symbols only.
  3. **Heritage, calls and uses**: what a name means is asked of the bindings (`Bound.resolveType_succeeds`), and what
     the answer is does not matter here.

  Each phase is a fold whose invariant is `Ready` for the identifiers at its start, so `related_ends` has nothing left
  to do but to put the phases behind each other.

  One step can fail for another reason.  An import with more dots than its module has packages is kept as
  written, and a text has room for so many dots only.
-/
namespace CodeAtlas

open Fault

/-! ## The qualified name of a type -/

/-- A type has its qualified name among its metadata, so that the name around it can be read off. -/
theorem Symbol.enclosing_succeeds {s : Symbol} (h : s.Regular) (htype : SymbolTable.typeKinds.contains s.kind = true) :
    Succeeds s.enclosing fun _ => True := by
  obtain ⟨name, hname⟩ := h.named htype
  unfold enclosing qualified
  rw [hname]
  show Succeeds (if Text.hasPiece "." name = true then pure (Text.beforeLast '.' name) else pure "") _
  split <;> exact ends_pure trivial

namespace SymbolTable

variable {t : SymbolTable} {ids : List String}

/-! ## Tables that relations are added to -/

/-- A table with certain identifiers, all of whose symbols are as they should be. -/
structure Ready (ids : List String) (t : SymbolTable) : Prop where
  table : t.Holds Symbol.Regular
  keys : t.symbols.keys = ids

/-- Being in the table and being one of the identifiers is the same. -/
theorem Ready.contains_iff (h : Ready ids t) {id : String} : t.symbols.contains id = true ↔ id ∈ ids := by
  rw [OrderedMap.contains_iff, h.keys]

/-- What a file and a qualified name are recorded as is a symbol. -/
theorem Ready.mem_of_record (h : Ready ids t) {file qualified id : String} (hid : t.record? file qualified = some id) :
    id ∈ ids :=
  h.contains_iff.1 (h.table.sound.records file qualified id hid)

/-- What a qualified name alone leads to is a symbol as well. -/
theorem Ready.mem_of_lookup (h : Ready ids t) {name id : String} (hid : t.lookup? name = some id) : id ∈ ids :=
  h.contains_iff.1 (h.table.sound.qualified name id hid)

/-- A symbol that is there gets one more relation, and no identifier comes or goes. -/
theorem Ready.relate (h : Ready ids t) {id : String} (hid : id ∈ ids) (kind target : String) :
    Succeeds (t.relate id kind target) (Ready ids) := by
  have hcontains := h.contains_iff.2 hid
  obtain ⟨s, hs, hsymbol⟩ := exists_symbol hcontains
  unfold SymbolTable.relate
  rw [hsymbol]
  have hsame : (s.relate kind target).id = id := (s.id_relate kind target).trans (h.table.sound.keyed id s hs)
  exact ends_ok
    { table := h.table.replace hsame ((h.table.symbols id s hs).relate kind target)
      keys := (OrderedMap.keys_insert_of_contains _ _ _ hcontains).trans h.keys }

/-! ## Containment -/

variable {modules : FileModules} {functions : List NamedFunction} {files : List SourceFile} {bad : Fault → Prop}

/-- A file without a module adds no relation, which is not a failure. -/
theorem Ready.relateFromModule (h : Ready ids t) (hmodules : ∀ path id, modules.get? path = some id → id ∈ ids)
    (file kind target : String) : Succeeds (t.relateFromModule modules file kind target) (Ready ids) := by
  unfold SymbolTable.relateFromModule
  split
  · next module hmodule => exact h.relate (hmodules file module hmodule) kind target
  · exact ends_ok h

/-- A type belongs to the type that its name starts with, or else to its module. -/
theorem Ready.containType (h : Ready ids t) (hmodules : ∀ path id, modules.get? path = some id → id ∈ ids)
    {s : Symbol} (hs : s.Regular) : Succeeds (containType modules t s) (Ready ids) := by
  unfold SymbolTable.containType
  split
  · exact ends_pure h
  · next htype =>
    have htype : typeKinds.contains s.kind = true := by simpa using htype
    refine (Symbol.enclosing_succeeds hs htype).bind fun name _ => ?_
    split
    · next owner howner => exact h.relate (h.mem_of_record (Option.filter_eq_some_iff.1 howner).1) _ _
    · exact h.relateFromModule hmodules _ _ _

/-- A function belongs to its owner, if that is declared, and else to its module. -/
theorem Ready.containFunction (h : Ready ids t) (hmodules : ∀ path id, modules.get? path = some id → id ∈ ids)
    (f : NamedFunction) : Succeeds (containFunction modules t f) (Ready ids) := by
  unfold SymbolTable.containFunction
  split
  · next owner howner =>
    obtain ⟨name, -, hrecord⟩ := Option.bind_eq_some_iff.1 howner
    exact h.relate (h.mem_of_record hrecord) _ _
  · exact h.relateFromModule hmodules _ _ _

/-- First the types in the order of the table, then the functions in the order in which they were handed over. -/
theorem Ready.relateContainment (h : Ready ids t) (hmodules : ∀ path id, modules.get? path = some id → id ∈ ids)
    (functions : List NamedFunction) : Succeeds (t.relateContainment modules functions) (Ready ids) := by
  have hregular : ∀ s ∈ t.symbols.values, s.Regular := fun s hs =>
    h.table.symbols s.id s ((h.table.sound.mem_values_iff s).1 hs)
  have htypes : Succeeds (t.symbols.values.foldlM (SymbolTable.containType modules) t) (Ready ids) :=
    ends_foldlM (Ready ids) h fun t' s hs h' => h'.containType hmodules (hregular s hs)
  refine htypes.bind fun t' h' => ?_
  exact ends_foldlM (Ready ids) h' fun t'' f _ h'' => h''.containFunction hmodules f

/-! ## Imports -/

/-- Names are bound to symbols. -/
def Bound (ids : List String) (s : Scopes) : Prop := ∀ key id, s.bindings.get? key = some id → id ∈ ids

theorem bound_ofFiles (ids : List String) (files : List SourceFile) : Bound ids (Scopes.ofFiles files) :=
  fun _ _ h => nomatch h

/-- A name may be bound to any symbol. -/
theorem Bound.bind {s : Scopes} (h : Bound ids s) (file name : String) {id : String} (hid : id ∈ ids) :
    Bound ids (s.bind file name id) := by
  intro key id' hid'
  rw [Scopes.bind, OrderedMap.get?_insertNew] at hid'
  -- a name that is bound already keeps what it is bound to
  split at hid'
  · cases hb : s.bindings.get? (file, name) with
    | none => rw [hb] at hid'; cases hid'; exact hid
    | some bound => rw [hb] at hid'; cases hid'; exact h _ _ hb
  · exact h key id' hid'

/-- An import of members binds those that are there. -/
theorem bound_members {s : Scopes} (h : Bound ids s) (file : String) {members : List (String × String)}
    (hmembers : ∀ m ∈ members, m.2 ∈ ids) :
    Bound ids (members.foldl (fun s (n, id) => s.bind file n id) s) := by
  induction members generalizing s with
  | nil => exact h
  | cons m rest ih =>
    obtain ⟨hm, hrest⟩ := List.forall_mem_cons.1 hmembers
    exact ih (h.bind file m.1 hm) hrest

/-- Whatever an import brings in, it comes from looking up qualified names, and these lead to symbols. -/
theorem Ready.importTargets (h : Ready ids t) {s : Scopes} (hs : Bound ids s) (style : ImportStyle) (f : SourceFile)
    (base : String) (i : Import) : Bound ids (importTargets style t f base i s).2 := by
  unfold SymbolTable.importTargets
  simp only
  split
  -- names of the module are imported, so what they lead to is bound
  · have hmembers : ∀ m ∈ i.names.filterMap fun n => (t.lookup? (base ++ "." ++ n)).map fun id => (n, id),
        m.2 ∈ ids := by
      intro m hm
      obtain ⟨n, -, hn⟩ := List.mem_filterMap.1 hm
      obtain ⟨id, hid, rfl⟩ := Option.map_eq_some_iff.1 hn
      exact h.mem_of_lookup hid
    split <;> exact bound_members hs f.path hmembers
  -- the module itself is imported, and may be unknown
  · split
    · exact hs
    · next id hid =>
      have hid := h.mem_of_lookup hid
      cases style with
      | qualified =>
        show Bound ids (if i.names = ["*"] then s else _)
        split
        · exact hs
        · exact hs.bind f.path _ hid
      -- `import a.b` binds `a`, which need not be there
      | dotted =>
        refine hs.bind f.path _ ?_
        cases hfirst : (t.lookup? (Text.beforeFirst '.' base)).filter (· ≠ "") with
        | none => exact hid
        | some first => exact h.mem_of_lookup (Option.filter_eq_some_iff.1 hfirst).1
      | direct => exact hs

/-- A text of dots can be written unless it would be too long. -/
theorem dots_ends {n : Nat} (hlong : maxDots < n → bad (.tooLong n)) : Ends (dots n) (fun _ => True) bad := by
  unfold dots
  split
  · next hmore => exact ends_error (hlong hmore)
  · exact ends_ok trivial

/-- Only the dots of an import can be too long. -/
theorem importBase_ends (f : SourceFile) {i : Import} (hlong : maxDots < i.level → bad (.tooLong i.level.toNat)) :
    Ends (importBase f i) (fun _ => True) bad := by
  have hdots : Ends ((dots i.level.toNat).map (· ++ i.target)) (fun _ => True) bad :=
    (dots_ends fun hmore => hlong (by omega)).map fun _ _ => trivial
  unfold importBase
  split
  · exact ends_ok trivial
  · simp only
    split
    · split
      · exact hdots
      · exact ends_ok trivial
    · split
      · exact hdots
      · exact ends_ok trivial

/-- Only languages whose imports have dots can fail here. -/
theorem importedModule_ends {style : ImportStyle} (f : SourceFile) {i : Import}
    (hlong : style = .dotted → maxDots < i.level → bad (.tooLong i.level.toNat)) :
    Ends (importedModule style f i) (fun _ => True) bad := by
  unfold importedModule
  split
  · next hstyle => exact importBase_ends f (hlong hstyle)
  · exact ends_ok trivial

/-- Relations from symbols may lead anywhere: where they end is not looked up. -/
theorem Ready.relateAll (h : Ready ids t) {sources : List String} (hsources : ∀ id ∈ sources, id ∈ ids)
    (targets : List String) : Succeeds (t.relateAll sources targets) (Ready ids) := by
  refine ends_foldlM (Ready ids) h fun t' source hsource h' => ?_
  refine ends_foldlM (Ready ids) h' fun t'' target _ h'' => ?_
  split
  · exact ends_ok h''
  · exact h''.relate (hsources source hsource) _ _

/-- The types that imports are counted for are symbols. -/
theorem Ready.topTypes (h : Ready ids t) (s : Scopes) :
    Succeeds (t.topTypes s) fun tops => ∀ e ∈ tops, e.2 ∈ ids := by
  refine ends_filterMapM (fun e : String × String => e.2 ∈ ids) fun symbol hsymbol => ?_
  have hget := (h.table.sound.mem_values_iff symbol).1 hsymbol
  have hid : symbol.id ∈ ids := h.contains_iff.1 (OrderedMap.contains_of_get? hget)
  split
  · next hkind =>
    have htype : typeKinds.contains symbol.kind = true := by
      rw [Bool.and_eq_true] at hkind
      exact hkind.1
    refine (Symbol.enclosing_succeeds (h.table.symbols _ _ hget) htype).bind fun name _ => ?_
    split
    · exact ends_pure fun e he => by cases he; exact hid
    · exact ends_pure fun e he => nomatch he
  · exact ends_pure fun e he => nomatch he

/-- An import is counted for the module of its file, or for the types of its file. -/
theorem importSources_succeeds (hmodules : ∀ path id, modules.get? path = some id → id ∈ ids)
    {tops : List (String × String)} (htops : ∀ e ∈ tops, e.2 ∈ ids) {f : SourceFile}
    (hf : (modules.get? f.path).isSome = true) :
    Succeeds (importSources modules tops f) fun sources => ∀ id ∈ sources, id ∈ ids := by
  unfold importSources
  split
  · obtain ⟨id, hid⟩ := Option.isSome_iff_exists.1 hf
    rw [hid]
    exact ends_ok fun id' hid' => by rw [List.mem_singleton.1 hid']; exact hmodules _ _ hid
  · refine ends_ok fun id hid => ?_
    obtain ⟨e, he, rfl⟩ := List.mem_map.1 hid
    exact htops e (List.mem_filter.1 he).1

/-- One import: its module is named, its relations are added, and its names are bound. -/
theorem Ready.relateImport (h : Ready ids t) {s : Scopes} (hs : Bound ids s) {style : ImportStyle} (f : SourceFile)
    {sources : List String} (hsources : ∀ id ∈ sources, id ∈ ids) {i : Import}
    (hlong : style = .dotted → maxDots < i.level → bad (.tooLong i.level.toNat)) :
    Ends (relateImport style f sources s t i) (fun r => Bound ids r.1 ∧ Ready ids r.2) bad := by
  refine (importedModule_ends f hlong).bind fun base _ => ?_
  refine (h.relateAll hsources _).surely.bind fun t' h' => ?_
  exact ends_pure ⟨h.importTargets hs style f base i, h'⟩

/-- The imports of one file, in the order in which they are written. -/
theorem Ready.relateImportsOf (h : Ready ids t) {s : Scopes} (hs : Bound ids s) {style : ImportStyle}
    (hmodules : ∀ path id, modules.get? path = some id → id ∈ ids) {tops : List (String × String)}
    (htops : ∀ e ∈ tops, e.2 ∈ ids) {f : SourceFile} (hf : (modules.get? f.path).isSome = true)
    (hlong : style = .dotted → ∀ i ∈ f.imports, maxDots < i.level → bad (.tooLong i.level.toNat)) :
    Ends (relateImportsOf style modules tops s t f) (fun r => Bound ids r.1 ∧ Ready ids r.2) bad := by
  refine (importSources_succeeds hmodules htops hf).surely.bind fun sources hsources => ?_
  refine ends_foldlM (fun r : Scopes × SymbolTable => Bound ids r.1 ∧ Ready ids r.2) ⟨hs, h⟩ ?_
  rintro ⟨s', t'⟩ i hi ⟨hs', h'⟩
  exact h'.relateImport hs' f hsources fun hstyle => hlong hstyle i hi

/-- The imports of all files.  Bindings and table go through this fold together, since what is bound was looked up. -/
theorem Ready.relateImports (h : Ready ids t) {s : Scopes} (hs : Bound ids s) {style : ImportStyle}
    (hmodules : ∀ path id, modules.get? path = some id → id ∈ ids)
    (hfiles : ∀ f ∈ files, (modules.get? f.path).isSome = true)
    (hlong : style = .dotted → ∀ f ∈ files, ∀ i ∈ f.imports, maxDots < i.level → bad (.tooLong i.level.toNat)) :
    Ends (relateImports style modules files s t) (fun r => Bound ids r.1 ∧ Ready ids r.2) bad := by
  have htops : Succeeds (importingTypes style t s) fun tops => ∀ e ∈ tops, e.2 ∈ ids := by
    unfold importingTypes
    split
    · exact h.topTypes s
    · exact ends_ok fun e he => absurd he List.not_mem_nil
  refine htops.surely.bind fun tops htops => ?_
  refine ends_foldlM (fun r : Scopes × SymbolTable => Bound ids r.1 ∧ Ready ids r.2) ⟨hs, h⟩ ?_
  rintro ⟨s', t'⟩ f hf ⟨hs', h'⟩
  exact h'.relateImportsOf hs' hmodules htops (hfiles f hf) fun hstyle i hi => hlong hstyle f hf i hi

/-! ## Heritage, calls and uses -/

/-- What a name means can always be found out: only what a name is bound to has to be there. -/
theorem Bound.resolveType_succeeds {s : Scopes} (hs : Bound t.symbols.keys s) (name file : String)
    (scope : Option String) : Succeeds (s.resolveType t name file scope) fun _ => True := by
  have himported : ∀ name, Succeeds (s.imported t file name) fun _ => True := by
    intro name
    unfold Scopes.imported
    simp only
    split
    · exact ends_ok trivial
    · next bound hbound =>
      split
      · exact ends_ok trivial
      · obtain ⟨symbol, -, hsymbol⟩ := exists_symbol ((OrderedMap.contains_iff _ _).2 (hs _ bound hbound))
        rw [hsymbol]
        exact ends_pure trivial
  unfold Scopes.resolveType
  simp only
  split
  · exact ends_ok trivial
  · split
    · exact ends_ok trivial
    · split
      · exact ends_ok trivial
      · refine (himported _).bind fun found _ => ?_
        split <;> exact ends_pure trivial

/-- So it is for a table that is ready. -/
theorem Ready.resolveType (h : Ready ids t) {s : Scopes} (hs : Bound ids s) (name file : String)
    (scope : Option String) : Succeeds (s.resolveType t name file scope) fun _ => True := by
  rw [← h.keys] at hs
  exact hs.resolveType_succeeds name file scope

/-- One clause.  A declaring type that is nowhere is passed over; a base that means nothing is kept as it is written. -/
theorem Ready.relateClause (h : Ready ids t) {s : Scopes} (hs : Bound ids s) (clause : Heritage) :
    Succeeds (relateClause s t clause) (Ready ids) := by
  unfold SymbolTable.relateClause
  split
  · exact ends_ok h
  · next source hsource =>
    have hsource := h.mem_of_record hsource
    refine (h.resolveType hs _ _ _).bind fun found _ => ?_
    split
    · exact h.relate hsource _ _
    · simp only
      split
      · exact ends_ok h
      · exact h.relate hsource _ _

theorem Ready.relateHeritage (h : Ready ids t) {s : Scopes} (hs : Bound ids s) (heritage : List Heritage) :
    Succeeds (relateHeritage s heritage t) (Ready ids) :=
  ends_foldlM (Ready ids) h fun _ clause _ h' => h'.relateClause hs clause

theorem Ready.relateCalls (h : Ready ids t) {edges : List CallEdge} (hedges : ∀ e ∈ edges, e.caller ∈ ids) :
    Succeeds (relateCalls edges t) (Ready ids) :=
  ends_foldlM (Ready ids) h fun _ e he h' => h'.relate (hedges e he) _ _

/-- A call of a type is a use of it, and a call of anything else is left alone. -/
theorem Ready.relateConstruction (h : Ready ids t) {s : Scopes} (hs : Bound ids s) {f : NamedFunction}
    (hf : f.id ∈ ids) (c : Call) : Succeeds (relateConstruction s f t c) (Ready ids) := by
  unfold SymbolTable.relateConstruction
  simp only
  split
  · exact ends_pure h
  · refine (h.resolveType hs _ _ _).bind fun found _ => ?_
    split
    · split
      · exact h.relate hf _ _
      · exact ends_pure h
    · exact ends_pure h

theorem Ready.relateConstructions (h : Ready ids t) {s : Scopes} (hs : Bound ids s)
    (hfunctions : ∀ f ∈ functions, f.id ∈ ids) : Succeeds (relateConstructions s functions t) (Ready ids) := by
  refine ends_foldlM (Ready ids) h fun t' f hf h' => ?_
  exact ends_foldlM (Ready ids) h' fun t'' c _ h'' => h''.relateConstruction hs (hfunctions f hf) c

/-- The declared type of an attribute may name several types, and each that is found is used by the owner. -/
theorem Ready.relateAttribute (h : Ready ids t) {s : Scopes} (hs : Bound ids s) (a : AttributeRecord) :
    Succeeds (relateAttribute s t a) (Ready ids) := by
  unfold SymbolTable.relateAttribute
  split
  · next declaredType owner _ howner =>
    have howner := h.mem_of_record howner
    refine ends_foldlM (Ready ids) h fun t' name _ h' => ?_
    refine (h'.resolveType hs _ _ _).bind fun found _ => ?_
    split
    · split
      · exact ends_pure h'
      · exact h'.relate howner _ _
    · exact ends_pure h'
  · exact ends_ok h

theorem Ready.relateAttributes (h : Ready ids t) {s : Scopes} (hs : Bound ids s) (attributes : List AttributeRecord) :
    Succeeds (relateAttributes s attributes t) (Ready ids) :=
  ends_foldlM (Ready ids) h fun _ a _ h' => h'.relateAttribute hs a

end SymbolTable

/-! ## Calls -/

namespace CallEdge

/-- Only what is gone through is kept. -/
theorem mem_of_mem_kept {α : Type} {skips : List α → α → Bool} {xs acc : List α} {x : α}
    (h : x ∈ xs.foldl (fun acc y => if skips acc y then acc else acc ++ [y]) acc) : x ∈ acc ∨ x ∈ xs := by
  induction xs generalizing acc with
  | nil => exact .inl h
  | cons y rest ih =>
    rw [List.foldl_cons] at h
    rcases ih h with h | h
    · split at h
      · exact .inl h
      · rw [List.mem_append, List.mem_singleton] at h
        rcases h with h | rfl
        · exact .inl h
        · exact .inr List.mem_cons_self
    · exact .inr (List.mem_cons_of_mem y h)

/-- Calls start at functions. -/
theorem caller_mem_of_mem_all {functions : List NamedFunction} {maxTargets : Int} {excluded : List String}
    {e : CallEdge} (he : e ∈ all functions maxTargets excluded) : ∃ f ∈ functions, f.id = e.caller := by
  -- edges are kept or left out, but not changed
  have hevery := (mem_of_mem_kept he).resolve_left List.not_mem_nil
  obtain ⟨f, hf, hcalls⟩ := List.mem_flatMap.1 hevery
  obtain ⟨c, -, htargets⟩ := List.mem_flatMap.1 hcalls
  obtain ⟨target, -, rfl⟩ := List.mem_map.1 htargets
  exact ⟨f, hf, rfl⟩

theorem mem_of_mem_distinct {ids : List String} {id : String} (h : id ∈ distinct ids) : id ∈ ids :=
  (mem_of_mem_kept h).resolve_left List.not_mem_nil

/-- Every candidate of a call can be looked up. -/
theorem first?_isSome_of_mem_named {functions : List NamedFunction} {name id : String} (h : id ∈ named functions name) :
    (first? functions id).isSome = true := by
  obtain ⟨f, hf, rfl⟩ := List.mem_map.1 (mem_of_mem_distinct h)
  rw [first?, Option.isSome_map, List.find?_isSome]
  exact ⟨f, (List.mem_filter.1 hf).1, decide_eq_true rfl⟩

end CallEdge

/-! ## All phases -/

/-- Symbols that lose nothing when they become a graph. -/
structure Dependencies.Neat (deps : Dependencies) : Prop where
  /-- no identifier is there twice -/
  ids : deps.ids.Nodup
  /-- no symbol has a relation twice -/
  relations : ∀ s ∈ deps.symbols, s.relations.Nodup
  /-- every symbol becomes a node, and none is reported as repeated -/
  graph : ∃ g, (DependencyData.symbols deps).toGraph = .ok g ∧
    g.nodes = deps.symbols.map (Graph.nodeOfSymbol deps.language) ∧ g.metadata.get? "duplicate_nodes" = none

/-- That nothing is there twice is all that the conversion asks for. -/
theorem Dependencies.neat_of_nodup {deps : Dependencies} (hids : deps.ids.Nodup)
    (hrelations : ∀ s ∈ deps.symbols, s.relations.Nodup) : deps.Neat where
  ids := hids
  relations := hrelations
  graph := by
    refine ⟨Graph.ofDependencies deps, rfl, Graph.nodes_ofDependencies hids, ?_⟩
    rw [Graph.get?_repeated_ofDependencies, if_pos hids]

namespace Declarations

open SymbolTable

/-- The imports of a language with dots in front have as many of them as can be written. -/
def HasDots (d : Declarations) (style : ImportStyle) : Prop :=
  style = .dotted → ∀ f ∈ d.files, ∀ i ∈ f.imports, i.level ≤ maxDots

instance (d : Declarations) (style : ImportStyle) : Decidable (d.HasDots style) :=
  inferInstanceAs (Decidable (style = .dotted → ∀ f ∈ d.files, ∀ i ∈ f.imports, i.level ≤ maxDots))

variable {d : Declarations} {o : ResolutionOptions} {bad : Fault → Prop}

/-- The phases one after the other.  Nothing can fail but an import that has more dots than can be written. -/
theorem related_ends (hnames : d.KeepsNames) (hseparator : o.separator ≠ "")
    (hlong : o.importStyle = .dotted → ∀ f ∈ d.files, ∀ i ∈ f.imports, maxDots < i.level →
      bad (.tooLong i.level.toNat)) :
    Ends (d.related o) (fun t => t.Holds Symbol.Regular) bad := by
  refine (symbols_succeeds hnames hseparator).surely.bind ?_
  rintro ⟨modules, functions, t⟩ hbuilt
  -- from here on the identifiers are fixed: those of the symbols that were just made
  have hready : Ready t.symbols.keys t := ⟨hbuilt.table, rfl⟩
  have hmodules : ∀ path id, modules.get? path = some id → id ∈ t.symbols.keys := fun path id hid =>
    hready.contains_iff.1 (hbuilt.knownModules path id hid)
  have hfunctions : ∀ f ∈ functions, f.id ∈ t.symbols.keys := fun f hf =>
    hready.contains_iff.1 (hbuilt.knownFunctions f hf)
  have hcallers : ∀ e ∈ CallEdge.all functions o.maxCallTargets o.noise, e.caller ∈ t.symbols.keys := by
    intro e he
    obtain ⟨f, hf, hcaller⟩ := CallEdge.caller_mem_of_mem_all he
    exact hcaller ▸ hfunctions f hf
  refine (hready.relateContainment hmodules functions).surely.bind fun t₁ h₁ => ?_
  refine (h₁.relateImports (bound_ofFiles _ _) hmodules hbuilt.complete fun hstyle f hf =>
    hlong hstyle f (List.mem_mergeSort.1 hf)).bind ?_
  rintro ⟨scopes, t₂⟩ ⟨hs, h₂⟩
  refine (h₂.relateHeritage hs d.heritage).surely.bind fun t₃ h₃ => ?_
  refine (h₃.relateCalls hcallers).surely.bind fun t₄ h₄ => ?_
  refine (h₄.relateConstructions hs hfunctions).surely.bind fun t₅ h₅ => ?_
  exact (h₅.relateAttributes hs d.attributes).surely.mono fun t₆ h₆ => h₆.table

/-- If there is room for the dots of all imports, nothing fails. -/
theorem related_succeeds (hnames : d.KeepsNames) (hdots : d.HasDots o.importStyle) (hseparator : o.separator ≠ "") :
    Succeeds (d.related o) fun t => t.Holds Symbol.Regular :=
  related_ends hnames hseparator fun hstyle f hf i hi hlong => absurd (hdots hstyle f hf i hi) (not_le.2 hlong)

/-- What comes out has no repetitions. -/
theorem resolve_succeeds (hnames : d.KeepsNames) (hlines : d.HasLines) (hdots : d.HasDots o.importStyle)
    (hseparator : o.separator ≠ "") : Succeeds (d.resolve o) Dependencies.Neat := by
  refine (related_succeeds hnames hdots hseparator).bind fun t ht => ?_
  rw [sortedDiagnostics_eq hlines]
  refine ends_pure (Dependencies.neat_of_nodup ?_ fun s hs => ?_)
  · show (t.symbols.values.map (·.id)).Nodup
    rw [ht.sound.map_id_values]
    exact ht.sound.distinct
  · exact (ht.symbols s.id s ((ht.sound.mem_values_iff s).1 hs)).relations

/-- **Declarations can always be resolved**, unless an import has more dots than can be written.  Neither their
    symbols nor their relations repeat, and the candidates of every call are functions. -/
theorem resolve_total (hnames : d.KeepsNames) (hlines : d.HasLines) (hdots : d.HasDots o.importStyle)
    (hseparator : o.separator ≠ "") :
    (∃ deps, d.resolve o = .ok deps ∧ deps.Neat) ∧
      ∀ modules functions t, d.symbols o = .ok (modules, functions, t) →
        ∀ name, ∀ id ∈ CallEdge.named functions name, (CallEdge.first? functions id).isSome = true :=
  ⟨(resolve_succeeds hnames hlines hdots hseparator).exists_ok,
    fun _ _ _ _ _ _ hid => CallEdge.first?_isSome_of_mem_named hid⟩

/-- A file whose import leads up by as many dots as are given. -/
def climbing (dots : Int) : Declarations :=
  { empty with
    files := [⟨"a.py", "a.py", 1, "a", "python", [⟨"m", ["x"], dots, 1⟩], [], false⟩] }

/-- Types that extend each other, one of them also something that is nowhere, and records of unknown files and
    owners. -/
def tangled : Declarations :=
  { climbing 3 with
    functions := [
      { name := "f", qualified := "a.f", visibility := "public", isAsync := false, isMethod := true, signature := ""
        file := "b.py", line := 1, doc := none, returnType := none, owner := some "Nobody", decorators := []
        calls := [⟨"A", .int 1⟩, ⟨"x.f", .null⟩], endLine := none, metadata := .empty }]
    types := [
      ⟨"A", "a.A", "public", "a.py", 1, none, none, .class "class" ["B"] .empty⟩,
      ⟨"B", "a.B", "public", "a.py", 2, none, none, .class "class" ["A"] .empty⟩,
      ⟨"A", "a.A", "public", "b.py", 1, none, none, .interface "interface"⟩]
    heritage := [⟨"a.A", "B", "extends", "a.py"⟩, ⟨"a.B", "A", "extends", "a.py"⟩,
      ⟨"a.B", "Out", "extends", "a.py"⟩, ⟨"a.C", "A", "extends", "a.py"⟩]
    attributes := [⟨"x", "a.C.x", "a.C", some "A", "public", "b.py", 1⟩]
    diagnostics := [⟨"b.py", "", .null⟩, ⟨"b.py", "", .int 2⟩] }

/-- Types in a circle, bases that are nowhere and owners that are unknown are resolved as well. -/
theorem resolve_tangled : ∃ deps, tangled.resolve (plainOptions "python") = .ok deps ∧ deps.Neat := by
  have hnames : tangled.KeepsNames := by decide +kernel
  have hlines : tangled.HasLines := by decide +kernel
  have hdots : tangled.HasDots (plainOptions "python").importStyle := by decide +kernel
  exact (resolve_total hnames hlines hdots (by decide)).1

/-- More dots than a text has room for. -/
theorem resolve_climbing :
    (climbing 9223372036854775808).KeepsNames ∧ (climbing 9223372036854775808).HasLines ∧
      (plainOptions "python").separator ≠ "" ∧
      (climbing 9223372036854775808).resolve (plainOptions "python") = .error (.tooLong 9223372036854775808) := by
  refine ⟨?_, ?_, ?_, ?_⟩ <;> decide +kernel

end Declarations

end CodeAtlas
