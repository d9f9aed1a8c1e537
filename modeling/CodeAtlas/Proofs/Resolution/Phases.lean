import CodeAtlas.Proofs.Resolution.Entries
import CodeAtlas.Proofs.Resolution.Links
import CodeAtlas.Resolution
/-!
  Which relations each phase adds.

  There is one lemma for each phase.  It says what the phase adds for one record, in terms of the table before any
  relation, and that a loop over records adds what it adds for each of them.  `linked_related` puts the phases together,
  so that every relation of a finished table is traced back to the record that it comes from.

    1. Containment: a type is defined by the type around it or by its module (`ContainsType`), a function by its owner
       or by its module (`ContainsFunction`).
    2. Imports: from the symbols of a file to the members that are named, or else to the module (`Imports`).
    3. Heritage: from a type to what its clause means, or to the name as it is written (`Inherits`).
    4. Calls: the edges that were found beforehand (`Calls`).
    5. Constructions: from a function to the classes that it makes objects of (`UsesClass`).
    6. Fields: from a type to the types in the annotations of its fields (`UsesField`).

  Each statement has the form `Gains (what is added) t`, which is an equivalence: these relations and no others.  The
  phases look names up in tables that have relations already.  As `Links` shows, that makes no difference, so that all
  six descriptions can be about one and the same table (`Setting.table`).  Only the names that imports bind have to be
  there before the later phases; they are in the scopes, which the second phase leaves behind (`Setting.scopes`).
-/
namespace CodeAtlas

open Fault

namespace SymbolTable

variable {t t' t'' : SymbolTable}

/-! ## Containment -/

/-- The symbol around what stands in a scope of a file: the type of that name, else the module. -/
def around (t : SymbolTable) (modules : FileModules) (file scope : String) : Option String :=
  ((t.record? file scope).filter t.isType).or (modules.get? file)

/-- The symbol around a function: its owner, else the module. -/
def aroundFunction (t : SymbolTable) (modules : FileModules) (f : FunctionRecord) : Option String :=
  (f.owner?.bind (t.record? f.file)).or (modules.get? f.file)

/-- What is added for a type. -/
def ContainsType (modules : FileModules) (t : SymbolTable) (s : Symbol) (source : String) (r : Relation) : Prop :=
  typeKinds.contains s.kind = true ∧
    (∃ scope, s.enclosing = .ok scope ∧ t.around modules s.file scope = some source) ∧ r = ⟨"defines", s.id⟩

/-- What is added for a function. -/
def ContainsFunction (modules : FileModules) (t : SymbolTable) (f : NamedFunction) (source : String) (r : Relation) :
    Prop :=
  t.aroundFunction modules f.record = some source ∧ r = ⟨"defines", f.id⟩

variable {modules : FileModules}

/-- The two places to look for the source of a relation. -/
theorem gains_relateFrom (t : SymbolTable) (owner : Option String) (file kind target : String) :
    Gives (match owner with
        | some owner => t.relate owner kind target
        | none => t.relateFromModule modules file kind target)
      (Gains (fun source r => owner.or (modules.get? file) = some source ∧ r = ⟨kind, target⟩) t) := by
  cases owner with
  | some owner =>
    exact (t.gains_relate owner kind target).mono fun t' h => h.congr fun source r => by simp [eq_comm]
  | none =>
    unfold relateFromModule
    simp only
    split
    · next module hmodule =>
      exact (t.gains_relate module kind target).mono fun t' h => h.congr fun source r => by simp [hmodule, eq_comm]
    · next hmodule => exact ends_ok ((Gains.refl t).congr fun source r => by simp [hmodule])

/-- For a symbol that is no type nothing is added.  For a type it is one relation from what its scope is, and the scope
    comes from the name that the symbol carries. -/
theorem gains_containType (t : SymbolTable) (s : Symbol) :
    Gives (containType modules t s) (Gains (ContainsType modules t s) t) := by
  unfold containType
  split
  · next hkind =>
    rw [Bool.not_eq_true'] at hkind
    exact ends_pure ((Gains.refl t).congr fun source r =>
      ⟨False.elim, fun h => Bool.false_ne_true (hkind.symm.trans h.1)⟩)
  · next hkind =>
    rw [Bool.not_eq_true', Bool.not_eq_false] at hkind
    cases hscope : s.enclosing with
    | error f => exact ends_error trivial
    | ok scope =>
      -- there is one scope only, so what it is filled with is what the program found
      refine (gains_relateFrom t ((t.record? s.file scope).filter t.isType) s.file "defines" s.id).mono fun t' h =>
        h.congr fun source r => ⟨fun ⟨hsource, hr⟩ => ⟨hkind, ⟨scope, hscope, hsource⟩, hr⟩, ?_⟩
      rintro ⟨-, ⟨scope', hscope', hsource⟩, hr⟩
      rw [hscope] at hscope'
      cases hscope'
      exact ⟨hsource, hr⟩

/-- For a function it is one relation from its owner or from its module. -/
theorem gains_containFunction (t : SymbolTable) (f : NamedFunction) :
    Gives (containFunction modules t f) (Gains (ContainsFunction modules t f) t) :=
  gains_relateFrom t (f.record.owner?.bind (t.record? f.record.file)) f.record.file "defines" f.id

/-- Types first, then functions.  The second loop looks at a table with the relations of the first one, which makes no
    difference for what it looks up. -/
theorem gains_relateContainment (functions : List NamedFunction) :
    Gives (t.relateContainment modules functions) (Gains (fun source r =>
      (∃ s ∈ t.symbols.values, ContainsType modules t s source r) ∨
        ∃ f ∈ functions, ContainsFunction modules t f source r) t) := by
  have htypes : Gives (t.symbols.values.foldlM (containType modules) t)
      (Gains (fun source r => ∃ s ∈ t.symbols.values, ContainsType modules t s source r) t) := by
    refine gains_foldlM fun s _ t' ht' => (gains_containType t' s).mono fun t'' h => h.congr fun source r => ?_
    unfold ContainsType around
    rw [record?_congr ht', isType_congr ht']
  refine htypes.bind fun t₁ h₁ => ?_
  -- the functions are added to a table that has grown, but it records and types what it did at first
  have hfunctions : Gives (functions.foldlM (containFunction modules) t₁)
      (Gains (fun source r => ∃ f ∈ functions, ContainsFunction modules t f source r) t₁) := by
    refine gains_foldlM fun f _ t' ht' => (gains_containFunction t' f).mono fun t'' h => h.congr fun source r => ?_
    unfold ContainsFunction aroundFunction
    rw [record?_congr ht', record?_congr h₁.bare]
  exact hfunctions.mono fun t₂ h₂ => h₁.trans h₂

/-! ## Imports -/

/-- Imports lead from one symbol to another one. -/
def IsImport (source : String) (r : Relation) : Prop := r.kind = "imports" ∧ r.target ≠ source

/-- What an import leads to: the members that it names and that there are, else its module. -/
def importedIds (t : SymbolTable) (base : String) (i : Import) : List String :=
  let members := i.names.filterMap fun name => t.lookup? (base ++ "." ++ name)
  if i.names = ["*"] || members.isEmpty then [((t.lookup? base).filter (· ≠ "")).getD base] else members

/-- What is added for a file. -/
def Imports (style : ImportStyle) (modules : FileModules) (tops : List (String × String)) (t : SymbolTable)
    (f : SourceFile) (source : String) (r : Relation) : Prop :=
  (∃ sources, importSources modules tops f = .ok sources ∧ source ∈ sources) ∧
    ∃ i ∈ f.imports, ∃ base, importedModule style f i = .ok base ∧
      ∃ target ∈ t.importedIds base i, target ≠ source ∧ r = ⟨"imports", target⟩

/-- What is added for a file is an import, and never from a symbol to itself. -/
theorem Imports.isImport {style : ImportStyle} {tops : List (String × String)} {f : SourceFile} {source : String}
    {r : Relation} (h : Imports style modules tops t f source r) : IsImport source r := by
  obtain ⟨-, i, -, base, -, target, -, hne, rfl⟩ := h
  exact ⟨rfl, hne⟩

/-- The targets of an import do not depend on the scopes, to which its bindings are added. -/
theorem fst_importTargets (style : ImportStyle) (t : SymbolTable) (f : SourceFile) (base : String) (i : Import)
    (s : Scopes) : (importTargets style t f base i s).1 = t.importedIds base i := by
  have hmembers : (i.names.filterMap fun n => (t.lookup? (base ++ "." ++ n)).map fun id => (n, id)).map (·.2) =
      i.names.filterMap fun n => t.lookup? (base ++ "." ++ n) := by
    rw [List.map_filterMap]
    simp only [Option.map_map, Function.comp_def, Option.map_id_fun', id]
  unfold importTargets importedIds
  simp only [← hmembers, List.isEmpty_map]
  cases hnames : i.names with
  | nil => rfl
  | cons name rest =>
    by_cases hstar : name :: rest = ["*"]
    · simp [hstar]
    · simp only [hstar, List.isEmpty_cons, Bool.not_false, Bool.true_and, ne_eq, not_false_eq_true, decide_true,
        decide_false, Bool.false_or, if_true]
      split <;> rfl

/-- Where an import leads does not depend on relations. -/
theorem importedIds_congr (ht : t'.bare = t.bare) : t'.importedIds = t.importedIds := by
  unfold importedIds
  rw [lookup?_congr ht]

/-- So what is added for a file does not either. -/
theorem imports_congr (ht : t'.bare = t.bare) (style : ImportStyle) (modules : FileModules)
    (tops : List (String × String)) (f : SourceFile) (source : String) (r : Relation) :
    Imports style modules tops t' f source r ↔ Imports style modules tops t f source r := by
  unfold Imports
  rw [importedIds_congr ht]

/-- All pairs of a source and a target, except those of a symbol with itself. -/
theorem gains_relateAll (t : SymbolTable) (sources targets : List String) :
    Gives (t.relateAll sources targets) (Gains (fun source r => source ∈ sources ∧
      ∃ target ∈ targets, target ≠ source ∧ r = ⟨"imports", target⟩) t) := by
  have hsources : Gives (t.relateAll sources targets) (Gains (fun source r => ∃ source' ∈ sources,
      ∃ target ∈ targets, (source = source' ∧ target ≠ source') ∧ r = ⟨"imports", target⟩) t) := by
    refine gains_foldlM fun source _ t₁ _ => gains_foldlM fun target _ t₂ _ => ?_
    split
    · next heq => exact ends_ok ((Gains.refl t₂).congr fun _ _ => by simp [heq])
    · next hne => exact (t₂.gains_relate source "imports" target).mono fun t₃ h => h.congr fun _ _ => by simp [hne]
  refine hsources.mono fun t' h => h.congr fun source r => ?_
  constructor
  · rintro ⟨_, hsource, target, htarget, ⟨rfl, hne⟩, hr⟩
    exact ⟨hsource, target, htarget, hne, hr⟩
  · rintro ⟨hsource, target, htarget, hne, hr⟩
    exact ⟨source, hsource, target, htarget, ⟨rfl, hne⟩, hr⟩

/-- One import of a file: its relations, and beside them the scopes with what it binds. -/
theorem gains_relateImport (style : ImportStyle) (f : SourceFile) (sources : List String) (s : Scopes)
    (t : SymbolTable) (i : Import) :
    Gives (relateImport style f sources s t i) fun r => Gains (fun source r => source ∈ sources ∧
      ∃ base, importedModule style f i = .ok base ∧
        ∃ target ∈ t.importedIds base i, target ≠ source ∧ r = ⟨"imports", target⟩) t r.2 := by
  unfold relateImport
  cases hbase : importedModule style f i with
  | error e => exact ends_error trivial
  | ok base =>
    refine (t.gains_relateAll sources (importTargets style t f base i s).1).bind fun t' h => ends_pure ?_
    exact h.congr fun source r => by simp [fst_importTargets]

/-- All imports of a file.  The loop carries scopes and table, and it is the table that gains. -/
theorem gains_relateImportsOf (style : ImportStyle) (tops : List (String × String)) (s : Scopes) (t : SymbolTable)
    (f : SourceFile) :
    Gives (relateImportsOf style modules tops s t f) fun r => Gains (Imports style modules tops t f) t r.2 := by
  unfold relateImportsOf
  cases hsources : importSources modules tops f with
  | error e => exact ends_error trivial
  | ok sources =>
    have hloop : Gives (f.imports.foldlM (fun r i => relateImport style f sources r.1 r.2 i) (s, t)) fun r =>
        Gains (fun source r => ∃ i ∈ f.imports, source ∈ sources ∧ ∃ base, importedModule style f i = .ok base ∧
          ∃ target ∈ t.importedIds base i, target ≠ source ∧ r = ⟨"imports", target⟩) t r.2 :=
      gains_foldlM_on Prod.snd rfl fun i _ r hr => (gains_relateImport style f sources r.1 r.2 i).mono fun _ h =>
        h.congr fun source r => by rw [importedIds_congr hr]
    refine hloop.mono fun r h => h.congr fun source r => ?_
    constructor
    · rintro ⟨i, hi, hsource, hrest⟩
      exact ⟨⟨sources, hsources, hsource⟩, i, hi, hrest⟩
    · rintro ⟨⟨_, heq, hsource⟩, i, hi, hrest⟩
      rw [hsources] at heq
      cases heq
      exact ⟨i, hi, hsource, hrest⟩

/-- The types at the top of files do not depend on relations. -/
theorem importingTypes_bare (style : ImportStyle) (t : SymbolTable) (s : Scopes) :
    importingTypes style t.bare s = importingTypes style t s := by
  have hvalues : t.bare.symbols.values = t.symbols.values.map Symbol.bare := by
    show (List.map _ _).map _ = (List.map _ _).map _
    rw [List.map_map, List.map_map]
    rfl
  unfold importingTypes topTypes
  rw [hvalues, filterMapM_map]
  rfl

/-- The types that files import from do not change while relations are added. -/
theorem importingTypes_congr (ht : t'.bare = t.bare) (style : ImportStyle) (s : Scopes) :
    importingTypes style t' s = importingTypes style t s := by
  rw [← importingTypes_bare, ht, importingTypes_bare]

/-- All files, in their order.  The types at the top are found once, before the loop. -/
theorem gains_relateImports (style : ImportStyle) (files : List SourceFile) (s : Scopes) (t : SymbolTable) :
    Gives (relateImports style modules files s t) fun r => ∃ tops, importingTypes style t s = .ok tops ∧
      Gains (fun source r => ∃ f ∈ files, Imports style modules tops t f source r) t r.2 := by
  unfold relateImports
  cases htops : importingTypes style t s with
  | error e => exact ends_error trivial
  | ok tops =>
    have hloop : Gives (files.foldlM (fun r f => relateImportsOf style modules tops r.1 r.2 f) (s, t)) fun r =>
        Gains (fun source r => ∃ f ∈ files, Imports style modules tops t f source r) t r.2 :=
      gains_foldlM_on Prod.snd rfl fun f _ r hr => (gains_relateImportsOf style tops r.1 r.2 f).mono fun _ h =>
        h.congr fun source r => imports_congr hr style modules tops f source r
    exact hloop.mono fun r h => ⟨tops, rfl, h⟩

/-! ## Heritage -/

/-- The type that a clause means. -/
def clauseType (s : Scopes) (t : SymbolTable) (h : Heritage) : Except Fault (Option String) :=
  s.resolveType t h.target h.file (some (Text.beforeLast '.' h.source))

/-- The kind of the relation from one type to another.  A class that extends an interface implements it. -/
def clauseKind (t : SymbolTable) (h : Heritage) (source target : String) : String :=
  let toInterface := t.kindOf? target = some "interface" || t.kindOf? target = some "protocol"
  if h.kind = "extends" && t.kindOf? source = some "class" && toInterface then "implements" else h.kind

/-- What is added for a clause: its type, unless that is the declaring type itself, or else the name as written. -/
def Inherits (s : Scopes) (t : SymbolTable) (h : Heritage) (source : String) (r : Relation) : Prop :=
  t.record? h.file h.source = some source ∧
    (clauseType s t h = .ok none ∧ r = ⟨h.kind, h.target⟩ ∨
      ∃ target, clauseType s t h = .ok (some target) ∧ target ≠ source ∧ r = ⟨clauseKind t h source target, target⟩)

/-- A clause says of a type that it extends or implements another one. -/
def IsHeritage (kind : String) : Prop := kind = "extends" ∨ kind = "implements"

/-- A clause adds a relation of inheritance, also where the kind of the target changes its name. -/
theorem Inherits.isHeritage {s : Scopes} {h : Heritage} {source : String} {r : Relation} (hr : Inherits s t h source r)
    (hkind : IsHeritage h.kind) : IsHeritage r.kind := by
  obtain ⟨-, ⟨-, rfl⟩ | ⟨target, -, -, rfl⟩⟩ := hr
  · exact hkind
  · show IsHeritage (clauseKind t h source target)
    unfold clauseKind
    simp only
    split
    · exact .inr rfl
    · exact hkind

/-- One clause.  It adds nothing where its type has no symbol, or where it means the declaring type itself; it adds the
    name as written where nothing is meant, and the type that is meant otherwise. -/
theorem gains_relateClause (s : Scopes) (t : SymbolTable) (h : Heritage) :
    Gives (relateClause s t h) (Gains (Inherits s t h) t) := by
  unfold relateClause
  split
  · next hnone => exact ends_ok ((Gains.refl t).congr fun source r => by simp [Inherits, hnone])
  · next owner howner =>
    have hresolve : s.resolveType t h.target h.file (some (Text.beforeLast '.' h.source)) = clauseType s t h := rfl
    rw [hresolve]
    cases hfound : clauseType s t h with
    | error f => exact ends_error trivial
    | ok found =>
      cases found with
      -- the name means no type and is kept as it is written
      | none =>
        refine (t.gains_relate owner h.kind h.target).mono fun t' ht' => ht'.congr fun source r => ?_
        simp [Inherits, howner, hfound, eq_comm]
      | some target =>
        show Gives (if target = owner then .ok t else t.relate owner (clauseKind t h owner target) target) _
        split
        -- a type that would extend itself gains nothing
        · next heq =>
          refine ends_ok ((Gains.refl t).congr fun source r => ⟨False.elim, ?_⟩)
          rintro ⟨hsource, ⟨hnone, -⟩ | ⟨_, hsome, hne, -⟩⟩
          · rw [hfound] at hnone
            nomatch hnone
          · rw [howner] at hsource
            rw [hfound] at hsome
            cases hsource
            cases hsome
            exact hne heq
        · next hne =>
          refine (t.gains_relate owner (clauseKind t h owner target) target).mono fun t' ht' =>
            ht'.congr fun source r => ?_
          simp only [Inherits, howner, hfound, Option.some.injEq, Except.ok.injEq, reduceCtorEq, false_and, false_or]
          constructor
          · rintro ⟨rfl, rfl⟩
            exact ⟨rfl, target, rfl, hne, rfl⟩
          · rintro ⟨rfl, _, rfl, -, rfl⟩
            exact ⟨rfl, rfl⟩

/-- The kind of a clause depends on the kinds of two symbols, not on relations. -/
theorem clauseKind_congr (ht : t'.bare = t.bare) (h : Heritage) (source target : String) :
    clauseKind t' h source target = clauseKind t h source target := by
  unfold clauseKind
  rw [kindOf?_congr ht]

/-- And so does all that a clause adds. -/
theorem inherits_congr (ht : t'.bare = t.bare) (s : Scopes) (h : Heritage) (source : String) (r : Relation) :
    Inherits s t' h source r ↔ Inherits s t h source r := by
  unfold Inherits clauseType
  rw [record?_congr ht, resolveType_congr ht]
  simp only [clauseKind_congr ht]

/-- All clauses.  They are sorted first, which changes nothing about which ones there are. -/
theorem gains_relateHeritage (s : Scopes) (t : SymbolTable) (heritage : List Heritage) :
    Gives (relateHeritage s heritage t) (Gains (fun source r => ∃ h ∈ heritage, Inherits s t h source r) t) := by
  have hsorted : Gives (relateHeritage s heritage t)
      (Gains (fun source r => ∃ h ∈ heritage.mergeSort heritageLe, Inherits s t h source r) t) :=
    gains_foldlM fun h _ t' ht' => (gains_relateClause s t' h).mono fun t'' h' => h'.congr fun source r =>
      inherits_congr ht' s h source r
  exact hsorted.mono fun t' h => h.congr fun source r => by simp only [List.mem_mergeSort]

/-! ## Calls -/

/-- What is added for a call. -/
def Calls (e : CallEdge) (source : String) (r : Relation) : Prop := source = e.caller ∧ r = ⟨"calls", e.callee⟩

/-- The edges between functions were found before, so each one is a relation as it stands. -/
theorem gains_relateCalls (t : SymbolTable) (edges : List CallEdge) :
    Gives (relateCalls edges t) (Gains (fun source r => ∃ e ∈ edges, Calls e source r) t) :=
  gains_foldlM fun e _ t' _ => t'.gains_relate e.caller "calls" e.callee

/-! ## Uses -/

/-- The class that a call constructs. -/
def constructed (s : Scopes) (t : SymbolTable) (f : FunctionRecord) (c : Call) : Except Fault (Option String) :=
  s.resolveType t (Text.afterLast '.' c.name) f.file (f.owner? <|> s.modules.get? f.file)

/-- A function calls a class by its name. -/
def Constructs (s : Scopes) (t : SymbolTable) (f : FunctionRecord) (target : String) : Prop :=
  ∃ c ∈ f.calls, Text.startsUpper (Text.afterLast '.' c.name) = true ∧ constructed s t f c = .ok (some target) ∧
    t.kindOf? target = some "class"

/-- What is added for a function that constructs classes. -/
def UsesClass (s : Scopes) (t : SymbolTable) (f : NamedFunction) (source : String) (r : Relation) : Prop :=
  source = f.id ∧ ∃ target, Constructs s t f.record target ∧ r = ⟨"uses", target⟩

/-- One call.  It adds nothing unless its name starts like that of a class and means one. -/
theorem gains_relateConstruction (s : Scopes) (f : NamedFunction) (t : SymbolTable) (c : Call) :
    Gives (relateConstruction s f t c) (Gains (fun source r => source = f.id ∧ ∃ target,
      (Text.startsUpper (Text.afterLast '.' c.name) = true ∧ constructed s t f.record c = .ok (some target) ∧
        t.kindOf? target = some "class") ∧ r = ⟨"uses", target⟩) t) := by
  unfold relateConstruction
  simp only
  split
  · next hlower =>
    rw [Bool.not_eq_true'] at hlower
    exact ends_pure ((Gains.refl t).congr fun source r => by simp [hlower])
  · next hupper =>
    rw [Bool.not_eq_true', Bool.not_eq_false] at hupper
    have hresolve : s.resolveType t (Text.afterLast '.' c.name) f.record.file
        (f.record.owner? <|> s.modules.get? f.record.file) = constructed s t f.record c := rfl
    rw [hresolve]
    cases hfound : constructed s t f.record c with
    | error e => exact ends_error trivial
    | ok found =>
      cases found with
      | none => exact ends_pure ((Gains.refl t).congr fun source r => by simp)
      | some target =>
        show Gives (if t.kindOf? target = some "class" then t.relate f.id "uses" target else pure t) _
        split
        · next hclass =>
          refine (t.gains_relate f.id "uses" target).mono fun t' h => h.congr fun source r => ?_
          constructor
          · exact fun ⟨hsource, hr⟩ => ⟨hsource, target, ⟨hupper, rfl, hclass⟩, hr⟩
          · rintro ⟨hsource, _, ⟨-, heq, -⟩, hr⟩
            cases heq
            exact ⟨hsource, hr⟩
        · next hclass =>
          refine ends_pure ((Gains.refl t).congr fun source r => ?_)
          constructor
          · exact False.elim
          · rintro ⟨-, target', ⟨-, heq, hclass'⟩, -⟩
            cases heq
            exact hclass hclass'

/-- All calls of all functions, in two loops, of which the inner one looks at a table that has gained. -/
theorem gains_relateConstructions (s : Scopes) (t : SymbolTable) (functions : List NamedFunction) :
    Gives (relateConstructions s functions t)
      (Gains (fun source r => ∃ f ∈ functions, UsesClass s t f source r) t) := by
  refine gains_foldlM fun f _ t₁ ht₁ => ?_
  have hcalls : Gives (f.record.calls.foldlM (relateConstruction s f) t₁)
      (Gains (fun source r => ∃ c ∈ f.record.calls, source = f.id ∧ ∃ target,
        (Text.startsUpper (Text.afterLast '.' c.name) = true ∧ constructed s t f.record c = .ok (some target) ∧
          t.kindOf? target = some "class") ∧ r = ⟨"uses", target⟩) t₁) := by
    refine gains_foldlM fun c _ t₂ ht₂ => (gains_relateConstruction s f t₂ c).mono fun t₃ h =>
      h.congr fun source r => ?_
    -- what a call constructs does not depend on the relations that were added by then
    unfold constructed
    rw [resolveType_congr (ht₂.trans ht₁), kindOf?_congr (ht₂.trans ht₁)]
  refine hcalls.mono fun t₂ h => h.congr fun source r => ?_
  unfold UsesClass Constructs
  constructor
  · rintro ⟨c, hc, hsource, target, hmeans, hr⟩
    exact ⟨hsource, target, ⟨c, hc, hmeans⟩, hr⟩
  · rintro ⟨hsource, target, ⟨c, hc, hmeans⟩, hr⟩
    exact ⟨c, hc, hsource, target, hmeans, hr⟩

/-- What a function constructs does not depend on relations. -/
theorem usesClass_congr (ht : t'.bare = t.bare) (s : Scopes) (f : NamedFunction) (source : String) (r : Relation) :
    UsesClass s t' f source r ↔ UsesClass s t f source r := by
  unfold UsesClass Constructs constructed
  rw [resolveType_congr ht, kindOf?_congr ht]

/-- What is added for a field: the types in its annotation, except its own. -/
def UsesField (s : Scopes) (t : SymbolTable) (a : AttributeRecord) (source : String) (r : Relation) : Prop :=
  t.record? a.file a.owner = some source ∧ ∃ declaredType, nonEmptyText a.declaredType = some declaredType ∧
    ∃ name ∈ Scopes.identifiers declaredType, ∃ target,
      s.resolveType t name a.file (some a.owner) = .ok (some target) ∧ target ≠ source ∧ r = ⟨"uses", target⟩

/-- One field.  It adds nothing if it has no annotation or its type no symbol; else every name in the annotation is
    looked up, and one that means the declaring type itself is passed over. -/
theorem gains_relateAttribute (s : Scopes) (t : SymbolTable) (a : AttributeRecord) :
    Gives (relateAttribute s t a) (Gains (UsesField s t a) t) := by
  unfold relateAttribute
  split
  · next declaredType owner htype howner =>
    have hnames : Gives ((Scopes.identifiers declaredType).foldlM (fun t name => do
        match ← s.resolveType t name a.file (some a.owner) with
        | some target => if target = owner then return t else t.relate owner "uses" target
        | none => return t) t)
        (Gains (fun source r => ∃ name ∈ Scopes.identifiers declaredType, source = owner ∧ ∃ target,
          s.resolveType t name a.file (some a.owner) = .ok (some target) ∧ target ≠ owner ∧
            r = ⟨"uses", target⟩) t) := by
      refine gains_foldlM fun name _ t' ht' => ?_
      rw [resolveType_congr ht']
      cases hfound : s.resolveType t name a.file (some a.owner) with
      | error e => exact ends_error trivial
      | ok found =>
        cases found with
        | none => exact ends_pure ((Gains.refl t').congr fun source r => by simp)
        | some target =>
          show Gives (if target = owner then pure t' else t'.relate owner "uses" target) _
          split
          · next heq => exact ends_pure ((Gains.refl t').congr fun source r => by simp [heq])
          · next hne =>
            refine (t'.gains_relate owner "uses" target).mono fun t'' h => h.congr fun source r => ?_
            simp [hne]
    refine hnames.mono fun t' h => h.congr fun source r => ?_
    unfold UsesField
    rw [howner, htype]
    constructor
    · rintro ⟨name, hname, rfl, htarget⟩
      exact ⟨rfl, declaredType, rfl, name, hname, htarget⟩
    · rintro ⟨heq, _, hsame, name, hname, htarget⟩
      cases heq
      cases hsame
      exact ⟨name, hname, rfl, htarget⟩
  · next hnone =>
    refine ends_ok ((Gains.refl t).congr fun source r => ⟨False.elim, ?_⟩)
    rintro ⟨howner, declaredType, htype, -⟩
    exact hnone declaredType source htype howner

/-- What a field uses does not depend on relations. -/
theorem usesField_congr (ht : t'.bare = t.bare) (s : Scopes) (a : AttributeRecord) (source : String) (r : Relation) :
    UsesField s t' a source r ↔ UsesField s t a source r := by
  unfold UsesField
  rw [record?_congr ht, resolveType_congr ht]

/-- All fields, which are sorted first as well. -/
theorem gains_relateAttributes (s : Scopes) (t : SymbolTable) (attributes : List AttributeRecord) :
    Gives (relateAttributes s attributes t) (Gains (fun source r => ∃ a ∈ attributes, UsesField s t a source r) t) := by
  have hsorted : Gives (relateAttributes s attributes t)
      (Gains (fun source r => ∃ a ∈ attributes.mergeSort attributeLe, UsesField s t a source r) t) := by
    exact gains_foldlM fun a _ t' ht' => (gains_relateAttribute s t' a).mono fun t'' h => h.congr fun source r =>
      usesField_congr ht' s a source r
  exact hsorted.mono fun t' h => h.congr fun source r => by simp only [List.mem_mergeSort]

end SymbolTable

/-! ## All phases -/

namespace Declarations

open SymbolTable

/-- What names mean in some declarations: the modules and the functions with their symbols, all symbols before any
    relation, and the names that imports bind. -/
structure Setting where
  modules : FileModules
  functions : List NamedFunction
  table : SymbolTable
  scopes : Scopes

variable {d : Declarations} {o : ResolutionOptions} {t : SymbolTable}

/-- The setting in which the names of some declarations are resolved. -/
def setting (d : Declarations) (o : ResolutionOptions) : Except Fault Setting := do
  let files := d.sortedFiles
  let (modules, functions, table) ← d.symbols o
  let t ← table.relateContainment modules functions
  let (scopes, _) ← t.relateImports o.importStyle modules files (Scopes.ofFiles files)
  return { modules, functions, table, scopes }

/-- The relations of the declarations, apart from imports. -/
inductive Adds (d : Declarations) (o : ResolutionOptions) (x : Setting) (source : String) (r : Relation) : Prop
  | containsType {s : Symbol} (hs : s ∈ x.table.symbols.values) (h : ContainsType x.modules x.table s source r)
  | containsFunction {f : NamedFunction} (hf : f ∈ x.functions) (h : ContainsFunction x.modules x.table f source r)
  | inherits {clause : Heritage} (hclause : clause ∈ d.heritage) (h : Inherits x.scopes x.table clause source r)
  | calls {e : CallEdge} (he : e ∈ CallEdge.all x.functions o.maxCallTargets o.noise) (h : Calls e source r)
  | usesClass {f : NamedFunction} (hf : f ∈ x.functions) (h : UsesClass x.scopes x.table f source r)
  | usesField {a : AttributeRecord} (ha : a ∈ d.attributes) (h : UsesField x.scopes x.table a source r)

/-- A table with all relations of the declarations. -/
structure Linked (d : Declarations) (o : ResolutionOptions) (x : Setting) (t : SymbolTable) : Prop where
  setting : d.setting o = .ok x
  /-- nothing but relations was added to the symbols -/
  bare : t.bare = x.table.bare
  /-- each of the declarations adds its relations, each of the files its imports, and nothing else is there -/
  has_iff : ∃ tops, importingTypes o.importStyle x.table (Scopes.ofFiles d.sortedFiles) = .ok tops ∧
    ∀ source r, t.Has source r ↔
      Adds d o x source r ∨ ∃ f ∈ d.files, Imports o.importStyle x.modules tops x.table f source r
  once : t.Once

/-- Whatever a record adds is there in the end. -/
theorem Linked.has {x : Setting} (h : d.Linked o x t) (source : String) (r : Relation) (hadds : Adds d o x source r) :
    t.Has source r := by
  obtain ⟨tops, -, hiff⟩ := h.has_iff
  exact (hiff source r).2 (.inl hadds)

/-- And whatever is there was added by some record, or it is an import. -/
theorem Linked.origin {x : Setting} (h : d.Linked o x t) (source : String) (r : Relation) (hhas : t.Has source r) :
    Adds d o x source r ∨ IsImport source r := by
  obtain ⟨tops, -, hiff⟩ := h.has_iff
  exact ((hiff source r).1 hhas).imp_right fun ⟨_, _, himports⟩ => himports.isImport

/-- **The relations of the declarations, and where they come from.** -/
theorem linked_related (h : d.related o = .ok t) : ∃ x, d.Linked o x t := by
  obtain ⟨⟨modules, functions, t₀⟩, hsymbols, h⟩ := Fault.bind_eq_ok_iff.1 h
  obtain ⟨t₁, hcontainment, h⟩ := Fault.bind_eq_ok_iff.1 h
  obtain ⟨⟨scopes, t₂⟩, himports, h⟩ := Fault.bind_eq_ok_iff.1 h
  obtain ⟨t₃, hheritage, h⟩ := Fault.bind_eq_ok_iff.1 h
  obtain ⟨t₄, hcalls, h⟩ := Fault.bind_eq_ok_iff.1 h
  obtain ⟨t₅, hconstructions, hattributes⟩ := Fault.bind_eq_ok_iff.1 h
  have g₁ := (gains_relateContainment functions).of_ok hcontainment
  obtain ⟨tops, htops, g₂⟩ := (gains_relateImports _ _ _ t₁).of_ok himports
  have g₃ := (gains_relateHeritage scopes t₂ d.heritage).of_ok hheritage
  have g₄ := (t₃.gains_relateCalls _).of_ok hcalls
  have g₅ := (gains_relateConstructions scopes t₄ functions).of_ok hconstructions
  have g₆ := (gains_relateAttributes scopes t₅ d.attributes).of_ok hattributes
  -- each phase sees a table that differs from the first one by relations only
  have b₂ : t₂.bare = t₀.bare := g₂.bare.trans g₁.bare
  have b₄ : t₄.bare = t₀.bare := g₄.bare.trans (g₃.bare.trans b₂)
  have b₅ : t₅.bare = t₀.bare := g₅.bare.trans b₄
  -- the symbols have no relations at first
  have hbare := ((d.indexed_symbols o).of_ok hsymbols).bare
  have hnone : ∀ source r, ¬ t₀.Has source r := by
    rintro source r ⟨s, hs, hr⟩
    rw [hbare source s hs] at hr
    nomatch hr
  have honce : t₀.Once := fun id s hs => by
    rw [hbare id s hs]
    exact List.nodup_nil
  have hsetting : d.setting o = .ok ⟨modules, functions, t₀, scopes⟩ := by
    unfold setting
    rw [hsymbols]
    show (t₀.relateContainment modules functions >>= _) = _
    rw [hcontainment]
    show (t₁.relateImports _ _ _ _ >>= _) = _
    rw [himports]
    rfl
  have hall : ∀ source r, t.Has source r ↔ Adds d o ⟨modules, functions, t₀, scopes⟩ source r ∨
      ∃ f ∈ d.files, Imports o.importStyle modules tops t₀ f source r := by
    intro source r
    -- read from the last phase to the first: a relation is there if one of them has added it
    rw [g₆.has, g₅.has, g₄.has, g₃.has, g₂.has, g₁.has]
    simp only [hnone, imports_congr g₁.bare, inherits_congr b₂, usesClass_congr b₄, usesField_congr b₅, sortedFiles,
      List.mem_mergeSort, false_or]
    constructor
    · rintro ((((((⟨s, hs, h⟩ | ⟨f, hf, h⟩) | h) | ⟨clause, hclause, h⟩) | ⟨e, he, h⟩) | ⟨f, hf, h⟩) | ⟨a, ha, h⟩)
      · exact .inl (.containsType hs h)
      · exact .inl (.containsFunction hf h)
      · exact .inr h
      · exact .inl (.inherits hclause h)
      · exact .inl (.calls he h)
      · exact .inl (.usesClass hf h)
      · exact .inl (.usesField ha h)
    · rintro ((⟨hs, h⟩ | ⟨hf, h⟩ | ⟨hclause, h⟩ | ⟨he, h⟩ | ⟨hf, h⟩ | ⟨ha, h⟩) | h)
      · exact .inl (.inl (.inl (.inl (.inl (.inl ⟨_, hs, h⟩)))))
      · exact .inl (.inl (.inl (.inl (.inl (.inr ⟨_, hf, h⟩)))))
      · exact .inl (.inl (.inl (.inr ⟨_, hclause, h⟩)))
      · exact .inl (.inl (.inr ⟨_, he, h⟩))
      · exact .inl (.inr ⟨_, hf, h⟩)
      · exact .inr ⟨_, ha, h⟩
      · exact .inl (.inl (.inl (.inl (.inr h))))
  refine ⟨⟨modules, functions, t₀, scopes⟩, ?_⟩
  exact
    { setting := hsetting
      bare := g₆.bare.trans b₅
      has_iff := ⟨tops, (importingTypes_congr g₁.bare _ _).symm.trans htops, hall⟩
      once := g₆.once (g₅.once (g₄.once (g₃.once (g₂.once (g₁.once honce))))) }

/-- The setting starts with the symbols of the declarations. -/
theorem symbols_of_setting {x : Setting} (h : d.setting o = .ok x) :
    d.symbols o = .ok (x.modules, x.functions, x.table) := by
  obtain ⟨⟨modules, functions, t₀⟩, hsymbols, h⟩ := Fault.bind_eq_ok_iff.1 h
  obtain ⟨t₁, -, h⟩ := Fault.bind_eq_ok_iff.1 h
  obtain ⟨⟨scopes, t₂⟩, -, h⟩ := Fault.bind_eq_ok_iff.1 h
  cases h
  exact hsymbols

/-- So the table of the setting is the index of the declarations. -/
theorem Linked.indexed {x : Setting} (h : d.Linked o x t) : d.Indexed o x.modules x.functions x.table :=
  (d.indexed_symbols o).of_ok (symbols_of_setting h.setting)

/-- The relations that were added leave a table sound. -/
theorem Linked.sound {x : Setting} (h : d.Linked o x t) : t.Sound := h.indexed.sound.congr h.bare

/-- A relation is one of containment, or it comes from a clause, or it has another name. -/
theorem Linked.cases {x : Setting} (h : d.Linked o x t) {source : String} {r : Relation} (hhas : t.Has source r) :
    (r.kind = "defines" ∧ ((∃ s ∈ x.table.symbols.values, ContainsType x.modules x.table s source r) ∨
        ∃ g ∈ x.functions, ContainsFunction x.modules x.table g source r)) ∨
      (∃ c ∈ d.heritage, Inherits x.scopes x.table c source r) ∨ r.kind ∈ ["imports", "calls", "uses"] := by
  rcases h.origin _ _ hhas with hadds | ⟨himports, -⟩
  · cases hadds with
    | containsType hs hcontains => exact .inl ⟨by rw [hcontains.2.2], .inl ⟨_, hs, hcontains⟩⟩
    | containsFunction hg hcontains => exact .inl ⟨by rw [hcontains.2], .inr ⟨_, hg, hcontains⟩⟩
    | inherits hclause hinherits => exact .inr (.inl ⟨_, hclause, hinherits⟩)
    | calls _ hcalls => exact .inr (.inr (by simp [hcalls.2]))
    | usesClass _ huses =>
      obtain ⟨-, target, -, rfl⟩ := huses
      exact .inr (.inr (by simp))
    | usesField _ huses =>
      obtain ⟨-, declaredType, -, name, -, target, -, -, rfl⟩ := huses
      exact .inr (.inr (by simp))
  · exact .inr (.inr (by simp [himports]))

/-- The symbols of a result have all relations of the declarations. -/
theorem linked_resolve {deps : Dependencies} (h : d.resolve o = .ok deps) :
    ∃ x t, d.related o = .ok t ∧ d.Linked o x t ∧ deps.symbols = t.symbols.values := by
  obtain ⟨t, ht, h⟩ := Fault.bind_eq_ok_iff.1 h
  obtain ⟨diagnostics, -, h⟩ := Fault.bind_eq_ok_iff.1 h
  cases h
  obtain ⟨x, hx⟩ := linked_related ht
  exact ⟨x, t, ht, hx, rfl⟩

end Declarations

end CodeAtlas
