import CodeAtlas.Proofs.Extraction.Closure
/-!
  Which symbols are modules, and which ones are types.

  Files at different places, type names as languages have them, and qualified names without at signs: in such
  declarations a qualified name says where in its file something stands.  It is longer than the name of the module, so
  nothing in a file is taken for the module, and the symbol of a type is the symbol of a type and of nothing else.

    1. Scopes of names: whatever a file declares `StandsIn` its module or in a type of the file, and the name tells
       which (`Splits.unique`).
    2. Lengths: the scope is a part of the name.  By induction on the length, names of types and functions are longer
       than the name of their module (`modulePath_lt_type`, `modulePath_lt_function`), so their keys are never those of
       a module.
    3. Symbols: without at signs, different keys have different identifiers (`Situated.distinct`).  So the record that
       a symbol comes from is known by its identifier, and with it the kind of the symbol (`type_symbol`,
       `module_symbol`, `function_symbol`).  Where a function has the key of a type, the type has the symbol.
-/
namespace CodeAtlas

open Fault

namespace Declarations

open SymbolTable

variable {d : Declarations} {o : ResolutionOptions} {x : Setting}

/-! ## Scopes of names -/

/-- A qualified name is put together from a scope and a name.  In the scope of a module without a name it may be the
    name alone. -/
def Splits (module name qualified scope : String) : Prop :=
  qualified = scope ++ "." ++ name ∨ module = "" ∧ scope = "" ∧ qualified = name

/-- A name and a qualified name leave only one scope: the qualified name is longer than the name, unless the scope is
    empty. -/
theorem Splits.unique {module name qualified scope scope' : String} (h : Splits module name qualified scope)
    (h' : Splits module name qualified scope') : scope = scope' := by
  have hne (scope : String) : name ≠ scope ++ "." ++ name := by
    intro heq
    have hlength := congrArg String.length heq
    rw [length_dotted] at hlength
    omega
  rcases h with h | ⟨-, rfl, h⟩ <;> rcases h' with h' | ⟨-, rfl, h'⟩
  · rw [h, String.append_assoc, String.append_assoc] at h'
    exact (String.append_left_inj _).1 h'
  · exact absurd (h'.symm.trans h) (hne scope)
  · exact absurd (h.symm.trans h') (hne scope')
  · rfl

/-- What a declaration of a file stands in: the module, or a type of the file. -/
structure StandsIn (d : Declarations) (f : SourceFile) (name qualified scope : String) : Prop where
  file : f ∈ d.files
  splits : Splits f.modulePath name qualified scope
  scope : scope = f.modulePath ∨ d.HasType f.path scope

/-- In every language a name at the top of a file stands in the module. -/
theorem splits_topName (language : Language) (module name : String) :
    Splits module name (language.topName module name) module := by
  cases language with
  | java =>
    show Splits module name (Java.qualify module name) module
    unfold Java.qualify
    split
    · next h => exact .inr ⟨h, h, rfl⟩
    · exact .inl rfl
  | _ => exact .inl rfl

/-- Every type stands in its module or in another type of its file. -/
theorem Coherent.standsIn_type (h : d.Coherent) {r : TypeRecord} (hr : r ∈ d.types) :
    ∃ f scope, f.path = r.file ∧ d.StandsIn f r.name r.qualified scope := by
  obtain ⟨language, f, hf, hplaced⟩ := h.types r hr
  rcases hplaced.qualified with htop | ⟨outer, houter, heq⟩
  · exact ⟨f, f.modulePath, hplaced.file.symm, hf, htop ▸ splits_topName language f.modulePath r.name, .inl rfl⟩
  · exact ⟨f, outer, hplaced.file.symm, hf, .inl heq, .inr houter⟩

/-- Every function stands in its owner, or else in its module. -/
theorem Coherent.standsIn_function (h : d.Coherent) {g : FunctionRecord} (hg : g ∈ d.functions) :
    ∃ f, f.path = g.file ∧ g.qualified = g.owner.getD f.modulePath ++ "." ++ g.name ∧
      d.StandsIn f g.name g.qualified (g.owner.getD f.modulePath) := by
  obtain ⟨f, hf, hplaced⟩ := h.functions g hg
  refine ⟨f, hplaced.file.symm, hplaced.qualified, hf, .inl hplaced.qualified, ?_⟩
  cases howner : g.owner with
  | none => exact .inl rfl
  | some outer => exact .inr (hplaced.owner outer howner)

/-! ## Orderly declarations -/

/-- Files at different places, type names as languages have them, and no at signs. -/
structure Orderly (d : Declarations) : Prop where
  paths : (d.files.map (·.path)).Nodup
  named : ∀ r ∈ d.types, r.name ≠ "" ∧ '.' ∉ r.name.toList
  plainFiles : ∀ f ∈ d.files, '@' ∉ f.modulePath.toList
  plainTypes : ∀ r ∈ d.types, '@' ∉ r.qualified.toList
  plainFunctions : ∀ g ∈ d.functions, '@' ∉ g.qualified.toList

instance (d : Declarations) : Decidable d.Orderly :=
  decidable_of_iff ((d.files.map (·.path)).Nodup ∧ (∀ r ∈ d.types, r.name ≠ "" ∧ '.' ∉ r.name.toList) ∧
      (∀ f ∈ d.files, '@' ∉ f.modulePath.toList) ∧ (∀ r ∈ d.types, '@' ∉ r.qualified.toList) ∧
      ∀ g ∈ d.functions, '@' ∉ g.qualified.toList)
    ⟨fun ⟨h₁, h₂, h₃, h₄, h₅⟩ => ⟨h₁, h₂, h₃, h₄, h₅⟩, fun ⟨h₁, h₂, h₃, h₄, h₅⟩ => ⟨h₁, h₂, h₃, h₄, h₅⟩⟩

theorem Orderly.eq_of_path (h : d.Orderly) {f f' : SourceFile} (hf : f ∈ d.files) (hf' : f' ∈ d.files)
    (heq : f.path = f'.path) : f = f' :=
  List.inj_on_of_nodup_map h.paths hf hf' heq

/-- The qualified name of a type is longer than that of its module. -/
theorem Coherent.modulePath_lt_type (h : d.Coherent) (ho : d.Orderly) {r : TypeRecord} (hr : r ∈ d.types)
    {f : SourceFile} (hf : f ∈ d.files) (hpath : f.path = r.file) : f.modulePath.length < r.qualified.length := by
  -- the induction is on the length of the name, which the type around has less of
  induction hn : r.qualified.length using Nat.strongRecOn generalizing r with
  | ind n ih =>
    subst hn
    obtain ⟨f', scope, hpath', hstands⟩ := h.standsIn_type hr
    cases ho.eq_of_path hf hstands.file (hpath.trans hpath'.symm)
    rcases hstands.splits with heq | ⟨hmodule, -, heq⟩
    · have hlength := congrArg String.length heq
      rw [length_dotted] at hlength
      rcases hstands.scope with rfl | ⟨outer, houter, hfile, rfl⟩
      · omega
      · have hshorter := ih outer.qualified.length (by omega) houter hfile.symm rfl
        omega
    · rw [hmodule, heq]
      exact Nat.pos_of_ne_zero fun hzero => (ho.named r hr).1 (String.length_eq_zero_iff.1 hzero)

/-- And so is that of anything that stands in it. -/
theorem Coherent.modulePath_lt_function (h : d.Coherent) (ho : d.Orderly) {g : FunctionRecord} (hg : g ∈ d.functions)
    {f : SourceFile} (hf : f ∈ d.files) (hpath : f.path = g.file) : f.modulePath.length < g.qualified.length := by
  obtain ⟨f', hpath', heq, hstands⟩ := h.standsIn_function hg
  cases ho.eq_of_path hf hstands.file (hpath.trans hpath'.symm)
  have hlength := congrArg String.length heq
  rw [length_dotted] at hlength
  rcases hstands.scope with hscope | ⟨outer, houter, hfile, hscope⟩
  · rw [hscope] at hlength
    omega
  · have hshorter := h.modulePath_lt_type ho houter hf hfile.symm
    rw [← hscope] at hlength
    omega

/-- The file of a module key is the place of its module. -/
theorem Coherent.not_isModuleKey (h : d.Coherent) (ho : d.Orderly) {byPackage : Bool} {f : SourceFile}
    (hf : f ∈ d.files) {qualified : String} (hlt : f.modulePath.length < qualified.length) :
    ¬ d.IsModuleKey byPackage (f.path, qualified) := by
  rintro ⟨f', hf', heq⟩
  cases byPackage with
  | true => exact h.files f hf (congrArg Prod.fst heq).symm
  | false =>
    cases ho.eq_of_path hf' hf (congrArg Prod.fst heq)
    rw [← show f.modulePath = qualified from congrArg Prod.snd heq] at hlt
    omega

/-- So no type is recorded under the key of a module. -/
theorem Coherent.not_isModuleKey_type (h : d.Coherent) (ho : d.Orderly) {byPackage : Bool} {r : TypeRecord}
    (hr : r ∈ d.types) : ¬ d.IsModuleKey byPackage (r.file, r.qualified) := by
  obtain ⟨f, scope, hpath, hstands⟩ := h.standsIn_type hr
  rw [← hpath]
  exact h.not_isModuleKey ho hstands.file (h.modulePath_lt_type ho hr hstands.file hpath)

theorem Coherent.not_isModuleKey_function (h : d.Coherent) (ho : d.Orderly) {byPackage : Bool} {g : FunctionRecord}
    (hg : g ∈ d.functions) : ¬ d.IsModuleKey byPackage (g.file, g.qualified) := by
  obtain ⟨f, hpath, -, hstands⟩ := h.standsIn_function hg
  rw [← hpath]
  exact h.not_isModuleKey ho hstands.file (h.modulePath_lt_function ho hg hstands.file hpath)

/-! ## Symbols -/

/-- Orderly declarations with their symbols. -/
structure Situated (d : Declarations) (o : ResolutionOptions) (x : Setting) : Prop where
  coherent : d.Coherent
  orderly : d.Orderly
  indexed : d.Indexed o x.modules x.functions x.table

/-- Declarations that come from the parser, together with their finished table. -/
theorem Linked.situated {t : SymbolTable} (h : d.Linked o x t) (hparsed : d.Parsed) (horderly : d.Orderly) :
    d.Situated o x :=
  ⟨hparsed.coherent, horderly, h.indexed⟩

/-- No type has an empty qualified name, since it is longer than that of its module. -/
theorem Situated.ne_empty (h : d.Situated o x) {r : TypeRecord} (hr : r ∈ d.types) : r.qualified ≠ "" := by
  obtain ⟨f, scope, hpath, hstands⟩ := h.coherent.standsIn_type hr
  have hlt := h.coherent.modulePath_lt_type h.orderly hr hstands.file hpath
  intro hempty
  rw [hempty] at hlt
  exact absurd hlt (Nat.not_lt_zero _)

/-- Different keys have different identifiers, because no qualified name has an at sign. -/
theorem Situated.distinct (h : d.Situated o x) : x.table.HasDistinctIds := by
  refine h.indexed.distinct (fun f hf => ?_) h.orderly.plainTypes h.orderly.plainFunctions
  have hplain := h.orderly.plainFiles f hf
  unfold moduleKey packageOf
  split
  · split
    · decide
    · exact hplain
  · exact hplain

/-- What is recorded has a symbol of its own. -/
theorem Situated.exists_symbol (h : d.Situated o x) {file qualified id : String}
    (hid : x.table.record? file qualified = some id) : ∃ s, x.table.symbols.get? id = some s ∧ s.id = id := by
  obtain ⟨s, hs, -⟩ := x.table.exists_symbol (h.indexed.sound.records file qualified id hid)
  exact ⟨s, hs, h.indexed.sound.keyed id s hs⟩

/-- The symbol of a type. -/
theorem Situated.type_symbol (h : d.Situated o x) {r : TypeRecord} (hr : r ∈ d.types) {id : String}
    (hid : x.table.record? r.file r.qualified = some id) :
    ∃ s, x.table.symbols.get? id = some s ∧ s.id = id ∧ s.kind ∈ typeKinds ∧ s.file = r.file ∧
      s.metadata.get? "qualified_name" = some (.str r.qualified) := by
  obtain ⟨s, hs, hsid⟩ := h.exists_symbol hid
  refine ⟨s, hs, hsid, ?_⟩
  cases h.indexed.origin id s hs with
  | module hf hrecord hkind =>
    have hkey := h.distinct _ _ _ _ _ hrecord hid
    exact absurd ⟨_, hf, hkey⟩ (h.coherent.not_isModuleKey_type h.orderly hr)
  | @type r' hr' hrecord hkind hfile hname hfirst =>
    have hkey := h.distinct _ _ _ _ _ hrecord hid
    obtain ⟨language, f, hf, hplaced⟩ := h.coherent.types r' hr'
    refine ⟨hkind ▸ hplaced.kind, hfile.trans (congrArg Prod.fst hkey), ?_⟩
    rw [hname (h.coherent.names r' hr'), show r'.qualified = r.qualified from congrArg Prod.snd hkey]
  | function hf hrecord hkind hmodule htype =>
    have hkey := h.distinct _ _ _ _ _ hrecord hid
    exact absurd ⟨r, hr, hkey.symm⟩ htype

/-- The symbol of a type counts as a type. -/
theorem Situated.isType_type (h : d.Situated o x) {r : TypeRecord} (hr : r ∈ d.types) {id : String}
    (hid : x.table.record? r.file r.qualified = some id) : x.table.isType id = true := by
  obtain ⟨s, hs, -, hkind, -⟩ := h.type_symbol hr hid
  exact isType_iff.2 ⟨s, hs, hkind⟩

/-- The kind of the symbols of files. -/
def moduleKind (byPackage : Bool) : String := if byPackage then "package" else "module"

/-- The kind of a file is no kind of types. -/
theorem moduleKind_not_mem_typeKinds (byPackage : Bool) : moduleKind byPackage ∉ typeKinds := by
  cases byPackage <;> decide

theorem functionKind_not_mem_typeKinds (g : FunctionRecord) :
    (if g.owner?.isSome then "method" else "function") ∉ typeKinds := by
  split <;> decide

theorem moduleKind_ne_functionKind (byPackage : Bool) (g : FunctionRecord) :
    moduleKind byPackage ≠ if g.owner?.isSome then "method" else "function" := by
  cases byPackage <;> split <;> decide

/-- The symbol of a file. -/
theorem Situated.module_symbol (h : d.Situated o x) {f : SourceFile} (hf : f ∈ d.files) :
    ∃ id s, x.modules.get? f.path = some id ∧
      x.table.record? (moduleKey o.byPackage f).1 (moduleKey o.byPackage f).2 = some id ∧
      x.table.symbols.get? id = some s ∧ s.id = id ∧ s.kind = moduleKind o.byPackage := by
  obtain ⟨id, hid⟩ := Option.isSome_iff_exists.1 (h.indexed.complete f hf)
  obtain ⟨f', hf', hpath, hrecord⟩ := h.indexed.modules f.path id hid
  cases h.orderly.eq_of_path hf' hf hpath
  obtain ⟨s, hs, hsid⟩ := h.exists_symbol hrecord
  refine ⟨id, s, hid, hrecord, hs, hsid, ?_⟩
  cases h.indexed.origin id s hs with
  | module _ _ hkind => exact hkind
  | type hr hrecord' _ _ _ hfirst =>
    have hkey := h.distinct _ _ _ _ _ hrecord hrecord'
    exact absurd ⟨f, hf, hkey⟩ hfirst
  | function hg hrecord' _ hmodule _ =>
    have hkey := h.distinct _ _ _ _ _ hrecord hrecord'
    exact absurd ⟨f, hf, hkey⟩ hmodule

/-- The symbol of a function that shares its name with no type. -/
theorem Situated.function_symbol (h : d.Situated o x) {g : FunctionRecord} (hg : g ∈ d.functions) {id : String}
    (hid : x.table.record? g.file g.qualified = some id) (hnone : ¬ d.IsTypeKey (g.file, g.qualified)) :
    ∃ s, x.table.symbols.get? id = some s ∧ s.id = id ∧ (s.kind = "method" ∨ s.kind = "function") := by
  obtain ⟨s, hs, hsid⟩ := h.exists_symbol hid
  refine ⟨s, hs, hsid, ?_⟩
  cases h.indexed.origin id s hs with
  | module hf hrecord _ =>
    have hkey := h.distinct _ _ _ _ _ hrecord hid
    exact absurd ⟨_, hf, hkey⟩ (h.coherent.not_isModuleKey_function h.orderly hg)
  | type hr hrecord _ _ _ _ =>
    have hkey := h.distinct _ _ _ _ _ hrecord hid
    exact absurd ⟨_, hr, hkey⟩ hnone
  | function _ _ hkind _ _ =>
    rw [hkind]
    split
    · exact .inl rfl
    · exact .inr rfl

/-- A file and a type have different symbols. -/
theorem Situated.module_ne_type (h : d.Situated o x) {f : SourceFile} (hf : f ∈ d.files) {r : TypeRecord}
    (hr : r ∈ d.types) {id : String} (hmodule : x.modules.get? f.path = some id) :
    x.table.record? r.file r.qualified ≠ some id := by
  intro hid
  obtain ⟨id', s, hmodule', hrecord, -⟩ := h.module_symbol hf
  rw [hmodule] at hmodule'
  cases hmodule'
  have hkey := h.distinct _ _ _ _ _ hrecord hid
  exact h.coherent.not_isModuleKey_type h.orderly hr ⟨f, hf, hkey⟩

/-- A symbol with the kind of a file comes from a file. -/
theorem Situated.exists_module (h : d.Situated o x) {id : String} {s : Symbol} (hs : x.table.symbols.get? id = some s)
    (hkind : s.kind = moduleKind o.byPackage) : ∃ f ∈ d.files,
      x.table.record? (moduleKey o.byPackage f).1 (moduleKey o.byPackage f).2 = some id := by
  cases h.indexed.origin id s hs with
  | module hf hrecord _ => exact ⟨_, hf, hrecord⟩
  | type hr hrecord _ _ _ _ =>
    obtain ⟨s', hs', -, htype, -⟩ := h.type_symbol hr hrecord
    rw [hs] at hs'
    cases hs'
    exact absurd (hkind ▸ htype) (moduleKind_not_mem_typeKinds o.byPackage)
  | @function g _ _ hfunction _ _ => exact absurd (hkind.symm.trans hfunction) (moduleKind_ne_functionKind _ g)

/-- A symbol of a type comes from a type, and says where it stands. -/
theorem Situated.exists_type (h : d.Situated o x) {id : String} {s : Symbol} (hs : x.table.symbols.get? id = some s)
    (hkind : s.kind ∈ typeKinds) : ∃ r ∈ d.types, x.table.record? r.file r.qualified = some id ∧ s.file = r.file ∧
      s.metadata.get? "qualified_name" = some (.str r.qualified) := by
  cases h.indexed.origin id s hs with
  | module _ _ hmodule =>
    have hmodule : s.kind = moduleKind o.byPackage := hmodule
    exact absurd (hmodule ▸ hkind) (moduleKind_not_mem_typeKinds o.byPackage)
  | @type r hr hrecord _ hfile hname _ => exact ⟨r, hr, hrecord, hfile, hname (h.coherent.names r hr)⟩
  | @function g _ _ hfunction _ _ => exact absurd (hfunction ▸ hkind) (functionKind_not_mem_typeKinds g)

end Declarations

end CodeAtlas
