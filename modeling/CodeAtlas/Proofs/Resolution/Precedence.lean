import CodeAtlas.Proofs.Resolution.Order
import CodeAtlas.Proofs.Resolution.Phases
import CodeAtlas.Proofs.Resolution.Totality
/-!
  Which of the declarations of one qualified name has the plain identifier.

  It should be the one in the smallest file.  Modules, types and functions are added one kind after the other, and
  only within its kind everything is in the order of files.  So a function of a package can come too late: the module
  of the same name, in a larger file, was there before it.

    1. `Placed` says that a symbol has the identifier of the place of its declaration (`placed_resolve`).
    2. `Overtaken` says that a name is taken by an earlier kind, in larger files only.
    3. `inFileOrder_resolve_iff` says that identifiers are in the order of files exactly if no name is overtaken.
-/
namespace CodeAtlas

open Fault SymbolTable

/-- The qualified name that a symbol tells. -/
def Symbol.Named (s : Symbol) (name : String) : Prop := s.metadata.get? "qualified_name" = some (.str name)

/-- Symbols that differ in their relations only. -/
theorem Symbol.eq_of_bare_eq {s s' : Symbol} (h : s'.bare = s.bare) : s'.file = s.file ∧ s'.metadata = s.metadata := by
  have hfile := congrArg Symbol.file h
  have hmetadata := congrArg Symbol.metadata h
  exact ⟨hfile, hmetadata⟩

/-- Among the symbols of a name, the one of the smallest file has the plain identifier, and one of a larger file has
    its own with the file. -/
structure Dependencies.InFileOrder (deps : Dependencies) : Prop where
  first : ∀ name, ∀ s ∈ deps.symbols, s.Named name →
    (∀ s' ∈ deps.symbols, s'.Named name → s.file ≤ s'.file) → s.id = name
  later : ∀ name, ∀ s ∈ deps.symbols, ∀ s' ∈ deps.symbols, s.Named name → s'.Named name → s.file < s'.file →
    s'.id = name ++ "@" ++ s'.file

namespace SymbolTable

/-- What is said about a function does not touch its qualified name, unless its own data do. -/
theorem get?_functionMetadata {f : FunctionRecord} (h : f.metadata.get? "qualified_name" = none) (isTest : Bool) :
    (functionMetadata f isTest).get? "qualified_name" = none := by
  unfold functionMetadata
  rw [Metadata.get?_update_of_eq_none h]
  cases nonEmptyText f.doc <;> cases nonEmptyText f.returnType <;> cases f.endLine <;>
    simp [Metadata.get?_setIf, Metadata.get?_set] <;> rfl

end SymbolTable

namespace Declarations

variable {d : Declarations} {o : ResolutionOptions} {deps : Dependencies} {byPackage : Bool}

/-! ## Places -/

/-- What the declarations are known by, in the order in which they are added. -/
def keys (d : Declarations) (byPackage : Bool) : List (String × String) :=
  d.sortedFiles.map (moduleKey byPackage) ++ d.sortedTypes.map (fun r => (r.file, r.qualified)) ++
    d.sortedFunctions.map fun f => (f.file, f.qualified)

/-- No data of a type or a function say something else about its qualified name. -/
def TellsNames (d : Declarations) : Prop :=
  d.KeepsNames ∧ ∀ f ∈ d.functions, f.metadata.get? "qualified_name" = none

instance (d : Declarations) : Decidable d.TellsNames :=
  inferInstanceAs (Decidable (d.KeepsNames ∧ ∀ f ∈ d.functions, f.metadata.get? "qualified_name" = none))

/-- Each symbol belongs to a declaration, and has the identifier of its place; and each declaration has one. -/
structure Placed (keys : List (String × String)) (deps : Dependencies) : Prop where
  sound : ∀ name, ∀ s ∈ deps.symbols, s.Named name →
    (s.file, name) ∈ keys ∧ s.id = identifierIn keys (s.file, name)
  complete : ∀ key ∈ keys, ∃ s ∈ deps.symbols, s.file = key.1 ∧ s.Named key.2

/-- The entries have the keys of the declarations, in the order in which they are added. -/
theorem EntriesOf.keys_eq {es all : List Entry} (h : d.EntriesOf byPackage es all) :
    all.map Entry.key = d.keys byPackage := by
  rw [h.all, List.map_append, List.map_append, h.order, List.map_map, List.map_map]
  rfl

/-- No entry brings a qualified name among its metadata. -/
theorem EntriesOf.names {es all : List Entry} (h : d.EntriesOf byPackage es all) (hnames : d.TellsNames) :
    ∀ e ∈ all, e.metadata.get? "qualified_name" = none := by
  intro e he
  rw [h.all, List.mem_append, List.mem_append] at he
  rcases he with (he | he) | he
  · exact h.named e he
  · obtain ⟨r, hr, rfl⟩ := List.mem_map.1 he
    exact get?_typeMetadata (hnames.1 r (mem_sortedTypes.1 hr)) _
  · obtain ⟨f, hf, rfl⟩ := List.mem_map.1 he
    exact get?_functionMetadata (hnames.2 f (List.mem_mergeSort.1 hf)) _

/-- The symbols in the end stand for the declarations as they stood before the relations. -/
theorem placed_resolve (hnames : d.TellsNames) (hdist : Distinguishable (d.keys o.byPackage))
    (h : d.resolve o = .ok deps) : Placed (d.keys o.byPackage) deps := by
  obtain ⟨x, t, -, hx, hsymbols⟩ := linked_resolve h
  obtain ⟨es, all, hfilled⟩ := (filled_symbols d o).of_ok (symbols_of_setting hx.setting)
  have hreg : Registered all x.table := hfilled.registered
  have hkeys := hfilled.entries.keys_eq
  have hassigned := hreg.assigned (hkeys ▸ hdist)
  rw [hkeys] at hassigned
  -- a symbol, before its relations were added, shows an entry that was given its identifier
  have hshown : ∀ id s, x.table.symbols.get? id = some s → ∃ e : Entry, e.key ∈ d.keys o.byPackage ∧
      id = identifierIn (d.keys o.byPackage) e.key ∧ s.file = e.file ∧ s.Named e.qualified := by
    intro id s hs
    obtain ⟨e, hleads, hrecord, hshows⟩ := hreg.symbols id s hs
    have hkey : e.key ∈ d.keys o.byPackage := hkeys ▸ List.mem_map_of_mem hleads.mem
    have hid : x.table.record? e.file e.qualified = some (identifierIn (d.keys o.byPackage) e.key) := hassigned _ hkey
    rw [hrecord] at hid
    exact ⟨e, hkey, Option.some.inj hid, hshows.file,
      hshows.qualified (hfilled.entries.names hnames e hleads.mem)⟩
  constructor
  · intro name s hs hname
    rw [hsymbols] at hs
    obtain ⟨s', hs', hbare⟩ := exists_get?_congr hx.bare.symm ((hx.sound.mem_values_iff s).1 hs)
    obtain ⟨hfile, hmetadata⟩ := Symbol.eq_of_bare_eq hbare
    obtain ⟨e, hkey, hid, hfile', hname'⟩ := hshown s.id s' hs'
    rw [Symbol.Named, hmetadata, hname] at hname'
    obtain rfl : name = e.qualified := by simpa using hname'
    have hsame : e.key = (s.file, e.qualified) := by rw [Entry.key, ← hfile', hfile]
    exact ⟨hsame ▸ hkey, hsame ▸ hid⟩
  · intro key hkey
    obtain ⟨e, s, hleads, rfl, hs, hshows⟩ := hreg.exists_shows (hkeys ▸ hdist) (hkeys ▸ hkey)
    obtain ⟨s', hs', hbare⟩ := exists_get?_congr hx.bare hs
    obtain ⟨hfile', hmetadata⟩ := Symbol.eq_of_bare_eq hbare
    refine ⟨s', ?_, hfile'.trans hshows.file, ?_⟩
    · rw [hsymbols, hx.sound.mem_values_iff, hx.sound.keyed _ s' hs']
      exact hs'
    · rw [Symbol.Named, hmetadata]
      exact hshows.qualified (hfilled.entries.names hnames e hleads.mem)

/-- The order of files is kept exactly if each name is declared first in its smallest file. -/
theorem Placed.inFileOrder_iff {keys : List (String × String)} (h : Placed keys deps) :
    deps.InFileOrder ↔ ∀ name, Leading keys name := by
  constructor
  · rintro ⟨-, hlater⟩ name first hfirst file hkey
    have hmem := List.mem_of_find?_eq_some hfirst
    have hname : first.2 = name := by simpa using List.find?_some hfirst
    obtain ⟨s, hs, hfile, hnamed⟩ := h.complete first hmem
    obtain ⟨s', hs', hfile', hnamed'⟩ := h.complete (file, name) hkey
    rw [hname] at hnamed
    refine not_lt.1 fun hlt => ?_
    -- the first one has the plain identifier and would have the other form as well
    have hat : s.id = name ++ "@" ++ s.file := hlater name s' hs' s hs hnamed' hnamed (by rw [hfile, hfile']; exact hlt)
    have hplain : s.id = name := by
      have hsame : (s.file, name) = first := Prod.ext hfile hname.symm
      rw [(h.sound name s hs hnamed).2, hsame, ← hname]
      exact identifierIn_eq_name_iff.2 (hname ▸ hfirst)
    exact ne_append_at name s.file (hplain.symm.trans hat)
  · intro hleading
    constructor
    · intro name s hs hnamed hleast
      obtain ⟨hkey, hid⟩ := h.sound name s hs hnamed
      rw [hid]
      refine identifierIn_eq_name_iff.2 ?_
      obtain ⟨first, hfirst, hmem, hname⟩ := exists_find?_eq_some hkey
      replace hname : first.2 = name := hname
      obtain ⟨s', hs', hfile', hnamed'⟩ := h.complete first hmem
      have hle : first.1 ≤ s.file := hleading name first hfirst s.file hkey
      have hge : s.file ≤ first.1 := hfile' ▸ hleast s' hs' (hname ▸ hnamed')
      have hsame : first = (s.file, name) := Prod.ext (le_antisymm hle hge) hname
      exact hsame ▸ hfirst
    · intro name s hs s' hs' hnamed hnamed' hlt
      obtain ⟨hkey, -⟩ := h.sound name s hs hnamed
      obtain ⟨hkey', hid'⟩ := h.sound name s' hs' hnamed'
      rw [hid', identifierIn, if_neg]
      intro hfirst
      exact absurd hlt (not_lt.2 (hleading name (s'.file, name) hfirst s.file hkey))

/-! ## Kinds -/

theorem sorted_keys_files (d : Declarations) (byPackage : Bool) :
    (d.sortedFiles.map (moduleKey byPackage)).Pairwise fun k k' => k.1 ≤ k'.1 := by
  rw [List.pairwise_map]
  refine (sorted_mergeSort_of_rank (fun a b => Text.le_iff a.path b.path) d.files).imp fun {a b} hle => ?_
  cases byPackage with
  | true => exact le_refl ""
  | false => exact hle

/-- Types and functions are sorted by their files, and then by their lines. -/
theorem sorted_keys_places {α : Type} (file : α → String) (line : α → Int) (name : α → String) (xs : List α) :
    ((xs.mergeSort fun a b => placeLe (file a) (line a) (file b) (line b)).map fun a => (file a, name a)).Pairwise
      fun k k' => k.1 ≤ k'.1 := by
  have hle : ∀ a b : α, placeLe (file a) (line a) (file b) (line b) = true ↔
      (toLex (file a, line a) : String ×ₗ Int) ≤ toLex (file b, line b) := fun a b => placeLe_iff _ _ _ _
  rw [List.pairwise_map]
  refine (sorted_mergeSort_of_rank hle xs).imp fun {a b} hab => ?_
  rcases Prod.Lex.toLex_le_toLex.1 hab with hlt | ⟨heq, -⟩
  · exact le_of_lt hlt
  · exact le_of_eq heq

/-- A declaration of the name, in a smaller file than those of an earlier kind. -/
inductive Overtaken (d : Declarations) (byPackage : Bool) (name : String) : Prop
  | type {r : TypeRecord} (hr : r ∈ d.types) (hname : r.qualified = name)
      (htaken : ∃ file, d.IsModuleKey byPackage (file, name))
      (hlater : ∀ file, d.IsModuleKey byPackage (file, name) → r.file < file)
  | function {f : FunctionRecord} (hf : f ∈ d.functions) (hname : f.qualified = name)
      (htaken : ∃ file, d.IsModuleKey byPackage (file, name) ∨ d.IsTypeKey (file, name))
      (hlater : ∀ file, d.IsModuleKey byPackage (file, name) ∨ d.IsTypeKey (file, name) → f.file < file)

/-- Each of the three lists is in the order of files, so a name leads unless one of a later list has it in a smaller
    file. -/
theorem leading_keys_iff (name : String) : Leading (d.keys byPackage) name ↔ ¬ d.Overtaken byPackage name := by
  have htypes : (d.sortedTypes.map fun r => (r.file, r.qualified)).Pairwise fun k k' => k.1 ≤ k'.1 :=
    sorted_keys_places TypeRecord.file TypeRecord.line TypeRecord.qualified _
  have hfunctions : (d.sortedFunctions.map fun f => (f.file, f.qualified)).Pairwise fun k k' => k.1 ≤ k'.1 :=
    sorted_keys_places FunctionRecord.file FunctionRecord.line FunctionRecord.qualified _
  unfold keys
  rw [leading_append_iff hfunctions, leading_append_iff htypes]
  simp only [Late, List.mem_append, mem_moduleKeys, mem_typeKeys, mem_functionKeys]
  have hfiles := leading_of_sorted (d.sorted_keys_files byPackage) name
  constructor
  · rintro ⟨⟨-, htype⟩, hfunction⟩ hover
    cases hover with
    | type hr hname htaken hlater => exact htype _ ⟨_, hr, by rw [hname]⟩ ⟨htaken, hlater⟩
    | function hf hname htaken hlater => exact hfunction _ ⟨_, hf, by rw [hname]⟩ ⟨htaken, hlater⟩
  · intro hnone
    refine ⟨⟨hfiles, ?_⟩, ?_⟩
    · rintro file ⟨r, hr, hkey⟩ ⟨htaken, hlater⟩
      cases hkey
      exact hnone (.type hr rfl htaken hlater)
    · rintro file ⟨f, hf, hkey⟩ ⟨htaken, hlater⟩
      cases hkey
      exact hnone (.function hf rfl htaken hlater)

/-- **Identifiers are in the order of files exactly if no name is overtaken.** A name is overtaken by an earlier kind
    of declaration in larger files only: modules come before types, and types before functions. -/
theorem inFileOrder_resolve_iff (hnames : d.TellsNames) (hdist : Distinguishable (d.keys o.byPackage))
    (h : d.resolve o = .ok deps) : deps.InFileOrder ↔ ∀ name, ¬ d.Overtaken o.byPackage name := by
  rw [(placed_resolve hnames hdist h).inFileOrder_iff]
  exact forall_congr' leading_keys_iff

/-- A package with a function, and a module with the qualified name of the function. -/
def submodule : Declarations :=
  { empty with
    files := [
      { path := "pkg/__init__.py", name := "__init__.py", lines := 1, modulePath := "pkg", language := "python"
        imports := [], exports := [], isTest := false },
      { path := "pkg/sub.py", name := "sub.py", lines := 1, modulePath := "pkg.sub", language := "python"
        imports := [], exports := [], isTest := false }]
    functions := [
      { name := "sub", qualified := "pkg.sub", visibility := "public", isAsync := false, isMethod := false
        signature := "sub()", file := "pkg/__init__.py", line := 1, doc := none, returnType := none, owner := none
        decorators := [], calls := [], endLine := some 1, metadata := .empty }] }

/-- The module comes before the function, though its path is larger. -/
theorem keys_submodule : submodule.keys false =
    [("pkg/__init__.py", "pkg"), ("pkg/sub.py", "pkg.sub"), ("pkg/__init__.py", "pkg.sub")] := by
  have hfiles : submodule.sortedFiles = submodule.files := List.mergeSort_of_pairwise (by decide)
  unfold keys
  rw [hfiles]
  decide +kernel

theorem resolve_submodule : submodule.TellsNames ∧ Distinguishable (submodule.keys false) ∧
    ∃ deps, submodule.resolve (plainOptions "python") = .ok deps := by
  have hnames : submodule.TellsNames := by decide +kernel
  refine ⟨hnames, ?_, ?_⟩
  · rw [keys_submodule]
    decide +kernel
  · obtain ⟨deps, hdeps, -⟩ := (resolve_succeeds (o := plainOptions "python") hnames.1 (by decide +kernel)
      (by decide +kernel) (by decide)).exists_ok
    exact ⟨deps, hdeps⟩

/-- The module has the plain identifier, although the function is in the smaller file. -/
theorem not_inFileOrder_submodule : (submodule.files.map (·.path)).Nodup ∧
    ∃ deps, submodule.resolve (plainOptions "python") = .ok deps ∧ ¬ deps.InFileOrder := by
  obtain ⟨hnames, hdist, deps, hdeps⟩ := resolve_submodule
  refine ⟨by decide, deps, hdeps, fun horder => ?_⟩
  have hplaced : Placed (submodule.keys false) deps := placed_resolve (o := plainOptions "python") hnames hdist hdeps
  rw [hplaced.inFileOrder_iff, keys_submodule] at horder
  have hle := horder "pkg.sub" ("pkg/sub.py", "pkg.sub") (by decide) "pkg/__init__.py" (by decide)
  exact absurd hle (by decide)

/-- And the function does not keep the plain name, although it is in the first file. -/
theorem overtaken_submodule : submodule.TellsNames ∧ Distinguishable (submodule.keys false) ∧
    ∃ deps, submodule.resolve (plainOptions "python") = .ok deps ∧
      submodule.Overtaken false "pkg.sub" ∧ ¬ deps.InFileOrder := by
  obtain ⟨hnames, hdist, deps, hdeps⟩ := resolve_submodule
  have hkeys : ∀ file, submodule.IsModuleKey false (file, "pkg.sub") ∨ submodule.IsTypeKey (file, "pkg.sub") →
      file = "pkg/sub.py" := by
    rintro file (⟨f, hf, hkey⟩ | ⟨r, hr, -⟩)
    · simp only [submodule, List.mem_cons, List.not_mem_nil, or_false] at hf
      rcases hf with rfl | rfl <;> simp [moduleKey] at hkey
      exact hkey.symm
    · nomatch hr
  have hover : submodule.Overtaken false "pkg.sub" := by
    refine .function List.mem_cons_self rfl ⟨"pkg/sub.py", .inl ⟨_, List.mem_cons_of_mem _ List.mem_cons_self, rfl⟩⟩ ?_
    intro file hfile
    rw [hkeys file hfile]
    decide
  have hiff := inFileOrder_resolve_iff (o := plainOptions "python") hnames hdist hdeps
  exact ⟨hnames, hdist, deps, hdeps, hover, fun horder => hiff.1 horder "pkg.sub" hover⟩

end Declarations

end CodeAtlas
