import CodeAtlas.Proofs.Resolution.Kinds
import CodeAtlas.Proofs.Resolution.Precedence
/-!
  Where relative imports lead.

  A relative import goes up from the package of its file, one package for each dot after the first, and then down to
  the module that it names.  So an import should reach every module below any package around its file.  It does:

    1. The package of a file is where the file stands (`Below.package_eq`), and the module that an import starts from
       is put together from the packages above and the steps down (`Reaches.importedModule`).
    2. A module is found by its name if it is the first one of this name in the order of paths, as modules come before
       types and functions (`Filled.lookup?_module`).
    3. The symbol of the module has the identifier that is found (`Filled.record?_of_isModuleOf`).

  A star is no name of a module: such an import leads to the package.
-/
namespace CodeAtlas

open Fault SymbolTable

/-! ## Packages -/

namespace SourceFile

/-- The package of a file: its module if it is the initializer of a package, else the module without its last part. -/
def package (f : SourceFile) : List String :=
  let parts := Text.split '.' f.modulePath
  if f.name = "__init__.py" then parts else parts.dropLast

/-- A Python file somewhere below its source root, with no dots in the names of its directories and in its own; but not
    the initializer of the root itself. -/
structure Below (f : SourceFile) (root : Path) (directories : List String) (stem : String) : Prop where
  plain : ∀ part ∈ directories ++ [stem], '.' ∉ part.toList
  named : ∀ part ∈ directories, part ≠ ""
  inner : stem = "__init__" → directories ≠ []
  name : f.name = stem ++ ".py"
  module : Python.modulePath { root with parts := root.parts ++ (directories ++ [stem ++ ".py"]) } root =
    .ok f.modulePath

variable {f : SourceFile} {root : Path} {directories : List String} {stem : String}

/-- **The package of a file are the directories that it stands in.** -/
theorem Below.package_eq (h : f.Below root directories stem) : f.package = directories := by
  have hmodule := h.module
  unfold Python.modulePath at hmodule
  rw [Path.below?_append] at hmodule
  simp only [List.getLast?_concat, List.dropLast_concat, Python.stemOf, Text.beforeEnd?_append,
    Option.getD_some] at hmodule
  unfold package
  by_cases hinit : stem = "__init__"
  · subst hinit
    have hne := h.inner rfl
    rw [if_pos rfl, if_neg (by simpa using hne), Except.ok.injEq] at hmodule
    have hname : f.name = "__init__.py" := h.name
    simp only [hname, if_true, ← hmodule]
    exact Text.split_join hne fun part hpart => h.plain part (List.mem_append_left _ hpart)
  · have hother : f.name ≠ "__init__.py" := by
      rw [h.name]
      exact fun heq => hinit ((String.append_left_inj ".py").1 heq)
    rw [if_neg hinit, if_neg (by simp), Except.ok.injEq] at hmodule
    have hsplit : Text.split '.' f.modulePath = directories ++ [stem] := by
      rw [← hmodule]
      exact Text.split_join (by simp) h.plain
    simp only [hother, if_false, hsplit, List.dropLast_concat]

end SourceFile

/-- The parser gives such a file. -/
theorem Python.below_extract {source : Source} {root : Path} {file : String} {tree : SyntaxTree} {d : Declarations}
    {directories : List String} {stem : String} (hplain : ∀ part ∈ directories ++ [stem], '.' ∉ part.toList)
    (hnamed : ∀ part ∈ directories, part ≠ "") (hinner : stem = "__init__" → directories ≠ [])
    (h : extract source { root with parts := root.parts ++ (directories ++ [stem ++ ".py"]) } root file tree = .ok d) :
    ∃ f, d.files = [f] ∧ f.path = file ∧ f.Below root directories stem := by
  obtain ⟨module, hmodule, h⟩ := bind_eq_ok_iff.1 h
  obtain ⟨imports, -, h⟩ := bind_eq_ok_iff.1 h
  obtain ⟨exports, -, h⟩ := bind_eq_ok_iff.1 h
  obtain ⟨found, hfound, h⟩ := bind_eq_ok_iff.1 h
  cases h
  have hinners := (ends_mapM Declarations.Inner fun t (_ : t ∈ tree.children) =>
    (decodes_declared ⟨source, file, module⟩ none none t).gives).of_ok hfound
  have hfiles : (Declarations.mergeAll found).files = [] := (Declarations.inner_mergeAll hinners).files
  refine ⟨_, congrArg (_ :: ·) hfiles, rfl, hplain, hnamed, hinner, ?_, hmodule⟩
  show (Path.mk _ _).name = _
  rw [Path.name, ← List.append_assoc, List.getLast?_concat]
  rfl

/-- An import with dots in front that asks for one member.  It goes up from the package of a file to the package
    `above`, and from there by `steps` and `name` down to the module of another file. -/
structure Import.Reaches (i : Import) (f g : SourceFile) (above steps : List String) (name : String) : Prop where
  up : ∃ left, f.package = above ++ left ∧ i.level = left.length + 1
  inside : above ≠ []
  down : i.target = Text.join "." steps
  named : ∀ step ∈ steps, step ≠ ""
  names : i.names = [name]
  module : g.modulePath = Text.join "." (above ++ steps ++ [name])

namespace SymbolTable

variable {f g : SourceFile} {i : Import} {above steps : List String} {name : String}

/-- The module that an import starts from: the package above, with the steps down. -/
theorem importBase_eq {left : List String} (hpackage : f.package = above ++ left) (hlevel : i.level = left.length + 1)
    (hdown : i.target = Text.join "." steps) (hsteps : ∀ step ∈ steps, step ≠ "")
    (habove : ∀ part ∈ above, part ≠ "") : importBase f i = .ok (Text.join "." (above ++ steps)) := by
  have hkept : above.filter (· ≠ "") = above :=
    List.filter_eq_self.2 fun part hpart => decide_eq_true (habove part hpart)
  have htake : (if 1 < i.level then (above ++ left).take ((above ++ left).length - (i.level - 1).toNat)
      else above ++ left) = above := by
    rw [hlevel]
    cases left with
    | nil => simp
    | cons first rest =>
      rw [if_pos (by rw [List.length_cons]; omega)]
      exact List.take_left' (by rw [List.length_append]; omega)
  unfold SourceFile.package at hpackage
  unfold importBase
  rw [if_neg (by omega)]
  simp only [hpackage, htake]
  rw [if_neg (by rw [List.length_append]; omega), hdown]
  cases steps with
  | nil => rw [if_pos (show Text.join "." [] = "" from rfl), hkept, List.append_nil]
  | cons first rest =>
    have hne := Text.join_ne_empty "." (hsteps first List.mem_cons_self) rest
    have hlast : [Text.join "." (first :: rest)].filter (· ≠ "") = [Text.join "." (first :: rest)] :=
      List.filter_eq_self.2 fun part hpart => decide_eq_true (List.mem_singleton.1 hpart ▸ hne)
    rw [if_neg hne, List.filter_append, hkept, hlast, Text.join_append_join "." above (List.cons_ne_nil first rest)]

/-- What an import of a single member leads to, if there is the member. -/
theorem importedIds_of_lookup {t : SymbolTable} {base id : String} (hnames : i.names = [name]) (hname : name ≠ "*")
    (hid : t.lookup? (base ++ "." ++ name) = some id) : t.importedIds base i = [id] := by
  simp [importedIds, hnames, hname, hid]

end SymbolTable

/-- **What an import reaches is found under the name of the module.** -/
theorem Import.Reaches.importedIds_eq {f g : SourceFile} {i : Import} {above steps : List String} {name : String}
    (h : i.Reaches f g above steps name) (habove : ∀ part ∈ above, part ≠ "") (hname : name ≠ "*") :
    ∃ base, importBase f i = .ok base ∧
      ∀ (t : SymbolTable) (id : String), t.lookup? g.modulePath = some id → t.importedIds base i = [id] := by
  obtain ⟨left, hpackage, hlevel⟩ := h.up
  refine ⟨_, importBase_eq hpackage hlevel h.down h.named habove, fun t id hid => ?_⟩
  refine importedIds_of_lookup h.names hname ?_
  rw [← Text.join_append_singleton "." (List.append_ne_nil_of_left_ne_nil h.inside steps), ← h.module]
  exact hid

/-- So the file imports it. -/
theorem Import.Reaches.imports {f g : SourceFile} {i : Import} {above steps : List String} {name : String}
    (h : i.Reaches f g above steps name) {root : Path} {directories : List String} {stem : String}
    (hbelow : f.Below root directories stem) (hi : i ∈ f.imports) (hname : name ≠ "*") {modules : FileModules}
    {t : SymbolTable} {source target : String} (hmodule : modules.get? f.path = some source)
    (hlookup : t.lookup? g.modulePath = some target) (hne : target ≠ source) :
    Imports .dotted modules [] t f source ⟨"imports", target⟩ := by
  have habove : ∀ part ∈ above, part ≠ "" := by
    obtain ⟨left, hpackage, -⟩ := h.up
    rw [hbelow.package_eq] at hpackage
    exact fun part hpart => hbelow.named part (hpackage ▸ List.mem_append_left left hpart)
  obtain ⟨base, hbase, hids⟩ := h.importedIds_eq habove hname
  have hsources : importSources modules [] f = .ok [source] := by simp [importSources, hmodule]
  refine ⟨⟨[source], hsources, List.mem_singleton_self source⟩, i, hi, base, hbase, target, ?_, hne, rfl⟩
  rw [hids t target hlookup]
  exact List.mem_singleton_self target

/-! ## Symbols of modules -/

/-- The symbol of the module of a file. -/
def Symbol.IsModuleOf (s : Symbol) (f : SourceFile) : Prop := s.kind = "module" ∧ s.file = f.path

instance (s : Symbol) (f : SourceFile) : Decidable (s.IsModuleOf f) :=
  inferInstanceAs (Decidable (s.kind = "module" ∧ s.file = f.path))

/-- The module of one file imports that of another one. -/
def Dependencies.JoinsModules (deps : Dependencies) (f g : SourceFile) : Prop :=
  ∀ s ∈ deps.symbols, s.IsModuleOf f → ∀ s' ∈ deps.symbols, s'.IsModuleOf g → ⟨"imports", s'.id⟩ ∈ s.relations

instance (deps : Dependencies) (f g : SourceFile) : Decidable (deps.JoinsModules f g) :=
  inferInstanceAs (Decidable (∀ s ∈ deps.symbols, s.IsModuleOf f → ∀ s' ∈ deps.symbols, s'.IsModuleOf g →
    ⟨"imports", s'.id⟩ ∈ s.relations))

/-- Whether a symbol is the one of a module is not a question of its relations. -/
theorem Symbol.isModuleOf_of_bare_eq {s s' : Symbol} (h : s'.bare = s.bare) {f : SourceFile} (hs : s.IsModuleOf f) :
    s'.IsModuleOf f := by
  have hkind : s'.bare.kind = s.bare.kind := congrArg Symbol.kind h
  exact ⟨hkind.trans hs.1, (Symbol.eq_of_bare_eq h).1.trans hs.2⟩

namespace Declarations

variable {d : Declarations} {o : ResolutionOptions} {es all : List Entry}
  {r : FileModules × List NamedFunction × SymbolTable} {f g : SourceFile} {id : String} {s : Symbol}

/-- A file comes first among those with the same module. -/
def IsFirst (d : Declarations) (f : SourceFile) : Prop :=
  f ∈ d.files ∧ ∀ g ∈ d.files, g.modulePath = f.modulePath → f.path ≤ g.path

instance (d : Declarations) (f : SourceFile) : Decidable (d.IsFirst f) :=
  inferInstanceAs (Decidable (f ∈ d.files ∧ ∀ g ∈ d.files, g.modulePath = f.modulePath → f.path ≤ g.path))

/-- The first file of a module has the first key of its name. -/
theorem IsFirst.find?_keys (h : d.IsFirst g) :
    (d.keys false).find? (fun k => k.2 = g.modulePath) = some (g.path, g.modulePath) := by
  obtain ⟨hg, hleast⟩ := h
  have hkey : (g.path, g.modulePath) ∈ d.sortedFiles.map (moduleKey false) :=
    List.mem_map.2 ⟨g, List.mem_mergeSort.2 hg, rfl⟩
  obtain ⟨first, hfirst, hmem, hname⟩ := exists_find?_eq_some hkey
  -- the first one has the least path, and so has this one
  have hle : first.1 ≤ g.path := leading_of_sorted (d.sorted_keys_files false) g.modulePath first hfirst g.path hkey
  obtain ⟨f, hf, rfl⟩ := List.mem_map.1 hmem
  have hge : g.path ≤ f.path := hleast f (List.mem_mergeSort.1 hf) hname
  have hsame : moduleKey false f = (g.path, g.modulePath) := Prod.ext (le_antisymm hle hge) hname
  unfold keys
  rw [List.append_assoc, List.find?_append, hfirst, Option.some_or, hsame]

/-- A module is found by its name, in whatever file it is declared first. -/
theorem Filled.lookup?_module (h : d.Filled o es all r) (hmodules : o.byPackage = false) (hfirst : d.IsFirst g) :
    r.2.2.lookup? g.modulePath = r.2.2.record? g.path g.modulePath := by
  rw [h.registered.firsts, h.entries.keys_eq, hmodules, hfirst.find?_keys, Option.bind_some]

/-- Only the declaration of a module makes the symbol of a module. -/
theorem Filled.record?_of_isModuleOf (h : d.Filled o es all r) (hmodules : o.byPackage = false) (hd : d.Coherent)
    (hpaths : (d.files.map (·.path)).Nodup) (hs : r.2.2.symbols.get? id = some s) (hf : f ∈ d.files)
    (hmodule : s.IsModuleOf f) : r.2.2.record? f.path f.modulePath = some id := by
  obtain ⟨e, hleads, hrecord, hshows⟩ := h.registered.symbols id s hs
  have hkind : e.kind = "module" := hshows.kind.symm.trans hmodule.1
  rcases h.entries.cases hleads with he | ⟨x, hx, rfl, -⟩ | ⟨x, hx, rfl, -⟩
  · obtain ⟨f', hf', hkey⟩ := (h.entries.isModuleKey_iff e.key).1 (List.mem_map_of_mem he)
    rw [hmodules] at hkey
    obtain ⟨hpath, hname⟩ := Prod.mk.inj hkey
    obtain rfl : f' = f := List.inj_on_of_nodup_map hpaths hf' hf (by rw [hpath, ← hmodule.2, hshows.file])
    rw [hpath, hname]
    exact hrecord
  · obtain ⟨language, f', -, hplaced⟩ := hd.types x hx
    replace hkind : x.form.kind = "module" := hkind
    exact absurd (hkind ▸ hplaced.kind) (by decide)
  · exact absurd hkind (moduleKind_ne_functionKind false x).symm

/-- The module of each file has a symbol, if identifiers cannot be mixed up. -/
theorem Filled.exists_isModuleOf (h : d.Filled o es all r) (hmodules : o.byPackage = false)
    (hdist : Distinguishable (d.keys false)) (hf : f ∈ d.files) :
    ∃ id s, r.2.2.symbols.get? id = some s ∧ s.IsModuleOf f := by
  have hmodule : d.IsModuleKey o.byPackage (f.path, f.modulePath) := by
    rw [hmodules]
    exact ⟨f, hf, rfl⟩
  rw [← hmodules, ← h.entries.keys_eq] at hdist
  obtain ⟨e, s, hleads, hkey, hs, hshows⟩ :=
    h.registered.exists_shows hdist ((h.entries.mem_keys_iff (f.path, f.modulePath)).2 (.inl hmodule))
  refine ⟨_, s, hs, ?_, hshows.file.trans (congrArg Prod.fst hkey)⟩
  rw [hshows.kind]
  rcases h.entries.cases hleads with he | ⟨x, -, rfl, hother⟩ | ⟨x, -, rfl, hother, -⟩
  · rw [h.entries.kind e he, hmodules]
    rfl
  · exact absurd (hkey ▸ hmodule) hother
  · exact absurd (hkey ▸ hmodule) hother

/-- The module of a file is known by its path. -/
theorem Filled.get?_modules (h : d.Filled o es all r) (hmodules : o.byPackage = false)
    (hpaths : (d.files.map (·.path)).Nodup) (hf : f ∈ d.files) :
    r.1.get? f.path = r.2.2.record? f.path f.modulePath := by
  obtain ⟨id, hid⟩ := Option.isSome_iff_exists.1 (h.complete f hf)
  obtain ⟨f', hf', hpath, hrecord⟩ := h.modules f.path id hid
  obtain rfl : f' = f := List.inj_on_of_nodup_map hpaths hf' hf hpath
  rw [hmodules] at hrecord
  exact hid.trans hrecord.symm

/-! ## Relative imports -/

/-- **Relative imports reach their modules.**  An import that asks for a member other than a star, in a file below its
    source root, joins the module of the file to the first module that has the name.  Both modules have symbols, if
    identifiers cannot be mixed up. -/
theorem joinsModules_of_reaches {deps : Dependencies} (hparsed : d.Parsed) (hpaths : (d.files.map (·.path)).Nodup)
    (hpython : o.language = "python") (h : d.resolve o = .ok deps) {root : Path} {directories : List String}
    {stem : String} (hf : f ∈ d.files) (hbelow : f.Below root directories stem) (hfirst : d.IsFirst g)
    (hother : g.path ≠ f.path) {i : Import} (hi : i ∈ f.imports) {above steps : List String} {name : String}
    (hreaches : i.Reaches f g above steps name) (hname : name ≠ "*") :
    deps.JoinsModules f g ∧ (Distinguishable (d.keys false) →
      (∃ s ∈ deps.symbols, s.IsModuleOf f) ∧ ∃ s ∈ deps.symbols, s.IsModuleOf g) := by
  have hmodules : o.byPackage = false := by simp [ResolutionOptions.byPackage, hpython]
  have hstyle : o.importStyle = .dotted := by simp [ResolutionOptions.importStyle, hpython]
  obtain ⟨x, t, -, hx, hsymbols⟩ := linked_resolve h
  obtain ⟨es, all, hfilled⟩ := (filled_symbols d o).of_ok (symbols_of_setting hx.setting)
  constructor
  · intro s hs hsource s' hs' htarget
    rw [hsymbols, hx.sound.mem_values_iff] at hs hs'
    -- both identifiers are those of the declarations
    have hrecord {f : SourceFile} (hf : f ∈ d.files) {s : Symbol} (hs : t.symbols.get? s.id = some s)
        (hmodule : s.IsModuleOf f) : x.table.record? f.path f.modulePath = some s.id := by
      obtain ⟨s₀, hs₀, hbare⟩ := exists_get?_congr hx.bare.symm hs
      exact hfilled.record?_of_isModuleOf hmodules hparsed.coherent hpaths hs₀ hf
        (Symbol.isModuleOf_of_bare_eq hbare hmodule)
    have hmodule : x.modules.get? f.path = some s.id :=
      (hfilled.get?_modules hmodules hpaths hf).trans (hrecord hf hs hsource)
    have hlookup : x.table.lookup? g.modulePath = some s'.id :=
      (hfilled.lookup?_module hmodules hfirst).trans (hrecord hfirst.1 hs' htarget)
    have hne : s'.id ≠ s.id := by
      intro heq
      rw [heq, hs] at hs'
      cases hs'
      exact hother (htarget.2.symm.trans hsource.2)
    have himports := hreaches.imports hbelow hi hname hmodule hlookup hne
    obtain ⟨tops, htops, hiff⟩ := hx.has_iff
    rw [hstyle] at htops hiff
    cases htops
    obtain ⟨s₁, hs₁, hr⟩ := (hiff _ _).2 (.inr ⟨f, hf, himports⟩)
    rw [hs] at hs₁
    cases hs₁
    exact hr
  · intro hdist
    have hexists {f : SourceFile} (hf : f ∈ d.files) : ∃ s ∈ deps.symbols, s.IsModuleOf f := by
      obtain ⟨id, s, hs, hmodule⟩ := hfilled.exists_isModuleOf hmodules hdist hf
      obtain ⟨s', hs', hbare⟩ := exists_get?_congr hx.bare hs
      refine ⟨s', ?_, Symbol.isModuleOf_of_bare_eq hbare hmodule⟩
      rw [hsymbols, hx.sound.mem_values_iff, hx.sound.keyed id s' hs']
      exact hs'
    exact ⟨hexists hf, hexists hfirst.1⟩

end Declarations

/-! ### A package with two files to import -/

/-- A Python file below the root of a project. -/
structure NestedFile where
  directories : List String
  stem : String
  text : String
  statements : List SyntaxTree

/-- What the parser gives for it. -/
def NestedFile.parse (f : NestedFile) : Except Fault Declarations :=
  let parts := f.directories ++ [f.stem ++ ".py"]
  Python.extract ⟨f.text.toUTF8⟩ ⟨"/", ["p"] ++ parts⟩ ⟨"/", ["p"]⟩ (Path.text ⟨"", parts⟩)
    (.rule "module" "" 0 f.text.toUTF8.size f.statements)

theorem NestedFile.parsed_parse {f : NestedFile} {d : Declarations} (h : f.parse = .ok d) : d.Parsed :=
  have hparses : Language.python.Parses d := ⟨_, _, _, ⟨"/", ["p"]⟩, ⟨"", f.directories ++ [f.stem ++ ".py"]⟩, _,
    Path.below?_append ⟨"/", ["p"]⟩ _, h⟩
  .file hparses

theorem NestedFile.below_parse {f : NestedFile} {g : SourceFile}
    (hplain : ∀ part ∈ f.directories ++ [f.stem], '.' ∉ part.toList) (hnamed : ∀ part ∈ f.directories, part ≠ "")
    (hinner : f.stem = "__init__" → f.directories ≠ []) (h : f.parse = .ok { Declarations.empty with files := [g] }) :
    g.Below ⟨"/", ["p"]⟩ f.directories f.stem := by
  obtain ⟨g', hfiles, -, hbelow⟩ := @Python.below_extract _ ⟨"/", ["p"]⟩ _ _ _ _ _ hplain hnamed hinner h
  obtain rfl : g = g' := List.singleton_inj.1 hfiles
  exact hbelow

namespace Declarations

/-- A file whose name is a star. -/
def nestedStar : NestedFile := { directories := ["pkg"], stem := "*", text := "", statements := [] }

/-- A file in a package beside it. -/
def nestedUtil : NestedFile := { directories := ["pkg", "lib"], stem := "util", text := "", statements := [] }

/-- A file that imports from both packages. -/
def nestedImports : NestedFile :=
  { directories := ["pkg", "sub"], stem := "a"
    text := "from .. import *\nfrom ..lib import util\n"
    statements := [
      .rule "import_from_statement" "" 0 16 [
        .rule "relative_import" "module_name" 5 7 [.rule "import_prefix" "" 5 7 []],
        .rule "wildcard_import" "" 15 16 []],
      .rule "import_from_statement" "" 17 39 [
        .rule "relative_import" "module_name" 22 27 [
          .rule "import_prefix" "" 22 24 [], .rule "dotted_name" "" 24 27 [.rule "identifier" "" 24 27 []]],
        .rule "dotted_name" "name" 35 39 [.rule "identifier" "" 35 39 []]]] }

def starFile : SourceFile :=
  { path := "pkg/*.py", name := "*.py", lines := 0, modulePath := "pkg.*", language := "python", imports := []
    exports := [], isTest := false }

def utilFile : SourceFile :=
  { path := "pkg/lib/util.py", name := "util.py", lines := 0, modulePath := "pkg.lib.util", language := "python"
    imports := [], exports := [], isTest := false }

def importingFile : SourceFile :=
  { path := "pkg/sub/a.py", name := "a.py", lines := 2, modulePath := "pkg.sub.a", language := "python"
    imports := [⟨"", ["*"], 2, 1⟩, ⟨"lib", ["util"], 2, 2⟩], exports := [], isTest := false }

/-- What they declare together. -/
def nested : Declarations := { empty with files := [starFile, utilFile, importingFile] }

theorem parsed_nested : nested.Parsed := by
  have hparse : ([nestedStar, nestedUtil, nestedImports].mapM NestedFile.parse).map mergeAll = .ok nested := by
    decide +kernel
  obtain ⟨ds, hds, hall⟩ := map_eq_ok_iff.1 hparse
  rw [← hall]
  refine parsed_mergeAll fun d hd => ?_
  obtain ⟨f, -, hf⟩ := (mem_of_mapM_eq_ok hds d).1 hd
  exact NestedFile.parsed_parse hf

theorem sortedFiles_nested : nested.sortedFiles = nested.files := List.mergeSort_of_pairwise (by decide)

/-- No qualified name looks like an identifier with a file. -/
theorem distinguishable_nested : Distinguishable (nested.keys false) := by
  unfold keys
  rw [sortedFiles_nested]
  decide +kernel

/-- The star leads to the package. -/
theorem resolve_nested : ∃ deps, nested.resolve (plainOptions "python") = .ok deps ∧
    ¬ deps.JoinsModules importingFile starFile := by
  have hresult : (nested.resolve (plainOptions "python")).map (fun deps =>
      decide (deps.JoinsModules importingFile starFile)) = .ok false := by
    unfold resolve related symbols
    rw [sortedFiles_nested]
    decide +kernel
  obtain ⟨deps, hdeps, hjoins⟩ := map_eq_ok_iff.1 hresult
  exact ⟨deps, hdeps, of_decide_eq_false hjoins⟩

/-- A file whose name is a star is a file like any other. -/
theorem below_starFile : starFile.Below ⟨"/", ["p"]⟩ ["pkg"] "*" := by
  have hparse : nestedStar.parse = .ok { empty with files := [starFile] } := by decide +kernel
  exact NestedFile.below_parse (by decide) (by decide) (by decide) hparse

/-- The one that imports stands two directories down. -/
theorem below_importingFile : importingFile.Below ⟨"/", ["p"]⟩ ["pkg", "sub"] "a" := by
  have hparse : nestedImports.parse = .ok { empty with files := [importingFile] } := by decide +kernel
  exact NestedFile.below_parse (by decide) (by decide) (by decide) hparse

/-- One dot for its own package and one for the package above, and then the star for a name. -/
theorem reaches_starFile : (⟨"", ["*"], 2, 1⟩ : Import).Reaches importingFile starFile ["pkg"] [] "*" :=
  ⟨⟨["sub"], by rw [below_importingFile.package_eq]; rfl, by decide⟩, by decide, by decide, by decide, by decide,
    by decide +kernel⟩

/-- The same way up, and one step down again. -/
theorem reaches_utilFile :
    (⟨"lib", ["util"], 2, 2⟩ : Import).Reaches importingFile utilFile ["pkg"] ["lib"] "util" :=
  ⟨⟨["sub"], by rw [below_importingFile.package_eq]; rfl, by decide⟩, by decide, by decide, by decide, by decide,
    by decide +kernel⟩

/-- Such an import is resolved to the symbol of the module. -/
theorem joinsModules_nested : ∃ deps, nested.resolve (plainOptions "python") = .ok deps ∧
    deps.JoinsModules importingFile utilFile ∧
      (∃ s ∈ deps.symbols, s.IsModuleOf importingFile) ∧ ∃ s ∈ deps.symbols, s.IsModuleOf utilFile := by
  obtain ⟨deps, hdeps, -⟩ := resolve_nested
  obtain ⟨hjoins, hexist⟩ := joinsModules_of_reaches parsed_nested (by decide) rfl hdeps (by decide)
    below_importingFile (show nested.IsFirst utilFile by decide) (by decide) (by decide) reaches_utilFile (by decide)
  exact ⟨deps, hdeps, hjoins, hexist distinguishable_nested⟩

/-- So the file with the name of a star is not reached. -/
theorem not_joinsModules_star : nested.Parsed ∧ (nested.files.map (·.path)).Nodup ∧
    importingFile ∈ nested.files ∧ importingFile.Below ⟨"/", ["p"]⟩ ["pkg", "sub"] "a" ∧
      nested.IsFirst starFile ∧ starFile.Below ⟨"/", ["p"]⟩ ["pkg"] "*" ∧ starFile.path ≠ importingFile.path ∧
      (∃ i ∈ importingFile.imports, i.Reaches importingFile starFile ["pkg"] [] "*") ∧
      ∃ deps, nested.resolve (plainOptions "python") = .ok deps ∧ ¬ deps.JoinsModules importingFile starFile :=
  ⟨parsed_nested, by decide, by decide, below_importingFile, by decide, below_starFile, by decide,
    ⟨_, by decide, reaches_starFile⟩, resolve_nested⟩

end Declarations

end CodeAtlas
