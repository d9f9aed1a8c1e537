import CodeAtlas.Analyzer
import CodeAtlas.Proofs.Extraction.Outcomes
import CodeAtlas.Proofs.Resolution.Totality
/-!
  A broken file does not affect the others.

  `Isolated` compares two analyses: one of some files, and one of those among them that can be used.  They give
  the same symbols, and the first one has a diagnostic about each broken file besides.  If no file can be used, the
  analysis is refused.

  This holds whatever is wrong with the broken files, because their declarations are empty: nothing of a file is
  taken before all of it has been gone through.  It is the place of a file that matters.  The analysis of a file
  that can be read, and stands outside of the project, is stopped as a whole, so `Isolated` fails exactly for lists
  with such a file.
-/
namespace CodeAtlas

open Fault

/-! ## Lists -/

namespace Fault

variable {α β : Type} {f : α → Except Fault β} {xs : List α}

/-- Steps that can fail for one reason only fail for this reason if one of them does. -/
theorem mapM_eq_error {e : Fault} (h : ∀ x ∈ xs, Ends (f x) (fun _ => True) fun e' => e' = e) {x : α}
    (hx : x ∈ xs) (hfail : f x = .error e) : xs.mapM f = .error e := by
  induction xs with
  | nil => exact absurd hx List.not_mem_nil
  | cons y rest ih =>
    obtain ⟨hy, hrest⟩ := List.forall_mem_cons.1 h
    rw [List.mapM_cons]
    cases hfy : f y with
    | error e' => rw [hy.of_error hfy]; rfl
    | ok b =>
      rcases List.mem_cons.1 hx with rfl | hx
      · rw [hfail] at hfy; nomatch hfy
      · rw [ih hrest hx]; rfl

end Fault

namespace Workspace

variable {w : Workspace} {language : Language} {projectRoot : Path} {file : Path × Path} {files : List (Path × Path)}

/-! ## The declarations of files -/

/-- The files that are not broken. -/
def usable (w : Workspace) (language : Language) (projectRoot : Path) (files : List (Path × Path)) :
    List (Path × Path) :=
  files.filter fun f => !w.isBroken language projectRoot f

/-- A file that is no stray. -/
structure Inside (w : Workspace) (projectRoot : Path) (file : Path × Path) : Prop where
  admits : w.Admits file
  inside : w.isStray projectRoot file = false

/-- What is found in a file: its declarations, or a diagnostic. -/
def found (w : Workspace) (language : Language) (projectRoot : Path) (file : Path × Path) : Declarations :=
  (w.declarationsOf language projectRoot file).toOption.getD .empty

/-- A file that cannot be read or parsed leaves one diagnostic, with its own path. -/
theorem Inside.found_broken (h : w.Inside projectRoot file) (hbroken : w.isBroken language projectRoot file = true) :
    OnlyDiagnostic (file.2.relativeText projectRoot) (w.found language projectRoot file) := by
  obtain ⟨d, hd, hgood⟩ := (declarationsOf_broken h.admits h.inside hbroken).exists_ok
  rw [found, hd]
  exact hgood

/-- Any other file leaves its record, and the declarations that are in it. -/
theorem Inside.found_usable (h : w.Inside projectRoot file) (hbroken : w.isBroken language projectRoot file = false) :
    (w.found language projectRoot file).OneFile SymbolTable.maxDots := by
  obtain ⟨d, hd, hgood⟩ := (declarationsOf_usable h.admits h.inside hbroken).exists_ok
  rw [found, hd]
  exact hgood

/-- A file below the root of the project never ends the parse. -/
theorem Inside.declarationsOf_eq (h : w.Inside projectRoot file) :
    w.declarationsOf language projectRoot file = .ok (w.found language projectRoot file) := by
  have hsome : ∃ d, w.declarationsOf language projectRoot file = .ok d := by
    cases hbroken : w.isBroken language projectRoot file with
    | true => exact (declarationsOf_broken h.admits h.inside hbroken).exists_ok.imp fun d hd => hd.1
    | false => exact (declarationsOf_usable h.admits h.inside hbroken).exists_ok.imp fun d hd => hd.1
  obtain ⟨d, hd⟩ := hsome
  rw [found, hd]
  rfl

/-- So the declarations of all files are those of each, merged. -/
theorem declarations_eq (h : ∀ f ∈ files, w.Inside projectRoot f) :
    w.declarations language projectRoot files =
      .ok (Declarations.mergeAll (files.map (w.found language projectRoot))) := by
  rw [declarations, mapM_eq_map fun f hf => (h f hf).declarationsOf_eq]
  rfl

/-- What has nothing may be left out. -/
theorem flatMap_usable {α : Type} {g : Path × Path → List α}
    (h : ∀ f ∈ files, w.isBroken language projectRoot f = true → g f = []) :
    files.flatMap g = (w.usable language projectRoot files).flatMap g := by
  unfold usable
  induction files with
  | nil => rfl
  | cons f rest ih =>
    obtain ⟨hf, hrest⟩ := List.forall_mem_cons.1 h
    rw [List.flatMap_cons, ih hrest, List.filter_cons]
    cases hbroken : w.isBroken language projectRoot f with
    | true => rw [hf hbroken]; rfl
    | false => rfl

/-- **Broken files add diagnostics only.** -/
theorem mergeAll_found (h : ∀ f ∈ files, w.Inside projectRoot f) :
    Declarations.mergeAll (files.map (w.found language projectRoot)) =
      { Declarations.mergeAll ((w.usable language projectRoot files).map (w.found language projectRoot)) with
        diagnostics := files.flatMap fun f => (w.found language projectRoot f).diagnostics } := by
  have hnothing : ∀ f ∈ files, w.isBroken language projectRoot f = true →
      ∃ x, w.found language projectRoot f = { Declarations.empty with diagnostics := [x] } := fun f hf hbroken =>
    ((h f hf).found_broken hbroken).imp fun x hx => hx.1
  -- all lists but that of the diagnostics are the same without the broken files
  have hpart : ∀ {α : Type} (part : Declarations → List α),
      (∀ x, part { Declarations.empty with diagnostics := [x] } = []) →
      (files.map (w.found language projectRoot)).flatMap part =
        ((w.usable language projectRoot files).map (w.found language projectRoot)).flatMap part := by
    intro α part hpart
    rw [List.flatMap_map, List.flatMap_map]
    refine flatMap_usable fun f hf hbroken => ?_
    obtain ⟨x, hx⟩ := hnothing f hf hbroken
    rw [hx]
    exact hpart x
  rw [Declarations.mergeAll_eq, Declarations.mergeAll_eq]
  simp only [Declarations.mk.injEq]
  exact ⟨hpart _ fun _ => rfl, hpart _ fun _ => rfl, hpart _ fun _ => rfl, hpart _ fun _ => rfl, hpart _ fun _ => rfl,
    List.flatMap_map _ _ _⟩

/-- The diagnostics are about the broken files, one about each. -/
theorem paths_found (h : ∀ f ∈ files, w.Inside projectRoot f) :
    (files.flatMap fun f => (w.found language projectRoot f).diagnostics).map (·.path) =
      (files.filter (w.isBroken language projectRoot)).map fun f => f.2.relativeText projectRoot := by
  induction files with
  | nil => rfl
  | cons f rest ih =>
    obtain ⟨hf, hrest⟩ := List.forall_mem_cons.1 h
    rw [List.flatMap_cons, List.map_append, ih hrest, List.filter_cons]
    cases hbroken : w.isBroken language projectRoot f with
    | true =>
      obtain ⟨x, hx, hpath, -⟩ := hf.found_broken hbroken
      rw [hx, if_pos rfl]
      show x.path :: _ = f.2.relativeText projectRoot :: _
      rw [hpath]
      rfl
    | false =>
      rw [(hf.found_usable hbroken).diagnostics]
      rfl

end Workspace

/-! ## The analysis -/

namespace Analyzer

variable {settings : Settings} {language : Language} {w : Workspace} {p : Project} {files : List (Path × Path)}

open Workspace

/-- The lines of all diagnostics can be compared, which sorting them needs. -/
theorem hasLines_found (h : ∀ f ∈ files, w.Inside p.root f) :
    (Declarations.mergeAll (files.map (w.found language p.root))).HasLines := by
  intro x hx
  rw [Declarations.mergeAll_eq] at hx
  obtain ⟨d, hd, hx⟩ := List.mem_flatMap.1 hx
  obtain ⟨f, hf, rfl⟩ := List.mem_map.1 hd
  cases hbroken : w.isBroken language p.root f with
  | true =>
    obtain ⟨y, hy, -, hline⟩ := (h f hf).found_broken hbroken
    rw [hy] at hx
    rw [List.mem_singleton.1 hx]
    exact hline
  | false =>
    rw [((h f hf).found_usable hbroken).diagnostics] at hx
    nomatch hx

/-- Whole files can be resolved together. -/
theorem related_mergeAll {ds : List Declarations} (h : ∀ d ∈ ds, d.OneFile SymbolTable.maxDots) :
    ∃ t, (Declarations.mergeAll ds).related (optionsOf settings language p) = .ok t := by
  have hnames : (Declarations.mergeAll ds).KeepsNames := by
    intro r hr
    rw [Declarations.mergeAll_eq] at hr
    obtain ⟨d, hd, hr⟩ := List.mem_flatMap.1 hr
    exact (h d hd).names r hr
  have hdots : (Declarations.mergeAll ds).HasDots (optionsOf settings language p).importStyle := by
    intro _ f hf i hi
    rw [Declarations.mergeAll_eq] at hf
    obtain ⟨d, hd, hf⟩ := List.mem_flatMap.1 hf
    obtain ⟨f', hf', hlevels⟩ := (h d hd).files
    rw [hf'] at hf
    rw [List.mem_singleton.1 hf] at hi
    exact hlevels i hi
  have hseparator : (optionsOf settings language p).separator ≠ "" := by
    show language.separator ≠ ""
    cases language <;> decide
  exact (Declarations.related_succeeds hnames hdots hseparator).exists_ok.imp fun t ht => ht.1

/-- The analysis of some files, one of which is usable, has the symbols of the usable ones. -/
theorem dependenciesIn_eq (h : ∀ f ∈ files, w.Inside p.root f) (husable : w.usable language p.root files ≠ [])
    {t : SymbolTable}
    (ht : (Declarations.mergeAll ((w.usable language p.root files).map (w.found language p.root))).related
      (optionsOf settings language p) = .ok t) :
    ∃ diagnostics, dependenciesIn settings language w p files = .ok
        { language := language.name, project := p.name.toJson.toOption.getD .null, root := p.root.text
          symbols := t.symbols.values, diagnostics } ∧
      (diagnostics.map (·.path)).Perm
        ((files.filter (w.isBroken language p.root)).map fun f => f.2.relativeText p.root) := by
  have hfiles : files.isEmpty = false := by
    cases files with
    | nil => exact absurd rfl husable
    | cons f rest => rfl
  -- a usable file has a record of its own
  have hsome : (Declarations.mergeAll (files.map (w.found language p.root))).files.isEmpty = false := by
    obtain ⟨f, rest, hcons⟩ := List.exists_cons_of_ne_nil husable
    have hf : f ∈ w.usable language p.root files := hcons ▸ List.mem_cons_self
    obtain ⟨hf, hbroken⟩ := List.mem_filter.1 hf
    obtain ⟨record, hrecord, -⟩ := ((h f hf).found_usable (by simpa using hbroken)).files
    rw [List.isEmpty_eq_false_iff_exists_mem, Declarations.mergeAll_eq]
    exact ⟨record, List.mem_flatMap.2 ⟨_, List.mem_map_of_mem hf, by rw [hrecord]; exact List.mem_cons_self⟩⟩
  have hlines : (Declarations.mergeAll (files.map (w.found language p.root))).HasLines := hasLines_found h
  -- relations are made without the diagnostics
  have hrelated : (Declarations.mergeAll (files.map (w.found language p.root))).related
      (optionsOf settings language p) = .ok t := by
    rw [mergeAll_found h]
    exact ht
  obtain ⟨diagnostics, hresolve, hperm⟩ := Declarations.resolve_of_related hlines hrelated
  refine ⟨diagnostics, ?_, ?_⟩
  · unfold dependenciesIn
    rw [hfiles, declarations_eq h, if_neg Bool.false_ne_true]
    show (if (Declarations.mergeAll (files.map (w.found language p.root))).files.isEmpty then _ else _) = _
    rw [hsome]
    exact hresolve
  · rw [← paths_found h]
    refine hperm.map _ |>.trans ?_
    rw [mergeAll_found h]

/-! ## Isolation -/

/-- Broken files do not affect the others. -/
structure Isolated (settings : Settings) (language : Language) (w : Workspace) (p : Project)
    (files : List (Path × Path)) : Prop where
  /-- the analysis is refused if there is nothing that can be used -/
  refused : w.usable language p.root files = [] →
    dependenciesIn settings language w p files = .error
      (if files.isEmpty then .noSourceFiles language.name p.root.text
        else .nothingParsed files.length language.name p.root.text)
  /-- else it gives what it gives of the usable files alone, with a diagnostic about each broken file -/
  alone : w.usable language p.root files ≠ [] →
    ∃ deps diagnostics, dependenciesIn settings language w p (w.usable language p.root files) = .ok deps ∧
      deps.diagnostics = [] ∧
      dependenciesIn settings language w p files = .ok { deps with diagnostics } ∧
      (diagnostics.map (·.path)).Perm
        ((files.filter (w.isBroken language p.root)).map fun f => f.2.relativeText p.root)

/-- No file does anything to what comes of the others. -/
theorem isolated_of_inside (h : ∀ f ∈ files, w.Inside p.root f) : Isolated settings language w p files where
  refused husable := by
    unfold dependenciesIn
    cases hfiles : files.isEmpty with
    | true => rfl
    | false =>
      rw [declarations_eq h, mergeAll_found h, husable]
      rfl
  alone husable := by
    -- both analyses are of the same usable files
    have hagain : w.usable language p.root (w.usable language p.root files) = w.usable language p.root files := by
      rw [Workspace.usable, Workspace.usable, List.filter_filter]
      simp
    have hnone : (w.usable language p.root files).filter (w.isBroken language p.root) = [] := by
      rw [Workspace.usable, List.filter_filter]
      simp
    have hinside : ∀ f ∈ w.usable language p.root files, w.Inside p.root f := fun f hf => h f (List.mem_filter.1 hf).1
    have hwhole : ∀ d ∈ (w.usable language p.root files).map (w.found language p.root),
        d.OneFile SymbolTable.maxDots := by
      intro d hd
      obtain ⟨f, hf, rfl⟩ := List.mem_map.1 hd
      obtain ⟨hf, hbroken⟩ := List.mem_filter.1 hf
      exact (h f hf).found_usable (by simpa using hbroken)
    obtain ⟨t, ht⟩ : ∃ t, _ := related_mergeAll hwhole
    obtain ⟨diagnostics, hall, hperm⟩ := dependenciesIn_eq h husable ht
    obtain ⟨none, halone, hempty⟩ := dependenciesIn_eq hinside (by rwa [hagain]) (by rwa [hagain])
    rw [hnone] at hempty
    have hempty : none = [] := List.map_eq_nil_iff.1 (List.perm_nil.1 hempty)
    exact ⟨_, diagnostics, halone, hempty, hall, hperm⟩

/-- A stray stops the analysis. -/
theorem dependenciesIn_stray (h : ∀ f ∈ files, w.Admits f) {file : Path × Path} (hfile : file ∈ files)
    (hstray : w.isStray p.root file = true) : dependenciesIn settings language w p files = .error .badValue := by
  have hends : ∀ f ∈ files, Ends (w.declarationsOf language p.root f) (fun _ => True) fun e => e = .badValue := by
    intro f hf
    cases hstray : w.isStray p.root f with
    | true => rw [declarationsOf_stray hstray]; exact ends_error rfl
    | false => rw [Inside.declarationsOf_eq ⟨h f hf, hstray⟩]; exact ends_ok trivial
  have hfiles : files.isEmpty = false := by
    cases files with
    | nil => exact absurd hfile List.not_mem_nil
    | cons f rest => rfl
  unfold dependenciesIn declarations
  rw [hfiles, mapM_eq_error hends hfile (declarationsOf_stray hstray)]
  rfl

/-- **Broken files do not affect the others, as long as no file stands outside of the project.**  A file that does,
    and can be read, stops the analysis of all of them. -/
theorem isolated_iff (h : ∀ f ∈ files, w.Admits f) :
    Isolated settings language w p files ↔ ∀ f ∈ files, w.isStray p.root f = false := by
  constructor
  -- with a stray the analysis fails in a way that neither half of the statement allows
  · intro hisolated f hf
    by_contra hstray
    have hstop : dependenciesIn settings language w p files = .error .badValue :=
      dependenciesIn_stray h hf (Bool.eq_true_of_not_eq_false hstray)
    by_cases husable : w.usable language p.root files = []
    · have hrefused := hisolated.refused husable
      rw [hstop] at hrefused
      split at hrefused <;> nomatch hrefused
    · obtain ⟨deps, diagnostics, -, -, hall, -⟩ := hisolated.alone husable
      rw [hstop] at hall
      nomatch hall
  · exact fun hstray => isolated_of_inside fun f hf => ⟨h f hf, hstray f hf⟩

/-! ### Listed files -/

/-- What is listed below a root is below it. -/
theorem isUnder_sourceFiles (t : FileTree) (filter : FileTree.SourceFilter) (root : Path) :
    Ends (t.sourceFiles filter root) (fun paths => ∀ p ∈ paths, p.IsUnder root) fun _ => True := by
  refine (ends_anyhow root.checkBytes).bind fun _ _ => ?_
  split
  · refine ends_pure fun p hp => ?_
    obtain ⟨parts, hparts, rfl⟩ := List.mem_map.1 hp
    exact ⟨parts, FileTree.ne_nil_of_mem_sources hparts, rfl⟩
  · exact ends_pure fun p hp => nomatch hp

/-- What is listed stands below one of the source roots. -/
theorem isUnder_filesOf (w : Workspace) (language : Language) (excluded : List String) (p : Project) :
    Ends (filesOf w language excluded p) (fun files => ∀ f ∈ files, f.1 ∈ p.roots ∧ f.2.IsUnder f.1)
      fun _ => True := by
  refine ends_foldlM (fun files : List (Path × Path) => ∀ f ∈ files, f.1 ∈ p.roots ∧ f.2.IsUnder f.1)
    (fun f hf => nomatch hf) fun listed root hroot hlisted => ?_
  refine (ends_anyhow (w.files.hasDirectory root)).bind fun isDirectory _ => ?_
  split
  · refine (isUnder_sourceFiles w.files _ root).bind fun paths hpaths => ends_pure fun f hf => ?_
    rcases List.mem_append.1 hf with hf | hf
    · exact hlisted f hf
    · obtain ⟨path, hpath, rfl⟩ := List.mem_map.1 hf
      exact ⟨hroot, hpaths path (List.mem_filter.1 hpath).1⟩
  · exact ends_error trivial

/-- The analysis of a project with its source roots inside is not affected by broken files. -/
theorem isolated_of_roots (hroots : ∀ root ∈ p.roots, (root.below? p.root).isSome = true)
    (hlisted : filesOf w language settings.excluded p = .ok files) (hnamed : ∀ f ∈ files, f.2.checkBytes = .ok ())
    (hsmall : ∀ f ∈ files, ∀ bytes, w.files.read f.2 = .ok bytes → bytes.size ≤ SymbolTable.maxDots) :
    builtinDependencies settings language w p = dependenciesIn settings language w p files ∧
      Isolated settings language w p files := by
  refine ⟨by rw [builtinDependencies, hlisted]; rfl, isolated_of_inside fun f hf => ?_⟩
  obtain ⟨hroot, hunder⟩ := (isUnder_filesOf w language settings.excluded p).of_ok hlisted f hf
  have hbelow := hunder.below?_isSome (hroots f.1 hroot)
  refine ⟨⟨hunder, hnamed f hf, hsmall f hf⟩, ?_⟩
  rw [Workspace.isStray, Option.isNone_eq_false_iff.2 hbelow, Bool.and_false]

/-! ### A small project -/

/-- A grammar that takes a file for the import of all its text, and finds an error in a text of two bytes. -/
def importTree : TreeBuilder := fun _ bytes =>
  .node "module" true false (bytes.size = 2) 0 bytes.size ""
    [.node "import_statement" true false false 0 bytes.size ""
      [.node "dotted_name" true false false 0 bytes.size "name" []]]

/-- A file of a project that can be used, one with an error and one that is not UTF-8; and a file beside the
    project. -/
def mixed : Workspace :=
  { files := .directory
      [("app", .directory [("a.py", .file ⟨#[0x6D]⟩), ("b.py", .file ⟨#[0x6D, 0x28]⟩), ("c.py", .file ⟨#[0xFF]⟩)]),
        ("lib", .directory [("d.py", .file ⟨#[0x6D, 0x28]⟩)])]
    tree := importTree }

/-- The project in one directory. -/
def mixedProject : Project :=
  { name := .ofText "app", language := .python, root := ⟨"/", ["app"]⟩, sourceRoots := [], manifest := none
    buildSystem := none }

/-- A file with its directory as the source root. -/
def fileIn (directory name : String) : Path × Path := (⟨"/", [directory]⟩, ⟨"/", [directory, name]⟩)

/-- A small file with a usable name can be taken up. -/
theorem admits_fileIn {directory name : String} (hnamed : (fileIn directory name).2.checkBytes = .ok ())
    (hsmall : ((mixed.files.read (fileIn directory name).2).toOption.all fun bytes =>
      decide (bytes.size ≤ SymbolTable.maxDots)) = true) : mixed.Admits (fileIn directory name) where
  under := ⟨[name], by simp, rfl⟩
  named := hnamed
  small bytes hbytes := by
    rw [hbytes] at hsmall
    exact of_decide_eq_true hsmall

/-- One file of four can be used; the last one is not there any more when it is read. -/
theorem isolated_mixed :
    mixed.usable .python mixedProject.root
        [fileIn "app" "a.py", fileIn "app" "b.py", fileIn "app" "c.py", fileIn "app" "d.py"] = [fileIn "app" "a.py"] ∧
      Isolated .default .python mixed mixedProject
        [fileIn "app" "a.py", fileIn "app" "b.py", fileIn "app" "c.py", fileIn "app" "d.py"] := by
  refine ⟨by decide +kernel, (isolated_iff fun f hf => ?_).2 (by decide +kernel)⟩
  simp only [List.mem_cons, List.not_mem_nil, or_false] at hf
  rcases hf with rfl | rfl | rfl | rfl
  all_goals exact admits_fileIn (by decide +kernel) (by decide +kernel)

/-- The broken file of another directory stops the analysis of the first one. -/
theorem not_isolated_mixed :
    mixed.usable .python mixedProject.root [fileIn "app" "a.py", fileIn "lib" "d.py"] = [fileIn "app" "a.py"] ∧
      (∀ f ∈ [fileIn "app" "a.py", fileIn "lib" "d.py"], mixed.Admits f) ∧
      dependenciesIn .default .python mixed mixedProject [fileIn "app" "a.py", fileIn "lib" "d.py"] = .error .badValue ∧
      ¬ Isolated .default .python mixed mixedProject [fileIn "app" "a.py", fileIn "lib" "d.py"] := by
  have husable : mixed.usable .python mixedProject.root [fileIn "app" "a.py", fileIn "lib" "d.py"] =
      [fileIn "app" "a.py"] := by decide +kernel
  have hstop : dependenciesIn .default .python mixed mixedProject [fileIn "app" "a.py", fileIn "lib" "d.py"] =
      .error .badValue := by decide +kernel
  refine ⟨husable, fun f hf => ?_, hstop, fun hisolated => ?_⟩
  · simp only [List.mem_cons, List.not_mem_nil, or_false] at hf
    rcases hf with rfl | rfl
    all_goals exact admits_fileIn (by decide +kernel) (by decide +kernel)
  · obtain ⟨deps, diagnostics, -, -, hall, -⟩ := hisolated.alone (by rw [husable]; exact List.cons_ne_nil _ _)
    rw [hstop] at hall
    nomatch hall

end Analyzer

end CodeAtlas
