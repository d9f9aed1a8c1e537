import CodeAtlas.Proofs.Resolution.Table
import CodeAtlas.Resolution.Symbols
import Mathlib.Algebra.Ring.Int.Defs
import Mathlib.Data.List.Dedup
import Mathlib.Data.List.Perm.Basic
/-!
  In a language with packages the files are grouped by package.

  The files come one by one.  The first one of a package makes the symbol of the package, and each later one extends
  this symbol where it stands, whatever files of other packages lie between them.  So after some files each package
  that was named has the symbol of all its files so far (`packageSymbol`), and nothing else is in the table.
  `HasPackages` says this; one step keeps it (`HasPackages.addPackage`), and so does the loop.

  From there on the loop is forgotten.  The files of a package are those that a filter finds, so where no two files
  have one path, each of them is listed once, by the package that it is mapped to (`Grouped`).  Files with an empty
  module path are in a package too, and it has a name; so there are as many packages as module paths only if no module
  path is spelled like this name.
-/
namespace CodeAtlas

open Fault

namespace SymbolTable

variable {language package : String} {files members : List SourceFile} {f : SourceFile} {t : SymbolTable}

/-! ## The symbol of a package -/

/-- The files of a package. -/
def filesIn (files : List SourceFile) (package : String) : List SourceFile :=
  files.filter fun f => packageOf f = package

/-- The symbol of a package with some files. -/
def packageSymbol (language package : String) (members : List SourceFile) : Symbol :=
  { id := package, title := package, kind := "package", file := "", line := .null
    metadata := ⟨[(.str "qualified_name", .str package), (.str "language", .str language),
      (.str "source_file", .str ""), (.str "files", .arr (members.map fun f => .str f.path)),
      (.str "loc", .int (members.map (·.lines)).sum)]⟩
    relations := [] }

/-- The declaration of the package of a file that is the first one in it. -/
def packageEntry (f : SourceFile) : Entry :=
  { qualified := packageOf f, title := packageOf f, kind := "package", file := "", line := .null
    metadata := Metadata.ofList [("files", .arr [.str f.path]), ("loc", .int f.lines)] }

/-- The symbol of a package, if it is the package of some file. -/
def packageSymbol? (language : String) (files : List SourceFile) (package : String) : Option Symbol :=
  if package ∈ files.map packageOf then some (packageSymbol language package (filesIn files package)) else none

/-- The paths of its files, in their order. -/
theorem get?_files_packageSymbol (language package : String) (members : List SourceFile) :
    (packageSymbol language package members).metadata.get? "files" =
      some (.arr (members.map fun f => .str f.path)) := by
  simp [packageSymbol, Metadata.get?, Json.lookup, Json.Key.code]

theorem get?_loc_packageSymbol (language package : String) (members : List SourceFile) :
    (packageSymbol language package members).metadata.get? "loc" = some (.int (members.map (·.lines)).sum) := by
  simp [packageSymbol, Metadata.get?, Json.lookup, Json.Key.code]

/-- One more file makes the symbol of the files with this one at the end. -/
theorem extendPackage_packageSymbol (language package : String) (members : List SourceFile) (f : SourceFile) :
    extendPackage (packageSymbol language package members) f =
      .ok (packageSymbol language package (members ++ [f])) := by
  unfold extendPackage
  rw [get?_files_packageSymbol, get?_loc_packageSymbol]
  show Except.ok _ = _
  simp [packageSymbol, Metadata.set, Json.putField, Json.Key.code]

/-- The first file makes the symbol of this file alone. -/
theorem symbolOf_packageEntry (t : SymbolTable) (f : SourceFile) (hnew : t.symbols.contains (packageOf f) = false) :
    t.symbolOf (packageEntry f) = packageSymbol t.language (packageOf f) [f] := by
  simp [symbolOf, packageEntry, packageSymbol, freshId, hnew, Metadata.ofList, Metadata.update, Metadata.set,
    Json.putField, Json.Key.code, Metadata.empty]

/-! ## One more file -/

/-- A new file comes last in its package and changes no other one. -/
theorem filesIn_concat (files : List SourceFile) (f : SourceFile) (package : String) :
    filesIn (files ++ [f]) package = filesIn files package ++ if packageOf f = package then [f] else [] := by
  rw [filesIn, List.filter_append, List.filter_singleton]
  simp [filesIn]

/-- A package that was not named has no files. -/
theorem filesIn_eq_nil (h : package ∉ files.map packageOf) : filesIn files package = [] := by
  rw [filesIn, List.filter_eq_nil_iff]
  intro f hf heq
  exact h (List.mem_map.2 ⟨f, hf, of_decide_eq_true heq⟩)

/-- One more file changes the symbol of its own package only. -/
theorem packageSymbol?_concat (language : String) (files : List SourceFile) (f : SourceFile) (package : String) :
    packageSymbol? language (files ++ [f]) package =
      if packageOf f = package then some (packageSymbol language package (filesIn files package ++ [f]))
      else packageSymbol? language files package := by
  unfold packageSymbol?
  rw [filesIn_concat]
  by_cases h : packageOf f = package
  · simp [h]
  · simp [h, Ne.symm h]

/-- After some files each package has the symbol of its files, under its name, and nothing else is there. -/
structure HasPackages (language : String) (files : List SourceFile) (t : SymbolTable) : Prop where
  sound : t.Sound
  sameLanguage : t.language = language
  symbols : ∀ id, t.symbols.get? id = packageSymbol? language files id
  lookups : ∀ name, t.lookup? name = (packageSymbol? language files name).map (·.id)
  /-- packages stand in no file -/
  records : ∀ name, t.record? "" name = t.lookup? name

theorem hasPackages_empty (root : Path) (language : String) : HasPackages language [] (empty root language) :=
  ⟨sound_empty root language, rfl, fun _ => rfl, fun _ => rfl, fun _ => rfl⟩

/-- A table with one more file differs in the package of this file only, which is all that the two ways to add a file
    have to see to. -/
theorem HasPackages.concat {t' : SymbolTable} (h : HasPackages language files t) (f : SourceFile) (hsound : t'.Sound)
    (hlanguage : t'.language = t.language)
    (hsymbols : ∀ id, t'.symbols.get? id =
      if packageOf f = id then some (packageSymbol language id (filesIn files id ++ [f])) else t.symbols.get? id)
    (hlookups : ∀ name, t'.lookup? name = if packageOf f = name then some name else t.lookup? name)
    (hrecords : ∀ name, t'.record? "" name = t'.lookup? name) : HasPackages language (files ++ [f]) t' where
  sound := hsound
  sameLanguage := hlanguage.trans h.sameLanguage
  symbols id := by rw [hsymbols, packageSymbol?_concat, h.symbols]
  lookups name := by
    rw [hlookups, packageSymbol?_concat, h.lookups]
    split <;> rfl
  records := hrecords

theorem HasPackages.lookup?_known (h : HasPackages language files t) (hknown : package ∈ files.map packageOf) :
    t.lookup? package = some package := by
  rw [h.lookups, packageSymbol?, if_pos hknown]
  rfl

/-- Before its first file there is none of that name. -/
theorem HasPackages.lookup?_new (h : HasPackages language files t) (hnew : package ∉ files.map packageOf) :
    t.lookup? package = none := by
  rw [h.lookups, packageSymbol?, if_neg hnew]
  rfl

/-- A package that has a symbol is extended. -/
theorem HasPackages.addPackage_known (h : HasPackages language files t)
    (hknown : packageOf f ∈ files.map packageOf) : addPackage t f =
      let s := packageSymbol language (packageOf f) (filesIn files (packageOf f) ++ [f])
      .ok (s, { t with symbols := t.symbols.insert (packageOf f) s }) := by
  have hs : t.symbols.get? (packageOf f) =
      some (packageSymbol language (packageOf f) (filesIn files (packageOf f))) :=
    (h.symbols (packageOf f)).trans (if_pos hknown)
  have hkind : t.kindOf? (packageOf f) = some "package" := by rw [kindOf?, hs]; rfl
  unfold addPackage
  -- the look-up finds the symbol and sees that it is one of a package
  simp only [h.lookup?_known hknown, Option.filter_some, hkind, decide_true, if_true]
  exact bind_eq_ok_iff.2 ⟨_, symbol_eq_ok_iff.2 hs, bind_eq_ok_iff.2 ⟨_, extendPackage_packageSymbol .., rfl⟩⟩

/-- A package that has none is put in. -/
theorem HasPackages.addPackage_new (h : HasPackages language files t) (hnew : packageOf f ∉ files.map packageOf) :
    addPackage t f =
      let s := packageSymbol language (packageOf f) [f]
      .ok (s, t.register (packageEntry f) s) := by
  have hlookup := h.lookup?_new hnew
  have hfree : t.symbols.contains (packageOf f) = false := by
    rw [OrderedMap.contains, h.symbols, packageSymbol?, if_neg hnew]
    rfl
  have hadd : t.add (packageEntry f) =
      .ok (t.symbolOf (packageEntry f), t.register (packageEntry f) (t.symbolOf (packageEntry f))) := by
    have hrecord : t.record? (packageEntry f).file (packageEntry f).qualified = none :=
      (h.records (packageOf f)).trans hlookup
    rw [add, hrecord]
  rw [symbolOf_packageEntry t f hfree, h.sameLanguage] at hadd
  unfold addPackage
  simp only [hlookup, Option.filter_none]
  exact hadd

/-- A later file changes the symbol of its package where it stands, so the order of the packages stays. -/
theorem HasPackages.extend (h : HasPackages language files t) (hknown : packageOf f ∈ files.map packageOf) :
    HasPackages language (files ++ [f]) { t with
      symbols := t.symbols.insert (packageOf f)
        (packageSymbol language (packageOf f) (filesIn files (packageOf f) ++ [f])) } := by
  refine h.concat f (h.sound.replace rfl) rfl (fun id => ?_) (fun name => ?_) h.records
  · rw [OrderedMap.get?_insert]
    split
    · next heq => rw [heq]
    · rfl
  · split
    -- the indices stay as they were, for the package is in them
    · next heq => exact heq ▸ h.lookup?_known hknown
    · rfl

/-- A new name is free, so the new package gets it as its identifier. -/
theorem HasPackages.lookup?_register (h : HasPackages language files t) (hnew : packageOf f ∉ files.map packageOf)
    (name : String) :
    (t.register (packageEntry f) (packageSymbol language (packageOf f) [f])).lookup? name =
      if packageOf f = name then some name else t.lookup? name := by
  rw [SymbolTable.lookup?_register]
  show (if packageOf f = name then some ((t.lookup? (packageOf f)).getD (packageOf f)) else _) = _
  rw [h.lookup?_new hnew]
  split
  · next heq => exact congrArg some heq
  · rfl

/-- The first file of a package makes its symbol, behind all others. -/
theorem HasPackages.register (h : HasPackages language files t) (hnew : packageOf f ∉ files.map packageOf) :
    HasPackages language (files ++ [f])
      (t.register (packageEntry f) (packageSymbol language (packageOf f) [f])) := by
  refine h.concat f (h.sound.register _ _) rfl (fun id => ?_) (h.lookup?_register hnew) fun name => ?_
  · rw [get?_register]
    show (if packageOf f = id then _ else _) = _
    split
    -- the package is new, so there is no other file in it
    · next heq => rw [← heq, filesIn_eq_nil hnew, List.nil_append]
    · rfl
  · rw [h.lookup?_register hnew, record?_register, h.records]
    show (if ("", packageOf f) = ("", name) then some (packageOf f) else _) = _
    by_cases heq : packageOf f = name <;> simp [heq]

/-- **One more file** is added to the files of its package, and the step gives the symbol of this package. -/
theorem HasPackages.addPackage (h : HasPackages language files t) (f : SourceFile) :
    Succeeds (addPackage t f) fun r => r.1.id = packageOf f ∧ HasPackages language (files ++ [f]) r.2 := by
  by_cases hknown : packageOf f ∈ files.map packageOf
  · rw [h.addPackage_known hknown]
    exact ends_ok ⟨rfl, h.extend hknown⟩
  · rw [h.addPackage_new hknown]
    exact ends_ok ⟨rfl, h.register hknown⟩

/-! ## All files -/

/-- Paths are mapped to packages; of some files with one path the last one decides. -/
def FilesMapped (files : List SourceFile) (modules : FileModules) : Prop :=
  ∀ path, modules.get? path = (files.reverse.find? fun f => f.path = path).map packageOf

/-- **The loop** succeeds with any files, and each of them is in its package. -/
theorem addModules_hasPackages (root : Path) (language separator : String) (files : List SourceFile) :
    Succeeds ((empty root language).addModules separator true files) fun r =>
      FilesMapped files r.1 ∧ HasPackages language files r.2 := by
  refine ends_foldlM_done (fun done (r : FileModules × SymbolTable) =>
    FilesMapped done r.1 ∧ HasPackages language done r.2) ⟨fun _ => rfl, hasPackages_empty root language⟩ ?_
  rintro done ⟨modules, t⟩ f ⟨hmapped, hpackages⟩
  refine (hpackages.addPackage f).bind ?_
  rintro ⟨s, t'⟩ ⟨hs, hpackages'⟩
  refine ends_pure ⟨fun path => ?_, hpackages'⟩
  replace hs : s.id = packageOf f := hs
  rw [OrderedMap.get?_insert, hs, hmapped path, List.reverse_concat, List.find?_cons]
  by_cases h : f.path = path <;> simp [h]

/-! ## What grouping means -/

/-- The symbols of packages. -/
def packages (t : SymbolTable) : List Symbol := t.symbols.values.filter fun s => s.kind = "package"

/-- The name of the package of a module path; the empty path has one as well. -/
def titleOfPackage (modulePath : String) : String := if modulePath = "" then "(default)" else modulePath

/-- A symbol lists some files and has their lines. -/
structure Gathers (s : Symbol) (members : List SourceFile) : Prop where
  paths : s.metadata.get? "files" = some (.arr (members.map fun f => .str f.path))
  lines : s.metadata.get? "loc" = some (.int (members.map (·.lines)).sum)

/-- Some files are grouped by package. -/
structure Grouped (files : List SourceFile) (modules : FileModules) (t : SymbolTable) : Prop where
  /-- there is one package for each module path -/
  packages : (t.packages.map (·.id)).Perm ((files.map (·.modulePath)).dedup.map titleOfPackage)
  /-- and no two have one identifier -/
  distinct : (t.packages.map (·.id)).Nodup
  /-- a file is mapped to the package of its module path -/
  mapped : ∀ f ∈ files, ∃ s ∈ t.packages, s.id = titleOfPackage f.modulePath ∧ modules.get? f.path = some s.id
  /-- a package lists the files that are mapped to it, each of them once, and adds up the lines of what it lists -/
  once : ∀ s ∈ t.packages, ∃ members, members.Sublist files ∧ Gathers s members ∧
    ∀ f ∈ files, (members.map (·.path)).count f.path = if modules.get? f.path = some s.id then 1 else 0

/-! ## The packages of the table -/

/-- What the symbol of a package says is what its files say. -/
theorem gathers_packageSymbol (language package : String) (members : List SourceFile) :
    Gathers (packageSymbol language package members) members :=
  ⟨get?_files_packageSymbol language package members, get?_loc_packageSymbol language package members⟩

/-- The symbol under a name, if files of this package have come. -/
theorem packageSymbol?_eq_some_iff {s : Symbol} : packageSymbol? language files package = some s ↔
    package ∈ files.map packageOf ∧ s = packageSymbol language package (filesIn files package) := by
  unfold packageSymbol?
  split
  · next h => simp [h, eq_comm]
  · next h => simp [h]

/-- What is in the table are the packages of the files. -/
theorem HasPackages.mem_values_iff (h : HasPackages language files t) (s : Symbol) : s ∈ t.symbols.values ↔
    s.id ∈ files.map packageOf ∧ s = packageSymbol language s.id (filesIn files s.id) := by
  rw [h.sound.mem_values_iff, h.symbols, packageSymbol?_eq_some_iff]

/-- There is nothing but packages in the table. -/
theorem HasPackages.packages_eq_values (h : HasPackages language files t) : t.packages = t.symbols.values := by
  refine List.filter_eq_self.2 fun s hs => decide_eq_true ?_
  rw [((h.mem_values_iff s).1 hs).2]
  rfl

theorem HasPackages.nodup_ids (h : HasPackages language files t) : (t.packages.map (·.id)).Nodup := by
  rw [h.packages_eq_values, h.sound.map_id_values]
  exact h.sound.distinct

/-- There is a package for each name that files are grouped under, and for no other. -/
theorem HasPackages.mem_ids_iff (h : HasPackages language files t) (id : String) :
    id ∈ t.packages.map (·.id) ↔ id ∈ files.map packageOf := by
  rw [h.packages_eq_values, h.sound.map_id_values, ← OrderedMap.contains_iff, OrderedMap.contains, h.symbols,
    Option.isSome_iff_exists]
  simp only [packageSymbol?_eq_some_iff, exists_and_left, exists_eq, and_true]

/-- Unless a module path is spelled like the name of the default package, module paths and packages are the same. -/
theorem titleOfPackage_inj {m m' : String} (hm : m ≠ "(default)") (hm' : m' ≠ "(default)")
    (heq : titleOfPackage m = titleOfPackage m') : m = m' := by
  unfold titleOfPackage at heq
  split at heq <;> split at heq
  · next h h' => rw [h, h']
  · exact absurd heq.symm hm'
  · exact absurd heq hm
  · exact heq

/-- As long as no module path is spelled like the name for files without one, different module paths have different
    packages. -/
theorem HasPackages.ids_perm (h : HasPackages language files t)
    (hdefault : ∀ f ∈ files, f.modulePath ≠ "(default)") :
    (t.packages.map (·.id)).Perm ((files.map (·.modulePath)).dedup.map titleOfPackage) := by
  have hnodup : ((files.map (·.modulePath)).dedup.map titleOfPackage).Nodup := by
    refine List.Nodup.map_on (fun m hm m' hm' heq => ?_) (List.nodup_dedup _)
    obtain ⟨f, hf, rfl⟩ := List.mem_map.1 (List.mem_dedup.1 hm)
    obtain ⟨f', hf', rfl⟩ := List.mem_map.1 (List.mem_dedup.1 hm')
    exact titleOfPackage_inj (hdefault f hf) (hdefault f' hf') heq
  refine (List.perm_ext_iff_of_nodup h.nodup_ids hnodup).2 fun id => ?_
  have hname : packageOf = titleOfPackage ∘ (·.modulePath) := rfl
  rw [h.mem_ids_iff, hname, ← List.map_map, List.mem_map, List.mem_map]
  simp only [List.mem_dedup]

/-! ## The files of a package -/

/-- A path that only one file has is mapped to the package of this file. -/
theorem FilesMapped.get?_of_nodup {modules : FileModules} (h : FilesMapped files modules)
    (hpaths : (files.map (·.path)).Nodup) (hf : f ∈ files) : modules.get? f.path = some (packageOf f) := by
  rw [h]
  cases hfound : files.reverse.find? fun g => g.path = f.path with
  | none => exact absurd (List.find?_eq_none.1 hfound f (List.mem_reverse.2 hf)) (by simp)
  | some g =>
    have hg : g ∈ files := List.mem_reverse.1 (List.mem_of_find?_eq_some hfound)
    have hpath : g.path = f.path := by simpa using List.find?_some hfound
    rw [List.inj_on_of_nodup_map hpaths hg hf hpath]
    rfl

/-- If no two files have one path then a path is listed once by the package of its file, and by no other. -/
theorem count_filesIn (hpaths : (files.map (·.path)).Nodup) (hf : f ∈ files) (package : String) :
    ((filesIn files package).map (·.path)).count f.path = if packageOf f = package then 1 else 0 := by
  have hsub : (filesIn files package).Sublist files := List.filter_sublist
  rw [List.Nodup.count ((hsub.map _).nodup hpaths)]
  refine if_congr ?_ rfl rfl
  constructor
  · intro hlisted
    obtain ⟨g, hg, hpath⟩ := List.mem_map.1 hlisted
    obtain ⟨hg, hpackage⟩ := List.mem_filter.1 hg
    -- a file that is listed under this path is the file itself
    rw [← List.inj_on_of_nodup_map hpaths hg hf hpath]
    exact of_decide_eq_true hpackage
  · exact fun hpackage => List.mem_map_of_mem (List.mem_filter.2 ⟨hf, decide_eq_true hpackage⟩)

/-- **Files are grouped by package.**  There is one package for each module path, each file is listed once, by the
    package that it is mapped to, and the lines of the files are added up. -/
theorem grouped_addModules (root : Path) (language separator : String) (files : List SourceFile)
    (hpaths : (files.map (·.path)).Nodup) (hdefault : ∀ f ∈ files, f.modulePath ≠ "(default)") :
    ∃ modules t, (empty root language).addModules separator true files = .ok (modules, t) ∧
      Grouped files modules t := by
  obtain ⟨⟨modules, t⟩, hok, hmapped, hpackages⟩ := (addModules_hasPackages root language separator files).exists_ok
  have hget : ∀ f ∈ files, modules.get? f.path = some (packageOf f) := fun f hf => hmapped.get?_of_nodup hpaths hf
  refine ⟨modules, t, hok, hpackages.ids_perm hdefault, hpackages.nodup_ids, fun f hf => ?_, fun s hs => ?_⟩
  · have hid := (hpackages.mem_ids_iff (packageOf f)).2 (List.mem_map_of_mem hf)
    obtain ⟨s, hs, hid⟩ := List.mem_map.1 hid
    exact ⟨s, hs, hid, by rw [hget f hf, hid]⟩
  · rw [hpackages.packages_eq_values, hpackages.mem_values_iff] at hs
    refine ⟨filesIn files s.id, List.filter_sublist, ?_, fun f hf => ?_⟩
    · have hgathers := gathers_packageSymbol language s.id (filesIn files s.id)
      rwa [← hs.2] at hgathers
    · rw [count_filesIn hpaths hf, hget f hf]
      simp only [Option.some.injEq]

/-- Two packages in turn, one of them that of the files without a package. -/
def interleaved : List SourceFile :=
  [⟨"acme/Cart.java", "Cart.java", 30, "acme", "java", [], [], false⟩,
    ⟨"Main.java", "Main.java", 12, "", "java", [], [], false⟩,
    ⟨"acme/Order.java", "Order.java", 41, "acme", "java", [], [], false⟩,
    ⟨"Tool.java", "Tool.java", 7, "", "java", [], [], false⟩]

/-- Files of a package and files without a module path, by turns. -/
theorem grouped_interleaved :
    (interleaved.map (·.path)).Nodup ∧ (∀ f ∈ interleaved, f.modulePath ≠ "(default)") ∧
      ∃ modules t, (empty (Path.ofString "/shop") "java").addModules "." true interleaved = .ok (modules, t) ∧
        Grouped interleaved modules t :=
  ⟨by decide, by decide, grouped_addModules _ _ _ interleaved (by decide) (by decide)⟩

example : ((empty (Path.ofString "/shop") "java").addModules "." true interleaved).toOption.map
      (fun r => r.2.packages.map fun s => (s.id, s.metadata.get? "loc")) =
    some [("acme", some (.int 71)), ("(default)", some (.int 19))] := by
  decide +kernel

end SymbolTable

end CodeAtlas
