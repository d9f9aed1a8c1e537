import CodeAtlas.Proofs.Extraction.Outcomes
import CodeAtlas.Proofs.Extraction.Scoping
import CodeAtlas.Proofs.Resolution.Phases
import CodeAtlas.Proofs.Resolution.Totality
/-!
  What refers to a type leads to a type of the same file.

  `Whole` is what a whole file declares: one record of the file, and parts that fit together with nothing around
  them.  `Closed` spells out what this means for the references, and `Parsed` are the declarations of any files, in
  whatever language, merged in any order.  Merging keeps the references of a file inside of the file.  So when the
  declarations are resolved, nothing is left out for want of the type that it belongs to.

  1. **One file**: what the extraction of each language gives is scoped by what is around it (`Scoped`), and a whole
     file has nothing around it, so each reference leads to a type that was declared (`Whole.closed`).
  2. **Merged files** (`Coherent`): references name the file that they are in, so records of other files do not matter
     to them, and merging can be taken one file at a time.
  3. **Nothing is left out**: the phases pass over a record if its type is not recorded (`Attached`), and in coherent
     declarations every type that a record belongs to is recorded.
-/
namespace CodeAtlas

open Fault

/-! ## One file -/

/-- The qualified name of a type at the top of a file of a module.  In Java a file may be in no package, and its types
    have bare names then. -/
def Language.topName : Language → String → String → String
  | .java => Java.qualify
  | .python | .typescript | .javascript => fun module name => module ++ "." ++ name

namespace Declarations

/-- What a whole file declares. -/
structure Whole (language : Language) (f : SourceFile) (d : Declarations) : Prop where
  files : d.files = [f]
  parts : d.Scoped f.path f.modulePath (language.topName f.modulePath) none
  names : d.KeepsNames

/-- Parts that are scoped by the module alone, with the record of the file in front of them. -/
theorem Scoped.whole {language : Language} {f : SourceFile} {d : Declarations}
    (h : d.Scoped f.path f.modulePath (language.topName f.modulePath) none) (hinner : d.Inner) :
    Whole language f ({ empty with files := [f] } ++ d) where
  files := by
    show [f] ++ d.files = [f]
    rw [hinner.files]
    rfl
  parts := by
    have hfile : Scoped f.path f.modulePath (language.topName f.modulePath) none { empty with files := [f] } :=
      ⟨(fun _ h => nomatch h), (fun _ h => nomatch h), (fun _ h => nomatch h), fun _ h => nomatch h⟩
    exact hfile.append h
  names r hr := (List.mem_append.1 hr).elim (fun h => nomatch h) (hinner.names r)

/-- The declarations of a file fit together: what refers to a type leads to one of the types of the file. -/
structure Closed (language : Language) (f : SourceFile) (d : Declarations) : Prop where
  /-- a function with an owner is a method of a type, and named after it -/
  functions : ∀ g ∈ d.functions, ∀ o, g.owner = some o →
    g.isMethod = true ∧ g.qualified = o ++ "." ++ g.name ∧ ∃ r ∈ d.types, r.qualified = o
  /-- a field belongs to a type -/
  attributes : ∀ a ∈ d.attributes, ∃ r ∈ d.types, r.qualified = a.owner
  /-- a clause belongs to a type -/
  heritage : ∀ h ∈ d.heritage, ∃ r ∈ d.types, r.qualified = h.source
  /-- a type is named after the module, or after another type -/
  types : ∀ r ∈ d.types, r.qualified = language.topName f.modulePath r.name ∨
    ∃ outer ∈ d.types, outer ≠ r ∧ r.qualified = outer.qualified ++ "." ++ r.name

/-- With nothing around, a name that is known is the name of a declared type. -/
theorem Knows.exists_type {d : Declarations} {name : String} (h : d.Knows none name) :
    ∃ r ∈ d.types, r.qualified = name :=
  h.resolve_left fun h => nomatch h

/-- A name in another one is longer by a dot. -/
theorem length_dotted (outer name : String) : (outer ++ "." ++ name).length = outer.length + 1 + name.length := by
  rw [String.length_append, String.length_append]
  rfl

/-- A name is shorter than what is named after it. -/
theorem ne_dotted (outer name : String) : outer ≠ outer ++ "." ++ name := by
  intro h
  have hlength := congrArg String.length h
  rw [length_dotted] at hlength
  omega

/-- What is known at the top of a file is what the file declares. -/
theorem Whole.closed {language : Language} {f : SourceFile} {d : Declarations} (h : d.Whole language f) :
    d.Closed language f where
  functions g hg o ho := by
    obtain ⟨-, hmethod, hqualified, howner⟩ := h.parts.functions g hg
    rw [ho] at hmethod hqualified
    exact ⟨hmethod, hqualified, (howner o ho).exists_type⟩
  attributes a ha := (h.parts.attributes a ha).owner.exists_type
  heritage c hc := (h.parts.heritage c hc).source.exists_type
  types r hr := by
    refine (h.parts.types r hr).qualified.imp_right ?_
    rintro ⟨name, hname, heq⟩
    obtain ⟨outer, houter, rfl⟩ := hname.exists_type
    refine ⟨outer, houter, ?_, heq⟩
    rintro rfl
    exact ne_dotted _ _ heq

end Declarations

open Declarations

/-! ### All languages -/

/-- The statements of a module are gone through one by one, so the parts are merged from theirs. -/
theorem Python.whole_extract (source : Source) (path root : Path) (file : String) (tree : SyntaxTree) :
    Gives (extract source path root file tree) fun d => ∃ f, f.path = file ∧ d.Whole .python f := by
  refine (ends_anyhow _).bind fun module _ => ?_
  refine (ends_anyhow _).bind fun imports _ => ?_
  refine (ends_anyhow _).bind fun exports _ => ?_
  have hscoped := ends_mapM _ fun t (_ : t ∈ tree.children) => scoped_declared ⟨source, file, module⟩ none none t
  have hinner := ends_mapM Inner fun t (_ : t ∈ tree.children) => decodes_declared ⟨source, file, module⟩ none none t
  refine (hscoped.and hinner.gives).bind fun found hfound => ends_pure ?_
  exact ⟨_, rfl, Scoped.whole (scoped_mergeAll hfound.1) (inner_mergeAll hfound.2)⟩

/-- The types of a file are gone through with the comments that stand before them. -/
theorem Java.whole_extract (source : Source) (path root : Path) (file : String) (tree : SyntaxTree) :
    Gives (extract source path root file tree) fun d => ∃ f, f.path = file ∧ d.Whole .java f := by
  refine (ends_anyhow _).bind fun package _ => ?_
  refine (ends_anyhow _).bind fun module _ => ?_
  refine (ends_anyhow _).bind fun imports _ => ?_
  have hscoped := scoped_topLevel ⟨source, file, module⟩ [] tree.children
  have hinner := decodes_topLevel ⟨source, file, module⟩ [] tree.children
  refine (hscoped.and hinner.gives).bind fun found hfound => ends_pure ?_
  exact ⟨_, rfl, Scoped.whole hfound.1 hfound.2⟩

/-- Imports of scripts have no dots in front, wherever the file is. -/
theorem Script.levels_importOf (c : FileContext) (path root : Path) (t : SyntaxTree) :
    Gives (importOf c path root t) fun is => ∀ i ∈ is, i.level = 0 := by
  unfold importOf
  split
  · exact ends_pure fun i hi => nomatch hi
  · refine (ends_anyhow _).bind fun literal _ => ?_
    refine (ends_anyhow _).bind fun names _ => ?_
    refine (ends_anyhow _).bind fun target _ => ends_pure fun i hi => ?_
    rw [List.mem_singleton.1 hi]

/-- What a statement adds: a part of the file that comes without the file itself. -/
theorem Script.scoped_statement (c : FileContext) (path root : Path) (s : Site) :
    Gives (statement c path root s) fun found =>
      found.declared.Scoped c.file c.modulePath c.inModule none ∧ found.Inner := by
  unfold statement
  split
  · exact (levels_importOf c path root s.tree).map fun imports himports => ⟨scoped_empty, inner_empty, himports⟩
  · exact (scoped_topLevel c false s).and (decodes_topLevel c false s).gives

/-- TypeScript and JavaScript share their extraction.  Types at the top of a file are named after its module there,
    which is not so in Java. -/
theorem Script.whole_extract {language : Language} (hlanguage : language ≠ .java) (source : Source) (path root : Path)
    (file : String) (tree : SyntaxTree) :
    Gives (extract language source path root file tree) fun d => ∃ f, f.path = file ∧ d.Whole language f := by
  refine (ends_anyhow _).bind fun module _ => ?_
  have htop : language.topName module = FileContext.inModule ⟨source, file, module⟩ := by
    cases language with
    | java => exact absurd rfl hlanguage
    | _ => rfl
  have hfound := ends_mapM _ fun s (_ : s ∈ (Site.root tree).children) =>
    scoped_statement ⟨source, file, module⟩ path root s
  refine hfound.bind fun found hfound => ?_
  refine (ends_anyhow _).bind fun required _ => ends_pure ⟨_, rfl, Scoped.whole ?_ ?_⟩
  · rw [htop]
    exact scoped_foldl_both ⟨source, file, module⟩ fun f hf => (hfound f hf).1
  · exact (Found.inner_foldl fun f hf => (hfound f hf).2).declared

/-- **Every file is closed in itself.** -/
theorem Language.whole_extract (language : Language) (source : Source) (path root : Path) (file : String)
    (tree : SyntaxTree) :
    Gives (language.extract source path root file tree) fun d => ∃ f, f.path = file ∧ d.Whole language f := by
  cases language with
  | java => exact Java.whole_extract source path root file tree
  | python => exact Python.whole_extract source path root file tree
  | typescript => exact Script.whole_extract (by decide) source path root file tree
  | javascript => exact Script.whole_extract (by decide) source path root file tree

/-! ## Merged files -/

/-- The parser of a language gives these declarations for some file. -/
def Language.Parses (language : Language) (d : Declarations) : Prop :=
  ∃ source path root projectRoot rel tree, path.below? projectRoot = some rel ∧
    language.extract source path root rel.text tree = .ok d

namespace Declarations

/-- What parsers give, merged; there may be diagnostics about other files. -/
inductive Parsed : Declarations → Prop
  | file {language : Language} {d : Declarations} (h : language.Parses d) : Parsed d
  | diagnostics (diagnostics : List Diagnostic) : Parsed { empty with diagnostics }
  | append {a b : Declarations} (ha : Parsed a) (hb : Parsed b) : Parsed (a ++ b)

/-- Merging many is merging one after the other. -/
theorem parsed_mergeAll {ds : List Declarations} (h : ∀ d ∈ ds, Parsed d) : Parsed (mergeAll ds) := by
  have hfrom : ∀ acc : Declarations, Parsed acc → Parsed (ds.foldl merge acc) := by
    induction ds with
    | nil => exact fun acc hacc => hacc
    | cons d rest ih =>
      intro acc hacc
      obtain ⟨hd, hrest⟩ := List.forall_mem_cons.1 h
      exact ih hrest _ (hacc.append hd)
  exact hfrom empty (.diagnostics [])

end Declarations

/-- The declarations of the files of a workspace come from the parser. -/
theorem Workspace.parsed_declarations (w : Workspace) (language : Language) (projectRoot : Path)
    (files : List (Path × Path)) : Gives (w.declarations language projectRoot files) Parsed := by
  refine (ends_mapM Parsed fun file _ => ?_).map fun ds hds => parsed_mergeAll hds
  unfold declarationsOf
  split
  · next d hd =>
    obtain ⟨bytes, -, hd⟩ := bind_eq_ok_iff.1 hd
    split at hd
    · nomatch hd
    · next rel hrel =>
      simp only at hd
      split at hd
      · nomatch hd
      · exact ends_ok (.file ⟨_, _, _, _, rel, _, hrel, hd⟩)
  · split
    · exact ends_ok (.diagnostics _)
    · exact ends_error trivial

namespace Declarations

/-- There is a type of that name in a file. -/
def HasType (d : Declarations) (file name : String) : Prop := ∃ r ∈ d.types, r.file = file ∧ r.qualified = name

/-- The references of each file lead to types of the same file. -/
structure Coherent (d : Declarations) : Prop where
  files : ∀ f ∈ d.files, f.path ≠ ""
  functions : ∀ g ∈ d.functions, ∃ f ∈ d.files, g.Placed f.path f.modulePath (d.HasType f.path)
  types : ∀ r ∈ d.types, ∃ language : Language, ∃ f ∈ d.files,
    r.Placed f.path (language.topName f.modulePath) (d.HasType f.path)
  attributes : ∀ a ∈ d.attributes, ∃ f ∈ d.files, a.Placed f.path (d.HasType f.path)
  heritage : ∀ h ∈ d.heritage, ∃ f ∈ d.files, h.Placed f.path (d.HasType f.path)
  names : d.KeepsNames

/-- A file that has a path is coherent. -/
theorem Whole.coherent {language : Language} {f : SourceFile} {d : Declarations} (h : d.Whole language f)
    (hpath : f.path ≠ "") : d.Coherent := by
  have hf : f ∈ d.files := by rw [h.files]; exact List.mem_singleton_self f
  have hknown : ∀ name, d.Knows none name → d.HasType f.path name := fun name hname => by
    obtain ⟨r, hr, heq⟩ := hname.exists_type
    exact ⟨r, hr, (h.parts.types r hr).file, heq⟩
  exact
    { files := fun f' hf' => by rw [h.files] at hf'; rw [List.mem_singleton.1 hf']; exact hpath
      functions := fun g hg => ⟨f, hf, (h.parts.functions g hg).mono hknown⟩
      types := fun r hr => ⟨language, f, hf, (h.parts.types r hr).mono hknown⟩
      attributes := fun a ha => ⟨f, hf, (h.parts.attributes a ha).mono hknown⟩
      heritage := fun c hc => ⟨f, hf, (h.parts.heritage c hc).mono hknown⟩
      names := h.names }

/-- With more types around, a type is still there. -/
theorem HasType.of_subset {a b : Declarations} {file name : String} (h : a.HasType file name)
    (hsub : ∀ r ∈ a.types, r ∈ b.types) : b.HasType file name := by
  obtain ⟨r, hr, hrest⟩ := h
  exact ⟨r, hsub r hr, hrest⟩

/-- What refers to a type of its own file does so as well with another file beside it. -/
theorem Coherent.append {a b : Declarations} (ha : a.Coherent) (hb : b.Coherent) : (a ++ b).Coherent := by
  have hleft (file name : String) (h : a.HasType file name) : (a ++ b).HasType file name :=
    h.of_subset fun r => List.mem_append_left _
  have hright (file name : String) (h : b.HasType file name) : (a ++ b).HasType file name :=
    h.of_subset fun r => List.mem_append_right _
  refine ⟨fun f hf => ?_, fun g hg => ?_, fun r hr => ?_, fun x hx => ?_, fun c hc => ?_, fun r hr => ?_⟩
  · exact (List.mem_append.1 hf).elim (ha.files f) (hb.files f)
  · rcases List.mem_append.1 hg with hg | hg
    · obtain ⟨f, hf, hplaced⟩ := ha.functions g hg
      exact ⟨f, List.mem_append_left _ hf, hplaced.mono (hleft f.path)⟩
    · obtain ⟨f, hf, hplaced⟩ := hb.functions g hg
      exact ⟨f, List.mem_append_right _ hf, hplaced.mono (hright f.path)⟩
  · rcases List.mem_append.1 hr with hr | hr
    · obtain ⟨language, f, hf, hplaced⟩ := ha.types r hr
      exact ⟨language, f, List.mem_append_left _ hf, hplaced.mono (hleft f.path)⟩
    · obtain ⟨language, f, hf, hplaced⟩ := hb.types r hr
      exact ⟨language, f, List.mem_append_right _ hf, hplaced.mono (hright f.path)⟩
  · rcases List.mem_append.1 hx with hx | hx
    · obtain ⟨f, hf, hplaced⟩ := ha.attributes x hx
      exact ⟨f, List.mem_append_left _ hf, hplaced.mono (hleft f.path)⟩
    · obtain ⟨f, hf, hplaced⟩ := hb.attributes x hx
      exact ⟨f, List.mem_append_right _ hf, hplaced.mono (hright f.path)⟩
  · rcases List.mem_append.1 hc with hc | hc
    · obtain ⟨f, hf, hplaced⟩ := ha.heritage c hc
      exact ⟨f, List.mem_append_left _ hf, hplaced.mono (hleft f.path)⟩
    · obtain ⟨f, hf, hplaced⟩ := hb.heritage c hc
      exact ⟨f, List.mem_append_right _ hf, hplaced.mono (hright f.path)⟩
  · exact (List.mem_append.1 hr).elim (ha.names r) (hb.names r)

/-- **What parsers give is coherent, in whatever order it is merged.** -/
theorem Parsed.coherent {d : Declarations} (h : d.Parsed) : d.Coherent := by
  induction h with
  | file h =>
    obtain ⟨source, path, root, projectRoot, rel, tree, -, h⟩ := h
    obtain ⟨f, hpath, hwhole⟩ := (Language.whole_extract _ source path root rel.text tree).of_ok h
    exact hwhole.coherent (hpath ▸ rel.text_ne_empty)
  | diagnostics diagnostics =>
    exact ⟨(fun _ h => nomatch h), (fun _ h => nomatch h), (fun _ h => nomatch h), (fun _ h => nomatch h),
      (fun _ h => nomatch h), fun _ h => nomatch h⟩
  | append _ _ iha ihb => exact iha.append ihb

/-! ## Nothing is left out -/

open SymbolTable

variable {d : Declarations} {o : ResolutionOptions} {t : SymbolTable}

/-- Whatever belongs to a type finds the symbol of this type, and all relations that it asks for are there. -/
structure Attached (d : Declarations) (s : Scopes) (t : SymbolTable) : Prop where
  functions : ∀ g ∈ d.functions, ∃ source id, t.record? g.file g.qualified = some id ∧
    t.Has source ⟨"defines", id⟩ ∧ ∀ owner, g.owner? = some owner → t.record? g.file owner = some source
  attributes : ∀ a ∈ d.attributes, ∃ source, t.record? a.file a.owner = some source ∧
    ∀ declaredType, nonEmptyText a.declaredType = some declaredType → ∀ name ∈ Scopes.identifiers declaredType,
      ∀ target, s.resolveType t name a.file (some a.owner) = .ok (some target) → target ≠ source →
        t.Has source ⟨"uses", target⟩
  heritage : ∀ c ∈ d.heritage, ∃ source, t.record? c.file c.source = some source ∧
    (clauseType s t c = .ok none → t.Has source ⟨c.kind, c.target⟩) ∧
    ∀ target, clauseType s t c = .ok (some target) → target ≠ source →
      t.Has source ⟨clauseKind t c source target, target⟩

theorem Indexed.exists_record {modules : FileModules} {functions : List NamedFunction} {file name : String}
    (h : d.Indexed o modules functions t) (htype : d.HasType file name) : ∃ id, t.record? file name = some id := by
  obtain ⟨r, hr, rfl, rfl⟩ := htype
  exact Option.isSome_iff_exists.1 ((h.known r.file r.qualified).2 (.inr (.inl ⟨r, hr, rfl⟩)))

/-- Every type that a record belongs to is recorded, so no record is passed over in any phase. -/
theorem Coherent.attached (h : d.Coherent) {x : Setting} (hx : d.Linked o x t) : d.Attached x.scopes t := by
  have hindexed := hx.indexed
  have hrecord := record?_congr hx.bare
  refine ⟨fun g hg => ?_, fun a ha => ?_, fun c hc => ?_⟩
  · obtain ⟨f, hf, rfl⟩ := List.mem_map.1 ((hindexed.records g).2 hg)
    obtain ⟨file, hfile, hplaced⟩ := h.functions f.record hg
    have hdefines {source : String} (hsource : x.table.aroundFunction x.modules f.record = some source) :
        t.Has source ⟨"defines", f.id⟩ :=
      hx.has _ _ (.containsFunction hf ⟨hsource, rfl⟩)
    rw [hrecord]
    cases howner : f.record.owner? with
    | some owner =>
      have hmem : owner ∈ f.record.owner := (Option.filter_eq_some_iff.1 howner).1
      obtain ⟨source, hsource⟩ := hindexed.exists_record (hplaced.owner owner hmem)
      rw [← hplaced.file] at hsource
      refine ⟨source, f.id, hindexed.ids f hf, hdefines ?_, fun _ heq => Option.some.inj heq ▸ hsource⟩
      rw [aroundFunction, howner, Option.bind_some, hsource]
      rfl
    | none =>
      obtain ⟨module, hmodule⟩ := Option.isSome_iff_exists.1 (hindexed.complete file hfile)
      rw [← hplaced.file] at hmodule
      refine ⟨module, f.id, hindexed.ids f hf, hdefines ?_, fun _ heq => nomatch heq⟩
      rw [aroundFunction, howner]
      exact hmodule
  · obtain ⟨file, -, hplaced⟩ := h.attributes a ha
    obtain ⟨source, hsource⟩ := hindexed.exists_record (hplaced.owner)
    rw [← hplaced.file] at hsource
    refine ⟨source, by rw [hrecord]; exact hsource, fun declaredType htype name hname target htarget hne => ?_⟩
    rw [resolveType_congr hx.bare] at htarget
    exact hx.has _ _ (.usesField ha ⟨hsource, declaredType, htype, name, hname, target, htarget, hne, rfl⟩)
  · obtain ⟨file, -, hplaced⟩ := h.heritage c hc
    obtain ⟨source, hsource⟩ := hindexed.exists_record (hplaced.source)
    rw [← hplaced.file] at hsource
    unfold clauseType
    rw [hrecord, resolveType_congr hx.bare]
    refine ⟨source, hsource, fun hnone => ?_, fun target htarget hne => ?_⟩
    · exact hx.has _ _ (.inherits hc ⟨hsource, .inl ⟨hnone, rfl⟩⟩)
    · rw [clauseKind_congr hx.bare]
      exact hx.has _ _ (.inherits hc ⟨hsource, .inr ⟨target, htarget, hne, rfl⟩⟩)

/-- **What a parser gives is closed, and nothing is left out when it is resolved.** All that a function, a field or a
    clause of a file refers to is declared in this file, and after merging with any other files the resolver passes
    over none of these records. -/
theorem closed_of_parsed :
    (∀ (language : Language) (source : Source) (path root : Path) (file : String) (tree : SyntaxTree)
        (d : Declarations), language.extract source path root file tree = .ok d →
        ∃ f, d.files = [f] ∧ f.path = file ∧ d.Closed language f) ∧
    ∀ (d : Declarations) (o : ResolutionOptions) (t : SymbolTable), d.Parsed → d.related o = .ok t →
      ∃ x, d.setting o = .ok x ∧ d.Attached x.scopes t := by
  refine ⟨fun language source path root file tree d h => ?_, fun d o t hd h => ?_⟩
  · obtain ⟨f, hpath, hwhole⟩ := (language.whole_extract source path root file tree).of_ok h
    exact ⟨f, hwhole.files, hpath, hwhole.closed⟩
  · obtain ⟨x, hx⟩ := linked_related h
    exact ⟨x, hx.setting, hd.coherent.attached hx⟩

end Declarations

/-! ### Small projects -/

/-- A node that stands for a rule of a grammar. -/
def SyntaxTree.rule (kind field : String) (start stop : Nat) (children : List SyntaxTree) : SyntaxTree :=
  .node kind true false false start stop field children

/-- A file with its text and the statements in it. -/
structure ParsedFile where
  name : String
  text : String
  statements : List SyntaxTree

/-- What a parser gives for a file at the top of a project. -/
def Language.parse (language : Language) (f : ParsedFile) : Except Fault Declarations :=
  language.extract ⟨f.text.toUTF8⟩ ⟨"/", ["p", f.name]⟩ ⟨"/", ["p"]⟩ (Path.text ⟨"", [f.name]⟩)
    (.rule "program" "" 0 f.text.toUTF8.size f.statements)

theorem Language.parsed_parse {language : Language} {f : ParsedFile} {d : Declarations} (h : language.parse f = .ok d) :
    d.Parsed :=
  .file ⟨_, ⟨"/", ["p", f.name]⟩, _, ⟨"/", ["p"]⟩, ⟨"", [f.name]⟩, _, Path.below?_append ⟨"/", ["p"]⟩ [f.name], h⟩

namespace Declarations

/-- A method of a class inside of another one. -/
def nestedFile : ParsedFile :=
  { name := "a.py"
    text := "class A:\n  class B:\n    def m(self): pass\n"
    statements := [
      .rule "class_definition" "" 0 41 [.rule "identifier" "name" 6 7 [], .rule "block" "body" 11 41 [
        .rule "class_definition" "" 11 41 [.rule "identifier" "name" 17 18 [], .rule "block" "body" 24 41 [
          .rule "function_definition" "" 24 41 [.rule "identifier" "name" 28 29 []]]]]]] }

/-- A class in a class, and a method of the inner one. -/
theorem closed_nested : ∃ d t, Language.python.parse nestedFile = .ok d ∧ d.related (plainOptions "python") = .ok t ∧
    d.types.map (·.qualified) = ["a.A", "a.A.B"] ∧ d.functions.map (·.owner) = [some "a.A.B"] ∧
      (∃ f, d.files = [f] ∧ f.path = "a.py" ∧ d.Closed .python f) ∧
      ∃ x, d.setting (plainOptions "python") = .ok x ∧ d.Attached x.scopes t := by
  have hresult : (Language.python.parse nestedFile).map (fun d =>
      (d.types.map (·.qualified), d.functions.map (·.owner), decide (d.HasDots .dotted))) =
      .ok (["a.A", "a.A.B"], [some "a.A.B"], true) := by decide +kernel
  obtain ⟨d, hd, hrest⟩ := map_eq_ok_iff.1 hresult
  obtain ⟨htypes, hrest⟩ := Prod.mk.inj hrest
  obtain ⟨hfunctions, hdots⟩ := Prod.mk.inj hrest
  have hparsed := Language.parsed_parse hd
  obtain ⟨t, ht, -⟩ := (related_succeeds (o := plainOptions "python") hparsed.coherent.names (of_decide_eq_true hdots)
    (by decide)).exists_ok
  refine ⟨d, t, hd, ht, htypes, hfunctions, ?_, closed_of_parsed.2 d _ t hparsed ht⟩
  obtain ⟨f, hfile, hpath, hclosed⟩ := closed_of_parsed.1 _ _ _ _ _ _ d hd
  exact ⟨f, hfile, hpath, hclosed⟩

end Declarations

end CodeAtlas
