import CodeAtlas.Proofs.Resolution.Table
import CodeAtlas.Resolution
/-!
  The symbols of some declarations can always be made.

  Modules, types and functions are added one after the other.  Adding never fails, so there are two other things to
  see to.  The title of a module is cut out of its name at a separator, which must not be empty.  And the symbol of
  a package is extended by the files that come later, so it must have the data that the first one gave it.

  `Built` is what the later phases start from: every identifier that they were handed belongs to a symbol, every
  symbol has each of its relations once, and every type knows its qualified name.
-/
namespace CodeAtlas

open Fault

namespace Symbol

/-- What is asked of every symbol. -/
structure Regular (s : Symbol) : Prop where
  /-- no relation is there twice -/
  relations : s.relations.Nodup
  /-- a type knows its qualified name -/
  named : SymbolTable.typeKinds.contains s.kind = true →
    ∃ name, s.metadata.get? "qualified_name" = some (.str name)

/-- A package lists its files and adds up their lines. -/
def Packaged (s : Symbol) : Prop :=
  s.kind = "package" →
    ∃ files lines, s.metadata.get? "files" = some (.arr files) ∧ s.metadata.get? "loc" = some (.int lines)

/-- A relation that is there already is not added again. -/
theorem nodup_relations_relate (s : Symbol) (h : s.relations.Nodup) (kind target : String) :
    (s.relate kind target).relations.Nodup := by
  unfold Symbol.relate
  split
  · exact h
  · next hnew =>
    refine List.nodup_append.2 ⟨h, List.pairwise_singleton _ _, ?_⟩
    rintro r hr r' hr' rfl
    rw [List.mem_singleton] at hr'
    subst hr'
    exact hnew (List.contains_iff_mem.2 hr)

theorem Regular.relate {s : Symbol} (h : s.Regular) (kind target : String) : (s.relate kind target).Regular := by
  refine ⟨s.nodup_relations_relate h.relations kind target, ?_⟩
  unfold Symbol.relate
  split <;> exact h.named

theorem id_relate (s : Symbol) (kind target : String) : (s.relate kind target).id = s.id := by
  unfold relate
  split <;> rfl

end Symbol

/-- The data that come with a type. -/
def TypeForm.metadata : TypeForm → Metadata
  | .class _ _ metadata => metadata
  | .interface _ | .enumeration _ => .empty

namespace SymbolTable

variable {t : SymbolTable}

/-! ## New symbols -/

/-- A new symbol knows its qualified name, unless the data of the declaration say something else. -/
theorem get?_qualified_symbolOf (t : SymbolTable) (e : Entry) (h : e.metadata.get? "qualified_name" = none) :
    (t.symbolOf e).metadata.get? "qualified_name" = some (.str e.qualified) := by
  show (Metadata.update _ _).get? _ = _
  rw [Metadata.get?_update_of_eq_none h]
  simp [Metadata.ofList, Metadata.get?_set]

/-- A new symbol has no relations, and its qualified name stands among its metadata. -/
theorem regular_symbolOf (t : SymbolTable) (e : Entry)
    (h : typeKinds.contains e.kind = true → e.metadata.get? "qualified_name" = none) :
    (t.symbolOf e).Regular :=
  ⟨List.nodup_nil, fun hkind => ⟨_, get?_qualified_symbolOf t e (h hkind)⟩⟩

/-! ## Modules and packages -/

/-- The module of a file can be added as long as there is a separator to cut its name at. -/
theorem addModule_succeeds (h : t.Holds fun s => s.Regular ∧ s.Packaged) {separator : String}
    (hseparator : separator ≠ "") (f : SourceFile) :
    Succeeds (addModule separator t f) (Added (fun s => s.Regular ∧ s.Packaged) t) := by
  unfold addModule titleOfModule
  rw [if_neg hseparator]
  have htype : typeKinds.contains "module" = false := by decide
  have hpackage : ("module" : String) ≠ "package" := by decide
  refine h.add _ ⟨regular_symbolOf t _ fun hkind => ?_, fun hkind => absurd hkind hpackage⟩
  rw [htype] at hkind
  exact absurd hkind Bool.false_ne_true

/-- A package can be extended. -/
theorem extendPackage_succeeds {s : Symbol} (hregular : s.Regular) (hpackaged : s.Packaged) (hkind : s.kind = "package")
    (f : SourceFile) : Succeeds (extendPackage s f) fun s' => s'.id = s.id ∧ s'.Regular ∧ s'.Packaged := by
  obtain ⟨files, lines, hfiles, hlines⟩ := hpackaged hkind
  unfold extendPackage
  rw [hfiles, hlines]
  refine ends_pure ⟨rfl, ⟨hregular.relations, fun htype => ?_⟩, fun _ => ?_⟩
  · have hno : typeKinds.contains "package" = false := by decide
    rw [hkind, hno] at htype
    exact absurd htype Bool.false_ne_true
  · exact ⟨files ++ [.str f.path], lines + f.lines, by simp [Metadata.get?_set], by simp [Metadata.get?_set]⟩

/-- A later file extends the symbol of its package, so this symbol must have a list of files and a number of lines.  It
    got both from the first file. -/
theorem addPackage_succeeds (h : t.Holds fun s => s.Regular ∧ s.Packaged) (f : SourceFile) :
    Succeeds (addPackage t f) (Added (fun s => s.Regular ∧ s.Packaged) t) := by
  unfold addPackage
  simp only
  split
  · next id hid =>
    obtain ⟨hlookup, hkind⟩ := Option.filter_eq_some_iff.1 hid
    have hthere := h.sound.qualified _ _ hlookup
    obtain ⟨s, hs, hsymbol⟩ := exists_symbol hthere
    -- the symbol was found by its kind, so it is a package and has the data of one
    have hpackage : s.kind = "package" := by simpa [kindOf?, hs] using hkind
    obtain ⟨hregular, hpackaged⟩ := h.symbols id s hs
    rw [hsymbol]
    refine (extendPackage_succeeds hregular hpackaged hpackage f).bind ?_
    rintro s' ⟨hsame, hs'⟩
    have hs'id : s'.id = id := hsame.trans (h.sound.keyed id s hs)
    refine ends_pure ⟨h.replace hs'id hs', fun id' hid' => ?_, ?_⟩
    · rw [OrderedMap.contains_insert, hid', Bool.or_true]
    · rw [OrderedMap.contains_insert, hs'id, decide_eq_true rfl, Bool.true_or]
  · have hno : typeKinds.contains "package" = false := by decide
    refine h.add _ ⟨regular_symbolOf t _ fun hkind => ?_, fun _ => ⟨[.str f.path], f.lines, rfl, rfl⟩⟩
    rw [hno] at hkind
    exact absurd hkind Bool.false_ne_true

/-- The modules of some files. -/
structure HasModules (files : List SourceFile) (modules : FileModules) (t : SymbolTable) : Prop where
  table : t.Holds fun s => s.Regular ∧ s.Packaged
  /-- modules have symbols -/
  known : ∀ path id, modules.get? path = some id → t.symbols.contains id = true
  /-- and every file has a module -/
  complete : ∀ f ∈ files, (modules.get? f.path).isSome = true

theorem addModules_succeeds (root : Path) (language : String) {separator : String} (hseparator : separator ≠ "")
    (byPackage : Bool) (files : List SourceFile) :
    Succeeds ((empty root language).addModules separator byPackage files) fun r => HasModules files r.1 r.2 := by
  refine ends_foldlM_done (fun done (r : FileModules × SymbolTable) => HasModules done r.1 r.2) ?_ ?_
  · exact
      { table := holds_empty root language
        known := fun _ _ h => nomatch h
        complete := fun f hf => absurd hf List.not_mem_nil }
  · rintro done ⟨modules, t⟩ f h
    have hnext : ∀ a, Added (fun s => s.Regular ∧ s.Packaged) t a →
        HasModules (done ++ [f]) (modules.insert f.path a.1.id) a.2 := by
      rintro ⟨s, t'⟩ ⟨htable, hgrows, hs⟩
      refine ⟨htable, fun path id hid => ?_, fun f' hf' => ?_⟩
      -- an identifier is that of the new module, or it was there before
      · rw [OrderedMap.get?_insert] at hid
        split at hid
        · cases hid; exact hs
        · exact hgrows id (h.known path id hid)
      · rw [OrderedMap.get?_insert]
        split
        · rfl
        · next hne =>
          rcases List.mem_append.1 hf' with hf' | hf'
          · exact h.complete f' hf'
          · rw [List.mem_singleton.1 hf'] at hne
            exact absurd rfl hne
    cases byPackage with
    | true => exact (addPackage_succeeds h.table f).bind fun a ha => ends_pure (hnext a ha)
    | false => exact (addModule_succeeds h.table hseparator f).bind fun a ha => ends_pure (hnext a ha)

/-! ## Types and functions -/

/-- What all declarations have says nothing of qualified names, which would hide their own. -/
theorem get?_commonMetadata (visibility : String) (doc : Option String) (endLine : Option Int) :
    (commonMetadata visibility doc endLine).get? "qualified_name" = none := by
  unfold commonMetadata
  cases doc <;> cases endLine <;>
    simp [Metadata.get?_set, Metadata.get?_setIf, Metadata.ofList, Metadata.get?_empty]

/-- What is said about a type does not touch its qualified name, unless its own data do. -/
theorem get?_typeMetadata {r : TypeRecord} (h : r.form.metadata.get? "qualified_name" = none) (isTest : Bool) :
    (typeMetadata r isTest).get? "qualified_name" = none := by
  unfold typeMetadata
  cases hform : r.form with
  | «class» kind bases metadata =>
    rw [hform] at h
    change metadata.get? "qualified_name" = none at h
    simp [Metadata.get?_setIf, Metadata.get?_update_of_eq_none h, get?_commonMetadata]
  | interface kind => simp [Metadata.get?_setIf, get?_commonMetadata]
  | enumeration variants => simp [Metadata.get?_setIf, get?_commonMetadata]

/-- Types can be added whatever was added before them. -/
theorem addTypes_succeeds (h : t.Holds Symbol.Regular) (testFiles : List String) {types : List TypeRecord}
    (hnames : ∀ r ∈ types, r.form.metadata.get? "qualified_name" = none) :
    Succeeds (t.addTypes testFiles types) fun t' => t'.Holds Symbol.Regular ∧ t.Grows t' := by
  refine ends_foldlM (fun t' => t'.Holds Symbol.Regular ∧ t.Grows t') ⟨h, Grows.refl t⟩ ?_
  rintro t' r hr ⟨h', hgrows⟩
  refine (h'.add _ (regular_symbolOf t' _ fun _ => get?_typeMetadata (hnames r hr) _)).map ?_
  rintro ⟨s, t''⟩ ⟨h'', hgrows', -⟩
  exact ⟨h'', hgrows.trans hgrows'⟩

/-- So can functions, and each one knows its identifier then. -/
theorem addFunctions_succeeds (h : t.Holds Symbol.Regular) (testFiles : List String)
    (functions : List FunctionRecord) :
    Succeeds (t.addFunctions testFiles functions) fun r =>
      r.2.Holds Symbol.Regular ∧ t.Grows r.2 ∧ ∀ f ∈ r.1, r.2.symbols.contains f.id = true := by
  refine ends_foldlM (fun r : List NamedFunction × SymbolTable =>
    r.2.Holds Symbol.Regular ∧ t.Grows r.2 ∧ ∀ f ∈ r.1, r.2.symbols.contains f.id = true) ?_ ?_
  · exact ⟨h, Grows.refl t, fun f hf => absurd hf List.not_mem_nil⟩
  · rintro ⟨named, t'⟩ f _ ⟨h', hgrows, hnamed⟩
    have hkind : typeKinds.contains (functionEntry testFiles f).kind = false := by
      show typeKinds.contains (if f.owner?.isSome then "method" else "function") = false
      split <;> decide
    refine (h'.add _ (regular_symbolOf t' (functionEntry testFiles f) fun htype => ?_)).bind ?_
    · rw [hkind] at htype
      exact absurd htype Bool.false_ne_true
    · rintro ⟨s, t''⟩ ⟨h'', hgrows', hs⟩
      refine ends_pure ⟨h'', hgrows.trans hgrows', fun g hg => ?_⟩
      rcases List.mem_append.1 hg with hg | hg
      · exact hgrows' g.id (hnamed g hg)
      · rw [List.mem_singleton.1 hg]
        exact hs

/-! ## All symbols -/

/-- What the symbols of some files are when the relations are to be found. -/
structure Built (files : List SourceFile) (modules : FileModules) (functions : List NamedFunction)
    (t : SymbolTable) : Prop where
  table : t.Holds Symbol.Regular
  knownModules : ∀ path id, modules.get? path = some id → t.symbols.contains id = true
  complete : ∀ f ∈ files, (modules.get? f.path).isSome = true
  knownFunctions : ∀ f ∈ functions, t.symbols.contains f.id = true

end SymbolTable

namespace Declarations

open SymbolTable

/-- No data of a type say something else about its qualified name. -/
def KeepsNames (d : Declarations) : Prop := ∀ r ∈ d.types, r.form.metadata.get? "qualified_name" = none

instance (d : Declarations) : Decidable d.KeepsNames :=
  inferInstanceAs (Decidable (∀ r ∈ d.types, r.form.metadata.get? "qualified_name" = none))

theorem mem_types_of_mem_sortedTypes {d : Declarations} {r : TypeRecord} (h : r ∈ d.sortedTypes) : r ∈ d.types := by
  rw [sortedTypes, List.mem_mergeSort, List.mem_append, List.mem_append] at h
  rcases h with (h | h) | h
  all_goals exact (List.mem_filter.1 h).1

/-- **The symbols can always be made.** -/
theorem symbols_succeeds {d : Declarations} {o : ResolutionOptions} (hnames : d.KeepsNames)
    (hseparator : o.separator ≠ "") :
    Succeeds (d.symbols o) fun r => Built d.sortedFiles r.1 r.2.1 r.2.2 := by
  refine (addModules_succeeds _ _ hseparator o.byPackage d.sortedFiles).bind ?_
  rintro ⟨modules, t₁⟩ ⟨htable₁, hmodules, hfiles⟩
  refine (addTypes_succeeds (htable₁.imp fun s hs => hs.1) d.testFiles fun r hr =>
    hnames r (mem_types_of_mem_sortedTypes hr)).bind ?_
  rintro t₂ ⟨htable₂, hgrows₂⟩
  refine (addFunctions_succeeds htable₂ d.testFiles d.sortedFunctions).bind ?_
  rintro ⟨functions, t₃⟩ ⟨htable₃, hgrows₃, hfunctions⟩
  exact ends_pure
    { table := htable₃
      knownModules := fun path id hid => hgrows₃ id (hgrows₂ id (hmodules path id hid))
      complete := hfiles
      knownFunctions := hfunctions }

end Declarations

end CodeAtlas
