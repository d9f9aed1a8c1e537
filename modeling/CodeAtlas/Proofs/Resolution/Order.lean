import CodeAtlas.Proofs.Sorting
import CodeAtlas.Resolution
import Mathlib.Data.Prod.Lex
/-!
  The order in which files were read leaves no trace.

  The declarations of the files are merged one after the other, in the order in which the files were read.  But
  everything is sorted before it is looked at, in most lists by keys that several records of a file share.  Sorting
  leaves such records in the order they came in.  So two things are needed:

    1. a stable sort depends only on the records of each rank, in their order (`mergeSort_eq_of_rank`);
    2. in two merges of the same files each file has the same records in the same order (`Alike`), and records of
       one rank are from one file.

  The list of files with tests is not sorted, but only asked for members.
-/
namespace CodeAtlas

/-! ## The same records in each file -/

/-- Two lists have the same records of each file, in the same order. -/
def SameIn {α : Type} (file : α → String) (xs ys : List α) : Prop :=
  ∀ p, xs.filter (fun a => file a = p) = ys.filter fun a => file a = p

namespace SameIn

variable {α κ : Type} {file : α → String} {xs ys : List α}

theorem mem_iff (h : SameIn file xs ys) (a : α) : a ∈ xs ↔ a ∈ ys := mem_iff_of_filter_rank h a

/-- Leaving out records of one kind in both keeps this. -/
theorem filter (h : SameIn file xs ys) (p : α → Bool) : SameIn file (xs.filter p) (ys.filter p) := fun k => by
  rw [List.filter_comm, h k, List.filter_comm]

/-- So does putting more of the same behind both. -/
theorem append {xs' ys' : List α} (h : SameIn file xs ys) (h' : SameIn file xs' ys') :
    SameIn file (xs ++ xs') (ys ++ ys') := fun k => by
  rw [List.filter_append, List.filter_append, h k, h' k]

/-- Sorted by a rank that tells the files apart, the lists are equal. -/
theorem mergeSort_eq [LinearOrder κ] (h : SameIn file xs ys) {le : α → α → Bool} (rank : α → κ)
    (fileOf : κ → String) (hfile : ∀ a, fileOf (rank a) = file a) (hle : ∀ a b, le a b = true ↔ rank a ≤ rank b) :
    xs.mergeSort le = ys.mergeSort le := by
  refine mergeSort_eq_of_rank hle fun k => ?_
  -- the records of a rank are among those of its file
  have hsplit : ∀ zs : List α, zs.filter (fun a => rank a = k) =
      (zs.filter fun a => file a = fileOf k).filter fun a => rank a = k := fun zs => by
    rw [List.filter_filter]
    refine List.filter_congr fun a _ => ?_
    by_cases ha : rank a = k
    · simp [ha, ← hfile]
    · simp [ha]
  rw [hsplit xs, hsplit ys, h]

end SameIn

/-! ## Merging -/

namespace Declarations

/-- All records are from one file. -/
structure OfFile (path : String) (d : Declarations) : Prop where
  files : ∀ f ∈ d.files, f.path = path
  functions : ∀ f ∈ d.functions, f.file = path
  types : ∀ r ∈ d.types, r.file = path
  heritage : ∀ h ∈ d.heritage, h.file = path
  attributes : ∀ a ∈ d.attributes, a.file = path
  diagnostics : ∀ x ∈ d.diagnostics, x.path = path

/-- The same records in each file. -/
structure Alike (d d' : Declarations) : Prop where
  files : SameIn SourceFile.path d.files d'.files
  functions : SameIn FunctionRecord.file d.functions d'.functions
  types : SameIn TypeRecord.file d.types d'.types
  heritage : SameIn Heritage.file d.heritage d'.heritage
  attributes : SameIn AttributeRecord.file d.attributes d'.attributes
  diagnostics : SameIn Diagnostic.path d.diagnostics d'.diagnostics

/-- Merging joins the lists. -/
theorem mergeAll_eq (ds : List Declarations) :
    mergeAll ds =
      { files := ds.flatMap files, functions := ds.flatMap functions, types := ds.flatMap types
        heritage := ds.flatMap heritage, attributes := ds.flatMap attributes
        diagnostics := ds.flatMap diagnostics } := by
  have hfold : ∀ acc : Declarations, ds.foldl merge acc = acc.merge
      { files := ds.flatMap files, functions := ds.flatMap functions, types := ds.flatMap types
        heritage := ds.flatMap heritage, attributes := ds.flatMap attributes
        diagnostics := ds.flatMap diagnostics } := by
    induction ds with
    | nil => intro acc; simp [merge]
    | cons d rest ih => intro acc; rw [List.foldl_cons, ih]; simp [merge]
  rw [mergeAll, hfold]
  simp [merge, empty]

variable {α : Type} {rs rs' : List (String × Declarations)}

/-- Of results with distinct files at most one is for a file, wherever it stands. -/
theorem filter_file_eq_of_perm (hperm : rs.Perm rs') (hdistinct : (rs.map (·.1)).Nodup) (p : String) :
    rs.filter (fun r => r.1 = p) = rs'.filter fun r => r.1 = p := by
  have hfiltered : (rs.filter fun r => r.1 = p).Perm (rs'.filter fun r => r.1 = p) := hperm.filter _
  have hnodup : ((rs.filter fun r => r.1 = p).map (·.1)).Nodup := hdistinct.sublist (List.filter_sublist.map _)
  have hall : ∀ r ∈ rs.filter fun r => r.1 = p, r.1 = p := fun r hr => of_decide_eq_true (List.mem_filter.1 hr).2
  -- the rest of a permutation of at most one element is the same list
  match h : rs.filter fun r => r.1 = p with
  | [] => rw [h] at hfiltered; rw [h, hfiltered.symm.eq_nil]
  | [r] => rw [h] at hfiltered; rw [h, List.perm_singleton.1 hfiltered.symm]
  | r :: r' :: rest =>
    rw [h] at hnodup hall
    have hr : r.1 = r'.1 := (hall r (by simp)).trans (hall r' (by simp)).symm
    simp [hr] at hnodup

/-- A list of records of all results has the same ones in each file, in whatever order the results come. -/
theorem sameIn_flatMap (hperm : rs.Perm rs') (hdistinct : (rs.map (·.1)).Nodup) (part : Declarations → List α)
    (file : α → String) (hown : ∀ r ∈ rs, ∀ a ∈ part r.2, file a = r.1) :
    SameIn file ((rs.map (·.2)).flatMap part) ((rs'.map (·.2)).flatMap part) := by
  intro p
  have hpick : ∀ ts : List (String × Declarations), (∀ r ∈ ts, ∀ a ∈ part r.2, file a = r.1) →
      ((ts.map (·.2)).flatMap part).filter (fun a => file a = p) =
        ((ts.filter fun r => r.1 = p).map (·.2)).flatMap part := by
    intro ts hts
    induction ts with
    | nil => rfl
    | cons r rest ih =>
      rw [List.map_cons, List.flatMap_cons, List.filter_append, ih fun s hs => hts s (List.mem_cons_of_mem r hs),
        List.filter_cons]
      have hr := hts r List.mem_cons_self
      by_cases hp : r.1 = p
      · rw [if_pos (by simpa using hp), List.map_cons, List.flatMap_cons,
          List.filter_eq_self.2 fun a ha => by simpa using (hr a ha).trans hp]
      · rw [if_neg (by simpa using hp),
          List.filter_eq_nil_iff.2 fun a ha => by simpa using fun h => hp ((hr a ha).symm.trans h),
          List.nil_append]
  rw [hpick rs hown, hpick rs' fun r hr => hown r (hperm.mem_iff.2 hr),
    filter_file_eq_of_perm hperm hdistinct]

/-- **Two merges of the same results are alike.** -/
theorem alike_mergeAll (hperm : rs.Perm rs') (hdistinct : (rs.map (·.1)).Nodup)
    (hown : ∀ r ∈ rs, r.2.OfFile r.1) : (mergeAll (rs.map (·.2))).Alike (mergeAll (rs'.map (·.2))) := by
  rw [mergeAll_eq, mergeAll_eq]
  exact
    { files := sameIn_flatMap hperm hdistinct files _ fun r hr => (hown r hr).files
      functions := sameIn_flatMap hperm hdistinct functions _ fun r hr => (hown r hr).functions
      types := sameIn_flatMap hperm hdistinct types _ fun r hr => (hown r hr).types
      heritage := sameIn_flatMap hperm hdistinct heritage _ fun r hr => (hown r hr).heritage
      attributes := sameIn_flatMap hperm hdistinct attributes _ fun r hr => (hown r hr).attributes
      diagnostics := sameIn_flatMap hperm hdistinct diagnostics _ fun r hr => (hown r hr).diagnostics }

end Declarations

/-! ## Lines of diagnostics -/

namespace Json

/-- The line of a diagnostic is a whole number or nothing; a truth value is a number as well. -/
def isLine : Json → Bool
  | null | bool _ | int _ => true
  | _ => false

/-- The number of a line, or zero where there is none. -/
def lineNumber : Json → Int
  | bool b => if b then 1 else 0
  | int n => n
  | _ => 0

/-- A line that is missing is compared as a zero. -/
theorem fraction?_of_isLine {v : Json} (h : v.isLine = true) :
    (v.nonEmpty?.getD (.int 0)).fraction? = some (v.lineNumber, 1) := by
  cases v with
  | null => rfl
  | bool b => cases b <;> rfl
  | int n => by_cases hn : n = 0 <;> simp [nonEmpty?, isEmpty, hn, fraction?, lineNumber]
  | _ => nomatch h

/-- Numbers are compared as fractions. -/
theorem order?_of_fraction? {a b : Json} {x y : Int × Nat} (ha : a.fraction? = some x) (hb : b.fraction? = some y) :
    order? a b = some (compareFractions x y) := by
  cases a <;> cases b <;> simp_all [order?, fraction?]

/-- Two lines can be compared, and they are compared as numbers. -/
theorem order?_of_isLine {a b : Json} (ha : a.isLine = true) (hb : b.isLine = true) :
    order? (a.nonEmpty?.getD (.int 0)) (b.nonEmpty?.getD (.int 0)) =
      some (compare a.lineNumber b.lineNumber) := by
  rw [order?_of_fraction? (fraction?_of_isLine ha) (fraction?_of_isLine hb)]
  simp [compareFractions]

end Json

namespace Declarations

open SymbolTable

/-- All lines of diagnostics are lines. -/
def HasLines (d : Declarations) : Prop := ∀ x ∈ d.diagnostics, x.line.isLine = true

instance (d : Declarations) : Decidable d.HasLines :=
  inferInstanceAs (Decidable (∀ x ∈ d.diagnostics, x.line.isLine = true))

/-- The path and the number of a diagnostic, by which they are sorted. -/
def diagnosticRank (x : Diagnostic) : String ×ₗ Int := toLex (x.path, x.line.lineNumber)

/-- First the paths are compared, and then the lines. -/
theorem diagnosticOrder?_eq {a b : Diagnostic} (ha : a.line.isLine = true) (hb : b.line.isLine = true) :
    diagnosticOrder? a b = some (if a.path < b.path then .lt else if b.path < a.path then .gt
      else compare a.line.lineNumber b.line.lineNumber) := by
  rw [diagnosticOrder?, Json.order?_of_isLine ha hb]
  split
  · rfl
  · split <;> rfl

/-- As long as lines can be compared, the order of diagnostics is that of their ranks. -/
theorem diagnosticOrder?_le_iff {a b : Diagnostic} (ha : a.line.isLine = true) (hb : b.line.isLine = true) :
    diagnosticOrder? a b ≠ some .gt ↔ diagnosticRank a ≤ diagnosticRank b := by
  rw [diagnosticOrder?_eq ha hb, diagnosticRank, diagnosticRank, Prod.Lex.toLex_le_toLex]
  rcases lt_trichotomy a.path b.path with h | h | h
  · simp [h]
  · simp [h, ← compare_le_iff_le]
  · simp [h, not_lt_of_gt h, ne_of_gt h]

/-- Diagnostics with lines are sorted by path and number. -/
theorem sortedDiagnostics_eq {d : Declarations} (h : d.HasLines) :
    d.sortedDiagnostics =
      .ok (d.diagnostics.mergeSort fun a b => decide (diagnosticRank a ≤ diagnosticRank b)) := by
  have hall : (d.diagnostics.all fun a => d.diagnostics.all fun b => (diagnosticOrder? a b).isSome) = true := by
    simp only [List.all_eq_true]
    intro a ha b hb
    rw [diagnosticOrder?_eq (h a ha) (h b hb)]
    rfl
  rw [sortedDiagnostics, if_pos hall]
  congr 1
  have hsort := List.map_mergeSort (f := id) (l := d.diagnostics)
    (r := fun a b => decide (diagnosticOrder? a b ≠ some .gt))
    (s := fun a b => decide (diagnosticRank a ≤ diagnosticRank b))
    fun a ha b hb => decide_eq_decide.2 (diagnosticOrder?_le_iff (h a ha) (h b hb))
  simpa using hsort

/-- Once the relations are known, only the diagnostics are left to sort. -/
theorem resolve_of_related {d : Declarations} {o : ResolutionOptions} {t : SymbolTable} (h : d.HasLines)
    (ht : d.related o = .ok t) :
    ∃ diagnostics, d.resolve o = .ok
        { language := o.language, project := o.project, root := o.root, symbols := t.symbols.values, diagnostics } ∧
      diagnostics.Perm d.diagnostics := by
  refine ⟨_, ?_, List.mergeSort_perm d.diagnostics fun a b => decide (diagnosticRank a ≤ diagnosticRank b)⟩
  rw [resolve, ht, sortedDiagnostics_eq h]
  rfl

/-! ## Ranks of records -/

/-- The order of places is the one of pairs. -/
theorem placeLe_iff (file₁ : String) (line₁ : Int) (file₂ : String) (line₂ : Int) :
    placeLe file₁ line₁ file₂ line₂ = true ↔
      (toLex (file₁, line₁) : String ×ₗ Int) ≤ toLex (file₂, line₂) := by
  rw [Prod.Lex.toLex_le_toLex]
  simp only [placeLe, Bool.or_eq_true, Bool.and_eq_true, decide_eq_true_iff]

/-- Clauses are in the order of their file and the type that they belong to. -/
theorem heritageLe_iff (a b : Heritage) :
    heritageLe a b = true ↔ (toLex (a.file, a.source) : String ×ₗ String) ≤ toLex (b.file, b.source) := by
  rw [Prod.Lex.toLex_le_toLex]
  simp only [heritageLe, Bool.or_eq_true, Bool.and_eq_true, decide_eq_true_iff, Text.le_iff]

/-- Attributes are in the order of their file, line and name. -/
theorem attributeLe_iff (a b : AttributeRecord) :
    attributeLe a b = true ↔
      (toLex (a.file, toLex (a.line, a.name)) : String ×ₗ Int ×ₗ String) ≤
        toLex (b.file, toLex (b.line, b.name)) := by
  rw [Prod.Lex.toLex_le_toLex, Prod.Lex.toLex_le_toLex]
  simp only [attributeLe, Bool.or_eq_true, Bool.and_eq_true, decide_eq_true_iff, Text.le_iff]

/-! ## Alike declarations -/

section Alike

variable {d d' : Declarations}

theorem Alike.sortedFiles_eq (h : d.Alike d') : d.sortedFiles = d'.sortedFiles :=
  h.files.mergeSort_eq SourceFile.path id (fun _ => rfl) fun a b => Text.le_iff a.path b.path

/-- Functions may share their file and line, and then the order in the file decides. -/
theorem Alike.sortedFunctions_eq (h : d.Alike d') : d.sortedFunctions = d'.sortedFunctions :=
  h.functions.mergeSort_eq (fun f => toLex (f.file, f.line)) (fun k => (ofLex k).1) (fun _ => rfl)
    fun a b => placeLe_iff a.file a.line b.file b.line

theorem Alike.sortedTypes_eq (h : d.Alike d') : d.sortedTypes = d'.sortedTypes :=
  (((h.types.filter _).append (h.types.filter _)).append (h.types.filter _)).mergeSort_eq
    (fun r => toLex (r.file, r.line)) (fun k => (ofLex k).1) (fun _ => rfl)
    fun a b => placeLe_iff a.file a.line b.file b.line

theorem Alike.sortedHeritage_eq (h : d.Alike d') :
    d.heritage.mergeSort heritageLe = d'.heritage.mergeSort heritageLe :=
  h.heritage.mergeSort_eq (fun x => toLex (x.file, x.source)) (fun k => (ofLex k).1) (fun _ => rfl) heritageLe_iff

/-- Two attributes of one name may be on the same line. -/
theorem Alike.sortedAttributes_eq (h : d.Alike d') :
    d.attributes.mergeSort attributeLe = d'.attributes.mergeSort attributeLe :=
  h.attributes.mergeSort_eq (fun a => toLex (a.file, toLex (a.line, a.name))) (fun k => (ofLex k).1)
    (fun _ => rfl) attributeLe_iff

/-- Diagnostics are compared by a function that may fail; with lines that are lines it does not. -/
theorem Alike.sortedDiagnostics_eq (h : d.Alike d') (hlines : d.HasLines) :
    d.sortedDiagnostics = d'.sortedDiagnostics := by
  have hlines' : d'.HasLines := fun x hx => hlines x ((h.diagnostics.mem_iff x).2 hx)
  rw [Declarations.sortedDiagnostics_eq hlines, Declarations.sortedDiagnostics_eq hlines',
    h.diagnostics.mergeSort_eq diagnosticRank (fun k => (ofLex k).1) (fun _ => rfl) fun a b => decide_eq_true_iff]

/-- The files with tests are only asked for members. -/
theorem Alike.contains_testFiles (h : d.Alike d') (path : String) :
    d.testFiles.contains path = d'.testFiles.contains path := by
  rw [Bool.eq_iff_iff, List.contains_iff_mem, List.contains_iff_mem]
  simp only [testFiles, List.mem_map, List.mem_filter, h.files.mem_iff]

/-- All that the symbols are made from is the same. -/
theorem Alike.symbols_eq (h : d.Alike d') (o : ResolutionOptions) : d.symbols o = d'.symbols o := by
  -- the lists of files with tests differ in their order, so the functions that ask them are compared
  have htypes : addTypes d.testFiles = addTypes d'.testFiles := by
    funext t types
    simp only [addTypes, typeEntry, h.contains_testFiles]
  have hfunctions : addFunctions d.testFiles = addFunctions d'.testFiles := by
    funext t functions
    simp only [addFunctions, functionEntry, h.contains_testFiles]
  rw [symbols, symbols, h.sortedFiles_eq, h.sortedTypes_eq, h.sortedFunctions_eq, htypes, hfunctions]

/-- Declarations that are alike are resolved alike. -/
theorem Alike.resolve_eq (h : d.Alike d') (hlines : d.HasLines) (o : ResolutionOptions) :
    d.resolve o = d'.resolve o := by
  simp only [resolve, related, relateHeritage, relateAttributes, h.symbols_eq o, h.sortedFiles_eq, h.sortedHeritage_eq,
    h.sortedAttributes_eq, h.sortedDiagnostics_eq hlines]

end Alike

/-- **The order of reading does not matter.**  Results for distinct files, each with records of its own file
    only, may be merged in any order: what becomes of them is the same, down to the order of symbols, relations
    and diagnostics. -/
theorem resolve_mergeAll_eq_of_perm (rs rs' : List (String × Declarations)) (o : ResolutionOptions)
    (hperm : rs.Perm rs') (hdistinct : (rs.map (·.1)).Nodup) (hown : ∀ r ∈ rs, r.2.OfFile r.1)
    (hlines : ∀ r ∈ rs, r.2.HasLines) :
    (mergeAll (rs.map (·.2))).resolve o = (mergeAll (rs'.map (·.2))).resolve o := by
  refine (alike_mergeAll hperm hdistinct hown).resolve_eq ?_ o
  intro x hx
  rw [mergeAll_eq] at hx
  obtain ⟨d, hd, hxd⟩ := List.mem_flatMap.1 hx
  obtain ⟨r, hr, rfl⟩ := List.mem_map.1 hd
  exact hlines r hr x hxd

/-- One module in two directories: a class and an interface of one name in one line, and diagnostics out of order. -/
def versionIn (path : String) : String × Declarations :=
  (path,
    { empty with
      files := [{ path, name := "m.py", lines := 3, modulePath := "m", language := "python"
                  imports := [{ target := "m", names := ["C"], level := 0, line := 1 }]
                  exports := [], isTest := false }]
      types := [.interface "protocol", .class "class" ["B"] .empty].map fun form =>
        { name := "C", qualified := "m.C", visibility := "public", file := path, line := 2, doc := none
          endLine := some 3, form }
      heritage := [{ source := "m.C", target := "B", kind := "extends", file := path }]
      diagnostics := [⟨path, "late", .int 2⟩, ⟨path, "early", .null⟩] })

/-- The options of a language without names that mean nothing. -/
def plainOptions (language : String) : ResolutionOptions :=
  { language, project := .str "p", root := "/r", separator := ".", noise := [], maxCallTargets := 5 }

/-- Two files of one module, which share their qualified names, in both orders. -/
theorem resolve_mergeAll_versions :
    ([versionIn "x/m.py", versionIn "y/m.py"].map (·.1)).Nodup ∧
      (∀ r ∈ [versionIn "x/m.py", versionIn "y/m.py"], r.2.OfFile r.1 ∧ r.2.HasLines) ∧
      (mergeAll [(versionIn "x/m.py").2, (versionIn "y/m.py").2]).resolve (plainOptions "python") =
        (mergeAll [(versionIn "y/m.py").2, (versionIn "x/m.py").2]).resolve (plainOptions "python") := by
  have hdistinct : ([versionIn "x/m.py", versionIn "y/m.py"].map (·.1)).Nodup := by decide
  have hown : ∀ r ∈ [versionIn "x/m.py", versionIn "y/m.py"], r.2.OfFile r.1 ∧ r.2.HasLines := by
    have hone : ∀ path, (versionIn path).2.OfFile (versionIn path).1 ∧ (versionIn path).2.HasLines := fun path =>
      ⟨{ files := by simp [versionIn, empty]
         functions := by simp [versionIn, empty]
         types := by simp [versionIn, empty]
         heritage := by simp [versionIn, empty]
         attributes := by simp [versionIn, empty]
         diagnostics := by simp [versionIn, empty] }, by simp [HasLines, versionIn, Json.isLine]⟩
    simpa using ⟨hone "x/m.py", hone "y/m.py"⟩
  exact ⟨hdistinct, hown, resolve_mergeAll_eq_of_perm [versionIn "x/m.py", versionIn "y/m.py"]
    [versionIn "y/m.py", versionIn "x/m.py"] (plainOptions "python") (List.Perm.swap _ _ _) hdistinct
    (fun r hr => (hown r hr).1) fun r hr => (hown r hr).2⟩

end Declarations

end CodeAtlas
