import CodeAtlas.FileTree.Sources
import CodeAtlas.Proofs.Outcome
/-!
  Two listings of the same tree.

  A project is recognized by the number of its source files of each language, and analysed in one of the languages.
  These are two walks with two filters, and they have to find the same files.  A filter that takes fewer names than
  another one, and looks into the same directories, lists exactly those files of the other one whose names it takes
  (`sources_perm`).  The file of a language has one of the endings that the analysis of the language looks for
  (`endsWith_of_languageOf`), although the language is told by a table and the analysis has lists of its own.
  Together the analysis finds every file that was counted for its language (`count_languages_le`).
-/
namespace CodeAtlas

open Fault

/-! ## Results of steps over a list -/

/-- Among the results of steps that all succeed, a kind of result is as frequent as the elements that give it. -/
theorem Fault.countP_of_mapM {α β : Type} {f : α → Except Fault β} {p : α → Bool} {q : β → Bool} {xs : List α}
    {ys : List β} (h : xs.mapM f = .ok ys) (himp : ∀ x y, x ∈ xs → f x = .ok y → q y = true → p x = true) :
    ys.countP q ≤ xs.countP p := by
  induction xs generalizing ys with
  | nil => cases h; exact Nat.le_refl 0
  | cons x rest ih =>
    rw [List.mapM_cons] at h
    obtain ⟨y, hy, h⟩ := bind_eq_ok_iff.1 h
    obtain ⟨ys', hys', h⟩ := bind_eq_ok_iff.1 h
    cases h
    have hrest := ih hys' fun x' y' hx' => himp x' y' (List.mem_cons_of_mem x hx')
    rw [List.countP_cons, List.countP_cons]
    by_cases hq : q y = true
    · rw [if_pos hq, if_pos (himp x y List.mem_cons_self hy hq)]
      exact Nat.succ_le_succ hrest
    · rw [if_neg hq]
      exact Nat.le_add_right_of_le hrest

/-! ## Suffixes -/

/-- A name ends with its suffix. -/
theorem Path.endsWith_suffix (p : Path) : Text.endsWith p.suffix p.name = true := by
  rw [Text.endsWith_iff]
  unfold suffix stemAndSuffix Text.cutLast?
  cases hcut : Text.Chars.cutLast? '.' p.name.toList with
  | none => exact List.nil_suffix
  | some cut =>
    obtain ⟨before, after⟩ := cut
    simp only [Option.map_some]
    split
    · exact List.nil_suffix
    · rw [Text.Chars.eq_of_cutLast? hcut]
      simp

namespace FileTree

variable {f g : SourceFilter} {t : FileTree} {root : Path}

/-! ## Narrower filters -/

/-- A filter that takes fewer names than another one, and looks into the same directories. -/
structure SourceFilter.Narrower (f g : SourceFilter) : Prop where
  takes : ∀ name, f.takes name = true → g.takes name = true
  enters : ∀ name, f.enters name = g.enters name

/-- Fewer endings make a narrower filter. -/
theorem SourceFilter.narrower_of_subset {fewer more : List String} (h : ∀ e ∈ fewer, e ∈ more)
    (excluded : List String) : Narrower ⟨fewer, excluded⟩ ⟨more, excluded⟩ where
  takes name htakes := by
    simp only [takes, Bool.and_eq_true, List.any_eq_true] at htakes ⊢
    obtain ⟨⟨e, he, hends⟩, hdeclares⟩ := htakes
    exact ⟨⟨e, h e he, hends⟩, hdeclares⟩
  enters _ := rfl

/-- Whether the last name of a listed file is taken. -/
def SourceFilter.takesLast (f : SourceFilter) (parts : List String) : Bool := f.takes (parts.getLast?.getD "")

/-- Only the last name is asked for its ending. -/
theorem SourceFilter.takesLast_cons (f : SourceFilter) (name : String) {parts : List String} (h : parts ≠ []) :
    f.takesLast (name :: parts) = f.takesLast parts := by
  obtain ⟨part, rest, rfl⟩ := List.exists_cons_of_ne_nil h
  rw [takesLast, takesLast, List.getLast?_cons_cons]

/-- The files of one directory itself. -/
theorem ownSources_perm (h : f.Narrower g) (es : List (String × FileTree)) :
    (ownSources f es).Perm ((ownSources g es).filter f.takes) := by
  have hnames : ((es.filter fun e => !e.2.isDirectory && g.takes e.1).map (·.1)).filter f.takes =
      (es.filter fun e => !e.2.isDirectory && f.takes e.1).map (·.1) := by
    rw [List.filter_map, List.filter_filter]
    congr 1
    refine List.filter_congr fun e _ => ?_
    show (f.takes e.1 && (!e.2.isDirectory && g.takes e.1)) = _
    cases htakes : f.takes e.1 with
    | false => rw [Bool.false_and, Bool.and_false]
    | true => rw [h.takes e.1 htakes, Bool.true_and]
  refine (List.mergeSort_perm _ _).trans ?_
  rw [← hnames]
  exact (List.mergeSort_perm _ _).symm.filter _

mutual

/-- **A narrower filter lists the files that it takes among those of the other one.** -/
theorem sources_perm (h : f.Narrower g) : ∀ t : FileTree, (t.sources f).Perm ((t.sources g).filter f.takesLast)
  | file content => by rw [sources, sources]; exact .nil
  | directory es => by
    rw [sources, sources, List.filter_append, List.filter_map]
    refine ((ownSources_perm h es).map _).append ?_
    refine ((List.mergeSort_perm _ _).flatMap_right _).trans ((sourcesOf_perm h es).trans ?_)
    exact ((List.mergeSort_perm _ _).symm.flatMap_right _).filter _

/-- The same for the directories side by side. -/
theorem sourcesOf_perm (h : f.Narrower g) : ∀ es : List (String × FileTree),
    ((sourcesOf f es).flatMap fun (name, paths) => paths.map (name :: ·)).Perm
      (((sourcesOf g es).flatMap fun (name, paths) => paths.map (name :: ·)).filter f.takesLast)
  | [] => by rw [sourcesOf, sourcesOf]; exact .nil
  | (name, t) :: rest => by
    rw [sourcesOf, sourcesOf, h.enters name]
    split
    · rw [List.flatMap_cons, List.flatMap_cons, List.filter_append, List.filter_map]
      refine List.Perm.append ?_ (sourcesOf_perm h rest)
      -- a directory in front of a file does not change its last name
      have hlast : (t.sources g).filter (f.takesLast ∘ (name :: ·)) = (t.sources g).filter f.takesLast :=
        List.filter_congr fun parts hparts => f.takesLast_cons name (ne_nil_of_mem_sources hparts)
      rw [hlast]
      exact (sources_perm h t).map _
    · exact sourcesOf_perm h rest

end

/-- The same below a path. -/
theorem sourceFiles_perm (h : f.Narrower g) {listed : List Path} (hlisted : t.sourceFiles g root = .ok listed) :
    ∃ files, t.sourceFiles f root = .ok files ∧ files.Perm (listed.filter fun p => f.takes p.name) := by
  obtain ⟨_, hbytes, hlisted⟩ := bind_eq_ok_iff.1 hlisted
  unfold sourceFiles
  rw [hbytes]
  cases hfind : t.find root with
  | error fault =>
    rw [hfind] at hlisted
    cases hlisted
    exact ⟨[], rfl, .nil⟩
  | ok dir =>
    rw [hfind] at hlisted
    cases hlisted
    refine ⟨_, rfl, ?_⟩
    rw [List.filter_map]
    -- the last name of a file is that of its path
    have hname : (dir.sources g).filter ((fun p : Path => f.takes p.name) ∘ fun parts =>
        { root with parts := root.parts ++ parts }) = (dir.sources g).filter f.takesLast := by
      refine List.filter_congr fun parts hparts => ?_
      show f.takes ((root.parts ++ parts).getLast?.getD "") = f.takes (parts.getLast?.getD "")
      rw [List.getLast?_append, Option.or_of_isSome]
      exact List.getLast?_isSome.2 (ne_nil_of_mem_sources hparts)
    rw [hname]
    exact (sources_perm h dir).map _

/-- A listed file has a name that the filter takes. -/
theorem takes_of_mem_sourceFiles {listed : List Path} (hlisted : t.sourceFiles g root = .ok listed) {p : Path}
    (hp : p ∈ listed) : g.takes p.name = true := by
  obtain ⟨files, hfiles, hperm⟩ := sourceFiles_perm ⟨fun _ h => h, fun _ => rfl⟩ hlisted
  rw [hlisted] at hfiles
  cases hfiles
  exact (List.mem_filter.1 (hperm.mem_iff.1 hp)).2

/-! ## Languages -/

/-- The analysis of a language looks for all extensions that stand for the language. -/
theorem mem_sourceExtensions : ∀ e ∈ Language.extensions, e.1 ∈ e.2.sourceExtensions := by decide

/-- Every ending that an analysis looks for stands for some language. -/
theorem sourceExtensions_subset (l : Language) : ∀ e ∈ l.sourceExtensions, e ∈ Language.extensions.map (·.1) := by
  cases l <;> decide

/-- A file that was counted for a language is one that its parser looks for. -/
theorem mem_sourceExtensions_of_languageOf {file : Path} {l : Language} (h : languageOf file = .ok l) :
    file.suffix ∈ l.sourceExtensions := by
  unfold languageOf at h
  split at h
  · next language hlookup =>
    cases h
    exact mem_sourceExtensions _ (OrderedMap.mem_entries_of_lookup hlookup)
  · nomatch h

/-- The filter that takes the files of all languages. -/
def SourceFilter.ofAll (excluded : List String) : SourceFilter :=
  { extensions := Language.extensions.map (·.1), excluded }

/-- **The analysis of a language finds every file that counts for the language.** -/
theorem count_languages_le {excluded : List String} {found : List Language}
    (h : t.languages excluded root = .ok found) (l : Language) :
    ∃ files, t.sourceFiles ⟨l.sourceExtensions, excluded⟩ root = .ok files ∧ found.count l ≤ files.length := by
  obtain ⟨listed, hlisted, hfound⟩ := bind_eq_ok_iff.1 h
  obtain ⟨files, hfiles, hperm⟩ :=
    sourceFiles_perm (SourceFilter.narrower_of_subset (sourceExtensions_subset l) excluded) hlisted
  refine ⟨files, hfiles, ?_⟩
  rw [hperm.length_eq, ← List.countP_eq_length_filter]
  refine countP_of_mapM hfound fun file language hfile hlanguage hl => ?_
  rw [beq_iff_eq.1 hl] at hlanguage
  -- the file has the ending of its language, and as a listed one it does not only declare types
  have htaken := takes_of_mem_sourceFiles hlisted hfile
  rw [SourceFilter.takes, Bool.and_eq_true] at htaken ⊢
  refine ⟨List.any_eq_true.2 ⟨file.suffix, ?_, file.endsWith_suffix⟩, htaken.2⟩
  exact mem_sourceExtensions_of_languageOf hlanguage

/-! ### Files without a language -/

/-- An extension is a dot and something without a dot. -/
theorem extension_eq : ∀ e ∈ Language.extensions.map (·.1), e.toList = '.' :: e.toList.tail ∧
    '.' ∉ e.toList.tail ∧ e.toList.tail ≠ [] := by decide +kernel

/-- The extension behind something is the suffix. -/
theorem suffix_eq_of_endsWith {file : Path} {e : String} (he : e ∈ Language.extensions.map (·.1))
    (hends : Text.endsWith e file.name = true) (hmore : file.name ≠ e) : file.suffix = e := by
  obtain ⟨hdot, hrest, hsome⟩ := extension_eq e he
  rw [Text.endsWith_iff] at hends
  obtain ⟨stem, hstem⟩ := hends
  have hne : stem ≠ [] := by
    rintro rfl
    exact hmore (String.toList_inj.1 hstem.symm)
  have hcut : Text.Chars.cutLast? '.' file.name.toList = some (stem, e.toList.tail) := by
    rw [← hstem, hdot]
    exact Text.Chars.cutLast?_append_cons stem hrest
  unfold Path.suffix Path.stemAndSuffix Text.cutLast?
  rw [hcut]
  simp only [Option.map_some]
  rw [if_neg]
  · apply String.toList_inj.1
    simp only [String.toList_append, String.toList_ofList]
    exact hdot.symm
  · simpa [String.ofList_eq_empty_iff] using ⟨hne, hsome⟩

/-- A file that counts has a language, unless its name is nothing but an extension. -/
theorem languageOf_eq_ok_iff {excluded : List String} {file : Path}
    (htakes : (SourceFilter.ofAll excluded).takes file.name = true) :
    (∃ l, languageOf file = .ok l) ↔ file.name ∉ Language.extensions.map (·.1) := by
  constructor
  · rintro ⟨l, hl⟩ hname
    have hbare : ∀ e ∈ Language.extensions.map (·.1), (Path.stemAndSuffix e).2 = "" := by decide +kernel
    have hsuffix : file.suffix = "" := hbare file.name hname
    unfold languageOf at hl
    rw [hsuffix] at hl
    nomatch hl
  · intro hname
    obtain ⟨e, he, hends⟩ := List.any_eq_true.1 (Bool.and_eq_true_iff.1 htakes).1
    obtain ⟨l, hl⟩ := Option.isSome_iff_exists.1 ((OrderedMap.lookup_isSome_iff e Language.extensions).2 he)
    have hsuffix : file.suffix = e := suffix_eq_of_endsWith he hends fun heq => hname (heq ▸ he)
    refine ⟨l, ?_⟩
    unfold languageOf
    rw [hsuffix, hl]

/-- The languages are asked of the listed files one by one. -/
theorem languages_eq_mapM {excluded : List String} {listed : List Path}
    (hlisted : t.sourceFiles (.ofAll excluded) root = .ok listed) :
    t.languages excluded root = listed.mapM languageOf := by
  unfold languages
  rw [← SourceFilter.ofAll, hlisted]
  rfl

/-- The files of a tree can be counted unless one has such a name. -/
theorem languages_eq_ok_iff {excluded : List String} {listed : List Path}
    (hlisted : t.sourceFiles (.ofAll excluded) root = .ok listed) :
    (∃ found, t.languages excluded root = .ok found) ↔
      ∀ file ∈ listed, file.name ∉ Language.extensions.map (·.1) := by
  rw [languages_eq_mapM hlisted, exists_mapM_eq_ok_iff]
  exact forall₂_congr fun file hfile => languageOf_eq_ok_iff (takes_of_mem_sourceFiles hlisted hfile)

end FileTree

end CodeAtlas
