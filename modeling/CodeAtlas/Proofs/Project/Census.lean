import CodeAtlas.Analyzer
import CodeAtlas.Project.Detection
import CodeAtlas.Proofs.Extraction.Isolation
import CodeAtlas.Proofs.FileTree.Sources
import CodeAtlas.Proofs.Project.Manifest
/-!
  The count of source files decides as the analysis expects it.

  A directory without a manifest is a project in the language with the most source files (`mostFrequent_eq_some_iff`),
  and such a project can be analysed in this language: the analyzer finds the files that were counted, so it is
  never told that there are none (`census_agrees`).

  1. The count keeps the languages in the order in which they come up, and the most frequent one is chosen with a fixed
     order for ties; `Leads` says this without the count.
  2. The walk of the count and the walk of the analyzer are the same listing with different endings, so a file that was
     counted for a language is found by its parser.
  3. The analysis may fail for many reasons, and `NotLack` says that a fault is none for want of files.  It is followed
     through all steps behind the listing.
-/
namespace CodeAtlas

open Fault

/-! ## The most frequent language -/

namespace Project

/-- The first entry with the greatest number: more than the ones before it, and no less than the ones after it. -/
def Foremost (es : List (Language × Nat)) : Option (Language × Nat) → Prop
  | none => es = []
  | some b => ∃ before after, es = before ++ b :: after ∧ (∀ e ∈ before, e.2 < b.2) ∧ ∀ e ∈ after, e.2 ≤ b.2

/-- One more entry takes over only if it is greater. -/
theorem foremost_concat {es : List (Language × Nat)} {best : Option (Language × Nat)} (e : Language × Nat) :
    Foremost es best →
      Foremost (es ++ [e]) (match best with | some b => if b.2 < e.2 then some e else some b | none => some e) := by
  intro h
  cases best with
  | none =>
    rw [show es = [] from h]
    exact ⟨[], [], rfl, by simp, by simp⟩
  | some b =>
    obtain ⟨before, after, rfl, hbefore, hafter⟩ := h
    by_cases hlt : b.2 < e.2
    · simp only [if_pos hlt]
      refine ⟨before ++ b :: after, [], rfl, fun x hx => ?_, fun _ hx => nomatch hx⟩
      rcases List.mem_append.1 hx with hx | hx
      · exact (hbefore x hx).trans hlt
      · rcases List.mem_cons.1 hx with rfl | hx
        · exact hlt
        · exact (hafter x hx).trans_lt hlt
    · simp only [if_neg hlt]
      refine ⟨before, after ++ [e], by simp, hbefore, fun x hx => ?_⟩
      rcases List.mem_append.1 hx with hx | hx
      · exact hafter x hx
      · rw [List.mem_singleton.1 hx]
        exact Nat.le_of_not_lt hlt

/-- Choosing goes through the count once and keeps the foremost entry so far. -/
theorem mostFrequent_eq (found : List Language) :
    ∃ best, Foremost (FileTree.census found) best ∧ mostFrequent found = best.map (·.1) := by
  unfold mostFrequent
  refine ⟨_, ?_, rfl⟩
  induction FileTree.census found using List.reverseRecOn with
  | nil => rfl
  | append_singleton es e ih =>
    rw [List.foldl_append]
    exact foremost_concat e ih

variable {found : List Language} {l : Language}

/-- The count has an entry for each language that occurs. -/
theorem mem_census {n : Nat} : (l, n) ∈ FileTree.census found ↔ n = found.count l ∧ 0 < found.count l := by
  have hall : l ∈ Language.all := by cases l <;> decide
  rw [FileTree.census, List.mem_filter, List.mem_map, decide_eq_true_eq]
  constructor
  · rintro ⟨⟨l', -, heq⟩, hpos⟩
    cases heq
    exact ⟨rfl, Nat.pos_of_ne_zero hpos⟩
  · rintro ⟨rfl, hpos⟩
    exact ⟨⟨l, hall, rfl⟩, hpos.ne'⟩

/-- Its entries are in the order of the languages. -/
theorem pairwise_census (found : List Language) :
    (FileTree.census found).Pairwise fun a b => Language.all.idxOf a.1 < Language.all.idxOf b.1 := by
  refine List.Pairwise.filter _ (List.pairwise_map.2 ?_)
  show Language.all.Pairwise fun a b => Language.all.idxOf a < Language.all.idxOf b
  decide

/-- A language leads if no other one has more files, and no earlier one as many. -/
def Leads (found : List Language) (l : Language) : Prop :=
  ∀ other, found.count other < found.count l ∨
    found.count other = found.count l ∧ Language.all.idxOf l ≤ Language.all.idxOf other

instance (found : List Language) (l : Language) : Decidable (Leads found l) :=
  decidable_of_iff (∀ other ∈ Language.all, found.count other < found.count l ∨
      found.count other = found.count l ∧ Language.all.idxOf l ≤ Language.all.idxOf other)
    ⟨fun h other => h other (by cases other <;> decide), fun h other _ => h other⟩

/-- Only one language leads. -/
theorem Leads.unique {l' : Language} (h : Leads found l) (h' : Leads found l') : l = l' := by
  have hidx : Language.all.idxOf l = Language.all.idxOf l' := by
    have := h l'
    have := h' l
    omega
  cases l <;> cases l' <;> first | rfl | exact absurd hidx (by decide)

/-- Only where nothing was found is there no language. -/
theorem mostFrequent_eq_none_iff : mostFrequent found = none ↔ found = [] := by
  obtain ⟨best, hbest, heq⟩ := mostFrequent_eq found
  rw [heq]
  cases best with
  | none =>
    refine iff_of_true rfl (List.eq_nil_iff_forall_not_mem.2 fun l hl => ?_)
    have hentry := mem_census.2 ⟨rfl, List.count_pos_iff.2 hl⟩
    rw [show FileTree.census found = [] from hbest] at hentry
    nomatch hentry
  | some b =>
    obtain ⟨before, after, hsplit, -⟩ := hbest
    refine iff_of_false (fun h => nomatch h) ?_
    rintro rfl
    rw [show FileTree.census [] = [] from rfl] at hsplit
    exact absurd hsplit.symm (List.append_ne_nil_of_right_ne_nil _ (List.cons_ne_nil _ _))

/-- What is chosen was found, and nothing is ahead of it. -/
theorem leads_of_mostFrequent (h : mostFrequent found = some l) : 0 < found.count l ∧ Leads found l := by
  obtain ⟨best, hbest, heq⟩ := mostFrequent_eq found
  rw [h] at heq
  obtain ⟨b, rfl, rfl⟩ := Option.map_eq_some_iff.1 heq.symm
  obtain ⟨before, after, hsplit, hbefore, hafter⟩ := hbest
  have hentry : (b.1, b.2) ∈ FileTree.census found := hsplit ▸ List.mem_append_right _ List.mem_cons_self
  obtain ⟨hcount, hpos⟩ := mem_census.1 hentry
  refine ⟨hpos, fun other => ?_⟩
  rw [← hcount]
  by_cases hother : 0 < found.count other
  · -- a language that occurs has an entry before, at or behind the one that was chosen
    have horder := pairwise_census found
    have hmem : (other, found.count other) ∈ FileTree.census found := mem_census.2 ⟨rfl, hother⟩
    rw [hsplit] at horder hmem
    rcases List.mem_append.1 hmem with hmem | hmem
    · exact .inl (hbefore _ hmem)
    · rcases List.mem_cons.1 hmem with rfl | hmem
      · exact .inr ⟨rfl, Nat.le_refl _⟩
      · have hlater := (List.pairwise_cons.1 (List.pairwise_append.1 horder).2.1).1 _ hmem
        exact (hafter _ hmem).lt_or_eq.imp_right fun heq => ⟨heq, hlater.le⟩
  · rw [Nat.eq_zero_of_not_pos hother, hcount]
    exact .inl hpos

/-- **The language with the most files is chosen**, and the earlier one of two with as many. -/
theorem mostFrequent_eq_some_iff : mostFrequent found = some l ↔ 0 < found.count l ∧ Leads found l := by
  constructor
  · exact leads_of_mostFrequent
  · rintro ⟨hpos, hleads⟩
    cases hchosen : mostFrequent found with
    | none =>
      rw [mostFrequent_eq_none_iff.1 hchosen] at hpos
      nomatch hpos
    | some l' => rw [hleads.unique (leads_of_mostFrequent hchosen).2]

example : Leads [.typescript, .python] .python := by decide

end Project

/-! ## What else can go wrong -/

/-- All causes of failure but that there are no source files. -/
def Fault.NotLack (f : Fault) : Prop := ∀ language root, f ≠ .noSourceFiles language root

/-- Faults of single files are no lack of files. -/
theorem Fault.notLack_of_isFileFault {f : Fault} (h : f.isFileFault = true) : f.NotLack := by
  rintro language root rfl
  nomatch h

/-- A file that cannot be read is another matter. -/
theorem FileTree.read_ends_notLack (t : FileTree) (p : Path) : Ends (t.read p) (fun _ => True) Fault.NotLack := by
  have hbytes : Ends p.checkBytes (fun _ => True) Fault.NotLack := by
    refine p.checkBytes_ends.weaken ?_
    rintro f (rfl | rfl) _ _ h <;> nomatch h
  have hfollow : Ends (t.follow p) (fun _ => True) Fault.NotLack := by
    refine hbytes.bind fun _ _ => ?_
    split
    · exact ends_error (notLack_of_isFileFault rfl)
    · exact (descend_ends [] t p.parts).weaken fun _ => notLack_of_isFileFault
  have hfind : Ends (t.find p) (fun _ => True) Fault.NotLack := hfollow.map fun _ _ => trivial
  refine hfind.bind fun found _ => ?_
  split
  · exact ends_pure trivial
  · exact ends_error (notLack_of_isFileFault rfl)

namespace Workspace

variable {w : Workspace} {language : Language} {projectRoot : Path} {files : List (Path × Path)}

theorem declarationsIn_ends_notLack {root path : Path} (hpath : path.IsUnder root) :
    Ends (w.declarationsIn language projectRoot root path) Declarations.KeepsNames Fault.NotLack := by
  refine (w.files.read_ends_notLack path).bind fun bytes _ => ?_
  split
  · exact ends_error fun _ _ h => nomatch h
  · simp only
    split
    · exact ends_error fun _ _ h => nomatch h
    · refine ((language.decodes_extract ⟨bytes⟩ hpath _ _).mono fun d hd => hd.names).weaken ?_
      rintro f rfl
      exact fun _ _ h => nomatch h

theorem declarationsOf_ends_notLack {file : Path × Path} (hfile : file.2.IsUnder file.1) :
    Ends (w.declarationsOf language projectRoot file) Declarations.KeepsNames Fault.NotLack := by
  have hin : Ends (w.declarationsIn language projectRoot file.1 file.2) Declarations.KeepsNames Fault.NotLack :=
    declarationsIn_ends_notLack hfile
  unfold declarationsOf
  split
  · next d hd => exact ends_ok (hin.of_ok hd)
  · next f hf =>
    split
    · exact ends_ok fun r hr => nomatch hr
    · exact ends_error (hin.of_error hf)

theorem declarations_ends_notLack (hfiles : ∀ f ∈ files, f.2.IsUnder f.1) :
    Ends (w.declarations language projectRoot files) Declarations.KeepsNames Fault.NotLack := by
  refine Ends.map (ends_mapM Declarations.KeepsNames fun f hf => declarationsOf_ends_notLack (hfiles f hf)) ?_
  intro ds hds r hr
  rw [Declarations.mergeAll_eq] at hr
  obtain ⟨d, hd, hr⟩ := List.mem_flatMap.1 hr
  exact hds d hd r hr

end Workspace

namespace Analyzer

variable {settings : Settings} {language : Language} {w : Workspace} {p : Project} {files : List (Path × Path)}

theorem resolve_ends_notLack {d : Declarations} (hnames : d.KeepsNames) :
    Ends (d.resolve (optionsOf settings language p)) (fun _ => True) Fault.NotLack := by
  have hseparator : (optionsOf settings language p).separator ≠ "" := by
    show language.separator ≠ ""
    cases language <;> decide
  refine (Declarations.related_ends hnames hseparator fun _ _ _ _ _ _ _ _ h => nomatch h).bind fun t _ => ?_
  have hsorted : Ends d.sortedDiagnostics (fun _ => True) Fault.NotLack := by
    unfold Declarations.sortedDiagnostics
    split
    · exact ends_ok trivial
    · exact ends_error fun _ _ h => nomatch h
  exact hsorted.bind fun _ _ => ends_pure trivial

/-- Where files are listed, the analysis is not refused for want of files. -/
theorem dependenciesIn_ends_notLack (hsome : files ≠ []) (hfiles : ∀ f ∈ files, f.2.IsUnder f.1) :
    Ends (dependenciesIn settings language w p files) (fun _ => True) Fault.NotLack := by
  unfold dependenciesIn
  rw [if_neg (by simpa using hsome)]
  refine (Workspace.declarations_ends_notLack hfiles).bind fun d hd => ?_
  split
  · exact ends_error fun _ _ h => nomatch h
  · exact resolve_ends_notLack hd

/-- The files of a project with one source root. -/
theorem filesOf_singleton {root : Path} {excluded : List String} {listed : List Path} (hroots : p.roots = [root])
    (hdirectory : w.files.hasDirectory root = .ok true)
    (hlisted : w.sourceFiles language excluded root = .ok listed) :
    filesOf w language excluded p = .ok (listed.map fun f => (root, f)) := by
  unfold filesOf
  rw [hroots, List.foldlM_cons, hdirectory, hlisted]
  show (Except.ok _ : Except Fault _) = _
  simp

end Analyzer

/-! ## Projects without a manifest -/

namespace Project

/-- The project in a directory without a manifest. -/
def unmanifested (root : Path) (language : Language) : Project :=
  { name := .ofText root.name, language, root, sourceRoots := [root], manifest := none, buildSystem := none }

variable {t : FileTree} {settings : Settings} {dir root : Path}

/-- Where there is a directory, its manifest decides, or else its files. -/
theorem detect_eq (hroot : dir.resolve = .ok root) (hdirectory : t.hasDirectory root = .ok true) :
    detect t settings dir = (Manifest.find t root).bind fun
      | some (kind, path) => (kind.project t settings root path).map some
      | none =>
          (t.languages settings.excluded root).map fun found => (mostFrequent found).map (unmanifested root) := by
  unfold detect
  rw [hroot]
  show (t.hasDirectory root >>= _) = _
  rw [hdirectory]
  rfl

theorem detect_eq_of_missing (hroot : dir.resolve = .ok root) (hdirectory : t.hasDirectory root = .ok true)
    (hmissing : Manifest.IsMissing t root) : detect t settings dir =
      (t.languages settings.excluded root).map fun found => (mostFrequent found).map (unmanifested root) := by
  rw [detect_eq hroot hdirectory, hmissing.find_eq]
  rfl

/-- A project is in a directory. -/
theorem hasDirectory_of_detect {p : Project} (hroot : dir.resolve = .ok root)
    (h : detect t settings dir = .ok (some p)) : t.hasDirectory root = .ok true := by
  obtain ⟨root', hroot', h⟩ := bind_eq_ok_iff.1 h
  rw [hroot] at hroot'
  cases hroot'
  obtain ⟨isDirectory, hdirectory, h⟩ := bind_eq_ok_iff.1 h
  cases isDirectory with
  | false => nomatch h
  | true => exact hdirectory

/-- What is known of a project that was recognized without a manifest. -/
theorem detect_of_missing {p : Project} (hroot : dir.resolve = .ok root) (hmissing : Manifest.IsMissing t root)
    (h : detect t settings dir = .ok (some p)) :
    p = unmanifested root p.language ∧
      ∃ found, t.languages settings.excluded root = .ok found ∧ mostFrequent found = some p.language := by
  rw [detect_eq_of_missing hroot (hasDirectory_of_detect hroot h) hmissing] at h
  obtain ⟨found, hfound, h⟩ := map_eq_ok_iff.1 h
  obtain ⟨language, hlanguage, rfl⟩ := Option.map_eq_some_iff.1 h
  exact ⟨rfl, found, hfound, hlanguage⟩

/-- **The count and the analysis agree.**  A project that is recognized without a manifest is in the language with
    the most files, the earlier one among equals.  Its analysis in this language finds as many files at least, and
    so there are some. -/
theorem census_agrees {w : Workspace} {p : Project} (hroot : dir.resolve = .ok root)
    (hmissing : Manifest.IsMissing w.files root) (hdetect : detect w.files settings dir = .ok (some p)) :
    ∃ found files, w.files.languages settings.excluded root = .ok found ∧ Leads found p.language ∧
      Analyzer.filesOf w p.language settings.excluded p = .ok files ∧
      0 < found.count p.language ∧ found.count p.language ≤ files.length ∧
      ∀ language name, (Analyzer.builtin settings p.language).graph w p ≠ .error (.noSourceFiles language name) := by
  obtain ⟨hp, found, hfound, hlanguage⟩ := detect_of_missing hroot hmissing hdetect
  obtain ⟨hpos, hleads⟩ := leads_of_mostFrequent hlanguage
  obtain ⟨listed, hlisted, hle⟩ := FileTree.count_languages_le hfound p.language
  have hroots : p.roots = [root] := by rw [hp]; rfl
  have hfiles := Analyzer.filesOf_singleton hroots (hasDirectory_of_detect hroot hdetect) hlisted
  rw [← List.length_map (f := fun f => (root, f))] at hle
  refine ⟨found, _, hfound, hleads, hfiles, hpos, hle, fun language name herror => ?_⟩
  -- whatever stops the analysis, it is not that there are no files
  have hsome : listed.map (fun f => (root, f)) ≠ [] := List.ne_nil_of_length_pos (hpos.trans_le hle)
  have hunder := fun f hf => ((Analyzer.isUnder_filesOf w p.language settings.excluded p).of_ok hfiles f hf).2
  have hends : Ends (Analyzer.builtinDependencies settings p.language w p) (fun _ => True) Fault.NotLack := by
    rw [Analyzer.builtinDependencies, hfiles]
    exact Analyzer.dependenciesIn_ends_notLack hsome hunder
  have hgraph : Ends ((Analyzer.builtin settings p.language).graph w p) (fun _ => True) Fault.NotLack :=
    hends.map fun _ _ => trivial
  exact hgraph.of_error herror language name rfl

/-- A file of each of two languages, beside one that only declares types and one of a tool. -/
def evenEntries : List (String × FileTree) :=
  [("a.py", .file .empty), ("index.d.ts", .file .empty), ("main.ts", .file .empty),
    ("node_modules", .directory [("b.ts", .file .empty)])]

/-- A directory with these files. -/
def evenFiles : FileTree := .directory [("app", .directory evenEntries)]

theorem languages_evenFiles :
    evenFiles.languages Settings.default.excluded ⟨"/", ["app"]⟩ = .ok [.python, .typescript] := by
  have hnames : (evenEntries.filter fun e =>
      !e.2.isDirectory && (FileTree.SourceFilter.ofAll Settings.default.excluded).takes e.1).map (·.1) =
        ["a.py", "main.ts"] := by decide +kernel
  have hbelow : FileTree.sourcesOf (.ofAll Settings.default.excluded) evenEntries = [] := by decide +kernel
  have hsources : FileTree.sources (.ofAll Settings.default.excluded) (.directory evenEntries) =
      [["a.py"], ["main.ts"]] := by
    rw [FileTree.sources, FileTree.ownSources, hnames, hbelow, FileTree.byName, List.mergeSort_nil, Text.sort,
      List.mergeSort_of_pairwise (by decide)]
    rfl
  have hbytes : Path.checkBytes ⟨"/", ["app"]⟩ = .ok () := by decide +kernel
  have hfind : evenFiles.find ⟨"/", ["app"]⟩ = .ok (.directory evenEntries) := by rfl
  have hlisted : evenFiles.sourceFiles (.ofAll Settings.default.excluded) ⟨"/", ["app"]⟩ =
      .ok [⟨"/", ["app", "a.py"]⟩, ⟨"/", ["app", "main.ts"]⟩] := by
    rw [FileTree.sourceFiles, hbytes, hfind]
    show Except.ok _ = _
    rw [hsources]
    rfl
  unfold FileTree.languages
  rw [← FileTree.SourceFilter.ofAll, hlisted]
  decide +kernel

/-- Python comes first among equals. -/
theorem census_agrees_evenFiles :
    ∃ found files, evenFiles.languages Settings.default.excluded ⟨"/", ["app"]⟩ = .ok found ∧
      Leads found .python ∧
      Analyzer.filesOf ⟨evenFiles, Analyzer.importTree⟩ .python Settings.default.excluded
        (unmanifested ⟨"/", ["app"]⟩ .python) = .ok files ∧
      0 < found.count .python ∧ found.count .python ≤ files.length ∧
      ∀ language name, (Analyzer.builtin .default .python).graph ⟨evenFiles, Analyzer.importTree⟩
        (unmanifested ⟨"/", ["app"]⟩ .python) ≠ .error (.noSourceFiles language name) := by
  have hroot : (Path.ofString "app").resolve = .ok ⟨"/", ["app"]⟩ := by decide +kernel
  have hdirectory : evenFiles.hasDirectory ⟨"/", ["app"]⟩ = .ok true := by decide +kernel
  have hmissing : Manifest.IsMissing evenFiles ⟨"/", ["app"]⟩ := by decide +kernel
  have hdetect : detect evenFiles .default (Path.ofString "app") =
      .ok (some (unmanifested ⟨"/", ["app"]⟩ .python)) := by
    rw [detect_eq_of_missing hroot hdirectory hmissing, languages_evenFiles]
    rfl
  exact census_agrees (w := ⟨evenFiles, Analyzer.importTree⟩) hroot hmissing hdetect

end Project

end CodeAtlas
