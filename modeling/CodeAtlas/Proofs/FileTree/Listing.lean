import CodeAtlas.FileTree.Sources
import CodeAtlas.Proofs.FileTree.Places
import CodeAtlas.Proofs.Sorting
/-!
  What is listed of a tree, and in which order.

  Three things are said of the source files of a tree: they are the regular files of the tree that a filter admits by
  their whole paths, none comes twice, and they come in a certain order.

    1. Both the listing and the view `files` are told by the entries of a directory (`mem_sources_directory`,
       `mem_filesOf`), and a path is admitted by its first name and the rest (`admits_cons`).  So
       `mem_sources_iff` is an induction on the tree.
    2. `Before` is the order of paths: a file comes before what is in subdirectories, and otherwise names decide.
       Entries have different names, so everything sorted is sorted strictly (`pairwise_sources`).
    3. No path is before itself, so none comes twice.
-/
namespace CodeAtlas

namespace FileTree

variable {f : SourceFilter}

/-- What holds of files, and of a directory if it holds of its entries, holds of all trees. -/
theorem induct {P : FileTree → Prop} (ofFile : ∀ content, P (file content))
    (ofDirectory : ∀ es, (∀ e ∈ es, P e.2) → P (directory es)) (t : FileTree) : P t := by
  cases t with
  | file content => exact ofFile content
  | directory es => exact ofDirectory es fun e _ => induct ofFile ofDirectory e.2
termination_by sizeOf t
decreasing_by
  have hentry := List.sizeOf_lt_of_mem ‹e ∈ es›
  cases e
  simp only [Prod.mk.sizeOf_spec] at hentry
  simp only [directory.sizeOf_spec]
  omega

/-- Trees as disks have them: no two entries of a directory have the same name. -/
inductive Distinct : FileTree → Prop
  | file (content : ByteArray) : Distinct (file content)
  | directory {es : List (String × FileTree)} (names : (es.map (·.1)).Nodup) (below : ∀ e ∈ es, Distinct e.2) :
      Distinct (directory es)

theorem distinct_directory_iff {es : List (String × FileTree)} :
    (directory es).Distinct ↔ (es.map (·.1)).Nodup ∧ ∀ e ∈ es, e.2.Distinct :=
  ⟨fun | .directory names below => ⟨names, below⟩, fun h => .directory h.1 h.2⟩

mutual

def decidableDistinct : (t : FileTree) → Decidable t.Distinct
  | file content => .isTrue (.file content)
  | directory es =>
    haveI := decidableBelow es
    decidable_of_iff _ distinct_directory_iff.symm

def decidableBelow : (es : List (String × FileTree)) → Decidable (∀ e ∈ es, e.2.Distinct)
  | [] => .isTrue (List.forall_mem_nil _)
  | (_, t) :: rest =>
    haveI := decidableDistinct t
    haveI := decidableBelow rest
    decidable_of_iff _ List.forall_mem_cons.symm

end

instance : DecidablePred Distinct := decidableDistinct

/-! ## What is listed -/

/-- The path of a file that counts.  Its name has one of the endings, but not that of files that only declare types;
    no directory on the way is excluded or hidden. -/
def SourceFilter.Admits (f : SourceFilter) (path : List String) : Prop :=
  ∃ dirs name, path = dirs ++ [name] ∧ (∃ e ∈ f.extensions, e.toList <:+ name.toList) ∧
    ¬ ".d.ts".toList <:+ name.toList ∧ ∀ dir ∈ dirs, dir ∉ f.excluded ∧ ¬ ".".toList <+: dir.toList

/-- Endings are asked of whole names, and type declarations are left out. -/
theorem SourceFilter.takes_iff {name : String} : f.takes name = true ↔
    (∃ e ∈ f.extensions, e.toList <:+ name.toList) ∧ ¬ ".d.ts".toList <:+ name.toList := by
  simp only [takes, Bool.and_eq_true, List.any_eq_true, Text.endsWith_iff, Bool.not_eq_true', Bool.eq_false_iff, ne_eq]

/-- Hidden directories are left out, and excluded ones. -/
theorem SourceFilter.enters_iff {name : String} :
    f.enters name = true ↔ name ∉ f.excluded ∧ ¬ ".".toList <+: name.toList := by
  simp only [enters, Text.startsWith, Bool.and_eq_true, Bool.not_eq_true', Bool.eq_false_iff, ne_eq,
    List.contains_iff_mem, List.isPrefixOf_iff_prefix]

theorem SourceFilter.Admits.ne_nil {path : List String} (h : f.Admits path) : path ≠ [] := by
  obtain ⟨dirs, name, rfl, -⟩ := h
  exact List.concat_ne_nil name dirs

/-- A file right in the directory is admitted by its name alone. -/
theorem SourceFilter.admits_singleton {name : String} : f.Admits [name] ↔ f.takes name = true := by
  rw [takes_iff]
  constructor
  · rintro ⟨dirs, last, hpath, hends, hdeclares, -⟩
    have hboth : [] ++ [name] = dirs ++ [last] := hpath
    obtain ⟨-, hlast⟩ := List.append_inj' hboth rfl
    cases hlast
    exact ⟨hends, hdeclares⟩
  · rintro ⟨hends, hdeclares⟩
    exact ⟨[], name, rfl, hends, hdeclares, fun _ h => nomatch h⟩

/-- A path is admitted by its first name and the rest. -/
theorem SourceFilter.admits_cons {dir : String} {rest : List String} (hrest : rest ≠ []) :
    f.Admits (dir :: rest) ↔ f.enters dir = true ∧ f.Admits rest := by
  rw [enters_iff]
  constructor
  · rintro ⟨dirs, name, hpath, hends, hdeclares, hdirs⟩
    cases dirs with
    | nil => exact absurd (List.cons.inj hpath).2 hrest
    | cons first dirs =>
      obtain ⟨rfl, rfl⟩ := List.cons.inj hpath
      exact ⟨hdirs _ List.mem_cons_self, dirs, name, rfl, hends, hdeclares,
        fun d hd => hdirs d (List.mem_cons_of_mem _ hd)⟩
  · rintro ⟨hdir, dirs, name, rfl, hends, hdeclares, hdirs⟩
    exact ⟨dir :: dirs, name, rfl, hends, hdeclares, List.forall_mem_cons.2 ⟨hdir, hdirs⟩⟩

/-- The groups of files are those of the subdirectories that are looked into. -/
theorem sourcesOf_eq (es : List (String × FileTree)) : sourcesOf f es =
    (es.filter fun e => e.2.isDirectory && f.enters e.1).map fun e => (e.1, e.2.sources f) := by
  induction es with
  | nil => rw [sourcesOf]; rfl
  | cons e rest ih =>
    obtain ⟨name, t⟩ := e
    rw [sourcesOf, List.filter_cons]
    split
    · rw [ih, List.map_cons]
    · exact ih

/-- A listed file is one of the directory, or it is listed in a directory below. -/
theorem mem_sources_directory {es : List (String × FileTree)} {path : List String} :
    path ∈ (directory es).sources f ↔
      (∃ e ∈ es, e.2.isDirectory = false ∧ f.takes e.1 = true ∧ path = [e.1]) ∨
      ∃ e ∈ es, e.2.isDirectory = true ∧ f.enters e.1 = true ∧ ∃ rest ∈ e.2.sources f, path = e.1 :: rest := by
  rw [sources, List.mem_append, sourcesOf_eq]
  refine or_congr ?_ ?_
  · simp only [ownSources, Text.sort, List.mem_map, List.mem_mergeSort, List.mem_filter, Bool.and_eq_true,
      Bool.not_eq_true']
    constructor
    · rintro ⟨_, ⟨e, ⟨he, hfile, htakes⟩, rfl⟩, rfl⟩
      exact ⟨e, he, hfile, htakes, rfl⟩
    · rintro ⟨e, he, hfile, htakes, rfl⟩
      exact ⟨_, ⟨e, ⟨he, hfile, htakes⟩, rfl⟩, rfl⟩
  · simp only [byName, List.mem_flatMap, List.mem_mergeSort, List.mem_map, List.mem_filter, Bool.and_eq_true]
    constructor
    · rintro ⟨_, ⟨e, ⟨he, hdir, henters⟩, rfl⟩, rest, hrest, rfl⟩
      exact ⟨e, he, hdir, henters, rest, hrest, rfl⟩
    · rintro ⟨e, he, hdir, henters, rest, hrest, rfl⟩
      exact ⟨_, ⟨e, ⟨he, hdir, henters⟩, rfl⟩, rest, hrest, rfl⟩

/-- The view of a tree, in the same form. -/
theorem mem_filesOf {es : List (String × FileTree)} {path : List String} {content : ByteArray} :
    (path, content) ∈ filesOf es ↔ ∃ e ∈ es, ∃ rest, (rest, content) ∈ e.2.files ∧ path = e.1 :: rest := by
  induction es with
  | nil => simp [filesOf]
  | cons e rest ih =>
    obtain ⟨name, t⟩ := e
    rw [filesOf, List.mem_append, ih]
    simp [eq_comm]

/-- What is listed are the files of the tree that are admitted. -/
theorem mem_sources_iff (f : SourceFilter) (t : FileTree) (path : List String) :
    path ∈ t.sources f ↔ (∃ content, (path, content) ∈ t.files) ∧ f.Admits path := by
  induction t using induct generalizing path with
  | ofFile content =>
    rw [sources, files]
    constructor
    · intro h
      nomatch h
    · rintro ⟨⟨_, hfile⟩, hadmits⟩
      obtain ⟨rfl, -⟩ := Prod.mk.inj (List.mem_singleton.1 hfile)
      exact absurd rfl hadmits.ne_nil
  | ofDirectory es ih =>
    rw [mem_sources_directory, files]
    simp only [mem_filesOf]
    constructor
    · rintro (⟨⟨name, t⟩, he, hfile, htakes, rfl⟩ | ⟨e, he, -, henters, rest, hrest, rfl⟩)
      · cases t with
        | file content =>
          exact ⟨⟨content, _, he, [], List.mem_singleton_self _, rfl⟩, SourceFilter.admits_singleton.2 htakes⟩
        | directory es => nomatch hfile
      · obtain ⟨⟨content, hfile⟩, hadmits⟩ := (ih e he rest).1 hrest
        exact ⟨⟨content, e, he, rest, hfile, rfl⟩, (SourceFilter.admits_cons hadmits.ne_nil).2 ⟨henters, hadmits⟩⟩
    · rintro ⟨⟨content, ⟨name, t⟩, he, rest, hfile, rfl⟩, hadmits⟩
      cases t with
      | file content' =>
        obtain ⟨rfl, -⟩ := Prod.mk.inj (List.mem_singleton.1 hfile)
        exact .inl ⟨_, he, rfl, SourceFilter.admits_singleton.1 hadmits, rfl⟩
      | directory sub =>
        have hrest : rest ≠ [] := by
          obtain ⟨e, -, names, -, rfl⟩ := mem_filesOf.1 hfile
          exact List.cons_ne_nil _ _
        obtain ⟨henters, hadmits⟩ := (SourceFilter.admits_cons hrest).1 hadmits
        exact .inr ⟨_, he, rfl, henters, rest, (ih _ he rest).2 ⟨⟨content, hfile⟩, hadmits⟩, rfl⟩

/-! ## In which order -/

/-- The order of paths in a listing.  In each directory its own files come before those in its subdirectories, and
    files and subdirectories are in the order of their names. -/
inductive Before : List String → List String → Prop
  | names {name name' : String} (h : name < name') : Before [name] [name']
  | own (name dir : String) {rest : List String} (h : rest ≠ []) : Before [name] (dir :: rest)
  | directories {dir dir' : String} {rest rest' : List String} (h : dir < dir') (hrest : rest ≠ [])
      (hrest' : rest' ≠ []) : Before (dir :: rest) (dir' :: rest')
  | within (dir : String) {rest rest' : List String} (h : Before rest rest') : Before (dir :: rest) (dir :: rest')

/-- No path is before itself. -/
theorem Before.ne {path path' : List String} (h : Before path path') : path ≠ path' := by
  induction h with
  | names h => exact fun heq => h.ne (List.cons.inj heq).1
  | own name dir h => exact fun heq => h (List.cons.inj heq).2.symm
  | directories h => exact fun heq => h.ne (List.cons.inj heq).1
  | within dir h ih => exact fun heq => ih (List.cons.inj heq).2

/-- The files of one directory are sorted by their names, and these differ. -/
theorem pairwise_ownSources {es : List (String × FileTree)} (h : (es.map (·.1)).Nodup) :
    (ownSources f es).Pairwise (· < ·) := by
  refine pairwise_lt_mergeSort id ?_
  rw [List.map_id]
  exact h.sublist (List.filter_sublist.map _)

theorem pairwise_byName {es : List (String × FileTree)} (h : (es.map (·.1)).Nodup) :
    (byName (sourcesOf f es)).Pairwise fun g g' => g.1 < g'.1 := by
  refine pairwise_lt_mergeSort (fun g : String × List (List String) => g.1) ?_
  rw [sourcesOf_eq, List.map_map]
  exact h.sublist (List.filter_sublist.map _)

/-- The files of a tree with distinct names are in order. -/
theorem Distinct.pairwise_sources {t : FileTree} (h : t.Distinct) : (t.sources f).Pairwise Before := by
  induction h with
  | file content => rw [sources]; exact .nil
  | @directory es names below ih =>
    have hgroup : ∀ g ∈ byName (sourcesOf f es), ∃ e ∈ es, g = (e.1, e.2.sources f) := by
      intro g hg
      rw [byName, List.mem_mergeSort, sourcesOf_eq] at hg
      obtain ⟨e, he, rfl⟩ := List.mem_map.1 hg
      exact ⟨e, (List.mem_filter.1 he).1, rfl⟩
    have hrest : ∀ g ∈ byName (sourcesOf f es), ∀ rest ∈ g.2, rest ≠ [] := by
      intro g hg rest hrest
      obtain ⟨e, -, rfl⟩ := hgroup g hg
      exact ne_nil_of_mem_sources hrest
    rw [sources, List.pairwise_append]
    refine ⟨?own, ?below, ?both⟩
    case own => exact List.pairwise_map.2 ((pairwise_ownSources names).imp Before.names)
    case both =>
      intro path hpath path' hpath'
      obtain ⟨name, -, rfl⟩ := List.mem_map.1 hpath
      obtain ⟨g, hg, hpath'⟩ := List.mem_flatMap.1 hpath'
      obtain ⟨rest, hin, rfl⟩ := List.mem_map.1 hpath'
      exact .own name g.1 (hrest g hg rest hin)
    case below =>
      rw [List.pairwise_flatMap]
      constructor
      · intro g hg
        obtain ⟨e, he, rfl⟩ := hgroup g hg
        exact List.pairwise_map.2 ((ih e he).imp (Before.within e.1))
      · refine (List.Pairwise.and_mem.1 (pairwise_byName names)).imp ?_
        rintro g g' ⟨hg, hg', hlt⟩ path hpath path' hpath'
        obtain ⟨rest, hin, rfl⟩ := List.mem_map.1 hpath
        obtain ⟨rest', hin', rfl⟩ := List.mem_map.1 hpath'
        exact .directories hlt (hrest g hg rest hin) (hrest g' hg' rest' hin')

/-! ## The listing of a directory -/

/-- Paths are those of the files that a filter admits, each one once and in order. -/
structure Lists (f : SourceFilter) (t : FileTree) (paths : List (List String)) : Prop where
  exactly : ∀ path, path ∈ paths ↔ (∃ content, (path, content) ∈ t.files) ∧ f.Admits path
  once : paths.Nodup
  inOrder : paths.Pairwise Before

/-- **The source files below a directory are those that the filter admits, each one once and in order.** The files of
    a directory come before those of its subdirectories, and otherwise names decide. -/
theorem sourceFiles_lists {t dir : FileTree} {root : Path} (hroot : t.find root = .ok dir) (h : dir.Distinct)
    (f : SourceFilter) : ∃ paths, Lists f dir paths ∧
      t.sourceFiles f root = .ok (paths.map fun path => { root with parts := root.parts ++ path }) := by
  have hinOrder := h.pairwise_sources (f := f)
  refine ⟨dir.sources f, ⟨mem_sources_iff f dir, hinOrder.imp Before.ne, hinOrder⟩, ?_⟩
  rw [sourceFiles, (find_eq_ok_iff.1 hroot).1, hroot]
  rfl

/-- A directory with a file that only declares types, with an excluded directory below another one and a hidden one. -/
def workshop : FileTree :=
  directory [("b.d.ts", file .empty),
    ("lib", directory [("build", directory [("n.py", file .empty)]), ("m.py", file .empty)]),
    (".git", directory [("y.py", file .empty)]), ("b.ts", file .empty), ("app", directory [("z.ts", file .empty)])]

/-- A tree with a directory that is excluded. -/
theorem sourceFiles_workshop : (directory [("w", workshop)]).find ⟨"/", ["w"]⟩ = .ok workshop ∧ workshop.Distinct ∧
    ∃ paths, Lists ⟨[".py", ".ts"], ["build"]⟩ workshop paths ∧
      (directory [("w", workshop)]).sourceFiles ⟨[".py", ".ts"], ["build"]⟩ ⟨"/", ["w"]⟩ =
        .ok (paths.map fun path => ⟨"/", ["w"] ++ path⟩) ∧
      ["lib", "m.py"] ∈ paths ∧ ["lib", "build", "n.py"] ∉ paths := by
  have hroot : (directory [("w", workshop)]).find ⟨"/", ["w"]⟩ = .ok workshop := by rfl
  have hdistinct : workshop.Distinct := by decide +kernel
  obtain ⟨paths, hlists, hfiles⟩ := sourceFiles_lists hroot hdistinct ⟨[".py", ".ts"], ["build"]⟩
  have hcontent : (["lib", "m.py"], .empty) ∈ workshop.files := by simp [workshop, files, filesOf]
  refine ⟨hroot, hdistinct, paths, hlists, hfiles, ?_, fun hbuild => ?_⟩
  · exact (hlists.exactly _).2 ⟨⟨.empty, hcontent⟩, ["lib"], "m.py", rfl, by decide, by decide, by decide⟩
  · obtain ⟨-, dirs, name, hpath, -, -, hdirs⟩ := (hlists.exactly _).1 hbuild
    have hboth : ["lib", "build"] ++ ["n.py"] = dirs ++ [name] := hpath
    obtain ⟨rfl, -⟩ := List.append_inj' hboth rfl
    exact (hdirs "build" (by decide)).1 (by decide)

end FileTree

end CodeAtlas
