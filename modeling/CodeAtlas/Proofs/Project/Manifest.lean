import CodeAtlas.Project.Manifest
import CodeAtlas.Proofs.FileTree.Places
import CodeAtlas.Proofs.Outcome
import Mathlib.Data.List.Nodup
/-!
  When the reader of a manifest gives up.

  A manifest that cannot be read is to say nothing, and the project is named after its directory.  Each reader
  takes care of most that can be wrong, and none of everything.  `Manifest.Stops` says what is left: what is in
  a manifest, or in a file beside it, that its reader does not get over.  The name is the only part that can fail
  (`project_of_stated`), and it fails exactly then (`exists_stated_iff`).

  1. **Questions about files** have an answer below a directory that can be entered, as long as there is room for the
     names that are asked for (`Accessible`).  So looking for a manifest does not fail, and nor do the questions for
     source roots and type declarations.
  2. **What stops the readers** is told for each kind of manifest, in the order of the languages: bytes that have no
     characters, documents with too many parts inside of each other, and sections that are no tables.
  3. **All of them** are put together at the end, by cases over the kinds.
-/
namespace CodeAtlas

open Fault

/-! ## Questions about files -/

/-- What can be wrong with the bytes of a path. -/
theorem Path.checkBytes_ends (p : Path) :
    Ends p.checkBytes (fun _ => True) fun f => f = .unencodable ∨ f = .badValue := by
  unfold checkBytes
  simp only
  split
  · exact ends_error (.inl rfl)
  · split
    · exact ends_error (.inr rfl)
    · exact ends_ok trivial

namespace FileTree

variable {t : FileTree} {p root : Path}

/-- Short names lead somewhere or nowhere, but none is too long. -/
theorem descend_ends_short (above : List (String × FileTree)) (here : FileTree) {names : List String}
    (hshort : ∀ name ∈ names, Path.isLongName name = false) :
    Ends (descend above here names) (fun _ => True) fun f => f ≠ .nameTooLong := by
  induction names generalizing above here with
  | nil => exact ends_ok trivial
  | cons name rest ih =>
    obtain ⟨hname, hrest⟩ := List.forall_mem_cons.1 hshort
    cases here with
    | file content => exact ends_error (by decide)
    | directory es =>
      simp only [descend]
      rw [hname, if_neg Bool.false_ne_true]
      split
      · cases above with
        | nil => exact ih [] _ hrest
        | cons up above => exact ih above _ hrest
      · split
        · exact ends_error (by decide)
        · exact ih _ _ hrest

/-- A question is answered unless a name is too long: every other failure counts as a no. -/
theorem check_of_ends (h : Ends (t.find p) (fun _ => True) fun f => f ≠ .nameTooLong) (question : FileTree → Bool) :
    ∃ answer, t.check question p = .ok answer := by
  unfold check
  cases hfind : t.find p with
  | ok found => exact ⟨question found, rfl⟩
  | error f =>
    have hf : f ≠ .nameTooLong := h.of_error hfind
    cases f
    case nameTooLong => exact absurd rfl hf
    all_goals exact ⟨false, rfl⟩

/-- Below a path that leads somewhere everything can be asked about, as long as the path does not become too
    long. -/
theorem check_below {x : FileTree} (hroot : t.find root = .ok x) {names : List String}
    (hshort : ∀ name ∈ names, Path.isLongName name = false)
    (hroom : Path.isLong { root with parts := root.parts ++ names } = false) (question : FileTree → Bool) :
    ∃ answer, t.check question { root with parts := root.parts ++ names } = .ok answer := by
  obtain ⟨-, -, place, hwalk, hx⟩ := find_eq_ok_iff.1 hroot
  obtain ⟨above, hdescend⟩ := descend_eq_ok_iff.2 ⟨place, hwalk, hx⟩
  refine check_of_ends (Ends.map (?_ : Ends (t.follow _) (fun _ => True) _) fun _ _ => trivial) question
  refine ((Path.checkBytes_ends _).weaken ?_).bind fun _ _ => ?_
  · rintro f (rfl | rfl) h <;> nomatch h
  · rw [hroom, if_neg Bool.false_ne_true, descend_append, hdescend]
    exact descend_ends_short above x hshort

theorem check_eq_true_iff {question : FileTree → Bool} :
    t.check question p = .ok true ↔ ∃ found, t.find p = .ok found ∧ question found = true := by
  unfold check
  cases t.find p with
  | ok found => simp
  | error f =>
    refine iff_of_false ?_ (by simp)
    cases f <;> simp

/-- A directory is asked for, and not a file. -/
theorem hasDirectory_eq_true_iff : t.hasDirectory p = .ok true ↔ ∃ es, t.find p = .ok (directory es) := by
  rw [hasDirectory, check_eq_true_iff]
  constructor
  · rintro ⟨found, hfind, hdirectory⟩
    cases found with
    | file content => exact absurd hdirectory Bool.false_ne_true
    | directory es => exact ⟨es, hfind⟩
  · rintro ⟨es, hfind⟩
    exact ⟨directory es, hfind, rfl⟩

/-- A file can be read. -/
theorem hasFile_eq_true_iff : t.hasFile p = .ok true ↔ ∃ bytes, t.read p = .ok bytes := by
  rw [hasFile, check_eq_true_iff]
  constructor
  · rintro ⟨found, hfind, hfile⟩
    cases found with
    | file content => exact ⟨content, bind_eq_ok_iff.2 ⟨file content, hfind, rfl⟩⟩
    | directory es => exact absurd hfile Bool.false_ne_true
  · rintro ⟨bytes, hbytes⟩
    obtain ⟨found, hfind, hfound⟩ := bind_eq_ok_iff.1 hbytes
    cases found with
    | file content => exact ⟨file content, hfind, rfl⟩
    | directory es => cases hfound

/-- The text of a file is that of its bytes, if they have one. -/
theorem readText_of_read {bytes : ByteArray} (h : t.read p = .ok bytes) :
    t.readText p = match Text.ofUtf8? bytes with
      | some text => .ok text
      | none => .error .undecodable := by
  unfold readText
  rw [h]
  rfl

end FileTree

namespace Manifest

variable {t : FileTree} {settings : Settings} {root path : Path} {kind : Manifest}

/-! ## Looking for a manifest -/

/-- No manifest of any kind is in a directory. -/
def IsMissing (t : FileTree) (root : Path) : Prop :=
  ∀ kind ∈ all, ∀ name ∈ kind.fileNames, t.hasFile (root.child name) = .ok false

instance (t : FileTree) (root : Path) : Decidable (IsMissing t root) :=
  inferInstanceAs (Decidable (∀ kind ∈ all, ∀ name ∈ kind.fileNames, t.hasFile (root.child name) = .ok false))

/-- The names below a directory that are looked at in order to recognize a project. -/
def asked : List (List String) :=
  (all.flatMap fileNames).map (fun name => [name])
    ++ [["tsconfig.json"], ["src"], ["src", "main", "java"], ["src", "test", "java"]]

/-- A directory whose path is short enough for what is in it to be asked about. -/
structure Accessible (t : FileTree) (root : Path) : Prop where
  directory : t.hasDirectory root = .ok true
  room : ∀ names ∈ asked, Path.isLong { root with parts := root.parts ++ names } = false

instance (t : FileTree) (root : Path) : Decidable (Accessible t root) :=
  decidable_of_iff (t.hasDirectory root = .ok true ∧
      ∀ names ∈ asked, Path.isLong { root with parts := root.parts ++ names } = false)
    ⟨fun h => ⟨h.1, h.2⟩, fun h => ⟨h.directory, h.room⟩⟩

/-- There is room for all names that are asked for, so each of these questions has an answer. -/
theorem Accessible.check (h : Accessible t root) (names : List String) (hnames : names ∈ asked)
    (question : FileTree → Bool) :
    ∃ answer, t.check question { root with parts := root.parts ++ names } = .ok answer := by
  obtain ⟨es, hfind⟩ := FileTree.hasDirectory_eq_true_iff.1 h.directory
  have hshort : ∀ names ∈ asked, ∀ name ∈ names, Path.isLongName name = false := by decide +kernel
  exact FileTree.check_below hfind (hshort names hnames) (h.room names hnames) question

/-- In particular a file right below the root can be asked for. -/
theorem Accessible.hasFile (h : Accessible t root) (name : String) (hname : [name] ∈ asked) :
    ∃ answer, t.hasFile (root.child name) = .ok answer := h.check [name] hname _

/-- The names of manifests are among those that are asked for. -/
theorem mem_asked (hkind : kind ∈ all) {name : String} (hname : name ∈ kind.fileNames) : [name] ∈ asked :=
  List.mem_append_left _ (List.mem_map_of_mem (List.mem_flatMap.2 ⟨kind, hkind, hname⟩))

/-- Whether a file is there, where that can be asked. -/
def holds (t : FileTree) (path : Path) : Bool := t.hasFile path = .ok true

/-- Looking for a manifest ends with one that is there, or with none. -/
theorem find_succeeds (h : Accessible t root) : Succeeds (find t root) fun
    | none => IsMissing t root
    | some (_, path) => t.hasFile path = .ok true := by
  have hholds : ∀ kind ∈ all, ∀ name ∈ kind.fileNames,
      t.hasFile (root.child name) = .ok (holds t (root.child name)) := by
    intro kind hkind name hname
    obtain ⟨answer, hanswer⟩ := h.hasFile name (mem_asked hkind hname)
    rw [holds, hanswer]
    cases answer <;> rfl
  have hkinds : ∀ kind ∈ all, findOfKind t root kind =
      .ok (((kind.fileNames.map root.child).find? (holds t)).map fun path => (kind, path)) := by
    intro kind hkind
    have hnames : ∀ path ∈ kind.fileNames.map root.child, t.hasFile path = .ok (holds t path) :=
      List.forall_mem_map.2 (hholds kind hkind)
    rw [findOfKind, findM?_eq_find? hnames]
    rfl
  rw [find, findSomeM?_eq_findSome? hkinds]
  refine ends_ok ?_
  cases hfound : all.findSome? fun kind =>
      ((kind.fileNames.map root.child).find? (holds t)).map fun path => (kind, path) with
  | none =>
    intro kind hkind name hname
    have hnone := List.findSome?_eq_none_iff.1 hfound kind hkind
    rw [Option.map_eq_none_iff, List.find?_eq_none] at hnone
    rw [hholds kind hkind name hname, Bool.eq_false_iff.2 (hnone _ (List.mem_map_of_mem hname))]
  | some manifest =>
    obtain ⟨kind, -, hkind⟩ := List.exists_of_findSome?_eq_some hfound
    obtain ⟨path, hpath, rfl⟩ := Option.map_eq_some_iff.1 hkind
    have hpath : holds t path = true := List.find?_some hpath
    exact of_decide_eq_true hpath

/-- Without a manifest none is found. -/
theorem IsMissing.find_eq (h : IsMissing t root) : find t root = .ok none := by
  have hkind : ∀ kind ∈ all, findOfKind t root kind = .ok none := by
    intro kind hkind
    have hnames : ∀ path ∈ kind.fileNames.map root.child, t.hasFile path = .ok false :=
      List.forall_mem_map.2 (h kind hkind)
    rw [findOfKind, findM?_eq_find? hnames, List.find?_eq_none.2 fun _ _ => Bool.false_ne_true]
    rfl
  rw [find, findSomeM?_eq_findSome? hkind, List.findSome?_eq_none_iff.2 fun _ _ => rfl]

/-! ## The name alone can fail -/

/-- The name that a manifest states. -/
def stated (t : FileTree) (root path : Path) : Manifest → Except Fault (Option Project.Name)
  | maven => (mavenName t path).map fun name => name.bind nameOfText?
  | gradle => (gradleName t root).map fun name => name.bind nameOfText?
  | pyproject => (pythonFacts t path).map (·.1)
  | packageJson => packageName t path

/-- The usual source roots are asked for one by one. -/
theorem Accessible.javaRoots (h : Accessible t root) (settings : Settings) :
    ∃ roots, javaRoots t settings root = .ok roots := by
  obtain ⟨main, hmain⟩ := h.check ["src", "main", "java"] (by decide +kernel) FileTree.isDirectory
  obtain ⟨test, htest⟩ := h.check ["src", "test", "java"] (by decide +kernel) FileTree.isDirectory
  replace hmain : t.hasDirectory (root.join ⟨"", ["src", "main", "java"]⟩) = .ok main := hmain
  replace htest : t.hasDirectory (root.join ⟨"", ["src", "test", "java"]⟩) = .ok test := htest
  unfold Manifest.javaRoots
  simp only [hmain, htest]
  cases main with
  | false => exact ⟨_, rfl⟩
  | true =>
    cases settings.includeTests with
    | false => exact ⟨_, rfl⟩
    | true => exact ⟨_, rfl⟩

/-- The source files below the directory are listed. -/
theorem Accessible.sourceFiles (h : Accessible t root) (filter : FileTree.SourceFilter) :
    ∃ listed, t.sourceFiles filter root = .ok listed := by
  obtain ⟨es, hfind⟩ := FileTree.hasDirectory_eq_true_iff.1 h.directory
  unfold FileTree.sourceFiles
  rw [(FileTree.find_eq_ok_iff.1 hfind).1, hfind]
  exact ⟨_, rfl⟩

/-- Whether a package is in TypeScript is seen from one name, or else from its source files. -/
theorem Accessible.isTyped (h : Accessible t root) (settings : Settings) :
    ∃ typed, isTyped t settings root = .ok typed := by
  obtain ⟨config, hconfig⟩ := h.hasFile "tsconfig.json" (by decide +kernel)
  obtain ⟨listed, hlisted⟩ := h.sourceFiles ⟨Language.typescriptExtensions, settings.excluded⟩
  unfold Manifest.isTyped
  rw [hconfig, hlisted]
  cases config <;> exact ⟨_, rfl⟩

/-- Where the name is known the project is. -/
theorem project_of_stated (h : Accessible t root) (settings : Settings) {name : Option Project.Name}
    (hname : kind.stated t root path = .ok name) :
    ∃ p, kind.project t settings root path = .ok p ∧ p.name = nameOr root name := by
  cases kind with
  | maven =>
    obtain ⟨text, htext, rfl⟩ := map_eq_ok_iff.1 hname
    obtain ⟨roots, hroots⟩ := h.javaRoots settings
    exact ⟨_, bind_eq_ok_iff.2 ⟨text, htext, bind_eq_ok_iff.2 ⟨roots, hroots, rfl⟩⟩, rfl⟩
  | gradle =>
    obtain ⟨text, htext, rfl⟩ := map_eq_ok_iff.1 hname
    obtain ⟨roots, hroots⟩ := h.javaRoots settings
    exact ⟨_, bind_eq_ok_iff.2 ⟨text, htext, bind_eq_ok_iff.2 ⟨roots, hroots, rfl⟩⟩, rfl⟩
  | pyproject =>
    obtain ⟨⟨name, build⟩, hfacts, rfl⟩ := map_eq_ok_iff.1 hname
    exact ⟨_, bind_eq_ok_iff.2 ⟨(name, build), hfacts, rfl⟩, rfl⟩
  | packageJson =>
    obtain ⟨typed, htyped⟩ := h.isTyped settings
    obtain ⟨src, hsrc⟩ := h.check ["src"] (by decide +kernel) FileTree.isDirectory
    replace hsrc : t.hasDirectory (root.child "src") = .ok src := hsrc
    exact ⟨_, bind_eq_ok_iff.2 ⟨name, hname,
      bind_eq_ok_iff.2 ⟨typed, htyped, bind_eq_ok_iff.2 ⟨src, hsrc, rfl⟩⟩⟩, rfl⟩

/-- And nowhere else. -/
theorem exists_stated_of_project {p : Project} (hp : kind.project t settings root path = .ok p) :
    ∃ name, kind.stated t root path = .ok name := by
  cases kind with
  | maven =>
    obtain ⟨text, htext, -⟩ := bind_eq_ok_iff.1 hp
    exact ⟨_, map_eq_ok_iff.2 ⟨text, htext, rfl⟩⟩
  | gradle =>
    obtain ⟨text, htext, -⟩ := bind_eq_ok_iff.1 hp
    exact ⟨_, map_eq_ok_iff.2 ⟨text, htext, rfl⟩⟩
  | pyproject =>
    obtain ⟨facts, hfacts, -⟩ := bind_eq_ok_iff.1 hp
    exact ⟨_, map_eq_ok_iff.2 ⟨facts, hfacts, rfl⟩⟩
  | packageJson =>
    obtain ⟨name, hname, -⟩ := bind_eq_ok_iff.1 hp
    exact ⟨name, hname⟩

/-! ## What stops the readers -/

/-- The files with the name of a Gradle project. -/
def settingsFiles (root : Path) : List Path := ["settings.gradle.kts", "settings.gradle"].map root.child

/-- Before any name is found a file is met whose bytes are no text. -/
def SettingsStop (t : FileTree) : List Path → Prop
  | [] => False
  | path :: rest =>
    match t.read path with
    | .error _ => SettingsStop t rest
    | .ok bytes =>
      match Text.ofUtf8? bytes with
      | none => True
      | some text => gradleNameIn (Text.unixLineEnds text.toList) = none ∧ SettingsStop t rest

/-- The fields of a table; what is no table has none. -/
def tableOf (name : String) (fields : Toml.Fields) : Toml.Fields :=
  ((Toml.get? name fields).bind Toml.fields?).getD []

/-- A table is where one is expected, or nothing. -/
def HoldsTable (name : String) (fields : Toml.Fields) : Prop :=
  ∀ v, Toml.get? name fields = some v → v.fields? ≠ none

/-- The sections of a Python manifest that are looked into are tables, and the backend is a text, or empty. -/
structure Sectioned (fields : Toml.Fields) : Prop where
  project : HoldsTable "project" fields
  /-- the older sections are looked into only if the newer one has no name -/
  older : Toml.get? "name" (tableOf "project" fields) = none →
    HoldsTable "tool" fields ∧ HoldsTable "poetry" (tableOf "tool" fields)
  build : HoldsTable "build-system" fields
  backend : ∀ v, Toml.get? "build-backend" (tableOf "build-system" fields) = some v →
    v.isEmpty = true ∨ ∃ s, v = .text s

/-- What the reader of a manifest does not get over. -/
def Stops (t : FileTree) (root path : Path) : Manifest → Prop
  -- an encoding that cannot be read; whatever else is wrong with a document is taken care of
  | maven => ∃ bytes, t.read path = .ok bytes ∧ ∃ cause, Xml.ofBytes bytes = .error cause ∧ cause ≠ .malformed
  | gradle => SettingsStop t (settingsFiles root)
  -- too many parts inside of each other, or sections that are no tables
  | pyproject => path.name = "pyproject.toml" ∧ ∃ bytes, t.read path = .ok bytes ∧
      (Toml.ofBytes bytes = .error .tooDeep ∨ ∃ fields, Toml.ofBytes bytes = .ok fields ∧ ¬ Sectioned fields)
  | packageJson => ∃ text, t.readCharacters path = .ok text ∧ Json.read text = .error .tooDeep

/-! ### Java -/

/-- A malformed document is passed over.  What is left is an encoding that is not known, or bytes that are not in it. -/
theorem exists_mavenName_iff (hfile : t.hasFile path = .ok true) :
    (∃ name, mavenName t path = .ok name) ↔ ¬ maven.Stops t root path := by
  obtain ⟨bytes, hbytes⟩ := FileTree.hasFile_eq_true_iff.1 hfile
  unfold mavenName Stops
  simp only [hbytes, Except.ok.injEq, exists_eq_left']
  cases Xml.ofBytes bytes with
  | ok project => exact iff_of_true ⟨_, rfl⟩ (by simp)
  | error cause =>
    simp only [Except.error.injEq, exists_eq_left', not_not]
    cases cause with
    | malformed => exact iff_of_true ⟨_, rfl⟩ rfl
    | _ => exact iff_of_false (by simp) (by simp)

/-- A name of Maven comes from a document. -/
theorem exists_of_mavenName {text : String} (h : mavenName t path = .ok (some text)) :
    ∃ bytes project, t.read path = .ok bytes ∧ Xml.ofBytes bytes = .ok project ∧ mavenNameIn project = some text := by
  unfold mavenName at h
  split at h
  · nomatch h
  · next bytes hbytes =>
    split at h
    · next project hproject => exact ⟨bytes, project, hbytes, hproject, Except.ok.inj h⟩
    all_goals nomatch h

/-- Settings give a name, or none, unless they stop. -/
theorem exists_gradleNameAt_iff {paths : List Path} (hasked : ∀ path ∈ paths, ∃ answer, t.hasFile path = .ok answer) :
    (∃ name, gradleNameAt t paths = .ok name) ↔ ¬ SettingsStop t paths := by
  induction paths with
  | nil => exact iff_of_true ⟨none, rfl⟩ id
  | cons path rest ih =>
    obtain ⟨⟨answer, hanswer⟩, hrest⟩ := List.forall_mem_cons.1 hasked
    unfold gradleNameAt SettingsStop
    cases hread : t.read path with
    | error f =>
      -- what cannot be read is no file, so it is not opened at all
      have hno : answer ≠ true := by
        rintro rfl
        obtain ⟨bytes, hbytes⟩ := FileTree.hasFile_eq_true_iff.1 hanswer
        rw [hread] at hbytes
        cases hbytes
      rw [hanswer, Bool.eq_false_iff.2 hno]
      exact ih hrest
    | ok bytes =>
      rw [FileTree.hasFile_eq_true_iff.2 ⟨bytes, hread⟩]
      simp only [FileTree.readText_of_read hread]
      cases Text.ofUtf8? bytes with
      -- bytes without characters end the search, and the files behind are not asked
      | none =>
        refine iff_of_false ?_ fun h => h trivial
        rintro ⟨_, h⟩
        cases h
      | some text =>
        show (∃ name, (match gradleNameIn (Text.unixLineEnds text.toList) with
          | some name => pure (some name)
          | none => gradleNameAt t rest) = Except.ok name) ↔
            ¬ (gradleNameIn (Text.unixLineEnds text.toList) = none ∧ SettingsStop t rest)
        cases gradleNameIn (Text.unixLineEnds text.toList) with
        | some name => exact iff_of_true ⟨_, rfl⟩ (by simp)
        | none =>
          rw [and_iff_right rfl]
          exact ih hrest

/-- A name in the settings comes from one of them. -/
theorem exists_of_gradleNameAt {paths : List Path} {name : String} (h : gradleNameAt t paths = .ok (some name)) :
    ∃ path ∈ paths, ∃ text, t.readText path = .ok text ∧
      gradleNameIn (Text.unixLineEnds text.toList) = some name := by
  induction paths with
  | nil => nomatch h
  | cons path rest ih =>
    unfold gradleNameAt at h
    obtain ⟨answer, hanswer, h⟩ := bind_eq_ok_iff.1 h
    have hlater (h : gradleNameAt t rest = .ok (some name)) : ∃ path' ∈ path :: rest, ∃ text,
        t.readText path' = .ok text ∧ gradleNameIn (Text.unixLineEnds text.toList) = some name :=
      (ih h).imp fun path' ⟨hpath', htext⟩ => ⟨List.mem_cons_of_mem path hpath', htext⟩
    cases answer with
    | false => exact hlater h
    | true =>
      obtain ⟨text, htext, h⟩ := bind_eq_ok_iff.1 h
      split at h
      · next name' hname =>
        cases h
        exact ⟨path, List.mem_cons_self, text, htext, hname⟩
      · exact hlater h

/-! ### Python -/

variable {fields inner : Toml.Fields} {name : String}

/-- A section that is missing is empty, and one that is no table cannot be gone into. -/
theorem tableField_eq_ok_iff :
    tableField name fields = .ok inner ↔ HoldsTable name fields ∧ tableOf name fields = inner := by
  unfold tableField HoldsTable tableOf
  cases Toml.get? name fields with
  | none => exact ⟨fun h => ⟨fun v hv => (nomatch hv), Except.ok.inj h⟩, fun h => congrArg Except.ok h.2⟩
  | some v =>
    simp only [Option.bind_some]
    cases hv : v.fields? with
    | none => exact iff_of_false (fun h => nomatch h) fun h => h.1 v rfl hv
    | some inner' =>
      refine ⟨fun h => ⟨?_, Except.ok.inj h⟩, fun h => congrArg Except.ok h.2⟩
      rintro _ ⟨⟩ hnone
      rw [hv] at hnone
      nomatch hnone

/-- A section that is a table is gone into. -/
theorem exists_tableField_bind_iff {β : Type} {f : Toml.Fields → Except Fault β} :
    (∃ b, (tableField name fields >>= f) = .ok b) ↔
      HoldsTable name fields ∧ ∃ b, f (tableOf name fields) = .ok b := by
  rw [exists_bind_eq_ok_iff]
  constructor
  · rintro ⟨inner, hinner, hf⟩
    obtain ⟨hholds, rfl⟩ := tableField_eq_ok_iff.1 hinner
    exact ⟨hholds, hf⟩
  · rintro ⟨hholds, hf⟩
    exact ⟨_, tableField_eq_ok_iff.2 ⟨hholds, rfl⟩, hf⟩

/-- The newer section comes first, and the older ones are gone into only if it has no name. -/
theorem exists_pyprojectName_iff :
    (∃ name, pyprojectName fields = .ok name) ↔ HoldsTable "project" fields ∧
      (Toml.get? "name" (tableOf "project" fields) = none →
        HoldsTable "tool" fields ∧ HoldsTable "poetry" (tableOf "tool" fields)) := by
  unfold pyprojectName
  rw [exists_tableField_bind_iff]
  refine and_congr_right fun _ => ?_
  cases Toml.get? "name" (tableOf "project" fields) with
  | some v => exact iff_of_true ⟨_, rfl⟩ fun h => nomatch h
  | none =>
    simp only [exists_tableField_bind_iff, true_imp_iff]
    exact ⟨fun h => ⟨h.1, h.2.1⟩, fun h => ⟨h.1, h.2, _, rfl⟩⟩

/-- The backend is searched for the name of a tool, which is possible in texts only. -/
theorem exists_pyprojectBuild_iff :
    (∃ build, pyprojectBuild fields = .ok build) ↔ HoldsTable "build-system" fields ∧
      ∀ v, Toml.get? "build-backend" (tableOf "build-system" fields) = some v →
        v.isEmpty = true ∨ ∃ s, v = .text s := by
  unfold pyprojectBuild
  rw [exists_tableField_bind_iff]
  refine and_congr_right fun _ => ?_
  cases Toml.get? "build-backend" (tableOf "build-system" fields) with
  | none => exact iff_of_true ⟨_, rfl⟩ fun v h => nomatch h
  | some v =>
    simp only [Option.some.injEq, forall_eq']
    cases v with
    | text s => exact iff_of_true ⟨_, rfl⟩ (.inr ⟨s, rfl⟩)
    | _ =>
      simp only [reduceCtorEq, exists_const, or_false]
      split
      · next hempty => exact iff_of_true ⟨_, rfl⟩ hempty
      · next hempty => exact iff_of_false (fun ⟨_, h⟩ => nomatch h) hempty

/-- A document without fields has no sections. -/
theorem sectioned_nil : Sectioned [] where
  project _ h := nomatch h
  older _ := ⟨fun _ h => (nomatch h), fun _ h => nomatch h⟩
  build _ h := nomatch h
  backend _ h := nomatch h

/-- What a document says. -/
def factsIn (fields : Toml.Fields) : Except Fault (Option Project.Name × String) := do
  let name ← pyprojectName fields
  return (name, ← pyprojectBuild fields)

theorem exists_factsIn_iff : (∃ facts, factsIn fields = .ok facts) ↔ Sectioned fields := by
  unfold factsIn
  rw [exists_bind_eq_ok_iff]
  constructor
  · rintro ⟨name, hname, facts, h⟩
    obtain ⟨build, hbuild, -⟩ := bind_eq_ok_iff.1 h
    obtain ⟨hproject, holder⟩ := exists_pyprojectName_iff.1 ⟨name, hname⟩
    obtain ⟨hsystem, hbackend⟩ := exists_pyprojectBuild_iff.1 ⟨build, hbuild⟩
    exact ⟨hproject, holder, hsystem, hbackend⟩
  · intro h
    obtain ⟨name, hname⟩ := exists_pyprojectName_iff.2 ⟨h.project, h.older⟩
    obtain ⟨build, hbuild⟩ := exists_pyprojectBuild_iff.2 ⟨h.build, h.backend⟩
    exact ⟨name, hname, _, bind_eq_ok_iff.2 ⟨build, hbuild, rfl⟩⟩

/-- What a manifest in the newer format says; one that cannot be read is as good as empty. -/
theorem pythonFacts_eq (hname : path.name = "pyproject.toml") : pythonFacts t path =
    match t.read path with
    | .error _ => factsIn []
    | .ok bytes =>
      match Toml.ofBytes bytes with
      | .ok fields => factsIn fields
      | .error .malformed => factsIn []
      | .error .tooDeep => .error .tooDeep := by
  unfold pythonFacts
  rw [if_pos hname]
  cases t.read path with
  | error f => rfl
  | ok bytes =>
    cases htoml : Toml.ofBytes bytes with
    | ok fields => simp only [htoml]; rfl
    | error cause => cases cause <;> simp only [htoml] <;> rfl

/-- Malformed documents and files that cannot be read are as good as empty; only a document that is too deep is not. -/
theorem exists_pythonFacts_iff (hfile : t.hasFile path = .ok true) :
    (∃ facts, pythonFacts t path = .ok facts) ↔ ¬ pyproject.Stops t root path := by
  obtain ⟨bytes, hbytes⟩ := FileTree.hasFile_eq_true_iff.1 hfile
  by_cases hname : path.name = "pyproject.toml"
  · rw [pythonFacts_eq hname]
    unfold Stops
    simp only [and_iff_right hname, hbytes, Except.ok.injEq, exists_eq_left']
    cases Toml.ofBytes bytes with
    | ok fields =>
      simp only [Except.ok.injEq, exists_eq_left', reduceCtorEq, false_or, not_not]
      exact exists_factsIn_iff
    | error cause =>
      cases cause with
      | malformed => exact iff_of_true (exists_factsIn_iff.2 sectioned_nil) (by simp)
      | tooDeep => exact iff_of_false (fun ⟨_, h⟩ => nomatch h) fun h => h (.inl rfl)
  · unfold pythonFacts
    rw [if_neg hname]
    exact iff_of_true ⟨_, rfl⟩ fun h => hname h.1

/-- A name of a project in Python comes from a document. -/
theorem exists_of_pythonFacts {facts : Option Project.Name × String} {name : Project.Name}
    (h : pythonFacts t path = .ok facts) (hsome : facts.1 = some name) :
    path.name = "pyproject.toml" ∧ ∃ bytes fields, t.read path = .ok bytes ∧ Toml.ofBytes bytes = .ok fields ∧
      pyprojectName fields = .ok (some name) := by
  have hdocument {fields : Toml.Fields} (hfields : factsIn fields = .ok facts) :
      pyprojectName fields = .ok (some name) := by
    obtain ⟨stated, hstated, hfields⟩ := bind_eq_ok_iff.1 hfields
    obtain ⟨build, -, hfields⟩ := bind_eq_ok_iff.1 hfields
    cases hfields
    cases hsome
    exact hstated
  have hnothing : factsIn [] ≠ .ok facts := fun hfacts => nomatch hdocument hfacts
  by_cases hname : path.name = "pyproject.toml"
  · rw [pythonFacts_eq hname] at h
    split at h
    · exact absurd h hnothing
    · next bytes hbytes =>
      split at h
      · next fields hfields => exact ⟨hname, bytes, fields, hbytes, hfields, hdocument h⟩
      · exact absurd h hnothing
      · nomatch h
  · unfold pythonFacts at h
    rw [if_neg hname] at h
    cases h
    nomatch hsome

/-! ### TypeScript and JavaScript -/

/-- Here too only depth is not taken care of. -/
theorem exists_packageName_iff :
    (∃ name, packageName t path = .ok name) ↔ ¬ packageJson.Stops t root path := by
  unfold packageName Stops
  cases t.readCharacters path with
  | error f => exact iff_of_true ⟨_, rfl⟩ fun ⟨_, h, _⟩ => nomatch h
  | ok text =>
    simp only [Except.ok.injEq, exists_eq_left']
    cases Json.read text with
    | ok v => exact iff_of_true ⟨_, rfl⟩ fun h => nomatch h
    | error cause =>
      cases cause with
      | tooDeep => exact iff_of_false (fun ⟨_, h⟩ => nomatch h) fun h => h rfl
      | _ => exact iff_of_true ⟨_, rfl⟩ fun h => nomatch h

/-- A name of a package comes from a document. -/
theorem exists_of_packageName {name : Project.Name} (h : packageName t path = .ok (some name)) :
    ∃ text v, t.readCharacters path = .ok text ∧ Json.read text = .ok v ∧
      ((v.get? "name").bind Json.nonEmpty?).map Project.Name.plain = some name := by
  unfold packageName at h
  split at h
  · nomatch h
  · next text htext =>
    split at h
    · next v hv => exact ⟨text, v, htext, hv, Except.ok.inj h⟩
    all_goals nomatch h

/-! ### All of them -/

/-- **A name can be told unless something stops the reader.** -/
theorem exists_stated_iff (h : Accessible t root) (hfile : t.hasFile path = .ok true) :
    (∃ name, kind.stated t root path = .ok name) ↔ ¬ kind.Stops t root path := by
  cases kind with
  | maven => exact exists_map_eq_ok_iff.trans (exists_mavenName_iff hfile)
  | gradle =>
    refine exists_map_eq_ok_iff.trans (exists_gradleNameAt_iff ?_)
    have hsettings : ∀ name ∈ ["settings.gradle.kts", "settings.gradle"], [name] ∈ asked := by decide +kernel
    exact List.forall_mem_map.2 fun name hname => h.hasFile name (hsettings name hname)
  | pyproject => exact exists_map_eq_ok_iff.trans (exists_pythonFacts_iff hfile)
  | packageJson => exact exists_packageName_iff

/-- A manifest gives no name: it cannot be read as a document, or there is none in it. -/
def IsSilent (t : FileTree) (root path : Path) : Manifest → Prop
  | maven => ∀ bytes project, t.read path = .ok bytes → Xml.ofBytes bytes = .ok project → mavenNameIn project = none
  | gradle => ∀ file ∈ settingsFiles root, ∀ text, t.readText file = .ok text →
      gradleNameIn (Text.unixLineEnds text.toList) = none
  | pyproject => path.name = "pyproject.toml" → ∀ bytes fields, t.read path = .ok bytes →
      Toml.ofBytes bytes = .ok fields → ∀ name, pyprojectName fields ≠ .ok (some name)
  | packageJson => ∀ text v, t.readCharacters path = .ok text → Json.read text = .ok v →
      (v.get? "name").bind Json.nonEmpty? = none

/-- From such a manifest no name is taken. -/
theorem IsSilent.stated_ne (h : kind.IsSilent t root path) (name : Project.Name) :
    kind.stated t root path ≠ .ok (some name) := by
  intro hname
  cases kind with
  | maven =>
    obtain ⟨stated, hstated, hsome⟩ := map_eq_ok_iff.1 hname
    obtain ⟨text, rfl, -⟩ := Option.bind_eq_some_iff.1 hsome
    obtain ⟨bytes, project, hbytes, hproject, htext⟩ := exists_of_mavenName hstated
    rw [h bytes project hbytes hproject] at htext
    nomatch htext
  | gradle =>
    obtain ⟨stated, hstated, hsome⟩ := map_eq_ok_iff.1 hname
    obtain ⟨text, rfl, -⟩ := Option.bind_eq_some_iff.1 hsome
    obtain ⟨file, hfile, content, hcontent, htext⟩ := exists_of_gradleNameAt hstated
    rw [h file hfile content hcontent] at htext
    nomatch htext
  | pyproject =>
    obtain ⟨facts, hfacts, hsome⟩ := map_eq_ok_iff.1 hname
    obtain ⟨hpyproject, bytes, fields, hbytes, hfields, hstated⟩ := exists_of_pythonFacts hfacts hsome
    exact h hpyproject bytes fields hbytes hfields name hstated
  | packageJson =>
    obtain ⟨text, v, htext, hv, hsome⟩ := exists_of_packageName hname
    rw [h text v htext hv] at hsome
    nomatch hsome

end Manifest

end CodeAtlas
