import CodeAtlas.Proofs.Project.Census
/-!
  When a project is recognized, or found not to be one.

  Recognizing a project is to end with an answer, whatever is in a directory: a manifest that says nothing leaves
  the name of the directory, and a directory with nothing to recognize holds no project.  It does, but for a manifest
  that stops its reader, and for a source file whose name is nothing but an extension (`detects_iff`).

    1. With a manifest the reader of its kind decides, and nothing else can fail (`exists_detect_of_find`).
    2. Without one the source files are listed, and each of them needs a language (`exists_detect_of_missing`); there
       is no project exactly if none is listed.
    3. Whether there is a manifest can always be told, so these are all cases (`exists_detect_iff`).

  The stack of the machine has no bound here, so directories may be inside of each other as deeply as they like.
-/
namespace CodeAtlas.Project

open Fault FileTree

variable {t : FileTree} {settings : Settings} {dir root : Path}

/-- What there is about a directory that keeps it from being recognized. -/
inductive Obstructed (t : FileTree) (settings : Settings) (root : Path) : Prop where
  /-- a manifest that stops its reader -/
  | manifest (kind : Manifest) (path : Path) (hfind : Manifest.find t root = .ok (some (kind, path)))
      (hstops : kind.Stops t root path)
  /-- no manifest, and a file that counts but has no language -/
  | nameless (hmissing : Manifest.IsMissing t root) (listed : List Path)
      (hlisted : t.sourceFiles (.ofAll settings.excluded) root = .ok listed) (file : Path) (hfile : file ∈ listed)
      (hname : file.name ∈ Language.extensions.map (·.1))

/-- A directory is recognized as it should be. -/
structure Detects (t : FileTree) (settings : Settings) (dir root : Path) : Prop where
  /-- there is an answer -/
  answers : ∃ answer, detect t settings dir = .ok answer
  /-- a manifest without a name leaves the name of the directory -/
  fallback : ∀ kind path, Manifest.find t root = .ok (some (kind, path)) → kind.IsSilent t root path →
    ∃ p, detect t settings dir = .ok (some p) ∧ p.name = .ofText root.name
  /-- only a directory with no manifest and no source file is no project -/
  nothing : detect t settings dir = .ok none ↔
    Manifest.IsMissing t root ∧ t.sourceFiles (.ofAll settings.excluded) root = .ok []

/-! ## With a manifest -/

section

variable {kind : Manifest} {path : Path} (hroot : dir.resolve = .ok root) (h : Manifest.Accessible t root)
  (hfind : Manifest.find t root = .ok (some (kind, path)))

include h hfind

theorem exists_stated_of_find : (∃ name, kind.stated t root path = .ok name) ↔ ¬ kind.Stops t root path :=
  Manifest.exists_stated_iff h ((Manifest.find_succeeds h).of_ok hfind)

include hroot

/-- The outcome is that of the reader. -/
theorem detect_eq_of_find : detect t settings dir = (kind.project t settings root path).map some := by
  rw [detect_eq hroot h.directory, hfind]
  rfl

theorem exists_detect_of_find : (∃ answer, detect t settings dir = .ok answer) ↔ ¬ kind.Stops t root path := by
  rw [detect_eq_of_find hroot h hfind, exists_map_eq_ok_iff, ← exists_stated_of_find h hfind]
  constructor
  · rintro ⟨p, hp⟩
    exact Manifest.exists_stated_of_project hp
  · rintro ⟨name, hname⟩
    exact (Manifest.project_of_stated h settings hname).imp fun p hp => hp.1

end

/-! ## Without a manifest -/

section

variable {listed : List Path} (hroot : dir.resolve = .ok root) (h : Manifest.Accessible t root)
  (hmissing : Manifest.IsMissing t root) (hlisted : t.sourceFiles (.ofAll settings.excluded) root = .ok listed)

include hroot h hmissing hlisted

theorem exists_detect_of_missing : (∃ answer, detect t settings dir = .ok answer) ↔
    ∀ file ∈ listed, file.name ∉ Language.extensions.map (·.1) := by
  rw [detect_eq_of_missing hroot h.directory hmissing, exists_map_eq_ok_iff, languages_eq_ok_iff hlisted]

/-- Only a directory without source files is no project. -/
theorem detect_eq_none_of_missing : detect t settings dir = .ok none ↔ listed = [] := by
  rw [detect_eq_of_missing hroot h.directory hmissing, map_eq_ok_iff, languages_eq_mapM hlisted,
    ← mapM_eq_ok_nil_iff (f := languageOf)]
  constructor
  · rintro ⟨found, hfound, hnone⟩
    rw [hfound, mostFrequent_eq_none_iff.1 (Option.map_eq_none_iff.1 hnone)]
  · intro hempty
    exact ⟨[], hempty, rfl⟩

end

/-! ## All directories -/

/-- There is an answer unless something obstructs it. -/
theorem exists_detect_iff (hroot : dir.resolve = .ok root) (h : Manifest.Accessible t root) :
    (∃ answer, detect t settings dir = .ok answer) ↔ ¬ Obstructed t settings root := by
  obtain ⟨found, hfind, hfound⟩ := (Manifest.find_succeeds h).exists_ok
  obtain ⟨listed, hlisted⟩ := h.sourceFiles (.ofAll settings.excluded)
  cases found with
  | none =>
    rw [exists_detect_of_missing hroot h hfound hlisted]
    constructor
    · rintro hnamed (⟨kind, path, hfind', -⟩ | ⟨-, listed', hlisted', file, hfile, hname⟩)
      · rw [hfind] at hfind'
        nomatch hfind'
      · rw [hlisted] at hlisted'
        cases hlisted'
        exact hnamed file hfile hname
    · intro hfree file hfile hname
      exact hfree (.nameless hfound listed hlisted file hfile hname)
  | some manifest =>
    obtain ⟨kind, path⟩ := manifest
    rw [exists_detect_of_find hroot h hfind]
    constructor
    · rintro hreads (⟨kind', path', hfind', hstops⟩ | ⟨hmissing, -⟩)
      · rw [hfind] at hfind'
        cases hfind'
        exact hreads hstops
      · rw [hmissing.find_eq] at hfind
        nomatch hfind
    · exact fun hfree hstops => hfree (.manifest kind path hfind hstops)

/-- **A directory is recognized as it should be, unless something in it obstructs that.** Then there is an answer, a
    manifest without a name leaves the name of the directory, and only a directory with neither a manifest nor a
    source file is no project. -/
theorem detects_iff (hroot : dir.resolve = .ok root) (h : Manifest.Accessible t root) :
    Detects t settings dir root ↔ ¬ Obstructed t settings root := by
  rw [← exists_detect_iff hroot h]
  refine ⟨fun hdetects => hdetects.answers, fun hanswers => ⟨hanswers, fun kind path hfind hsilent => ?_, ?_⟩⟩
  · obtain ⟨name, hname⟩ := (exists_stated_of_find h hfind).2 ((exists_detect_of_find hroot h hfind).1 hanswers)
    obtain ⟨p, hp, hpname⟩ := Manifest.project_of_stated h settings hname
    rw [detect_eq_of_find hroot h hfind, hp]
    refine ⟨p, rfl, hpname.trans ?_⟩
    cases name with
    | none => rfl
    | some name => exact absurd hname (hsilent.stated_ne name)
  · obtain ⟨found, hfind, hfound⟩ := (Manifest.find_succeeds h).exists_ok
    obtain ⟨listed, hlisted⟩ := h.sourceFiles (.ofAll settings.excluded)
    cases found with
    | none =>
      rw [detect_eq_none_of_missing hroot h hfound hlisted, hlisted, Except.ok.injEq, and_iff_right hfound]
    | some manifest =>
      rw [detect_eq_of_find hroot h hfind]
      refine iff_of_false (fun hnone => ?_) fun ⟨hmissing, _⟩ => ?_
      · obtain ⟨p, -, hp⟩ := map_eq_ok_iff.1 hnone
        nomatch hp
      · rw [hmissing.find_eq] at hfind
        nomatch hfind

/-! ### Manifests that cannot be read -/

/-- A directory with one file in it. -/
def oneFile (name : String) (bytes : Array UInt8) : FileTree :=
  .directory [("app", .directory [(name, .file ⟨bytes⟩)])]

/-- A document that breaks off. -/
def brokenPom : FileTree := oneFile "pom.xml" #[0x3C, 0x61]

/-- The directory gives its name. -/
theorem detects_brokenPom : Detects brokenPom .default (.ofString "app") ⟨"/", ["app"]⟩ ∧
    ∃ p, detect brokenPom .default (.ofString "app") = .ok (some p) ∧ p.name = .ofText "app" := by
  have hroot : (Path.ofString "app").resolve = .ok ⟨"/", ["app"]⟩ := by decide +kernel
  have haccess : Manifest.Accessible brokenPom ⟨"/", ["app"]⟩ := by decide +kernel
  have hfind : Manifest.find brokenPom ⟨"/", ["app"]⟩ = .ok (some (.maven, ⟨"/", ["app", "pom.xml"]⟩)) := by
    decide +kernel
  have hbytes : brokenPom.read ⟨"/", ["app", "pom.xml"]⟩ = .ok ⟨#[0x3C, 0x61]⟩ := by decide +kernel
  have hxml : Xml.ofBytes ⟨#[0x3C, 0x61]⟩ = .error .malformed := by rfl
  have hfree : ¬ Obstructed brokenPom .default ⟨"/", ["app"]⟩ := by
    rintro (⟨kind, path, hfind', hstops⟩ | ⟨hmissing, -⟩)
    · rw [hfind] at hfind'
      cases hfind'
      obtain ⟨bytes, hbytes', cause, hcause, hne⟩ := hstops
      rw [hbytes] at hbytes'
      cases hbytes'
      rw [hxml] at hcause
      cases hcause
      exact hne rfl
    · rw [hmissing.find_eq] at hfind
      nomatch hfind
  have hdetects := (detects_iff hroot haccess).2 hfree
  refine ⟨hdetects, hdetects.fallback .maven _ hfind fun bytes project hbytes' hproject => ?_⟩
  rw [hbytes] at hbytes'
  cases hbytes'
  rw [hxml] at hproject
  nomatch hproject

/-- Settings of a byte that is no text. -/
def latinSettings : FileTree := oneFile "settings.gradle" #[0xFF]

/-- They stop their reader, although they are readable, and the directory could give its name. -/
theorem not_detects_latinSettings :
    (Path.ofString "app").resolve = .ok ⟨"/", ["app"]⟩ ∧ Manifest.Accessible latinSettings ⟨"/", ["app"]⟩ ∧
      latinSettings.read ⟨"/", ["app", "settings.gradle"]⟩ = .ok ⟨#[0xFF]⟩ ∧
      Manifest.gradle.IsSilent latinSettings ⟨"/", ["app"]⟩ ⟨"/", ["app", "settings.gradle"]⟩ ∧
      detect latinSettings .default (.ofString "app") = .error .undecodable ∧
      ¬ Detects latinSettings .default (.ofString "app") ⟨"/", ["app"]⟩ := by
  have hstop : detect latinSettings .default (.ofString "app") = .error .undecodable := by decide +kernel
  refine ⟨by decide +kernel, by decide +kernel, by decide +kernel, ?_, hstop, fun hdetects => ?_⟩
  · have hnone : ∀ file ∈ Manifest.settingsFiles ⟨"/", ["app"]⟩, (latinSettings.readText file).isOk = false := by
      decide +kernel
    intro file hfile text htext
    have hfails := hnone file hfile
    rw [htext] at hfails
    nomatch hfails
  · obtain ⟨answer, hanswer⟩ := hdetects.answers
    rw [hstop] at hanswer
    nomatch hanswer

end CodeAtlas.Project
