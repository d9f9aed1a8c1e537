import CodeAtlas.Extraction
import CodeAtlas.Proofs.Extraction.Java
import CodeAtlas.Proofs.Extraction.Python
import CodeAtlas.Proofs.Extraction.Script
import CodeAtlas.Proofs.Resolution.Order
/-!
  What can become of one source file.

  A file is broken if it cannot be read, if its syntax tree has an error, or if the walk over the tree meets bytes
  that are no text.  It is a stray if it can be read but stands outside of the project.  There are three cases: a
  stray stops the whole analysis, a broken file gives one diagnostic and nothing else, and any other file gives
  its declarations.

  Three things are taken for granted of a file, because no disk and no grammar gives another one: it was found
  below its source root, its path can be followed, and it has no more bytes than there can be dots.
-/
namespace CodeAtlas

open Fault

/-! ## All languages -/

theorem Declarations.OneFile.mono {a b : Nat} {d : Declarations} (h : d.OneFile a) (hle : a ≤ b) : d.OneFile b where
  files := by
    obtain ⟨f, hf, hlevels⟩ := h.files
    exact ⟨f, hf, fun i hi => Int.le_trans (hlevels i hi) (Int.ofNat_le.2 hle)⟩
  diagnostics := h.diagnostics
  names := h.names

/-- No import of a file has more dots than the file has bytes. -/
theorem Language.decodes_extract (language : Language) (source : Source) {path root : Path} (h : path.IsUnder root)
    (file : String) (tree : SyntaxTree) :
    Decodes (language.extract source path root file tree) (Declarations.OneFile source.bytes.size) := by
  cases language with
  | java => exact (Java.decodes_extract source h file tree).mono fun d hd => hd.mono (Nat.zero_le _)
  | python => exact Python.decodes_extract source h file tree
  | typescript => exact (Script.decodes_extract _ source h file tree).mono fun d hd => hd.mono (Nat.zero_le _)
  | javascript => exact (Script.decodes_extract _ source h file tree).mono fun d hd => hd.mono (Nat.zero_le _)

/-! ## Reading -/

namespace FileTree

/-- Going down can fail at a name, and this is a fault of files. -/
theorem descend_ends (above : List (String × FileTree)) (here : FileTree) (names : List String) :
    Ends (descend above here names) (fun _ => True) fun f => f.isFileFault = true := by
  induction names generalizing above here with
  | nil => exact ends_ok trivial
  | cons name rest ih =>
    cases here with
    | file content => exact ends_error rfl
    | directory es =>
      simp only [descend]
      split
      · cases above with
        | nil => exact ih [] _
        | cons up above => exact ih above _
      · split
        · exact ends_error rfl
        · split
          · exact ends_error rfl
          · exact ih _ _

/-- A path that can be followed is read, or the disk says why not. -/
theorem read_ends (t : FileTree) {p : Path} (h : p.checkBytes = .ok ()) :
    Ends (t.read p) (fun _ => True) fun f => f.isFileFault = true := by
  have hfollow : Ends (t.follow p) (fun _ => True) fun f => f.isFileFault = true := by
    unfold follow
    rw [h]
    show Ends (if p.isLong = true then throw .nameTooLong else descend [] t p.parts) _ _
    split
    · exact ends_error rfl
    · exact descend_ends [] t p.parts
  have hfind : Ends (t.find p) (fun _ => True) fun f => f.isFileFault = true := hfollow.map fun _ _ => trivial
  refine hfind.bind fun found _ => ?_
  split
  · exact ends_pure trivial
  · exact ends_error rfl

end FileTree

namespace Workspace

variable {w : Workspace} {language : Language} {projectRoot : Path} {file : Path × Path}

/-! ## Sorts of files -/

/-- Whether a file cannot be used: it cannot be read, its tree has an error, or it is not UTF-8 somewhere that
    matters. -/
def isBroken (w : Workspace) (language : Language) (projectRoot : Path) (file : Path × Path) : Bool :=
  match w.files.read file.2 with
  | .error _ => true
  | .ok bytes =>
    let tree := w.tree (Grammar.forFile language file.2.suffix) bytes
    tree.hasError
      || match language.extract ⟨bytes⟩ file.2 file.1 (file.2.relativeText projectRoot) tree with
        | .error f => f = .undecodable
        | .ok _ => false

/-- Whether a file can be read, and stands outside of the project. -/
def isStray (w : Workspace) (projectRoot : Path) (file : Path × Path) : Bool :=
  (w.files.read file.2).isOk && (file.2.below? projectRoot).isNone

/-- A file, with its source root, as a disk and a grammar take it. -/
structure Admits (w : Workspace) (file : Path × Path) : Prop where
  /-- it was found below its source root -/
  under : file.2.IsUnder file.1
  /-- its path has bytes -/
  named : file.2.checkBytes = .ok ()
  /-- there are no more bytes in it than dots can be written -/
  small : ∀ bytes, w.files.read file.2 = .ok bytes → bytes.size ≤ SymbolTable.maxDots

/-! ## The three cases -/

/-- A stray stops the analysis, whatever is in it. -/
theorem declarationsOf_stray (h : w.isStray projectRoot file = true) :
    w.declarationsOf language projectRoot file = .error .badValue := by
  rw [isStray, Bool.and_eq_true, Option.isNone_iff_eq_none] at h
  obtain ⟨hread, hbelow⟩ := h
  cases hbytes : w.files.read file.2 with
  | error f => rw [hbytes] at hread; nomatch hread
  | ok bytes =>
    have hin : w.declarationsIn language projectRoot file.1 file.2 = .error .badValue := by
      unfold declarationsIn
      rw [hbytes, hbelow]
      rfl
    unfold declarationsOf
    rw [hin]
    rfl

/-- Declarations with nothing but one diagnostic, which is about a certain path. -/
def OnlyDiagnostic (path : String) (d : Declarations) : Prop :=
  ∃ x, d = { Declarations.empty with diagnostics := [x] } ∧ x.path = path ∧ x.line.isLine = true

/-- What cannot be read is left out with a diagnostic. -/
theorem declarationsOf_unreadable {f : Fault} (h : w.declarationsIn language projectRoot file.1 file.2 = .error f)
    (hf : f.isFileFault = true ∨ f = .undecodable) :
    Succeeds (w.declarationsOf language projectRoot file) (OnlyDiagnostic (file.2.relativeText projectRoot)) := by
  have hdiagnostic : diagnosticOf (file.2.relativeText projectRoot) f = some
      { path := file.2.relativeText projectRoot
        message := "Could not read " ++ file.2.relativeText projectRoot ++ ": ...", line := .null } := by
    unfold diagnosticOf
    split
    · exact (hf.elim (fun h => nomatch h) fun h => nomatch h)
    · rw [if_pos]
      simpa using hf
  unfold declarationsOf
  rw [h]
  simp only [hdiagnostic]
  exact ends_ok ⟨_, rfl, rfl, rfl⟩

/-- What has an error is left out with a diagnostic. -/
theorem declarationsOf_syntaxError {line : Option Nat}
    (h : w.declarationsIn language projectRoot file.1 file.2 =
      .error (.syntaxError (file.2.relativeText projectRoot) line)) :
    Succeeds (w.declarationsOf language projectRoot file) (OnlyDiagnostic (file.2.relativeText projectRoot)) := by
  unfold declarationsOf
  rw [h]
  exact ends_ok ⟨_, rfl, rfl, by cases line <;> rfl⟩

/-- A file that is read inside of the project. -/
theorem declarationsIn_eq {bytes : ByteArray} (hread : w.files.read file.2 = .ok bytes)
    (hstray : w.isStray projectRoot file = false) :
    w.declarationsIn language projectRoot file.1 file.2 =
      if (w.tree (Grammar.forFile language file.2.suffix) bytes).hasError then
        .error (.syntaxError (file.2.relativeText projectRoot)
          ((Source.mk bytes).firstErrorLine (w.tree (Grammar.forFile language file.2.suffix) bytes)))
      else
        language.extract ⟨bytes⟩ file.2 file.1 (file.2.relativeText projectRoot)
          (w.tree (Grammar.forFile language file.2.suffix) bytes) := by
  rw [isStray, hread] at hstray
  cases hbelow : file.2.below? projectRoot with
  | none => rw [hbelow] at hstray; nomatch hstray
  | some rel =>
    unfold declarationsIn Path.relativeText
    rw [hread, hbelow]
    rfl

/-- A broken file inside of the project gives a diagnostic. -/
theorem declarationsOf_broken (hfile : w.Admits file) (hstray : w.isStray projectRoot file = false)
    (hbroken : w.isBroken language projectRoot file = true) :
    Succeeds (w.declarationsOf language projectRoot file) (OnlyDiagnostic (file.2.relativeText projectRoot)) := by
  cases hread : w.files.read file.2 with
  | error f =>
    have hin : w.declarationsIn language projectRoot file.1 file.2 = .error f := by
      unfold declarationsIn
      rw [hread]
      rfl
    exact declarationsOf_unreadable hin (.inl ((w.files.read_ends hfile.named).of_error hread))
  | ok bytes =>
    have hin : w.declarationsIn language projectRoot file.1 file.2 = _ := declarationsIn_eq hread hstray
    rw [isBroken, hread] at hbroken
    simp only [Bool.or_eq_true] at hbroken
    -- the tree is looked at first, so bytes that are no text matter only where it has no error
    rcases hbroken with herror | hbytes
    · rw [if_pos herror] at hin
      exact declarationsOf_syntaxError hin
    · by_cases herror : (w.tree (Grammar.forFile language file.2.suffix) bytes).hasError = true
      · rw [if_pos herror] at hin
        exact declarationsOf_syntaxError hin
      · rw [if_neg herror] at hin
        split at hbytes
        · next f hextract =>
          rw [hextract] at hin
          exact declarationsOf_unreadable hin (.inr (of_decide_eq_true hbytes))
        · nomatch hbytes

/-- Any other file gives its declarations. -/
theorem declarationsOf_usable (hfile : w.Admits file) (hstray : w.isStray projectRoot file = false)
    (hbroken : w.isBroken language projectRoot file = false) :
    Succeeds (w.declarationsOf language projectRoot file) (Declarations.OneFile SymbolTable.maxDots) := by
  cases hread : w.files.read file.2 with
  | error f => rw [isBroken, hread] at hbroken; nomatch hbroken
  | ok bytes =>
    have hin : w.declarationsIn language projectRoot file.1 file.2 = _ := declarationsIn_eq hread hstray
    rw [isBroken, hread] at hbroken
    simp only [Bool.or_eq_false_iff] at hbroken
    obtain ⟨herror, hbytes⟩ := hbroken
    rw [if_neg (by rw [herror]; exact Bool.false_ne_true)] at hin
    -- taking declarations out fails for bytes that are no text only, and the file would be broken then
    have hextract := language.decodes_extract ⟨bytes⟩ hfile.under (file.2.relativeText projectRoot)
      (w.tree (Grammar.forFile language file.2.suffix) bytes)
    rw [← hin] at hextract hbytes
    unfold declarationsOf
    cases hd : w.declarationsIn language projectRoot file.1 file.2 with
    | ok d => exact ends_ok ((hextract.of_ok hd).mono (hfile.small bytes hread))
    | error f =>
      rw [hd, hextract.of_error hd] at hbytes
      nomatch hbytes

end Workspace

end CodeAtlas
