import CodeAtlas.Extraction.Java
import CodeAtlas.Extraction.Python
import CodeAtlas.Extraction.Script
import CodeAtlas.FileTree.Sources
import CodeAtlas.Workspace
/-!
  The declarations of source files.

  A file fails on its own: one with errors in its syntax tree, one that cannot be read and one with bytes that
  are not UTF-8 give a diagnostic in place of their declarations, and the others are not affected.
-/
namespace CodeAtlas

namespace Language

/-- Names whose calls say nothing. -/
def noise : Language → List String
  | java => Java.noise
  | python => Python.noise
  | typescript | javascript => Script.noise

/-- What stands between the parts of a module path. -/
def separator : Language → String
  | java | python => "."
  | typescript | javascript => "/"

/-- The declarations of a file, from its syntax tree. -/
def extract (language : Language) (source : Source) (path root : Path) (file : String) (tree : SyntaxTree) :
    Except Fault Declarations :=
  match language with
  | java => Java.extract source path root file tree
  | python => Python.extract source path root file tree
  | typescript | javascript => Script.extract language source path root file tree

end Language

namespace Path

/-- The text of a path below another one; elsewhere the path itself. -/
def relativeText (p root : Path) : String := ((p.below? root).getD p).text

end Path

namespace Source

/-- The line of the first error in a syntax tree. -/
def firstErrorLine (s : Source) (tree : SyntaxTree) : Option Nat :=
  tree.firstError?.map fun t => (s.line t).toNat

end Source

namespace Workspace

/-- The declarations of a file, unless there is something wrong with it. -/
def declarationsIn (w : Workspace) (language : Language) (projectRoot root path : Path) :
    Except Fault Declarations := do
  let source : Source := ⟨← w.files.read path⟩
  match path.below? projectRoot with
  | none => throw .badValue
  | some rel =>
    let tree := w.tree (Grammar.forFile language path.suffix) source.bytes
    if tree.hasError then throw (.syntaxError rel.text (source.firstErrorLine tree))
    else language.extract source path root rel.text tree

/-- What is said about a file that is left out. -/
def diagnosticOf (rel : String) : Fault → Option Diagnostic
  | f@(.syntaxError path line) =>
    some { path, message := f.message?.getD "", line := (line.map fun n => Json.int n).getD .null }
  | f =>
    if f.isFileFault || f = .undecodable then
      some { path := rel, message := "Could not read " ++ rel ++ ": ...", line := .null }
    else none

/-- The declarations of a file, or a diagnostic about it. -/
def declarationsOf (w : Workspace) (language : Language) (projectRoot : Path) (file : Path × Path) :
    Except Fault Declarations :=
  match w.declarationsIn language projectRoot file.1 file.2 with
  | .ok d => .ok d
  | .error f =>
    match diagnosticOf (file.2.relativeText projectRoot) f with
    | some diagnostic => .ok { Declarations.empty with diagnostics := [diagnostic] }
    | none => .error f

/-- The declarations of files, each with its source root. -/
def declarations (w : Workspace) (language : Language) (projectRoot : Path) (files : List (Path × Path)) :
    Except Fault Declarations :=
  (files.mapM (w.declarationsOf language projectRoot)).map Declarations.mergeAll

/-- The source files of a language below a directory. -/
def sourceFiles (w : Workspace) (language : Language) (excluded : List String) (root : Path) :
    Except Fault (List Path) :=
  w.files.sourceFiles ⟨language.sourceExtensions, excluded⟩ root

/-- The declarations of all source files below a directory. -/
def declarationsBelow (w : Workspace) (language : Language) (excluded : List String)
    (projectRoot root : Path) : Except Fault Declarations := do
  w.declarations language projectRoot ((← w.sourceFiles language excluded root).map fun f => (root, f))

end Workspace

end CodeAtlas
