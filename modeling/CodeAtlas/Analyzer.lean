import CodeAtlas.Conversion
import CodeAtlas.Extraction
import CodeAtlas.Project
import CodeAtlas.Resolution
import CodeAtlas.Settings
/-!
  Analyzers: from a project in one language to its symbols and to its graph.

  There is one built-in analyzer for each language.  It takes the files of all source roots, each file once
  and with the first root that leads to it.
-/
namespace CodeAtlas

/-- What finds the symbols of the projects in one language. -/
structure Analyzer where
  language : Language
  dependencies : Workspace → Project → Except Fault Dependencies

namespace Analyzer

/-- The source files of a project, each with the source root that leads to it. -/
def filesOf (w : Workspace) (language : Language) (excluded : List String) (p : Project) :
    Except Fault (List (Path × Path)) :=
  p.roots.foldlM
    (fun found root => do
      if ← w.files.hasDirectory root then
        let new := (← w.sourceFiles language excluded root).filter fun f => !(found.map (·.2)).contains f
        return found ++ new.map fun f => (root, f)
      else throw (.noSourceRoot root.text))
    []

/-- The options for the declarations of a project. -/
def optionsOf (settings : Settings) (language : Language) (p : Project) : ResolutionOptions :=
  { language := language.name, project := p.name.toJson.toOption.getD .null, root := p.root.text
    separator := language.separator, noise := language.noise, maxCallTargets := settings.maxCallTargets }

/-- The symbols of some files of a project, each with its source root. -/
def dependenciesIn (settings : Settings) (language : Language) (w : Workspace) (p : Project)
    (files : List (Path × Path)) : Except Fault Dependencies := do
  if files.isEmpty then throw (.noSourceFiles language.name p.root.text)
  else
    let found ← w.declarations language p.root files
    if found.files.isEmpty then throw (.nothingParsed files.length language.name p.root.text)
    else found.resolve (optionsOf settings language p)

/-- The symbols of a project, found by the built-in analyzer of a language. -/
def builtinDependencies (settings : Settings) (language : Language) (w : Workspace) (p : Project) :
    Except Fault Dependencies := do
  dependenciesIn settings language w p (← filesOf w language settings.excluded p)

/-- The built-in analyzer of a language. -/
def builtin (settings : Settings) (language : Language) : Analyzer :=
  { language, dependencies := builtinDependencies settings language }

/-- The graph of a project. -/
def graph (a : Analyzer) (w : Workspace) (p : Project) : Except Fault Graph :=
  (a.dependencies w p).map Graph.ofDependencies

end Analyzer

/-! ## Registries -/

/-- A finished analysis, and whether it gave a graph. -/
structure Analyzer.Run where
  project : Project.Name
  language : Language
  completed : Bool
deriving Repr, DecidableEq, Inhabited

/-- Analyzers to choose from; an earlier one is preferred. -/
structure Registry where
  analyzers : List Analyzer
  /-- the analyses so far -/
  runs : List Analyzer.Run

namespace Registry

/-- A registry of some analyzers. -/
def ofList (analyzers : List Analyzer) : Registry := { analyzers, runs := [] }

/-- The registry of all built-in analyzers. -/
def builtin (settings : Settings) : Registry := ofList (Language.all.map (Analyzer.builtin settings))

/-- The registry with one more analyzer. -/
def register (r : Registry) (a : Analyzer) : Registry := { r with analyzers := r.analyzers ++ [a] }

/-- The analyzer for a language. -/
def find? (r : Registry) (language : Language) : Option Analyzer :=
  r.analyzers.find? fun a => a.language = language

/-- The graph of a project, and the registry after the analysis.  A run that was told to stop has not
    finished, so it is not kept. -/
def analyze (r : Registry) (w : Workspace) (p : Project) : Except Fault Graph × Registry :=
  match r.find? p.language with
  | none => (p.name.text.bind fun name => .error (.noParser name p.language.name), r)
  | some a =>
    match a.graph w p with
    | .error .stopped => (.error .stopped, r)
    | result => (result, { r with runs := r.runs ++ [⟨p.name, p.language, result.isOk⟩] })

end Registry

end CodeAtlas
