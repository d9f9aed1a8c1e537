import CodeAtlas.Language
import CodeAtlas.Path
import CodeAtlas.Project.Name
/-!
  Projects: what is analysed, and where its source files are.
-/
namespace CodeAtlas

/-- A project in one language. -/
structure Project where
  name : Project.Name
  language : Language
  root : Path
  /-- the directories with source files -/
  sourceRoots : List Path
  manifest : Option Path
  buildSystem : Option String
deriving Repr, DecidableEq, Inhabited

namespace Project

/-- The build system, unless its name is empty. -/
def buildSystem? (p : Project) : Option String := p.buildSystem.filter fun b => b ≠ ""

/-- The display text of the name with the build system behind it; without a build system the name itself. -/
def displayName (p : Project) : Except Fault Json :=
  match p.buildSystem? with
  | some b => p.name.text.map fun name => .str (name ++ " (" ++ b ++ ")")
  | none => p.name.toJson

/-- The written form of a project. -/
def toJson (p : Project) : Except Fault Json := do
  return .obj [("name", ← p.name.toJson), ("language", .str p.language.name), ("root_path", .str p.root.text),
    ("source_roots", .arr (p.sourceRoots.map fun r => .str r.text)),
    ("manifest", (p.manifest.map fun m => Json.str m.text).getD .null),
    ("build_system", (p.buildSystem.map Json.str).getD .null)]

/-- The source roots, or the root of the project where none are given. -/
def roots (p : Project) : List Path := if p.sourceRoots.isEmpty then [p.root] else p.sourceRoots

end Project

end CodeAtlas
