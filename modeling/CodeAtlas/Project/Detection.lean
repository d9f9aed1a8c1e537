import CodeAtlas.Project.Manifest
/-!
  What kind of project lives in a directory.

  A manifest decides.  Without one, the language with the most source files does, and among equals the one
  that is listed first.
-/
namespace CodeAtlas.Project

/-- The language that occurs most often. -/
def mostFrequent (found : List Language) : Option Language :=
  (FileTree.census found).foldl
    (fun best e =>
      match best with
      | some (b : Language × Nat) => if b.2 < e.2 then some e else some b
      | none => some e)
    none |>.map (·.1)

/-- The project in a directory, if there is one. -/
def detect (t : FileTree) (settings : Settings) (dir : Path) : Except Fault (Option Project) := do
  let root ← dir.resolve
  if !(← t.hasDirectory root) then return none
  else
    match ← Manifest.find t root with
    | some (kind, path) => (kind.project t settings root path).map some
    | none =>
      let found ← t.languages settings.excluded root
      return (mostFrequent found).map fun language =>
        { name := .ofText root.name, language, root, sourceRoots := [root], manifest := none
          buildSystem := none }

end CodeAtlas.Project
