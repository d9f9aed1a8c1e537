import CodeAtlas.FileTree
import CodeAtlas.Language
/-!
  The source files in a tree.

  Directories of some names and hidden ones are not looked into, and files that only declare types are left
  out.  In each directory its own files come first, then those of its subdirectories, everything by name.

  The walk itself has no limits.  `FileTree.find` refuses paths of too many bytes, and the readers of JSON and TOML
  refuse values that are nested too deeply; here a file is listed however long its path is and however deep it lies.
  Where the system cannot list a directory with such a path, or a walk by recursion comes to the end of its stack, the
  real listing is the shorter one.
-/
namespace CodeAtlas.FileTree

/-- Which files count as sources. -/
structure SourceFilter where
  /-- endings of file names -/
  extensions : List String
  /-- names of directories that are not looked into -/
  excluded : List String
deriving Repr, DecidableEq, Inhabited

namespace SourceFilter

/-- Whether a file is a source file, by its name. -/
def takes (f : SourceFilter) (name : String) : Bool :=
  f.extensions.any (fun e => Text.endsWith e name) && !Text.endsWith ".d.ts" name

/-- Whether a directory is looked into, by its name. -/
def enters (f : SourceFilter) (name : String) : Bool :=
  !f.excluded.contains name && !Text.startsWith "." name

end SourceFilter

/-- The names of the source files among some entries, in order. -/
def ownSources (filter : SourceFilter) (es : List (String × FileTree)) : List String :=
  Text.sort ((es.filter fun e => !e.2.isDirectory && filter.takes e.1).map (·.1))

/-- Groups in the order of their names. -/
def byName {α : Type} (groups : List (String × α)) : List (String × α) :=
  groups.mergeSort fun a b => Text.le a.1 b.1

mutual

/-- The source files below a directory; a file is no directory and has none.  Neither the length of a path nor the
    depth of a directory is limited. -/
def sources (filter : SourceFilter) : FileTree → List (List String)
  | file _ => []
  | directory es =>
    (ownSources filter es).map (fun name => [name])
      ++ (byName (sourcesOf filter es)).flatMap fun (name, paths) => paths.map (name :: ·)

/-- The source files below the directories among some entries. -/
def sourcesOf (filter : SourceFilter) : List (String × FileTree) → List (String × List (List String))
  | [] => []
  | (name, t) :: rest =>
    if t.isDirectory && filter.enters name then (name, sources filter t) :: sourcesOf filter rest
    else sourcesOf filter rest

end

/-- A source file has a name. -/
theorem ne_nil_of_mem_sources {filter : SourceFilter} {t : FileTree} {parts : List String}
    (h : parts ∈ t.sources filter) : parts ≠ [] := by
  cases t with
  | file content => rw [sources] at h; nomatch h
  | directory es =>
    rw [sources, List.mem_append] at h
    rcases h with h | h
    · obtain ⟨name, -, rfl⟩ := List.mem_map.1 h
      exact List.cons_ne_nil _ _
    · obtain ⟨group, -, h⟩ := List.mem_flatMap.1 h
      obtain ⟨path, -, rfl⟩ := List.mem_map.1 h
      exact List.cons_ne_nil _ _

/-- The source files below a path.  There are none below a path that leads nowhere. -/
def sourceFiles (t : FileTree) (filter : SourceFilter) (root : Path) : Except Fault (List Path) := do
  root.checkBytes
  match t.find root with
  | .ok dir => return (dir.sources filter).map fun parts => { root with parts := root.parts ++ parts }
  | .error _ => return []

/-! ## Languages -/

/-- The language of a source file, by the suffix of its name.  A name that is nothing but an extension has no
    suffix. -/
def languageOf (file : Path) : Except Fault Language :=
  match OrderedMap.lookup file.suffix Language.extensions with
  | some language => .ok language
  | none => .error (.missingField file.suffix)

/-- The languages of the source files below a path, one for each file. -/
def languages (t : FileTree) (excluded : List String) (root : Path) : Except Fault (List Language) := do
  (← t.sourceFiles { extensions := Language.extensions.map (·.1), excluded } root).mapM languageOf

/-- The number of source files of each language that occurs. -/
def census (found : List Language) : List (Language × Nat) :=
  (Language.all.map fun l => (l, found.count l)).filter fun e => e.2 ≠ 0

example : sources ⟨[".py"], ["build"]⟩ (directory
    [("b.py", empty), ("z", directory [("c.py", file .empty)]), ("build", directory [("d.py", file .empty)]),
      ("a.py", file .empty)]) = [["a.py"], ["z", "c.py"]] := by cbv

end CodeAtlas.FileTree
