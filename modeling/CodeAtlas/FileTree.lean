import CodeAtlas.FileTree.Name
import CodeAtlas.OrderedMap
/-!
  Trees of files and directories.

  A tree is a value: it is read by looking a path up, and changed by making another tree.  There are no
  links, so a path without dots leads to at most one place, and two dots lead back up.  `find` says why a path
  leads nowhere: a name is missing or too long, something on the way is a file, or no file can have such a path.

  The view of a tree that tells whether anything was lost is `files`, the regular files with their paths
  and contents.
-/
namespace CodeAtlas

/-- A file, or a directory with named entries. -/
inductive FileTree where
  | file (content : ByteArray)
  | directory (entries : List (String × FileTree))
deriving Inhabited

namespace FileTree

/-- A directory without entries. -/
def empty : FileTree := directory []

/-- Directories. -/
def isDirectory : FileTree → Bool
  | file _ => false
  | directory _ => true

/-- The entries of a directory; a file has none. -/
def entries : FileTree → List (String × FileTree)
  | file _ => []
  | directory es => es

/-! ## Finding -/

/-- The place that some names lead to from a directory, with the directories above it, the nearest first. -/
def descend (above : List (String × FileTree)) (here : FileTree) :
    List String → Except Fault (List (String × FileTree) × FileTree)
  | [] => .ok (above, here)
  | name :: rest =>
    match here with
    | file _ => .error .notDirectory
    | directory es =>
      if name = ".." then
        match above with
        | [] => descend [] here rest
        | (_, up) :: above => descend above up rest
      else if Path.isLongName name then .error .nameTooLong
      else
        match OrderedMap.lookup name es with
        | none => .error .fileMissing
        | some t => descend ((name, here) :: above) t rest

/-- The place that a path leads to, with the directories above it. -/
def follow (t : FileTree) (p : Path) : Except Fault (List (String × FileTree) × FileTree) := do
  p.checkBytes
  if p.isLong then throw .nameTooLong else descend [] t p.parts

/-- The tree at a path. -/
def find (t : FileTree) (p : Path) : Except Fault FileTree := (t.follow p).map (·.2)

/-- The names, without dots, of a path that leads somewhere. -/
def locate (t : FileTree) (p : Path) : Except Fault (List String) :=
  (t.follow p).map fun (above, _) => above.reverse.map (·.1)

/-- What is said of the tree at a path.  Nothing is at a path that leads nowhere; only one that is too long
    cannot be asked about. -/
def check (question : FileTree → Bool) (t : FileTree) (p : Path) : Except Fault Bool :=
  match t.find p with
  | .ok found => .ok (question found)
  | .error .nameTooLong => .error .nameTooLong
  | .error _ => .ok false

/-- Whether there is a file at a path. -/
def hasFile (t : FileTree) (p : Path) : Except Fault Bool := check (!·.isDirectory) t p

/-- Whether there is a directory at a path. -/
def hasDirectory (t : FileTree) (p : Path) : Except Fault Bool := check isDirectory t p

/-- The content of the file at a path. -/
def read (t : FileTree) (p : Path) : Except Fault ByteArray := do
  match ← t.find p with
  | file content => return content
  | directory _ => throw .isDirectory

/-- The characters of the file at a path. -/
def readCharacters (t : FileTree) (p : Path) : Except Fault String := do
  match String.fromUTF8? (← t.read p) with
  | some s => return s
  | none => throw .undecodable

/-- The text of the file at a path. -/
def readText (t : FileTree) (p : Path) : Except Fault String := do
  match Text.ofUtf8? (← t.read p) with
  | some text => return text
  | none => throw .undecodable

/-! ## Changing -/

/-- The tree with the entries of a directory changed; the names say where it is. -/
def modify (change : List (String × FileTree) → List (String × FileTree)) :
    List String → FileTree → FileTree
  | _, file content => file content
  | [], directory es => directory (change es)
  | name :: rest, directory es =>
    match OrderedMap.lookup name es with
    | none => directory es
    | some t => directory (OrderedMap.put name (modify change rest t) es)

/-- The tree with an entry in a directory, in place of an entry with the same name. -/
def put (t : FileTree) (place : List String) (name : String) (entry : FileTree) : FileTree :=
  modify (OrderedMap.put name entry) place t

/-- The tree without an entry of a directory. -/
def remove (t : FileTree) (place : List String) (name : String) : FileTree :=
  modify (fun es => es.filter fun e => e.1 ≠ name) place t

/-- The tree without what is at a path. -/
def prune (t : FileTree) (p : Path) : Except Fault FileTree := do
  let place ← t.locate p
  return t.remove place.dropLast (place.getLast?.getD "")

/-! ## All files -/

mutual

/-- The regular files of a tree with their paths and contents. -/
def files : FileTree → List (List String × ByteArray)
  | file content => [([], content)]
  | directory es => filesOf es

/-- The regular files of some entries. -/
def filesOf : List (String × FileTree) → List (List String × ByteArray)
  | [] => []
  | (name, t) :: rest => (files t).map (fun (path, content) => (name :: path, content)) ++ filesOf rest

end

end FileTree

end CodeAtlas
