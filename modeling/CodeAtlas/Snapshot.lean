import CodeAtlas.Conversion
import CodeAtlas.FileTree.Disk
import CodeAtlas.Json.Reader
import CodeAtlas.Json.Writer
/-!
  Snapshots: graphs kept in files.

  A directory of snapshots may hold a graph, the symbols of an analysis, or an old list of classes, each in a
  file of its own.  They are tried in this order, and one that cannot be used is passed over.  What is loaded
  from one of the other two files is saved as a graph at once, so that it is converted only once.
-/
namespace CodeAtlas

/-- The text of a snapshot. -/
def Json.document (v : Json) : Except Fault String :=
  if maxDepth < v.depth then .error .tooDeep else .ok (v.pretty ++ "\n")

namespace Graph

/-- The graph in a file of any known shape. -/
def ofFile (t : FileTree) (path : Path) : Except Fault Graph := do
  match Json.read (← t.readCharacters path) with
  | .error .malformed => throw (.notJson path.text)
  | .error .tooLong => throw .badValue
  | .error .tooDeep => throw .tooDeep
  | .ok v =>
    match Graph.convert v with
    | .ok g => return g
    | .error f => throw (if f.isValueFault then .malformedSnapshot path.text else f)

end Graph

/-- A directory of snapshots. -/
structure SnapshotStore where
  directory : Path
deriving Repr, DecidableEq, Inhabited

namespace SnapshotStore

/-- The file of a graph. -/
def graphFile : String := "standard-dependencies.json"

/-- The file of the symbols of an analysis. -/
def symbolsFile : String := "language-dependencies.json"

/-- The file of a list of classes. -/
def classesFile : String := "dependencies.json"

/-- The files in the order in which they are tried. -/
def fileNames : List String := [graphFile, symbolsFile, classesFile]

/-- Whether there is any snapshot. -/
def hasAny (s : SnapshotStore) (t : FileTree) : Except Fault Bool :=
  fileNames.anyM fun name => t.hasFile (s.directory.child name)

/-- A fault that makes a snapshot useless but leaves the others alone. -/
def isPassedOver (f : Fault) : Bool := f.isFileFault || f.isSnapshotFault || f.isGraphFault

/-- The first usable graph in some files, and the file. -/
def firstUsable (s : SnapshotStore) (t : FileTree) : List String → Except Fault (Option (String × Graph))
  | [] => return none
  | name :: rest => do
    let path := s.directory.child name
    if !(← t.hasFile path) then firstUsable s t rest
    else
      match Graph.ofFile t path with
      | .ok g => .ok (some (name, g))
      | .error f => if isPassedOver f then firstUsable s t rest else .error f

/-- Saves a document under a name, and answers where. -/
def saveDocument (s : SnapshotStore) (name : String) (document : Except Fault String) : Disk.Action Path := do
  let path := s.directory.child name
  Disk.Action.save path document
  return path

/-- Saves a graph, and answers where. -/
def save (s : SnapshotStore) (g : Graph) : Disk.Action Path := s.saveDocument graphFile g.toJson.document

/-- Saves symbols, and answers where. -/
def saveSymbols (s : SnapshotStore) (d : Dependencies) : Disk.Action Path :=
  s.saveDocument symbolsFile d.toJson.document

/-- The graph of the first usable snapshot. -/
def load (s : SnapshotStore) : Disk.Action (Option Graph) := do
  match ← Disk.Action.ask fun t => s.firstUsable t fileNames with
  | none => return none
  | some (name, g) =>
    if name ≠ graphFile then
      let _ ← s.save g
    return some g

end SnapshotStore

end CodeAtlas
