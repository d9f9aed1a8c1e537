import CodeAtlas.FileTree
/-!
  A disk that files are saved to.

  A saved file is never half written: the text goes to a new file beside the target, which takes the target's
  place when it is complete.  When this fails, the new file is removed again.

  Every change can be refused by the device, that removal among them: a directory that files can only be added
  to, or a device that has turned read-only in between, keeps the new file, and then the refusal to remove it is
  the fault that counts.  A change is made or it is not; how much of its text a refused writing has left in the
  new file is not told.  An action keeps the tree as it was left when it failed, so that it can be said what a
  failure leaves behind.
-/
namespace CodeAtlas

/-- A change that a device may refuse. -/
inductive Disk.Effect where
  | makeDirectory (place : List String) (name : String)
  | create (place : List String) (name : String)
  | write (place : List String) (name : String)
  | rename (place : List String) (source target : String)
  | remove (place : List String) (name : String)
deriving Repr, DecidableEq

/-- A tree of files on a device. -/
structure Disk where
  tree : FileTree
  /-- why the device refuses a change -/
  refuses : Disk.Effect → Option Fault

namespace Disk

/-- A device that refuses nothing. -/
def sound (tree : FileTree) : Disk := { tree, refuses := fun _ => none }

/-- What an action answers, and the disk that it leaves. -/
abbrev Action (α : Type) := ExceptT Fault (StateM Disk) α

namespace Action

/-- Runs an action. -/
def on {α : Type} (action : Action α) (disk : Disk) : Except Fault α × Disk := action.run.run disk

/-- A question about the files. -/
def ask {α : Type} (question : FileTree → Except Fault α) : Action α := do
  match question (← get).tree with
  | .ok answer => return answer
  | .error f => throw f

/-- A change of the files, unless the device refuses it. -/
def change (effect : Effect) (update : FileTree → Except Fault FileTree) : Action Unit := do
  let disk ← get
  match disk.refuses effect with
  | some f => throw f
  | none =>
    match update disk.tree with
    | .ok tree => set { disk with tree }
    | .error f => throw f

/-- Makes the directories with some names below a place, one after the other, and answers the place of the last
    one.  A file is in the way of its own directory once another one has been `made`, and before that, unless
    its name is the last one, in the way of the path. -/
def makeBelow (made : Bool) (place : List String) : List String → Action (List String)
  | [] => return place
  | name :: rest => do
    if name = ".." then makeBelow made place.dropLast rest
    else
      let here := place ++ [name]
      match (← get).tree.find { anchor := "/", parts := here } with
      | .ok (.directory _) => makeBelow made here rest
      | .ok (.file _) => throw (if made || rest.isEmpty then .fileExists else .notDirectory)
      | .error .fileMissing =>
        change (.makeDirectory place name) fun t => .ok (t.put place name .empty)
        makeBelow true here rest
      | .error f => throw f

/-- Makes a directory with all directories above it, and answers its place. -/
def makeDirectories (path : Path) : Action (List String) := do
  ask fun _ => path.checkBytes
  if path.isLong then throw .nameTooLong else makeBelow false [] path.parts

/-- Puts an entry at a path, after the directories above it have been made.  A directory that is there stays,
    and takes the place of no file. -/
def plant (path : Path) (entry : FileTree) : Action Unit := do
  let place ← makeDirectories path.parent
  match entry, (← get).tree.find path with
  | .file _, .ok (.directory _) => throw .isDirectory
  | .file _, .ok (.file _) => change (.write place path.name) fun t => .ok (t.put place path.name entry)
  | .file _, .error .fileMissing => change (.create place path.name) fun t => .ok (t.put place path.name entry)
  | .directory _, .ok (.directory _) => return
  | .directory _, .ok (.file _) => throw .fileExists
  | .directory _, .error .fileMissing =>
    change (.makeDirectory place path.name) fun t => .ok (t.put place path.name entry)
  | _, .error f => throw f

/-- A name that is longer than all the names of some entries. -/
def freshName (name : String) (es : List (String × FileTree)) : String :=
  let longest := (es.map fun e => e.1.length).foldl max 0
  "." ++ name ++ "." ++ String.ofList (List.replicate longest '_') ++ ".tmp"

/-- The entries of the directory at a place. -/
def entriesAt (place : List String) (t : FileTree) : List (String × FileTree) :=
  match t.find { anchor := "/", parts := place } with
  | .ok dir => dir.entries
  | .error _ => []

/-- Puts a file in the place of another one, but not in that of a directory. -/
def rename (place : List String) (source target : String) : Action Unit :=
  change (.rename place source target) fun t =>
    let es := entriesAt place t
    match OrderedMap.lookup source es, OrderedMap.lookup target es with
    | none, _ => .error .fileMissing
    | some _, some (.directory _) => .error .isDirectory
    | some moved, _ => .ok ((t.remove place source).put place target moved)

/-- Saves a text in a file, all of it or nothing.  The text is made while it is written, so that a text that
    cannot be made leaves its directory behind.  A temporary file that cannot be removed again is left as well. -/
def save (path : Path) (text : Except Fault String) : Action Unit := do
  let place ← makeDirectories path.parent
  let temporary ← ask fun t => .ok (freshName path.name (entriesAt place t))
  change (.create place temporary) fun t => .ok (t.put place temporary (.file .empty))
  try
    let text ← ask fun _ => text
    match Text.utf8? text with
    | some bytes => change (.write place temporary) fun t => .ok (t.put place temporary (.file bytes))
    | none => throw .unencodable
    rename place temporary path.name
  catch f =>
    change (.remove place temporary) fun t => .ok (t.remove place temporary)
    throw f

end Action

end Disk

end CodeAtlas
