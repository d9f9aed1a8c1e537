import CodeAtlas.FileTree.Disk
import CodeAtlas.Json
import CodeAtlas.Number.Numeral
import CodeAtlas.Workspace
/-!
  Descriptions of workspaces as JSON.

  An object gives every path its content: null for a directory, a text for a file, or an object with the
  field `text` or `hex` and the syntax tree of the file under `tree`.

  A tree is a list: the kind of the node, flags, the first byte, the byte after the last one, the field that
  it fills, and the list of its children.  The parts at the end may be absent.  The flags are 1 for a named
  node, 2 for a missing one, and 4 for an error inside.  A tree belongs to a grammar and to the bytes of a
  file, wherever the file is; without a tree a file is one node.
-/
namespace CodeAtlas.Workspace

namespace Description

/-- Whether a number has a bit with a value. -/
def hasFlag (flags : Int) (value : Nat) : Bool := flags.toNat / value % 2 = 1

mutual

/-- The syntax tree that a value describes. -/
def treeOf : Json → Option SyntaxTree
  | .arr (.str kind :: .int flags :: .int start :: .int stop :: rest) =>
    let named := hasFlag flags 1
    let missing := hasFlag flags 2
    let hasError := hasFlag flags 4
    match rest with
    | [] => some (.node kind named missing hasError start.toNat stop.toNat "" [])
    | [.str field] => some (.node kind named missing hasError start.toNat stop.toNat field [])
    | .str field :: .arr children :: _ =>
      (treesOf children).map fun children =>
        .node kind named missing hasError start.toNat stop.toNat field children
    | _ => none
  | _ => none

/-- The syntax trees that values describe. -/
def treesOf : List Json → Option (List SyntaxTree)
  | [] => some []
  | v :: rest =>
    match treeOf v, treesOf rest with
    | some t, some ts => some (t :: ts)
    | _, _ => none

end

/-- The bytes that pairs of hexadecimal digits stand for. -/
def bytesOfHex : List Char → List UInt8
  | a :: b :: rest => UInt8.ofNat (Numeral.value 16 [a, b]) :: bytesOfHex rest
  | _ => []

/-- A file with a text. -/
def fileOf (text : String) : Except Fault FileTree :=
  match Text.utf8? text with
  | some bytes => .ok (.file bytes)
  | none => .error .unencodable

/-- The entry and the tree that a content describes. -/
def contentOf (v : Json) : Except Fault (FileTree × Option SyntaxTree) :=
  let tree := (v.get? "tree").bind treeOf
  match v, v.get? "text", v.get? "hex" with
  | .str s, _, _ => (fileOf s).map (·, none)
  | .obj _, some (.str s), _ => (fileOf s).map (·, tree)
  | .obj _, _, some (.str digits) => .ok (.file ⟨(bytesOfHex digits.toList).toArray⟩, tree)
  | _, _, _ => .ok (.empty, none)

/-- The grammar for a file by the suffix of its name alone. -/
def grammarOf (suffix : String) : Option Grammar :=
  (OrderedMap.lookup suffix Language.extensions).map fun language => Grammar.forFile language suffix

end Description

/-- A tree for all files of a grammar with some bytes. -/
structure KnownTree where
  grammar : Grammar
  bytes : ByteArray
  tree : SyntaxTree

/-- Files with the trees that are known, the newest first. -/
structure Described where
  files : FileTree
  known : List KnownTree

namespace Described

/-- The top directory, with nothing in it. -/
def empty : Described := { files := .empty, known := [] }

/-- Adds a content at a path.  A content that cannot be added leaves the directories made for it. -/
def add (d : Described) (path : Path) (content : Json) : Except Fault Unit × Described :=
  match Description.contentOf content with
  | .error f => (.error f, d)
  | .ok (entry, tree) =>
    let (result, disk) := (Disk.Action.plant path entry).on (Disk.sound d.files)
    match result, entry, tree, Description.grammarOf path.suffix with
    | .ok (), .file bytes, some tree, some grammar =>
      (result, { files := disk.tree, known := ⟨grammar, bytes, tree⟩ :: d.known })
    | _, _, _, _ => (result, { d with files := disk.tree })

/-- The files that an object describes, below a root. -/
def addAll (d : Described) (root : Path) (fields : List (Json.Key × Json)) : Except Fault Described :=
  fields.foldlM (fun d (key, content) =>
    match key with
    | .str path =>
      let (result, d) := d.add (root.join (Path.ofString path)) content
      result.map fun _ => d
    | _ => .ok d) d

/-- The tree of a file: the known one, or else a single node. -/
def treeFor (d : Described) : TreeBuilder := fun grammar bytes =>
  match d.known.find? fun k => k.grammar = grammar && k.bytes.data == bytes.data with
  | some k => k.tree
  | none => .node "program" true false false 0 bytes.size "" []

end Described

end CodeAtlas.Workspace
