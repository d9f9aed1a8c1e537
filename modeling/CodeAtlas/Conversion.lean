import CodeAtlas.Graph
import CodeAtlas.Graph.Adjacency
import CodeAtlas.Symbol
import CodeAtlas.Text.LetterCase
/-!
  From any known shape of dependency data to a graph.

  There are three shapes: a written graph; the symbols of one language; and a list of classes, each with the
  names of the classes it refers to.  The shape is told by the fields alone.

  A graph is taken as it is if it is intact.  For the other two shapes the graph is put together from nodes
  and edges in order: of several nodes with one identifier the first is kept, an edge is kept once, and an
  edge that leaves the graph is dropped and counted.  So whatever comes out is intact.
-/
namespace CodeAtlas

/-- A shape of dependency data. -/
inductive Shape where
  | graph
  | symbols
  | classes
  | unknown
deriving Repr, DecidableEq, Inhabited

namespace Shape

/-- The name of a shape. -/
def name : Shape → String
  | graph => "standard"
  | symbols => Dependencies.formatName
  | classes => "legacy-java"
  | unknown => "unknown"

/-- Whether a field holds a list. -/
def holdsList (name : String) (v : Json) : Bool :=
  match v.get? name with
  | some (.arr _) => true
  | _ => false

/-- The shape of a value. -/
def ofJson (v : Json) : Shape :=
  match v with
  | .obj _ =>
    if holdsList "nodes" v && holdsList "edges" v then graph
    else if v.get? "format" = some (.str Dependencies.formatName) || holdsList "symbols" v then symbols
    else if holdsList "classes" v then classes
    else unknown
  | _ => unknown

end Shape

namespace Graph

/-- The nodes without those whose identifier stands further in front. -/
def firstNodes : List Node → List Node
  | [] => []
  | n :: rest => n :: (firstNodes rest).filter fun m => m.id ≠ n.id

/-- The identifiers that are left are the distinct ones at their first positions. -/
theorem ids_firstNodes (nodes : List Node) :
    (firstNodes nodes).map (·.id) = Adjacency.firsts (nodes.map (·.id)) := by
  induction nodes with
  | nil => rfl
  | cons n rest ih =>
    simp only [firstNodes, List.map_cons, Adjacency.firsts, ← ih, List.filter_map]
    rfl

/-- Whether both ends of an edge are among the identifiers. -/
def joins (ids : List String) (e : Edge) : Bool := ids.contains e.source && ids.contains e.target

/-- The intact graph of nodes and edges in order, with the counts of what was dropped. -/
def assemble (nodes : List Node) (edges : List Edge) (metadata : Metadata) : Graph :=
  let kept := firstNodes nodes
  let ids := kept.map (·.id)
  let distinct := Adjacency.firsts edges
  let dropped := distinct.filter fun e => !joins ids e
  let repeated := nodes.length - kept.length
  { nodes := kept
    edges := distinct.filter (joins ids)
    metadata := (metadata.set "pruned_edges" (.int dropped.length)).setIf (repeated ≠ 0)
      "duplicate_nodes" (.int repeated) }

theorem ids_assemble (nodes : List Node) (edges : List Edge) (metadata : Metadata) :
    (assemble nodes edges metadata).ids = Adjacency.firsts (nodes.map (·.id)) :=
  ids_firstNodes nodes

theorem edges_assemble (nodes : List Node) (edges : List Edge) (metadata : Metadata) :
    (assemble nodes edges metadata).edges =
      (Adjacency.firsts edges).filter (joins (assemble nodes edges metadata).ids) :=
  rfl

/-! ## Symbols -/

/-- The node of a symbol. -/
def nodeOfSymbol (language : String) (s : Symbol) : Node :=
  { id := s.id
    title := s.title
    kind := s.kind
    metadata := ((s.metadata.set "file_path" (.str s.file)).set "line" s.line).setNew "language"
      (.str language) }

/-- The edges of the relations of a symbol. -/
def edgesOfSymbol (s : Symbol) : List Edge :=
  s.relations.map fun r => ⟨s.id, r.target, EdgeKind.ofRelation r.kind⟩

/-- The graph of the symbols of one language. -/
def ofDependencies (d : Dependencies) : Graph :=
  assemble (d.symbols.map (nodeOfSymbol d.language)) (d.symbols.flatMap edgesOfSymbol)
    (Metadata.ofList [("source_format", .str Shape.symbols.name), ("language", .str d.language),
      ("project", d.project), ("root", .str d.root),
      ("diagnostics", .arr (d.diagnostics.map Diagnostic.toJson))])

end Graph

/-! ## Lists of classes -/

/-- A class with the names of the classes it refers to. -/
structure ClassEntry where
  name : String
  package : String
  kind : String
  file : Json
  references : List (EdgeKind × String)
deriving Repr, DecidableEq, Inhabited

namespace ClassEntry

/-- The identifier of a class: its name in its package, unless the name is qualified already. -/
def id (c : ClassEntry) : String :=
  if c.package = "" || Text.hasChar '.' c.name then c.name else c.package ++ "." ++ c.name

/-- The names in a field: one text, or the texts of the non-empty parts of a value. -/
def names (field : Option Json) : Except Fault (List String) :=
  match field with
  | none | some .null => .ok []
  | some (.str s) => .ok (if s = "" then [] else [s])
  | some v => v.items.map fun parts => parts.filterMap fun x => x.nonEmpty?.map Json.text

/-- The fields with references, and the kinds of edges they stand for. -/
def referenceFields : List (String × EdgeKind) :=
  [("extends", .inherits), ("implements", .implements), ("imports", .imports),
    ("dependencies", .depends)]

/-- The class that a value describes, when it is an object with a name. -/
def ofJson? (v : Json) : Except Fault (Option ClassEntry) :=
  match (v.get? "name").bind Json.nonEmpty? with
  | none => .ok none
  | some name => do
    let references ← referenceFields.mapM fun (field, kind) =>
      (names (v.get? field)).map fun targets => targets.map (kind, ·)
    return some
      { name := name.text
        package := ((v.get? "package").map Json.textOrEmpty).getD ""
        kind := Text.lower (((v.get? "type").bind Json.nonEmpty?).elim "class" Json.text)
        file := ((v.get? "sourceFile").bind Json.nonEmpty?).getD (.str "")
        references := references.flatten }

/-- The node of a class. -/
def toNode (c : ClassEntry) : Node :=
  { id := c.id
    title := Text.afterLast '.' c.name
    kind := c.kind
    metadata := Metadata.ofList [("file_path", c.file), ("line", .null), ("package", .str c.package),
      ("language", .str "java")] }

/-- The identifier that a name means inside of a package: itself when there is such a class, else the class
    of that name in the package when there is one. -/
def resolve (ids : List String) (package target : String) : String :=
  if ids.contains target || package = "" then target
  else
    let local_ := package ++ "." ++ target
    if ids.contains local_ then local_ else target

/-- The edges of the references of a class. -/
def edges (ids : List String) (c : ClassEntry) : List Edge :=
  c.references.map fun (kind, target) => ⟨c.id, resolve ids c.package target, kind⟩

end ClassEntry

namespace Graph

/-- The graph of a list of classes. -/
def ofClasses (classes : List ClassEntry) : Graph :=
  let ids := classes.map (·.id)
  assemble (classes.map ClassEntry.toNode) (classes.flatMap (ClassEntry.edges ids))
    (Metadata.ofList [("source_format", .str Shape.classes.name), ("language", .str "java"),
      ("diagnostics", .arr [])])

/-- What a value is, in the message about an unknown shape. -/
def typeName : Json → String
  | .null => "NoneType"
  | .bool _ => "bool"
  | .int _ => "int"
  | .float _ => "float"
  | .str _ => "str"
  | .arr _ => "list"
  | .obj _ => "dict"

/-- The first five keys of an object in order, in the message about an unknown shape. -/
def firstKeys : Json → Option String
  | .obj fields =>
    let keys := Text.sort (fields.map fun f => (Json.ofKey f.1).text)
    some (Json.arr ((keys.take 5).map .str)).shown
  | _ => none

/-- The graph itself if it is intact. -/
def validated (g : Graph) : Except Fault Graph := g.validate.map fun _ => g

theorem validated_eq_ok_iff (g h : Graph) : g.validated = .ok h ↔ g.Intact ∧ h = g := by
  rw [validated, Fault.map_eq_ok_iff, ← validate_eq_ok_iff]
  constructor
  · rintro ⟨_, hv, rfl⟩; exact ⟨hv, rfl⟩
  · rintro ⟨hv, rfl⟩; exact ⟨(), hv, rfl⟩

/-- The graph of a value of any known shape. -/
def convert (v : Json) : Except Fault Graph :=
  match Shape.ofJson v with
  | .graph => do (← Graph.ofJson v).validated
  | .symbols => (Dependencies.ofJson v).map ofDependencies
  | .classes => do
    let entries ← (← v.itemsField "classes").filterMapM ClassEntry.ofJson?
    return ofClasses entries
  | .unknown => .error (.unknownShape (typeName v) (firstKeys v))

end Graph

/-! ## All that can be converted -/

/-- Dependency data as it comes: a value of any shape, or the symbols or the graph that one was read as. -/
inductive DependencyData where
  | value (v : Json)
  | symbols (d : Dependencies)
  | graph (g : Graph)
deriving Repr, DecidableEq, Inhabited

namespace DependencyData

/-- The shape of dependency data. -/
def shape : DependencyData → Shape
  | value v => Shape.ofJson v
  | symbols _ => .symbols
  | graph _ => .graph

/-- The graph of dependency data. -/
def toGraph : DependencyData → Except Fault Graph
  | value v => Graph.convert v
  | symbols d => .ok (Graph.ofDependencies d)
  | graph g => g.validated

end DependencyData

end CodeAtlas
