import CodeAtlas.OrderedMap
import CodeAtlas.Path
import CodeAtlas.Symbol
/-!
  The symbols of a project, with the indices that name resolution needs.

  A declaration is known by its file and its qualified name.  The first declaration of a qualified name gets
  that name as its identifier; another one of the same name gets the name, an at sign, and its file.  Adding
  a declaration twice gives the first symbol again.

  There are indices by file and qualified name, by qualified name (the first one), and, for types only, by
  title (all of them).
-/
namespace CodeAtlas

/-- Symbols and their indices. -/
structure SymbolTable where
  root : Path
  language : String
  symbols : OrderedMap String Symbol
  byRecord : OrderedMap (String × String) String
  byQualified : OrderedMap String String
  byTitle : OrderedMap String (List String)
deriving Repr, DecidableEq, Inhabited

namespace SymbolTable

/-- The kinds of symbols that are types. -/
def typeKinds : List String := ["class", "interface", "protocol", "enum"]

/-- The table without symbols. -/
def empty (root : Path) (language : String) : SymbolTable :=
  { root, language, symbols := .empty, byRecord := .empty, byQualified := .empty, byTitle := .empty }

/-- A declaration that is to become a symbol. -/
structure Entry where
  qualified : String
  title : String
  kind : String
  file : String
  line : Json
  metadata : Metadata
deriving Repr, DecidableEq, Inhabited

/-- The identifier that a new declaration gets. -/
def freshId (t : SymbolTable) (qualified file : String) : String :=
  if t.symbols.contains qualified then qualified ++ "@" ++ file else qualified

/-- The symbol of a new declaration. -/
def symbolOf (t : SymbolTable) (e : Entry) : Symbol :=
  let source := if e.file = "" then "" else (t.root.join (Path.ofString e.file)).text
  let base := Metadata.ofList [("qualified_name", .str e.qualified), ("language", .str t.language),
    ("source_file", .str source)]
  { id := t.freshId e.qualified e.file
    title := e.title
    kind := e.kind
    file := e.file
    line := e.line
    metadata := base.update e.metadata
    relations := [] }

/-- Puts a new symbol and its indices in. -/
def register (t : SymbolTable) (e : Entry) (s : Symbol) : SymbolTable :=
  { t with
    symbols := t.symbols.insert s.id s
    byRecord := t.byRecord.insert (e.file, e.qualified) s.id
    byQualified := t.byQualified.insertNew e.qualified s.id
    byTitle :=
      if typeKinds.contains e.kind then
        t.byTitle.insert e.title ((t.byTitle.get? e.title).getD [] ++ [s.id])
      else t.byTitle }

/-- The identifier of a declaration in a file. -/
def record? (t : SymbolTable) (file qualified : String) : Option String := t.byRecord.get? (file, qualified)

/-- The identifier of the first declaration with a qualified name. -/
def lookup? (t : SymbolTable) (qualified : String) : Option String := t.byQualified.get? qualified

/-- The symbol with an identifier. -/
def symbol (t : SymbolTable) (id : String) : Except Fault Symbol :=
  match t.symbols.get? id with
  | some s => .ok s
  | none => .error (.missingField id)

/-- Adds a declaration.  The result is its symbol and the table. -/
def add (t : SymbolTable) (e : Entry) : Except Fault (Symbol × SymbolTable) :=
  match t.record? e.file e.qualified with
  | some id => (t.symbol id).map fun s => (s, t)
  | none =>
    let s := t.symbolOf e
    .ok (s, t.register e s)

/-- The kind of a symbol. -/
def kindOf? (t : SymbolTable) (id : String) : Option String := (t.symbols.get? id).map (·.kind)

/-- Whether an identifier belongs to a type. -/
def isType (t : SymbolTable) (id : String) : Bool := (t.kindOf? id).any fun k => typeKinds.contains k

/-- Adds a relation to a symbol unless it has it. -/
def relate (t : SymbolTable) (id kind target : String) : Except Fault SymbolTable :=
  (t.symbol id).map fun s => { t with symbols := t.symbols.insert id (s.relate kind target) }

end SymbolTable

namespace Symbol

/-- The qualified name that the metadata hold. -/
def qualified (s : Symbol) : Except Fault Json :=
  match s.metadata.get? "qualified_name" with
  | some v => .ok v
  | none => .error (.missingField "qualified_name")

/-- What stands before the last dot of the qualified name, or nothing. -/
def enclosing (s : Symbol) : Except Fault String := do
  let name ← s.qualified
  if ← name.mentions "." then
    match name with
    | .str q => return Text.beforeLast '.' q
    | _ => throw .noFields
  else
    return ""

end Symbol

end CodeAtlas
