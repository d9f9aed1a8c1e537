import CodeAtlas.Declarations
import CodeAtlas.SymbolTable
import CodeAtlas.Text.Word
/-!
  From the name of a type, as one file writes it, to its symbol.

  Four places are searched in turn: the qualified names of all symbols; the scopes around the place where
  the name stands, the innermost first and the module last; the names that the file's imports have bound;
  and finally the titles of all types, provided that exactly one type has that title.
-/
namespace CodeAtlas

/-- What is known about the files: their modules, and the names that their imports bind. -/
structure Scopes where
  modules : OrderedMap String String
  bindings : OrderedMap (String × String) String
deriving Repr, DecidableEq, Inhabited

namespace Scopes

/-- The modules of some files, before any import. -/
def ofFiles (files : List SourceFile) : Scopes :=
  { modules := .ofList (files.map fun f => (f.path, f.modulePath)), bindings := .empty }

/-- Binds a name in a file to a symbol; the first binding of a name stays. -/
def bind (s : Scopes) (file name id : String) : Scopes :=
  { s with bindings := s.bindings.insertNew (file, name) id }

/-- The module of a file, or nothing. -/
def moduleOf (s : Scopes) (file : String) : String := (s.modules.get? file).getD ""

/-! ## Scopes -/

/-- The elements up to the first one with a property, that one included. -/
def takeThrough {α : Type} (p : α → Bool) : List α → List α
  | [] => []
  | x :: rest => if p x then [x] else x :: takeThrough p rest

/-- A dotted name and all its dotted beginnings, the longest first. -/
def beginnings (name : String) : List String :=
  let pieces := Text.split '.' name
  ((List.range pieces.length).map fun dropped =>
    Text.join "." (pieces.take (pieces.length - dropped)))

/-- The scopes around a place, the innermost first: the dotted beginnings up to the module, then the
    module. -/
def enclosing (scope : Option String) (module : String) : List String :=
  let chain := match scope with
    | some s => takeThrough (· = module) ((beginnings s).takeWhile (· ≠ ""))
    | none => []
  if module = "" || chain.contains module then chain else chain ++ [module]

/-! ## Resolution -/

/-- An identifier, if it belongs to a type. -/
def typeOnly (t : SymbolTable) (id : Option String) : Option String := id.filter t.isType

/-- The identifier of the type of that qualified name in a scope: in the file itself, else anywhere. -/
def inScope (t : SymbolTable) (file name scope : String) : Option String :=
  let qualified := scope ++ "." ++ name
  let found := match (t.record? file qualified).filter (· ≠ "") with
    | some id => some id
    | none => t.lookup? qualified
  typeOnly t found

/-- The type that the imports of a file bind to a name. -/
def imported (s : Scopes) (t : SymbolTable) (file name : String) : Except Fault (Option String) :=
  let (head, rest) := (Text.cutFirst? '.' name).getD (name, "")
  match s.bindings.get? (file, head) with
  | none => .ok none
  | some bound =>
    if rest = "" then .ok (typeOnly t (some bound))
    else do
      let symbol ← t.symbol bound
      let target := ((symbol.metadata.get? "qualified_name").getD (.str bound)).text
      return typeOnly t (t.lookup? (target ++ "." ++ rest))

/-- The only type with the title that a name ends in. -/
def uniqueByTitle (t : SymbolTable) (name : String) : Option String :=
  match (t.byTitle.get? (Text.afterLast '.' name)).getD [] with
  | [id] => some id
  | _ => none

/-- The type that a name means in a file, at a place inside of a scope. -/
def resolveType (s : Scopes) (t : SymbolTable) (name file : String) (scope : Option String) :
    Except Fault (Option String) :=
  let name := Text.trim name
  if name = "" then .ok none
  else
    match typeOnly t (t.lookup? name) with
    | some id => .ok (some id)
    | none =>
      match (enclosing scope (s.moduleOf file)).findSome? (inScope t file name) with
      | some id => .ok (some id)
      | none => do
        match ← s.imported t file name with
        | some id => return some id
        | none => return uniqueByTitle t name

/-! ## Names inside of type annotations -/

/-- Characters that can start an identifier. -/
def startsIdentifier (c : Char) : Bool := (c.toNat < 128 && c.isAlpha) || c == '_' || c == '$'

/-- Characters inside of an identifier. -/
def inIdentifier (c : Char) : Bool := Text.isWord c || c == '$'

/-- Where the search for identifiers stands. -/
inductive Scan where
  | outside
  /-- inside of an identifier, its characters reversed -/
  | inside (name : List Char)
  /-- after an identifier and a dot -/
  | afterDot (name : List Char)

/-- The dotted identifiers of a text. -/
def identifiersFrom : Scan → List Char → List (List Char)
  | .outside, [] => []
  | .inside name, [] | .afterDot name, [] => [name.reverse]
  | .outside, c :: rest =>
    identifiersFrom (if startsIdentifier c then .inside [c] else .outside) rest
  | .inside name, c :: rest =>
    if inIdentifier c then identifiersFrom (.inside (c :: name)) rest
    else if c = '.' then identifiersFrom (.afterDot name) rest
    else name.reverse :: identifiersFrom .outside rest
  | .afterDot name, c :: rest =>
    if startsIdentifier c then identifiersFrom (.inside (c :: '.' :: name)) rest
    else name.reverse :: identifiersFrom .outside rest

/-- The dotted identifiers of a text, from left to right. -/
def identifiers (text : String) : List String :=
  (identifiersFrom .outside text.toList).map String.ofList

example : beginnings "a.b.c" = ["a.b.c", "a.b", "a"] := by decide +kernel
example : enclosing (some "m.A.B") "m" = ["m.A.B", "m.A", "m"] := by decide +kernel
example : identifiers "dict[str, a.B | None]" = ["dict", "str", "a.B", "None"] := by decide +kernel

end Scopes

end CodeAtlas
