import CodeAtlas.Declarations
import CodeAtlas.Path
import CodeAtlas.Source
/-!
  What the extraction of one file has at hand.
-/
namespace CodeAtlas

/-- A file that is being read. -/
structure FileContext where
  source : Source
  /-- the path below the root of the project -/
  file : String
  /-- the qualified name of the file's module -/
  modulePath : String
deriving Inhabited

namespace FileContext

/-- The text of a node. -/
def text (c : FileContext) (t : SyntaxTree) : Except Fault String := c.source.text t

/-- The text of a node that may be absent. -/
def text? (c : FileContext) (t : Option SyntaxTree) : Except Fault (Option String) :=
  match t with
  | some t => (c.text t).map some
  | none => .ok none

/-- The texts of nodes. -/
def texts (c : FileContext) (ts : List SyntaxTree) : Except Fault (List String) := ts.mapM c.text

/-- The line where a node starts. -/
def line (c : FileContext) (t : SyntaxTree) : Int := c.source.line t

/-- The line where a node ends. -/
def endLine (c : FileContext) (t : SyntaxTree) : Int := c.source.endLine t

/-- The text of the name of a declaration, or a stand-in. -/
def nameOf (c : FileContext) (t : SyntaxTree) : Except Fault String :=
  (c.text? (t.child? "name")).map fun name => name.getD "unknown"

/-- Whether a token among the children has a text; the search ends at the first token with one of the
    closing texts. -/
def hasToken (c : FileContext) (token : String) (closing : List String) :
    List SyntaxTree → Except Fault Bool
  | [] => .ok false
  | t :: rest =>
    if t.isNamed then hasToken c token closing rest
    else do
      let text ← c.text t
      if text = token then return true
      else if closing.contains text then return false
      else hasToken c token closing rest

/-- The calls of the nodes below and at a node, in the order of the walk. -/
def calls (entry : SyntaxTree → Except Fault (List Call)) (t : SyntaxTree) : Except Fault (List Call) :=
  ((t.visits fun _ => true).mapM entry).map List.flatten

/-- One call, if there is a name for it. -/
def call (c : FileContext) (t : SyntaxTree) (name : String) : List Call := [⟨name, .int (c.line t)⟩]

end FileContext

namespace Declarations

/-- The declarations with nothing but some fields. -/
def ofAttributes (attributes : List AttributeRecord) : Declarations := { empty with attributes }

/-- The declarations with nothing but a function. -/
def ofFunction (f : FunctionRecord) : Declarations := { empty with functions := [f] }

/-- The declarations with nothing but a type and its clauses. -/
def ofType (r : TypeRecord) (heritage : List Heritage) : Declarations :=
  { empty with types := [r], heritage }

end Declarations

/-- The clauses of one kind that a type has. -/
def Heritage.clauses (r : TypeRecord) (kind : String) (targets : List String) : List Heritage :=
  targets.map fun target => { source := r.qualified, target, kind, file := r.file }

end CodeAtlas
