import CodeAtlas.Symbol
/-!
  What the source files of a project declare, before any name is resolved.

  Every record names the file it comes from.  Types that a record refers to are still the names as they
  are written in that file.  The declarations of several files are merged by joining the lists.
-/
namespace CodeAtlas

/-- One import statement. -/
structure Import where
  /-- the imported module as written -/
  target : String
  /-- the members it names; a star stands for all -/
  names : List String
  /-- how many dots lead up from the importing module -/
  level : Int
  line : Int
deriving Repr, DecidableEq, Inhabited

/-- A source file. -/
structure SourceFile where
  /-- below the root of the project -/
  path : String
  name : String
  lines : Int
  /-- the qualified name of the file's module -/
  modulePath : String
  language : String
  imports : List Import
  exports : List String
  isTest : Bool
deriving Repr, DecidableEq, Inhabited

/-- A call of a name in the body of a function. -/
structure Call where
  name : String
  /-- a number, as a rule; a call from elsewhere may give any value -/
  line : Json
deriving Repr, DecidableEq, Inhabited

/-- A function or a method. -/
structure FunctionRecord where
  name : String
  qualified : String
  visibility : String
  isAsync : Bool
  isMethod : Bool
  signature : String
  file : String
  line : Int
  doc : Option String
  returnType : Option String
  /-- the qualified name of the enclosing type -/
  owner : Option String
  decorators : List String
  calls : List Call
  endLine : Option Int
  metadata : Metadata
deriving Repr, DecidableEq, Inhabited

/-- What is particular to a form of type. -/
inductive TypeForm where
  | class (kind : String) (bases : List String) (metadata : Metadata)
  | interface (kind : String)
  | enumeration (variants : List String)
deriving Repr, DecidableEq, Inhabited

/-- A class, an interface or an enumeration. -/
structure TypeRecord where
  name : String
  qualified : String
  visibility : String
  file : String
  line : Int
  doc : Option String
  endLine : Option Int
  form : TypeForm
deriving Repr, DecidableEq, Inhabited

/-- A field of a type. -/
structure AttributeRecord where
  name : String
  qualified : String
  owner : String
  declaredType : Option String
  visibility : String
  file : String
  line : Int
deriving Repr, DecidableEq, Inhabited

/-- A clause that a type extends or implements another one. -/
structure Heritage where
  source : String
  /-- the name of the other type as written -/
  target : String
  kind : String
  file : String
deriving Repr, DecidableEq, Inhabited

/-- All that was found in some files. -/
structure Declarations where
  files : List SourceFile
  functions : List FunctionRecord
  types : List TypeRecord
  heritage : List Heritage
  attributes : List AttributeRecord
  diagnostics : List Diagnostic
deriving Repr, DecidableEq, Inhabited

namespace TypeForm

/-- The kind of symbol. -/
def kind : TypeForm → String
  | .class kind _ _ => kind
  | .interface kind => kind
  | .enumeration _ => "enum"

/-- Classes. -/
def isClass : TypeForm → Bool
  | .class .. => true
  | _ => false

/-- Interfaces. -/
def isInterface : TypeForm → Bool
  | .interface _ => true
  | _ => false

/-- Enumerations. -/
def isEnumeration : TypeForm → Bool
  | .enumeration _ => true
  | _ => false

end TypeForm

namespace FunctionRecord

/-- The enclosing type, unless its name is empty. -/
def owner? (f : FunctionRecord) : Option String := f.owner.filter fun o => o ≠ ""

/-- The enclosing type, or else what stands before the last dot of the qualified name. -/
def scope (f : FunctionRecord) : String :=
  match f.owner? with
  | some owner => owner
  | none => if Text.hasChar '.' f.qualified then Text.beforeLast '.' f.qualified else ""

end FunctionRecord

namespace Declarations

/-- Nothing. -/
def empty : Declarations :=
  { files := [], functions := [], types := [], heritage := [], attributes := [], diagnostics := [] }

/-- The classes in order. -/
def classes (d : Declarations) : List TypeRecord := d.types.filter fun t => t.form.isClass

/-- The interfaces in order. -/
def interfaces (d : Declarations) : List TypeRecord := d.types.filter fun t => t.form.isInterface

/-- The enumerations in order. -/
def enumerations (d : Declarations) : List TypeRecord := d.types.filter fun t => t.form.isEnumeration

/-- The declarations of both. -/
def merge (a b : Declarations) : Declarations :=
  { files := a.files ++ b.files
    functions := a.functions ++ b.functions
    types := a.types ++ b.types
    heritage := a.heritage ++ b.heritage
    attributes := a.attributes ++ b.attributes
    diagnostics := a.diagnostics ++ b.diagnostics }

instance : Append Declarations := ⟨merge⟩

/-- The declarations of all. -/
def mergeAll (all : List Declarations) : Declarations := all.foldl merge empty

end Declarations

end CodeAtlas
