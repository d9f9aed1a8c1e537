import CodeAtlas.Resolution.Calls
import CodeAtlas.SymbolTable
/-!
  From declarations to symbols.

  Modules come first, then types, then functions, each in the order of files and lines; so in a conflict of
  names within one kind the earlier file has the plain identifier, and between kinds the earlier kind.  In a
  language with packages the files of one package share one symbol, which lists them and adds up their lines.
-/
namespace CodeAtlas

/-- The modules of the files. -/
abbrev FileModules := OrderedMap String String

namespace Declarations

/-! ## Order -/

/-- The order by file and line. -/
def placeLe (file₁ : String) (line₁ : Int) (file₂ : String) (line₂ : Int) : Bool :=
  decide (file₁ < file₂) || (file₁ = file₂ && decide (line₁ ≤ line₂))

/-- The files by path. -/
def sortedFiles (d : Declarations) : List SourceFile :=
  d.files.mergeSort fun a b => Text.le a.path b.path

/-- The types by file and line; at one place classes come before interfaces and enumerations. -/
def sortedTypes (d : Declarations) : List TypeRecord :=
  (d.classes ++ d.interfaces ++ d.enumerations).mergeSort fun a b => placeLe a.file a.line b.file b.line

/-- The functions by file and line. -/
def sortedFunctions (d : Declarations) : List FunctionRecord :=
  d.functions.mergeSort fun a b => placeLe a.file a.line b.file b.line

/-- The paths of the files with tests. -/
def testFiles (d : Declarations) : List String := (d.files.filter (·.isTest)).map (·.path)

end Declarations

namespace SymbolTable

/-! ## Modules and packages -/

/-- The name of a separator that cuts nothing is no name. -/
def titleOfModule (separator modulePath : String) : Except Fault String :=
  if separator = "" then .error .badValue else .ok (Text.afterLastText separator modulePath)

/-- The symbol of the module of one file. -/
def addModule (separator : String) (t : SymbolTable) (f : SourceFile) :
    Except Fault (Symbol × SymbolTable) := do
  let title ← titleOfModule separator f.modulePath
  let metadata := ((Metadata.ofList [("loc", .int f.lines), ("filename", .str f.name)]).setIf
    (!f.exports.isEmpty) "exports" (.arr (f.exports.map .str))).setIf f.isTest "is_test" (.bool true)
  t.add { qualified := f.modulePath, title, kind := "module", file := f.path, line := .int 1, metadata }

/-- One more item in a list. -/
def appendItem (v : Json) (item : Json) : Except Fault Json :=
  match v with
  | .arr items => .ok (.arr (items ++ [item]))
  | _ => .error .noFields

/-- A number with another one added. -/
def addNumber (v : Json) (n : Int) : Except Fault Json :=
  match v with
  | .int m => .ok (.int (m + n))
  | _ => .error .wrongShape

/-- A package with one more file. -/
def extendPackage (s : Symbol) (f : SourceFile) : Except Fault Symbol := do
  let files ← appendItem ((s.metadata.get? "files").getD .null) (.str f.path)
  let lines ← addNumber ((s.metadata.get? "loc").getD .null) f.lines
  return { s with metadata := (s.metadata.set "files" files).set "loc" lines }

/-- The name of a package; files without a package are in a default one. -/
def packageOf (f : SourceFile) : String := if f.modulePath = "" then "(default)" else f.modulePath

/-- The symbol of the package of one file. -/
def addPackage (t : SymbolTable) (f : SourceFile) : Except Fault (Symbol × SymbolTable) := do
  let package := packageOf f
  match (t.lookup? package).filter fun id => t.kindOf? id = some "package" with
  | some id =>
    let s ← extendPackage (← t.symbol id) f
    return (s, { t with symbols := t.symbols.insert id s })
  | none =>
    t.add
      { qualified := package, title := package, kind := "package", file := "", line := .null
        metadata := Metadata.ofList [("files", .arr [.str f.path]), ("loc", .int f.lines)] }

/-- The symbols of the modules, or packages, of the files. -/
def addModules (separator : String) (byPackage : Bool) (t : SymbolTable) (files : List SourceFile) :
    Except Fault (FileModules × SymbolTable) :=
  files.foldlM
    (fun (modules, t) f => do
      let (s, t) ← if byPackage then addPackage t f else addModule separator t f
      return (modules.insert f.path s.id, t))
    (.empty, t)

/-! ## Types and functions -/

/-- Visibility, comment and last line. -/
def commonMetadata (visibility : String) (doc : Option String) (endLine : Option Int) : Metadata :=
  let m := Metadata.ofList [("visibility", .str visibility)]
  let m := match doc with
    | some text => m.setIf (text ≠ "") "docstring" (.str text)
    | none => m
  match endLine with
  | some n => m.set "end_line" (.int n)
  | none => m

/-- What is said about a type. -/
def typeMetadata (r : TypeRecord) (isTest : Bool) : Metadata :=
  let m := commonMetadata r.visibility r.doc r.endLine
  let m := match r.form with
    | .class _ bases metadata =>
      (m.setIf (!bases.isEmpty) "bases" (.arr (bases.map .str))).update metadata
    | .interface _ => m
    | .enumeration variants => m.setIf (!variants.isEmpty) "variants" (.arr (variants.map .str))
  m.setIf isTest "is_test" (.bool true)

/-- The declaration of a type. -/
def typeEntry (testFiles : List String) (r : TypeRecord) : Entry :=
  { qualified := r.qualified, title := r.name, kind := r.form.kind, file := r.file, line := .int r.line
    metadata := typeMetadata r (testFiles.contains r.file) }

/-- The symbols of the types. -/
def addTypes (testFiles : List String) (t : SymbolTable) (types : List TypeRecord) :
    Except Fault SymbolTable :=
  types.foldlM (fun t r => (t.add (typeEntry testFiles r)).map (·.2)) t

/-- A text that is not empty. -/
def nonEmptyText (s : Option String) : Option String := s.filter fun x => x ≠ ""

/-- What is said about a function. -/
def functionMetadata (f : FunctionRecord) (isTest : Bool) : Metadata :=
  let m := Metadata.ofList [("visibility", .str f.visibility), ("signature", .str f.signature)]
  let m := match nonEmptyText f.doc with
    | some text => m.set "docstring" (.str text)
    | none => m
  let m := match nonEmptyText f.returnType with
    | some text => m.set "return_type" (.str text)
    | none => m
  let m := m.setIf (!f.decorators.isEmpty) "decorators" (.arr (f.decorators.map .str))
  let m := m.setIf f.isAsync "is_async" (.bool true)
  let m := match f.endLine with
    | some n => m.set "end_line" (.int n)
    | none => m
  (m.setIf isTest "is_test" (.bool true)).update f.metadata

/-- The declaration of a function; one with an owner is a method. -/
def functionEntry (testFiles : List String) (f : FunctionRecord) : Entry :=
  { qualified := f.qualified, title := f.name
    kind := if f.owner?.isSome then "method" else "function"
    file := f.file, line := .int f.line
    metadata := functionMetadata f (testFiles.contains f.file) }

/-- The symbols of the functions, and the functions with their identifiers in order. -/
def addFunctions (testFiles : List String) (t : SymbolTable) (functions : List FunctionRecord) :
    Except Fault (List NamedFunction × SymbolTable) :=
  functions.foldlM
    (fun (named, t) f => do
      let (s, t) ← t.add (functionEntry testFiles f)
      return (named ++ [⟨s.id, f⟩], t))
    ([], t)

end SymbolTable

end CodeAtlas
