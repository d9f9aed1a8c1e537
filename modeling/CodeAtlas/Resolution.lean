import CodeAtlas.Json.Order
import CodeAtlas.Resolution.Relations
/-!
  From the declarations of a project to its symbols with all their relations.

  The phases run one after the other over records that are sorted first, so the order in which the files
  were read does not matter.
-/
namespace CodeAtlas

/-- What the resolution has to know besides the declarations. -/
structure ResolutionOptions where
  language : String
  /-- the name of the project -/
  project : Json
  root : String
  /-- between the parts of a module path -/
  separator : String
  /-- names of functions whose calls mean nothing -/
  noise : List String
  maxCallTargets : Int
deriving Repr, DecidableEq, Inhabited

namespace ResolutionOptions

/-- How the imports of the language work. -/
def importStyle (o : ResolutionOptions) : SymbolTable.ImportStyle :=
  if o.language = "python" then .dotted
  else if o.language = "java" then .qualified
  else .direct

/-- Whether the files of a package share one symbol. -/
def byPackage (o : ResolutionOptions) : Bool := o.language = "java"

end ResolutionOptions

namespace Declarations

/-- The order of two diagnostics by path and line, if their lines have one; an empty line counts as zero. -/
def diagnosticOrder? (a b : Diagnostic) : Option Ordering :=
  if a.path < b.path then some .lt
  else if b.path < a.path then some .gt
  else (a.line.nonEmpty?.getD (.int 0)).order? (b.line.nonEmpty?.getD (.int 0))

/-- The diagnostics by path and line.  Lines of one path have to have an order. -/
def sortedDiagnostics (d : Declarations) : Except Fault (List Diagnostic) :=
  if d.diagnostics.all fun a => d.diagnostics.all fun b => (diagnosticOrder? a b).isSome then
    .ok (d.diagnostics.mergeSort fun a b => diagnosticOrder? a b ≠ some .gt)
  else .error .wrongShape

/-- The symbols of the declarations before any relation. -/
def symbols (d : Declarations) (o : ResolutionOptions) :
    Except Fault (FileModules × List NamedFunction × SymbolTable) := do
  let t := SymbolTable.empty (Path.ofString o.root) o.language
  let (modules, t) ← t.addModules o.separator o.byPackage d.sortedFiles
  let t ← t.addTypes d.testFiles d.sortedTypes
  let (functions, t) ← t.addFunctions d.testFiles d.sortedFunctions
  return (modules, functions, t)

/-- The symbols of the declarations with all relations. -/
def related (d : Declarations) (o : ResolutionOptions) : Except Fault SymbolTable := do
  let files := d.sortedFiles
  let (modules, functions, t) ← d.symbols o
  let t ← t.relateContainment modules functions
  let (scopes, t) ← t.relateImports o.importStyle modules files (Scopes.ofFiles files)
  let t ← t.relateHeritage scopes d.heritage
  let t ← t.relateCalls (CallEdge.all functions o.maxCallTargets o.noise)
  let t ← t.relateConstructions scopes functions
  t.relateAttributes scopes d.attributes

/-- What the declarations are resolved to. -/
def resolve (d : Declarations) (o : ResolutionOptions) : Except Fault Dependencies := do
  let t ← d.related o
  return { language := o.language, project := o.project, root := o.root
           symbols := t.symbols.values, diagnostics := ← d.sortedDiagnostics }

end Declarations

end CodeAtlas
