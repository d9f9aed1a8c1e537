import CodeAtlas.Resolution.Names
import CodeAtlas.Resolution.Symbols
import CodeAtlas.Text.LetterCase
/-!
  From resolved names to relations between symbols.

  Each phase runs over the records of one sort and adds relations of one or two kinds:

    * containment: types and functions are defined by the enclosing type, or else by their module;
    * imports: modules import modules and symbols, and bind the imported names on the way;
    * heritage: types extend and implement types;
    * calls: functions call functions;
    * uses: functions use the classes they construct, types use the types of their fields.
-/
namespace CodeAtlas

namespace SymbolTable

/-! ## Containment -/

/-- The symbol that defines the declarations at the top of a file, when the file is known. -/
def relateFromModule (t : SymbolTable) (modules : FileModules) (file kind target : String) :
    Except Fault SymbolTable :=
  match modules.get? file with
  | some module => t.relate module kind target
  | none => .ok t

/-- A type is defined by the type around it in the same file, else by its module. -/
def containType (modules : FileModules) (t : SymbolTable) (s : Symbol) : Except Fault SymbolTable := do
  if !typeKinds.contains s.kind then return t
  match (t.record? s.file (← s.enclosing)).filter t.isType with
  | some owner => t.relate owner "defines" s.id
  | none => t.relateFromModule modules s.file "defines" s.id

/-- A function is defined by its owner, else by its module. -/
def containFunction (modules : FileModules) (t : SymbolTable) (f : NamedFunction) :
    Except Fault SymbolTable :=
  match f.record.owner?.bind (t.record? f.record.file) with
  | some owner => t.relate owner "defines" f.id
  | none => t.relateFromModule modules f.record.file "defines" f.id

/-- Containment of all types and functions. -/
def relateContainment (modules : FileModules) (functions : List NamedFunction) (t : SymbolTable) :
    Except Fault SymbolTable := do
  let t ← t.symbols.values.foldlM (containType modules) t
  functions.foldlM (containFunction modules) t

/-! ## Imports -/

/-- The most dots that can be written. -/
def maxDots : Nat := 0x100000000

/-- Dots in a row. -/
def dots (n : Nat) : Except Fault String :=
  if maxDots < n then .error (.tooLong n) else .ok ("".pushn '.' n)

/-- The absolute module that an import names.  Dots in front lead up from the package of the importing
    module; more dots than there are packages are kept as written. -/
def importBase (f : SourceFile) (i : Import) : Except Fault String :=
  if i.level = 0 then .ok i.target
  else
    let parts := Text.split '.' f.modulePath
    let parts := if f.name = "__init__.py" then parts else parts.dropLast
    if (parts.length : Int) < i.level - 1 then (dots i.level.toNat).map (· ++ i.target)
    else
      let parts := if 1 < i.level then parts.take (parts.length - (i.level - 1).toNat) else parts
      let parts := if i.target = "" then parts else parts ++ [i.target]
      .ok (Text.join "." (parts.filter (· ≠ "")))

/-- How the imports of a language work. -/
inductive ImportStyle where
  /-- dotted modules, possibly relative; an import of a module binds the first part of its name -/
  | dotted
  /-- qualified types; an import binds the last part of its name, and the types of the file import -/
  | qualified
  /-- resolved module paths; only named members are bound -/
  | direct
deriving Repr, DecidableEq, Inhabited

/-- An import of a module resolved: the identifiers it leads to, or the module as written, and what it binds. -/
def importTargets (style : ImportStyle) (t : SymbolTable) (f : SourceFile) (base : String) (i : Import) (s : Scopes) :
    List String × Scopes :=
  let module := (t.lookup? base).filter (· ≠ "")
  if !i.names.isEmpty && i.names ≠ ["*"] then
    let members := i.names.filterMap fun n => (t.lookup? (base ++ "." ++ n)).map fun id => (n, id)
    let s := members.foldl (fun s (n, id) => s.bind f.path n id) s
    if members.isEmpty then ([module.getD base], s) else (members.map (·.2), s)
  else
    let s := match t.lookup? base with
      | none => s
      | some id =>
        match style with
        | .qualified => if i.names = ["*"] then s else s.bind f.path (Text.afterLast '.' base) id
        | .dotted =>
          let first := Text.beforeFirst '.' base
          s.bind f.path first (((t.lookup? first).filter (· ≠ "")).getD id)
        | .direct => s
    ([module.getD base], s)

/-- Every source imports every target but itself. -/
def relateAll (t : SymbolTable) (sources targets : List String) : Except Fault SymbolTable :=
  sources.foldlM
    (fun t source =>
      targets.foldlM (fun t target => if target = source then .ok t else t.relate source "imports" target) t)
    t

/-- The types at the top of each file. -/
def topTypes (t : SymbolTable) (s : Scopes) : Except Fault (List (String × String)) :=
  t.symbols.values.filterMapM fun symbol => do
    if typeKinds.contains symbol.kind && symbol.file ≠ "" then
      if (← symbol.enclosing) = s.moduleOf symbol.file then return some (symbol.file, symbol.id)
    return none

/-- The types that imports start from. -/
def importingTypes (style : ImportStyle) (t : SymbolTable) (s : Scopes) : Except Fault (List (String × String)) :=
  if style = .qualified then t.topTypes s else .ok []

/-- What the imports of a file start from: its types at the top in the qualified style, else its module. -/
def importSources (modules : FileModules) (tops : List (String × String)) (f : SourceFile) :
    Except Fault (List String) :=
  match (tops.filter fun e => e.1 = f.path).map (·.2) with
  | [] =>
    match modules.get? f.path with
    | some id => .ok [id]
    | none => .error (.missingField f.path)
  | ids => .ok ids

/-- The module that an import names. -/
def importedModule (style : ImportStyle) (f : SourceFile) (i : Import) : Except Fault String :=
  if style = .dotted then importBase f i else .ok i.target

/-- One import of a file, on behalf of its sources. -/
def relateImport (style : ImportStyle) (f : SourceFile) (sources : List String) (s : Scopes) (t : SymbolTable)
    (i : Import) : Except Fault (Scopes × SymbolTable) := do
  let base ← importedModule style f i
  let (targets, s) := importTargets style t f base i s
  return (s, ← t.relateAll sources targets)

/-- The imports of one file. -/
def relateImportsOf (style : ImportStyle) (modules : FileModules) (tops : List (String × String)) (s : Scopes)
    (t : SymbolTable) (f : SourceFile) : Except Fault (Scopes × SymbolTable) := do
  let sources ← importSources modules tops f
  f.imports.foldlM (fun (s, t) i => relateImport style f sources s t i) (s, t)

/-- The imports of all files. -/
def relateImports (style : ImportStyle) (modules : FileModules) (files : List SourceFile) (s : Scopes)
    (t : SymbolTable) : Except Fault (Scopes × SymbolTable) := do
  let tops ← importingTypes style t s
  files.foldlM (fun (s, t) f => relateImportsOf style modules tops s t f) (s, t)

/-! ## Heritage -/

/-- The order by file and declaring type. -/
def heritageLe (a b : Heritage) : Bool :=
  decide (a.file < b.file) || (a.file = b.file && Text.le a.source b.source)

/-- One clause.  A class that extends an interface implements it.  A name that means no type is kept as
    written. -/
def relateClause (s : Scopes) (t : SymbolTable) (h : Heritage) : Except Fault SymbolTable :=
  match t.record? h.file h.source with
  | none => .ok t
  | some source => do
    match ← s.resolveType t h.target h.file (some (Text.beforeLast '.' h.source)) with
    | none => t.relate source h.kind h.target
    | some target =>
      let toInterface := t.kindOf? target = some "interface" || t.kindOf? target = some "protocol"
      let kind := if h.kind = "extends" && t.kindOf? source = some "class" && toInterface
        then "implements" else h.kind
      if target = source then .ok t else t.relate source kind target

/-- All clauses. -/
def relateHeritage (s : Scopes) (heritage : List Heritage) (t : SymbolTable) : Except Fault SymbolTable :=
  (heritage.mergeSort heritageLe).foldlM (relateClause s) t

/-! ## Calls and uses -/

/-- The edges between functions. -/
def relateCalls (edges : List CallEdge) (t : SymbolTable) : Except Fault SymbolTable :=
  edges.foldlM (fun t e => t.relate e.caller "calls" e.callee) t

/-- A function uses a class when it calls its name, which starts with a capital. -/
def relateConstruction (s : Scopes) (f : NamedFunction) (t : SymbolTable) (c : Call) :
    Except Fault SymbolTable := do
  let name := Text.afterLast '.' c.name
  if !Text.startsUpper name then return t
  let scope := f.record.owner? <|> s.modules.get? f.record.file
  match ← s.resolveType t name f.record.file scope with
  | some target => if t.kindOf? target = some "class" then t.relate f.id "uses" target else return t
  | none => return t

/-- The constructions in all functions. -/
def relateConstructions (s : Scopes) (functions : List NamedFunction) (t : SymbolTable) :
    Except Fault SymbolTable :=
  functions.foldlM (fun t f => f.record.calls.foldlM (relateConstruction s f) t) t

/-- The order by file, line and name. -/
def attributeLe (a b : AttributeRecord) : Bool :=
  decide (a.file < b.file)
    || (a.file = b.file && (decide (a.line < b.line) || (a.line = b.line && Text.le a.name b.name)))

/-- A type uses the types that the annotation of a field mentions. -/
def relateAttribute (s : Scopes) (t : SymbolTable) (a : AttributeRecord) : Except Fault SymbolTable :=
  match nonEmptyText a.declaredType, t.record? a.file a.owner with
  | some declaredType, some owner =>
    (Scopes.identifiers declaredType).foldlM
      (fun t name => do
        match ← s.resolveType t name a.file (some a.owner) with
        | some target => if target = owner then return t else t.relate owner "uses" target
        | none => return t)
      t
  | _, _ => .ok t

/-- The fields of all types. -/
def relateAttributes (s : Scopes) (attributes : List AttributeRecord) (t : SymbolTable) :
    Except Fault SymbolTable :=
  (attributes.mergeSort attributeLe).foldlM (relateAttribute s) t

end SymbolTable

end CodeAtlas
