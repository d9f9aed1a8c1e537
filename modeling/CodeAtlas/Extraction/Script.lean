import CodeAtlas.Extraction.Context
import CodeAtlas.Language
import CodeAtlas.SyntaxTree.Site
/-!
  Declarations of a TypeScript or a JavaScript file.

  The walk goes over the statements at the top of the file.  An export statement stands for the declaration
  inside of it, and makes it visible; its comments and decorators may stand before the export.  A file's
  imports are its import statements, the exports that name another module, and at last all calls of
  `require` with a single literal.
-/
namespace CodeAtlas.Script

/-- Functions and methods that are too common to say anything. -/
def noise : List String :=
  ["push", "pop", "shift", "unshift", "map", "filter", "reduce", "forEach", "find", "findIndex", "some",
    "every", "includes", "indexOf", "slice", "splice", "concat", "join", "flat", "flatMap", "sort",
    "reverse", "keys", "values", "entries", "assign", "freeze", "hasOwnProperty", "toString", "valueOf",
    "trim", "split", "replace", "match", "test", "search", "startsWith", "endsWith", "substring",
    "toLowerCase", "toUpperCase", "then", "catch", "finally", "resolve", "reject", "log", "warn", "error",
    "info", "debug", "addEventListener", "removeEventListener", "querySelector", "getElementById",
    "createElement", "require"]

/-- The kinds of class declarations. -/
def classKinds : List String := ["class_declaration", "abstract_class_declaration", "class"]

/-- The kinds of function declarations. -/
def functionKinds : List String :=
  ["function_declaration", "generator_function_declaration", "function", "function_expression"]

/-- The kinds of values that make a variable a function. -/
def functionValues : List String := ["arrow_function", "function", "function_expression"]

/-- The kinds of members that are fields of a class. -/
def fieldKinds : List String := ["public_field_definition", "property_declaration", "field_definition"]

/-- The kinds of members that are methods of a class. -/
def methodKinds : List String := ["method_definition", "abstract_method_signature"]

/-! ## Modules -/

/-- The extensions of modules. -/
def moduleExtensions : List String := Language.typescriptExtensions ++ Language.javascriptExtensions

/-- The name of a module without its extension.  An index stands for its directory. -/
def withoutExtension (path : String) : String :=
  let path := (moduleExtensions.findSome? fun e => Text.beforeEnd? e path).getD path
  if path = "index" then "" else (Text.beforeEnd? "/index" path).getD path

/-- The name of a module, or that of the source root for its index. -/
def moduleName (path : String) (root : Path) : String :=
  let name := withoutExtension path
  if name = "" then root.name else name

/-- The module of a file. -/
def modulePath (file root : Path) : Except Fault String :=
  match file.below? root with
  | some rel => .ok (moduleName rel.text root)
  | none => .error .badValue

/-- The module that an import in a file names.  Packages are kept as they are written, and so is what leads out
    of the source root.  A specifier with a null character is cut there, which is so in some releases of the
    normalization of paths only (`Path.untilNull`); no other specifier depends on the release. -/
def resolveSpecifier (specifier : String) (file root : Path) : Except Fault String :=
  if !Text.startsWith "." specifier then .ok specifier
  else
    match file.parent.below? root with
    | none => .error .badValue
    | some base =>
      let steps := (base.join (Path.ofString specifier)).normalize
      let target := { steps with parts := Path.untilNull steps.parts }
      if target.parts.head? = some ".." then .ok specifier
      else if target.text = "." then .ok root.name
      else .ok (moduleName target.text root)

/-- The endings of the names of files with tests. -/
def testEndings : List String :=
  [".test", ".spec"].flatMap fun kind => moduleExtensions.map fun extension => kind ++ extension

/-- Whether a file holds tests, by its name or its place. -/
def isTestFile (path : Path) (file : String) : Bool :=
  testEndings.any (fun ending => Text.endsWith ending path.name)
    || Text.hasPiece "/__tests__/" ("/" ++ file)

/-! ## Parts of a declaration -/

/-- Words that control access. -/
def isAccess (t : SyntaxTree) : Bool := t.kind = "accessibility_modifier"

/-- The name of a declaration, or else its first identifier. -/
def nameOf (c : FileContext) (t : SyntaxTree) : Except Fault String :=
  match t.child? "name" with
  | some name => c.text name
  | none =>
    match t.childOfKind? ["identifier", "type_identifier", "property_identifier"] with
    | some name => c.text name
    | none => .ok "unknown"

/-- The visibility of a declaration. -/
def visibilityOf (c : FileContext) (s : Site) : Except Fault String := do
  let t := s.tree
  if s.parentKind = "export_statement" then return "export"
  match t.children.find? isAccess with
  | some access =>
    let word ← c.text access
    return if word = "private" || word = "protected" then word else "public"
  | none =>
    if t.kind = "method_definition" || t.kind = "method_signature" then
      return if Text.startsWith "#" (← nameOf c t) then "private" else "public"
    else return "private"

/-- The body of a declaration. -/
def bodyOf (s : Site) : Option Site :=
  (s.child? "body").or
    (s.children.find? fun x => x.tree.kind = "statement_block" || x.tree.kind = "class_body")

/-- What stands in the body of a declaration. -/
def inBody (s : Site) : List Site := ((bodyOf s).map Site.children).getD []

/-- The documentation comment right before a declaration, or before its export. -/
def docOf (c : FileContext) (s : Site) : Except Fault (Option String) :=
  let before := if s.parentKind = "export_statement" then s.beforeParent else s.before
  match (Site.named? before).filter fun x => x.kind = "comment" with
  | some comment => (c.text comment).map Text.docComment?
  | none => .ok none

/-- A decorator without the signs in front. -/
def decorator (text : String) : String := Text.trim (Text.trimStartOf ['@'] text)

/-- The decorators of a declaration: the ones before it, possibly with comments in between, and then the ones
    that are part of it. -/
def decoratorsOf (c : FileContext) (s : Site) : Except Fault (List String) := do
  let isDecorator (x : SyntaxTree) : Bool := x.kind = "decorator"
  let own ← c.texts (s.tree.children.filter isDecorator)
  let near := (s.before.filter SyntaxTree.isNamed).takeWhile fun x => isDecorator x || x.kind = "comment"
  let earlier ← c.texts (near.filter isDecorator)
  return (earlier.reverse ++ own).map decorator

mutual

/-- The name of a type in a clause; an empty one does not count. -/
def typeName (c : FileContext) : SyntaxTree → Except Fault (Option String)
  | t@(.node kind _ _ _ _ _ _ children) =>
    if ["identifier", "type_identifier", "member_expression", "nested_type_identifier"].contains kind then
      (c.text t).map fun name => if name = "" then none else some name
    else if kind = "generic_type" then firstTypeName c children
    else .ok none

/-- The first name of some types. -/
def firstTypeName (c : FileContext) : List SyntaxTree → Except Fault (Option String)
  | [] => .ok none
  | t :: rest => do
    match ← typeName c t with
    | some name => return some name
    | none => firstTypeName c rest

end

/-- The clauses that name other types.  Where there is only one sort of them, the types stand in the heritage
    itself. -/
def clausesOf (t : SyntaxTree) : List SyntaxTree :=
  t.children.flatMap fun x =>
    if x.kind = "class_heritage" then
      let clauses := x.children.filter fun y =>
        y.kind = "extends_clause" || y.kind = "implements_clause"
      if clauses.isEmpty then [x] else clauses
    else if ["extends_clause", "implements_clause", "extends_type_clause"].contains x.kind then [x]
    else []

/-- The types that some clauses name. -/
def typesIn (c : FileContext) (clauses : List SyntaxTree) : Except Fault (List String) :=
  (clauses.flatMap SyntaxTree.namedChildren).filterMapM (typeName c)

/-- The types that a type extends, and the ones that it implements. -/
def heritageOf (c : FileContext) (t : SyntaxTree) : Except Fault (List String × List String) := do
  let (implemented, extended) := (clausesOf t).partition fun x => x.kind = "implements_clause"
  return (← typesIn c extended, ← typesIn c implemented)

/-- Nodes that end the signature of a function. -/
def endsSignature (t : SyntaxTree) : Bool := ["statement_block", "class_body", "=>"].contains t.kind

/-- A function up to its body. -/
def signatureOf (c : FileContext) (t : SyntaxTree) : Except Fault String :=
  let head := t.children.takeWhile fun x => !endsSignature x
  (c.texts head).map (Text.join " ")

/-- The type that an annotation states. -/
def declaredTypeOf (c : FileContext) (t : SyntaxTree) : Except Fault (Option String) :=
  (c.text t).map fun s => some (((Text.afterStart? ":" s).map Text.trim).getD s)

/-- The type that an annotation states, if there is one. -/
def declaredType? (c : FileContext) (t : Option SyntaxTree) : Except Fault (Option String) :=
  match t with
  | some t => declaredTypeOf c t
  | none => .ok none

/-! ## Calls -/

/-- Receivers that say nothing about the method. -/
def plainReceivers : List String := ["this", "super", "window", "document", "console"]

/-- The call that a node makes. -/
def callEntry (c : FileContext) (t : SyntaxTree) : Except Fault (List Call) := do
  if t.kind = "call_expression" then
    match t.child? "function" with
    | none => return []
    | some f =>
      if f.kind = "identifier" then return c.call t (← c.text f)
      else if f.kind = "member_expression" then
        match f.child? "property", f.child? "object" with
        | some property, some object =>
          let method ← c.text property
          let hint := Text.afterLast '.' (← c.text object)
          if plainReceivers.contains hint || Text.hasChar '(' hint then return c.call t method
          else return c.call t (hint ++ "." ++ method)
        | some property, none => return c.call t (← c.text property)
        | none, _ => return []
      else return []
  else if t.kind = "new_expression" then
    match (t.child? "constructor").filter fun x => x.kind = "identifier" || x.kind = "member_expression" with
    | some type_ => return c.call t (Text.afterLast '.' (← c.text type_))
    | none => return []
  else return []

/-- The calls in a body. -/
def callsIn (c : FileContext) (body : Option Site) : Except Fault (List Call) :=
  match body with
  | some b => FileContext.calls (callEntry c) b.tree
  | none => .ok []

/-! ## Records -/

/-- The record of a function.  The value of a variable has the visibility and the documentation of the
    statement that declares the variable. -/
def functionOf (c : FileContext) (name scope : String) (owner : Option String) (s statement : Site) :
    Except Fault FunctionRecord := do
  let t := s.tree
  let isStatic ← c.hasToken "static" [] t.children
  let metadata := ((Metadata.empty.setIf isStatic "is_static" (.bool true)).setIf
    (owner.isSome && name = "constructor") "is_constructor" (.bool true)).setIf
    (t.kind = "arrow_function") "is_arrow" (.bool true)
  return { name
           qualified := scope ++ "." ++ name
           visibility := ← visibilityOf c statement
           isAsync := ← c.hasToken "async" ["function", "("] t.children
           isMethod := owner.isSome
           signature := ← signatureOf c t
           file := c.file
           line := c.line t
           doc := ← docOf c statement
           returnType := ← declaredType? c (t.child? "return_type")
           owner
           decorators := ← decoratorsOf c s
           calls := ← callsIn c (bodyOf s)
           endLine := some (c.endLine t)
           metadata }

/-- The record of a method. -/
def methodOf (c : FileContext) (owner : String) (s : Site) : Except Fault FunctionRecord := do
  functionOf c (← nameOf c s.tree) owner (some owner) s s

/-- The record of a member that holds a value. -/
def attributeOf (c : FileContext) (owner name visibility : String) (declaredType : Option String)
    (t : SyntaxTree) : AttributeRecord :=
  { name, qualified := owner ++ "." ++ name, owner, declaredType, visibility, file := c.file
    line := c.line t }

/-- The type of a field: the annotation, or the class that its value constructs. -/
def fieldType (c : FileContext) (t : SyntaxTree) : Except Fault (Option String) :=
  match t.child? "type" with
  | some type_ => declaredTypeOf c type_
  | none => c.text? (((t.child? "value").filter fun v => v.kind = "new_expression").bind fun v => v.child? "constructor")

/-- The field of a class. -/
def fieldOf (c : FileContext) (owner : String) (t : SyntaxTree) : Except Fault (Option AttributeRecord) := do
  match (t.child? "name").or (t.child? "property") with
  | none => return none
  | some name =>
    let declaredType ← fieldType c t
    let access ← c.texts (t.children.filter isAccess)
    return some (attributeOf c owner (← c.text name) (access.getLast?.getD "public") declaredType t)

/-- The field that a parameter of a constructor declares, if a modifier says so. -/
def parameterField (c : FileContext) (owner : String) (t : SyntaxTree) :
    Except Fault (Option AttributeRecord) := do
  let modifiers ← c.texts (t.children.filter fun x => isAccess x || x.kind = "readonly")
  match modifiers.getLast?, t.child? "pattern" with
  | some modifier, some pattern =>
    let visibility := if modifier = "readonly" then "public" else modifier
    return some (attributeOf c owner (← c.text pattern) visibility (← declaredType? c (t.child? "type")) t)
  | _, _ => return none

/-- The fields that the parameters of a constructor declare. -/
def parameterFields (c : FileContext) (owner : String) (t : SyntaxTree) :
    Except Fault (List AttributeRecord) :=
  let parameters := ((t.child? "parameters").map SyntaxTree.namedChildren).getD []
  (parameters.filter fun x => x.kind = "required_parameter" || x.kind = "optional_parameter").filterMapM
    (parameterField c owner)

/-- The names of the members of an enumeration. -/
def membersOf (c : FileContext) (s : Site) : Except Fault (List String) :=
  let members := ((inBody s).map Site.tree).filter SyntaxTree.isNamed
  c.texts (members.filterMap fun x =>
    if x.kind = "enum_assignment" then some ((x.child? "name").getD x)
    else if x.kind = "property_identifier" || x.kind = "identifier" then some x
    else none)

/-- The record of a type; the form is what is particular to it. -/
def typeOf (c : FileContext) (s : Site) (form : TypeForm) : Except Fault TypeRecord := do
  let name ← nameOf c s.tree
  return { name
           qualified := c.modulePath ++ "." ++ name
           visibility := ← visibilityOf c s
           file := c.file
           line := c.line s.tree
           doc := ← docOf c s
           endLine := some (c.endLine s.tree)
           form }

/-- The fields that a method declares: those of its parameters, if it is the constructor. -/
def methodFields (c : FileContext) (owner name : String) (t : SyntaxTree) : Except Fault (List AttributeRecord) :=
  if name = "constructor" then parameterFields c owner t else .ok []

/-- What a method of a class declares: the method and fields. -/
def classMember (c : FileContext) (owner : String) (s : Site) : Except Fault Declarations := do
  let f ← methodOf c owner s
  return Declarations.ofFunction f ++ Declarations.ofAttributes (← methodFields c owner f.name s.tree)

/-- What a class declares. -/
def classOf (c : FileContext) (s : Site) : Except Fault Declarations := do
  let (extended, implemented) ← heritageOf c s.tree
  let decorators ← decoratorsOf c s
  let metadata := (Metadata.empty.setIf (!decorators.isEmpty) "decorators"
    (.arr (decorators.map .str))).setIf (s.tree.kind = "abstract_class_declaration") "is_abstract" (.bool true)
  let r ← typeOf c s (.class "class" extended metadata)
  let heritage := Heritage.clauses r "extends" extended ++ Heritage.clauses r "implements" implemented
  let fields ← (inBody s).filterMapM fun x =>
    if fieldKinds.contains x.tree.kind then fieldOf c r.qualified x.tree else pure none
  let methods ← ((inBody s).filter fun x => methodKinds.contains x.tree.kind).mapM (classMember c r.qualified)
  return Declarations.ofType r heritage ++ Declarations.ofAttributes fields
    ++ Declarations.mergeAll methods

/-- What a member of an interface declares. -/
def interfaceMember (c : FileContext) (owner : String) (s : Site) : Except Fault Declarations := do
  if s.tree.kind = "method_signature" then return Declarations.ofFunction (← methodOf c owner s)
  else if s.tree.kind = "property_signature" then
    match s.tree.child? "name" with
    | none => return .empty
    | some name =>
      let declaredType ← declaredType? c (s.tree.child? "type")
      return Declarations.ofAttributes [attributeOf c owner (← c.text name) "public" declaredType s.tree]
  else return .empty

/-- What an interface declares. -/
def interfaceOf (c : FileContext) (s : Site) : Except Fault Declarations := do
  let (extended, _) ← heritageOf c s.tree
  let r ← typeOf c s (.interface "interface")
  let members ← (inBody s).mapM (interfaceMember c r.qualified)
  return Declarations.ofType r (Heritage.clauses r "extends" extended) ++ Declarations.mergeAll members

/-! ## Statements -/

/-- What a statement at the top of a file adds to it. -/
structure Found where
  declared : Declarations
  imports : List Import
  exports : List String
deriving Inhabited

namespace Found

/-- Nothing. -/
def empty : Found := { declared := .empty, imports := [], exports := [] }

/-- What both add. -/
def both (a b : Found) : Found :=
  { declared := a.declared ++ b.declared, imports := a.imports ++ b.imports, exports := a.exports ++ b.exports }

instance : Append Found := ⟨both⟩

end Found

/-- A declaration; its name is exported as well if the statement says so. -/
def declared (exported : Bool) (name : String) (d : Declarations) : Found :=
  { Found.empty with declared := d, exports := if exported then [name] else [] }

/-- What a variable adds: a function, if that is its value. -/
def variableOf (c : FileContext) (exported : Bool) (statement s : Site) : Except Fault Found := do
  match (s.tree.child? "name").filter fun x => x.kind = "identifier" with
  | none => return .empty
  | some name =>
    let name ← c.text name
    match (s.child? "value").filter fun v => functionValues.contains v.tree.kind with
    | none => return declared exported name .empty
    | some value =>
      let f ← functionOf c name c.modulePath none value statement
      return declared exported name (Declarations.ofFunction f)

/-- The names that the clauses of an export statement export. -/
def clauseExports (c : FileContext) (t : SyntaxTree) : Except Fault (List String) :=
  let clauses := t.namedChildren.filter fun x => x.kind = "export_clause"
  let entries := (clauses.flatMap SyntaxTree.namedChildren).filter fun x => x.kind = "export_specifier"
  c.texts (entries.filterMap fun x => (x.child? "alias").or (x.child? "name"))

/-- The declaration that an export statement exports. -/
def exportedDeclaration? (s : Site) : Option Site :=
  (s.child? "declaration").or
    (s.children.find? fun x => x.tree.isNamed && (classKinds ++ functionKinds).contains x.tree.kind)

theorem exportedDeclaration?_mem {s d : Site} (h : exportedDeclaration? s = some d) : d ∈ s.children := by
  unfold exportedDeclaration? Site.child? at h
  rcases Option.or_eq_some_iff.1 h with h | ⟨_, h⟩
  · exact List.mem_of_find?_eq_some h
  · exact List.mem_of_find?_eq_some h

/-- What a declaration at the top of a file adds.  An export adds what it exports. -/
def topLevel (c : FileContext) (exported : Bool) (s : Site) : Except Fault Found := do
  let kind := s.tree.kind
  if functionKinds.contains kind then
    let name ← nameOf c s.tree
    let f ← functionOf c name c.modulePath none s s
    return declared exported name (Declarations.ofFunction f)
  else if classKinds.contains kind then
    return declared exported (← nameOf c s.tree) (← classOf c s)
  else if kind = "interface_declaration" then
    return declared exported (← nameOf c s.tree) (← interfaceOf c s)
  else if kind = "enum_declaration" then
    let r ← typeOf c s (.enumeration (← membersOf c s))
    return declared exported r.name (Declarations.ofType r [])
  else if kind = "lexical_declaration" || kind = "variable_declaration" then
    let found ← (s.children.filter fun x =>
      x.tree.isNamed && x.tree.kind = "variable_declarator").mapM (variableOf c exported s)
    return found.foldl Found.both .empty
  else if kind = "export_statement" then
    let inner ← match _h : exportedDeclaration? s with
      | some d => topLevel c true d
      | none => pure .empty
    return { inner with exports := inner.exports ++ (← clauseExports c s.tree) }
  else return .empty
termination_by s.tree.size
decreasing_by exact Site.size_lt_of_mem_children (exportedDeclaration?_mem ‹_›)

/-! ## Imports -/

/-- A literal without its quotes. -/
def unquoted (text : String) : String := Text.trimOf ['\'', '"', '\x60'] text

/-- Nodes that hold the names of an import. -/
def holdsNames (t : SyntaxTree) : Bool :=
  t.kind = "import_clause" || t.kind = "named_imports" || t.kind = "export_clause"

/-- The names that an import or an export lists. -/
def listedNames (c : FileContext) (t : SyntaxTree) : Except Fault (List String) :=
  let entries := (SyntaxTree.visitsByLevel holdsNames t.namedChildren).filter fun x =>
    x.kind = "import_specifier" || x.kind = "export_specifier"
  c.texts (entries.filterMap fun x => x.child? "name")

/-- The names that a statement imports; an export without names may be one of everything. -/
def importedNames (c : FileContext) (t : SyntaxTree) : Except Fault (List String) := do
  let listed ← listedNames c t
  if t.kind = "export_statement" && listed.isEmpty then
    return if ← c.hasToken "*" [] t.children then ["*"] else []
  else return listed

/-- The import of a statement that names another module. -/
def importOf (c : FileContext) (path root : Path) (t : SyntaxTree) : Except Fault (List Import) := do
  match t.child? "source" with
  | none => return []
  | some literal =>
    let specifier := unquoted (← c.text literal)
    let names ← importedNames c t
    return [{ target := ← resolveSpecifier specifier path root, names, level := 0, line := c.line t }]

/-- The literal that a call of `require` is given. -/
def requiredLiteral (c : FileContext) (t : SyntaxTree) : Except Fault (Option SyntaxTree) := do
  if t.kind ≠ "call_expression" then return none
  match (t.child? "function").filter fun f => f.kind = "identifier", t.child? "arguments" with
  | some f, some arguments =>
    if (← c.text f) ≠ "require" then return none
    match arguments.namedChildren with
    | [literal] => return if literal.kind = "string" then some literal else none
    | _ => return none
  | some f, none => do
    let _ ← c.text f
    return none
  | none, _ => return none

/-- The imports of a call of `require`. -/
def requiredBy (c : FileContext) (path root : Path) (t : SyntaxTree) : Except Fault (List Import) := do
  match ← requiredLiteral c t with
  | none => return []
  | some literal =>
    let specifier := unquoted (← c.text literal)
    return [{ target := ← resolveSpecifier specifier path root, names := [], level := 0, line := c.line t }]

/-- The imports of all calls of `require` in a tree, in the order of the walk. -/
def requires (c : FileContext) (path root : Path) (tree : SyntaxTree) : Except Fault (List Import) :=
  ((tree.visits fun _ => true).mapM (requiredBy c path root)).map List.flatten

/-! ## Files -/

/-- Whether a statement imports, or exports from another module. -/
def namesModule (t : SyntaxTree) : Bool :=
  t.kind = "import_statement" || (t.kind = "export_statement" && (t.child? "source").isSome)

/-- What a statement at the top of a file adds to it. -/
def statement (c : FileContext) (path root : Path) (s : Site) : Except Fault Found :=
  if namesModule s.tree then
    (importOf c path root s.tree).map fun imports => { Found.empty with imports }
  else topLevel c false s

/-- All declarations of a file. -/
def extract (language : Language) (source : Source) (path root : Path) (file : String) (tree : SyntaxTree) :
    Except Fault Declarations := do
  let c : FileContext := { source, file, modulePath := ← modulePath path root }
  let found := (← (Site.root tree).children.mapM (statement c path root)).foldl Found.both .empty
  let required ← requires c path root tree
  let record : SourceFile :=
    { path := file, name := path.name, lines := source.lineCount, modulePath := c.modulePath
      language := language.name, imports := found.imports ++ required, exports := found.exports
      isTest := isTestFile path file }
  return { Declarations.empty with files := [record] } ++ found.declared

end CodeAtlas.Script
