import CodeAtlas.Extraction.Context
import CodeAtlas.Text.LetterCase
/-!
  Declarations of a Python file.

  The walk goes over the statements at the top of the file and, inside of classes, over the statements of
  the body.  A class is an enumeration or a protocol if one of its bases says so.  The fields of a class are
  the names that its body assigns and those that its first initializer assigns to `self`, wherever in the
  initializer, but not inside of inner functions, classes and lambdas.
-/
namespace CodeAtlas.Python

/-- Bases of enumerations. -/
def enumBases : List String :=
  ["Enum", "IntEnum", "StrEnum", "Flag", "IntFlag", "enum.Enum", "enum.IntEnum", "enum.StrEnum",
    "enum.Flag", "enum.IntFlag"]

/-- Bases of protocols. -/
def protocolBases : List String := ["Protocol", "typing.Protocol"]

/-- Bases that are no dependencies. -/
def ignoredBases : List String := protocolBases ++ ["object", "Generic", "typing.Generic"]

/-- Functions and methods that are too common to say anything. -/
def noise : List String :=
  ["len", "str", "int", "float", "bool", "list", "dict", "set", "tuple", "print", "isinstance",
    "issubclass", "type", "range", "enumerate", "zip", "map", "filter", "sorted", "reversed", "any", "all",
    "min", "max", "sum", "abs", "round", "hash", "id", "repr", "super", "getattr", "setattr", "hasattr",
    "delattr", "callable", "iter", "next", "open", "format", "append", "extend", "update", "pop", "get",
    "keys", "values", "items", "join", "split", "strip", "replace", "startswith", "endswith"]

/-! ## Names -/

/-- Names with underscores in front are private, but not those between double underscores. -/
def visibility (name : String) : String :=
  if Text.startsWith "__" name && Text.endsWith "__" name then "public"
  else if Text.startsWith "_" name then "private"
  else "public"

/-- A name without its extension, which is three characters long. -/
def stemOf (name : String) : String := (Text.beforeEnd? ".py" name).getD (Text.dropLastCodePoints 3 name)

/-- The module of a file: its directories and its stem, joined by dots.  The initializer of a package stands
    for the package, and that of the source root for the root. -/
def modulePath (file root : Path) : Except Fault String :=
  match file.below? root with
  | none => .error .badValue
  | some rel =>
    match rel.parts.getLast? with
    | none => .error .outOfRange
    | some last =>
      let stem := stemOf last
      let parts := if stem = "__init__" then rel.parts.dropLast else rel.parts.dropLast ++ [stem]
      .ok (if parts.isEmpty then root.name else Text.join "." parts)

/-- Whether a file holds tests, by its name and its directories below the source root. -/
def isTestFile (file root : Path) : Bool :=
  Text.startsWith "test_" file.name || Text.endsWith "_test.py" file.name
    || ((file.below? root).map fun rel => rel.parts.dropLast.contains "tests").getD false

/-! ## Parts of a definition -/

/-- The body of a definition. -/
def block? (t : SyntaxTree) : Option SyntaxTree := t.childOfKind? ["block"]

/-- The statements of the body of a definition. -/
def statements (t : SyntaxTree) : List SyntaxTree := ((block? t).map SyntaxTree.children).getD []

/-- A string literal without its marks. -/
def unquoted (literal : String) : String :=
  let bare := ["r", "R", "u", "U"].foldl (fun s mark => (Text.afterStart? mark s).getD s) literal
  let delimiters := ["\"\"\"", "'''", "\"", "'"]
  match delimiters.find? fun d => Text.startsWith d bare && Text.endsWith d bare with
  | some d => Text.trim (Text.dropFirst d.length (Text.dropLast d.length bare))
  | none => bare

/-- The string that a body starts with; comments may stand before it. -/
def docLiteral? : List SyntaxTree → Option SyntaxTree
  | [] => none
  | t :: rest =>
    if t.kind = "expression_statement" then t.childOfKind? ["string"]
    else if t.kind = "comment" then docLiteral? rest
    else none

/-- The documentation of a definition. -/
def docOf (c : FileContext) (t : SyntaxTree) : Except Fault (Option String) :=
  (c.text? (docLiteral? (statements t))).map fun literal => literal.map unquoted

/-- The names of the bases of a class. -/
def basesOf (c : FileContext) (t : SyntaxTree) : Except Fault (List String) :=
  let arguments := ((t.child? "superclasses").map SyntaxTree.children).getD []
  c.texts (arguments.filterMap fun a =>
    if a.kind = "identifier" || a.kind = "attribute" then some a
    else if a.kind = "subscript" then a.child? "value"
    else none)

/-- The decorators of a decorated definition, without the sign in front. -/
def decoratorsOf (c : FileContext) (t : SyntaxTree) : Except Fault (List String) :=
  (c.texts (t.children.filter fun d => d.kind = "decorator")).map fun texts =>
    texts.map fun text =>
      let text := Text.trim text
      (Text.afterStart? "@" text).getD text

/-- What the decorators of a function say about it. -/
def decoratorFlags (decorators : List String) : Metadata :=
  decorators.foldl
    (fun flags d =>
      let base := Text.afterLast '.' (Text.beforeFirst '(' d)
      if base = "abstractmethod" then flags.set "is_abstract" (.bool true)
      else if base = "property" then flags.set "is_property" (.bool true)
      else if base = "staticmethod" then flags.set "is_static" (.bool true)
      else if base = "classmethod" then flags.set "is_classmethod" (.bool true)
      else flags)
    .empty

/-- A definition up to its body, without comments. -/
def signatureOf (c : FileContext) (t : SyntaxTree) : Except Fault String :=
  let head := t.children.takeWhile fun x => x.kind ≠ "block"
  (c.texts (head.filter fun x => x.kind ≠ "comment")).map fun parts =>
    Text.trimEndOf [' ', ':'] (Text.join " " parts)

/-! ## Calls -/

/-- Receivers that mean the object itself. -/
def selfNames : List String := ["self", "cls", "super()"]

/-- The call that a node makes.  The last part of the receiver stands before the name, unless the receiver
    is the object itself or the result of another call. -/
def callEntry (c : FileContext) (t : SyntaxTree) : Except Fault (List Call) := do
  if t.kind ≠ "call" then return []
  match t.child? "function" with
  | none => return []
  | some f =>
    if f.kind = "identifier" then return c.call t (← c.text f)
    else if f.kind = "attribute" then
      match f.child? "attribute" with
      | none => return []
      | some member =>
        let name ← c.text member
        let hint := Text.afterLast '.' ((← c.text? (f.child? "object")).getD "")
        if hint = "" || selfNames.contains hint || Text.hasChar '(' hint then return c.call t name
        else return c.call t (hint ++ "." ++ name)
    else return []

/-- The calls in a body. -/
def callsIn (c : FileContext) (body : Option SyntaxTree) : Except Fault (List Call) :=
  match body with
  | some b => FileContext.calls (callEntry c) b
  | none => .ok []

/-! ## Functions -/

/-- The record of a function definition; a method has an owner. -/
def functionOf (c : FileContext) (owner : Option String) (decorators : List String) (t : SyntaxTree) :
    Except Fault FunctionRecord := do
  let name ← c.nameOf t
  return { name
           qualified := owner.getD c.modulePath ++ "." ++ name
           visibility := visibility name
           isAsync := ← c.hasToken "async" ["def"] t.children
           isMethod := owner.isSome
           signature := ← signatureOf c t
           file := c.file
           line := c.line t
           doc := ← docOf c t
           returnType := ← c.text? (t.child? "return_type")
           owner
           decorators
           calls := ← callsIn c (block? t)
           endLine := some (c.endLine t)
           metadata := decoratorFlags decorators }

/-! ## Fields -/

/-- The type that an assignment gives its target: the annotation, or the class that is constructed. -/
def assignedType (c : FileContext) (t : SyntaxTree) : Except Fault (Option String) :=
  match t.child? "type" with
  | some declaredType => (c.text declaredType).map some
  | none =>
    match (t.child? "right").filter (fun r => r.kind = "call") |>.bind (SyntaxTree.child? · "function") with
    | some f =>
      if f.kind = "identifier" || f.kind = "attribute" then
        (c.text f).map fun name => if Text.startsUpper (Text.afterLast '.' name) then some name else none
      else .ok none
    | none => .ok none

/-- The record of a field. -/
def attributeOf (c : FileContext) (owner name : String) (line : Int) (assignment : SyntaxTree) :
    Except Fault AttributeRecord := do
  return { name, qualified := owner ++ "." ++ name, owner
           declaredType := ← assignedType c assignment
           visibility := visibility name, file := c.file, line }

/-- The assignments of a statement. -/
def assignments (statement : SyntaxTree) : List SyntaxTree :=
  if statement.kind = "expression_statement" then
    statement.children.filter fun x => x.kind = "assignment"
  else []

/-- The plain name that an assignment gives a value. -/
def assignedName (assignment : SyntaxTree) : Option SyntaxTree :=
  (assignment.child? "left").filter fun l => l.kind = "identifier"

/-- The fields that the body of a class assigns. -/
def bodyAttributes (c : FileContext) (owner : String) (t : SyntaxTree) :
    Except Fault (List AttributeRecord) :=
  let found := (statements t).flatMap fun statement =>
    (assignments statement).filterMap fun a => (assignedName a).map fun left => (statement, a, left)
  found.mapM fun (statement, a, left) => do attributeOf c owner (← c.text left) (c.line statement) a

/-- The kinds of nodes with a scope of their own. -/
def innerScopes : List String := ["function_definition", "class_definition", "lambda"]

/-- Whether a walk through an initializer goes on below a node. -/
def sameScope (t : SyntaxTree) : Bool := !innerScopes.contains t.kind

/-- The name that an assignment gives to a field of `self`. -/
def selfName (c : FileContext) (t : SyntaxTree) : Except Fault (Option String) := do
  if t.kind ≠ "assignment" then return none
  match (t.child? "left").filter fun l => l.kind = "attribute" with
  | none => return none
  | some left =>
    let name := (Text.afterStart? "self." (← c.text left)).getD ""
    return if name = "" || Text.hasChar '.' name then none else some name

/-- The fields that nodes assign to `self`, each name once and no name of `seen`. -/
def selfAttributes (c : FileContext) (owner : String) (seen : List String) :
    List SyntaxTree → Except Fault (List AttributeRecord)
  | [] => .ok []
  | t :: rest => do
    match ← selfName c t with
    | none => selfAttributes c owner seen rest
    | some name =>
      if seen.contains name then selfAttributes c owner seen rest
      else
        let a ← attributeOf c owner name (c.line t) t
        return a :: (← selfAttributes c owner (name :: seen) rest)

/-- The definition inside of a decorated one, or the node itself. -/
def undecorated (t : SyntaxTree) : Option SyntaxTree :=
  if t.kind = "decorated_definition" then t.child? "definition" else some t

/-- The first initializer among the statements of a class. -/
def initializer? (c : FileContext) : List SyntaxTree → Except Fault (Option SyntaxTree)
  | [] => .ok none
  | t :: rest =>
    match (undecorated t).filter fun f => f.kind = "function_definition" with
    | none => initializer? c rest
    | some f => do
      if (← c.nameOf f) = "__init__" then return some f else initializer? c rest

/-- The fields that an initializer assigns, except those of the names `seen`. -/
def initializedAttributes (c : FileContext) (owner : String) (seen : List String) (initializer : Option SyntaxTree) :
    Except Fault (List AttributeRecord) :=
  match initializer.bind block? with
  | some body => selfAttributes c owner seen (body.visits sameScope)
  | none => .ok []

/-- All fields of a class: those of its body, then those of its initializer. -/
def attributesOf (c : FileContext) (owner : String) (t : SyntaxTree) :
    Except Fault (List AttributeRecord) := do
  let own ← bodyAttributes c owner t
  let initializer ← initializer? c (statements t)
  return own ++ (← initializedAttributes c owner (own.map (·.name)) initializer)

/-! ## Classes -/

/-- The names of the constants of an enumeration. -/
def variantsOf (c : FileContext) (t : SyntaxTree) : Except Fault (List String) :=
  c.texts (((statements t).flatMap assignments).filterMap assignedName)

/-- What a class is, by its bases. -/
def formOf (c : FileContext) (bases decorators : List String) (t : SyntaxTree) : Except Fault TypeForm :=
  if bases.any enumBases.contains then (variantsOf c t).map TypeForm.enumeration
  else if bases.any protocolBases.contains then .ok (.interface "protocol")
  else
    .ok (.class "class" bases
      (Metadata.empty.setIf (!decorators.isEmpty) "decorators" (.arr (decorators.map .str))))

/-- The record of a class, whose name stands inside of an outer scope. -/
def classRecord (c : FileContext) (outer : String) (decorators : List String) (t : SyntaxTree) :
    Except Fault TypeRecord := do
  let name ← c.nameOf t
  let bases ← basesOf c t
  let form ← formOf c bases decorators t
  return { name
           qualified := outer ++ "." ++ name
           visibility := visibility name
           file := c.file
           line := c.line t
           doc := ← docOf c t
           endLine := some (c.endLine t)
           form }

/-- The bases of a class that are dependencies. -/
def heritageOf (c : FileContext) (r : TypeRecord) (t : SyntaxTree) : Except Fault (List Heritage) :=
  (basesOf c t).map fun bases => Heritage.clauses r "extends" (bases.filter fun b => !ignoredBases.contains b)

mutual

/-- What a statement declares, with everything inside of it: a function, a class, or a decorated one of
    them.  `decorators` are those of a statement that is decorated already.  Nothing inside of an
    enumeration is looked at. -/
def declared (c : FileContext) (owner : Option String) (decorators : Option (List String)) :
    SyntaxTree → Except Fault Declarations
  | t@(.node kind _ _ _ _ _ _ children) =>
    if kind = "function_definition" then
      (functionOf c owner (decorators.getD []) t).map Declarations.ofFunction
    else if kind = "class_definition" then do
      let r ← classRecord c (owner.getD c.modulePath) (decorators.getD []) t
      if r.form.isEnumeration then return Declarations.ofType r []
      let own := Declarations.ofType r (← heritageOf c r t)
      let inner ← inBlock c r.qualified children
      return own ++ inner ++ Declarations.ofAttributes (← attributesOf c r.qualified t)
    else if kind = "decorated_definition" && decorators.isNone then do
      definition c owner (← decoratorsOf c t) children
    else .ok .empty

/-- What the definition below some decorators declares. -/
def definition (c : FileContext) (owner : Option String) (decorators : List String) :
    List SyntaxTree → Except Fault Declarations
  | [] => .ok .empty
  | t :: rest =>
    if t.field = "definition" then declared c owner (some decorators) t
    else definition c owner decorators rest

/-- What the first block among some nodes declares. -/
def inBlock (c : FileContext) (owner : String) : List SyntaxTree → Except Fault Declarations
  | [] => .ok .empty
  | .node kind _ _ _ _ _ _ children :: rest =>
    if kind = "block" then members c owner children else inBlock c owner rest

/-- What the statements of a class declare. -/
def members (c : FileContext) (owner : String) : List SyntaxTree → Except Fault Declarations
  | [] => .ok .empty
  | t :: rest => do return (← declared c (some owner) none t) ++ (← members c owner rest)

end

/-! ## Files -/

/-- The name that is imported, without the name it is given. -/
def importedName (t : SyntaxTree) : Option SyntaxTree :=
  if t.kind = "aliased_import" then t.child? "name" else some t

/-- The dots and the module that an import starts from. -/
def importModule (c : FileContext) (t : SyntaxTree) : Except Fault (Int × String) :=
  if t.kind = "relative_import" then
    t.children.foldlM
      (fun (level, module) x => do
        if x.kind = "import_prefix" then
          return (((← c.text x).toList.count '.' : Nat), module)
        else if x.kind = "dotted_name" then return (level, ← c.text x)
        else return (level, module))
      ((0 : Int), "")
  else (c.text t).map fun module => (0, module)

/-- The names in an import statement. -/
def importedNames (c : FileContext) (t : SyntaxTree) : Except Fault (List String) :=
  c.texts ((t.childrenAt "name").filterMap importedName)

/-- The imports of a statement. -/
def importsOf (c : FileContext) (t : SyntaxTree) : Except Fault (List Import) := do
  let line := c.line t
  if t.kind = "import_statement" then
    return (← importedNames c t).map fun target => { target, names := [], level := 0, line }
  else
    match t.child? "module_name" with
    | none => return []
    | some m =>
      let (level, target) ← importModule c m
      let names ← importedNames c t
      let all := t.children.any fun x => x.kind = "wildcard_import"
      return [{ target, names := if all then ["*"] else names, level, line }]

/-- The names in a list that is assigned to `__all__`. -/
def exportsOf (c : FileContext) (a : SyntaxTree) : Except Fault (List String) :=
  match a.child? "left" with
  | none => .ok []
  | some left => do
    if (← c.text left) ≠ "__all__" then return []
    match (a.child? "right").filter fun r => r.kind = "list" || r.kind = "tuple" with
    | none => return []
    | some right =>
      let items ← c.texts (right.children.filter fun x => x.kind = "string")
      return items.map (Text.trimOf ['\'', '"'])

/-- The kinds of import statements. -/
def importKinds : List String := ["import_statement", "import_from_statement"]

/-- All declarations of a file. -/
def extract (source : Source) (path root : Path) (file : String) (tree : SyntaxTree) :
    Except Fault Declarations := do
  let c : FileContext := { source, file, modulePath := ← modulePath path root }
  let imports ← (tree.children.filter fun t => importKinds.contains t.kind).mapM (importsOf c)
  let exports ← (tree.children.flatMap assignments).mapM (exportsOf c)
  let found ← tree.children.mapM (declared c none none)
  let record : SourceFile :=
    { path := file, name := path.name, lines := source.lineCount, modulePath := c.modulePath
      language := "python", imports := imports.flatten, exports := exports.flatten
      isTest := isTestFile path root }
  return { Declarations.empty with files := [record] } ++ Declarations.mergeAll found

end CodeAtlas.Python
