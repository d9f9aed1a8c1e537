import CodeAtlas.Extraction.Context
/-!
  Declarations of a Java file.

  Every type declaration, at the top or inside of another one, gives a record; so do methods, constructors
  and fields.  A documentation comment is the named node right before the declaration, so the walk over
  the children of a node carries the children that it has passed.
-/
namespace CodeAtlas.Java

/-- Methods that are too common to say anything. -/
def noise : List String :=
  ["toString", "equals", "hashCode", "compareTo", "getClass", "notify", "notifyAll", "wait", "clone",
    "finalize", "length", "size", "get", "set", "add", "remove", "contains", "isEmpty", "put", "keySet",
    "values", "entrySet", "iterator", "next", "hasNext", "clear", "stream", "map", "filter", "collect",
    "forEach", "reduce", "flatMap", "sorted", "distinct", "limit", "println", "printf", "print", "format",
    "read", "write", "close", "flush"]

/-- The kinds of type declarations. -/
def typeDeclarations : List String :=
  ["class_declaration", "interface_declaration", "enum_declaration", "record_declaration",
    "annotation_type_declaration"]

/-! ## Parts of a declaration -/

/-- The modifiers of a declaration. -/
def modifiers (t : SyntaxTree) : List SyntaxTree :=
  ((t.childOfKind? ["modifiers"]).map SyntaxTree.children).getD []

/-- The visibility that the modifiers state. -/
def visibilityOf (c : FileContext) (t : SyntaxTree) : Except Fault String :=
  (c.texts (modifiers t)).map fun words =>
    (["public", "protected", "private"].find? words.contains).getD "package-private"

/-- Whether a modifier is there; the search ends where it is found. -/
def hasModifier (c : FileContext) (modifier : String) : List SyntaxTree → Except Fault Bool
  | [] => .ok false
  | t :: rest => do if (← c.text t) = modifier then return true else hasModifier c modifier rest

/-- The annotations of a declaration, without the sign in front. -/
def annotationsOf (c : FileContext) (t : SyntaxTree) : Except Fault (List String) :=
  let found := (modifiers t).filter fun m => m.kind = "annotation" || m.kind = "marker_annotation"
  (c.texts found).map fun texts => texts.map fun s => (Text.afterStart? "@" s).getD s

/-- The documentation comment among the nodes before a declaration, the nearest first. -/
def docOf (c : FileContext) (before : List SyntaxTree) : Except Fault (Option String) :=
  match (before.find? SyntaxTree.isNamed).filter fun s => s.kind = "comment" || s.kind = "block_comment" with
  | some comment => (c.text comment).map Text.docComment?
  | none => .ok none

/-- Nodes that end the signature of a method. -/
def endsSignature (t : SyntaxTree) : Bool := ["block", "constructor_body", ";"].contains t.kind

/-- A method up to its body, without modifiers. -/
def signatureOf (c : FileContext) (t : SyntaxTree) : Except Fault String :=
  let head := t.children.takeWhile fun x => !endsSignature x
  (c.texts (head.filter fun x => x.kind ≠ "modifiers")).map (Text.join " ")

/-! ## Names of types -/

/-- The kinds of nodes that are names of types. -/
def isTypeName (t : SyntaxTree) : Bool := t.kind = "type_identifier" || t.kind = "scoped_type_identifier"

mutual

/-- The node with the name of a type, without type arguments and array marks. -/
def typeName? : SyntaxTree → Option SyntaxTree
  | t@(.node kind _ _ _ _ _ _ children) =>
    if kind = "generic_type" then children.find? isTypeName
    else if kind = "array_type" then elementName? children
    else if isTypeName t then some t
    else none

/-- The name of the first node that fills the field of the element. -/
def elementName? : List SyntaxTree → Option SyntaxTree
  | [] => none
  | t :: rest => if t.field = "element" then typeName? t else elementName? rest

end

/-- The name of a type; an empty one does not count. -/
def typeNameOf (c : FileContext) (t : SyntaxTree) : Except Fault (Option String) :=
  (c.text? (typeName? t)).map fun name => name.filter fun s => s ≠ ""

/-- The names of some types. -/
def typeNamesOf (c : FileContext) (ts : List SyntaxTree) : Except Fault (List String) :=
  ts.filterMapM (typeNameOf c)

/-- The first name of some types. -/
def firstTypeName (c : FileContext) : List SyntaxTree → Except Fault (Option String)
  | [] => .ok none
  | t :: rest => do
    match ← typeNameOf c t with
    | some name => return some name
    | none => firstTypeName c rest

/-- All names of types in a type, type arguments included. -/
def typeArguments (c : FileContext) (t : SyntaxTree) : Except Fault (List String) :=
  c.texts ((t.visits fun x => !isTypeName x).filter isTypeName)

/-- The class that a class extends. -/
def superclassOf (c : FileContext) (t : SyntaxTree) : Except Fault (Option String) :=
  firstTypeName c (((t.child? "superclass").map SyntaxTree.children).getD [])

/-- The interfaces that a type implements, or that an interface extends. -/
def interfacesOf (c : FileContext) (t : SyntaxTree) : Except Fault (List String) :=
  let clauses := t.children.filter fun x =>
    x.kind = "super_interfaces" || x.kind = "extends_interfaces"
  let lists := clauses.flatMap fun x => x.children.filter fun y => y.kind = "type_list"
  typeNamesOf c (lists.flatMap SyntaxTree.children)

/-! ## Calls -/

/-- The call that a node makes: an invocation, behind the last part of its receiver unless that is the object
    itself or the result of another call; or the construction of an object. -/
def callEntry (c : FileContext) (t : SyntaxTree) : Except Fault (List Call) := do
  if t.kind = "method_invocation" then
    match t.child? "name", t.child? "object" with
    | some name, some object =>
      let method ← c.text name
      let hint := Text.afterLast '.' (← c.text object)
      if hint = "this" || hint = "super" || Text.hasChar '(' hint then return c.call t method
      else return c.call t (hint ++ "." ++ method)
    | some name, none => return c.call t (← c.text name)
    | none, _ => return []
  else if t.kind = "object_creation_expression" then
    match t.child? "type" with
    | none => return []
    | some type_ =>
      match ← typeNameOf c type_ with
      | some name => return c.call t name
      | none => return []
  else return []

/-- The calls in a body. -/
def callsIn (c : FileContext) (body : Option SyntaxTree) : Except Fault (List Call) :=
  match body with
  | some b => FileContext.calls (callEntry c) b
  | none => .ok []

/-! ## Records -/

/-- The qualified name of a type inside of an outer one, or of a package. -/
def qualify (outer name : String) : String := if outer = "" then name else outer ++ "." ++ name

/-- The record of a method or a constructor. -/
def methodOf (c : FileContext) (owner : String) (before : List SyntaxTree) (t : SyntaxTree) :
    Except Fault FunctionRecord := do
  let name ← c.nameOf t
  let isStatic ← hasModifier c "static" (modifiers t)
  let isAbstract ← hasModifier c "abstract" (modifiers t)
  let metadata := ((Metadata.empty.setIf (t.kind = "constructor_declaration") "is_constructor"
    (.bool true)).setIf isStatic "is_static" (.bool true)).setIf isAbstract "is_abstract" (.bool true)
  return { name
           qualified := owner ++ "." ++ name
           visibility := ← visibilityOf c t
           isAsync := false
           isMethod := true
           signature := ← signatureOf c t
           file := c.file
           line := c.line t
           doc := ← docOf c before
           returnType := ← c.text? (t.child? "type")
           owner := some owner
           decorators := ← annotationsOf c t
           calls := ← callsIn c (t.child? "body")
           endLine := some (c.endLine t)
           metadata }

/-- All names of types in a type that may be absent. -/
def mentionedTypes (c : FileContext) (t : Option SyntaxTree) : Except Fault (List String) :=
  match t with
  | some t => typeArguments c t
  | none => .ok []

/-- The records of the fields of one declaration: one for each name and each type that it mentions. -/
def fieldsOf (c : FileContext) (owner : String) (t : SyntaxTree) : Except Fault (List AttributeRecord) := do
  let types ← mentionedTypes c (t.child? "type")
  let visibility ← visibilityOf c t
  let names ← (t.childrenAt "declarator").mapM c.nameOf
  let annotations := if types.isEmpty then [none] else types.map some
  return names.flatMap fun name => annotations.map fun declaredType =>
    { name, qualified := owner ++ "." ++ name, owner, declaredType, visibility, file := c.file
      line := c.line t }

/-- The names of the constants of an enumeration. -/
def constantsOf (c : FileContext) (t : SyntaxTree) : Except Fault (List String) :=
  let body := ((t.child? "body").map SyntaxTree.children).getD []
  (body.filter fun x => x.kind = "enum_constant").mapM c.nameOf

/-- The record of a type and its clauses. -/
def typeOf (c : FileContext) (outer : String) (before : List SyntaxTree) (t : SyntaxTree) :
    Except Fault (TypeRecord × List Heritage) := do
  let name ← c.nameOf t
  let interfaces ← interfacesOf c t
  let visibility ← visibilityOf c t
  let doc ← docOf c before
  let record (form : TypeForm) : TypeRecord :=
    { name, qualified := qualify outer name, visibility, file := c.file, line := c.line t, doc
      endLine := some (c.endLine t), form }
  if t.kind = "class_declaration" || t.kind = "record_declaration" then
    let superclass ← superclassOf c t
    let annotations ← annotationsOf c t
    let isAbstract ← hasModifier c "abstract" (modifiers t)
    let metadata := ((Metadata.empty.setIf (!annotations.isEmpty) "decorators"
      (.arr (annotations.map .str))).setIf isAbstract "is_abstract" (.bool true)).setIf
      (t.kind = "record_declaration") "is_record" (.bool true)
    let r := record (.class "class" superclass.toList metadata)
    return (r, Heritage.clauses r "extends" superclass.toList ++ Heritage.clauses r "implements" interfaces)
  else if t.kind = "enum_declaration" then
    let r := record (.enumeration (← constantsOf c t))
    return (r, Heritage.clauses r "implements" interfaces)
  else
    let r := record (.interface "interface")
    return (r, Heritage.clauses r "extends" interfaces)

mutual

/-- A type with everything inside of it. -/
def declared (c : FileContext) (outer : String) (before : List SyntaxTree) :
    SyntaxTree → Except Fault Declarations
  | t@(.node _ _ _ _ _ _ _ children) => do
    let (r, heritage) ← typeOf c outer before t
    return Declarations.ofType r heritage ++ (← inBody c r.qualified children)

/-- What the body among some nodes declares. -/
def inBody (c : FileContext) (owner : String) : List SyntaxTree → Except Fault Declarations
  | [] => .ok .empty
  | .node _ _ _ _ _ _ field children :: rest =>
    if field = "body" then members c owner [] children else inBody c owner rest

/-- What the members of a type declare; `before` are the nodes that the walk has passed. -/
def members (c : FileContext) (owner : String) (before : List SyntaxTree) :
    List SyntaxTree → Except Fault Declarations
  | [] => .ok .empty
  | t :: rest => do return (← member c owner before t) ++ (← members c owner (t :: before) rest)

/-- What one member of a type declares.  The declarations of an enumeration stand one level deeper. -/
def member (c : FileContext) (owner : String) (before : List SyntaxTree) :
    SyntaxTree → Except Fault Declarations
  | t@(.node kind _ _ _ _ _ _ children) =>
    if kind = "method_declaration" || kind = "constructor_declaration" then
      (methodOf c owner before t).map Declarations.ofFunction
    else if kind = "field_declaration" then (fieldsOf c owner t).map Declarations.ofAttributes
    else if typeDeclarations.contains kind then do
      let (r, heritage) ← typeOf c owner before t
      return Declarations.ofType r heritage ++ (← inBody c r.qualified children)
    else if kind = "enum_body_declarations" then members c owner [] children
    else .ok .empty

end

/-! ## Files -/

/-- The name in the package declaration of a file. -/
def packageOf (c : FileContext) (t : SyntaxTree) : Except Fault String :=
  let named := (t.children.filter fun x => x.kind = "package_declaration").filterMap fun x =>
    x.childOfKind? ["scoped_identifier", "identifier"]
  match named.head? with
  | some name => c.text name
  | none => .ok ""

/-- The package of a file: the declared one, or else the directories below the source root. -/
def modulePath (file root : Path) (package : String) : Except Fault String :=
  if package ≠ "" then .ok package
  else
    match file.below? root with
    | some rel => .ok (Text.join "." rel.parts.dropLast)
    | none => .error .badValue

/-- The import of a statement.  A static import of a member is an import of the type that declares it. -/
def importOf (c : FileContext) (t : SyntaxTree) : Except Fault (Option Import) := do
  let isStatic := Text.hasPiece " static " (" " ++ (← c.text t) ++ " ")
  match t.childOfKind? ["scoped_identifier", "identifier"] with
  | none => return none
  | some path =>
    let path ← c.text path
    let all := t.children.any fun x => x.kind = "asterisk"
    let target := if isStatic && !all then Text.beforeLast '.' path else path
    return some { target, names := if all then ["*"] else [], level := 0, line := c.line t }

/-- Whether a file holds tests, by its name or its place. -/
def isTestFile (path : Path) (file : String) : Bool :=
  Text.endsWith "Test" path.stem || Text.endsWith "Tests" path.stem
    || Text.hasPiece "/src/test/" ("/" ++ file)

/-- What a node at the top of a file declares. -/
def declaredAtTop (c : FileContext) (before : List SyntaxTree) (t : SyntaxTree) : Except Fault Declarations :=
  if typeDeclarations.contains t.kind then declared c c.modulePath before t else .ok .empty

/-- What the declarations at the top of a file declare; `before` are the nodes that the walk has passed. -/
def topLevel (c : FileContext) (before : List SyntaxTree) : List SyntaxTree → Except Fault Declarations
  | [] => .ok .empty
  | t :: rest => do return (← declaredAtTop c before t) ++ (← topLevel c (t :: before) rest)

/-- All declarations of a file. -/
def extract (source : Source) (path root : Path) (file : String) (tree : SyntaxTree) :
    Except Fault Declarations := do
  let c : FileContext := { source, file, modulePath := "" }
  let c := { c with modulePath := ← modulePath path root (← packageOf c tree) }
  let imports ← (tree.children.filter fun t => t.kind = "import_declaration").filterMapM (importOf c)
  let record : SourceFile :=
    { path := file, name := path.name, lines := source.lineCount, modulePath := c.modulePath
      language := "java", imports, exports := [], isTest := isTestFile path file }
  return { Declarations.empty with files := [record] } ++ (← topLevel c [] tree.children)

end CodeAtlas.Java
