import CodeAtlas.FileTree.Sources
import CodeAtlas.Json.Reader
import CodeAtlas.Project
import CodeAtlas.Settings
import CodeAtlas.Text.Lines
import CodeAtlas.Toml.Reader
import CodeAtlas.Xml.Reader
/-!
  Manifests: the files that say how a project is built.

  A manifest settles the language of the project, where its sources are, and its name.  One that cannot be
  read says nothing, and the project is named after its directory.
-/
namespace CodeAtlas

/-- A kind of manifest. -/
inductive Manifest where
  | maven
  | gradle
  | pyproject
  | packageJson
deriving Repr, DecidableEq, Inhabited

namespace Manifest

/-- All kinds of manifests; an earlier one is preferred. -/
def all : List Manifest := [maven, gradle, pyproject, packageJson]

/-- The names of the files of a kind; an earlier one is preferred. -/
def fileNames : Manifest → List String
  | maven => ["pom.xml"]
  | gradle => ["build.gradle.kts", "build.gradle", "settings.gradle.kts", "settings.gradle"]
  | pyproject => ["pyproject.toml", "setup.py", "setup.cfg", "requirements.txt"]
  | packageJson => ["package.json"]

/-- The manifest of a kind in a directory. -/
def findOfKind (t : FileTree) (root : Path) (kind : Manifest) : Except Fault (Option (Manifest × Path)) :=
  ((kind.fileNames.map root.child).findM? t.hasFile).map fun found => found.map fun path => (kind, path)

/-- The manifest of a directory. -/
def find (t : FileTree) (root : Path) : Except Fault (Option (Manifest × Path)) :=
  all.findSomeM? (findOfKind t root)

/-- A name, or else that of the directory. -/
def nameOr (root : Path) (name : Option Project.Name) : Project.Name := name.getD (.ofText root.name)

/-- A text as a name; an empty one is none. -/
def nameOfText? (s : String) : Option Project.Name := if s = "" then none else some (.ofText s)

/-! ## Java -/

/-- The source roots of a project in Java. -/
def javaRoots (t : FileTree) (settings : Settings) (root : Path) : Except Fault (List Path) := do
  let main := root.join ⟨"", ["src", "main", "java"]⟩
  let test := root.join ⟨"", ["src", "test", "java"]⟩
  if !(← t.hasDirectory main) then return [root]
  else if settings.includeTests then return if ← t.hasDirectory test then [main, test] else [main]
  else return [main]

/-- The text of an element, when there is more to it than white space. -/
def elementText (x : Xml) : Option String :=
  let text := Text.trim x.leadingText
  if text = "" then none else some text

/-- The child of an element by its local name: the first one in the namespace of the element itself.  A star
    for the namespace stands for all of them. -/
def sibling? (x : Xml) (localName : String) : Option Xml :=
  match x.name? with
  | some ⟨"*", _⟩ => x.children.find? fun c => c.name?.map Xml.Name.localName = some localName
  | some ⟨space, _⟩ => x.child? ⟨space, localName⟩
  | none => none

/-- The name that a Maven project states: its own name, or else that of its artifact. -/
def mavenNameIn (project : Xml) : Option String :=
  ["name", "artifactId"].findSome? fun n => (sibling? project n).bind elementText

/-- The name of a Maven project.  A manifest in an encoding that cannot be read is a fault. -/
def mavenName (t : FileTree) (path : Path) : Except Fault (Option String) :=
  match t.read path with
  | .error _ => .ok none
  | .ok bytes =>
    match Xml.ofBytes bytes with
    | .ok project => .ok (mavenNameIn project)
    | .error .malformed => .ok none
    | .error .unknownEncoding => .error .unknownEncoding
    | .error .wideEncoding => .error .badValue
    | .error .asciiEncoding => .error .undecodable
    | .error .unusableEncoding => .error .unusableEncoding

/-- A text in quotes of either kind, behind an equals sign. -/
def quotedAfterEquals? (cs : List Char) : Option String :=
  let isQuote (c : Char) : Bool := c == '\'' || c == '"'
  match cs.dropWhile Text.isBlank with
  | '=' :: rest =>
    match rest.dropWhile Text.isBlank with
    | quote :: rest =>
      let body := rest.takeWhile fun c => !isQuote c
      if isQuote quote && !body.isEmpty && body.length < rest.length then some (String.ofList body)
      else none
    | [] => none
  | _ => none

/-- The key of the name in the settings of a Gradle project. -/
def gradleKey : List Char := "rootProject.name".toList

/-- The first name that a text gives to a Gradle project. -/
def gradleNameIn : List Char → Option String
  | [] => none
  | c :: rest =>
    let here := if gradleKey.isPrefixOf (c :: rest) then
        quotedAfterEquals? ((c :: rest).drop gradleKey.length)
      else none
    here.or (gradleNameIn rest)

/-- The name of a Gradle project in some of its files. -/
def gradleNameAt (t : FileTree) : List Path → Except Fault (Option String)
  | [] => return none
  | path :: rest => do
    if !(← t.hasFile path) then gradleNameAt t rest
    else
      match gradleNameIn (Text.unixLineEnds (← t.readText path).toList) with
      | some name => return some name
      | none => gradleNameAt t rest

/-- The name of a Gradle project. -/
def gradleName (t : FileTree) (root : Path) : Except Fault (Option String) :=
  gradleNameAt t (["settings.gradle.kts", "settings.gradle"].map root.child)

/-! ## Python -/

/-- The fields of a table that may be absent. -/
def tableField (name : String) (fields : Toml.Fields) : Except Fault Toml.Fields :=
  match Toml.get? name fields with
  | none => .ok []
  | some v =>
    match v.fields? with
    | some fields => .ok fields
    | none => .error .noFields

/-- The name that a document states; an empty one is none. -/
def pyprojectName (fields : Toml.Fields) : Except Fault (Option Project.Name) := do
  let stated ← match Toml.get? "name" (← tableField "project" fields) with
    | some name => pure (some name)
    | none => do
      let poetry ← tableField "poetry" (← tableField "tool" fields)
      pure (Toml.get? "name" poetry)
  return (stated.filter fun v => !v.isEmpty).map .ofToml

/-- The build system: the first part of the name of the backend. -/
def pyprojectBuild (fields : Toml.Fields) : Except Fault String := do
  match Toml.get? "build-backend" (← tableField "build-system" fields) with
  | none => return "pip"
  | some (.text s) => return if s = "" then "pip" else Text.beforeFirst '.' s
  | some v => if v.isEmpty then return "pip" else throw .noFields

/-- Whether a directory holds a package. -/
def holdsPackage (t : FileTree) (dir : Path) : Bool :=
  match t.find dir with
  | .ok (.directory es) =>
    es.any fun e => (OrderedMap.lookup "__init__.py" e.2.entries).isSome
  | _ => false

/-- The name and the build system that a Python manifest states. -/
def pythonFacts (t : FileTree) (path : Path) : Except Fault (Option Project.Name × String) :=
  if path.name = "pyproject.toml" then do
    let fields ← match t.read path with
      | .error _ => pure []
      | .ok bytes =>
        match Toml.ofBytes bytes with
        | .ok fields => pure fields
        | .error .malformed => pure []
        | .error .tooDeep => throw .tooDeep
    let name ← pyprojectName fields
    return (name, ← pyprojectBuild fields)
  else .ok (none, if path.name = "requirements.txt" then "pip" else "setuptools")

/-! ## TypeScript and JavaScript -/

/-- The name that a package states; an empty one is none. -/
def packageName (t : FileTree) (path : Path) : Except Fault (Option Project.Name) :=
  match t.readCharacters path with
  | .error _ => .ok none
  | .ok characters =>
    match Json.read characters with
    | .ok v => .ok (((v.get? "name").bind Json.nonEmpty?).map .plain)
    | .error .tooDeep => .error .tooDeep
    | .error .malformed | .error .tooLong => .ok none

/-- Whether a package is in TypeScript. -/
def isTyped (t : FileTree) (settings : Settings) (root : Path) : Except Fault Bool := do
  if ← t.hasFile (root.child "tsconfig.json") then return true
  else return !(← t.sourceFiles ⟨Language.typescriptExtensions, settings.excluded⟩ root).isEmpty

/-! ## Reading -/

/-- The project of a manifest. -/
def project (t : FileTree) (settings : Settings) (root path : Path) : Manifest → Except Fault Project
  | maven => do
    let name ← mavenName t path
    return { name := nameOr root (name.bind nameOfText?), language := .java, root
             sourceRoots := ← javaRoots t settings root, manifest := some path
             buildSystem := some "maven" }
  | gradle => do
    let name ← gradleName t root
    return { name := nameOr root (name.bind nameOfText?), language := .java, root
             sourceRoots := ← javaRoots t settings root, manifest := some path
             buildSystem := some "gradle" }
  | pyproject => do
    let (name, build) ← pythonFacts t path
    let src := root.child "src"
    return { name := nameOr root name, language := .python, root
             sourceRoots := [if holdsPackage t src then src else root], manifest := some path
             buildSystem := some build }
  | packageJson => do
    let name ← packageName t path
    let src := root.child "src"
    return { name := nameOr root name
             language := if ← isTyped t settings root then .typescript else .javascript
             root, sourceRoots := [if ← t.hasDirectory src then src else root], manifest := some path
             buildSystem := some "npm" }

example : gradleNameIn "// x\nrootProject.name =\t'shop'".toList = some "shop" := by decide +kernel
example : gradleNameIn "rootProject.name = shop".toList = none := by decide +kernel

end Manifest

end CodeAtlas
