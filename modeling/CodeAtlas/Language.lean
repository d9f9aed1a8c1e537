import CodeAtlas.Text.Pieces
/-!
  The languages that can be analysed, and the names of their source files.
-/
namespace CodeAtlas

/-- A language of source files. -/
inductive Language where
  | java
  | python
  | typescript
  | javascript
deriving Repr, DecidableEq, Inhabited

namespace Language

/-- All languages; an earlier one is preferred where several fit equally well. -/
def all : List Language := [java, python, typescript, javascript]

/-- The name of a language. -/
def name : Language → String
  | java => "java"
  | python => "python"
  | typescript => "typescript"
  | javascript => "javascript"

/-- The language with a name. -/
def named? (text : String) : Option Language := all.find? fun l => l.name = text

/-- The extensions of file names, with the language that each stands for. -/
def extensions : List (String × Language) :=
  [(".java", java), (".py", python), (".ts", typescript), (".tsx", typescript), (".mts", typescript),
    (".js", javascript), (".jsx", javascript), (".mjs", javascript), (".cjs", javascript)]

/-- Extensions of modules in TypeScript. -/
def typescriptExtensions : List String := [".ts", ".tsx", ".mts"]

/-- Extensions of modules in JavaScript. -/
def javascriptExtensions : List String := [".js", ".jsx", ".mjs", ".cjs"]

/-- The extensions of the files that the analysis of a language reads.  A project in TypeScript may hold
    plain JavaScript as well. -/
def sourceExtensions : Language → List String
  | java => [".java"]
  | python => [".py"]
  | typescript => typescriptExtensions ++ javascriptExtensions
  | javascript => javascriptExtensions

end Language

/-- A grammar, which gives source files their syntax trees. -/
inductive Grammar where
  | java
  | python
  | typescript
  | tsx
  | javascript
deriving Repr, DecidableEq, Inhabited

namespace Grammar

/-- The grammar that the analysis of a language uses for a file, by the suffix of the file's name. -/
def forFile : Language → String → Grammar
  | .java, _ => java
  | .python, _ => python
  | .javascript, _ => javascript
  | .typescript, suffix =>
    if suffix = ".tsx" then tsx
    else if Language.javascriptExtensions.contains suffix then javascript
    else typescript

end Grammar

end CodeAtlas
