import CodeAtlas.EdgeKind
import CodeAtlas.Metadata
/-!
  What the analysis of one language finds: symbols with resolved relations, and diagnostics.

  A symbol is a module, a type or a function.  Its relations name their targets by identifier; a target may
  lie outside of the project.

  As with graphs, reading is lenient: identifiers and titles may be any value, and absent fields have
  defaults.  The line of a symbol or of a diagnostic is kept as it comes.
-/
namespace CodeAtlas

/-- A named reference from one symbol to another. -/
structure Relation where
  kind : String
  target : String
deriving Repr, DecidableEq, Inhabited

/-- A declaration in the source code. -/
structure Symbol where
  id : String
  title : String
  kind : String
  file : String
  line : Json
  metadata : Metadata
  relations : List Relation
deriving Repr, DecidableEq, Inhabited

/-- A problem with one file that did not stop the analysis. -/
structure Diagnostic where
  path : String
  message : String
  line : Json
deriving Repr, DecidableEq, Inhabited

/-- The symbols of one project in one language. -/
structure Dependencies where
  language : String
  /-- the name of the project; a manifest may give any value as a name -/
  project : Json
  root : String
  symbols : List Symbol
  diagnostics : List Diagnostic
deriving Repr, DecidableEq, Inhabited

namespace Relation

/-- The written form of a relation. -/
def toJson (r : Relation) : Json := .obj [("kind", .str r.kind), ("target", .str r.target)]

/-- The relation that a value describes; a value that does not mention a target describes none. -/
def ofJson? (v : Json) : Except Fault (Option Relation) := do
  if ← v.mentions "target" then
    let kind := match ← v.optional "kind" with
      | some k => k.text
      | none => ""
    return some { kind, target := (← v.required "target").text }
  else
    return none

end Relation

namespace Symbol

/-- Adds a relation unless the symbol has it. -/
def relate (s : Symbol) (kind target : String) : Symbol :=
  if s.relations.contains ⟨kind, target⟩ then s
  else { s with relations := s.relations ++ [⟨kind, target⟩] }

/-- The written form of a symbol. -/
def toJson (s : Symbol) : Json :=
  .obj [("id", .str s.id), ("title", .str s.title), ("kind", .str s.kind), ("file_path", .str s.file),
    ("line", s.line), ("metadata", s.metadata.toJson),
    ("relations", .arr (s.relations.map Relation.toJson))]

/-- The symbol that a value describes. -/
def ofJson (v : Json) : Except Fault Symbol := do
  let id := (← v.required "id").text
  let title ← v.textField "title" id
  let kind ← v.textField "kind" "symbol"
  let file ← v.textField "file_path" ""
  let line := (← v.optional "line").getD .null
  let metadata ← Metadata.ofField "metadata" v
  let relations ← (← v.itemsField "relations").filterMapM Relation.ofJson?
  return { id, title, kind, file, line, metadata, relations }

end Symbol

namespace Diagnostic

/-- The written form of a diagnostic. -/
def toJson (d : Diagnostic) : Json :=
  .obj [("path", .str d.path), ("message", .str d.message), ("line", d.line)]

/-- The diagnostic that a value describes. -/
def ofJson (v : Json) : Except Fault Diagnostic := do
  let path := (← v.optional "path").elim "" Json.text
  let message := (← v.optional "message").elim "" Json.text
  return { path, message, line := (← v.optional "line").getD .null }

end Diagnostic

namespace Dependencies

/-- The name of the written form. -/
def formatName : String := "language-specific"

/-- The written form. -/
def toJson (d : Dependencies) : Json :=
  .obj [("format", .str formatName), ("language", .str d.language), ("project", d.project),
    ("root", .str d.root), ("symbols", .arr (d.symbols.map Symbol.toJson)),
    ("diagnostics", .arr (d.diagnostics.map Diagnostic.toJson))]

/-- The symbols that a value describes. -/
def ofJson (v : Json) : Except Fault Dependencies := do
  let language ← v.textField "language" "unknown"
  let project := .str (← v.textField "project" "")
  let root ← v.textField "root" ""
  let symbols ← (← v.itemsField "symbols").mapM Symbol.ofJson
  let diagnostics ← (← v.itemsField "diagnostics").mapM Diagnostic.ofJson
  return { language, project, root, symbols, diagnostics }

end Dependencies

end CodeAtlas
