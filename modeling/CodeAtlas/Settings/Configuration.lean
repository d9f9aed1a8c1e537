import CodeAtlas.FileTree
import CodeAtlas.Settings
import CodeAtlas.Toml.Display
import CodeAtlas.Toml.Reader
/-!
  The settings that the configuration files of a project state.

  Two files may hold a table of settings, each at its own place in the document.  The first table with
  anything in it counts.  A file that cannot be read is passed over.

  Of a value that can be no setting only this is kept, as the warning about it is left out: displaying it there could
  fail by itself if it is nested too deeply.
-/
namespace CodeAtlas.Settings

/-- The files that may hold settings, and where in the document they stand. -/
def configurationFiles : List (String × List String) :=
  [(".depgraph.toml", ["depgraph"]), ("pyproject.toml", ["tool", "depgraph"])]

/-- The value that some names lead to, as long as there are tables on the way. -/
def valueAt : List String → Toml → Option Toml
  | [], v => some v
  | name :: rest, v => (v.fields?.bind (Toml.get? name)).bind (valueAt rest)

/-- The non-empty value at the place for settings in a document. -/
def configurationIn? (place : List String) (fields : Toml.Fields) : Option Toml :=
  (valueAt place (.table .explicit fields)).filter fun v => !v.isEmpty

/-- The first configuration in some files. -/
def firstConfiguration (t : FileTree) (root : Path) : List (String × List String) → Except Fault (Option Toml)
  | [] => .ok none
  | (file, place) :: rest =>
    match t.read (root.child file) with
    | .error .nameTooLong => .error .nameTooLong
    | .error _ => firstConfiguration t root rest
    | .ok bytes =>
      match Toml.ofBytes bytes with
      | .error .tooDeep => .error .tooDeep
      | .error .malformed => firstConfiguration t root rest
      | .ok fields =>
        match configurationIn? place fields with
        | some v => .ok (some v)
        | none => firstConfiguration t root rest

/-- A field that can be a setting.  Names to exclude are displayed; no other setting is a list, a table, a date
    or a time, so that such a field is like an absent one. -/
def ofField (field : String × Toml) : Except Fault (Option (Json.Key × Json)) := do
  match field with
  | ("exclude", .array items) =>
    return some (.str "exclude", .arr ((← items.mapM Toml.displayed).map .str))
  | ("exclude", .tables newestFirst) =>
    return some (.str "exclude", .arr ((← newestFirst.reverse.mapM Toml.displayed).map .str))
  | (name, .text s) => return some (.str name, .str s)
  | (name, .integer n) => return some (.str name, .int n)
  | (name, .float x) => return some (.str name, .float x)
  | (name, .truth b) => return some (.str name, .bool b)
  | _ => return none

/-- The settings of a table. -/
def ofToml (base : Settings) : Toml → Except Fault Settings
  | .table _ fields => do return base.override ⟨(← fields.mapM ofField).filterMap id⟩
  | _ => .error .noFields

/-- The settings of a project. -/
def ofProject (t : FileTree) (root : Path) : Except Fault Settings := do
  match ← firstConfiguration t root configurationFiles with
  | some table => ofToml default table
  | none => return default

end CodeAtlas.Settings
