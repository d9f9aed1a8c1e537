import CodeAtlas.CyclePolicy
import CodeAtlas.Metadata
/-!
  The settings of an analysis.

  A table of a configuration file is laid over given settings field by field.  A field whose value has the
  wrong type, or is out of its range, leaves the setting as it was.  Names of excluded directories are
  added to the ones that are excluded already.

  A refused value is told in a warning, and warnings are left out.  So is one consequence of them: the warning displays
  the value, and displaying a list or a table that is nested more deeply than the interpreter can follow fails by
  itself.  Here such a value is refused like any other.
-/
namespace CodeAtlas

/-- The settings of an analysis. -/
structure Settings where
  /-- names of directories that are not looked into -/
  excluded : List String
  maxWorkers : Int
  maxCallTargets : Int
  /-- the directory of the snapshots, inside of the project -/
  snapshotDir : String
  /-- the quiet period before a new analysis, in seconds -/
  debounce : Json
  cyclePolicy : CyclePolicy
  includeTests : Bool
deriving Repr, DecidableEq, Inhabited

namespace Settings

/-- Directories of tools and of generated code. -/
def defaultExcluded : List String :=
  ["node_modules", "bower_components", "vendor", ".git", ".hg", ".svn", "__pycache__", ".venv", "venv",
    "env", ".tox", ".eggs", ".mypy_cache", ".pytest_cache", ".ruff_cache", "dist", "build", "target",
    "out", "coverage", ".next", ".idea", ".vscode", ".gradle", ".depgraph"]

/-- The settings of a project without a configuration, on a machine with four processors. -/
def default : Settings :=
  { excluded := defaultExcluded
    maxWorkers := 8
    maxCallTargets := 5
    snapshotDir := ".depgraph"
    debounce := .float (Double.ofDecimal false 2 0)
    cyclePolicy := .condense
    includeTests := true }

/-- The texts of a list. -/
def listTexts? : Json → Option (List String)
  | .arr items => some (items.map Json.text)
  | _ => none

/-- An integer. -/
def int? : Json → Option Int
  | .int n => some n
  | _ => none

/-- An integer of at least one. -/
def positive? : Json → Option Int
  | .int n => if n < 1 then none else some n
  | _ => none

/-- A duration: an integer, a double or a truth value. -/
def seconds? : Json → Option Json
  | .int n => some (.int n)
  | .float x => some (.float x)
  | .bool b => some (.bool b)
  | _ => none

/-- A text. -/
def text? : Json → Option String
  | .str s => some s
  | _ => none

/-- A truth value. -/
def truth? : Json → Option Bool
  | .bool b => some b
  | _ => none

/-- Adds the names that are new, each once. -/
def exclude : List String → List String → List String
  | [], excluded => excluded
  | name :: rest, excluded => exclude rest (if excluded.contains name then excluded else excluded ++ [name])

/-- No name is excluded twice. -/
theorem exclude_nodup {names excluded : List String} (h : excluded.Nodup) : (exclude names excluded).Nodup := by
  induction names generalizing excluded with
  | nil => exact h
  | cons name rest ih =>
    rw [exclude]
    apply ih
    by_cases known : name ∈ excluded
    · simpa [known] using h
    · simp only [List.contains_iff_mem, known, if_false]
      exact List.nodup_append.2 ⟨h, by simp, by
        intro a ha b hb
        rw [List.mem_singleton.1 hb]
        exact fun same => known (same ▸ ha)⟩

/-- The settings of a table of named values laid over given ones. -/
def override (base : Settings) (table : Metadata) : Settings :=
  let field {β : Type} (name : String) (read? : Json → Option β) (fallback : β) : β :=
    ((table.get? name).bind read?).getD fallback
  { excluded := exclude (field "exclude" listTexts? []) base.excluded
    maxWorkers := field "max_workers" positive? base.maxWorkers
    maxCallTargets := field "max_call_targets" int? base.maxCallTargets
    snapshotDir := field "snapshot_dir" text? base.snapshotDir
    debounce := field "debounce_seconds" seconds? base.debounce
    cyclePolicy := field "cycle_policy" CyclePolicy.named? base.cyclePolicy
    includeTests := field "include_tests" truth? base.includeTests }

/-- The settings of a configuration laid over given ones.  Only an object is a table. -/
def ofJson (base : Settings) : Json → Except Fault Settings
  | .obj fields => .ok (base.override ⟨fields⟩)
  | _ => .error .noFields

end Settings

end CodeAtlas
