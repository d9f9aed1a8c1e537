import CodeAtlas.Analyzer
import CodeAtlas.Graph.Metrics
import CodeAtlas.Project.Detection
import CodeAtlas.Settings.Configuration
import CodeAtlas.Snapshot
/-!
  One analysis: what is in a directory, its graph, the figures of the graph, and the snapshot.

  An analysis that fails saves nothing, so the snapshot before it stays.  At most a new directory for it is there, and
  on a device that does not let go of it, the file that the text of the snapshot was to be collected in.
-/
namespace CodeAtlas

/-- What an analysis is asked for. -/
structure AnalysisRequest where
  root : Path
  /-- the settings; without them those of the project count -/
  settings : Option Settings
  /-- the analyzers; without them the built-in ones count -/
  registry : Option Registry
  /-- the place for snapshots; without it the settings say where -/
  store : Option SnapshotStore
  /-- whether the graph is saved -/
  save : Bool

/-- The result of an analysis. -/
structure Analysis where
  /-- the project; not known when the graph comes from a snapshot -/
  project : Option Project
  graph : Graph
  metrics : Metrics
  fromSnapshot : Bool
deriving Repr, DecidableEq, Inhabited

namespace Analysis

/-- A sentence about the result; the time that it took is given as a text. -/
def summary (a : Analysis) (seconds : String) : String :=
  (if a.fromSnapshot then "Loaded cached graph" else "Dependency analysis completed")
    ++ " in " ++ seconds ++ " seconds. Found " ++ toString a.metrics.nodeCount
    ++ " nodes with max depth of " ++ toString a.metrics.maxDepth ++ "."

end Analysis

namespace AnalysisRequest

/-- The request with a root from the top. -/
def normalized (r : AnalysisRequest) : Except Fault AnalysisRequest := do
  return { r with root := ← r.root.resolve }

/-- The settings that count. -/
def settingsIn (r : AnalysisRequest) (t : FileTree) : Except Fault Settings :=
  match r.settings with
  | some settings => .ok settings
  | none => do if ← t.hasDirectory r.root then Settings.ofProject t r.root else return .default

/-- The place for snapshots that counts. -/
def storeFor (r : AnalysisRequest) (settings : Settings) : SnapshotStore :=
  r.store.getD ⟨r.root.join (Path.ofString settings.snapshotDir)⟩

/-- The project, its graph and the figures of the graph, without saving anything. -/
def result (r : AnalysisRequest) (settings : Settings) (w : Workspace) :
    Except Fault (Project × Graph × Metrics) := do
  match ← Project.detect w.files settings r.root with
  | none => throw (.noProject r.root.text)
  | some project =>
    if project.buildSystem?.isSome then
      let _ ← project.displayName
    let registry := r.registry.getD (Registry.builtin settings)
    let graph ← (registry.analyze w project).1
    return (project, graph, ← graph.metrics settings.cyclePolicy none)

/-- Analyses a directory from scratch.  The graph says which project it is of.  A project whose name cannot be
    written is found out when the graph is saved; if it is not saved, the project stands in the result beside a
    graph that does not tell it. -/
def analyze (request : AnalysisRequest) (tree : TreeBuilder) : Disk.Action Analysis := do
  let r ← Disk.Action.ask fun _ => request.normalized
  let settings ← Disk.Action.ask fun t => r.settingsIn t
  let (project, graph, metrics) ← Disk.Action.ask fun t => r.result settings ⟨t, tree⟩
  let described := project.toJson.map fun p => { graph with metadata := graph.metadata.set "project_type" p }
  if r.save then
    let _ ← (r.storeFor settings).saveDocument SnapshotStore.graphFile (described.bind fun g => g.toJson.document)
  return { project := some project, graph := described.toOption.getD graph, metrics, fromSnapshot := false }

/-- The graph of the snapshot of a directory, or else that of an analysis. -/
def loadOrAnalyze (request : AnalysisRequest) (tree : TreeBuilder) : Disk.Action Analysis := do
  let r ← Disk.Action.ask fun _ => request.normalized
  let known ← Disk.Action.ask fun t => t.hasDirectory r.root
  if !known then throw (.noDirectory r.root.text)
  else
    let settings ← Disk.Action.ask fun t => r.settingsIn t
    let store := r.storeFor settings
    match ← store.load with
    | none => analyze { r with settings := some settings, store := some store, save := true } tree
    | some graph =>
      match graph.metrics settings.cyclePolicy none with
      | .ok metrics => return { project := none, graph, metrics, fromSnapshot := true }
      | .error f => throw f

end AnalysisRequest

end CodeAtlas
