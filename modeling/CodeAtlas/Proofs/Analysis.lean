import CodeAtlas.Analysis
import CodeAtlas.Proofs.FileTree.Rollback
import Mathlib.Data.List.Nodup
/-!
  An analysis that fails.

  Nothing is written before the graph is measured, so that a failure until then has changed nothing.  The one thing that
  is written is the snapshot, and what comes after it cannot fail (`cleansUp_save_bind`).  So the only failure after a
  change is one inside of the saving, which takes its temporary file away again if the device lets it
  (`cleansUp_save`).

  No step is taken for granted: making a directory, making the temporary file, writing to it, putting it in the place of
  the snapshot and removing it can each be refused, by any device and for any reason.  What a failure leaves is told
  exactly: all files as they were, or these and the temporary file, whose removal was refused.
-/
namespace CodeAtlas

namespace AnalysisRequest

open Disk.Action

variable {request : AnalysisRequest} {tree : TreeBuilder} {disk disk' : Disk}

/-- The condition is needed: where the temporary file of the snapshot can be made, but neither be put in its place nor
    be removed, **an analysis that has come to its saving fails and leaves the temporary file**. -/
theorem strands_of_analyze {r : AnalysisRequest} {settings : Settings} {found : Project × Graph × Metrics}
    {place : List String} {es : List (String × FileTree)} {f g : Fault} (hr : request.normalized = .ok r)
    (hsettings : r.settingsIn disk.tree = .ok settings) (hfound : r.result settings ⟨disk.tree, tree⟩ = .ok found)
    (hsave : r.save = true) (hwalk : FileTree.walk disk.tree [] (r.storeFor settings).directory.parts = .ok place)
    (hdir : FileTree.at? place disk.tree = some (.directory es)) (hclean : (r.storeFor settings).directory.Clean)
    (hroom : 1 + Path.weight (r.storeFor settings).directory.parts < Path.sizeLimit)
    (hcreate : disk.refuses (.create place (freshName SnapshotStore.graphFile es)) = none)
    (hrename : disk.refuses (.rename place (freshName SnapshotStore.graphFile es) SnapshotStore.graphFile) = some g)
    (hremove : disk.refuses (.remove place (freshName SnapshotStore.graphFile es)) = some f) :
    ∃ disk', (request.analyze tree).on disk = (.error f, disk') ∧
      disk.Strands SnapshotStore.graphFile disk' f := by
  obtain ⟨project, graph, metrics⟩ := found
  unfold analyze
  rw [on_ask_bind_of_ok hr, on_ask_bind_of_ok hsettings, on_ask_bind_of_ok hfound]
  simp only
  rw [if_pos hsave]
  unfold SnapshotStore.saveDocument
  simp only [bind_assoc]
  generalize (project.toJson.map _).bind _ = text
  rw [← Path.parent_child (r.storeFor settings).directory SnapshotStore.graphFile] at hwalk hclean hroom
  obtain ⟨disk', hsaved, hstrands⟩ := strands_of_refusals hwalk hdir hclean hroom
    (by rwa [Path.name_child]) (by rwa [Path.name_child]) (by rwa [Path.name_child]) text
  rw [Path.name_child] at hstrands
  refine ⟨disk', ?_, hstrands⟩
  rw [on_bind, hsaved]

/-- A snapshot of no nodes. -/
def emptySnapshot : ByteArray := "\x7b\"nodes\": [], \"edges\": []\x7d".toUTF8

/-- A module of Python, and the snapshot of an analysis before. -/
def analyzedOnce : FileTree :=
  .directory [("a.py", .file .empty), (".depgraph", .directory [("standard-dependencies.json", .file emptySnapshot)])]

/-- A device on which no file can take the place of another, or be removed. -/
def removalRefused : Disk where
  tree := analyzedOnce
  refuses
    | .rename _ _ _ => some (.external "OSError" "Operation not permitted")
    | .remove _ _ => some (.external "OSError" "Operation not permitted")
    | _ => none

/-- The request to analyze all of a device and to save the graph. -/
def ofDevice : AnalysisRequest where
  root := Path.ofString "/"
  settings := some .default
  registry := none
  store := none
  save := true

/-- The tree of an empty module. -/
def emptyModule : TreeBuilder := fun _ _ => .node "module" true false false 0 0 "" []

/-- There the same analysis leaves its temporary file. -/
theorem strands_removalRefused : ∃ f disk', (ofDevice.analyze emptyModule).on removalRefused = (.error f, disk') ∧
    removalRefused.Strands SnapshotStore.graphFile disk' f := by
  have hroot : ofDevice.root.resolve = .ok (Path.ofString "/") := by decide +kernel
  have hnormalized : ofDevice.normalized = .ok ofDevice := by
    rw [normalized, hroot]
    rfl
  have hclean : (Path.ofString "/.depgraph").Clean :=
    (@Path.clean_of_child _ SnapshotStore.graphFile (Path.isAnchor_ofString _) (by decide) (by decide +kernel)
      (by decide +kernel)).1
  have hwalk : FileTree.walk analyzedOnce [] [".depgraph"] = .ok [".depgraph"] := by decide +kernel
  have hdir : FileTree.at? [".depgraph"] analyzedOnce =
      some (.directory [(SnapshotStore.graphFile, .file emptySnapshot)]) := by rfl
  have hstore : (ofDevice.storeFor .default).directory = Path.ofString "/.depgraph" := by decide +kernel
  have hok : (ofDevice.result .default ⟨analyzedOnce, emptyModule⟩).isOk = true := by decide +kernel
  cases hfound : ofDevice.result .default ⟨analyzedOnce, emptyModule⟩ with
  | error f =>
    rw [hfound] at hok
    nomatch hok
  | ok found =>
    refine ⟨_, strands_of_analyze hnormalized rfl hfound rfl ?_ hdir ?_ ?_ rfl rfl rfl⟩
    · rw [hstore]
      exact hwalk
    · rw [hstore]
      exact hclean
    · rw [hstore]
      decide +kernel

end AnalysisRequest

end CodeAtlas
