import CodeAtlas.Analysis
import CodeAtlas.CommandLine.Arguments
/-!
  The command line: analyse a project, print the figures of a snapshot, print what a project is.

  Results go to the standard output.  A refusal is one line on the standard error, and the exit status says
  whether there was nothing to work on (2) or the work failed (1).  Every other fault is not handled here.
-/
namespace CodeAtlas

open Arguments

/-- What to do. -/
inductive Command where
  | analyze (dir : Path) (output : Option Path) (asJson fresh : Bool)
  | metrics (snapshot : Path)
  | detect (dir : Path)
deriving Repr, DecidableEq, Inhabited

namespace Command

/-- Prints more about what is going on. -/
def verbose : Switch := ⟨["-v", "--verbose"], false⟩

/-- Where the snapshots go. -/
def outputSwitch : Switch := ⟨["-o", "--output"], true⟩

/-- Prints the graph. -/
def jsonSwitch : Switch := ⟨["--json"], false⟩

/-- Does not use a snapshot. -/
def freshSwitch : Switch := ⟨["--no-cache"], false⟩

/-- The switches in front of a command. -/
def commonSwitches : List Switch := [helpSwitch, verbose]

/-- The commands and their switches. -/
def switchesOf : List (String × List Switch) :=
  [("analyze", [helpSwitch, outputSwitch, jsonSwitch, freshSwitch]), ("metrics", [helpSwitch]),
    ("detect", [helpSwitch])]

/-- The command that arguments ask for. -/
def ofArguments (args : List String) : Except Refusal Command := do
  -- every argument has to be clear to the program before its command looks at it
  let _ ← tokens commonSwitches args
  let (common, name, rest) ← readToWord commonSwitches .empty args
  match switchesOf.find? fun c => c.1 = name with
  | none => throw .wrong
  | some (_, switches) =>
    let r ← readAll switches rest
    match r.word with
    | none => throw .wrong
    | some word =>
      if common.leftover || r.leftover then throw .wrong
      else
        let path := Path.ofString word
        if name = "analyze" then
          return analyze path ((r.value? outputSwitch).map Path.ofString) (r.has jsonSwitch) (r.has freshSwitch)
        else if name = "metrics" then return metrics path
        else return detect path

/-- The lines about a result. -/
def resultLines (a : Analysis) (seconds : String) : List String :=
  a.summary seconds :: a.metrics.cycles.map fun c => "  cycle: " ++ Text.join " -> " c

/-- What a command prints; the time that it takes is given as a text. -/
def run (tree : TreeBuilder) (seconds : String) : Command → Disk.Action String
  | analyze dir output asJson fresh => do
    let request : AnalysisRequest :=
      { root := dir, settings := none, registry := none, store := output.map SnapshotStore.mk, save := true }
    let a ← if fresh then request.analyze tree else request.loadOrAnalyze tree
    if asJson then Disk.Action.ask fun _ => a.graph.toJson.document
    else return String.join ((resultLines a seconds).map fun line => line ++ "\n")
  | metrics snapshot => Disk.Action.ask fun t => do
    if !(← t.hasFile snapshot) then throw (.noSnapshot snapshot.text)
    else (← (← Graph.ofFile t snapshot).metrics .condense none).toJson.document
  | detect dir => Disk.Action.ask fun t => do
    match ← Project.detect t .default dir with
    | none => throw (.noProject dir.text)
    | some project => (← project.toJson).document

end Command

/-- What a run of the program leaves on its channels. -/
structure Report where
  status : Nat
  output : String
  errors : String
deriving Repr, DecidableEq, Inhabited

namespace Report

/-- The exit status of a refusal. -/
def statusOf? : Fault → Option Nat
  | .noProject _ | .noDirectory _ | .noSnapshot _ | .noParser .. => some 2
  | .noSourceRoot _ | .noSourceFiles .. | .nothingParsed .. | .notJson _ | .malformedSnapshot _
  | .unknownShape .. | .duplicateNode _ | .danglingEdge .. | .cyclic _ => some 1
  | _ => none

/-- The line about a refusal.  Where the text goes on with a detail, the line is not ended. -/
def errorLine (f : Fault) : String :=
  "depgraph: " ++ f.message?.getD "" ++ (if f.hasDetail then "" else "\n")

/-- The report of a result. -/
def ofResult : Except Fault String → Except Fault Report
  | .ok output => .ok { status := 0, output, errors := "" }
  | .error f =>
    match statusOf? f with
    | some status => .ok { status, output := "", errors := errorLine f }
    | none => .error f

end Report

end CodeAtlas
