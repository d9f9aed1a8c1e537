import CodeAtlas.CommandLine
import CodeAtlas.Json.Reader
import CodeAtlas.Workspace.Description
/-!
  The program.

  The files with their syntax trees come as one JSON value on the standard input, described as in
  `Workspace.Description`, with absolute paths.  The arguments say what to do with them.
-/
namespace CodeAtlas.Program

/-- All that is left on a stream. -/
partial def readAll (stream : IO.FS.Stream) (acc : String) : IO String := do
  let line ← stream.getLine
  if line.isEmpty then return acc else readAll stream (acc ++ line)

/-- A number of milliseconds as seconds with two places. -/
def secondsText (milliseconds : Nat) : String :=
  let hundredths := (milliseconds + 5) / 10
  let rest := hundredths % 100
  toString (hundredths / 100) ++ "." ++ (if rest < 10 then "0" else "") ++ toString rest

/-- The workspace that a text describes. -/
def workspaceOf (text : String) : Except Fault Workspace.Described :=
  match Json.read? text with
  | some (.obj fields) => Workspace.Described.empty.addAll ⟨"/", []⟩ fields
  | _ => .error .badValue

/-- A text that came as characters. -/
def textOf (characters : String) : String := String.ofList (Text.ofCharacters characters.toList)

/-- The characters of a text to print; halves of pairs are left as they are kept. -/
def printed (text : String) : String := ((Text.characters? text.toList).map String.ofList).getD text

/-- Runs a command on the workspace of the standard input. -/
def runCommand (command : Command) : IO UInt32 := do
  let started ← IO.monoMsNow
  let text ← readAll (← IO.getStdin) ""
  let elapsed := secondsText ((← IO.monoMsNow) - started)
  let report : Except Fault Report := do
    let w ← workspaceOf text
    Report.ofResult ((command.run w.treeFor elapsed).on (Disk.sound w.files)).1
  match report with
  | .ok r =>
    IO.print (printed r.output)
    IO.eprint (printed r.errors)
    return UInt32.ofNat r.status
  | .error _ =>
    IO.eprintln "depgraph: the files could not be used"
    return 1

end CodeAtlas.Program

/-- Acts on the arguments; asking for help is not an error, and wrong usage is. -/
def main (args : List String) : IO UInt32 :=
  match CodeAtlas.Command.ofArguments (args.map CodeAtlas.Program.textOf) with
  | .ok command => CodeAtlas.Program.runCommand command
  | .error .help => do
    IO.println "usage: depgraph [-h] [-v] analyze|metrics|detect ..."
    return 0
  | .error .wrong => do
    IO.eprintln "usage: depgraph [-h] [-v] analyze|metrics|detect ..."
    return 2
