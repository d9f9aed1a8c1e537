import CodeAtlas.Text.Pieces
/-!
  What can go wrong, by cause.

  There are three families.  A value can have the wrong shape for what is asked of it; a file operation
  can fail; and the analysis can refuse its input for a reason of its own.  Only the last family has
  texts, and `Fault.message?` is the one place where they are worded.
-/
namespace CodeAtlas

/-- A cause of failure. -/
inductive Fault where
  -- values
  /-- an object lacks a required field -/
  | missingField (name : String)
  /-- the operation is not defined on such a value -/
  | wrongShape
  /-- a named field was asked of something that is no object -/
  | noFields
  /-- the right shape with an unusable content -/
  | badValue
  /-- a position outside of a list -/
  | outOfRange
  /-- data with too many parts inside of each other -/
  | tooDeep
  /-- a text of more characters than can be kept -/
  | tooLong (length : Nat)
  -- texts and files
  /-- bytes that are no text in the encoding they are read in -/
  | undecodable
  /-- a text with a part that has no bytes in the encoding it is written in -/
  | unencodable
  /-- a text in an encoding that is not known -/
  | unknownEncoding
  /-- a text in an encoding that has no way back to characters -/
  | unusableEncoding
  | fileMissing
  | fileExists
  | isDirectory
  | notDirectory
  /-- the name of a file, or a whole path, has too many bytes -/
  | nameTooLong
  -- refusals of the analysis
  /-- nothing recognizable lives in the directory -/
  | noProject (root : String)
  | noDirectory (root : String)
  | noSnapshot (path : String)
  /-- no registered parser takes the project -/
  | noParser (project language : String)
  /-- a source root is missing -/
  | noSourceRoot (root : String)
  | noSourceFiles (language root : String)
  | nothingParsed (count : Nat) (language root : String)
  /-- a snapshot file that is not JSON -/
  | notJson (path : String)
  /-- a snapshot file whose fields have the wrong shape -/
  | malformedSnapshot (path : String)
  /-- data of none of the known shapes: what it is, and how its first keys are displayed -/
  | unknownShape (what : String) (keys : Option String)
  | duplicateNode (id : String)
  | danglingEdge (source target missing : String)
  | cyclic (cycles : List (List String))
  /-- a syntax tree with errors -/
  | syntaxError (path : String) (line : Option Nat)
  /-- a cycle policy that does not exist, as it is displayed -/
  | unknownPolicy (shown : String)
  | sessionClosed
  /-- a failure of a part that was plugged in from outside -/
  | external (kind message : String)
  /-- the run was told to stop -/
  | stopped
deriving Repr, DecidableEq, Inhabited

namespace Fault

/-- The first three cycles, and how many more there are. -/
def cyclesText (cycles : List (List String)) : String :=
  let shown := Text.join "; " ((cycles.take 3).map (Text.join " -> "))
  let more := if 3 < cycles.length then " (+" ++ toString (cycles.length - 3) ++ " more)" else ""
  toString cycles.length ++ " dependency cycle(s): " ++ shown ++ more

/-- The text of a refusal.  A text that ends in three points goes on with a detail that depends on the
    reader of the file. -/
def message? : Fault → Option String
  | noProject root => some ("No supported project found at " ++ root)
  | noDirectory root => some ("No such directory: " ++ root)
  | noSnapshot path => some ("No such snapshot: " ++ path)
  | noParser project language =>
    some ("No parser available for project type: " ++ project ++ " (" ++ language ++ ")")
  | noSourceRoot root => some ("Source root is not a readable directory: " ++ root)
  | noSourceFiles language root => some ("No " ++ language ++ " source files found in " ++ root)
  | nothingParsed count language root =>
    some ("None of the " ++ toString count ++ " " ++ language ++ " files in " ++ root
      ++ " could be parsed")
  | notJson path => some (path ++ " is not valid JSON: ...")
  | malformedSnapshot path => some ("Malformed dependency data in " ++ path ++ ": ...")
  | unknownShape what keys =>
    some ("Unrecognized dependency data: expected nodes/edges, symbols or classes, got " ++ what
      ++ (match keys with
        | some shown => " with keys " ++ shown
        | none => ""))
  | duplicateNode id => some ("Duplicate node id: " ++ id)
  | danglingEdge source target missing =>
    some ("Edge " ++ source ++ " -> " ++ target ++ " references unknown node " ++ missing)
  | cyclic cycles => some (cyclesText cycles)
  | syntaxError path line =>
    some ("Syntax error in " ++ path
      ++ (match line with
        | some n => " near line " ++ toString n
        | none => ""))
  | unknownPolicy shown =>
    some ("Unknown cycle policy " ++ shown ++ "; expected one of condense, raise")
  | sessionClosed => some "AnalysisSession is closed"
  | external _ message => some message
  | missingField _ | wrongShape | noFields | badValue | outOfRange | tooDeep | tooLong _ | undecodable | unencodable
  | unknownEncoding | unusableEncoding | fileMissing | fileExists | isDirectory | notDirectory | nameTooLong
  | stopped => none

/-- The text of a refusal goes on with a detail up to the end of its line. -/
def hasDetail : Fault → Bool
  | notJson _ | malformedSnapshot _ => true
  | _ => false

/-- A value had the wrong shape or content. -/
def isValueFault : Fault → Bool
  | missingField _ | wrongShape | noFields | badValue | undecodable | unencodable | unusableEncoding => true
  | _ => false

/-- A file operation failed. -/
def isFileFault : Fault → Bool
  | fileMissing | fileExists | isDirectory | notDirectory | nameTooLong => true
  | _ => false

/-- A snapshot could not be understood. -/
def isSnapshotFault : Fault → Bool
  | notJson _ | malformedSnapshot _ | unknownShape .. => true
  | _ => false

/-- A graph does not hold together. -/
def isGraphFault : Fault → Bool
  | duplicateNode _ | danglingEdge .. => true
  | _ => false

/-! ## Results of steps that may fail -/

/-- Two steps succeed together exactly if the first does and the second one does with what it gave. -/
theorem bind_eq_ok_iff {ε α β : Type} {x : Except ε α} {f : α → Except ε β} {b : β} :
    (x >>= f) = .ok b ↔ ∃ a, x = .ok a ∧ f a = .ok b := by
  cases x with
  | error e =>
    constructor
    · intro h; nomatch h
    · rintro ⟨a, ha, _⟩; nomatch ha
  | ok a =>
    constructor
    · intro h; exact ⟨a, rfl, h⟩
    · rintro ⟨a', ha, h⟩; cases ha; exact h

theorem map_eq_ok_iff {ε α β : Type} {x : Except ε α} {f : α → β} {b : β} :
    x.map f = .ok b ↔ ∃ a, x = .ok a ∧ f a = b := by
  cases x with
  | error e =>
    constructor
    · intro h; nomatch h
    · rintro ⟨a, ha, _⟩; nomatch ha
  | ok a =>
    constructor
    · intro h; exact ⟨a, rfl, Except.ok.inj h⟩
    · rintro ⟨a', ha, h⟩; cases ha; exact congrArg _ h

end Fault

end CodeAtlas
