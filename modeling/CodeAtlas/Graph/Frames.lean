import CodeAtlas.Graph
/-!
  A graph as two tables for tabular consumers.

  The cells of a column get one common type where that is possible: a column of numbers that has a double in
  it or a cell missing holds doubles only.  Any other column keeps its cells as they are, and so does one whose
  integers do not fit in 64 bits, with or without a sign.
-/
namespace CodeAtlas

/-- A table with named columns. -/
structure Frame where
  columns : List String
  rows : List (List Json)
deriving Repr, DecidableEq, Inhabited

namespace Frame

/-- A cell without a value. -/
def isMissing : Json → Bool
  | .null => true
  | .float x => x.isNaN
  | _ => false

/-- A cell with a number; integers of more than 64 bits are no numbers of a table. -/
def isNumber : Json → Bool
  | .int n => -0x8000000000000000 ≤ n && n < 0x10000000000000000
  | .float _ => true
  | _ => false

/-- A negative integer. -/
def isNegative : Json → Bool
  | .int n => n < 0
  | _ => false

/-- An integer that only fits in 64 bits without a sign. -/
def needsAllBits : Json → Bool
  | .int n => 0x8000000000000000 ≤ n
  | _ => false

/-- Whether a column turns into doubles. -/
def widens (column : List Json) : Bool :=
  column.all (fun v => isMissing v || isNumber v)
    && !(column.any isNegative && column.any needsAllBits)
    && column.any isNumber
    && column.any fun v => match v with
      | .int _ => false
      | _ => true

/-- The double that a number is. -/
def widen : Json → Json
  | .int n => .float (Double.ofDecimal (n < 0) n.natAbs 0)
  | v => if isMissing v then .null else v

/-- A column with one common type. -/
def typed (column : List Json) : List Json :=
  if widens column then column.map widen else column.map fun v => if isMissing v then .null else v

end Frame

namespace Graph

/-- The table of the nodes. -/
def nodeFrame (g : Graph) : Frame :=
  let column (name : String) := Frame.typed (g.nodes.map fun n => (n.metadata.get? name).getD .null)
  let named := g.nodes.map fun n => [Json.str n.id, .str n.title, .str n.kind]
  { columns := ["id", "title", "type", "file_path", "line"]
    rows := List.zipWith (fun row rest => row ++ rest) named
      (List.zipWith (fun file line => [file, line]) (column "file_path") (column "line")) }

/-- The table of the edges. -/
def edgeFrame (g : Graph) : Frame :=
  { columns := ["source", "target", "type"]
    rows := g.edges.map fun e => [.str e.source, .str e.target, .str e.kind.name] }

end Graph

end CodeAtlas
