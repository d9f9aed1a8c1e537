import CodeAtlas.Fault
import CodeAtlas.SyntaxTree
import CodeAtlas.Text.Half
/-!
  The bytes of a source file, and the texts inside of it.

  A node of a syntax tree covers a range of bytes.  Its text may fail to exist, because nothing says that the
  bytes are UTF-8.  Lines are counted by line feeds, from one.
-/
namespace CodeAtlas

/-- The content of a source file. -/
structure Source where
  bytes : ByteArray
deriving Inhabited

namespace Source

/-- The byte of a line feed. -/
def lineFeed : UInt8 := 10

/-- The text of a range of bytes. -/
def slice (s : Source) (start stop : Nat) : Except Fault String :=
  match Text.ofUtf8? (s.bytes.extract start stop) with
  | some text => .ok text
  | none => .error .undecodable

/-- The text of a node. -/
def text (s : Source) (t : SyntaxTree) : Except Fault String := s.slice t.start t.stop

/-- The line of a byte. -/
def lineAt (s : Source) (offset : Nat) : Int :=
  (s.bytes.extract 0 offset).data.toList.count lineFeed + 1

/-- The line where a node starts. -/
def line (s : Source) (t : SyntaxTree) : Int := s.lineAt t.start

/-- The line where a node ends. -/
def endLine (s : Source) (t : SyntaxTree) : Int := s.lineAt t.stop

/-- The number of lines; the last one counts if there is anything in it. -/
def lineCount (s : Source) : Int :=
  let bytes := s.bytes.data.toList
  bytes.count lineFeed + (match bytes.getLast? with
    | some b => if b = lineFeed then 0 else 1
    | none => 0)

end Source

/-! ## Comments -/

namespace Text

/-- A line of a comment without the star in front of it. -/
def withoutGutter (line : String) : String :=
  let line := trim line
  match afterStart? "* " line with
  | some rest => rest
  | none => (afterStart? "*" line).getD line

/-- The text of a documentation comment, which starts with a slash and two stars. -/
def docComment? (comment : String) : Option String :=
  match afterStart? "/**" (trim comment) with
  | none => none
  | some body =>
    let body := (beforeEnd? "*/" body).getD body
    some (trim (join "\n" ((split '\n' body).map withoutGutter)))

example : docComment? "/** One.\n  * two\n  *three */" = some "One.\ntwo\nthree" := by decide +kernel
example : docComment? "/* no */" = none ∧ docComment? "/**/" = some "/" := by decide +kernel

end Text

end CodeAtlas
