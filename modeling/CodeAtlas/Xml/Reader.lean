import CodeAtlas.Text.Lines
import CodeAtlas.Xml.Content
import CodeAtlas.Xml.DocumentType.Reader
import CodeAtlas.Xml.Encoding
/-!
  Reading XML documents.

  A document is an optional declaration at the very start, then at most one document type, then one element;
  comments and instructions may stand between and after them.  `Xml.read?` gives the root element, or nothing
  when the document is not well-formed or uses a name without a meaning; `Xml.ofBytes` says of bytes whether
  the stated encoding is what they fail by.
-/
namespace CodeAtlas.Xml

/-- The root element of a document of some size in bytes, without its declaration. -/
def document? (alphabet : Alphabet) (standalone : Bool) (size : Nat) (cs : List Char) : Option Xml := do
  let skipRemarks? := Lexeme.skipRemarks? alphabet (cs.length + 1)
  let (type, rest) ← DocumentType.read? alphabet standalone size (← skipRemarks? cs)
  let (root, rest) ← Content.root? type (← skipRemarks? rest)
  if (← skipRemarks? rest).isEmpty then some root else none

/-- The root element of a document in characters, which had some size in bytes. -/
def ofChars? (alphabet : Alphabet) (size : Nat) (cs : List Char) : Option Xml :=
  if cs.all Lexeme.isLegal then do
    let (declaration, rest) ← Declaration.read? cs
    document? alphabet declaration.standalone size rest
  else none

/-- The root element of a document. -/
def read? (s : String) : Option Xml := do
  ofChars? .standard s.utf8ByteSize (Text.unixLineEnds (← Text.characters? s.toList))

/-- The root element of a document in bytes. -/
def ofBytes (bytes : ByteArray) : Except Unreadable Xml := do
  let (alphabet, characters) ← textOfBytes bytes
  match ofChars? alphabet bytes.size characters with
  | some root => return root
  | none => throw .malformed

end CodeAtlas.Xml
