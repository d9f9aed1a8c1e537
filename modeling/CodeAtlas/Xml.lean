import CodeAtlas.Text.Pieces
/-!
  XML elements, as far as a manifest needs them: names in their namespaces, children and texts.
-/
namespace CodeAtlas

/-- A name in a namespace; the empty namespace stands for none. -/
structure Xml.Name where
  space : String
  localName : String
deriving Repr, DecidableEq, Inhabited

/-- An element with its children, or a text. -/
inductive Xml where
  | element (name : Xml.Name) (children : List Xml)
  | text (s : String)
deriving Repr, Inhabited

namespace Xml

/-- Why the bytes of a document cannot be read. -/
inductive Unreadable where
  /-- they are in no readable encoding that is known, or the text is not well-formed -/
  | malformed
  /-- the encoding that the document states is not known -/
  | unknownEncoding
  /-- the encoding that the document states has characters of several bytes -/
  | wideEncoding
  /-- the encoding that the document states takes bytes of ASCII only -/
  | asciiEncoding
  /-- the encoding that the document states has no way back to characters -/
  | unusableEncoding
deriving Repr, DecidableEq, Inhabited

/-- The name of an element. -/
def name? : Xml → Option Name
  | element name _ => some name
  | text _ => none

/-- The children of an element. -/
def children : Xml → List Xml
  | element _ children => children
  | text _ => []

/-- The first child with a name. -/
def child? (x : Xml) (name : Name) : Option Xml := x.children.find? fun c => c.name? = some name

/-- All text in front of the first element, after some text. -/
def textOnto (before : String) : List Xml → String
  | text s :: rest => textOnto (before ++ s) rest
  | _ => before

/-- The text of an element that stands in front of its children. -/
def leadingText (x : Xml) : String := textOnto "" x.children

end Xml

end CodeAtlas
