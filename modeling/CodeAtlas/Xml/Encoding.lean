import CodeAtlas.Text.Charset.Registry
import CodeAtlas.Text.Lines
import CodeAtlas.Text.Units
import CodeAtlas.Xml
import CodeAtlas.Xml.Declaration
/-!
  The encoding of a document.

  The first bytes say whether it is in units of one byte or of two: a byte order mark does, and so does a zero
  where only the empty half of a character can be.  A document in bytes is in UTF-8 unless it states another
  encoding.  One in two bytes is in UTF-16; when it states a code page, only its declaration is, and the rest
  is in bytes.  `textOfBytes` fails by the stated encoding before it fails by anything that comes later.
-/
namespace CodeAtlas.Xml

namespace Encoding

/-- The widths of units. -/
inductive Form where
  | bytes
  | pairs (highFirst : Bool)
deriving Repr, DecidableEq

/-- The form of a document and its bytes behind the byte order mark. -/
def form : List UInt8 → Form × List UInt8
  | 0xEF :: 0xBB :: 0xBF :: rest => (.bytes, rest)
  | 0xFE :: 0xFF :: rest => (.pairs true, rest)
  | 0xFF :: 0xFE :: rest => (.pairs false, rest)
  | 0x00 :: b :: rest => (.pairs true, 0x00 :: b :: rest)
  | a :: 0x00 :: rest => (.pairs false, a :: 0x00 :: rest)
  | bytes => (.bytes, bytes)

/-- The encodings that need no table, in lower case. -/
inductive Builtin where
  | utf8
  | latin
  | ascii
  /-- units of two bytes; the order of the bytes may be stated -/
  | utf16 (highFirst : Option Bool)
deriving Repr, DecidableEq

/-- The encodings that need no table by their names; case does not matter. -/
def Builtin.ofName? (name : String) : Option Builtin :=
  match name.toLower with
  | "utf-8" => some .utf8
  | "iso-8859-1" => some .latin
  | "us-ascii" => some .ascii
  | "utf-16" => some (.utf16 none)
  | "utf-16be" => some (.utf16 (some true))
  | "utf-16le" => some (.utf16 (some false))
  | _ => none

/-- The code page with a name. -/
def page (name : String) : Except Unreadable Text.CodePage :=
  match Text.Charset.find? name with
  | none => .error .unknownEncoding
  | some c =>
    match c.kind with
    | .page p => .ok p
    | .foreign => .error .malformed
    | .wide => .error .wideEncoding
    | .asciiOnly => .error .asciiEncoding
    | .unusable => .error .unusableEncoding

/-- Nothing counts as malformed. -/
def orMalformed {α : Type} (x : Option α) : Except Unreadable α :=
  match x with
  | some a => .ok a
  | none => .error .malformed

/-- What a document states, when its first characters are known; line ends do not matter there. -/
def stated (start : List Char) : Except Unreadable (Option String) := do
  return (← orMalformed (Declaration.read? (Text.unixLineEnds start))).1.encoding

/-- The text of a document in bytes, and the letters of its names. -/
def ofBytes (bytes : List UInt8) : Except Unreadable (Alphabet × List Char) := do
  match ← stated (bytes.map fun b => Char.ofNat b.toNat) with
  | none => utf8
  | some name =>
    match Builtin.ofName? name with
    | some .utf8 => utf8
    | some .latin => return (.western, ← orMalformed (Text.CodePage.latin.decode? bytes))
    | some .ascii => return (.standard, ← orMalformed (Text.CodePage.ascii.decode? bytes))
    | some (.utf16 _) => throw .malformed
    | none => return (.standard, ← orMalformed ((← page name).decode? bytes))
where
  /-- The text in UTF-8. -/
  utf8 : Except Unreadable (Alphabet × List Char) := do
    return (.standard, ← orMalformed ((String.fromUTF8? ⟨bytes.toArray⟩).map String.toList))

/-- The text of a document in units of two bytes, and the letters of its names.  It may state a code page; what
    comes after the declaration is then in bytes. -/
def ofPairs (highFirst : Bool) (bytes : List UInt8) : Except Unreadable (Alphabet × List Char) := do
  let whole := bytes.take (bytes.length / 2 * 2)
  let units := (Text.units? highFirst whole).getD []
  let start := (Text.joinPairs units).map Char.ofNat
  match ← stated start with
  | none => pairs whole units
  | some name =>
    match Builtin.ofName? name with
    | some (.utf16 order) => if order = some !highFirst then throw .malformed else pairs whole units
    | some _ => throw .malformed
    | none =>
      let page ← page name
      let (declaration, _) ← orMalformed (Lexeme.cut? "?>" start)
      let declaration := declaration ++ "?>".toList
      return (.standard, declaration ++ (← orMalformed (page.decode? (bytes.drop (2 * declaration.length)))))
where
  /-- The text when all of it is in units of two bytes; a last byte alone is no unit. -/
  pairs (whole : List UInt8) (units : List Nat) : Except Unreadable (Alphabet × List Char) := do
    if whole.length < bytes.length then throw .malformed
    else return (.western, ← orMalformed (Text.joinNext? units))

end Encoding

/-- The text of a document in bytes, with line feeds for all line ends, and the letters of its names. -/
def textOfBytes (bytes : ByteArray) : Except Unreadable (Alphabet × List Char) := do
  let (alphabet, characters) ← match Encoding.form bytes.data.toList with
    | (.bytes, bytes) => Encoding.ofBytes bytes
    | (.pairs highFirst, bytes) => Encoding.ofPairs highFirst bytes
  return (alphabet, Text.unixLineEnds characters)

end CodeAtlas.Xml
