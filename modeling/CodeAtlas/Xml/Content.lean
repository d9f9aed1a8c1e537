import CodeAtlas.Xml
import CodeAtlas.Text.Half
import CodeAtlas.Xml.DocumentType
import CodeAtlas.Xml.Namespaces
/-!
  The content of a document: elements, texts, and what a text is made of.

  Content is read in steps.  Between two of them the reader stands somewhere inside of elements that are open
  and of entities that are being replaced, and all these are one list of frames, the innermost first.  So an
  element ends in the same text in which it starts, and an entity ends outside of the elements that start in
  it.  Comments and instructions leave no trace.
-/
namespace CodeAtlas.Xml

/-- What a place in the content is inside of. -/
inductive Frame where
  /-- an open element: its written name and its name; then the nodes in front of it (reversed) and the
      namespaces outside of it -/
  | element (written : Written) (name : Name) (nodes : List Xml) (spaces : Namespaces)
  /-- an entity; then the text that goes on after the reference to it and the letters of names in that text -/
  | entity (name : String) (rest : List Char) (alphabet : Alphabet)

/-- A place in the content. -/
structure Content where
  type : DocumentType
  /-- the letters of names here; in the replacement text of an entity they are the standard ones -/
  alphabet : Alphabet := type.alphabet
  spaces : Namespaces := .start
  /-- the nodes of the innermost open element up to here (reversed) -/
  nodes : List Xml := []
  frames : List Frame := []

namespace Content

open Lexeme

/-- What a step leads to: another place, or the end of the root element; and what comes after it. -/
inductive Step where
  | inside (c : Content) (rest : List Char)
  | done (root : Xml) (rest : List Char)

/-- The entities that are being replaced. -/
def busy (c : Content) : List String :=
  c.frames.filterMap fun
    | .entity name .. => some name
    | .element .. => none

/-- The place after some text. -/
def withText (c : Content) (cs : List Char) : Content :=
  { c with nodes := .text (String.ofList (Text.ofCharacters cs)) :: c.nodes }

/-- An element is complete: it is a node of the one around it, or the root. -/
def finish (x : Xml) (outside : Content) (rest : List Char) : Step :=
  if outside.frames.isEmpty then .done x rest else .inside { outside with nodes := x :: outside.nodes } rest

/-! ## Tags -/

/-- The attributes up to the end of a tag, after the ones before (reversed).  Each takes one unit of fuel. -/
def attributes? (a : Alphabet) : Nat → Entities → List (Written × String) → List Char →
    Option (List (Written × String) × Entities × List Char)
  | 0, _, _, _ => none
  | fuel + 1, e, acc, cs =>
    match skipSpace cs with
    | '>' :: rest => some (acc.reverse, e, '>' :: rest)
    | '/' :: rest => some (acc.reverse, e, '/' :: rest)
    | _ => do
      let (name, rest) ← writtenName? a (← afterSpace? cs)
      let (quoted, rest) ← quoted? (skipSpace (← after? "=" (skipSpace rest)))
      let (value, e) ← AttributeValue.ofQuoted? a e quoted
      attributes? a fuel e ((name, String.ofList value) :: acc) rest

/-- A start tag, after its first character.  One with a slash at its end is an element without content.  Each
    attribute takes one unit of fuel. -/
def open? (fuel : Nat) (c : Content) (cs : List Char) : Option Step := do
  let (written, rest) ← writtenName? c.alphabet cs
  let (attributes, entities, rest) ← attributes? c.alphabet fuel c.type.entities [] rest
  let spaces ← c.spaces.declareAll? (c.type.complete written attributes)
  let name ← spaces.elementName? written
  let c := { c with type := { c.type with entities } }
  match after? "/>" rest with
  | some rest => return finish (.element name []) c rest
  | none =>
    let frames := .element written name c.nodes c.spaces :: c.frames
    return .inside { c with spaces, nodes := [], frames } (← after? ">" rest)

/-- An end tag, after its first two characters: it names the innermost element as its start tag does. -/
def close? (c : Content) (cs : List Char) : Option Step :=
  match c.frames with
  | .element written name nodes spaces :: frames => do
    let (closing, rest) ← writtenName? c.alphabet cs
    if closing = written then
      return finish (.element name c.nodes.reverse) { c with nodes, spaces, frames } (← after? ">" (skipSpace rest))
    else none
  | _ => none

/-! ## Texts -/

/-- Characters of texts that stand for themselves. -/
def isPlain (ch : Char) : Bool := ch != '<' && ch != '&'

/-- Some text; it may not contain the end of marked text. -/
def text? (c : Content) (cs : List Char) : Option Step :=
  let plain := cs.takeWhile isPlain
  if (cut? "]]>" plain).isSome then none else some (.inside (c.withText plain) (cs.dropWhile isPlain))

/-- A reference, after its first character. -/
def mention? (c : Content) (cs : List Char) : Option Step := do
  match ← reference? c.alphabet cs with
  | (.char ch, rest) => return .inside (c.withText [ch]) rest
  | (.predefined ch, rest) =>
    let entities ← c.type.entities.pay? 1
    return .inside ({ c with type := { c.type with entities } }.withText [ch]) rest
  | (.entity name, rest) =>
    let (replacement, entities) ← c.type.entities.enter? c.busy name
    let frames := .entity name rest c.alphabet :: c.frames
    return .inside { c with type := { c.type with entities }, alphabet := .standard, frames } replacement

/-- The end of a text: it must be that of an entity. -/
def resume? (c : Content) : Option Step :=
  match c.frames with
  | .entity _ rest alphabet :: frames => some (.inside { c with alphabet, frames } rest)
  | _ => none

/-! ## Steps -/

/-- Reads one part of the content.  The length of the text is fuel enough. -/
def step? (fuel : Nat) (c : Content) : List Char → Option Step
  | [] => c.resume?
  | '<' :: '/' :: rest => c.close? rest
  | '<' :: '?' :: rest => (instruction? c.alphabet rest).map (.inside c)
  | '<' :: '!' :: rest =>
    if let some rest := after? "--" rest then (comment? rest).map (.inside c)
    else do
      let (marked, rest) ← cut? "]]>" (← after? "[CDATA[" rest)
      return .inside (c.withText marked) rest
  | '<' :: rest => open? fuel c rest
  | '&' :: rest => c.mention? rest
  | cs => c.text? cs

/-- The root element, and what comes after it.  Each step takes one unit of fuel. -/
def run? : Nat → Content → List Char → Option (Xml × List Char)
  | 0, _, _ => none
  | fuel + 1, c, cs =>
    match step? (fuel + 1) c cs with
    | none => none
    | some (.done root rest) => some (root, rest)
    | some (.inside c rest) => run? fuel c rest

/-- The root element in front of a text.  Every step reads characters, which stand in the text or were paid, or
    it leaves an entity, to which a reference was read. -/
def root? (type : DocumentType) : List Char → Option (Xml × List Char)
  | '<' :: ch :: rest =>
    if type.alphabet.isNameStart ch then
      run? (2 * (rest.length + type.entities.budget) + 5) { type } ('<' :: ch :: rest)
    else none
  | _ => none

end Content

end CodeAtlas.Xml
