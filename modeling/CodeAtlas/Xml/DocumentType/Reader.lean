import CodeAtlas.Text.Lines
import CodeAtlas.Xml.DocumentType
import CodeAtlas.Xml.DocumentType.Token
/-!
  Reading document types.

  A document type names the root element, may point to a place outside of the document, and may hold
  declarations.  All of them must be well-formed.  Those of entities and attributes are kept; those of elements
  and notations have no effect.  `DocumentType.read?` gives the declarations of the document type in front.
-/
namespace CodeAtlas.Xml.DocumentType

open Lexeme Token

/-! ## Places outside of the document -/

/-- Characters of public identifiers. -/
def isPublicChar (c : Char) : Bool := c.isAlphanum || "-._'()+,/=?;!*%#:$@ \n".toList.contains c

/-- The tokens after a place outside of the document. -/
def afterPlace? : List Token → Option (List Token)
  | .name "SYSTEM" :: .literal _ :: rest => some rest
  | .name "PUBLIC" :: .literal id :: .literal _ :: rest => if id.all isPublicChar then some rest else none
  | _ => none

/-! ## Declarations of entities -/

/-- The replacement text of an entity, after the characters before (reversed): numeric references are replaced,
    and references to entities must be well-formed but stay.  Every step takes one unit of fuel. -/
def replacementFuel? (a : Alphabet) : Nat → List Char → List Char → Option (List Char)
  | 0, _, _ => none
  | _ + 1, acc, [] => some acc.reverse
  | fuel + 1, acc, c :: rest =>
    if c == '%' then none
    else if c == '&' then
      match reference? a rest with
      | none => none
      | some (.char x, after) => replacementFuel? a fuel (x :: acc) after
      | some (_, after) =>
        replacementFuel? a fuel (';' :: (rest.takeWhile (· != ';')).reverse ++ c :: acc) after
    else replacementFuel? a fuel (c :: acc) rest

/-- The replacement text of an entity, with line feeds for all line ends. -/
def replacement? (a : Alphabet) (cs : List Char) : Option (List Char) :=
  (replacementFuel? a (cs.length + 1) [] cs).map Text.unixLineEnds

/-- The replacement text of an entity while declarations are kept; later ones are not looked into. -/
def replacementIn? (d : DocumentType) (cs : List Char) : Option (List Char) :=
  if d.isKept then replacement? d.alphabet cs else some []

/-- Declares an entity.  Those for use in declarations only, behind a percent sign, have no effect. -/
def entity? (d : DocumentType) : List Token → Option DocumentType
  | [.percent, .name _, .literal value] => (d.replacementIn? value).map fun _ => d
  | .percent :: .name _ :: place => do if (← afterPlace? place).isEmpty then return d else none
  | [.name n, .literal value] => do return d.declareEntity n (some (← d.replacementIn? value))
  | .name n :: place => do
    match ← afterPlace? place with
    | [] | [.name "NDATA", .name _] => return d.declareEntity n none
    | _ => none
  | _ => none

/-! ## Declarations of attributes -/

/-- The tokens after some alternatives and the end of their group. -/
def afterAlternatives? (isAlternative : Token → Bool) : List Token → Option (List Token)
  | t :: .bar :: rest => if isAlternative t then afterAlternatives? isAlternative rest else none
  | t :: .closeGroup none :: rest => if isAlternative t then some rest else none
  | _ => none

/-- Names without a scope. -/
def isSimple : Token → Bool
  | .name _ => true
  | _ => false

/-- Names and other words. -/
def isNameToken : Token → Bool
  | .name _ | .qualified _ | .word => true
  | _ => false

/-- The types of attributes that are neither plain text nor the identity of an element. -/
def otherTypes : List String := ["IDREF", "IDREFS", "ENTITY", "ENTITIES", "NMTOKEN", "NMTOKENS"]

/-- A type of attributes. -/
structure AttributeType where
  isText : Bool := false
  isIdentity : Bool := false

/-- A type of attributes, and the tokens after it. -/
def attributeType? : List Token → Option (AttributeType × List Token)
  | .name "CDATA" :: rest => some ({ isText := true }, rest)
  | .name "ID" :: rest => some ({ isIdentity := true }, rest)
  | .name "NOTATION" :: .openGroup :: rest => (afterAlternatives? isSimple rest).map (({}, ·))
  | .name n :: rest => if otherTypes.contains n then some ({}, rest) else none
  | .openGroup :: rest => (afterAlternatives? isNameToken rest).map (({}, ·))
  | _ => none

/-- What is said about the value of an attribute that is not written: nothing or a text in quotes.  After it
    come other tokens. -/
def preset? : List Token → Option (Option (List Char) × List Token)
  | .keyword "IMPLIED" :: rest | .keyword "REQUIRED" :: rest => some (none, rest)
  | .keyword "FIXED" :: .literal value :: rest | .literal value :: rest => some (some value, rest)
  | _ => none

/-- Adds a rule for an attribute; the value in it may use the entities that are declared by now. -/
def attribute? (d : DocumentType) (element name : Written) (type : AttributeType) (quoted : Option (List Char)) :
    Option DocumentType := do
  if !d.isKept then return d
  else
    match quoted with
    | none => return d.addRule element type.isIdentity { name, isText := type.isText, value := none }
    | some quoted =>
      let (value, entities) ← AttributeValue.ofQuoted? d.alphabet d.entities quoted
      let value := String.ofList (if type.isText then value else AttributeValue.collapse value)
      return { d with entities }.addRule element type.isIdentity { name, isText := type.isText, value := some value }

/-- Declares some attributes of an element.  Each takes one unit of fuel. -/
def attributesOf? (element : Written) : Nat → DocumentType → List Token → Option DocumentType
  | 0, _, _ => none
  | _ + 1, d, [] => some d
  | fuel + 1, d, token :: rest => do
    let (type, rest) ← attributeType? rest
    let (value, rest) ← preset? rest
    attributesOf? element fuel (← d.attribute? element (← token.written?) type value) rest

/-- Declares some attributes of an element. -/
def attributes? (d : DocumentType) : List Token → Option DocumentType
  | token :: rest => do attributesOf? (← token.written?) (rest.length + 1) d rest
  | [] => none

/-! ## Declarations of elements and notations -/

/-- Names that texts may be mixed with, up to the end of the group. -/
def isMixed : List Token → Bool
  | [.closeGroup (some '*')] => true
  | .bar :: t :: rest => t.written?.isSome && isMixed rest
  | _ => false

/-- The rest of a group of elements, after an element or a group in it if `after` says so.  `separators` are
    those of the groups around it, the innermost first: a group has one kind of them. -/
def isGroup (after : Bool) : List (Option Token) → List Token → Bool
  | separator :: outer, t :: rest =>
    if after then
      match t with
      | .closeGroup _ => if outer.isEmpty then rest.isEmpty else isGroup true outer rest
      | .bar | .comma => (separator.isNone || separator = some t) && isGroup false (some t :: outer) rest
      | _ => false
    else
      match t with
      | .openGroup => isGroup false (none :: separator :: outer) rest
      | t => (t.written?.isSome || t = .counted) && isGroup true (separator :: outer) rest
  | _, _ => false

/-- What an element may contain. -/
def isContentModel : List Token → Bool
  | [.name "EMPTY"] | [.name "ANY"] => true
  | [.openGroup, .keyword "PCDATA", .closeGroup none] => true
  | .openGroup :: .keyword "PCDATA" :: rest => isMixed rest
  | .openGroup :: rest => isGroup false [none] rest
  | _ => false

/-- What a notation stands for: its place may be left out when it has a public identifier. -/
def isNotation : List Token → Bool
  | [.name "PUBLIC", .literal id] => id.all isPublicChar
  | place => afterPlace? place = some []

/-! ## Document types -/

/-- Takes a declaration into account. -/
def declare? (d : DocumentType) (kind : String) (tokens : List Token) : Option DocumentType :=
  match kind, tokens with
  | "ENTITY", tokens => d.entity? tokens
  | "ATTLIST", tokens => d.attributes? tokens
  | "ELEMENT", t :: model => if t.written?.isSome && isContentModel model then some d else none
  | "NOTATION", t :: place => if isSimple t && isNotation place then some d else none
  | _, _ => none

/-- A declaration in front, after its first two characters: its kind and its tokens.  Each
    token takes one unit of fuel. -/
def declaration? (a : Alphabet) (fuel : Nat) (cs : List Char) : Option (String × List Token × List Char) := do
  let kind := cs.takeWhile Char.isAlpha
  let (tokens, stop, rest) ← readOnto? a fuel [] (← afterSpace? (cs.drop kind.length))
  if stop = .close then return (String.ofList kind, tokens, rest) else none

/-- The declarations up to their closing bracket.  Each takes one unit of fuel, so that the length of the text
    is enough. -/
def declarations? : Nat → DocumentType → List Char → Option (DocumentType × List Char)
  | 0, _, _ => none
  | fuel + 1, d, cs => do
    match ← skipRemarks? d.alphabet (fuel + 1) cs with
    | ']' :: rest => return (d, rest)
    | '%' :: rest =>
      let (_, rest) ← simpleName? d.alphabet rest
      declarations? fuel d.skipPart (← after? ";" rest)
    | cs =>
      let (kind, tokens, rest) ← declaration? d.alphabet (fuel + 1) (← after? "<!" cs)
      declarations? fuel (← d.declare? kind tokens) rest

/-- The document type in front, if there is one, in a document of some size. -/
def read? (alphabet : Alphabet) (standalone : Bool) (size : Nat) (cs : List Char) : Option (DocumentType × List Char) := do
  let d := start alphabet standalone size
  match after? "<!DOCTYPE" cs with
  | none => return (d, cs)
  | some rest =>
    let (tokens, stop, rest) ← readOnto? alphabet (cs.length + 1) [] (← afterSpace? rest)
    let root :: place := tokens | none
    let _ ← root.written?
    let d ← if place.isEmpty then some d
      else do if (← afterPlace? place).isEmpty then some d.withOutside else none
    if stop = .close then return (d, rest)
    else
      let (d, rest) ← declarations? (cs.length + 1) d rest
      return (d, ← after? ">" (skipSpace rest))

example : replacement? .standard "a&#66;&amp;&e;".toList = some "aB&amp;&e;".toList := by decide +kernel
example : isContentModel [.openGroup, .counted, .comma, .openGroup, .name "a", .bar, .name "b",
    .closeGroup none, .closeGroup none] = true := by decide +kernel
example : isContentModel [.openGroup, .name "a", .comma, .name "b", .bar, .name "c", .closeGroup none] = false := by
  decide +kernel
example : (attributeType? [.openGroup, .word, .bar, .name "b", .closeGroup none, .close]).map (·.2)
    = some [.close] := by decide +kernel

end CodeAtlas.Xml.DocumentType
