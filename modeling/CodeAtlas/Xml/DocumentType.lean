import CodeAtlas.Xml.AttributeValue
/-!
  Document types: what a document declares before its root element.

  Two kinds of declarations have an effect on the document.  Entities give names to pieces of text, and
  attribute rules say for the elements of a name which attributes they have without writing them, and which
  values are more than plain text.  Parts of a document type may lie outside of the document; they are not
  read, and from the first reference to such a part on declarations are only kept when the document says that
  it needs nothing from outside.
-/
namespace CodeAtlas.Xml

/-- A rule for an attribute of an element. -/
structure AttributeRule where
  name : Written
  /-- the value is plain text, and all blanks in it count -/
  isText : Bool
  /-- the value of an attribute that is not written -/
  value : Option String
deriving Repr, DecidableEq, Inhabited

/-- The declarations of a document. -/
structure DocumentType where
  /-- the letters of names in the document itself -/
  alphabet : Alphabet
  entities : Entities
  /-- the rules for the attributes of elements by the names of the elements -/
  rules : List (Written × List AttributeRule) := []
  /-- nothing outside of the document matters -/
  standalone : Bool
  /-- declarations are still kept -/
  isKept : Bool := true

namespace DocumentType

/-- A document type without declarations, for a document of some size in bytes. -/
def start (alphabet : Alphabet) (standalone : Bool) (size : Nat) : DocumentType :=
  { alphabet, entities := .start size, standalone }

/-- A part of the document type lies outside of the document. -/
def withOutside (d : DocumentType) : DocumentType :=
  { d with entities := { d.entities with isPartial := !d.standalone } }

/-- A part outside of the document is mentioned between declarations. -/
def skipPart (d : DocumentType) : DocumentType := { d.withOutside with isKept := d.standalone }

/-- Declares an entity.  One that every document has stays what it is. -/
def declareEntity (d : DocumentType) (name : String) (text : Option (List Char)) : DocumentType :=
  if d.isKept && (OrderedMap.lookup name Lexeme.predefined).isNone then
    { d with entities := d.entities.declare name text }
  else d

/-- The rules for the attributes of an element. -/
def rulesOf (d : DocumentType) (element : Written) : List AttributeRule :=
  (OrderedMap.lookup element d.rules).getD []

/-- Adds a rule for an attribute of an element.  A rule that gives a value, or that makes the attribute the
    identity of its element, comes too late when there is one for the attribute. -/
def addRule (d : DocumentType) (element : Written) (isIdentity : Bool) (rule : AttributeRule) : DocumentType :=
  let rules := d.rulesOf element
  if (isIdentity || rule.value.isSome) && rules.any (·.name = rule.name) then d
  else { d with rules := OrderedMap.put element (rules ++ [rule]) d.rules }

/-- The attributes of an element by those that are written: the first rule for an attribute says whether all
    blanks in its value count, and attributes that are not written have their values from the rules. -/
def complete (d : DocumentType) (element : Written) (written : List (Written × String)) :
    List (Written × String) :=
  let rules := d.rulesOf element
  let collapsed (a : Written × String) : Written × String :=
    match rules.find? (·.name = a.1) with
    | some { isText := false, .. } => (a.1, String.ofList (AttributeValue.collapse a.2.toList))
    | _ => a
  let added := rules.filterMap fun r =>
    if written.any (·.1 = r.name) then none else r.value.map fun v => (r.name, v)
  written.map collapsed ++ added

end DocumentType

end CodeAtlas.Xml
