import CodeAtlas.Xml.Lexeme
/-!
  Entities: names for pieces of text.

  A reference to an entity stands for its replacement text, in which references are replaced in turn, but none
  to an entity that is being replaced.  Short declarations can make very long texts in this way, so there is a
  budget: a document and all replacement texts in it must have less than eight mebibytes together, or else at
  most a hundred bytes for each one of the document.
-/
namespace CodeAtlas.Xml

/-- The entities of a document. -/
structure Entities where
  /-- the replacement texts; an entity that lies outside of the document has none -/
  texts : List (String × Option (List Char)) := []
  /-- a name without a declaration here may have one outside of the document -/
  isPartial : Bool := false
  /-- how many bytes of replacement texts may still be read -/
  budget : Nat

namespace Entities

/-- The entities before any declaration, for a document of some size in bytes. -/
def start (size : Nat) : Entities := { budget := max (8 * 1024 * 1024 - 1) (100 * size) - size }

/-- Declares an entity; the first declaration of a name counts. -/
def declare (e : Entities) (name : String) (text : Option (List Char)) : Entities :=
  if (OrderedMap.lookup name e.texts).isSome then e else { e with texts := e.texts ++ [(name, text)] }

/-- Whether a reference to an entity may be left out. -/
def isForeign (e : Entities) (name : String) : Bool :=
  e.isPartial && (OrderedMap.lookup name e.texts).isNone

/-- The entities after some bytes of replacement texts. -/
def pay? (e : Entities) (size : Nat) : Option Entities :=
  if e.budget < size then none else some { e with budget := e.budget - size }

/-- The number of bytes of a replacement text. -/
def sizeOf (cs : List Char) : Nat := cs.foldl (fun size c => size + c.utf8Size) 0

/-- The replacement text of an entity, while some others are being replaced, and what is left of the budget. -/
def enter? (e : Entities) (busy : List String) (name : String) : Option (List Char × Entities) :=
  match OrderedMap.lookup name e.texts with
  | some (some replacement) =>
    if busy.contains name then none else (e.pay? (sizeOf replacement)).map fun e => (replacement, e)
  | _ => none

end Entities

end CodeAtlas.Xml
