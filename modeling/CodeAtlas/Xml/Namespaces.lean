import CodeAtlas.OrderedMap
import CodeAtlas.Xml
import CodeAtlas.Xml.Lexeme
/-!
  Names in their namespaces.

  What stands before the colon of a written name is short for a namespace, and attributes say for which one.
  Two such scopes have a fixed meaning, and so do their namespaces: `xml`, which may be declared but not
  changed, and `xmlns`, which declares others and may not be declared itself.
-/
namespace CodeAtlas.Xml

/-- The namespaces by the scopes of written names; the empty scope is that of elements without one. -/
structure Namespaces where
  spaces : List (String × String)

namespace Namespaces

/-- The namespace of the scope `xml`. -/
def xmlSpace : String := "http://www.w3.org/XML/1998/namespace"

/-- The namespace of the scope that declares namespaces. -/
def declaringSpace : String := "http://www.w3.org/2000/xmlns/"

/-- The namespaces outside of the root element. -/
def start : Namespaces := ⟨[("xml", xmlSpace)]⟩

/-- The name of an element. -/
def elementName? (n : Namespaces) (w : Written) : Option Name :=
  match OrderedMap.lookup w.scope n.spaces with
  | some space => some ⟨space, w.localName⟩
  | none => if w.scope = "" then some ⟨"", w.localName⟩ else none

/-- The name of an attribute; without a scope it is in no namespace. -/
def attributeName? (n : Namespaces) (w : Written) : Option Name :=
  if w.scope = "" then some ⟨"", w.localName⟩
  else if w.scope = "xmlns" then some ⟨declaringSpace, w.localName⟩
  else n.elementName? w

/-- The scope that an attribute declares. -/
def declaredScope? (w : Written) : Option String :=
  if w = ⟨"", "xmlns"⟩ then some "" else if w.scope = "xmlns" then some w.localName else none

/-- Whether a scope may stand for a namespace: only the empty scope may be taken back, and the two fixed
    scopes and namespaces go together.  A brace would end the namespace where a name is written in full. -/
def mayStandFor (scope space : String) : Bool :=
  (scope = "" || space != "") && scope != "xmlns" && space != declaringSpace
    && (scope == "xml") == (space == xmlSpace) && !space.toList.contains '\x7d'

/-- The namespaces inside of an element with an attribute. -/
def declare? (n : Namespaces) (given : Written × String) : Option Namespaces :=
  match declaredScope? given.1 with
  | none => some n
  | some scope =>
    if mayStandFor scope given.2 then some ⟨OrderedMap.put scope given.2 n.spaces⟩ else none

/-- The namespaces inside of an element; no two attributes may have the same name. -/
def declareAll? (n : Namespaces) (attributes : List (Written × String)) : Option Namespaces := do
  let n ← attributes.foldlM declare? n
  let names ← attributes.mapM fun a => n.attributeName? a.1
  if names.Nodup then some n else none

example : mayStandFor "" "" = true ∧ mayStandFor "p" "" = false ∧ mayStandFor "p" xmlSpace = false := by
  decide +kernel

end Namespaces

end CodeAtlas.Xml
