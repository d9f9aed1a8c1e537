import CodeAtlas.Xml.Lexeme
/-!
  The declaration at the very start of a document: which version of XML it is in, in which encoding it is
  written, and whether it needs nothing from outside.  They are stated in this order, and only the version must
  be.  The declaration is in ASCII whatever the encoding is.
-/
namespace CodeAtlas.Xml

/-- What a document says about itself. -/
structure Declaration where
  encoding : Option String := none
  standalone : Bool := false
deriving Repr, DecidableEq, Inhabited

namespace Declaration

open Lexeme

/-- Characters of the values. -/
def isValueChar (c : Char) : Bool := c.isAlphanum || c == '.' || c == '-' || c == '_'

/-- The values with their names up to the end of a declaration, after the ones before (reversed).  Each takes
    one unit of fuel. -/
def fields? : Nat → List (String × String) → List Char → Option (List (String × String) × List Char)
  | 0, _, _ => none
  | fuel + 1, acc, cs =>
    match after? "?>" (skipSpace cs) with
    | some rest => some (acc.reverse, rest)
    | none => do
      let (name, rest) ← simpleName? .standard (← afterSpace? cs)
      let rest ← after? "=" (skipSpace rest)
      let (value, rest) ← quoted? (skipSpace rest)
      if value.all isValueChar then fields? fuel ((name, String.ofList value) :: acc) rest else none

/-- A declaration by its values: there are at most three. -/
def ofFields? : List (String × String) → Option Declaration
  | [("version", _)] => some {}
  | [("version", _), ("encoding", e)] => ofEncoding? e false
  | [("version", _), ("standalone", s)] => do return { standalone := ← flag? s }
  | [("version", _), ("encoding", e), ("standalone", s)] => do ofEncoding? e (← flag? s)
  | _ => none
where
  /-- The two values of a flag. -/
  flag? (s : String) : Option Bool := if s = "yes" then some true else if s = "no" then some false else none
  /-- The name of an encoding starts with a letter. -/
  ofEncoding? (e : String) (standalone : Bool) : Option Declaration :=
    if (e.toList.head?.map Char.isAlpha).getD false then some { encoding := some e, standalone } else none

/-- The declaration of a document and the rest of it; a document may say nothing about itself. -/
def read? (cs : List Char) : Option (Declaration × List Char) :=
  match after? "<?xml" cs with
  | none => some ({}, cs)
  | some rest =>
    if startsWithSpace rest then do
      let (fields, rest) ← fields? 4 [] rest
      return (← ofFields? fields, rest)
    else some ({}, cs)

example : read? "<?xml version='1.0' encoding='UTF-8'?><a/>".toList
    = some ({ encoding := some "UTF-8" }, "<a/>".toList) := by decide +kernel
example : read? "<?xml encoding='UTF-8'?><a/>".toList = none := by decide +kernel
example : read? "<?xml-stylesheet?><a/>".toList = some ({}, "<?xml-stylesheet?><a/>".toList) := by
  decide +kernel

end Declaration

end CodeAtlas.Xml
