import CodeAtlas.Xml.Entities
/-!
  The values of attributes.

  A value is what stands in quotes with its references replaced; white space in it, but not the characters of
  numeric references, becomes blanks.  In a value that is not plain text, such as a list of names, blanks only
  separate: they are dropped at both ends, and one stays where there are several.
-/
namespace CodeAtlas.Xml.AttributeValue

open Lexeme

/-- The value of a text in quotes, after the characters before (reversed).  `outer` are the entities that are
    being replaced, with the texts that go on after them; names in their replacement texts are in the standard
    alphabet.  Every character and every end of a replacement text take one unit of fuel. -/
def expand? (a : Alphabet) : Nat → Entities → List (String × List Char) → List Char → List Char →
    Option (List Char × Entities)
  | 0, _, _, _, _ => none
  | _ + 1, e, [], acc, [] => some (acc.reverse, e)
  | fuel + 1, e, (_, rest) :: outer, acc, [] => expand? a fuel e outer acc rest
  | fuel + 1, e, outer, acc, c :: rest =>
    if c == '<' then none
    else if c == '&' then
      match reference? (if outer.isEmpty then a else .standard) rest with
      | none => none
      | some (.char x, rest) => expand? a fuel e outer (x :: acc) rest
      | some (.predefined x, rest) =>
        match e.pay? 1 with
        | none => none
        | some e => expand? a fuel e outer (x :: acc) rest
      | some (.entity name, rest) =>
        if e.isForeign name then expand? a fuel e outer acc rest
        else
          match e.enter? (outer.map (·.1)) name with
          | none => none
          | some (replacement, e) => expand? a fuel e ((name, rest) :: outer) acc replacement
    else expand? a fuel e outer ((if isSpace c then ' ' else c) :: acc) rest

/-- The value of a text in quotes.  Whatever is read was paid or stands in the quotes, and each end of a
    replacement text is that of one to which a reference was read. -/
def ofQuoted? (a : Alphabet) (e : Entities) (quoted : List Char) : Option (List Char × Entities) :=
  expand? a (2 * (quoted.length + e.budget) + 1) e [] [] quoted

/-- Blanks only between parts, after what comes before (reversed). -/
def collapseOnto (pending : Bool) (acc : List Char) : List Char → List Char
  | [] => acc.reverse
  | c :: rest =>
    if c == ' ' then collapseOnto true acc rest
    else collapseOnto false (c :: (if pending && !acc.isEmpty then ' ' :: acc else acc)) rest

/-- A value in which blanks only separate. -/
def collapse (cs : List Char) : List Char := collapseOnto false [] cs

example : collapse "  a   b ".toList = "a b".toList := by decide +kernel
example : (ofQuoted? .standard { budget := 9 } "a\t&#9;&lt;".toList).map (·.1) = some "a \t<".toList := by decide +kernel
example : (ofQuoted? .standard { texts := [("e", some "&f;".toList), ("f", some "&e;".toList)], budget := 99 }
    "&e;".toList).isNone := by decide +kernel

end CodeAtlas.Xml.AttributeValue
