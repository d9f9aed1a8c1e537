import CodeAtlas.Number.Numeral
import CodeAtlas.OrderedMap
import CodeAtlas.Xml.NameCharacter
/-!
  The smallest parts of a document: white space, names, references, texts in quotes, comments and
  instructions.

  Every reader here takes a part off the front of a text and gives back what comes after it, or nothing when
  the text does not start with such a part.  Line ends are line feeds by now.
-/
namespace CodeAtlas.Xml

/-- A name as it is written: what stands before the colon, if there is one, and the name itself. -/
structure Written where
  scope : String
  localName : String
deriving Repr, DecidableEq, Inhabited

/-- What a reference stands for. -/
inductive Reference where
  /-- a character by its number -/
  | char (c : Char)
  /-- the entity of a character, which every document has -/
  | predefined (c : Char)
  | entity (name : String)
deriving Repr, DecidableEq, Inhabited

namespace Lexeme

/-- White space. -/
def isSpace (c : Char) : Bool := c == ' ' || c == '\t' || c == '\n'

/-- Characters that a document may contain. -/
def isLegal (c : Char) : Bool :=
  isSpace c || (0x20 ≤ c.toNat && c.toNat != 0xFFFE && c.toNat != 0xFFFF)

/-- Whether white space stands in front. -/
def startsWithSpace (cs : List Char) : Bool := (cs.head?.map isSpace).getD false

/-- The text without the white space in front. -/
def skipSpace (cs : List Char) : List Char := cs.dropWhile isSpace

/-- The rest after at least one character of white space. -/
def afterSpace? (cs : List Char) : Option (List Char) :=
  if startsWithSpace cs then some (skipSpace cs) else none

/-- The rest of a text that starts with another one. -/
def after? (start : String) (cs : List Char) : Option (List Char) :=
  if start.toList.isPrefixOf cs then some (cs.drop start.toList.length) else none

/-- What stands before (after what came earlier, reversed) and after the first occurrence of a text. -/
def cutOnto? (stop acc : List Char) : List Char → Option (List Char × List Char)
  | [] => none
  | c :: rest =>
    if stop.isPrefixOf (c :: rest) then some (acc.reverse, (c :: rest).drop stop.length)
    else cutOnto? stop (c :: acc) rest

/-- What stands before and after the first occurrence of a text. -/
def cut? (stop : String) (cs : List Char) : Option (List Char × List Char) := cutOnto? stop.toList [] cs

/-- A text in quotes of either kind. -/
def quoted? : List Char → Option (List Char × List Char)
  | '"' :: rest => cut? "\"" rest
  | '\'' :: rest => cut? "'" rest
  | _ => none

/-! ## Names -/

/-- A name without a colon. -/
def simpleName? (a : Alphabet) : List Char → Option (String × List Char)
  | [] => none
  | c :: rest =>
    if a.isNameStart c then
      some (String.ofList (c :: rest.takeWhile a.isNameChar), rest.dropWhile a.isNameChar)
    else none

/-- A written name. -/
def writtenName? (a : Alphabet) (cs : List Char) : Option (Written × List Char) := do
  let (first, rest) ← simpleName? a cs
  match rest with
  | ':' :: rest =>
    let (second, rest) ← simpleName? a rest
    if rest.head? = some ':' then none else return (⟨first, second⟩, rest)
  | rest => return (⟨"", first⟩, rest)

/-! ## References -/

/-- The character with a number, which is written in digits or behind an x in hexadecimal digits. -/
def numbered? (digits : List Char) : Option Char := do
  let n ← match digits with
    | 'x' :: digits => if digits.isEmpty then none else Numeral.hex? digits
    | digits => if digits.isEmpty || !digits.all Char.isDigit then none else some (Numeral.decimal digits)
  let c := Char.ofNat n
  if c.toNat = n && (isLegal c || n = 0x0D) && n ≠ 0 then some c else none

/-- The entities that every document has. -/
def predefined : List (String × Char) := [("amp", '&'), ("lt", '<'), ("gt", '>'), ("quot", '"'), ("apos", '\'')]

/-- A reference, after its first character. -/
def reference? (a : Alphabet) : List Char → Option (Reference × List Char)
  | '#' :: rest => do
    let (digits, rest) ← cut? ";" rest
    return (.char (← numbered? digits), rest)
  | cs => do
    let (name, rest) ← simpleName? a cs
    let rest ← after? ";" rest
    return (((OrderedMap.lookup name predefined).map Reference.predefined).getD (.entity name), rest)

/-! ## Comments and instructions -/

/-- The rest after a comment, after its first four characters; two hyphens are its end. -/
def comment? (cs : List Char) : Option (List Char) := do
  let (_, rest) ← cut? "--" cs
  after? ">" rest

/-- The rest after an instruction, after its first two characters; it may not be for XML itself. -/
def instruction? (a : Alphabet) (cs : List Char) : Option (List Char) := do
  let (target, rest) ← simpleName? a cs
  if target.toLower = "xml" then none
  else
    match after? "?>" rest with
    | some rest => some rest
    | none => if startsWithSpace rest then (cut? "?>" rest).map (·.2) else none

/-- The rest after white space, comments and instructions.  Each takes one unit of fuel, so that the length of
    the text is enough. -/
def skipRemarks? (a : Alphabet) : Nat → List Char → Option (List Char)
  | 0, _ => none
  | fuel + 1, cs =>
    let cs := skipSpace cs
    if let some rest := after? "<!--" cs then (comment? rest).bind (skipRemarks? a fuel)
    else if let some rest := after? "<?" cs then (instruction? a rest).bind (skipRemarks? a fuel)
    else some cs

example : cut? "-->" "a - b-->c".toList = some ("a - b".toList, ['c']) := by decide +kernel
example : writtenName? .standard "m:pom>".toList = some (⟨"m", "pom"⟩, ['>']) := by decide +kernel
example : reference? .standard "#x41;b".toList = some (.char 'A', ['b']) := by decide +kernel
example : reference? .standard "a.b:c;".toList = none := by decide +kernel
example : skipRemarks? .standard 3 " <!-- a --><?b c?>d".toList = some ['d'] := by decide +kernel

end Lexeme

end CodeAtlas.Xml
