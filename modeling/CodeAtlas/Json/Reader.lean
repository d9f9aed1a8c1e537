import CodeAtlas.Json
import CodeAtlas.Number.Numeral
import CodeAtlas.Text.Units
/-!
  Reading JSON text.

  `Json.read` accepts one value with white space around it, and nothing else.  Besides the standard
  grammar it takes the three words NaN, Infinity and -Infinity for the doubles without a numeral.  An
  integer numeral keeps its value; a numeral with a point or an exponent becomes the nearest double.  Of the
  fields of an object with one name the last value stands at the first position.

  What is read are the characters of a document; a text in it may hold halves of surrogate pairs, because an
  escape can be one.

  There are two limits: the number of digits of an integer, and the depth of lists and objects inside of each
  other.  What comes first in the text decides why it cannot be read.
-/
namespace CodeAtlas.Json

/-- Why a text is not read. -/
inductive Unreadable where
  /-- it is no JSON -/
  | malformed
  /-- an integer has too many digits -/
  | tooLong
  /-- there are too many lists and objects inside of each other -/
  | tooDeep
deriving Repr, DecidableEq, Inhabited

namespace Reader

/-- A part of a text that is there or malformed. -/
def expect {α : Type} (part : Option α) : Except Unreadable α := part.elim (.error .malformed) .ok

/-- White space between tokens. -/
def isSpace (c : Char) : Bool := c == ' ' || c == '\t' || c == '\n' || c == '\r'

/-- The text without the white space in front. -/
def skipSpace (cs : List Char) : List Char := cs.dropWhile isSpace

/-- The character of a short escape. -/
def shortEscape? : Char → Option Nat
  | '"' => some 0x22
  | '\\' => some 0x5C
  | '/' => some 0x2F
  | 'b' => some 0x08
  | 'f' => some 0x0C
  | 'n' => some 0x0A
  | 'r' => some 0x0D
  | 't' => some 0x09
  | _ => none

/-- The code points and UTF-16 units up to the closing quote, and the rest after it. -/
def units? (acc : List Nat) : List Char → Option (List Nat × List Char)
  | [] => none
  | '"' :: rest => some (acc.reverse, rest)
  | '\\' :: 'u' :: a :: b :: c :: d :: rest =>
    match Numeral.hex? [a, b, c, d] with
    | some n => units? (n :: acc) rest
    | none => none
  | '\\' :: c :: rest =>
    match shortEscape? c with
    | some n => units? (n :: acc) rest
    | none => none
  | c :: rest => if c.toNat < 0x20 then none else units? (c.toNat :: acc) rest

/-- The text up to the closing quote. -/
def text? (cs : List Char) : Option (String × List Char) :=
  (units? [] cs).map fun (units, rest) => (String.ofList (Text.ofCodePoints (Text.joinPairs units)), rest)

/-- The digits at the front. -/
def takeDigits (cs : List Char) : List Char × List Char :=
  (cs.takeWhile Char.isDigit, cs.dropWhile Char.isDigit)

/-- The fraction at the front: a point with at least one digit. -/
def fraction (cs : List Char) : List Char × List Char :=
  match cs with
  | '.' :: rest =>
    let (digits, after) := takeDigits rest
    if digits.isEmpty then ([], cs) else (digits, after)
  | _ => ([], cs)

/-- The exponent at the front, when there is one. -/
def exponent? (cs : List Char) : Option (Int × List Char) :=
  match cs with
  | e :: rest =>
    if e == 'e' || e == 'E' then
      let (negative, rest) := match rest with
        | '-' :: r => (true, r)
        | '+' :: r => (false, r)
        | r => (false, r)
      let (digits, after) := takeDigits rest
      if digits.isEmpty then none
      else
        let n : Int := Numeral.decimal digits
        some (if negative then -n else n, after)
    else none
  | [] => none

/-- The integer with the given digits. -/
def integer (negative : Bool) (digits : List Char) : Except Unreadable Json :=
  if Numeral.maxDigits < digits.length then .error .tooLong
  else
    let n : Int := Numeral.decimal digits
    .ok (.int (if negative then -n else n))

/-- The numeral at the front; no digit may follow a leading zero. -/
def number (negative : Bool) (cs : List Char) : Except Unreadable (Json × List Char) := do
  let (whole, rest) := match cs with
    | '0' :: rest => (['0'], rest)
    | _ => takeDigits cs
  if whole.isEmpty then throw .malformed
  else
    let (frac, rest) := fraction rest
    match exponent? rest, frac with
    | none, [] => return (← integer negative whole, rest)
    | none, frac =>
      return (.float (Double.ofDecimal negative (Numeral.decimal (whole ++ frac)) (-(frac.length : Int))), rest)
    | some (e, rest), frac =>
      return (.float (Double.ofDecimal negative (Numeral.decimal (whole ++ frac)) (e - frac.length)), rest)

/-- The rest of a text that starts with a word. -/
def word? (word : String) (cs : List Char) : Option (List Char) :=
  if word.toList.isPrefixOf cs then some (cs.drop word.toList.length) else none

/-- A value without parts at the front. -/
def scalar (cs : List Char) : Except Unreadable (Json × List Char) :=
  match cs with
  | [] => .error .malformed
  | '"' :: rest => expect ((text? rest).map fun (s, rest) => (.str s, rest))
  | 'n' :: _ => expect ((word? "null" cs).map (.null, ·))
  | 't' :: _ => expect ((word? "true" cs).map (.bool true, ·))
  | 'f' :: _ => expect ((word? "false" cs).map (.bool false, ·))
  | 'N' :: _ => expect ((word? "NaN" cs).map (.float .nan, ·))
  | 'I' :: _ => expect ((word? "Infinity" cs).map (.float (.infinite false), ·))
  | '-' :: rest =>
    match word? "Infinity" rest with
    | some rest => .ok (.float (.infinite true), rest)
    | none => number true rest
  | _ => number false cs

mutual

/-- The value at the front, inside of which `depth` more lists and objects may be nested.  Every level of
    nesting and every item takes one unit of fuel. -/
def value : Nat → Nat → List Char → Except Unreadable (Json × List Char)
  | 0, _, _ => .error .malformed
  | _ + 1, 0, '[' :: _ => .error .tooDeep
  | fuel + 1, depth + 1, '[' :: rest =>
    match skipSpace rest with
    | ']' :: rest => .ok (.arr [], rest)
    | rest => (items fuel depth [] rest).map fun (items, rest) => (.arr items, rest)
  | _ + 1, 0, '\x7b' :: _ => .error .tooDeep
  | fuel + 1, depth + 1, '\x7b' :: rest =>
    match skipSpace rest with
    | '\x7d' :: rest => .ok (.obj [], rest)
    | rest => (fields fuel depth [] rest).map fun (fields, rest) => (.obj fields, rest)
  | _ + 1, _, cs => scalar cs

/-- The items up to the closing bracket, onto the ones before (reversed). -/
def items : Nat → Nat → List Json → List Char → Except Unreadable (List Json × List Char)
  | 0, _, _, _ => .error .malformed
  | fuel + 1, depth, acc, cs =>
    match value fuel depth cs with
    | .error e => .error e
    | .ok (v, rest) =>
      match skipSpace rest with
      | ']' :: rest => .ok ((v :: acc).reverse, rest)
      | ',' :: rest => items fuel depth (v :: acc) (skipSpace rest)
      | _ => .error .malformed

/-- The fields up to the closing brace, put into the ones before. -/
def fields : Nat → Nat → List (Key × Json) → List Char → Except Unreadable (List (Key × Json) × List Char)
  | 0, _, _, _ => .error .malformed
  | fuel + 1, depth, acc, cs =>
    match cs with
    | '"' :: rest =>
      match text? rest with
      | none => .error .malformed
      | some (name, rest) =>
        match skipSpace rest with
        | ':' :: rest =>
          match value fuel depth (skipSpace rest) with
          | .error e => .error e
          | .ok (v, rest) =>
            let acc := putField (.str name) v acc
            match skipSpace rest with
            | '\x7d' :: rest => .ok (acc, rest)
            | ',' :: rest => fields fuel depth acc (skipSpace rest)
            | _ => .error .malformed
        | _ => .error .malformed
    | _ => .error .malformed

end

end Reader

/-- The value that the characters of a document stand for. -/
def read (s : String) : Except Unreadable Json := do
  let cs := s.toList
  let (v, rest) ← Reader.value (cs.length + 1) maxDepth (Reader.skipSpace cs)
  if (Reader.skipSpace rest).isEmpty then return v else throw .malformed

/-- The value that the characters of a document stand for, when it can be read. -/
def read? (s : String) : Option Json := (read s).toOption

example : read? " \x7b\"a\": [1, -2.50, null], \"a\": 3\x7d " = some (.obj [("a", .int 3)]) := by
  decide +kernel
example : read? "[1,]" = none ∧ read? "01" = none ∧ read? "" = none := by decide +kernel
example : read? "\"\\ud83d\\ude00\\n\"" = some (.str "😀\n") := by decide +kernel

end CodeAtlas.Json
