import CodeAtlas.Text.Half
import CodeAtlas.Toml
import CodeAtlas.Toml.Moment
/-!
  Reading TOML documents.

  A document is a sequence of lines: headers, which say where the following keys go, and keys with values.
  Line ends may be written with a carriage return; anywhere else it is a control character like the others,
  which no text and no comment may contain.  `Toml.read` gives the fields of the document, or says why it
  cannot be read: there is an error in it, or there are too many lists and tables inside of each other.  What
  comes first in the document decides.
-/
namespace CodeAtlas.Toml

/-- Why a document is not read. -/
inductive Unreadable where
  /-- there is an error in it -/
  | malformed
  /-- there are too many lists and tables inside of each other -/
  | tooDeep
deriving Repr, DecidableEq, Inhabited

/-- How much nesting there may be; a list takes two units of it, and a table in braces three. -/
def maxNesting : Nat := 975

namespace Reader

/-- A part of a text that is there or malformed. -/
def expect {α : Type} (part : Option α) : Except Unreadable α := part.elim (.error .malformed) .ok

/-- White space inside of a line. -/
def isSpace (c : Char) : Bool := c == ' ' || c == '\t'

/-- White space and line ends. -/
def isSpaceOrEnd (c : Char) : Bool := isSpace c || c == '\n'

/-- Control characters. -/
def isControl (c : Char) : Bool := c.toNat < 32 || c.toNat == 127

/-- Control characters that may not stand in a line; a tab may. -/
def isForbidden (c : Char) : Bool := isControl c && c != '\t'

/-- Characters of keys without quotes. -/
def isBare (c : Char) : Bool :=
  ('a' ≤ c && c ≤ 'z') || ('A' ≤ c && c ≤ 'Z') || c.isDigit || c == '-' || c == '_'

/-- The text without the white space in front. -/
def skipSpace (cs : List Char) : List Char := cs.dropWhile isSpace

/-- The line feeds alone for the line ends with a carriage return. -/
def unixLines : List Char → List Char
  | '\r' :: '\n' :: rest => '\n' :: unixLines rest
  | c :: rest => c :: unixLines rest
  | [] => []

/-- The text from the end of the line on, when a comment may stand before it. -/
def skipComment? : List Char → Option (List Char)
  | '#' :: rest =>
    if (rest.takeWhile (· != '\n')).any isForbidden then none else some (rest.dropWhile (· != '\n'))
  | cs => some cs

/-- The text without white space, line ends and comments in front. -/
def skipArraySpace? (inComment : Bool) : List Char → Option (List Char)
  | [] => some []
  | c :: rest =>
    if inComment then
      if c == '\n' then skipArraySpace? false rest
      else if isForbidden c then none
      else skipArraySpace? true rest
    else if isSpaceOrEnd c then skipArraySpace? false rest
    else if c == '#' then skipArraySpace? true rest
    else some (c :: rest)

/-! ## Texts -/

/-- The character of a short escape. -/
def shortEscape? : Char → Option Char
  | 'b' => some '\x08'
  | 't' => some '\t'
  | 'n' => some '\n'
  | 'f' => some '\x0c'
  | 'r' => some '\r'
  | '"' => some '"'
  | '\\' => some '\\'
  | _ => none

/-- The text of a code point, when it is a character. -/
def scalar? (digits : List Char) : Option (List Char) := do
  let n ← Numeral.hex? digits
  if n < 0xD800 || (0xDFFF < n && n < 0x110000) then some (Text.ofCodePoint n) else none

/-- A text up to its closing quote, onto the characters before (reversed). -/
def basic? (acc : List Char) : List Char → Option (String × List Char)
  | [] => none
  | '"' :: rest => some (String.ofList acc.reverse, rest)
  | '\\' :: 'u' :: a :: b :: c :: d :: rest =>
    match scalar? [a, b, c, d] with
    | some x => basic? (x.reverse ++ acc) rest
    | none => none
  | '\\' :: 'U' :: a :: b :: c :: d :: e :: f :: g :: h :: rest =>
    match scalar? [a, b, c, d, e, f, g, h] with
    | some x => basic? (x.reverse ++ acc) rest
    | none => none
  | '\\' :: c :: rest =>
    match shortEscape? c with
    | some x => basic? (x :: acc) rest
    | none => none
  | c :: rest => if isForbidden c then none else basic? (c :: acc) rest

/-- What a backslash at the end of a line skips. -/
inductive Skipping where
  | nothing
  /-- white space up to the end of the line, and nothing else -/
  | toEnd
  /-- white space and line ends -/
  | past
deriving DecidableEq

/-- A text of several lines up to its three closing quotes, onto the characters before (reversed). -/
def basicLines? (skipping : Skipping) (acc : List Char) : List Char → Option (List Char × List Char)
  | [] => none
  | '"' :: '"' :: '"' :: rest => if skipping = .toEnd then none else some (acc, rest)
  | '\\' :: 'u' :: a :: b :: c :: d :: rest =>
    match scalar? [a, b, c, d] with
    | some x => if skipping = .toEnd then none else basicLines? .nothing (x.reverse ++ acc) rest
    | none => none
  | '\\' :: 'U' :: a :: b :: c :: d :: e :: f :: g :: h :: rest =>
    match scalar? [a, b, c, d, e, f, g, h] with
    | some x => if skipping = .toEnd then none else basicLines? .nothing (x.reverse ++ acc) rest
    | none => none
  | '\\' :: c :: rest =>
    if skipping = .toEnd then none
    else if c == '\n' then basicLines? .past acc rest
    else if isSpace c then basicLines? .toEnd acc rest
    else
      match shortEscape? c with
      | some x => basicLines? .nothing (x :: acc) rest
      | none => none
  | c :: rest =>
    match skipping with
    | .toEnd =>
      if c == '\n' then basicLines? .past acc rest
      else if isSpace c then basicLines? .toEnd acc rest
      else none
    | .past =>
      if isSpaceOrEnd c then basicLines? .past acc rest
      else if isControl c then none
      else basicLines? .nothing (c :: acc) rest
    | .nothing => if isForbidden c && c != '\n' then none else basicLines? .nothing (c :: acc) rest

/-- A text without escapes up to its closing quote. -/
def literal? (cs : List Char) : Option (String × List Char) :=
  let body := cs.takeWhile (· != '\'')
  match cs.dropWhile (· != '\'') with
  | _ :: rest => if body.any isForbidden then none else some (String.ofList body, rest)
  | [] => none

/-- A text of several lines without escapes up to its three closing quotes. -/
def literalLines? (acc : List Char) : List Char → Option (List Char × List Char)
  | [] => none
  | '\'' :: '\'' :: '\'' :: rest => some (acc, rest)
  | c :: rest => if isForbidden c && c != '\n' then none else literalLines? (c :: acc) rest

/-- The text without a line end in front. -/
def dropLineEnd : List Char → List Char
  | '\n' :: rest => rest
  | cs => cs

/-- One or two more quotes before the closing ones belong to the text. -/
def withExtraQuotes (quote : Char) (acc : List Char) (cs : List Char) : String × List Char :=
  let extra := ((cs.take 2).takeWhile (· == quote)).length
  (String.ofList (acc.reverse ++ List.replicate extra quote), cs.drop extra)

/-- A text in quotes at the front. -/
def text? (cs : List Char) : Option (String × List Char) :=
  match cs with
  | '"' :: '"' :: '"' :: rest =>
    (basicLines? .nothing [] (dropLineEnd rest)).map fun (acc, rest) => withExtraQuotes '"' acc rest
  | '"' :: rest => basic? [] rest
  | '\'' :: '\'' :: '\'' :: rest =>
    (literalLines? [] (dropLineEnd rest)).map fun (acc, rest) => withExtraQuotes '\'' acc rest
  | '\'' :: rest => literal? rest
  | _ => none

/-! ## Keys -/

/-- One part of a key at the front. -/
def keyPart? (cs : List Char) : Option (String × List Char) :=
  match cs with
  | '"' :: rest => basic? [] rest
  | '\'' :: rest => literal? rest
  | _ =>
    let name := cs.takeWhile isBare
    if name.isEmpty then none else some (String.ofList name, cs.dropWhile isBare)

/-- The further parts of a key, onto the ones before (reversed).  Every part takes one unit of fuel. -/
def keyParts? : Nat → List String → List Char → Option (List String × List Char)
  | 0, _, _ => none
  | fuel + 1, acc, cs =>
    match skipSpace cs with
    | '.' :: rest =>
      match keyPart? (skipSpace rest) with
      | some (part, rest) => keyParts? fuel (part :: acc) rest
      | none => none
    | cs => some (acc.reverse, cs)

/-- A key at the front, and the text after the white space behind it. -/
def key? (cs : List Char) : Option (List String × List Char) := do
  let (first, rest) ← keyPart? cs
  keyParts? (rest.length + 1) [first] rest

/-! ## Numbers -/

/-- More digits, with single underscores between them. -/
def moreDigits (isDigit : Char → Bool) : List Char → List Char × List Char
  | [] => ([], [])
  | '_' :: c :: rest =>
    if isDigit c then
      let (digits, rest) := moreDigits isDigit rest
      (c :: digits, rest)
    else ([], '_' :: c :: rest)
  | c :: rest =>
    if isDigit c then
      let (digits, rest) := moreDigits isDigit rest
      (c :: digits, rest)
    else ([], c :: rest)

/-- Digits with single underscores between them. -/
def digits? (isDigit : Char → Bool) : List Char → Option (List Char × List Char)
  | [] => none
  | c :: rest =>
    if isDigit c then
      let (digits, rest) := moreDigits isDigit rest
      some (c :: digits, rest)
    else none

/-- A sign at the front. -/
def sign : List Char → Bool × List Char
  | '-' :: rest => (true, rest)
  | '+' :: rest => (false, rest)
  | cs => (false, cs)

/-- The whole part of a decimal numeral: no digit follows a leading zero. -/
def whole? : List Char → Option (List Char × List Char)
  | '0' :: rest => some (['0'], rest)
  | cs => digits? Char.isDigit cs

/-- The digits of a fraction at the front. -/
def fraction? : List Char → Option (List Char × List Char)
  | '.' :: rest => digits? Char.isDigit rest
  | _ => none

/-- The exponent at the front. -/
def exponent? : List Char → Option (Int × List Char)
  | [] => none
  | e :: rest => do
    if e == 'e' || e == 'E' then
      let (negative, rest) := sign rest
      let (digits, rest) ← digits? Char.isDigit rest
      let n : Int := Numeral.decimal digits
      return (if negative then -n else n, rest)
    else none

/-- A decimal numeral at the front. -/
def decimal? (cs : List Char) : Option (Toml × List Char) := do
  let (negative, rest) := sign cs
  let (whole, rest) ← whole? rest
  let float (digits : List Char) (exponent : Int) : Toml :=
    .float (Double.ofDecimal negative (Numeral.decimal digits) exponent)
  match fraction? rest with
  | some (frac, rest) =>
    match exponent? rest with
    | some (e, rest) => return (float (whole ++ frac) (e - frac.length), rest)
    | none => return (float (whole ++ frac) (-(frac.length : Int)), rest)
  | none =>
    match exponent? rest with
    | some (e, rest) => return (float whole e, rest)
    | none =>
      if Numeral.maxDigits < whole.length then none
      else
        let n : Int := Numeral.decimal whole
        return (.integer (if negative then -n else n), rest)

/-- A numeral in another base at the front. -/
def based? : List Char → Option (Toml × List Char)
  | '0' :: b :: rest => do
    let base ← match b with
      | 'x' => some 16
      | 'o' => some 8
      | 'b' => some 2
      | _ => none
    let (digits, rest) ← digits? (fun c => Numeral.isHex c && Numeral.digitValue c < base) rest
    return (.integer (Numeral.value base digits), rest)
  | _ => none

/-- Infinity and the undefined number at the front. -/
def special? (cs : List Char) : Option (Toml × List Char) :=
  let (negative, rest) := sign cs
  if "inf".toList.isPrefixOf rest then some (.float (.infinite negative), rest.drop 3)
  else if "nan".toList.isPrefixOf rest then some (.float .nan, rest.drop 3)
  else none

/-- A date, a time or a number at the front. -/
def number? (cs : List Char) : Option (Toml × List Char) :=
  match Moment.read cs with
  | .found m rest => some (.moment m, rest)
  | .invalid => none
  | .absent => (based? cs).or ((decimal? cs).or (special? cs))

/-- A value without parts at the front. -/
def plain? (cs : List Char) : Option (Toml × List Char) :=
  match cs with
  | '"' :: _ | '\'' :: _ => (text? cs).map fun (s, rest) => (.text s, rest)
  | _ =>
    if "true".toList.isPrefixOf cs then some (.truth true, cs.drop 4)
    else if "false".toList.isPrefixOf cs then some (.truth false, cs.drop 5)
    else number? cs

/-! ## Values with parts -/

mutual

/-- The value at the front, with so much nesting left inside of it.  Every level of nesting and every item
    takes one unit of fuel. -/
def value : Nat → Nat → List Char → Except Unreadable (Toml × List Char)
  | 0, _, _ => .error .malformed
  | fuel + 1, nesting, '[' :: rest =>
    if nesting < 2 then .error .tooDeep
    else
      match skipArraySpace? false rest with
      | none => .error .malformed
      | some (']' :: rest) => .ok (.array [], rest)
      | some rest => (items fuel (nesting - 2) [] rest).map fun (items, rest) => (.array items, rest)
  | fuel + 1, nesting, '\x7b' :: rest =>
    if nesting < 3 then .error .tooDeep
    else
      match skipSpace rest with
      | '\x7d' :: rest => .ok (.table .closed [], rest)
      | rest => (pairs fuel (nesting - 3) [] rest).map fun (fields, rest) => (.table .closed fields, rest)
  | _ + 1, _, cs => expect (plain? cs)

/-- The items up to the closing bracket, onto the ones before (reversed). -/
def items : Nat → Nat → List Toml → List Char → Except Unreadable (List Toml × List Char)
  | 0, _, _, _ => .error .malformed
  | fuel + 1, nesting, acc, cs =>
    match value fuel nesting cs with
    | .error e => .error e
    | .ok (v, rest) =>
      match skipArraySpace? false rest with
      | some (']' :: rest) => .ok ((v :: acc).reverse, rest)
      | some (',' :: rest) =>
        match skipArraySpace? false rest with
        | none => .error .malformed
        | some (']' :: rest) => .ok ((v :: acc).reverse, rest)
        | some rest => items fuel nesting (v :: acc) rest
      | _ => .error .malformed

/-- The keys with values up to the closing brace, put into the ones before. -/
def pairs : Nat → Nat → Fields → List Char → Except Unreadable (Fields × List Char)
  | 0, _, _, _ => .error .malformed
  | fuel + 1, nesting, acc, cs =>
    match pair fuel nesting cs with
    | .error e => .error e
    | .ok (key, v, rest) =>
      match assign 0 v key acc with
      | none => .error .malformed
      | some acc =>
        match skipSpace rest with
        | '\x7d' :: rest => .ok (acc, rest)
        | ',' :: rest => pairs fuel nesting acc (skipSpace rest)
        | _ => .error .malformed

/-- A key with its value at the front. -/
def pair : Nat → Nat → List Char → Except Unreadable (List String × Toml × List Char)
  | 0, _, _ => .error .malformed
  | fuel + 1, nesting, cs =>
    match key? cs with
    | some (key, '=' :: rest) => (value fuel nesting (skipSpace rest)).map fun (v, rest) => (key, v, rest)
    | _ => .error .malformed

end

/-! ## Lines -/

/-- A document that is being read. -/
structure Document where
  fields : Fields
  /-- the table that the keys go to -/
  header : List String
  /-- the number of headers so far -/
  section_ : Nat

namespace Document

/-- A document without lines. -/
def empty : Document := { fields := [], header := [], section_ := 0 }

/-- The document with a new section. -/
def begin (d : Document) (key : List String) (make : String → Fields → Option Fields) : Option Document := do
  let last ← key.getLast?
  let fields ← within (make last) key.dropLast d.fields
  return { fields, header := key, section_ := d.section_ + 1 }

/-- The document with one more key. -/
def add (d : Document) (key : List String) (v : Toml) : Option Document := do
  let fields ← within (assign d.section_ v key) d.header d.fields
  return { d with fields }

end Document

/-- The document with the header at the front, and the rest. -/
def header? (d : Document) (cs : List Char) : Option (Document × List Char) :=
  match cs with
  | '[' :: '[' :: rest => do
    let (key, rest) ← key? (skipSpace rest)
    let d ← d.begin key addTable
    match rest with
    | ']' :: ']' :: rest => some (d, rest)
    | _ => none
  | '[' :: rest => do
    let (key, rest) ← key? (skipSpace rest)
    let d ← d.begin key openTable
    match rest with
    | ']' :: rest => some (d, rest)
    | _ => none
  | _ => none

/-- The document with the statement at the front, and the rest. -/
def statement (d : Document) (cs : List Char) : Except Unreadable (Document × List Char) :=
  match cs with
  | '[' :: _ => expect (header? d cs)
  | '#' :: _ => .ok (d, cs)
  | _ => do
    let (key, v, rest) ← pair (cs.length + 2) maxNesting cs
    return (← expect (d.add key v), rest)

/-- The document with all lines of a text.  Every line takes one unit of fuel. -/
def lines : Nat → Document → List Char → Except Unreadable Document
  | 0, _, _ => .error .malformed
  | fuel + 1, d, cs =>
    match skipSpace cs with
    | [] => .ok d
    | '\n' :: rest => lines fuel d rest
    | cs =>
      match statement d cs with
      | .error e => .error e
      | .ok (d, rest) =>
        match skipComment? (skipSpace rest) with
        | none => .error .malformed
        | some [] => .ok d
        | some ('\n' :: rest) => lines fuel d rest
        | some _ => .error .malformed

end Reader

/-- The fields of a document. -/
def read (s : String) : Except Unreadable Fields :=
  let cs := Reader.unixLines s.toList
  (Reader.lines (cs.length + 1) .empty cs).map (·.fields)

/-- The fields of a document in bytes. -/
def ofBytes (bytes : ByteArray) : Except Unreadable Fields :=
  match Text.ofUtf8? bytes with
  | some s => read s
  | none => .error .malformed

end CodeAtlas.Toml
