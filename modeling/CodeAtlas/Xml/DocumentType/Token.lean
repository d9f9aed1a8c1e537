import CodeAtlas.Xml.Lexeme
/-!
  The tokens of declarations.

  White space separates tokens, and a token says itself before what it may stand.  A declaration is the list of
  the tokens up to its closing bracket, so that its grammar is a matter of lists.
-/
namespace CodeAtlas.Xml.DocumentType

/-- A token. -/
inductive Token where
  /-- a name without a colon -/
  | name (s : String)
  /-- a name with a scope -/
  | qualified (w : Written)
  /-- a name with a mark for how often it may occur -/
  | counted
  /-- characters of names that make no name -/
  | word
  /-- a word behind a number sign -/
  | keyword (s : String)
  /-- a text in quotes -/
  | literal (cs : List Char)
  | percent
  | openGroup
  /-- the end of a group, with a mark for how often it may occur -/
  | closeGroup (mark : Option Char)
  | bar
  | comma
  /-- the start of the declarations in a document type -/
  | openSubset
  /-- the end of a declaration -/
  | close
deriving Repr, DecidableEq, Inhabited

namespace Token

open Lexeme

/-- Marks for how often something may occur. -/
def isMark (c : Char) : Bool := c == '?' || c == '*' || c == '+'

/-- Whether white space or one of some characters stands in front. -/
def isFollowedBy (others : List Char) (cs : List Char) : Bool :=
  (cs.head?.map fun c => isSpace c || others.contains c).getD false

/-- The rest, when white space or one of some characters stands in front of it. -/
def before? (others : List Char) (token : Token) (rest : List Char) : Option (Token × List Char) :=
  if isFollowedBy others rest then some (token, rest) else none

/-- Characters of names, in names with a scope and without one, and of other words. -/
def isWordChar (a : Alphabet) (c : Char) : Bool := a.isNameChar c || c == ':'

/-- The token that some characters of names are. -/
def ofWord (a : Alphabet) (cs : List Char) : Token :=
  let first := cs.takeWhile (· != ':')
  let second := cs.drop (first.length + 1)
  if !(cs.head?.map a.isNameStart).getD false then word
  else if first.length = cs.length then name (String.ofList cs)
  else if second.isEmpty || second.contains ':' then word
  else qualified ⟨String.ofList first, String.ofList second⟩

/-- A token in front, when it starts with a character of names. -/
def word? (a : Alphabet) (cs : List Char) : Option (Token × List Char) :=
  let token := ofWord a (cs.takeWhile (isWordChar a))
  match cs.dropWhile (isWordChar a) with
  | c :: rest =>
    if isMark c then (if token = word then none else some (counted, rest))
    else before? ['>', ')', ',', '|', '['] token (c :: rest)
  | [] => none

/-- A token in front. -/
def read? (a : Alphabet) (cs : List Char) : Option (Token × List Char) :=
  match cs with
  | '(' :: rest => some (openGroup, rest)
  | ')' :: c :: rest =>
    if isMark c then some (closeGroup (some c), rest) else before? ['>', ')', ',', '|'] (closeGroup none) (c :: rest)
  | '|' :: rest => some (bar, rest)
  | ',' :: rest => some (comma, rest)
  | '[' :: rest => some (openSubset, rest)
  | '>' :: rest => some (close, rest)
  | '%' :: rest => before? [] percent rest
  | '#' :: rest => do
    let (s, rest) ← simpleName? a rest
    before? ['>', ')', '|'] (keyword s) rest
  | c :: _ =>
    if c == '"' || c == '\'' then do
      let (s, rest) ← quoted? cs
      before? ['>', '['] (literal s) rest
    else if isWordChar a c then word? a cs
    else none
  | [] => none

/-- The tokens up to the end of a declaration or to the start of others inside of it, after the ones before
    (reversed), with the token that ends them.  Each takes one unit of fuel, so that the length of the text is
    enough. -/
def readOnto? (a : Alphabet) : Nat → List Token → List Char → Option (List Token × Token × List Char)
  | 0, _, _ => none
  | fuel + 1, acc, cs =>
    match read? a (skipSpace cs) with
    | none => none
    | some (token, rest) =>
      if token = close || token = openSubset then some (acc.reverse, token, rest)
      else readOnto? a fuel (token :: acc) rest

/-- The name that a token is, with a scope or without one. -/
def written? : Token → Option Written
  | name s => some ⟨"", s⟩
  | qualified w => some w
  | _ => none

example : readOnto? .standard 9 [] " a (b:c | d?)* '>' >".toList
    = some ([name "a", openGroup, qualified ⟨"b", "c"⟩, bar, counted, closeGroup (some '*'), literal ['>']], close, [])
    := by decide +kernel
example : readOnto? .standard 9 [] "a(b)>".toList = none ∧ readOnto? .standard 9 [] "1:a >".toList = some ([word], close, []) := by
  decide +kernel

end Token

end CodeAtlas.Xml.DocumentType
