import CodeAtlas.Text.CodePage
/-!
  Encodings by name.

  An encoding has names of its own and others by which it is also known.  Case does not matter in a name, nor
  which characters stand between its letters and digits; only a point is kept, and it may be replaced in the
  other names alone.
-/
namespace CodeAtlas.Text

/-- How an encoding makes characters of bytes. -/
inductive Charset.Kind where
  /-- every byte is a character, and the ones of ASCII are where ASCII has them -/
  | page (page : CodePage)
  /-- every byte is a character, but the ones of ASCII are elsewhere or there twice -/
  | foreign
  /-- a character may take several bytes -/
  | wide
  /-- no byte beyond ASCII can be taken by itself -/
  | asciiOnly
  /-- it has no way back to characters -/
  | unusable

/-- An encoding. -/
structure Charset where
  /-- its own names -/
  names : List String
  /-- other names for it -/
  aliases : List String := []
  kind : Charset.Kind

namespace Charset

/-- Letters, digits and points, with one underscore between the parts where other characters separate them. -/
def keyFrom (separated : Bool) (acc : List Char) : List Char → List Char
  | [] => acc.reverse
  | c :: rest =>
    if c.isAlphanum || c == '.' then
      keyFrom false (c.toLower :: (if separated && !acc.isEmpty then '_' :: acc else acc)) rest
    else keyFrom true acc rest

/-- A name in the form in which names are compared. -/
def key (name : String) : String := String.ofList (keyFrom false [] name.toList)

/-- The key with underscores for its points. -/
def pointless (key : String) : String :=
  String.ofList (key.toList.map fun c => if c == '.' then '_' else c)

/-- Whether an encoding is known by the name with a key. -/
def isNamed (c : Charset) (key : String) : Bool :=
  c.names.contains key || c.aliases.contains key || c.aliases.contains (pointless key)

example : key "Windows-1251" = "windows_1251" ∧ key "latin--1-" = "latin_1" := by decide +kernel

end Charset

end CodeAtlas.Text
