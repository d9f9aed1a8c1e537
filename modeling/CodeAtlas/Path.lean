import CodeAtlas.Text.Pieces
/-!
  Paths as texts of components, without a file system behind them.

  A path is an anchor, which is empty for a relative path, and its components.  Repeated slashes, single
  dots and a slash at the end mean nothing and are gone; two dots stay.  Exactly two slashes at the start
  are an anchor of their own.
-/
namespace CodeAtlas

/-- A path. -/
structure Path where
  anchor : String
  parts : List String
deriving Repr, DecidableEq, Inhabited

namespace Path

/-- The anchor that a number of slashes at the start stands for. -/
def anchorOf : Nat → String
  | 0 => ""
  | 2 => "//"
  | _ => "/"

/-- The path that a text stands for. -/
def ofString (s : String) : Path :=
  let slashes := (s.toList.takeWhile (· = '/')).length
  { anchor := anchorOf slashes
    parts := (Text.split '/' s).filter fun p => p ≠ "" && p ≠ "." }

/-- The text of a path; a path without anything is a single dot. -/
def text (p : Path) : String :=
  let s := p.anchor ++ Text.join "/" p.parts
  if s = "" then "." else s

theorem text_ne_empty (p : Path) : p.text ≠ "" := by
  unfold text
  simp only
  split
  · decide
  · assumption

/-- The path at the end of another one; a path with an anchor stands for itself. -/
def join (p q : Path) : Path :=
  if q.anchor ≠ "" then q else { p with parts := p.parts ++ q.parts }

/-- One more component at the end. -/
def child (p : Path) (name : String) : Path := { p with parts := p.parts ++ [name] }

/-- The last component, or nothing. -/
def name (p : Path) : String := p.parts.getLast?.getD ""

/-- The path without its last component. -/
def parent (p : Path) : Path := { p with parts := p.parts.dropLast }

@[simp] theorem name_child (p : Path) (name : String) : (p.child name).name = name := by
  show (p.parts ++ [name]).getLast?.getD "" = name
  rw [List.getLast?_concat]
  rfl

@[simp] theorem parent_child (p : Path) (name : String) : (p.child name).parent = p := by
  show { p with parts := (p.parts ++ [name]).dropLast } = p
  rw [List.dropLast_concat]

/-- A name cut at its last dot, unless the dot is at one of its ends. -/
def stemAndSuffix (name : String) : String × String :=
  match Text.cutLast? '.' name with
  | some (stem, suffix) => if stem = "" || suffix = "" then (name, "") else (stem, "." ++ suffix)
  | none => (name, "")

/-- The last component without its suffix. -/
def stem (p : Path) : String := (stemAndSuffix p.name).1

/-- The part of the last component from its last dot on. -/
def suffix (p : Path) : String := (stemAndSuffix p.name).2

/-- The rest of a path below another one. -/
def below? (p root : Path) : Option Path :=
  if root.anchor = "" && root.parts = [] then
    if p.anchor = "" then some p else none
  else if p.anchor = root.anchor && root.parts.isPrefixOf p.parts then
    some { anchor := "", parts := p.parts.drop root.parts.length }
  else none

/-- The components after two dots have taken back the ones before them, onto reversed ones.  Where nothing is
    left to take back, two dots stay in a relative path and mean nothing at the top. -/
def normalizeOnto (absolute : Bool) (done : List String) : List String → List String
  | [] => done.reverse
  | ".." :: rest =>
    match done with
    | [] => normalizeOnto absolute (if absolute then [] else [".."]) rest
    | ".." :: _ => normalizeOnto absolute (".." :: done) rest
    | _ :: up => normalizeOnto absolute up rest
  | part :: rest => normalizeOnto absolute (part :: done) rest

/-- A path in which two dots occur at most at the start of a relative one. -/
def normalize (p : Path) : Path := { p with parts := normalizeOnto (p.anchor ≠ "") [] p.parts }

/-- Components up to the first null character.  Some releases of the function that normalizes paths take such a
    character for the end of the text, and this is what is kept here; the releases before and after them keep all of
    it.  No path of a file has one. -/
def untilNull : List String → List String
  | [] => []
  | part :: rest => if part.contains '\x00' then [Text.beforeFirst '\x00' part] else part :: untilNull rest

/-- Components without null characters are kept. -/
theorem untilNull_eq_self {parts : List String} (h : ∀ p ∈ parts, p.contains '\x00' = false) :
    untilNull parts = parts := by
  induction parts with
  | nil => rfl
  | cons p rest ih =>
    rw [untilNull, h p (by simp), if_neg Bool.false_ne_true, ih fun q hq => h q (by simp [hq])]

/-- A path from the top, without two dots.  A relative path starts at the top. -/
def absolute (p : Path) : Path := normalize { p with anchor := if p.anchor = "" then "/" else p.anchor }

example : (ofString "/a//b/./c/").text = "/a/b/c" ∧ (ofString "").text = "." := by decide +kernel
example : ((ofString "/a/b").join (ofString "../c.py")).text = "/a/b/../c.py" := by decide +kernel
example : (ofString "a/../../b/./..").normalize.text = ".." := by decide +kernel
example : (ofString "/a/.x").suffix = "" ∧ (ofString "a/x.d.ts").suffix = ".ts" := by decide +kernel

end Path

end CodeAtlas
