import CodeAtlas.Number.Double
import CodeAtlas.OrderedMap
import CodeAtlas.Toml.Moment
/-!
  The data of a TOML document.

  A table knows in which way it came about, because that decides what may still be added to it:

    * a table that only stands on the way to another one is `implicit` and may be opened later;
    * one that dotted keys have made or reached is open to the other keys of its section only;
    * one with a header of its own is `explicit` and gets its keys from that section;
    * one in braces is `closed`.

  A list of tables that grows with each of its headers is `tables`, the newest table first.
-/
namespace CodeAtlas

/-- How a table came about. -/
inductive Toml.Origin where
  | implicit
  | dotted (section_ : Nat)
  | explicit
  | closed
deriving Repr, DecidableEq, Inhabited

/-- A TOML value. -/
inductive Toml where
  | text (s : String)
  | integer (n : Int)
  | float (x : Double)
  | truth (b : Bool)
  | moment (m : Toml.Moment)
  | array (items : List Toml)
  | table (origin : Toml.Origin) (fields : List (String × Toml))
  | tables (newestFirst : List Toml)
deriving Repr, Inhabited

namespace Toml

/-- The fields of a table. -/
abbrev Fields := List (String × Toml)

mutual

/-- How many lists and tables are inside of each other. -/
def depth : Toml → Nat
  | array items => depthOfItems items + 1
  | table _ fields => depthOfFields fields + 1
  | tables newestFirst => depthOfItems newestFirst + 1
  | _ => 0

/-- The greatest depth of some items. -/
def depthOfItems : List Toml → Nat
  | [] => 0
  | v :: rest => max (depth v) (depthOfItems rest)

/-- The greatest depth of the values of some fields. -/
def depthOfFields : List (String × Toml) → Nat
  | [] => 0
  | (_, v) :: rest => max (depth v) (depthOfFields rest)

end

/-- The fields of a value that is a table. -/
def fields? : Toml → Option Fields
  | table _ fields => some fields
  | _ => none

/-- Empty values count as absent: false, zero, and the empty text, list and table. -/
def isEmpty : Toml → Bool
  | text s => s.isEmpty
  | integer n => n == 0
  | float x => x.isZero
  | truth b => !b
  | moment _ => false
  | array items => items.isEmpty
  | table _ fields => fields.isEmpty
  | tables newestFirst => newestFirst.isEmpty

/-- The value under a name. -/
def get? (name : String) (fields : Fields) : Option Toml := OrderedMap.lookup name fields

/-! ## Building a document -/

/-- Changes the fields of the table that some names lead to; in a list of tables the newest one counts.
    Missing tables on the way are made. -/
def within (change : Fields → Option Fields) : List String → Fields → Option Fields
  | [], fields => change fields
  | name :: rest, fields =>
    match OrderedMap.lookup name fields with
    | none =>
      (within change rest []).map fun inner => OrderedMap.put name (table .implicit inner) fields
    | some (table .closed _) => none
    | some (table origin inner) =>
      (within change rest inner).map fun inner => OrderedMap.put name (table origin inner) fields
    | some (tables (table origin inner :: earlier)) =>
      (within change rest inner).map fun inner =>
        OrderedMap.put name (tables (table origin inner :: earlier)) fields
    | some _ => none

/-- Opens a table under a header; a table can be opened once. -/
def openTable (name : String) (fields : Fields) : Option Fields :=
  match OrderedMap.lookup name fields with
  | none => some (OrderedMap.put name (table .explicit []) fields)
  | some (table .implicit inner) => some (OrderedMap.put name (table .explicit inner) fields)
  | some _ => none

/-- Adds a table to a list of tables. -/
def addTable (name : String) (fields : Fields) : Option Fields :=
  match OrderedMap.lookup name fields with
  | none => some (OrderedMap.put name (tables [table .explicit []]) fields)
  | some (tables items) => some (OrderedMap.put name (tables (table .explicit [] :: items)) fields)
  | some _ => none

/-- Gives a dotted key a value.  The tables on the way must be open to the keys of the section. -/
def assign (section_ : Nat) (value : Toml) : List String → Fields → Option Fields
  | [], _ => none
  | [name], fields =>
    if (OrderedMap.lookup name fields).isSome then none else some (OrderedMap.put name value fields)
  | name :: rest, fields =>
    let inner? : Option Fields := match OrderedMap.lookup name fields with
      | none => some []
      | some (table .implicit inner) => some inner
      | some (table (.dotted n) inner) => if n = section_ then some inner else none
      | some _ => none
    match inner? with
    | none => none
    | some inner =>
      (assign section_ value rest inner).map fun inner =>
        OrderedMap.put name (table (.dotted section_) inner) fields

end Toml

end CodeAtlas
