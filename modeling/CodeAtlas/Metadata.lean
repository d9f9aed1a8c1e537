import CodeAtlas.Json.Access
/-!
  Free-form data on nodes, symbols and graphs: fields with keys of any kind, in the order of insertion.
-/
namespace CodeAtlas

/-- Named data of any shape. -/
structure Metadata where
  fields : List (Json.Key × Json)
deriving Repr, DecidableEq, Inhabited

namespace Metadata

/-- No data. -/
def empty : Metadata := ⟨[]⟩

/-- The value under a name. -/
def get? (m : Metadata) (name : String) : Option Json := Json.lookup (.str name) m.fields

theorem get?_empty (name : String) : empty.get? name = none := rfl

/-- Gives a name a value; a name that is there keeps its position. -/
def set (m : Metadata) (name : String) (value : Json) : Metadata :=
  ⟨Json.putField (.str name) value m.fields⟩

theorem get?_set (m : Metadata) (name other : String) (value : Json) :
    (m.set name value).get? other = if name = other then some value else m.get? other := by
  rw [get?, set, Json.lookup_putField]
  simp [Json.Key.code, get?]

/-- Gives a name a value unless it has one. -/
def setNew (m : Metadata) (name : String) (value : Json) : Metadata :=
  if (m.get? name).isSome then m else m.set name value

/-- Gives a name a value when a condition holds. -/
def setIf (m : Metadata) (condition : Bool) (name : String) (value : Json) : Metadata :=
  if condition then m.set name value else m

/-- The fields of the second written over those of the first. -/
def update (m other : Metadata) : Metadata :=
  ⟨other.fields.foldl (fun acc (k, v) => Json.putField k v acc) m.fields⟩

theorem get?_setIf (m : Metadata) (condition : Bool) (name other : String) (value : Json) :
    (m.setIf condition name value).get? other =
      if condition = true ∧ name = other then some value else m.get? other := by
  cases condition with
  | false => simp [setIf]
  | true => simp [setIf, get?_set]

/-- A name that the second does not have keeps the value of the first. -/
theorem get?_update_of_eq_none {m other : Metadata} {name : String} (h : other.get? name = none) :
    (m.update other).get? name = m.get? name := by
  obtain ⟨others⟩ := other
  obtain ⟨fields⟩ := m
  show Json.lookup _ (others.foldl _ fields) = Json.lookup _ fields
  have hnone : Json.lookup (.str name) others = none := h
  clear h
  induction others generalizing fields with
  | nil => rfl
  | cons field rest ih =>
    obtain ⟨k, v⟩ := field
    rw [Json.lookup] at hnone
    split at hnone
    · cases hnone
    · next hk => rw [List.foldl_cons, ih _ hnone, Json.lookup_putField, if_neg hk]

/-- The data with the given names. -/
def ofList (fields : List (String × Json)) : Metadata :=
  fields.foldl (fun m (name, value) => m.set name value) empty

/-- The data as an object. -/
def toJson (m : Metadata) : Json := .obj m.fields

/-- The data of a field that holds an object, or a list of pairs, or nothing. -/
def ofField (name : String) (v : Json) : Except Fault Metadata :=
  (v.fieldsField name).map Metadata.mk

end Metadata

end CodeAtlas
