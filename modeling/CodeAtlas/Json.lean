import CodeAtlas.Number.Double
/-!
  JSON values.

  Integers of any size and doubles are told apart, and the fields of an object keep their order.  An object
  that was read has each key once: a repeated key keeps its first position and its last value.

  The keys of every object that was read are texts.  An object made from a list of pairs may have any value
  without parts as a key; `Key.code` says when two keys are one: numbers count by their value, and the two
  truth values count as 0 and 1.
-/
namespace CodeAtlas

/-- A key of an object. -/
inductive Json.Key where
  | null
  | bool (b : Bool)
  | int (n : Int)
  | float (x : Double)
  | str (s : String)
deriving Repr, DecidableEq, Inhabited

namespace Json.Key

instance : Coe String Key := ⟨str⟩

/-- The representative of all the keys that are the same key. -/
def code : Key → Key
  | bool b => int (if b then 1 else 0)
  | float x =>
    match x.integer? with
    | some n => int n
    | none => float x
  | k => k

end Json.Key

/-- A JSON value. -/
inductive Json where
  | null
  | bool (b : Bool)
  | int (n : Int)
  | float (x : Double)
  | str (s : String)
  | arr (items : List Json)
  | obj (fields : List (Json.Key × Json))
deriving Repr, Inhabited

namespace Json

mutual

/-- Equality of values as a computation. -/
def same : Json → Json → Bool
  | null, null => true
  | bool a, bool b => a == b
  | int a, int b => a == b
  | float a, float b => a == b
  | str a, str b => a == b
  | arr a, arr b => sameItems a b
  | obj a, obj b => sameFields a b
  | _, _ => false

/-- Equality of lists of values. -/
def sameItems : List Json → List Json → Bool
  | [], [] => true
  | a :: as, b :: bs => same a b && sameItems as bs
  | _, _ => false

/-- Equality of lists of fields. -/
def sameFields : List (Key × Json) → List (Key × Json) → Bool
  | [], [] => true
  | (k, a) :: as, (l, b) :: bs => k == l && same a b && sameFields as bs
  | _, _ => false

end

mutual

theorem eq_of_same : (a b : Json) → same a b = true → a = b
  | null, b, h => by cases b <;> simp_all [same]
  | bool _, b, h => by cases b <;> simp_all [same]
  | int _, b, h => by cases b <;> simp_all [same]
  | float _, b, h => by cases b <;> simp_all [same]
  | str _, b, h => by cases b <;> simp_all [same]
  | arr as, b, h => by
    cases b <;> simp only [same, Bool.false_eq_true] at h
    rw [eq_of_sameItems as _ h]
  | obj as, b, h => by
    cases b <;> simp only [same, Bool.false_eq_true] at h
    rw [eq_of_sameFields as _ h]

theorem eq_of_sameItems : (as bs : List Json) → sameItems as bs = true → as = bs
  | [], bs, h => by cases bs <;> simp_all [sameItems]
  | a :: as, bs, h => by
    cases bs <;> simp only [sameItems, Bool.false_eq_true, Bool.and_eq_true] at h
    rw [eq_of_same a _ h.1, eq_of_sameItems as _ h.2]

theorem eq_of_sameFields : (as bs : List (Key × Json)) → sameFields as bs = true → as = bs
  | [], bs, h => by cases bs <;> simp_all [sameFields]
  | (k, a) :: as, bs, h => by
    cases bs with
    | nil => simp [sameFields] at h
    | cons b bs =>
      simp only [sameFields, Bool.and_eq_true, beq_iff_eq] at h
      rw [eq_of_same a _ h.1.2, eq_of_sameFields as _ h.2, h.1.1]

end

mutual

theorem same_refl : (a : Json) → same a a = true
  | null | bool _ | int _ | float _ | str _ => by simp [same]
  | arr as => by simp [same, sameItems_refl as]
  | obj as => by simp [same, sameFields_refl as]

theorem sameItems_refl : (as : List Json) → sameItems as as = true
  | [] => rfl
  | a :: as => by simp [sameItems, same_refl a, sameItems_refl as]

theorem sameFields_refl : (as : List (Key × Json)) → sameFields as as = true
  | [] => rfl
  | (_, a) :: as => by simp [sameFields, same_refl a, sameFields_refl as]

end

theorem same_iff (a b : Json) : same a b = true ↔ a = b :=
  ⟨eq_of_same a b, fun h => h ▸ same_refl a⟩

instance : DecidableEq Json := fun a b => decidable_of_iff _ (same_iff a b)

mutual

/-- How many lists and objects are inside of each other. -/
def depth : Json → Nat
  | arr items => depthOfItems items + 1
  | obj fields => depthOfFields fields + 1
  | _ => 0

/-- The greatest depth of some items. -/
def depthOfItems : List Json → Nat
  | [] => 0
  | v :: rest => max (depth v) (depthOfItems rest)

/-- The greatest depth of the values of some fields. -/
def depthOfFields : List (Key × Json) → Nat
  | [] => 0
  | (_, v) :: rest => max (depth v) (depthOfFields rest)

end

/-- How many lists and objects may be inside of each other, where a value is read, written or displayed. -/
def maxDepth : Nat := 985

/-- The value of a key in a list of fields. -/
def lookup (key : Key) : List (Key × Json) → Option Json
  | [] => none
  | (k, v) :: rest => if k.code = key.code then some v else lookup key rest

/-- The field of an object, when the value is one and has it. -/
def get? (name : Key) : Json → Option Json
  | obj fields => lookup name fields
  | _ => none

/-- Gives a key a value: in place when the key is there, else at the end. -/
def putField (key : Key) (value : Json) : List (Key × Json) → List (Key × Json)
  | [] => [(key, value)]
  | (k, v) :: rest =>
    if k.code = key.code then (k, value) :: rest else (k, v) :: putField key value rest

/-- A key has the value that it was given last. -/
theorem lookup_putField (key k : Key) (value : Json) (fields : List (Key × Json)) :
    lookup k (putField key value fields) = if key.code = k.code then some value else lookup k fields := by
  induction fields with
  | nil => rfl
  | cons field rest ih =>
    obtain ⟨k', v'⟩ := field
    by_cases h : k'.code = key.code
    · by_cases hk : key.code = k.code
      · simp [putField, lookup, h, hk]
      · simp [putField, lookup, h, hk]
    · by_cases hk : k'.code = k.code
      · have hne : key.code ≠ k.code := fun heq => h (hk.trans heq.symm)
        rw [putField, if_neg h, lookup, if_pos hk, if_neg hne, lookup, if_pos hk]
      · simp [putField, lookup, h, hk, ih]

/-- The value of a key. -/
def ofKey : Key → Json
  | .null => null
  | .bool b => bool b
  | .int n => int n
  | .float x => float x
  | .str s => str s

/-- The key that a value without parts is. -/
def key? : Json → Option Key
  | null => some .null
  | bool b => some (.bool b)
  | int n => some (.int n)
  | float x => some (.float x)
  | str s => some (.str s)
  | arr _ | obj _ => none

/-- Empty values count as absent: null, false, zero, and the empty text, list and object. -/
def isEmpty : Json → Bool
  | null => true
  | bool b => !b
  | int n => n == 0
  | float x => x.isZero
  | str s => s.isEmpty
  | arr items => items.isEmpty
  | obj fields => fields.isEmpty

/-- The value itself unless it is empty. -/
def nonEmpty? (v : Json) : Option Json := if v.isEmpty then none else some v

example : isEmpty (arr []) = true ∧ isEmpty (str "0") = false ∧ isEmpty (int 0) = true := by
  decide +kernel

end Json

end CodeAtlas
