/-!
  Maps that remember the order of insertion.

  Nodes, symbols, bindings and object fields are all looked up by key and written out in the order in
  which they came.  A map is the list of its entries.  Its view is `get?`: every operation below is pinned
  down by what it does to `get?` and to the list of keys.

    * `insert` overwrites in place: a key that is there keeps its position;
    * `insertNew` keeps the first value of a key;
    * `erase` drops a key.
-/
namespace CodeAtlas

/-- A finite map with its entries in the order of insertion. -/
structure OrderedMap (α : Type) (β : Type) where
  entries : List (α × β)
deriving Repr, DecidableEq, Inhabited

namespace OrderedMap

variable {α β : Type} [DecidableEq α]

/-- The map without entries. -/
def empty : OrderedMap α β := ⟨[]⟩

/-- The keys in the order of insertion. -/
def keys (m : OrderedMap α β) : List α := m.entries.map (·.1)

/-- The values in the order of insertion. -/
def values (m : OrderedMap α β) : List β := m.entries.map (·.2)

/-- The value of a key in a list of entries. -/
def lookup (key : α) : List (α × β) → Option β
  | [] => none
  | (k, v) :: rest => if k = key then some v else lookup key rest

/-- Gives a key a value: in place when the key is there, else at the end. -/
def put (key : α) (value : β) : List (α × β) → List (α × β)
  | [] => [(key, value)]
  | (k, v) :: rest => if k = key then (k, value) :: rest else (k, v) :: put key value rest

/-- The value of a key. -/
def get? (m : OrderedMap α β) (key : α) : Option β := lookup key m.entries

/-- Whether a key has a value. -/
def contains (m : OrderedMap α β) (key : α) : Bool := (m.get? key).isSome

/-- Gives a key a value; a key that is there keeps its position. -/
def insert (m : OrderedMap α β) (key : α) (value : β) : OrderedMap α β :=
  ⟨put key value m.entries⟩

/-- Gives some keys one value. -/
def insertAll (m : OrderedMap α β) (keys : List α) (value : β) : OrderedMap α β :=
  keys.foldl (fun m key => m.insert key value) m

/-- Gives a key a value unless it has one. -/
def insertNew (m : OrderedMap α β) (key : α) (value : β) : OrderedMap α β :=
  if m.contains key then m else ⟨m.entries ++ [(key, value)]⟩

/-- Drops a key. -/
def erase (m : OrderedMap α β) (key : α) : OrderedMap α β :=
  ⟨m.entries.filter fun e => e.1 ≠ key⟩

/-- The entries of the second map written over those of the first. -/
def update (m : OrderedMap α β) (other : OrderedMap α β) : OrderedMap α β :=
  other.entries.foldl (fun acc (k, v) => acc.insert k v) m

/-- The map of a list of entries; of equal keys the last value wins at the first position. -/
def ofList (entries : List (α × β)) : OrderedMap α β :=
  entries.foldl (fun acc (k, v) => acc.insert k v) empty

theorem lookup_put (key k : α) (value : β) (entries : List (α × β)) :
    lookup k (put key value entries) = if key = k then some value else lookup k entries := by
  induction entries with
  | nil => rfl
  | cons e rest ih =>
    obtain ⟨k', v'⟩ := e
    by_cases h : k' = key
    · subst h; by_cases hk : k' = k <;> simp [put, lookup, hk]
    · by_cases hk : k' = k
      · subst hk; simp [put, lookup, h, Ne.symm h]
      · simp [put, lookup, h, hk, ih]

/-- A key has the value that was inserted last. -/
theorem get?_insert (m : OrderedMap α β) (key k : α) (value : β) :
    (m.insert key value).get? k = if key = k then some value else m.get? k :=
  lookup_put key k value m.entries

/-- A key is there exactly if it is among the keys. -/
theorem lookup_isSome_iff (key : α) (entries : List (α × β)) :
    (lookup key entries).isSome ↔ key ∈ entries.map (·.1) := by
  induction entries with
  | nil => simp [lookup]
  | cons e rest ih =>
    obtain ⟨k', v'⟩ := e
    by_cases h : k' = key
    · simp [lookup, h]
    · simp [lookup, h, ih, Ne.symm h]

theorem contains_of_get? {m : OrderedMap α β} {key : α} {value : β} (h : m.get? key = some value) :
    m.contains key = true :=
  Option.isSome_of_mem h

theorem contains_iff (m : OrderedMap α β) (key : α) : m.contains key = true ↔ key ∈ m.keys :=
  lookup_isSome_iff key m.entries

/-- What is looked up stands in an entry. -/
theorem mem_entries_of_lookup {key : α} {value : β} {entries : List (α × β)}
    (h : lookup key entries = some value) : (key, value) ∈ entries := by
  induction entries with
  | nil => nomatch h
  | cons e rest ih =>
    obtain ⟨k, v⟩ := e
    rw [lookup] at h
    split at h
    · next hk => cases h; exact hk ▸ List.mem_cons_self
    · exact List.mem_cons_of_mem _ (ih h)

/-- Some keys have the value that was given to all of them. -/
theorem get?_insertAll (m : OrderedMap α β) (keys : List α) (value : β) (k : α) :
    (m.insertAll keys value).get? k = if k ∈ keys then some value else m.get? k := by
  induction keys generalizing m with
  | nil => rfl
  | cons key rest ih =>
    have hstep : m.insertAll (key :: rest) value = (m.insert key value).insertAll rest value := rfl
    rw [hstep, ih, get?_insert]
    by_cases hk : k ∈ rest
    · simp [hk]
    · by_cases he : key = k
      · simp [he]
      · simp [hk, he, Ne.symm he]

/-- A key that is not there yet goes to the end. -/
theorem put_of_lookup_eq_none (key : α) (value : β) (entries : List (α × β))
    (h : lookup key entries = none) : put key value entries = entries ++ [(key, value)] := by
  induction entries with
  | nil => rfl
  | cons e rest ih =>
    obtain ⟨k, v⟩ := e
    by_cases hk : k = key
    · simp [lookup, hk] at h
    · simp only [lookup, hk, if_false] at h
      simp [put, hk, ih h]

/-- A key that is not there yet comes last; else no key moves. -/
theorem keys_put (key : α) (value : β) (entries : List (α × β)) :
    (put key value entries).map (·.1) =
      if key ∈ entries.map (·.1) then entries.map (·.1) else entries.map (·.1) ++ [key] := by
  induction entries with
  | nil => rfl
  | cons e rest ih =>
    obtain ⟨k, v⟩ := e
    by_cases h : k = key
    · simp [put, h]
    · by_cases hk : key ∈ rest.map (·.1)
      · simp only [put, if_neg h, List.map_cons, ih, if_pos hk, if_pos (List.mem_cons_of_mem k hk)]
      · have hk' : key ∉ k :: rest.map (·.1) := by simp only [List.mem_cons, not_or]; exact ⟨Ne.symm h, hk⟩
        simp only [put, if_neg h, List.map_cons, ih, if_neg hk, if_neg hk', List.cons_append]

theorem nodup_keys_insert (m : OrderedMap α β) (key : α) (value : β) (h : m.keys.Nodup) :
    (m.insert key value).keys.Nodup := by
  show ((put key value m.entries).map (·.1)).Nodup
  rw [keys_put]
  split
  · exact h
  · next hk => exact List.nodup_append.2 ⟨h, by simp, by rintro a ha b hb rfl; simp_all⟩

theorem nodup_keys_insertAll (m : OrderedMap α β) (keys : List α) (value : β) (h : m.keys.Nodup) :
    (m.insertAll keys value).keys.Nodup := by
  induction keys generalizing m with
  | nil => exact h
  | cons key rest ih => exact ih (m.insert key value) (nodup_keys_insert m key value h)

theorem contains_insert (m : OrderedMap α β) (key k : α) (value : β) :
    (m.insert key value).contains k = (decide (key = k) || m.contains k) := by
  rw [contains, get?_insert]
  by_cases h : key = k <;> simp [h, contains]

/-- Overwriting a key moves no key. -/
theorem keys_insert_of_contains (m : OrderedMap α β) (key : α) (value : β) (h : m.contains key = true) :
    (m.insert key value).keys = m.keys := by
  show (put key value m.entries).map (·.1) = m.entries.map (·.1)
  rw [keys_put]
  exact if_pos ((contains_iff m key).1 h)

/-- A key has the value that was inserted for it first. -/
theorem get?_insertNew (m : OrderedMap α β) (key k : α) (value : β) :
    (m.insertNew key value).get? k = if key = k then some ((m.get? key).getD value) else m.get? k := by
  rw [insertNew]
  split
  · next h =>
    obtain ⟨v, hv⟩ := Option.isSome_iff_exists.1 h
    split
    · next hk => rw [← hk, hv, Option.getD_some]
    · rfl
  · next h =>
    have hnone : m.get? key = none := Option.not_isSome_iff_eq_none.1 h
    rw [← put_of_lookup_eq_none key value m.entries hnone, hnone, Option.getD_none]
    exact get?_insert m key k value

/-- A key that was dropped has no value. -/
theorem get?_erase (m : OrderedMap α β) (key k : α) :
    (m.erase key).get? k = if key = k then none else m.get? k := by
  obtain ⟨entries⟩ := m
  show lookup k (entries.filter fun e => e.1 ≠ key) = if key = k then none else lookup k entries
  induction entries with
  | nil => simp [lookup]
  | cons e rest ih =>
    obtain ⟨k', v'⟩ := e
    by_cases h : k' = key
    · rw [List.filter_cons_of_neg (by simp [h]), ih]
      by_cases hk : key = k <;> simp [lookup, h, hk]
    · rw [List.filter_cons_of_pos (by simp [h]), lookup, ih]
      by_cases hk : k' = k
      · simp [lookup, hk, Ne.symm (hk ▸ h)]
      · simp [lookup, hk]

/-- If no key repeats then every entry can be looked up. -/
theorem get?_of_mem_entries (m : OrderedMap α β) (h : m.keys.Nodup) {key : α} {value : β}
    (he : (key, value) ∈ m.entries) : m.get? key = some value := by
  obtain ⟨entries⟩ := m
  show lookup key entries = some value
  induction entries with
  | nil => exact absurd he List.not_mem_nil
  | cons e rest ih =>
    obtain ⟨k, v⟩ := e
    obtain ⟨hk, hrest⟩ := List.nodup_cons.1 h
    rcases List.mem_cons.1 he with heq | he
    · cases heq
      rw [lookup, if_pos rfl]
    · have hne : k ≠ key := by
        rintro rfl
        exact hk (List.mem_map.2 ⟨_, he, rfl⟩)
      rw [lookup, if_neg hne]
      exact ih hrest he

/-- So the values are what keys lead to. -/
theorem mem_values_iff (m : OrderedMap α β) (h : m.keys.Nodup) (value : β) :
    value ∈ m.values ↔ ∃ key, m.get? key = some value := by
  constructor
  · intro hvalue
    obtain ⟨⟨key, v⟩, he, rfl⟩ := List.mem_map.1 hvalue
    exact ⟨key, m.get?_of_mem_entries h he⟩
  · rintro ⟨key, hkey⟩
    exact List.mem_map.2 ⟨(key, value), mem_entries_of_lookup hkey, rfl⟩

/-- A table of a function has its value for every key that is listed. -/
theorem lookup_map (f : α → β) (key : α) (keys : List α) :
    lookup key (keys.map fun k => (k, f k)) = if key ∈ keys then some (f key) else none := by
  induction keys with
  | nil => rfl
  | cons k rest ih =>
    by_cases h : k = key
    · simp [lookup, h]
    · simp [lookup, h, ih, Ne.symm h]

end OrderedMap

end CodeAtlas
