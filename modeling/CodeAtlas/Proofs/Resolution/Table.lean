import CodeAtlas.Proofs.Outcome
import CodeAtlas.SymbolTable
/-!
  What holds of every symbol table.

  Two things happen to a table: a declaration is added, and a symbol is replaced by itself with more relations or
  data.  Neither of them breaks `Sound`: the symbols stand under their own identifiers, each identifier once, and
  the indices lead to identifiers that are there.  So whatever was found in an index can be looked up.

  `Holds` adds a property of single symbols to this, and `Added` says what a step of the making of symbols gives: such a
  table again, in which everything that was there is still there.  The phases need different properties, but each of
  them is kept in the same two ways (`Holds.add`, `Holds.replace`).

  Nothing is said here about different declarations with one identifier.
-/
namespace CodeAtlas.SymbolTable

variable {t : SymbolTable}

/-! ## Looking up after a declaration was put in -/

/-- The new symbol stands under its identifier, and it may have pushed out another one. -/
theorem get?_register (t : SymbolTable) (e : Entry) (s : Symbol) (id : String) :
    (t.register e s).symbols.get? id = if s.id = id then some s else t.symbols.get? id :=
  OrderedMap.get?_insert t.symbols s.id id s

theorem contains_register (t : SymbolTable) (e : Entry) (s : Symbol) (id : String) :
    (t.register e s).symbols.contains id = (decide (s.id = id) || t.symbols.contains id) :=
  OrderedMap.contains_insert t.symbols s.id id s

/-- The file and the qualified name of a declaration lead to its own symbol, whoever had them before. -/
theorem record?_register (t : SymbolTable) (e : Entry) (s : Symbol) (file qualified : String) :
    (t.register e s).record? file qualified =
      if (e.file, e.qualified) = (file, qualified) then some s.id else t.record? file qualified :=
  OrderedMap.get?_insert t.byRecord (e.file, e.qualified) (file, qualified) s.id

/-- The qualified name alone leads to whoever had it first. -/
theorem lookup?_register (t : SymbolTable) (e : Entry) (s : Symbol) (name : String) :
    (t.register e s).lookup? name =
      if e.qualified = name then some ((t.lookup? e.qualified).getD s.id) else t.lookup? name :=
  OrderedMap.get?_insertNew t.byQualified e.qualified name s.id

/-- Asking for a symbol is looking it up. -/
theorem symbol_eq_ok_iff {id : String} {s : Symbol} : t.symbol id = .ok s ↔ t.symbols.get? id = some s := by
  rw [symbol]
  cases t.symbols.get? id <;> simp

/-- An identifier that is there has a symbol. -/
theorem exists_symbol {id : String} (h : t.symbols.contains id = true) :
    ∃ s, t.symbols.get? id = some s ∧ t.symbol id = .ok s := by
  obtain ⟨s, hs⟩ := Option.isSome_iff_exists.1 h
  exact ⟨s, hs, symbol_eq_ok_iff.2 hs⟩

/-! ## Sound tables -/

/-- The identifiers are those of the symbols, and the indices know no others. -/
structure Sound (t : SymbolTable) : Prop where
  /-- no identifier is there twice -/
  distinct : t.symbols.keys.Nodup
  /-- a symbol stands under its own identifier -/
  keyed : ∀ id s, t.symbols.get? id = some s → s.id = id
  /-- declarations have symbols -/
  records : ∀ file qualified id, t.record? file qualified = some id → t.symbols.contains id = true
  /-- and so have qualified names -/
  qualified : ∀ name id, t.lookup? name = some id → t.symbols.contains id = true

/-- In an empty table there is nothing that could be wrong. -/
theorem sound_empty (root : Path) (language : String) : (empty root language).Sound :=
  { distinct := List.nodup_nil
    keyed := fun _ _ h => nomatch h
    records := fun _ _ _ h => nomatch h
    qualified := fun _ _ h => nomatch h }

/-- A declaration that is put in leaves a sound table, also where it takes the place of another symbol. -/
theorem Sound.register (h : t.Sound) (e : Entry) (s : Symbol) : (t.register e s).Sound where
  distinct := OrderedMap.nodup_keys_insert t.symbols s.id s h.distinct
  keyed id s' hs' := by
    rw [get?_register] at hs'
    split at hs'
    · next hid => cases hs'; exact hid
    · exact h.keyed id s' hs'
  records file qualified id hid := by
    rw [contains_register]
    rw [record?_register] at hid
    split at hid
    · cases hid; simp
    · simp [h.records file qualified id hid]
  qualified name id hid := by
    rw [contains_register]
    rw [lookup?_register] at hid
    split at hid
    · cases hq : t.lookup? e.qualified with
      | none => rw [hq] at hid; cases hid; simp
      | some id' => rw [hq] at hid; cases hid; simp [h.qualified e.qualified id' hq]
    · simp [h.qualified name id hid]

/-- A symbol may be replaced by one with its identifier. -/
theorem Sound.replace (h : t.Sound) {id : String} {s : Symbol} (hs : s.id = id) :
    { t with symbols := t.symbols.insert id s }.Sound where
  distinct := OrderedMap.nodup_keys_insert t.symbols id s h.distinct
  keyed id' s' hs' := by
    rw [OrderedMap.get?_insert] at hs'
    split at hs'
    · next heq => cases hs'; exact hs.trans heq
    · exact h.keyed id' s' hs'
  records file qualified id' hid' := by
    rw [OrderedMap.contains_insert, h.records file qualified id' hid', Bool.or_true]
  qualified name id' hid' := by
    rw [OrderedMap.contains_insert, h.qualified name id' hid', Bool.or_true]

/-- **Adding never fails.**  A declaration that is there already gives its symbol, and another one is put in. -/
theorem Sound.add_cases (h : t.Sound) (e : Entry) :
    (∃ id s, t.record? e.file e.qualified = some id ∧ t.symbols.get? id = some s ∧ t.add e = .ok (s, t)) ∨
    (t.record? e.file e.qualified = none ∧ t.add e = .ok (t.symbolOf e, t.register e (t.symbolOf e))) := by
  unfold add
  cases hr : t.record? e.file e.qualified with
  | none => exact .inr ⟨rfl, rfl⟩
  | some id =>
    obtain ⟨s, hs, hok⟩ := exists_symbol (h.records _ _ _ hr)
    refine .inl ⟨id, s, rfl, hs, ?_⟩
    simp only [hok]
    rfl

/-- The values of a sound table are what its identifiers lead to. -/
theorem Sound.mem_values_iff (h : t.Sound) (s : Symbol) :
    s ∈ t.symbols.values ↔ t.symbols.get? s.id = some s := by
  rw [OrderedMap.mem_values_iff t.symbols h.distinct]
  constructor
  · rintro ⟨id, hid⟩
    rwa [h.keyed id s hid]
  · exact fun hs => ⟨s.id, hs⟩

/-- The symbols have the identifiers under which they stand, in the same order. -/
theorem Sound.map_id_values (h : t.Sound) : t.symbols.values.map (·.id) = t.symbols.keys := by
  show (t.symbols.entries.map (·.2)).map (·.id) = t.symbols.entries.map (·.1)
  rw [List.map_map]
  refine List.map_congr_left fun e he => ?_
  exact h.keyed e.1 e.2 (t.symbols.get?_of_mem_entries h.distinct he)

/-! ## Tables of symbols with a property -/

/-- A sound table, all of whose symbols have a property. -/
structure Holds (p : Symbol → Prop) (t : SymbolTable) : Prop where
  sound : t.Sound
  symbols : ∀ id s, t.symbols.get? id = some s → p s

/-- Identifiers that are there stay there. -/
def Grows (t t' : SymbolTable) : Prop :=
  ∀ id, t.symbols.contains id = true → t'.symbols.contains id = true

theorem Grows.refl (t : SymbolTable) : t.Grows t := fun _ h => h

theorem Grows.trans {t t' t'' : SymbolTable} (h : t.Grows t') (h' : t'.Grows t'') : t.Grows t'' :=
  fun id hid => h' id (h id hid)

variable {p : Symbol → Prop}

theorem holds_empty (root : Path) (language : String) : (empty root language).Holds p :=
  ⟨sound_empty root language, fun _ _ h => nomatch h⟩

theorem Holds.imp {q : Symbol → Prop} (h : t.Holds p) (himp : ∀ s, p s → q s) : t.Holds q :=
  ⟨h.sound, fun id s hs => himp s (h.symbols id s hs)⟩

/-- What a step gives that adds a symbol. -/
def Added (p : Symbol → Prop) (t : SymbolTable) (r : Symbol × SymbolTable) : Prop :=
  r.2.Holds p ∧ t.Grows r.2 ∧ r.2.symbols.contains r.1.id = true

/-- To add a declaration, its own symbol needs the property.  One that is known already adds no symbol. -/
theorem Holds.add (h : t.Holds p) (e : Entry) (he : p (t.symbolOf e)) : Fault.Succeeds (t.add e) (Added p t) := by
  rcases h.sound.add_cases e with ⟨id, s, _, hs, hadd⟩ | ⟨_, hadd⟩ <;> rw [hadd]
  · refine Fault.ends_ok ⟨h, Grows.refl t, ?_⟩
    show t.symbols.contains s.id = true
    rw [h.sound.keyed id s hs]
    exact OrderedMap.contains_of_get? hs
  · refine Fault.ends_ok ⟨⟨h.sound.register e _, fun id s hs => ?_⟩, fun id hid => ?_, ?_⟩
    · rw [get?_register] at hs
      split at hs
      · cases hs; exact he
      · exact h.symbols id s hs
    · rw [contains_register, hid, Bool.or_true]
    · rw [contains_register, decide_eq_true rfl, Bool.true_or]

/-- A symbol may be replaced by another one with its identifier, if this one has the property. -/
theorem Holds.replace (h : t.Holds p) {id : String} {s : Symbol} (hid : s.id = id) (hs : p s) :
    { t with symbols := t.symbols.insert id s }.Holds p := by
  refine ⟨h.sound.replace hid, fun id' s' hs' => ?_⟩
  rw [OrderedMap.get?_insert] at hs'
  split at hs'
  · cases hs'; exact hs
  · exact h.symbols id' s' hs'

end CodeAtlas.SymbolTable
