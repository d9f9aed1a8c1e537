import CodeAtlas.Fault
import CodeAtlas.Toml.Reader
import Mathlib.Data.List.Nodup
/-!
  No table of a document has a name twice.

  So there is one value at most under a name, and it does not matter from which end a table is searched.  A table gets
  its names in three ways: by headers, by keys of a section and by keys in braces.  Each of them looks a name up before
  it is put in, and values with parts are made of values that were read before.

  1. **Values** (`Unambiguous`, `Clear`): a value is unambiguous if the tables in it are, at any depth, and fields are
     clear if their names differ and their values are unambiguous.
  2. **Putting in** (`Clear.put`, `Clear.within`, `Clear.assign`): each change of fields goes through one place, which
     puts a new name at the end or replaces the value of an old one.
  3. **Reading values** (`ReadsClear`): the four readers call each other, so what they keep is stated of all four
     together, and the induction is on the fuel they share.
  4. **Reading lines** (`clear_lines`): the fields of the whole document are the invariant.
-/
namespace CodeAtlas.Toml

open Fault

mutual

/-- No table has a name twice, and neither has a table inside of it. -/
def Unambiguous : Toml → Prop
  | array items => UnambiguousItems items
  | table _ fields => (fields.map (·.1)).Nodup ∧ UnambiguousFields fields
  | tables newestFirst => UnambiguousItems newestFirst
  | _ => True

/-- The same for all items of a list. -/
def UnambiguousItems : List Toml → Prop
  | [] => True
  | v :: rest => Unambiguous v ∧ UnambiguousItems rest

/-- The same for the values of all fields. -/
def UnambiguousFields : List (String × Toml) → Prop
  | [] => True
  | (_, v) :: rest => Unambiguous v ∧ UnambiguousFields rest

end

/-- The fields of a table in which no name is there twice, at any depth. -/
structure Clear (fields : Fields) : Prop where
  names : (fields.map (·.1)).Nodup
  values : ∀ field ∈ fields, Unambiguous field.2

variable {fields : Fields} {vs : List Toml} {origin : Origin} {name : String} {v : Toml}

theorem unambiguousItems_iff : UnambiguousItems vs ↔ ∀ v ∈ vs, Unambiguous v := by
  induction vs with
  | nil => exact iff_of_true trivial fun _ h => nomatch h
  | cons v rest ih => rw [UnambiguousItems, ih, List.forall_mem_cons]

theorem unambiguousFields_iff : UnambiguousFields fields ↔ ∀ field ∈ fields, Unambiguous field.2 := by
  induction fields with
  | nil => exact iff_of_true trivial fun _ h => nomatch h
  | cons field rest ih => rw [UnambiguousFields, ih, List.forall_mem_cons]

/-- Where a table was written makes no difference. -/
theorem unambiguous_table_iff : Unambiguous (table origin fields) ↔ Clear fields := by
  rw [Unambiguous, unambiguousFields_iff]
  exact ⟨fun h => ⟨h.1, h.2⟩, fun h => ⟨h.names, h.values⟩⟩

theorem unambiguous_array_iff : Unambiguous (array vs) ↔ ∀ v ∈ vs, Unambiguous v := by
  rw [Unambiguous, unambiguousItems_iff]

theorem unambiguous_tables_iff : Unambiguous (tables vs) ↔ ∀ v ∈ vs, Unambiguous v := by
  rw [Unambiguous, unambiguousItems_iff]

/-- Without fields there is nothing to mix up. -/
theorem clear_nil : Clear [] := ⟨List.nodup_nil, fun _ h => nomatch h⟩

/-- What is found under a name is unambiguous. -/
theorem Clear.lookup (h : Clear fields) (hv : OrderedMap.lookup name fields = some v) : Unambiguous v :=
  h.values _ (OrderedMap.mem_entries_of_lookup hv)

/-! ## Putting a value in -/

/-- A value that is put in is found in place of an old one or at the end. -/
theorem mem_put {field : String × Toml} (h : field ∈ OrderedMap.put name v fields) :
    field = (name, v) ∨ field ∈ fields := by
  induction fields with
  | nil => exact .inl (List.mem_singleton.1 h)
  | cons first rest ih =>
    obtain ⟨k, old⟩ := first
    rw [OrderedMap.put] at h
    split at h
    · next hk =>
      rcases List.mem_cons.1 h with rfl | h
      · exact .inl (by rw [hk])
      · exact .inr (List.mem_cons_of_mem _ h)
    · rcases List.mem_cons.1 h with rfl | h
      · exact .inr List.mem_cons_self
      · exact (ih h).imp_right (List.mem_cons_of_mem _)

/-- Putting a value in adds a name that is new, or changes the value of one that is there. -/
theorem Clear.put (h : Clear fields) (hv : Unambiguous v) : Clear (OrderedMap.put name v fields) where
  names := OrderedMap.nodup_keys_insert ⟨fields⟩ name v h.names
  values field hfield := by
    rcases mem_put hfield with rfl | hold
    · exact hv
    · exact h.values field hold

/-- A change that keeps one table clear keeps the whole document clear. -/
theorem Clear.within {change : Fields → Option Fields}
    (hchange : ∀ {old new}, Clear old → change old = some new → Clear new) {path : List String} {new : Fields}
    (h : Clear fields) (hnew : within change path fields = some new) : Clear new := by
  induction path generalizing fields new with
  | nil => exact hchange h hnew
  | cons name rest ih =>
    rw [Toml.within] at hnew
    split at hnew
    · obtain ⟨inner, hinner, rfl⟩ := Option.map_eq_some_iff.1 hnew
      exact h.put (unambiguous_table_iff.2 (ih clear_nil hinner))
    · nomatch hnew
    · next origin inner _ hlookup =>
      obtain ⟨inner', hinner, rfl⟩ := Option.map_eq_some_iff.1 hnew
      exact h.put (unambiguous_table_iff.2 (ih (unambiguous_table_iff.1 (h.lookup hlookup)) hinner))
    · next origin inner earlier hlookup =>
      obtain ⟨inner', hinner, rfl⟩ := Option.map_eq_some_iff.1 hnew
      obtain ⟨hnewest, hearlier⟩ := List.forall_mem_cons.1 (unambiguous_tables_iff.1 (h.lookup hlookup))
      have hinner' : Unambiguous (table origin inner') :=
        unambiguous_table_iff.2 (ih (unambiguous_table_iff.1 hnewest) hinner)
      exact h.put (unambiguous_tables_iff.2 (List.forall_mem_cons.2 ⟨hinner', hearlier⟩))
    · nomatch hnew

/-- A header opens an empty table, or one that was made on the way to another one. -/
theorem Clear.openTable {new : Fields} (h : Clear fields) (hnew : openTable name fields = some new) : Clear new := by
  unfold Toml.openTable at hnew
  split at hnew
  · cases hnew
    exact h.put (unambiguous_table_iff.2 clear_nil)
  · next inner hlookup =>
    cases hnew
    exact h.put (unambiguous_table_iff.2 (unambiguous_table_iff.1 (h.lookup hlookup)))
  · nomatch hnew

/-- A header in double brackets adds an empty table to those that are there. -/
theorem Clear.addTable {new : Fields} (h : Clear fields) (hnew : addTable name fields = some new) : Clear new := by
  have hempty : Unambiguous (table .explicit []) := unambiguous_table_iff.2 clear_nil
  unfold Toml.addTable at hnew
  split at hnew
  · cases hnew
    exact h.put (unambiguous_tables_iff.2 (List.forall_mem_singleton.2 hempty))
  · next items hlookup =>
    cases hnew
    exact h.put (unambiguous_tables_iff.2
      (List.forall_mem_cons.2 ⟨hempty, unambiguous_tables_iff.1 (h.lookup hlookup)⟩))
  · nomatch hnew

/-- The induction is on the key: all names but the last lead into tables, which are made where they are missing. -/
theorem Clear.assign {section_ : Nat} {key : List String} {new : Fields} (h : Clear fields) (hv : Unambiguous v)
    (hnew : assign section_ v key fields = some new) : Clear new := by
  induction key generalizing fields new with
  | nil => nomatch hnew
  | cons name rest ih =>
    cases rest with
    | nil =>
      rw [Toml.assign] at hnew
      split at hnew
      · nomatch hnew
      · cases hnew
        exact h.put hv
    | cons next rest =>
      simp only [Toml.assign] at hnew
      split at hnew
      · nomatch hnew
      · next inner hinner =>
        -- the table that the next name goes to is new, or it was there
        have hclear : Clear inner := by
          split at hinner
          · cases hinner
            exact clear_nil
          · next hlookup =>
            cases hinner
            exact unambiguous_table_iff.1 (h.lookup hlookup)
          · next hlookup =>
            split at hinner
            · cases hinner
              exact unambiguous_table_iff.1 (h.lookup hlookup)
            · nomatch hinner
          · nomatch hinner
        obtain ⟨inner', hinner', rfl⟩ := Option.map_eq_some_iff.1 hnew
        exact h.put (unambiguous_table_iff.2 (ih hclear hinner'))

/-! ## Reading values -/

namespace Reader

theorem unambiguous_of_based? {cs rest : List Char} (h : based? cs = some (v, rest)) : Unambiguous v := by
  unfold based? at h
  split at h
  · simp only at h
    split at h
    all_goals
      obtain ⟨base, -, h⟩ := Option.bind_eq_some_iff.1 h
      obtain ⟨⟨digits, rest⟩, -, h⟩ := Option.bind_eq_some_iff.1 h
      cases h
      trivial
  · nomatch h

/-- A number has no names, with a fraction or an exponent or without. -/
theorem unambiguous_of_decimal? {cs rest : List Char} (h : decimal? cs = some (v, rest)) : Unambiguous v := by
  unfold decimal? at h
  obtain ⟨⟨whole, rest⟩, -, h⟩ := Option.bind_eq_some_iff.1 h
  simp only at h
  split at h
  · split at h <;> cases h <;> trivial
  · split at h
    · cases h
      trivial
    · split at h
      · nomatch h
      · cases h
        trivial

/-- Nor have infinities and what is no number. -/
theorem unambiguous_of_special? {cs rest : List Char} (h : special? cs = some (v, rest)) : Unambiguous v := by
  unfold special? at h
  simp only at h
  split at h
  · cases h
    trivial
  · split at h
    · cases h
      trivial
    · nomatch h

/-- Dates and times are tried first, since they begin with digits as well. -/
theorem unambiguous_of_number? {cs rest : List Char} (h : number? cs = some (v, rest)) : Unambiguous v := by
  unfold number? at h
  split at h
  · cases h
    trivial
  · nomatch h
  · rcases Option.or_eq_some_iff.1 h with h | ⟨-, h⟩
    · exact unambiguous_of_based? h
    · rcases Option.or_eq_some_iff.1 h with h | ⟨-, h⟩
      · exact unambiguous_of_decimal? h
      · exact unambiguous_of_special? h

/-- A value without parts has no names. -/
theorem unambiguous_of_plain? {cs rest : List Char} (h : plain? cs = some (v, rest)) : Unambiguous v := by
  unfold plain? at h
  split at h
  · obtain ⟨⟨s, rest⟩, -, heq⟩ := Option.map_eq_some_iff.1 h
    cases heq
    trivial
  · obtain ⟨⟨s, rest⟩, -, heq⟩ := Option.map_eq_some_iff.1 h
    cases heq
    trivial
  · split at h
    · cases h
      trivial
    · split at h
      · cases h
        trivial
      · exact unambiguous_of_number? h

theorem expect_eq_ok_iff {α : Type} {part : Option α} {a : α} : expect part = .ok a ↔ part = some a := by
  cases part with
  | none => exact iff_of_false (fun h => nomatch h) fun h => nomatch h
  | some b => exact ⟨fun h => congrArg some (Except.ok.inj h), fun h => congrArg Except.ok (Option.some.inj h)⟩

/-- With so much fuel, values are read without a name twice. -/
structure ReadsClear (fuel : Nat) : Prop where
  value : ∀ {nesting cs v rest}, value fuel nesting cs = .ok (v, rest) → Unambiguous v
  items : ∀ {nesting acc cs vs rest}, items fuel nesting acc cs = .ok (vs, rest) → (∀ v ∈ acc, Unambiguous v) →
    ∀ v ∈ vs, Unambiguous v
  pairs : ∀ {nesting acc cs fields rest}, pairs fuel nesting acc cs = .ok (fields, rest) → Clear acc → Clear fields
  pair : ∀ {nesting cs key v rest}, pair fuel nesting cs = .ok (key, v, rest) → Unambiguous v

section

variable {fuel nesting : Nat} {acc : Fields} {cs rest : List Char} (h : ReadsClear fuel)

include h

/-- A value in brackets or braces has parts, which are read with less fuel. -/
theorem ReadsClear.value_succ (hv : Reader.value (fuel + 1) nesting cs = .ok (v, rest)) : Unambiguous v := by
  unfold Reader.value at hv
  split at hv
  · cases hv
  -- a list
  · next hfuel =>
    cases hfuel
    split at hv
    · cases hv
    · split at hv
      · cases hv
      · cases hv
        exact unambiguous_array_iff.2 fun _ hmem => absurd hmem List.not_mem_nil
      · obtain ⟨⟨vs, rest⟩, hvs, heq⟩ := map_eq_ok_iff.1 hv
        cases heq
        exact unambiguous_array_iff.2 (h.items hvs fun _ hmem => absurd hmem List.not_mem_nil)
  -- a table in braces
  · next hfuel =>
    cases hfuel
    split at hv
    · cases hv
    · split at hv
      · cases hv
        exact unambiguous_table_iff.2 clear_nil
      · obtain ⟨⟨fields, rest⟩, hfields, heq⟩ := map_eq_ok_iff.1 hv
        cases heq
        exact unambiguous_table_iff.2 (h.pairs hfields clear_nil)
  · exact unambiguous_of_plain? (expect_eq_ok_iff.1 hv)

/-- The items that were read are kept the other way round, so the last step turns them. -/
theorem ReadsClear.items_succ {acc : List Toml} (hvs : Reader.items (fuel + 1) nesting acc cs = .ok (vs, rest))
    (hacc : ∀ v ∈ acc, Unambiguous v) : ∀ v ∈ vs, Unambiguous v := by
  unfold Reader.items at hvs
  split at hvs
  · cases hvs
  · next v rest hv =>
    have hacc' := List.forall_mem_cons.2 ⟨h.value hv, hacc⟩
    have hreversed : ∀ w ∈ (v :: acc).reverse, Unambiguous w := fun w hw => hacc' w (List.mem_reverse.1 hw)
    split at hvs
    · cases hvs
      exact hreversed
    · split at hvs
      · cases hvs
      · cases hvs
        exact hreversed
      · exact h.items hvs hacc'
    · cases hvs

/-- A pair in braces is assigned like a line of the document. -/
theorem ReadsClear.pairs_succ (hfields : Reader.pairs (fuel + 1) nesting acc cs = .ok (fields, rest))
    (hacc : Clear acc) : Clear fields := by
  unfold Reader.pairs at hfields
  split at hfields
  · cases hfields
  · next key v rest hpair =>
    split at hfields
    · cases hfields
    · next acc' hacc' =>
      have hclear := hacc.assign (h.pair hpair) hacc'
      split at hfields
      · cases hfields
        exact hclear
      · exact h.pairs hfields hclear
      · cases hfields

/-- A pair brings one value; its key is looked at when it is assigned. -/
theorem ReadsClear.pair_succ {key : List String} (hpair : Reader.pair (fuel + 1) nesting cs = .ok (key, v, rest)) :
    Unambiguous v := by
  unfold Reader.pair at hpair
  split at hpair
  · obtain ⟨⟨v, rest⟩, hv, heq⟩ := map_eq_ok_iff.1 hpair
    cases heq
    exact h.value hv
  · cases hpair

end

/-- Whatever the fuel is. -/
theorem readsClear (fuel : Nat) : ReadsClear fuel := by
  induction fuel with
  | zero =>
    refine ⟨fun hv => ?_, fun hvs => ?_, fun hfields => ?_, fun hpair => ?_⟩
    · rw [value] at hv; cases hv
    · rw [items] at hvs; cases hvs
    · rw [pairs] at hfields; cases hfields
    · rw [pair] at hpair; cases hpair
  | succ fuel ih => exact ⟨ih.value_succ, ih.items_succ, ih.pairs_succ, ih.pair_succ⟩

/-! ## Reading lines -/

variable {d d' : Document} {cs rest : List Char}

/-- A section begins at its table, and the tables above it are gone through. -/
theorem Document.clear_begin {key : List String} {make : String → Fields → Option Fields}
    (hmake : ∀ {name old new}, Clear old → make name old = some new → Clear new) (h : Clear d.fields)
    (hd : d.begin key make = some d') : Clear d'.fields := by
  obtain ⟨last, -, hd⟩ := Option.bind_eq_some_iff.1 hd
  obtain ⟨fields, hfields, hd⟩ := Option.bind_eq_some_iff.1 hd
  cases hd
  exact h.within hmake hfields

/-- A line is put into the table of its section. -/
theorem Document.clear_add {key : List String} (h : Clear d.fields) (hv : Unambiguous v)
    (hd : d.add key v = some d') : Clear d'.fields := by
  obtain ⟨fields, hfields, hd⟩ := Option.bind_eq_some_iff.1 hd
  cases hd
  exact h.within (fun hold hnew => hold.assign hv hnew) hfields

theorem clear_header? (h : Clear d.fields) (hd : header? d cs = some (d', rest)) : Clear d'.fields := by
  unfold header? at hd
  split at hd
  · obtain ⟨⟨key, rest⟩, -, hd⟩ := Option.bind_eq_some_iff.1 hd
    obtain ⟨d₁, hbegin, hd⟩ := Option.bind_eq_some_iff.1 hd
    split at hd
    · cases hd
      exact Document.clear_begin Clear.addTable h hbegin
    · nomatch hd
  · obtain ⟨⟨key, rest⟩, -, hd⟩ := Option.bind_eq_some_iff.1 hd
    obtain ⟨d₁, hbegin, hd⟩ := Option.bind_eq_some_iff.1 hd
    split at hd
    · cases hd
      exact Document.clear_begin Clear.openTable h hbegin
    · nomatch hd
  · nomatch hd

/-- Each line is a header, is empty, or assigns a value. -/
theorem clear_statement (h : Clear d.fields) (hd : statement d cs = .ok (d', rest)) : Clear d'.fields := by
  unfold statement at hd
  split at hd
  · exact clear_header? h (expect_eq_ok_iff.1 hd)
  · cases hd
    exact h
  · obtain ⟨⟨key, v, rest⟩, hpair, hd⟩ := bind_eq_ok_iff.1 hd
    obtain ⟨d₁, hadd, hd⟩ := bind_eq_ok_iff.1 hd
    cases hd
    exact Document.clear_add h ((readsClear _).pair hpair) (expect_eq_ok_iff.1 hadd)

/-- The lines one after the other, as long as the fuel lasts. -/
theorem clear_lines {fuel : Nat} (h : Clear d.fields) (hd : lines fuel d cs = .ok d') : Clear d'.fields := by
  induction fuel generalizing d cs with
  | zero => nomatch hd
  | succ fuel ih =>
    unfold lines at hd
    split at hd
    · cases hd
      exact h
    · exact ih h hd
    · split at hd
      · nomatch hd
      · next hstatement =>
        have hclear := clear_statement h hstatement
        split at hd
        · nomatch hd
        · cases hd
          exact hclear
        · exact ih hclear hd
        · nomatch hd

end Reader

/-- **No table of a document has a name twice.** -/
theorem clear_of_ofBytes {bytes : ByteArray} (h : ofBytes bytes = .ok fields) : Clear fields := by
  unfold ofBytes at h
  split at h
  · obtain ⟨d, hd, rfl⟩ := map_eq_ok_iff.1 h
    exact Reader.clear_lines clear_nil hd
  · cases h

end CodeAtlas.Toml
