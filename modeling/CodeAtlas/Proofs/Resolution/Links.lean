import CodeAtlas.Proofs.Resolution.Symbols
import CodeAtlas.Resolution.Relations
/-!
  Tables that differ in their relations only.

  Relations are added to symbols one after the other, and nothing else is changed.  What a name means depends on the
  rest of the table, so it means the same before and after (`resolveType_congr`).  `Gains` compares two tables:
  without their relations they are equal, and the second one has exactly certain relations besides those of the first.

    1. `bare` leaves the relations of all symbols out.  Each look-up gives the same in a table and without its
       relations (the lemmas `…_bare`), so two tables that are equal without relations answer alike (the lemmas
       `…_congr`).
    2. One relation is one gain (`gains_relate`); steps add up (`Gains.trans`), and a loop adds what its steps add
       (`gains_foldlM_on`).  The step of a loop may look at the table as it is at the time: by the first part it sees
       what it would have seen at the start.
-/
namespace CodeAtlas

open Fault

/-! ## Maps with other values -/

namespace OrderedMap

variable {α β γ : Type} [DecidableEq α]

/-- The same keys with other values. -/
def map (f : β → γ) (m : OrderedMap α β) : OrderedMap α γ := ⟨m.entries.map fun e => (e.1, f e.2)⟩

/-- A look-up in the changed map is a changed look-up. -/
theorem get?_map (f : β → γ) (m : OrderedMap α β) (key : α) : (m.map f).get? key = (m.get? key).map f := by
  show lookup key (m.entries.map _) = (lookup key m.entries).map f
  induction m.entries with
  | nil => rfl
  | cons e rest ih =>
    obtain ⟨k, v⟩ := e
    rw [List.map_cons, lookup, lookup, ih]
    split <;> rfl

omit [DecidableEq α] in
theorem keys_map (f : β → γ) (m : OrderedMap α β) : (m.map f).keys = m.keys := by
  show (m.entries.map _).map _ = m.entries.map _
  rw [List.map_map]
  rfl

/-- A change that the map does not see. -/
theorem map_insert (f : β → γ) {m : OrderedMap α β} {key : α} {v v' : β} (h : m.get? key = some v) (hf : f v' = f v) :
    (m.insert key v').map f = m.map f := by
  obtain ⟨entries⟩ := m
  replace h : lookup key entries = some v := h
  show OrderedMap.mk ((put key v' entries).map _) = OrderedMap.mk (entries.map _)
  congr 1
  induction entries with
  | nil => nomatch h
  | cons e rest ih =>
    obtain ⟨k, w⟩ := e
    rw [lookup] at h
    rw [put]
    split
    · next hk =>
      rw [if_pos hk] at h
      cases h
      rw [List.map_cons, List.map_cons, hf]
    · next hk =>
      rw [if_neg hk] at h
      rw [List.map_cons, List.map_cons, ih h]

end OrderedMap

/-! ## Tables without relations -/

namespace Symbol

/-- The symbol without its relations. -/
def bare (s : Symbol) : Symbol := { s with relations := [] }

/-- A relation more is not seen without relations. -/
theorem bare_relate (s : Symbol) (kind target : String) : (s.relate kind target).bare = s.bare := by
  unfold relate
  split <;> rfl

/-- The relations of a symbol are the old ones and the new one, which may be among the old ones. -/
theorem mem_relations_relate (s : Symbol) (kind target : String) (r : Relation) :
    r ∈ (s.relate kind target).relations ↔ r ∈ s.relations ∨ r = ⟨kind, target⟩ := by
  unfold relate
  split
  · next hthere =>
    have hthere := List.contains_iff_mem.1 hthere
    exact ⟨.inl, fun h => h.elim (fun h => h) fun heq => heq ▸ hthere⟩
  · rw [List.mem_append, List.mem_singleton]

end Symbol

namespace SymbolTable

variable {t t' t'' : SymbolTable}

/-- The table without relations. -/
def bare (t : SymbolTable) : SymbolTable := { t with symbols := t.symbols.map Symbol.bare }

/-- A symbol without relations is found where it was. -/
theorem get?_bare (t : SymbolTable) (id : String) : t.bare.symbols.get? id = (t.symbols.get? id).map Symbol.bare :=
  t.symbols.get?_map Symbol.bare id

/-- The same for a symbol that has to be there. -/
theorem symbol_bare (t : SymbolTable) (id : String) : t.bare.symbol id = (t.symbol id).map Symbol.bare := by
  unfold symbol
  rw [get?_bare]
  cases t.symbols.get? id <;> rfl

/-- The kind of a symbol does not depend on relations. -/
theorem kindOf?_bare (t : SymbolTable) (id : String) : t.bare.kindOf? id = t.kindOf? id := by
  unfold kindOf?
  rw [get?_bare, Option.map_map]
  rfl

theorem isType_bare (t : SymbolTable) (id : String) : t.bare.isType id = t.isType id := by
  unfold isType
  rw [kindOf?_bare]

/-- A type is an identifier of a symbol with one of the kinds of types. -/
theorem isType_iff {id : String} :
    t.isType id = true ↔ ∃ s, t.symbols.get? id = some s ∧ s.kind ∈ typeKinds := by
  unfold isType kindOf?
  cases t.symbols.get? id with
  | none => simp
  | some s => simp

/-- What is left of an identifier that has to be a type does not depend on relations. -/
theorem typeOnly_bare (t : SymbolTable) (id : Option String) : Scopes.typeOnly t.bare id = Scopes.typeOnly t id := by
  unfold Scopes.typeOnly
  congr 1
  exact funext t.isType_bare

theorem inScope_bare (t : SymbolTable) (file name scope : String) :
    Scopes.inScope t.bare file name scope = Scopes.inScope t file name scope :=
  t.typeOnly_bare _

/-- What an imported name means does not depend on relations either, although the symbol that it is bound to is looked
    at. -/
theorem imported_bare (s : Scopes) (t : SymbolTable) (file name : String) :
    s.imported t.bare file name = s.imported t file name := by
  unfold Scopes.imported
  simp only
  split
  · rfl
  · next bound _ =>
    rw [typeOnly_bare, symbol_bare]
    split
    · rfl
    · cases t.symbol bound with
      | error f => rfl
      | ok symbol => exact congrArg Except.ok (t.typeOnly_bare _)

/-- What a name means does not depend on relations. -/
theorem resolveType_bare (s : Scopes) (t : SymbolTable) (name file : String) (scope : Option String) :
    s.resolveType t.bare name file scope = s.resolveType t name file scope := by
  have hscopes : Scopes.inScope t.bare file (Text.trim name) = Scopes.inScope t file (Text.trim name) :=
    funext fun scope => t.inScope_bare file (Text.trim name) scope
  unfold Scopes.resolveType
  simp only
  rw [typeOnly_bare, hscopes, imported_bare]
  rfl

/-! ### Tables that are equal without relations -/

/-- Records are found by keys of their own. -/
theorem record?_congr (h : t'.bare = t.bare) : t'.record? = t.record? := by
  show t'.bare.record? = t.bare.record?
  rw [h]

theorem lookup?_congr (h : t'.bare = t.bare) : t'.lookup? = t.lookup? := by
  show t'.bare.lookup? = t.bare.lookup?
  rw [h]

theorem kindOf?_congr (h : t'.bare = t.bare) : t'.kindOf? = t.kindOf? :=
  funext fun id => by rw [← kindOf?_bare, h, kindOf?_bare]

theorem isType_congr (h : t'.bare = t.bare) : t'.isType = t.isType :=
  funext fun id => by rw [← isType_bare, h, isType_bare]

/-- **So every name means the same**, from whichever file and scope it is asked. -/
theorem resolveType_congr (h : t'.bare = t.bare) (s : Scopes) : s.resolveType t' = s.resolveType t :=
  funext fun name => funext fun file => funext fun scope => by rw [← resolveType_bare, h, resolveType_bare]

/-- The same identifiers are there, in the same order. -/
theorem keys_congr (h : t'.bare = t.bare) : t'.symbols.keys = t.symbols.keys := by
  rw [← t'.symbols.keys_map Symbol.bare, ← t.symbols.keys_map Symbol.bare]
  exact congrArg (·.symbols.keys) h

/-- The same symbols are there, apart from their relations. -/
theorem exists_get?_congr (h : t'.bare = t.bare) {id : String} {s : Symbol} (hs : t.symbols.get? id = some s) :
    ∃ s', t'.symbols.get? id = some s' ∧ s'.bare = s.bare := by
  have hget : (t'.symbols.get? id).map Symbol.bare = some s.bare := by
    rw [← get?_bare, h, get?_bare, hs]
    rfl
  exact Option.map_eq_some_iff.1 hget

/-- An identifier is there in both tables or in none. -/
theorem contains_congr (h : t'.bare = t.bare) (id : String) : t'.symbols.contains id = t.symbols.contains id := by
  show (t'.symbols.get? id).isSome = (t.symbols.get? id).isSome
  have hget := congrArg (fun t : SymbolTable => (t.symbols.get? id).isSome) h
  simpa only [get?_bare, Option.isSome_map] using hget

/-- A table is sound by its keys and by what its names lead to, and none of this is about relations. -/
theorem Sound.congr (ht : t.Sound) (h : t'.bare = t.bare) : t'.Sound where
  distinct := by
    rw [keys_congr h]
    exact ht.distinct
  keyed id s hs := by
    obtain ⟨s', hs', hbare⟩ := exists_get?_congr h.symm hs
    exact (congrArg Symbol.id hbare).symm.trans (ht.keyed id s' hs')
  records file qualified id hid := by
    rw [record?_congr h] at hid
    rw [contains_congr h]
    exact ht.records file qualified id hid
  qualified name id hid := by
    rw [lookup?_congr h] at hid
    rw [contains_congr h]
    exact ht.qualified name id hid

/-! ## What is added -/

/-- A symbol has a relation. -/
def Has (t : SymbolTable) (source : String) (r : Relation) : Prop :=
  ∃ s, t.symbols.get? source = some s ∧ r ∈ s.relations

/-- No symbol has a relation twice. -/
def Once (t : SymbolTable) : Prop := ∀ id s, t.symbols.get? id = some s → s.relations.Nodup

/-- From one table to another: nothing changes but the relations, and exactly the new ones are added. -/
structure Gains (new : String → Relation → Prop) (t t' : SymbolTable) : Prop where
  bare : t'.bare = t.bare
  has : ∀ source r, t'.Has source r ↔ t.Has source r ∨ new source r
  once : t.Once → t'.Once

variable {new new' : String → Relation → Prop}

theorem Gains.refl (t : SymbolTable) : Gains (fun _ _ => False) t t :=
  ⟨rfl, fun _ _ => (or_false _).symm.to_iff, fun h => h⟩

/-- What was added can be described in another way. -/
theorem Gains.congr (h : Gains new t t') (hiff : ∀ source r, new source r ↔ new' source r) : Gains new' t t' :=
  ⟨h.bare, fun source r => (h.has source r).trans (or_congr_right (hiff source r)), h.once⟩

/-- What two steps add is what either of them adds. -/
theorem Gains.trans (h : Gains new t t') (h' : Gains new' t' t'') :
    Gains (fun source r => new source r ∨ new' source r) t t'' :=
  ⟨h'.bare.trans h.bare, fun source r => by rw [h'.has, h.has, or_assoc], fun ht => h'.once (h.once ht)⟩

/-- One relation. -/
theorem gains_relate (t : SymbolTable) (id kind target : String) :
    Gives (t.relate id kind target) (Gains (fun source r => source = id ∧ r = ⟨kind, target⟩) t) := by
  unfold relate symbol
  split
  · next s hs =>
    -- nothing else is changed, exactly this relation is new, and it is not there twice
    refine ends_ok ⟨?_, fun source r => ?_, fun hnodup id' s' hs' => ?_⟩
    · show SymbolTable.mk _ _ _ _ _ _ = SymbolTable.mk _ _ _ _ _ _
      congr 1
      exact OrderedMap.map_insert Symbol.bare hs (s.bare_relate kind target)
    · unfold Has
      simp only [OrderedMap.get?_insert]
      by_cases h : id = source
      · subst h
        simp [hs, s.mem_relations_relate]
      · simp [h, Ne.symm h]
    · rw [OrderedMap.get?_insert] at hs'
      split at hs'
      · cases hs'
        exact s.nodup_relations_relate (hnodup id s hs) kind target
      · exact hnodup id' s' hs'
  · exact ends_error trivial

/-- A loop adds what its steps add.  A step may look at the table, but not at its relations.  The loop may keep
    something beside the table. -/
theorem gains_foldlM_on {σ α : Type} (table : σ → SymbolTable) {f : σ → α → Except Fault σ}
    {new : α → String → Relation → Prop} {xs : List α} {init : σ} (hinit : (table init).bare = t.bare)
    (hstep : ∀ x ∈ xs, ∀ s, (table s).bare = t.bare → Gives (f s x) fun s' => Gains (new x) (table s) (table s')) :
    Gives (xs.foldlM f init) fun s' => Gains (fun source r => ∃ x ∈ xs, new x source r) (table init) (table s') := by
  -- the tables on the way are equal to the first one without relations
  induction xs generalizing init with
  | nil => exact ends_ok ((Gains.refl _).congr fun _ _ => by simp)
  | cons x rest ih =>
    obtain ⟨hx, hrest⟩ := List.forall_mem_cons.1 hstep
    rw [List.foldlM_cons]
    refine (hx init hinit).bind fun s₁ h₁ => (ih (h₁.bare.trans hinit) hrest).mono fun s₂ h₂ => ?_
    exact (h₁.trans h₂).congr fun source r => by simp

/-- The same for a loop that keeps the table alone. -/
theorem gains_foldlM {α : Type} {f : SymbolTable → α → Except Fault SymbolTable} {new : α → String → Relation → Prop}
    {xs : List α} (hstep : ∀ x ∈ xs, ∀ t', t'.bare = t.bare → Gives (f t' x) (Gains (new x) t')) :
    Gives (xs.foldlM f t) (Gains (fun source r => ∃ x ∈ xs, new x source r) t) :=
  gains_foldlM_on id rfl hstep

end SymbolTable

end CodeAtlas
