import CodeAtlas.Proofs.Resolution.Heritage
import CodeAtlas.Proofs.Resolution.Lookup
import CodeAtlas.Proofs.Resolution.Totality
/-!
  Whatever a name means is a type.

  A name is looked for in four places.  Three of them ask the table whether what they have found is a type.  The last
  one is the index of the titles, which nobody asks: it has to be right.  It is as long as no addition displaces a
  symbol (`titled_addAll`), and then it has a single identifier for a title exactly if there is a single type with it.

  The scopes are found by cutting a name at its last dot again and again.  `climb_enclosing` says that this stops, and
  that it passes the scopes that are listed by `enclosing`.
-/
namespace CodeAtlas

open Fault

/-! ## The scopes around a place -/

namespace Scopes

/-- Behind a name there come the beginnings of what stands before its last dot. -/
theorem beginnings_eq (scope : String) : beginnings scope =
    scope :: ((Text.cutLast? '.' scope).map fun parts => beginnings parts.1).getD [] := by
  cases hcut : Text.cutLast? '.' scope with
  | none =>
    unfold beginnings
    rw [Text.split_eq_of_cutLast?_eq_none hcut]
    rfl
  | some parts =>
    obtain ⟨before, last⟩ := parts
    obtain ⟨-, hsplit⟩ := Text.cutLast?_eq_some hcut
    have hjoin : Text.join "." (Text.split '.' scope) = scope := Text.join_split '.' scope
    rw [hsplit] at hjoin
    unfold beginnings
    simp only [hsplit, List.length_append, List.length_singleton]
    rw [List.range_succ_eq_map, List.map_cons, List.map_map, Nat.sub_zero, List.take_of_length_le (by simp), hjoin]
    refine congrArg (scope :: ·) (List.map_congr_left fun n _ => congrArg (Text.join ".") ?_)
    have hcount : (Text.split '.' before).length + 1 - (n + 1) = (Text.split '.' before).length - n := by omega
    rw [hcount, List.take_append_of_le_length (Nat.sub_le _ _)]

/-- One round of the search for the scopes around a place: where it stands, and what it has passed. -/
def climb (module : String) : Option String × List String → Option String × List String
  | (none, passed) => (none, passed)
  | (some scope, passed) =>
    if scope = "" then (none, passed)
    else if scope = module then (none, passed ++ [scope])
    else ((Text.cutLast? '.' scope).map (·.1), passed ++ [scope])

/-- The search comes to an end, and it has passed the beginnings of the scope then, up to the module. -/
theorem climb_beginnings (module scope : String) (passed : List String) :
    ∃ n ≤ scope.length + 1, (climb module)^[n] (some scope, passed) =
      (none, passed ++ takeThrough (· = module) ((beginnings scope).takeWhile (· ≠ ""))) := by
  rw [beginnings_eq scope]
  by_cases hempty : scope = ""
  · refine ⟨1, by omega, ?_⟩
    rw [List.takeWhile_cons_of_neg (by simp [hempty]), takeThrough, List.append_nil]
    exact if_pos hempty
  rw [List.takeWhile_cons_of_pos (by simp [hempty]), takeThrough]
  by_cases hmodule : scope = module
  · refine ⟨1, by omega, ?_⟩
    rw [if_pos (decide_eq_true hmodule)]
    exact (if_neg hempty).trans (if_pos hmodule)
  rw [if_neg (by simp [hmodule])]
  have hround : climb module (some scope, passed) = ((Text.cutLast? '.' scope).map (·.1), passed ++ [scope]) :=
    (if_neg hempty).trans (if_neg hmodule)
  cases hcut : Text.cutLast? '.' scope with
  | none =>
    refine ⟨1, by omega, ?_⟩
    rw [Function.iterate_one, hround, hcut]
    rfl
  | some parts =>
    -- the search goes on from what stands before the last dot, which is shorter
    obtain ⟨before, last⟩ := parts
    have hshorter := Text.length_lt_of_cutLast? hcut
    obtain ⟨n, hn, hrest⟩ := climb_beginnings module before (passed ++ [scope])
    refine ⟨n + 1, by omega, ?_⟩
    rw [Function.iterate_succ_apply, hround, hcut]
    rw [List.append_assoc, List.singleton_append] at hrest
    exact hrest
termination_by scope.length

/-- The scopes around a place are those that are passed, and the module. -/
theorem climb_enclosing (around : Option String) (module : String) :
    ∃ n ≤ (around.getD "").length + 1, ∃ passed, (climb module)^[n] (around, []) = (none, passed) ∧
      enclosing around module = if module = "" ∨ module ∈ passed then passed else passed ++ [module] := by
  have hmodule (passed : List String) : (if (module = "" || passed.contains module) = true then passed else
      passed ++ [module]) = if module = "" ∨ module ∈ passed then passed else passed ++ [module] := by
    simp only [Bool.or_eq_true, decide_eq_true_iff, List.contains_iff_mem]
  cases around with
  | none => exact ⟨0, Nat.zero_le _, [], rfl, hmodule []⟩
  | some scope =>
    obtain ⟨n, hn, hclimb⟩ := climb_beginnings module scope []
    exact ⟨n, hn, _, hclimb, hmodule _⟩

end Scopes

/-! ## The index of the titles -/

namespace SymbolTable

variable {t : SymbolTable} {es : List Entry} {e : Entry} {title : String}

/-- The types with a title, in order. -/
def typesTitled (t : SymbolTable) (title : String) : List Symbol :=
  t.symbols.values.filter fun s => typeKinds.contains s.kind ∧ s.title = title

/-- All types of a title, wherever they are. -/
theorem mem_typesTitled_iff {s : Symbol} :
    s ∈ t.typesTitled title ↔ s ∈ t.symbols.values ∧ s.kind ∈ typeKinds ∧ s.title = title := by
  rw [typesTitled, List.mem_filter, decide_eq_true_iff, List.contains_iff_mem]

/-- The index of the titles leads to all types, and to nothing else. -/
def Titled (t : SymbolTable) : Prop :=
  ∀ title, (t.byTitle.get? title).getD [] = (t.typesTitled title).map (·.id)

theorem titled_empty (root : Path) (language : String) : (empty root language).Titled := fun _ => rfl

/-- A symbol whose identifier is free comes after the others. -/
theorem values_register {s : Symbol} (hfree : ¬ t.symbols.contains s.id = true) :
    (t.register e s).symbols.values = t.symbols.values ++ [s] := by
  have hnone : OrderedMap.lookup s.id t.symbols.entries = none := Option.not_isSome_iff_eq_none.1 hfree
  show (OrderedMap.put s.id s t.symbols.entries).map (·.2) = _
  rw [OrderedMap.put_of_lookup_eq_none s.id s _ hnone, List.map_append, List.map_singleton]
  rfl

/-- It comes into the index if it is a type. -/
theorem Titled.register (h : t.Titled) (hfree : ¬ t.symbols.contains (t.symbolOf e).id = true) :
    (t.register e (t.symbolOf e)).Titled := by
  intro title
  have hindex : ((t.register e (t.symbolOf e)).byTitle.get? title).getD [] = (t.byTitle.get? title).getD [] ++
      if typeKinds.contains e.kind ∧ e.title = title then [(t.symbolOf e).id] else [] := by
    unfold SymbolTable.register
    simp only
    by_cases htype : typeKinds.contains e.kind = true
    · rw [if_pos htype, OrderedMap.get?_insert]
      by_cases htitle : e.title = title
      · rw [if_pos htitle, if_pos ⟨htype, htitle⟩, htitle, Option.getD_some]
      · rw [if_neg htitle, if_neg fun hboth => htitle hboth.2, List.append_nil]
    · rw [if_neg htype, if_neg fun hboth => htype hboth.1, List.append_nil]
  rw [hindex, h title, typesTitled, typesTitled, values_register hfree, List.filter_append, List.map_append]
  congr 1
  have hkind : (t.symbolOf e).kind = e.kind := rfl
  have htitle : (t.symbolOf e).title = e.title := rfl
  rw [List.filter_singleton, hkind, htitle, Bool.cond_decide]
  split <;> rfl

/-- One addition that displaces nothing. -/
theorem Recorded.titled_add (h : Recorded es t) (htitled : t.Titled)
    (hplain : ∀ e' ∈ es ++ [e], '@' ∉ e'.qualified.toList) {s : Symbol} {t' : SymbolTable}
    (hadd : t.add e = .ok (s, t')) : t'.Titled := by
  by_cases hknown : e.key ∈ es.map Entry.key
  · obtain ⟨s', hsame⟩ := h.add_known hknown
    rw [hadd] at hsame
    cases hsame
    exact htitled
  · rw [h.add_new hknown] at hadd
    cases hadd
    refine htitled.register fun htaken => ?_
    have hat := h.at_free_of_plain (fun e' he' => hplain e' (List.mem_append_left _ he'))
      (hplain e (List.mem_append_right _ (List.mem_singleton_self e))) hknown
    exact hat ((contains_freshId_iff t e.qualified e.file).1 htaken).2

/-- **The index of the titles is right** after any additions that displace nothing. -/
theorem titled_addAll (root : Path) (language : String) (hplain : ∀ e ∈ es, '@' ∉ e.qualified.toList) :
    ∃ t, (empty root language).addAll es = .ok t ∧ t.Sound ∧ t.Titled := by
  have hsteps : Succeeds ((empty root language).addAll es) fun t => Recorded es t ∧
      ((∀ e ∈ es, '@' ∉ e.qualified.toList) → t.Titled) := by
    refine ends_foldlM_done (fun done t => Recorded done t ∧ ((∀ e ∈ done, '@' ∉ e.qualified.toList) → t.Titled))
      ⟨recorded_empty root language, fun _ => titled_empty root language⟩ fun done t e hdone => ?_
    obtain ⟨s, t', hadd, hrec⟩ := hdone.1.add e
    rw [hadd]
    refine ends_ok ⟨hrec, fun hplain => hdone.1.titled_add (hdone.2 fun e' he' => ?_) hplain hadd⟩
    exact hplain e' (List.mem_append_left _ he')
  obtain ⟨t, ht, hrec, htitled⟩ := hsteps.exists_ok
  exact ⟨t, ht, hrec.sound, htitled hplain⟩

end SymbolTable

/-! ## What a name means -/

namespace Scopes

open SymbolTable

variable {t : SymbolTable} {s : Scopes} {written file : String} {around found : Option String}

/-- A name is found in none of the first three places: it is no qualified name of a type, there is no type of that name
    in a scope around the place, and none is bound to it. -/
structure Unplaced (s : Scopes) (t : SymbolTable) (name file : String) (around : Option String) : Prop where
  qualified : typeNamed t name = none
  nested : ∀ place ∈ enclosing around (s.moduleOf file), inScope t file name place = none
  bound : s.imported t file name = .ok none

instance (s : Scopes) (t : SymbolTable) (name file : String) (around : Option String) :
    Decidable (s.Unplaced t name file around) :=
  decidable_of_iff (typeNamed t name = none ∧
      (∀ place ∈ enclosing around (s.moduleOf file), inScope t file name place = none) ∧
      s.imported t file name = .ok none)
    ⟨fun ⟨hqualified, hnested, hbound⟩ => ⟨hqualified, hnested, hbound⟩,
      fun h => ⟨h.qualified, h.nested, h.bound⟩⟩

/-- What a name means, as far as the table can tell. -/
structure Meant (s : Scopes) (t : SymbolTable) (written file : String) (around found : Option String) : Prop where
  /-- the search for the scopes comes to an end -/
  climbs : ∃ n ≤ (around.getD "").length + 1, ∃ passed, (climb (s.moduleOf file))^[n] (around, []) = (none, passed) ∧
    enclosing around (s.moduleOf file) =
      if s.moduleOf file = "" ∨ s.moduleOf file ∈ passed then passed else passed ++ [s.moduleOf file]
  /-- what is found is a type of the table -/
  type : ∀ id, found = some id → ∃ symbol, t.symbols.get? id = some symbol ∧ symbol.id = id ∧ symbol.kind ∈ typeKinds
  /-- a name that is in no other place means a type exactly if there is a single one with its last part as title -/
  titled : Text.trim written ≠ "" → s.Unplaced t (Text.trim written) file around →
    ((∃ id, found = some id) ↔ ∃! symbol, symbol ∈ t.typesTitled (Text.afterLast '.' (Text.trim written))) ∧
      ∀ id, found = some id → ∃ symbol ∈ t.typesTitled (Text.afterLast '.' (Text.trim written)), symbol.id = id

/-- A name that is found in none of the three other places is looked for among the titles. -/
theorem resolveType_of_unplaced (hne : Text.trim written ≠ "") (h : s.Unplaced t (Text.trim written) file around) :
    s.resolveType t written file around = .ok (uniqueByTitle t (Text.trim written)) := by
  have hnested := List.findSome?_eq_none_iff.2 h.nested
  have hqualified : typeOnly t (t.lookup? (Text.trim written)) = none := h.qualified
  unfold resolveType
  simp only [if_neg hne, hqualified, hnested, h.bound]
  rfl

/-- A title means a type exactly if it is that of a single one. -/
theorem uniqueByTitle_eq_some_iff (h : t.Titled) {name id : String} : uniqueByTitle t name = some id ↔
    ∃ symbol, t.typesTitled (Text.afterLast '.' name) = [symbol] ∧ symbol.id = id := by
  unfold uniqueByTitle
  rw [h]
  match t.typesTitled (Text.afterLast '.' name) with
  | [] => simp
  | [symbol] => simp
  | _ :: _ :: _ => simp

/-- The list of the types with a title has a single element exactly if there is a single such type. -/
theorem exists_typesTitled_eq_singleton_iff (h : t.Sound) {title : String} :
    (∃ symbol, t.typesTitled title = [symbol]) ↔ ∃! symbol, symbol ∈ t.typesTitled title := by
  have hnd : (t.typesTitled title).Nodup :=
    (List.Nodup.of_map (·.id) (h.map_id_values ▸ h.distinct : (t.symbols.values.map (·.id)).Nodup)).filter _
  constructor
  · rintro ⟨symbol, hsymbol⟩
    rw [hsymbol]
    exact ⟨symbol, List.mem_singleton_self symbol, fun other hother => List.mem_singleton.1 hother⟩
  · rintro ⟨symbol, hsymbol, honly⟩
    refine ⟨symbol, List.perm_singleton.1 ((List.perm_ext_iff_of_nodup hnd (List.nodup_singleton symbol)).2 ?_)⟩
    intro other
    rw [List.mem_singleton]
    exact ⟨honly other, fun hother => hother ▸ hsymbol⟩

/-- **Whatever a name means is a type.**  In a table without at signs in qualified names, every name means a type or
    nothing, wherever it stands and whatever the imports have bound; and a name that is in no other place means the type
    with its last part as title, provided that there is a single one. -/
theorem meant_resolveType (root : Path) (language : String) {es : List Entry}
    (hplain : ∀ e ∈ es, '@' ∉ e.qualified.toList) : ∃ t, (SymbolTable.empty root language).addAll es = .ok t ∧
      ∀ s : Scopes, (∀ key id, s.bindings.get? key = some id → id ∈ t.symbols.keys) →
        ∀ written file around, ∃ found, s.resolveType t written file around = .ok found ∧
          s.Meant t written file around found := by
  obtain ⟨t, ht, hsound, htitled⟩ := titled_addAll root language hplain
  refine ⟨t, ht, fun s hs written file around => ?_⟩
  obtain ⟨found, hfound, -⟩ := (Bound.resolveType_succeeds hs written file around).exists_ok
  have htitles : ∀ title ids, t.byTitle.get? title = some ids → ∀ id ∈ ids, t.isType id = true := by
    intro title ids hids id hid
    have hall := htitled title
    rw [hids, Option.getD_some] at hall
    obtain ⟨symbol, hsymbol, rfl⟩ := List.mem_map.1 (hall ▸ hid)
    obtain ⟨hmem, hkind, -⟩ := mem_typesTitled_iff.1 hsymbol
    exact isType_iff.2 ⟨symbol, (hsound.mem_values_iff symbol).1 hmem, hkind⟩
  refine ⟨found, hfound, climb_enclosing around (s.moduleOf file), ?_, ?_⟩
  · rintro id rfl
    obtain ⟨symbol, hsymbol, hkind⟩ := isType_iff.1 (isType_of_resolveType htitles hfound)
    exact ⟨symbol, hsymbol, hsound.keyed id symbol hsymbol, hkind⟩
  · intro hne hunplaced
    rw [resolveType_of_unplaced hne hunplaced] at hfound
    cases hfound
    rw [← exists_typesTitled_eq_singleton_iff hsound]
    constructor
    · constructor
      · rintro ⟨id, hid⟩
        obtain ⟨symbol, hsymbol, -⟩ := (uniqueByTitle_eq_some_iff htitled).1 hid
        exact ⟨symbol, hsymbol⟩
      · rintro ⟨symbol, hsymbol⟩
        exact ⟨symbol.id, (uniqueByTitle_eq_some_iff htitled).2 ⟨symbol, hsymbol, rfl⟩⟩
    · intro id hid
      obtain ⟨symbol, hsymbol, hsame⟩ := (uniqueByTitle_eq_some_iff htitled).1 hid
      exact ⟨symbol, hsymbol ▸ List.mem_singleton_self symbol, hsame⟩

/-- There is one type `I` and there are two types `M`, so only the first one is found by its title. -/
theorem meant_crowded : (∀ e ∈ crowded, '@' ∉ e.qualified.toList) ∧
    ∃ t, (SymbolTable.empty (Path.ofString "/r") "java").addAll crowded = .ok t ∧
      (∀ key id, crowdedScopes.bindings.get? key = some id → id ∈ t.symbols.keys) ∧
      crowdedScopes.Unplaced t "x.I" "T.java" (some "y.T") ∧
      crowdedScopes.Meant t " x.I " "T.java" (some "y.T") (some "q.I") ∧
      crowdedScopes.Unplaced t "x.M" "T.java" (some "y.T") ∧
      crowdedScopes.Meant t " x.M " "T.java" (some "y.T") none := by
  have hplain : ∀ e ∈ crowded, '@' ∉ e.qualified.toList := by decide
  obtain ⟨t, ht, hall⟩ := meant_resolveType (Path.ofString "/r") "java" hplain
  have hfacts : ((SymbolTable.empty (Path.ofString "/r") "java").addAll crowded).map (fun t => decide
      ((∀ e ∈ crowdedScopes.bindings.entries, e.2 ∈ t.symbols.keys) ∧
        crowdedScopes.Unplaced t "x.I" "T.java" (some "y.T") ∧
        crowdedScopes.resolveType t " x.I " "T.java" (some "y.T") = .ok (some "q.I") ∧
        crowdedScopes.Unplaced t "x.M" "T.java" (some "y.T") ∧
        crowdedScopes.resolveType t " x.M " "T.java" (some "y.T") = .ok none)) = .ok true := by decide +kernel
  rw [ht] at hfacts
  obtain ⟨hentries, hsingle, hfound, hseveral, hnone⟩ := of_decide_eq_true (Except.ok.inj hfacts)
  have hbound : ∀ key id, crowdedScopes.bindings.get? key = some id → id ∈ t.symbols.keys :=
    fun key id hid => hentries (key, id) (OrderedMap.mem_entries_of_lookup hid)
  obtain ⟨found, hsame, hmeant⟩ := hall crowdedScopes hbound " x.I " "T.java" (some "y.T")
  obtain ⟨found', hsame', hmeant'⟩ := hall crowdedScopes hbound " x.M " "T.java" (some "y.T")
  rw [hfound] at hsame
  rw [hnone] at hsame'
  cases hsame
  cases hsame'
  exact ⟨hplain, t, ht, hbound, hsingle, hmeant, hseveral, hmeant'⟩

end Scopes

end CodeAtlas
