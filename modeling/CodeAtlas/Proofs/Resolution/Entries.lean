import CodeAtlas.Proofs.Resolution.Naming
import CodeAtlas.Proofs.Resolution.Symbols
/-!
  Which declaration a symbol comes from.

  A table is filled with entries: those of the modules, then those of the types, then those of the functions.  Entries
  may share their file and qualified name; then the first one makes the symbol, and the others get it.  `Registered`
  says what a table knows after some entries, and `Indexed` says the same in terms of the declarations: each symbol
  comes from a file, a type or a function, and each of them has a symbol.  Two of them may have the same one.  Without
  at signs in qualified names this happens only where file and qualified name are the same.

  1. **One entry.**  It is known already and changes nothing (`Registered.concat_known`), or it is new and gets a symbol
     (`Registered.register`).  A new symbol may take the place of an older one, which is why `Registered` is about the
     symbols that are there and not about all that were made.
  2. **Many entries.**  Modules, types and functions are added by folds over `Registered.add`; only the modules ask for
     more, since packages are made on the way to them (`addModules_entered`).
  3. **Declarations.**  The three folds one after the other give `Filled`, and `Filled.indexed` puts the entries back to
     the declarations that they were made from.
-/
namespace CodeAtlas

open Fault

namespace SymbolTable

variable {t t' : SymbolTable} {es : List Entry} {e : Entry}

/-! ## Entries -/

/-- No earlier entry has the same file and qualified name. -/
def Leads (es : List Entry) (e : Entry) : Prop :=
  ∃ before after, es = before ++ e :: after ∧ e.key ∉ before.map Entry.key

theorem Leads.mem (h : Leads es e) : e ∈ es := by
  obtain ⟨before, after, rfl, -⟩ := h
  exact List.mem_append_right before List.mem_cons_self

theorem Leads.append (h : Leads es e) (more : List Entry) : Leads (es ++ more) e := by
  obtain ⟨before, after, rfl, hnew⟩ := h
  exact ⟨before, after ++ more, by rw [List.append_assoc, List.cons_append], hnew⟩

/-- The last one leads if its key is new. -/
theorem leads_concat (hnew : e.key ∉ es.map Entry.key) : Leads (es ++ [e]) e := ⟨es, [], rfl, hnew⟩

/-- An entry of a later part leads only if the earlier part does not know it. -/
theorem Leads.not_mem_of_mem_right {es₁ es₂ : List Entry} (h : Leads (es₁ ++ es₂) e) (hmem : e ∉ es₁) :
    e.key ∉ es₁.map Entry.key := by
  obtain ⟨before, after, heq, hnew⟩ := h
  -- the first part ends before the entry does
  rcases List.append_eq_append_iff.1 heq with ⟨rest, rfl, -⟩ | ⟨rest, rfl, hrest⟩
  · exact fun hkey => hnew (by rw [List.map_append]; exact List.mem_append_left _ hkey)
  · cases rest with
    | nil => rwa [List.append_nil]
    | cons x rest =>
      cases hrest
      exact absurd (List.mem_append_right before List.mem_cons_self) hmem

/-! ## What is known of the entries -/

/-- A table gives each of some declarations the identifier of its place among them. -/
def Assigned (keys : List (String × String)) (t : SymbolTable) : Prop :=
  ∀ key ∈ keys, t.record? key.1 key.2 = some (identifierIn keys key)

/-- Where identifiers are assigned by place, a qualified name is in use exactly if it was declared. -/
theorem Recorded.contains_iff_of_assigned (h : Recorded es t) (hassigned : Assigned (es.map Entry.key) t)
    (hdist : Distinguishable ((es ++ [e]).map Entry.key)) :
    t.symbols.contains e.qualified = true ↔ e.qualified ∈ (es.map Entry.key).map (·.2) := by
  constructor
  · intro hcontains
    obtain ⟨file, qualified, hid⟩ := h.owned _ hcontains
    have hkey : (file, qualified) ∈ es.map Entry.key := (h.known file qualified).1 (Option.isSome_of_mem hid)
    have hsame : identifierIn (es.map Entry.key) (file, qualified) = e.qualified := by
      have := hassigned _ hkey
      rw [hid] at this
      exact (Option.some.inj this).symm
    rcases identifierIn_cases (es.map Entry.key) (file, qualified) with heq | heq
    · exact List.mem_map.2 ⟨(file, qualified), hkey, heq.symm.trans hsame⟩
    · -- the name would be the second form of an older identifier
      have hmem : (file, qualified) ∈ (es ++ [e]).map Entry.key := by
        rw [List.map_append]
        exact List.mem_append_left _ hkey
      have hlast : e.key ∈ (es ++ [e]).map Entry.key := List.mem_map_of_mem (by simp)
      exact absurd (hsame.symm.trans heq) (hdist.names e.key hlast _ hmem)
  · intro hname
    obtain ⟨k, hk, -, hid⟩ := exists_identifierIn_eq hname
    have hrecord := hassigned k hk
    rw [hid] at hrecord
    exact h.sound.records _ _ _ hrecord

/-- A symbol says what its entry says. -/
structure Shows (e : Entry) (s : Symbol) : Prop where
  kind : s.kind = e.kind
  file : s.file = e.file
  relations : s.relations = []
  qualified : e.metadata.get? "qualified_name" = none →
    s.metadata.get? "qualified_name" = some (.str e.qualified)

/-- So does the symbol that is made for an entry. -/
theorem shows_symbolOf (t : SymbolTable) (e : Entry) : Shows e (t.symbolOf e) :=
  ⟨rfl, rfl, rfl, get?_qualified_symbolOf t e⟩

/-- What a table knows after some entries were added. -/
structure Registered (es : List Entry) (t : SymbolTable) : Prop where
  recorded : Recorded es t
  symbols : ∀ id s, t.symbols.get? id = some s →
    ∃ e, Leads es e ∧ t.record? e.file e.qualified = some id ∧ Shows e s
  /-- a name leads to the first entry that has it -/
  firsts : ∀ name, t.lookup? name = ((es.map Entry.key).find? fun k => k.2 = name).bind fun k => t.record? k.1 k.2
  titles : ∀ title ids, t.byTitle.get? title = some ids → ∀ id ∈ ids,
    ∃ e, Leads es e ∧ e.kind ∈ typeKinds ∧ t.record? e.file e.qualified = some id
  /-- a known name is the identifier of some symbol -/
  taken : ∀ name id, t.lookup? name = some id → t.symbols.contains name = true
  /-- and who has it is found by it -/
  plain : ∀ file name, t.record? file name = some name → t.lookup? name = some name
  distinct : (∀ e ∈ es, '@' ∉ e.qualified.toList) → t.HasDistinctIds
  assigned : Distinguishable (es.map Entry.key) → Assigned (es.map Entry.key) t

theorem registered_empty (root : Path) (language : String) : Registered [] (empty root language) :=
  ⟨recorded_empty root language, (fun _ _ h => nomatch h), (fun _ => rfl), (fun _ _ h => nomatch h),
    (fun _ _ h => nomatch h), (fun _ _ h => nomatch h), (fun _ _ _ _ _ _ h => nomatch h), fun _ _ h => nomatch h⟩

/-- What a name leads to was declared under it. -/
theorem Registered.lookups (h : Registered es t) (name id : String) (hid : t.lookup? name = some id) :
    ∃ e ∈ es, e.qualified = name ∧ t.record? e.file name = some id := by
  rw [h.firsts, Option.bind_eq_some_iff] at hid
  obtain ⟨k, hk, hrecord⟩ := hid
  have hname : k.2 = name := by simpa using List.find?_some hk
  obtain ⟨e, he, rfl⟩ := List.mem_map.1 (List.mem_of_find?_eq_some hk)
  subst hname
  exact ⟨e, he, rfl, hrecord⟩

/-- As long as identifiers cannot be mixed up, each declaration has the symbol of the first entry that is known as it. -/
theorem Registered.exists_shows (h : Registered es t) (hdist : Distinguishable (es.map Entry.key))
    {key : String × String} (hkey : key ∈ es.map Entry.key) :
    ∃ e s, Leads es e ∧ e.key = key ∧ t.symbols.get? (identifierIn (es.map Entry.key) key) = some s ∧ Shows e s := by
  have hassigned := h.assigned hdist
  obtain ⟨s, hs⟩ := Option.isSome_iff_exists.1 (h.recorded.sound.records _ _ _ (hassigned key hkey))
  obtain ⟨e, hleads, hrecord, hshows⟩ := h.symbols _ s hs
  have hmem : e.key ∈ es.map Entry.key := List.mem_map_of_mem hleads.mem
  have hid : t.record? e.file e.qualified = some (identifierIn (es.map Entry.key) e.key) := hassigned e.key hmem
  rw [hrecord, Option.some.injEq] at hid
  exact ⟨e, s, hleads, (hdist.eq_of_identifierIn_eq hkey hmem hid).symm, hs, hshows⟩

/-- An entry that is known already changes nothing. -/
theorem Registered.concat_known (h : Registered es t) (hknown : e.key ∈ es.map Entry.key) :
    Registered (es ++ [e]) t where
  recorded := by
    obtain ⟨s, t', hadd, hrec⟩ := h.recorded.add e
    obtain ⟨s', hadd'⟩ := h.recorded.add_known hknown
    rw [hadd] at hadd'
    cases hadd'
    exact hrec
  symbols id s hs := by
    obtain ⟨e', hleads, hrest⟩ := h.symbols id s hs
    exact ⟨e', hleads.append [e], hrest⟩
  firsts name := by
    rw [h.firsts, List.map_append, List.find?_append]
    cases hfound : (es.map Entry.key).find? fun k => k.2 = name with
    | some k => rfl
    | none =>
      -- the new one has the name of an old one
      have hother : ¬ e.key.2 = name := by simpa using List.find?_eq_none.1 hfound e.key hknown
      simp [hother]
  titles title ids hids id hid := by
    obtain ⟨e', hleads, hrest⟩ := h.titles title ids hids id hid
    exact ⟨e', hleads.append [e], hrest⟩
  taken := h.taken
  plain := h.plain
  distinct hplain := h.distinct fun e' he' => hplain e' (List.mem_append_left _ he')
  assigned hdist key hkey := by
    rw [List.map_append] at hdist hkey ⊢
    have hold : key ∈ es.map Entry.key := by
      rcases List.mem_append.1 hkey with hold | hlast
      · exact hold
      · rw [List.map_singleton, List.mem_singleton] at hlast
        exact hlast ▸ hknown
    rw [identifierIn_append hold]
    exact h.assigned (hdist.of_subset fun k hk => List.mem_append_left _ hk) key hold

/-- A name that leads somewhere stays in use.  If it is the new one that it leads to, this one has got the plain name,
    or somebody had it before. -/
theorem Registered.taken_register (h : Registered es t) (e : Entry) {name id : String}
    (hid : (t.register e (t.symbolOf e)).lookup? name = some id) :
    (t.register e (t.symbolOf e)).symbols.contains name = true := by
  rw [contains_register, Bool.or_eq_true, decide_eq_true_iff]
  by_cases hname : t.symbols.contains name = true
  · exact .inr hname
  · rw [lookup?_register] at hid
    split at hid
    · next heq =>
      cases heq
      left
      show t.freshId e.qualified e.file = e.qualified
      unfold freshId
      rw [if_neg hname]
    · exact .inr (h.taken name id hid)

/-- Who gets the plain name is the first one under it: while the name is free, no look-up knows it. -/
theorem Registered.plain_register (h : Registered es t) (e : Entry) {file name : String}
    (hid : (t.register e (t.symbolOf e)).record? file name = some name) :
    (t.register e (t.symbolOf e)).lookup? name = some name := by
  rw [record?_register] at hid
  rw [lookup?_register]
  split at hid
  · next hkey =>
    cases hkey
    have hfresh : t.freshId e.qualified e.file = e.qualified := Option.some.inj hid
    -- a name that is free was not known before
    have hfree : t.symbols.contains e.qualified ≠ true := by
      intro htaken
      have hlength := congrArg String.length hfresh
      rw [freshId, if_pos htaken, String.length_append, String.length_append] at hlength
      have hat : "@".length = 1 := rfl
      omega
    have hnone : t.lookup? e.qualified = none :=
      Option.eq_none_iff_forall_ne_some.2 fun id hid' => hfree (h.taken _ id hid')
    rw [if_pos rfl, hnone]
    exact hid
  · have hold := h.plain file name hid
    rw [hold]
    split
    · next heq => rw [heq, hold]; rfl
    · rfl

/-- The old ones keep their places, and the new one gets the identifier that its place gives it.  Here the names have
    to be distinguishable: otherwise a name could be in use that was never declared. -/
theorem Registered.assigned_register (h : Registered es t) (hnew : e.key ∉ es.map Entry.key)
    (hdist : Distinguishable ((es ++ [e]).map Entry.key)) :
    Assigned ((es ++ [e]).map Entry.key) (t.register e (t.symbolOf e)) := by
  have hsub : ∀ k ∈ es.map Entry.key, k ∈ (es ++ [e]).map Entry.key := by
    intro k hk
    rw [List.map_append]
    exact List.mem_append_left _ hk
  have hassigned := h.assigned (hdist.of_subset hsub)
  have hcontains := h.recorded.contains_iff_of_assigned hassigned hdist
  intro key hkey
  rw [List.map_append] at hkey ⊢
  rcases List.mem_append.1 hkey with hold | hlast
  · have hne : (e.file, e.qualified) ≠ key := by
      rintro rfl
      exact hnew hold
    rw [identifierIn_append hold, record?_register, if_neg hne]
    exact hassigned key hold
  -- the table asks whether the name is in use, and its place among the keys whether it was declared
  · rw [List.map_singleton, List.mem_singleton] at hlast
    subst hlast
    have hfresh : t.freshId e.qualified e.file = identifierIn (es.map Entry.key ++ [e.key]) e.key := by
      rw [identifierIn_concat hnew]
      unfold freshId
      simp only [hcontains]
      rfl
    show (t.register e (t.symbolOf e)).record? e.file e.qualified = _
    rw [record?_register, if_pos rfl]
    exact congrArg some hfresh

/-- A name leads where it led before, unless the new one is the first that has it. -/
theorem Registered.firsts_register (h : Registered es t) (hnew : e.key ∉ es.map Entry.key) (name : String) :
    (t.register e (t.symbolOf e)).lookup? name =
      (((es ++ [e]).map Entry.key).find? fun k => k.2 = name).bind fun k =>
        (t.register e (t.symbolOf e)).record? k.1 k.2 := by
  rw [lookup?_register, List.map_append, List.find?_append]
  cases hfound : (es.map Entry.key).find? fun k => k.2 = name with
  | some k =>
    -- an old one has the name, and its record stays
    have hk := List.mem_of_find?_eq_some hfound
    have hother : ¬ (e.file, e.qualified) = (k.1, k.2) := fun heq => hnew (by rw [Entry.key, heq]; exact hk)
    obtain ⟨id, hid⟩ := Option.isSome_iff_exists.1 ((h.recorded.known k.1 k.2).2 hk)
    have hlookup : t.lookup? name = some id := by rw [h.firsts, hfound, Option.bind_some, hid]
    rw [Option.some_or, Option.bind_some, record?_register, if_neg hother, hid]
    split
    · next heq => rw [heq, hlookup, Option.getD_some]
    · exact hlookup
  | none =>
    have hlookup : t.lookup? name = none := by rw [h.firsts, hfound, Option.bind_none]
    rw [Option.none_or]
    split
    · next heq =>
      have hself : (([e].map Entry.key).find? fun k => k.2 = name) = some e.key := by simp [Entry.key, heq]
      rw [hself, Option.bind_some, heq, hlookup, Option.getD_none]
      show _ = (t.register e (t.symbolOf e)).record? e.file e.qualified
      rw [record?_register, if_pos rfl]
    · next hother =>
      have hnone : (([e].map Entry.key).find? fun k => k.2 = name) = none := by simp [Entry.key, hother]
      rw [hnone, Option.bind_none, hlookup]

/-- A title leads to the types that have it, and the new symbol is one more if it is of a type.  Nobody looks whether it
    has taken the place of another one. -/
theorem Registered.titles_register (h : Registered es t) (hnew : e.key ∉ es.map Entry.key) {title id : String}
    {ids : List String} (hids : (t.register e (t.symbolOf e)).byTitle.get? title = some ids) (hid : id ∈ ids) :
    ∃ e', Leads (es ++ [e]) e' ∧ e'.kind ∈ typeKinds ∧
      (t.register e (t.symbolOf e)).record? e'.file e'.qualified = some id := by
  have hold : ∀ title ids, t.byTitle.get? title = some ids → ∀ id ∈ ids, ∃ e', Leads (es ++ [e]) e' ∧
      e'.kind ∈ typeKinds ∧ (t.register e (t.symbolOf e)).record? e'.file e'.qualified = some id := by
    intro title ids hids id hid
    obtain ⟨e', hleads, hkind, hrecord⟩ := h.titles title ids hids id hid
    exact ⟨e', hleads.append [e], hkind, h.recorded.record?_add (h.recorded.add_new hnew) hrecord⟩
  replace hids : (if typeKinds.contains e.kind then
      t.byTitle.insert e.title ((t.byTitle.get? e.title).getD [] ++ [(t.symbolOf e).id]) else t.byTitle).get? title =
    some ids := hids
  split at hids
  · next hkind =>
    rw [OrderedMap.get?_insert] at hids
    split at hids
    · cases hids
      rcases List.mem_append.1 hid with hid | hid
      · cases htitle : t.byTitle.get? e.title with
        | none =>
          rw [htitle, Option.getD_none] at hid
          exact absurd hid List.not_mem_nil
        | some ids' =>
          rw [htitle, Option.getD_some] at hid
          exact hold _ ids' htitle id hid
      · rw [List.mem_singleton.1 hid]
        refine ⟨e, leads_concat hnew, List.contains_iff_mem.1 hkind, ?_⟩
        rw [record?_register, if_pos rfl]
    · exact hold title ids hids id hid
  · exact hold title ids hids id hid

/-- A new one gets a symbol, which may take the place of another one. -/
theorem Registered.register (h : Registered es t) (hnew : e.key ∉ es.map Entry.key) :
    Registered (es ++ [e]) (t.register e (t.symbolOf e)) := by
  have hadd := h.recorded.add_new hnew
  obtain ⟨s, t', hadd', hrec⟩ := h.recorded.add e
  rw [hadd] at hadd'
  cases hadd'
  have hkept : ∀ file qualified id, t.record? file qualified = some id →
      (t.register e (t.symbolOf e)).record? file qualified = some id := fun _ _ _ => h.recorded.record?_add hadd
  have hself : (t.register e (t.symbolOf e)).record? e.file e.qualified = some (t.symbolOf e).id := by
    rw [record?_register, if_pos rfl]
  refine ⟨hrec, fun id s hs => ?_, h.firsts_register hnew, fun title ids hids id hid => h.titles_register hnew hids hid,
    fun name id => h.taken_register e, fun file name => h.plain_register e, fun hplain => ?_, h.assigned_register hnew⟩
  · rw [get?_register] at hs
    split at hs
    · next hid =>
      cases hs
      exact ⟨e, leads_concat hnew, hid ▸ hself, shows_symbolOf t e⟩
    · obtain ⟨e', hleads, hrecord, hshows⟩ := h.symbols id s hs
      exact ⟨e', hleads.append [e], hkept _ _ _ hrecord, hshows⟩
  -- without at signs the new identifier was free, so no symbol is displaced
  · have hplain' : ∀ e' ∈ es, '@' ∉ e'.qualified.toList := fun e' he' => hplain e' (List.mem_append_left _ he')
    have hfree := h.recorded.at_free_of_plain hplain' (hplain e (by simp)) hnew
    refine (h.recorded.add_of_free hadd fun _ htaken => ?_).1 (h.distinct hplain')
    exact hfree ((contains_freshId_iff t e.qualified e.file).1 htaken).2

/-- What an addition gives: the symbol of the entry, and a table that knows it. -/
structure Entered (es : List Entry) (t : SymbolTable) (e : Entry) (r : Symbol × SymbolTable) : Prop where
  registered : Registered (es ++ [e]) r.2
  self : r.2.record? e.file e.qualified = some r.1.id
  kept : ∀ file qualified id, t.record? file qualified = some id → r.2.record? file qualified = some id

/-- Adding an entry always succeeds, known or new. -/
theorem Registered.add (h : Registered es t) (e : Entry) : Succeeds (t.add e) (Entered es t e) := by
  rcases h.recorded.sound.add_cases e with ⟨id, s, hrecord, hs, hadd⟩ | ⟨hnone, hadd⟩ <;> rw [hadd]
  · have hknown : e.key ∈ es.map Entry.key := by
      rw [Entry.key, ← h.recorded.known, hrecord]
      rfl
    refine ends_ok ⟨h.concat_known hknown, ?_, fun _ _ _ hid => hid⟩
    show t.record? e.file e.qualified = some s.id
    rw [h.recorded.sound.keyed id s hs, hrecord]
  · have hnew := h.recorded.record?_eq_none_iff.1 hnone
    refine ends_ok ⟨h.register hnew, ?_, fun _ _ _ => h.recorded.record?_add hadd⟩
    show (t.register e (t.symbolOf e)).record? e.file e.qualified = some (t.symbolOf e).id
    rw [record?_register, if_pos rfl]

/-- Data of a symbol may change, but not what its entry said. -/
theorem Registered.replace (h : Registered es t) {id : String} {s s' : Symbol} (hs : t.symbols.get? id = some s)
    (hid : s'.id = s.id) (hshows : ∀ e, Shows e s → Shows e s') :
    Registered es { t with symbols := t.symbols.insert id s' } where
  recorded :=
    { sound := h.recorded.sound.replace (hid.trans (h.recorded.sound.keyed id s hs))
      known := h.recorded.known
      owned := fun id' hid' => by
        rw [OrderedMap.contains_insert, Bool.or_eq_true, decide_eq_true_iff] at hid'
        rcases hid' with rfl | hid'
        · exact h.recorded.owned id (OrderedMap.contains_of_get? hs)
        · exact h.recorded.owned id' hid'
      formed := h.recorded.formed }
  symbols id' s₁ hs₁ := by
    rw [OrderedMap.get?_insert] at hs₁
    split at hs₁
    · next heq =>
      cases hs₁
      obtain ⟨e, hleads, hrecord, hshow⟩ := h.symbols id s hs
      exact ⟨e, hleads, heq ▸ hrecord, hshows e hshow⟩
    · exact h.symbols id' s₁ hs₁
  firsts := h.firsts
  titles := h.titles
  taken name id' hid' := by
    rw [OrderedMap.contains_insert, Bool.or_eq_true]
    exact .inr (h.taken name id' hid')
  plain := h.plain
  distinct := h.distinct
  assigned := h.assigned

/-! ## Modules and packages -/

/-- What the module of a file is known by; files of a package share theirs. -/
def moduleKey (byPackage : Bool) (f : SourceFile) : String × String :=
  if byPackage then ("", packageOf f) else (f.path, f.modulePath)

/-- The entry of the module or the package of a file. -/
structure ModuleEntry (byPackage : Bool) (f : SourceFile) (e : Entry) : Prop where
  kind : e.kind = if byPackage then "package" else "module"
  named : e.metadata.get? "qualified_name" = none
  key : e.key = moduleKey byPackage f

/-- The modules of some files. -/
structure ModulesOf (byPackage : Bool) (files : List SourceFile) (modules : FileModules) (es : List Entry)
    (t : SymbolTable) : Prop where
  registered : Registered es t
  kind : ∀ e ∈ es, e.kind = if byPackage then "package" else "module"
  named : ∀ e ∈ es, e.metadata.get? "qualified_name" = none
  order : es.map Entry.key = files.map (moduleKey byPackage)
  complete : ∀ f ∈ files, (modules.get? f.path).isSome = true
  modules : ∀ path id, modules.get? path = some id → ∃ f ∈ files, f.path = path ∧
    t.record? (moduleKey byPackage f).1 (moduleKey byPackage f).2 = some id

/-- One more file, whose module may be known already. -/
theorem ModulesOf.concat {byPackage : Bool} {files : List SourceFile} {modules : FileModules} {f : SourceFile}
    {s : Symbol} (h : ModulesOf byPackage files modules es t) (hentry : ModuleEntry byPackage f e)
    (hentered : Entered es t e (s, t')) :
    ModulesOf byPackage (files ++ [f]) (modules.insert f.path s.id) (es ++ [e]) t' where
  registered := hentered.registered
  kind e' he' := by
    rcases List.mem_append.1 he' with he' | he'
    · exact h.kind e' he'
    · rw [List.mem_singleton.1 he']
      exact hentry.kind
  named e' he' := by
    rcases List.mem_append.1 he' with he' | he'
    · exact h.named e' he'
    · rw [List.mem_singleton.1 he']
      exact hentry.named
  order := by rw [List.map_append, List.map_append, h.order, List.map_singleton, List.map_singleton, hentry.key]
  complete f' hf' := by
    rw [OrderedMap.get?_insert]
    split
    · rfl
    · next hne =>
      rcases List.mem_append.1 hf' with hf' | hf'
      · exact h.complete f' hf'
      · exact absurd (by rw [List.mem_singleton.1 hf']) hne
  modules path id hid := by
    rw [OrderedMap.get?_insert] at hid
    split at hid
    · next hpath =>
      cases hid
      refine ⟨f, by simp, hpath, ?_⟩
      rw [← hentry.key]
      exact hentered.self
    · obtain ⟨f', hf', hpath, hrecord⟩ := h.modules path id hid
      exact ⟨f', List.mem_append_left _ hf', hpath, hentered.kept _ _ _ hrecord⟩

/-- The module of a file is one entry. -/
theorem addModule_entered (h : Registered es t) (separator : String) (f : SourceFile) :
    Gives (addModule separator t f) fun r => ∃ e, ModuleEntry false f e ∧ Entered es t e r := by
  refine (ends_anyhow _).bind fun title _ => ?_
  refine (h.add _).gives.mono fun r hr => ⟨_, ⟨rfl, ?_, rfl⟩, hr⟩
  show (Metadata.setIf _ _ _ _).get? _ = none
  rw [Metadata.get?_setIf, if_neg (by simp), Metadata.get?_setIf, if_neg (by simp)]
  rfl

/-- A package that is there already is extended, which leaves everything but its data as it was. -/
theorem addPackage_entered {files : List SourceFile} {modules : FileModules} (h : ModulesOf true files modules es t)
    (f : SourceFile) :
    Gives (addPackage t f) fun r => ∃ e, ModuleEntry true f e ∧ Entered es t e r := by
  unfold addPackage
  simp only
  split
  · next id hid =>
    obtain ⟨hlookup, -⟩ := Option.filter_eq_some_iff.1 hid
    -- all entries so far are of packages, so that the name was found in one of them
    obtain ⟨e, he, hname, hrecord⟩ := h.registered.lookups _ _ hlookup
    have hkey : e.key ∈ files.map (moduleKey true) := h.order ▸ List.mem_map_of_mem he
    obtain ⟨f', -, hkey⟩ := List.mem_map.1 hkey
    have hkey : e.key = ("", packageOf f) := by
      have hfile : e.file = "" := congrArg Prod.fst hkey.symm
      rw [Entry.key, hfile, hname]
    have hrecord : t.record? e.file e.qualified = some id := by rw [hname]; exact hrecord
    cases hs : t.symbols.get? id with
    | none =>
      unfold symbol
      rw [hs]
      exact ends_error trivial
    | some s =>
      rw [symbol_eq_ok_iff.2 hs]
      have hextend : Gives (extendPackage s f) fun s' => s'.id = s.id ∧ ∀ e, Shows e s → Shows e s' := by
        refine (ends_anyhow _).bind fun items _ => (ends_anyhow _).bind fun lines _ => ?_
        refine ends_pure ⟨rfl, fun e hshow => ?_⟩
        refine ⟨hshow.kind, hshow.file, hshow.relations, fun hnone => ?_⟩
        rw [Metadata.get?_set, if_neg (by decide), Metadata.get?_set, if_neg (by decide)]
        exact hshow.qualified hnone
      refine hextend.bind fun s' hs' => ends_pure ⟨e, ⟨h.kind e he, h.named e he, hkey⟩, ?_⟩
      exact
        { registered := (h.registered.replace hs hs'.1 hs'.2).concat_known (List.mem_map_of_mem he)
          self := by
            show t.record? e.file e.qualified = some s'.id
            rw [hs'.1, h.registered.recorded.sound.keyed id s hs, hrecord]
          kept := fun _ _ _ hid => hid }
  · exact (h.registered.add _).gives.mono fun r hr => ⟨_, ⟨rfl, rfl, rfl⟩, hr⟩

/-- All modules, and the packages on the way to them. -/
theorem addModules_entered (root : Path) (language separator : String) (byPackage : Bool) (files : List SourceFile) :
    Gives ((empty root language).addModules separator byPackage files) fun r =>
      ∃ es, ModulesOf byPackage files r.1 es r.2 := by
  refine ends_foldlM_done (fun done (r : FileModules × SymbolTable) => ∃ es, ModulesOf byPackage done r.1 es r.2) ?_ ?_
  · exact ⟨[], registered_empty root language, (fun _ h => nomatch h), (fun _ h => nomatch h), rfl,
      (fun _ h => nomatch h), fun _ _ h => nomatch h⟩
  · rintro done ⟨modules, t⟩ f ⟨es, h⟩
    cases byPackage with
    | true =>
      refine (addPackage_entered h f).bind ?_
      rintro ⟨s, t'⟩ ⟨e, hentry, hentered⟩
      exact ends_pure ⟨es ++ [e], h.concat hentry hentered⟩
    | false =>
      refine (addModule_entered h.registered separator f).bind ?_
      rintro ⟨s, t'⟩ ⟨e, hentry, hentered⟩
      exact ends_pure ⟨es ++ [e], h.concat hentry hentered⟩

/-! ## Types and functions -/

/-- What was known stays known. -/
def Keeps (t t' : SymbolTable) : Prop :=
  ∀ file qualified id, t.record? file qualified = some id → t'.record? file qualified = some id

/-- One entry for each type, in their order. -/
theorem addTypes_entered (h : Registered es t) (testFiles : List String) (types : List TypeRecord) :
    Succeeds (t.addTypes testFiles types) fun t' =>
      Registered (es ++ types.map (typeEntry testFiles)) t' ∧ t.Keeps t' := by
  refine ends_foldlM_done (fun done t' => Registered (es ++ done.map (typeEntry testFiles)) t' ∧ t.Keeps t') ?_ ?_
  · exact ⟨by rwa [List.map_nil, List.append_nil], fun _ _ _ hid => hid⟩
  · rintro done t' r ⟨hdone, hkept⟩
    refine (hdone.add (typeEntry testFiles r)).map fun ⟨s, t''⟩ hentered => ⟨?_, fun file qualified id hid => ?_⟩
    · rw [List.map_append, ← List.append_assoc]
      exact hentered.registered
    · exact hentered.kept _ _ _ (hkept _ _ _ hid)

/-- The functions with their symbols. -/
structure FunctionsOf (testFiles : List String) (es : List Entry) (start : SymbolTable) (done : List FunctionRecord)
    (functions : List NamedFunction) (t : SymbolTable) : Prop where
  registered : Registered (es ++ done.map (functionEntry testFiles)) t
  kept : start.Keeps t
  records : functions.map (·.record) = done
  ids : ∀ f ∈ functions, t.record? f.record.file f.record.qualified = some f.id

/-- One entry for each function, in their order; the functions that are handed on know what they were recorded as. -/
theorem addFunctions_entered (h : Registered es t) (testFiles : List String) (functions : List FunctionRecord) :
    Succeeds (t.addFunctions testFiles functions) fun r => FunctionsOf testFiles es t functions r.1 r.2 := by
  refine ends_foldlM_done (fun done (r : List NamedFunction × SymbolTable) =>
    FunctionsOf testFiles es t done r.1 r.2) ?_ ?_
  · exact ⟨by rwa [List.map_nil, List.append_nil], fun _ _ _ hid => hid, rfl, fun _ h => nomatch h⟩
  · rintro done ⟨named, t'⟩ f hdone
    refine (hdone.registered.add (functionEntry testFiles f)).bind fun ⟨s, t''⟩ hentered => ends_pure ?_
    refine ⟨?_, fun file qualified id hid => hentered.kept _ _ _ (hdone.kept _ _ _ hid), ?_, fun g hg => ?_⟩
    · rw [List.map_append, ← List.append_assoc]
      exact hentered.registered
    · rw [List.map_append, hdone.records]
      rfl
    · rcases List.mem_append.1 hg with hg | hg
      · exact hentered.kept _ _ _ (hdone.ids g hg)
      · rw [List.mem_singleton.1 hg]
        exact hentered.self

end SymbolTable

/-! ## All declarations -/

namespace Declarations

open SymbolTable

variable {d : Declarations} {o : ResolutionOptions}

theorem mem_sortedTypes {r : TypeRecord} : r ∈ d.sortedTypes ↔ r ∈ d.types := by
  refine ⟨mem_types_of_mem_sortedTypes, fun h => ?_⟩
  rw [sortedTypes, List.mem_mergeSort, List.mem_append, List.mem_append]
  cases hform : r.form with
  | «class» kind bases metadata => exact .inl (.inl (List.mem_filter.2 ⟨h, by rw [hform]; rfl⟩))
  | interface kind => exact .inl (.inr (List.mem_filter.2 ⟨h, by rw [hform]; rfl⟩))
  | enumeration variants => exact .inr (List.mem_filter.2 ⟨h, by rw [hform]; rfl⟩)

/-- What a declaration is known by. -/
def IsModuleKey (d : Declarations) (byPackage : Bool) (key : String × String) : Prop :=
  ∃ f ∈ d.files, moduleKey byPackage f = key

/-- The same for types. -/
def IsTypeKey (d : Declarations) (key : String × String) : Prop := ∃ r ∈ d.types, (r.file, r.qualified) = key

/-- The same for functions. -/
def IsFunctionKey (d : Declarations) (key : String × String) : Prop := ∃ f ∈ d.functions, (f.file, f.qualified) = key

section

variable {byPackage : Bool} {key : String × String}

/-- The keys of the modules, without their order. -/
theorem mem_moduleKeys : key ∈ d.sortedFiles.map (moduleKey byPackage) ↔ d.IsModuleKey byPackage key := by
  rw [List.mem_map]
  simp only [sortedFiles, List.mem_mergeSort]
  rfl

/-- The keys of the types, without their order. -/
theorem mem_typeKeys : key ∈ d.sortedTypes.map (fun r => (r.file, r.qualified)) ↔ d.IsTypeKey key := by
  rw [List.mem_map]
  simp only [mem_sortedTypes]
  rfl

/-- The keys of the functions, without their order. -/
theorem mem_functionKeys : key ∈ d.sortedFunctions.map (fun f => (f.file, f.qualified)) ↔ d.IsFunctionKey key := by
  rw [List.mem_map]
  simp only [sortedFunctions, List.mem_mergeSort]
  rfl

end

/-- Where a symbol comes from: a file, a type that shares its key with no module, or a function that shares it with
    neither a module nor a type. -/
inductive Origin (d : Declarations) (byPackage : Bool) (t : SymbolTable) (id : String) (s : Symbol) : Prop
  | module {f : SourceFile} (hf : f ∈ d.files)
      (hrecord : t.record? (moduleKey byPackage f).1 (moduleKey byPackage f).2 = some id)
      (hkind : s.kind = if byPackage then "package" else "module")
  | type {r : TypeRecord} (hr : r ∈ d.types) (hrecord : t.record? r.file r.qualified = some id)
      (hkind : s.kind = r.form.kind) (hfile : s.file = r.file)
      (hname : r.form.metadata.get? "qualified_name" = none →
        s.metadata.get? "qualified_name" = some (.str r.qualified))
      (hfirst : ¬ d.IsModuleKey byPackage (r.file, r.qualified))
  | function {f : FunctionRecord} (hf : f ∈ d.functions) (hrecord : t.record? f.file f.qualified = some id)
      (hkind : s.kind = if f.owner?.isSome then "method" else "function")
      (hmodule : ¬ d.IsModuleKey byPackage (f.file, f.qualified)) (htype : ¬ d.IsTypeKey (f.file, f.qualified))

/-- What the symbols of some declarations are. -/
structure Indexed (d : Declarations) (o : ResolutionOptions) (modules : FileModules) (functions : List NamedFunction)
    (t : SymbolTable) : Prop where
  sound : t.Sound
  formed : ∀ file qualified id, t.record? file qualified = some id → id = qualified ∨ id = qualified ++ "@" ++ file
  known : ∀ file qualified, (t.record? file qualified).isSome = true ↔
    d.IsModuleKey o.byPackage (file, qualified) ∨ d.IsTypeKey (file, qualified) ∨ d.IsFunctionKey (file, qualified)
  origin : ∀ id s, t.symbols.get? id = some s → d.Origin o.byPackage t id s
  bare : ∀ id s, t.symbols.get? id = some s → s.relations = []
  lookups : ∀ name id, t.lookup? name = some id → ∃ file, t.record? file name = some id
  /-- a declaration whose identifier is its name is found by its name -/
  plain : ∀ file name, t.record? file name = some name → t.lookup? name = some name
  titles : ∀ title ids, t.byTitle.get? title = some ids → ∀ id ∈ ids,
    ∃ r ∈ d.types, t.record? r.file r.qualified = some id ∧ ¬ d.IsModuleKey o.byPackage (r.file, r.qualified)
  complete : ∀ f ∈ d.files, (modules.get? f.path).isSome = true
  modules : ∀ path id, modules.get? path = some id → ∃ f ∈ d.files, f.path = path ∧
    t.record? (moduleKey o.byPackage f).1 (moduleKey o.byPackage f).2 = some id
  records : ∀ f, f ∈ functions.map (·.record) ↔ f ∈ d.functions
  ids : ∀ f ∈ functions, t.record? f.record.file f.record.qualified = some f.id
  /-- qualified names without at signs -/
  distinct : (∀ f ∈ d.files, '@' ∉ (moduleKey o.byPackage f).2.toList) → (∀ r ∈ d.types, '@' ∉ r.qualified.toList) →
    (∀ f ∈ d.functions, '@' ∉ f.qualified.toList) → t.HasDistinctIds

/-- The functions that are handed on are declared ones. -/
theorem Indexed.record_mem {modules : FileModules} {functions : List NamedFunction} {t : SymbolTable}
    (h : d.Indexed o modules functions t) {g : NamedFunction} (hg : g ∈ functions) : g.record ∈ d.functions :=
  (h.records g.record).1 (List.mem_map_of_mem hg)

/-- The entries of the declarations, in the order in which they are added. -/
structure EntriesOf (d : Declarations) (byPackage : Bool) (es all : List Entry) : Prop where
  kind : ∀ e ∈ es, e.kind = if byPackage then "package" else "module"
  named : ∀ e ∈ es, e.metadata.get? "qualified_name" = none
  order : es.map Entry.key = d.sortedFiles.map (moduleKey byPackage)
  all : all = es ++ d.sortedTypes.map (typeEntry d.testFiles) ++ d.sortedFunctions.map (functionEntry d.testFiles)

variable {byPackage : Bool} {es all : List Entry} {e : Entry}

/-- Which keys the entries of the modules have. -/
theorem EntriesOf.isModuleKey_iff (h : d.EntriesOf byPackage es all) (key : String × String) :
    key ∈ es.map Entry.key ↔ d.IsModuleKey byPackage key := by
  rw [h.order, mem_moduleKeys]

/-- Which keys the entries of the types have. -/
theorem EntriesOf.isTypeKey_iff (key : String × String) :
    key ∈ (d.sortedTypes.map (typeEntry d.testFiles)).map Entry.key ↔ d.IsTypeKey key := by
  rw [List.map_map]
  exact mem_typeKeys

/-- Which keys the entries of the functions have. -/
theorem EntriesOf.isFunctionKey_iff (key : String × String) :
    key ∈ (d.sortedFunctions.map (functionEntry d.testFiles)).map Entry.key ↔ d.IsFunctionKey key := by
  rw [List.map_map]
  exact mem_functionKeys

theorem EntriesOf.mem_keys_iff (h : d.EntriesOf byPackage es all) (key : String × String) :
    key ∈ all.map Entry.key ↔ d.IsModuleKey byPackage key ∨ d.IsTypeKey key ∨ d.IsFunctionKey key := by
  rw [h.all, List.map_append, List.map_append, List.mem_append, List.mem_append, h.isModuleKey_iff,
    isTypeKey_iff, isFunctionKey_iff, or_assoc]

/-- The first entry with its key is that of a module, of a type, or of a function; what comes before has other keys. -/
theorem EntriesOf.cases (h : d.EntriesOf byPackage es all) (hleads : Leads all e) :
    (e ∈ es) ∨
    (∃ r ∈ d.types, e = typeEntry d.testFiles r ∧ ¬ d.IsModuleKey byPackage e.key) ∨
    ∃ f ∈ d.functions, e = functionEntry d.testFiles f ∧ ¬ d.IsModuleKey byPackage e.key ∧ ¬ d.IsTypeKey e.key := by
  by_cases hes : e ∈ es
  · exact .inl hes
  have hmodule : ¬ d.IsModuleKey byPackage e.key := by
    rw [h.all, List.append_assoc] at hleads
    exact fun hkey => hleads.not_mem_of_mem_right hes ((h.isModuleKey_iff e.key).2 hkey)
  by_cases htypes : e ∈ d.sortedTypes.map (typeEntry d.testFiles)
  · obtain ⟨r, hr, heq⟩ := List.mem_map.1 htypes
    exact .inr (.inl ⟨r, mem_sortedTypes.1 hr, heq.symm, hmodule⟩)
  have hmem := hleads.mem
  have hbefore : e ∉ es ++ d.sortedTypes.map (typeEntry d.testFiles) := by
    rw [List.mem_append]
    exact fun he => he.elim hes htypes
  rw [h.all] at hleads hmem
  obtain ⟨f, hf, heq⟩ := List.mem_map.1 ((List.mem_append.1 hmem).resolve_left hbefore)
  refine .inr (.inr ⟨f, List.mem_mergeSort.1 hf, heq.symm, hmodule, fun hkey => ?_⟩)
  refine hleads.not_mem_of_mem_right hbefore ?_
  rw [List.map_append, List.mem_append, isTypeKey_iff]
  exact .inr hkey

/-- The symbols of some entries, those of the modules first. -/
structure Filled (d : Declarations) (o : ResolutionOptions) (es all : List Entry)
    (r : FileModules × List NamedFunction × SymbolTable) : Prop where
  entries : d.EntriesOf o.byPackage es all
  registered : Registered all r.2.2
  complete : ∀ f ∈ d.files, (r.1.get? f.path).isSome = true
  modules : ∀ path id, r.1.get? path = some id → ∃ f ∈ d.files, f.path = path ∧
    r.2.2.record? (moduleKey o.byPackage f).1 (moduleKey o.byPackage f).2 = some id
  records : r.2.1.map (·.record) = d.sortedFunctions
  ids : ∀ f ∈ r.2.1, r.2.2.record? f.record.file f.record.qualified = some f.id

/-- The entries are added in their order. -/
theorem filled_symbols (d : Declarations) (o : ResolutionOptions) :
    Gives (d.symbols o) fun r => ∃ es all, d.Filled o es all r := by
  refine (addModules_entered _ _ _ o.byPackage d.sortedFiles).bind ?_
  rintro ⟨modules, t₁⟩ ⟨es, hmodules⟩
  refine (addTypes_entered hmodules.registered d.testFiles d.sortedTypes).gives.bind ?_
  rintro t₂ ⟨htypes, hkept⟩
  refine (addFunctions_entered htypes d.testFiles d.sortedFunctions).gives.bind ?_
  rintro ⟨functions, t₃⟩ hfunctions
  refine ends_pure ⟨es, _, ⟨hmodules.kind, hmodules.named, hmodules.order, rfl⟩, hfunctions.registered, fun f hf => ?_,
    fun path id hid => ?_, hfunctions.records, hfunctions.ids⟩
  · exact hmodules.complete f (List.mem_mergeSort.2 hf)
  · obtain ⟨f, hf, hpath, hrecord⟩ := hmodules.modules path id hid
    exact ⟨f, List.mem_mergeSort.1 hf, hpath, hfunctions.kept _ _ _ (hkept _ _ _ hrecord)⟩

/-- From what is known of the entries to what is known of the declarations: each entry was made from one of them, and
    its key says which kind it has. -/
theorem Filled.indexed {r : FileModules × List NamedFunction × SymbolTable} (h : d.Filled o es all r) :
    d.Indexed o r.1 r.2.1 r.2.2 := by
  have hreg := h.registered
  refine
    { sound := hreg.recorded.sound
      formed := hreg.recorded.formed
      known := fun file qualified => (hreg.recorded.known file qualified).trans (h.entries.mem_keys_iff _)
      origin := fun id s hs => ?_
      bare := fun id s hs => ?_
      lookups := fun name id hid => ?_
      plain := hreg.plain
      titles := fun title ids hids id hid => ?_
      complete := h.complete
      modules := h.modules
      records := fun f => by rw [h.records, sortedFunctions, List.mem_mergeSort]
      ids := h.ids
      distinct := fun hm ht hf => hreg.distinct fun e he => ?_ }
  · obtain ⟨e, hleads, hrecord, hshows⟩ := hreg.symbols id s hs
    rcases h.entries.cases hleads with he | ⟨r, hr, rfl, hfirst⟩ | ⟨f, hf, rfl, hmodule, htype⟩
    · obtain ⟨f, hf, hkey⟩ := (h.entries.isModuleKey_iff e.key).1 (List.mem_map_of_mem he)
      exact .module hf (by rw [hkey]; exact hrecord) (hshows.kind.trans (h.entries.kind e he))
    · exact .type hr hrecord hshows.kind hshows.file (fun hnone => hshows.qualified (get?_typeMetadata hnone _)) hfirst
    · exact .function hf hrecord hshows.kind hmodule htype
  · obtain ⟨e, -, -, hshows⟩ := hreg.symbols id s hs
    exact hshows.relations
  · obtain ⟨e, -, -, hrecord⟩ := hreg.lookups name id hid
    exact ⟨e.file, hrecord⟩
  -- titles lead to types only, so neither a module nor a function can be behind one
  · obtain ⟨e, hleads, hkind, hrecord⟩ := hreg.titles title ids hids id hid
    rcases h.entries.cases hleads with he | ⟨r, hr, rfl, hfirst⟩ | ⟨f, hf, rfl, -, -⟩
    · rw [h.entries.kind e he] at hkind
      split at hkind <;> exact absurd hkind (by decide)
    · exact ⟨r, hr, hrecord, hfirst⟩
    · replace hkind : (if f.owner?.isSome then "method" else "function") ∈ typeKinds := hkind
      split at hkind <;> exact absurd hkind (by decide)
  · rcases (h.entries.mem_keys_iff e.key).1 (List.mem_map_of_mem he) with
      ⟨f, hmem, hkey⟩ | ⟨r, hmem, hkey⟩ | ⟨f, hmem, hkey⟩
    · have hq : (moduleKey o.byPackage f).2 = e.qualified := congrArg Prod.snd hkey
      exact hq ▸ hm f hmem
    · have hq : r.qualified = e.qualified := congrArg Prod.snd hkey
      exact hq ▸ ht r hmem
    · have hq : f.qualified = e.qualified := congrArg Prod.snd hkey
      exact hq ▸ hf f hmem

/-- **Every symbol comes from a declaration, and every declaration has a symbol.** -/
theorem indexed_symbols (d : Declarations) (o : ResolutionOptions) :
    Gives (d.symbols o) fun r => d.Indexed o r.1 r.2.1 r.2.2 :=
  (filled_symbols d o).mono fun _ ⟨_, _, h⟩ => h.indexed

end Declarations

end CodeAtlas
