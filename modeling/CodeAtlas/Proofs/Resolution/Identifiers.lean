import CodeAtlas.Proofs.Resolution.Table
/-!
  When different declarations have different identifiers.

  The first declaration of a qualified name has it as its identifier.  A later one, in another file, has the name
  with an at sign and the file.  But that text may be the qualified name of something else, or may be in use
  for some other reason.  Then the new symbol takes the place of an old one, and the old declaration leads to
  the new symbol from then on.

    1. `Recorded` is what holds after any additions: the declarations that were added are known, every
       identifier belongs to one of them, and it has one of the two forms.
    2. `Displacing` says that some addition finds both forms taken.
    3. `lossless_iff` says that this is the only way to lose anything.  Without at signs in qualified names it
       does not happen, because then the two forms cannot be mixed up.
-/
namespace CodeAtlas.SymbolTable

/-- What a declaration is known by. -/
def Entry.key (e : Entry) : String × String := (e.file, e.qualified)

/-- Adds declarations one after the other. -/
def addAll (t : SymbolTable) (es : List Entry) : Except Fault SymbolTable :=
  es.foldlM (fun t e => (t.add e).map (·.2)) t

variable {start t t₁ t₂ : SymbolTable} {es es₁ es₂ : List Entry} {e : Entry}

/-- Adding two lists is adding them one after the other. -/
theorem addAll_append (t : SymbolTable) (es₁ es₂ : List Entry) :
    t.addAll (es₁ ++ es₂) = t.addAll es₁ >>= fun t₁ => t₁.addAll es₂ :=
  List.foldlM_append

/-- One addition, and then the others. -/
theorem addAll_cons {s : Symbol} (hadd : t.add e = .ok (s, t₁)) (es : List Entry) :
    t.addAll (e :: es) = t₁.addAll es := by
  rw [addAll, List.foldlM_cons, hadd]
  rfl

/-- One addition after the others. -/
theorem addAll_concat {s : Symbol} (h₁ : start.addAll es = .ok t₁) (hadd : t₁.add e = .ok (s, t₂)) :
    start.addAll (es ++ [e]) = .ok t₂ := by
  rw [addAll_append, h₁]
  exact addAll_cons hadd []

/-! ## What is known after some additions -/

/-- A table knows the declarations that were added, and nothing else. -/
structure Recorded (es : List Entry) (t : SymbolTable) : Prop where
  sound : t.Sound
  known : ∀ file qualified, (t.record? file qualified).isSome = true ↔ (file, qualified) ∈ es.map Entry.key
  /-- every identifier belongs to a declaration -/
  owned : ∀ id, t.symbols.contains id = true → ∃ file qualified, t.record? file qualified = some id
  /-- the two forms of an identifier -/
  formed : ∀ file qualified id, t.record? file qualified = some id →
    id = qualified ∨ id = qualified ++ "@" ++ file

theorem recorded_empty (root : Path) (language : String) : Recorded [] (empty root language) where
  sound := sound_empty root language
  known file qualified := by simp [record?, empty, OrderedMap.get?, OrderedMap.empty, OrderedMap.lookup]
  owned id h := nomatch h
  formed file qualified id h := nomatch h

/-- A declaration is new if it is not known. -/
theorem Recorded.record?_eq_none_iff (h : Recorded es t) :
    t.record? e.file e.qualified = none ↔ e.key ∉ es.map Entry.key := by
  rw [Entry.key, ← h.known, Option.not_isSome_iff_eq_none]

/-- What is known was added. -/
theorem Recorded.exists_of_record (h : Recorded es t) {file qualified id : String}
    (hid : t.record? file qualified = some id) : ∃ e ∈ es, e.key = (file, qualified) :=
  List.mem_map.1 ((h.known file qualified).1 (Option.isSome_of_mem hid))

/-- A known declaration changes nothing. -/
theorem Recorded.add_known (h : Recorded es t) (hknown : e.key ∈ es.map Entry.key) :
    ∃ s, t.add e = .ok (s, t) := by
  rcases h.sound.add_cases e with ⟨_, s, _, _, hadd⟩ | ⟨hnone, _⟩
  · exact ⟨s, hadd⟩
  · exact absurd hknown (h.record?_eq_none_iff.1 hnone)

/-- A new one is put in. -/
theorem Recorded.add_new (h : Recorded es t) (hnew : e.key ∉ es.map Entry.key) :
    t.add e = .ok (t.symbolOf e, t.register e (t.symbolOf e)) := by
  rcases h.sound.add_cases e with ⟨id, _, hid, _, _⟩ | ⟨_, hadd⟩
  · rw [h.record?_eq_none_iff.2 hnew] at hid
    nomatch hid
  · exact hadd

theorem freshId_cases (t : SymbolTable) (qualified file : String) :
    t.freshId qualified file = qualified ∨ t.freshId qualified file = qualified ++ "@" ++ file := by
  unfold freshId
  split
  · exact .inr rfl
  · exact .inl rfl

/-- The identifier of a new declaration is taken exactly if both of its forms are. -/
theorem contains_freshId_iff (t : SymbolTable) (qualified file : String) :
    t.symbols.contains (t.freshId qualified file) = true ↔
      t.symbols.contains qualified = true ∧ t.symbols.contains (qualified ++ "@" ++ file) = true := by
  unfold freshId
  split
  · next h => simp [h]
  · next h => simp [h]

theorem Recorded.add (h : Recorded es t) (e : Entry) :
    ∃ s t', t.add e = .ok (s, t') ∧ Recorded (es ++ [e]) t' := by
  by_cases hknown : e.key ∈ es.map Entry.key
  · obtain ⟨s, hadd⟩ := h.add_known hknown
    refine ⟨s, t, hadd, h.sound, fun file qualified => ?_, h.owned, h.formed⟩
    rw [h.known, List.map_append, List.mem_append, List.map_singleton, List.mem_singleton]
    constructor
    · exact .inl
    · rintro (hold | heq)
      · exact hold
      · exact heq ▸ hknown
  · refine ⟨_, _, h.add_new hknown, h.sound.register e _, fun file qualified => ?_, fun id hid => ?_,
      fun file qualified id hid => ?_⟩
    · rw [record?_register, List.map_append, List.mem_append, List.map_singleton, List.mem_singleton,
        ← h.known, ← Entry.key]
      by_cases hkey : e.key = (file, qualified)
      -- both sides ask whether the pair is the new one or an old one
      · simp [hkey]
      · simp [hkey, Ne.symm hkey]
    · rw [contains_register, Bool.or_eq_true, decide_eq_true_iff] at hid
      rcases hid with rfl | hold
      · exact ⟨e.file, e.qualified, by rw [record?_register, if_pos rfl]⟩
      · obtain ⟨file, qualified, hrec⟩ := h.owned id hold
        refine ⟨file, qualified, ?_⟩
        -- the owner was added before, so it is not the new declaration
        have hne : (e.file, e.qualified) ≠ (file, qualified) := by
          intro heq
          obtain ⟨e', he', hkey⟩ := h.exists_of_record hrec
          exact hknown (List.mem_map.2 ⟨e', he', hkey.trans heq.symm⟩)
        rw [record?_register, if_neg hne, hrec]
    · rw [record?_register] at hid
      split at hid
      · next hkey =>
        cases hkey
        cases hid
        exact freshId_cases t e.qualified e.file
      · exact h.formed file qualified id hid

theorem Recorded.addAll (h : Recorded [] start) (es : List Entry) : ∃ t, start.addAll es = .ok t ∧ Recorded es t := by
  refine (Fault.ends_foldlM_done Recorded h fun done t e hdone => ?_).exists_ok
  obtain ⟨s, t', hadd, hrec⟩ := hdone.add e
  rw [hadd]
  exact Fault.ends_ok hrec

/-- **Adding always ends**, and then exactly the declarations that were added are known. -/
theorem recorded_addAll (root : Path) (language : String) (es : List Entry) :
    ∃ t, (empty root language).addAll es = .ok t ∧ Recorded es t :=
  (recorded_empty root language).addAll es

/-- What is known after the first of some additions. -/
theorem Recorded.of_prefix (hstart : Recorded [] start) (h₁ : start.addAll es₁ = .ok t₁) : Recorded es₁ t₁ := by
  obtain ⟨t, ht, hrec⟩ := hstart.addAll es₁
  rw [h₁] at ht
  cases ht
  exact hrec

/-! ## Losing nothing -/

/-- Different declarations have different identifiers. -/
def HasDistinctIds (t : SymbolTable) : Prop :=
  ∀ file₁ qualified₁ file₂ qualified₂ id, t.record? file₁ qualified₁ = some id →
    t.record? file₂ qualified₂ = some id → (file₁, qualified₁) = (file₂, qualified₂)

/-- Nothing is lost when declarations are added to a table one after the other. -/
structure Lossless (start : SymbolTable) (es : List Entry) (t : SymbolTable) : Prop where
  /-- different declarations have different identifiers -/
  distinct : ∀ e₁ ∈ es, ∀ e₂ ∈ es,
    t.record? e₁.file e₁.qualified = t.record? e₂.file e₂.qualified → e₁.key = e₂.key
  /-- the identifier of a declaration leads to the symbol that its first addition made -/
  first : ∀ es₁ e es₂ t₁, es = es₁ ++ e :: es₂ → start.addAll es₁ = .ok t₁ → e.key ∉ es₁.map Entry.key →
    ∃ s t₂, t₁.add e = .ok (s, t₂) ∧ t.record? e.file e.qualified = some s.id ∧
      t.symbols.get? s.id = some s
  /-- and no symbol is replaced or changed -/
  kept : ∀ es₁ es₂ t₁, es = es₁ ++ es₂ → start.addAll es₁ = .ok t₁ →
    ∀ id s, t₁.symbols.get? id = some s → t.symbols.get? id = some s

/-- Some addition of a new declaration finds its qualified name taken, and the name with the file as well. -/
def Displacing (start : SymbolTable) (es : List Entry) : Prop :=
  ∃ es₁ e es₂ t₁, es = es₁ ++ e :: es₂ ∧ start.addAll es₁ = .ok t₁ ∧ e.key ∉ es₁.map Entry.key ∧
    t₁.symbols.contains e.qualified = true ∧ t₁.symbols.contains (e.qualified ++ "@" ++ e.file) = true

/-! ## One addition -/

/-- A declaration keeps its identifier. -/
theorem Recorded.record?_add (h : Recorded es t) {s : Symbol} {t' : SymbolTable} (hadd : t.add e = .ok (s, t'))
    {file qualified id : String} (hid : t.record? file qualified = some id) :
    t'.record? file qualified = some id := by
  rcases h.sound.add_cases e with ⟨_, _, _, _, heq⟩ | ⟨hnone, heq⟩ <;> rw [heq] at hadd <;> cases hadd
  · exact hid
  · have hne : (e.file, e.qualified) ≠ (file, qualified) := by
      rintro ⟨⟩
      rw [hnone] at hid
      nomatch hid
    rw [record?_register, if_neg hne, hid]

/-- As long as the new identifier is free, distinct identifiers stay distinct and symbols stay in place. -/
theorem Recorded.add_of_free (h : Recorded es t) {s : Symbol} {t' : SymbolTable} (hadd : t.add e = .ok (s, t'))
    (hfree : e.key ∉ es.map Entry.key → ¬ t.symbols.contains (t.freshId e.qualified e.file) = true) :
    (t.HasDistinctIds → t'.HasDistinctIds) ∧
      ∀ id s, t.symbols.get? id = some s → t'.symbols.get? id = some s := by
  by_cases hknown : e.key ∈ es.map Entry.key
  · obtain ⟨s', heq⟩ := h.add_known hknown
    rw [heq] at hadd
    cases hadd
    exact ⟨id, fun _ _ => id⟩
  · have hid : ¬ t.symbols.contains (t.symbolOf e).id = true := hfree hknown
    rw [h.add_new hknown] at hadd
    cases hadd
    refine ⟨fun hdistinct file₁ qualified₁ file₂ qualified₂ id h₁ h₂ => ?_, fun id s' hs' => ?_⟩
    · rw [record?_register] at h₁ h₂
      split at h₁ <;> split at h₂
      · next heq₁ heq₂ => exact heq₁.symm.trans heq₂
      -- one of the two is new: its identifier was free, so the other one cannot have it
      · cases h₁
        exact absurd (h.sound.records _ _ _ h₂) hid
      · cases h₂
        exact absurd (h.sound.records _ _ _ h₁) hid
      · exact hdistinct _ _ _ _ _ h₁ h₂
    · have hne : (t.symbolOf e).id ≠ id := by
        rintro rfl
        exact hid (OrderedMap.contains_of_get? hs')
      rw [get?_register, if_neg hne, hs']

/-! ## All additions -/

theorem Recorded.record?_addAll (h : Recorded es₁ t₁) (h₂ : t₁.addAll es₂ = .ok t) {file qualified id : String}
    (hid : t₁.record? file qualified = some id) : t.record? file qualified = some id := by
  induction es₂ generalizing es₁ t₁ with
  | nil => cases h₂; exact hid
  | cons e rest ih =>
    obtain ⟨s, t₂, hadd, hrec⟩ := h.add e
    rw [addAll_cons hadd] at h₂
    exact ih hrec h₂ (h.record?_add hadd hid)

/-- Without a displacement, distinct identifiers stay distinct and symbols stay in place. -/
theorem Recorded.addAll_of_not_displacing (h : Recorded es₁ t₁) (h₁ : start.addAll es₁ = .ok t₁)
    (h₂ : t₁.addAll es₂ = .ok t) (hno : ¬ Displacing start (es₁ ++ es₂)) :
    (t₁.HasDistinctIds → t.HasDistinctIds) ∧
      ∀ id s, t₁.symbols.get? id = some s → t.symbols.get? id = some s := by
  induction es₂ generalizing es₁ t₁ with
  | nil => cases h₂; exact ⟨id, fun _ _ => id⟩
  | cons e rest ih =>
    obtain ⟨s, t₂, hadd, hrec⟩ := h.add e
    have hfree : e.key ∉ es₁.map Entry.key → ¬ t₁.symbols.contains (t₁.freshId e.qualified e.file) = true := by
      intro hnew htaken
      obtain ⟨hplain, hfile⟩ := (contains_freshId_iff t₁ e.qualified e.file).1 htaken
      exact hno ⟨es₁, e, rest, t₁, rfl, h₁, hnew, hplain, hfile⟩
    obtain ⟨hdistinct, hkept⟩ := h.add_of_free hadd hfree
    rw [addAll_cons hadd] at h₂
    -- the new declaration now counts among the first ones, which leaves the whole list as it was
    rw [← List.singleton_append, ← List.append_assoc] at hno
    obtain ⟨hdistinct', hkept'⟩ := ih hrec (addAll_concat h₁ hadd) h₂ hno
    exact ⟨fun hd => hdistinct' (hdistinct hd), fun id s hs => hkept' id s (hkept id s hs)⟩

/-- A displacement gives two declarations one identifier. -/
theorem not_lossless_of_displacing (hstart : Recorded [] start) (hes : start.addAll es = .ok t)
    (hdis : Displacing start es) : ¬ Lossless start es t := by
  intro hless
  obtain ⟨es₁, e, es₂, t₁, rfl, h₁, hnew, hplain, hfile⟩ := hdis
  have hrec₁ := Recorded.of_prefix hstart h₁
  rw [addAll_append, h₁] at hes
  replace hes : t₁.addAll (e :: es₂) = .ok t := hes
  obtain ⟨s, t₂, hadd, hid, -⟩ := hless.first es₁ e es₂ t₁ rfl h₁ hnew
  rw [hrec₁.add_new hnew] at hadd
  cases hadd
  -- the identifier belongs to an older declaration, which still has it
  obtain ⟨file, qualified, hold⟩ :=
    hrec₁.owned _ ((contains_freshId_iff t₁ e.qualified e.file).2 ⟨hplain, hfile⟩)
  obtain ⟨e', he', hkey⟩ := hrec₁.exists_of_record hold
  cases hkey
  have hsame : e.key = e'.key := by
    refine hless.distinct e (by simp) e' (by simp [he']) ?_
    rw [hid, hrec₁.record?_addAll hes hold]
    rfl
  exact hnew (hsame ▸ List.mem_map_of_mem he')

/-- Without one nothing is lost. -/
theorem lossless_of_not_displacing (hstart : Recorded [] start) (hes : start.addAll es = .ok t)
    (hno : ¬ Displacing start es) : Lossless start es t := by
  have hrec := Recorded.of_prefix hstart hes
  have hnone : start.HasDistinctIds := by
    intro file₁ qualified₁ _ _ id h₁ _
    obtain ⟨e, he, -⟩ := hstart.exists_of_record h₁
    exact absurd he List.not_mem_nil
  have hkept : ∀ es₁ es₂ t₁, es = es₁ ++ es₂ → start.addAll es₁ = .ok t₁ →
      t₁.addAll es₂ = .ok t ∧ ∀ id s, t₁.symbols.get? id = some s → t.symbols.get? id = some s := by
    rintro es₁ es₂ t₁ rfl h₁
    rw [addAll_append, h₁] at hes
    exact ⟨hes, ((Recorded.of_prefix hstart h₁).addAll_of_not_displacing h₁ hes hno).2⟩
  refine ⟨fun e₁ he₁ e₂ he₂ heq => ?_, fun es₁ e es₂ t₁ hsplit h₁ hnew => ?_, fun es₁ es₂ t₁ hsplit h₁ =>
    (hkept es₁ es₂ t₁ hsplit h₁).2⟩
  · obtain ⟨id, hid⟩ := Option.isSome_iff_exists.1 ((hrec.known e₁.file e₁.qualified).2 (List.mem_map_of_mem he₁))
    exact (hstart.addAll_of_not_displacing rfl hes hno).1 hnone _ _ _ _ id hid (heq ▸ hid)
  · have hrec₁ := Recorded.of_prefix hstart h₁
    have hadd := hrec₁.add_new hnew
    have h₂ : start.addAll (es₁ ++ [e]) = .ok (t₁.register e (t₁.symbolOf e)) := addAll_concat h₁ hadd
    obtain ⟨hrest, hget⟩ := hkept (es₁ ++ [e]) es₂ _ (by simp [hsplit]) h₂
    refine ⟨_, _, hadd, ?_, hget _ _ (by rw [get?_register, if_pos rfl])⟩
    exact (Recorded.of_prefix hstart h₂).record?_addAll hrest (by rw [record?_register, if_pos rfl])

/-! ## Names without at signs -/

/-- An identifier with an at sign shows the qualified name and the file, if the name has no at sign itself. -/
theorem eq_of_at_eq {qualified₁ file₁ qualified₂ file₂ : String} (h₁ : '@' ∉ qualified₁.toList)
    (h₂ : '@' ∉ qualified₂.toList) (h : qualified₁ ++ "@" ++ file₁ = qualified₂ ++ "@" ++ file₂) :
    (file₁, qualified₁) = (file₂, qualified₂) := by
  have hlist : qualified₁.toList ++ '@' :: file₁.toList = qualified₂.toList ++ '@' :: file₂.toList := by
    simpa using congrArg String.toList h
  have hcut := Text.Chars.cutFirst?_append_cons h₁ file₁.toList
  rw [hlist, Text.Chars.cutFirst?_append_cons h₂ file₂.toList] at hcut
  simp only [Option.some.injEq, Prod.mk.injEq, String.toList_inj] at hcut
  rw [hcut.1, hcut.2]

/-- As long as no name has an at sign, the second form of an identifier belongs to no other declaration. -/
theorem Recorded.at_free_of_plain (h : Recorded es t) (hplain : ∀ e ∈ es, '@' ∉ e.qualified.toList)
    (he : '@' ∉ e.qualified.toList) (hnew : e.key ∉ es.map Entry.key) :
    ¬ t.symbols.contains (e.qualified ++ "@" ++ e.file) = true := by
  intro htaken
  obtain ⟨file, qualified, hid⟩ := h.owned _ htaken
  obtain ⟨e', he', hkey⟩ := h.exists_of_record hid
  cases hkey
  have he'' : '@' ∉ e'.qualified.toList := hplain e' he'
  rcases h.formed _ _ _ hid with heq | heq
  · exact he'' (by rw [← heq]; simp)
  · have hkey : e.key = e'.key := eq_of_at_eq he he'' heq
    exact hnew (hkey ▸ List.mem_map_of_mem he')

/-- Without at signs in qualified names, no second form is the name of anything. -/
theorem not_displacing_of_plain (hstart : Recorded [] start) (hplain : ∀ e ∈ es, '@' ∉ e.qualified.toList) :
    ¬ Displacing start es := by
  rintro ⟨es₁, e, es₂, t₁, rfl, h₁, hnew, -, hfile⟩
  have hplain₁ : ∀ e' ∈ es₁, '@' ∉ e'.qualified.toList := fun e' he' => hplain e' (List.mem_append_left _ he')
  exact (Recorded.of_prefix hstart h₁).at_free_of_plain hplain₁ (hplain e (by simp)) hnew hfile

/-- **When nothing is lost.**  Additions always end.  They lose nothing exactly if none of them finds both forms
    of its identifier taken, and names without at signs are always safe. -/
theorem lossless_iff (root : Path) (language : String) (es : List Entry) :
    ∃ t, (empty root language).addAll es = .ok t ∧
      (Lossless (empty root language) es t ↔ ¬ Displacing (empty root language) es) ∧
      ((∀ e ∈ es, '@' ∉ e.qualified.toList) → Lossless (empty root language) es t) := by
  have hstart := recorded_empty root language
  obtain ⟨t, hes, -⟩ := recorded_addAll root language es
  refine ⟨t, hes, ⟨fun hless hdis => not_lossless_of_displacing hstart hes hdis hless,
    lossless_of_not_displacing hstart hes⟩, fun hplain => ?_⟩
  exact lossless_of_not_displacing hstart hes (not_displacing_of_plain hstart hplain)

/-- A class with an at sign in its name, and two functions of one name whose second one has the file that stands
    behind the sign. -/
def overlapping : List Entry :=
  [⟨"pkg.f@b.py", "f@b.py", "class", "a.py", .int 1, .empty⟩,
    ⟨"pkg.f", "f", "function", "a.py", .int 5, .empty⟩,
    ⟨"pkg.f", "f", "function", "b.py", .int 2, .empty⟩]

/-- The class is gone: its identifier leads to the second function. -/
theorem lost_overlapping :
    ∃ t, (empty (Path.ofString "/r") "python").addAll overlapping = .ok t ∧
      t.record? "a.py" "pkg.f@b.py" = t.record? "b.py" "pkg.f" ∧
      t.symbols.keys = ["pkg.f@b.py", "pkg.f"] ∧ t.kindOf? "pkg.f@b.py" = some "function" ∧
      ¬ Lossless (empty (Path.ofString "/r") "python") overlapping t := by
  refine ⟨_, rfl, by decide +kernel, by decide +kernel, by decide +kernel, fun hless => ?_⟩
  have hkey := hless.distinct overlapping[0] (by decide +kernel) overlapping[2] (by decide +kernel)
    (by decide +kernel)
  revert hkey
  decide +kernel

end CodeAtlas.SymbolTable
