import CodeAtlas.Fault
/-!
  How a step that may fail ends.

  `Ends x good bad` says of a step that its result, if there is one, is good, and that its cause of failure, if
  there is one, is bad in a way that is expected.  Where nothing is expected to fail, `bad` is never true, and
  the step is certain to give a result.

  There is one rule for each way to put steps together: a result (`ends_ok`), a failure (`ends_error`), one step after
  the other (`Ends.bind`), a step of which the result is changed (`Ends.map`), a loop (`ends_foldlM`), and the same step
  for each element of a list (`ends_mapM`, `ends_filterMapM`).  A function made of such steps has a statement of this
  form with one rule for each line of its text, and that is how such a proof reads.

  The second half is about lists alone: when the steps of a list succeed together, and what the results then are.
-/
namespace CodeAtlas

namespace Fault

/-- A step gives a result with a property, or it fails with a cause of some sort. -/
structure Ends {α : Type} (x : Except Fault α) (good : α → Prop) (bad : Fault → Prop) : Prop where
  of_ok : ∀ {a}, x = .ok a → good a
  of_error : ∀ {f}, x = .error f → bad f

/-- A step is certain to give a result, which has a property. -/
abbrev Succeeds {α : Type} (x : Except Fault α) (good : α → Prop) : Prop := Ends x good fun _ => False

/-- If a step gives a result, it has a property. -/
abbrev Gives {α : Type} (x : Except Fault α) (good : α → Prop) : Prop := Ends x good fun _ => True

variable {α β σ : Type} {bad : Fault → Prop}

/-- A result that is there has to have the property itself. -/
theorem ends_ok {good : α → Prop} {a : α} (h : good a) : Ends (.ok a) good bad :=
  ⟨fun heq => by cases heq; exact h, fun heq => nomatch heq⟩

/-- The same for a step that only hands a result on. -/
theorem ends_pure {good : α → Prop} {a : α} (h : good a) : Ends (pure a) good bad := ends_ok h

/-- A failure is fine if its cause is of the expected sort. -/
theorem ends_error {good : α → Prop} {f : Fault} (h : bad f) : Ends (.error f) good bad :=
  ⟨(fun heq => nomatch heq), fun heq => by cases heq; exact h⟩

/-- Nothing is said of a step. -/
theorem ends_anyhow (x : Except Fault α) : Ends x (fun _ => True) fun _ => True :=
  ⟨fun _ => trivial, fun _ => trivial⟩

/-- What cannot fail gives a result. -/
theorem Ends.exists_ok {good : α → Prop} {x : Except Fault α} (h : Succeeds x good) :
    ∃ a, x = .ok a ∧ good a := by
  cases x with
  | ok a => exact ⟨a, rfl, h.of_ok rfl⟩
  | error f => exact absurd (h.of_error rfl) id

/-- A property of the result may be replaced by one that follows from it. -/
theorem Ends.mono {good better : α → Prop} {x : Except Fault α} (h : Ends x better bad)
    (himp : ∀ a, better a → good a) : Ends x good bad :=
  ⟨fun heq => himp _ (h.of_ok heq), h.of_error⟩

/-- What is known of the causes can be forgotten, so that only the result counts. -/
theorem Ends.gives {good : α → Prop} {x : Except Fault α} (h : Ends x good bad) : Gives x good :=
  ⟨h.of_ok, fun _ => trivial⟩

/-- What a step gives is the result of this step. -/
theorem Ends.eq_ok {x : Except Fault α} (h : Ends x (fun _ => True) bad) : Ends x (fun a => x = .ok a) bad :=
  ⟨fun heq => heq, h.of_error⟩

/-- A sort of causes may be replaced by a greater one. -/
theorem Ends.weaken {good : α → Prop} {worse : Fault → Prop} {x : Except Fault α} (h : Ends x good bad)
    (himp : ∀ f, bad f → worse f) : Ends x good worse :=
  ⟨h.of_ok, fun heq => himp _ (h.of_error heq)⟩

/-- What is certain to give a result fails with no cause at all. -/
theorem Ends.surely {good : α → Prop} {x : Except Fault α} (h : Succeeds x good) : Ends x good bad :=
  h.weaken fun _ hfalse => hfalse.elim

/-- Two statements about one step are one statement about its result. -/
theorem Ends.and {good better : α → Prop} {x : Except Fault α} (h : Ends x good bad) (h' : Ends x better bad) :
    Ends x (fun a => good a ∧ better a) bad :=
  ⟨fun heq => ⟨h.of_ok heq, h'.of_ok heq⟩, h.of_error⟩

/-- The second step starts from a good result of the first one. -/
theorem Ends.bind {good : α → Prop} {goal : β → Prop} {x : Except Fault α} {f : α → Except Fault β}
    (hx : Ends x good bad) (hf : ∀ a, good a → Ends (f a) goal bad) : Ends (x >>= f) goal bad := by
  cases x with
  | ok a => exact hf a (hx.of_ok rfl)
  | error e => exact ends_error (hx.of_error rfl)

/-- A function that cannot fail is applied to the result, and changes nothing about the causes. -/
theorem Ends.map {good : α → Prop} {goal : β → Prop} {x : Except Fault α} {f : α → β}
    (hx : Ends x good bad) (hf : ∀ a, good a → goal (f a)) : Ends (x.map f) goal bad := by
  cases x with
  | ok a => exact ends_ok (hf a (hx.of_ok rfl))
  | error e => exact ends_error (hx.of_error rfl)

/-- A loop ends well if each of its steps keeps some property of the state. -/
theorem ends_foldlM (good : σ → Prop) {f : σ → α → Except Fault σ} {xs : List α} {s : σ} (hs : good s)
    (hstep : ∀ s x, x ∈ xs → good s → Ends (f s x) good bad) : Ends (xs.foldlM f s) good bad := by
  induction xs generalizing s with
  | nil => exact ends_ok hs
  | cons x rest ih =>
    rw [List.foldlM_cons]
    refine (hstep s x List.mem_cons_self hs).bind fun s' hs' => ?_
    exact ih hs' fun s y hy => hstep s y (List.mem_cons_of_mem x hy)

/-- The same, for a property that also speaks of the elements that were gone through. -/
theorem ends_foldlM_done (good : List α → σ → Prop) {f : σ → α → Except Fault σ} {xs : List α} {s : σ}
    (hs : good [] s) (hstep : ∀ done s x, good done s → Ends (f s x) (good (done ++ [x])) bad) :
    Ends (xs.foldlM f s) (good xs) bad := by
  -- the induction is on what is left, so what is done has to be general
  have hfrom : ∀ done s, good done s → Ends (xs.foldlM f s) (good (done ++ xs)) bad := by
    induction xs with
    | nil => intro done s h; rw [List.append_nil]; exact ends_ok h
    | cons x rest ih =>
      intro done s h
      rw [List.foldlM_cons]
      refine (hstep done s x h).bind fun s' hs' => ?_
      rw [← List.singleton_append, ← List.append_assoc]
      exact ih (done ++ [x]) s' hs'
  exact hfrom [] s hs

/-- All results of a list are good if each one is. -/
theorem ends_mapM (good : β → Prop) {f : α → Except Fault β} {xs : List α}
    (hf : ∀ x, x ∈ xs → Ends (f x) good bad) : Ends (xs.mapM f) (fun ys => ∀ y ∈ ys, good y) bad := by
  induction xs with
  | nil => exact ends_ok fun y hy => absurd hy List.not_mem_nil
  | cons x rest ih =>
    rw [List.mapM_cons]
    refine (hf x List.mem_cons_self).bind fun y hy => ?_
    refine (ih fun z hz => hf z (List.mem_cons_of_mem x hz)).bind fun ys hys => ?_
    exact ends_ok (List.forall_mem_cons.2 ⟨hy, hys⟩)

/-- All results that are kept are good if each one is. -/
theorem ends_filterMapM (good : β → Prop) {f : α → Except Fault (Option β)} {xs : List α}
    (hf : ∀ x, x ∈ xs → Ends (f x) (fun y => ∀ b ∈ y, good b) bad) :
    Ends (xs.filterMapM f) (fun ys => ∀ y ∈ ys, good y) bad := by
  induction xs with
  | nil => exact ends_ok fun y hy => absurd hy List.not_mem_nil
  | cons x rest ih =>
    rw [List.filterMapM_cons]
    refine (hf x List.mem_cons_self).bind fun y hy => ?_
    have hrest := ih fun z hz => hf z (List.mem_cons_of_mem x hz)
    cases y with
    | none => exact hrest
    | some b => exact hrest.bind fun ys hys => ends_ok (List.forall_mem_cons.2 ⟨hy b rfl, hys⟩)

/-- Steps that all give a result give the list of their results. -/
theorem mapM_eq_map {f : α → Except Fault β} {g : α → β} {xs : List α} (h : ∀ x ∈ xs, f x = .ok (g x)) :
    xs.mapM f = .ok (xs.map g) := by
  induction xs with
  | nil => rfl
  | cons x rest ih =>
    obtain ⟨hx, hrest⟩ := List.forall_mem_cons.1 h
    rw [List.mapM_cons, hx, ih hrest]
    rfl

/-- A step and the next one give some result. -/
theorem exists_bind_eq_ok_iff {x : Except Fault α} {f : α → Except Fault β} :
    (∃ b, (x >>= f) = .ok b) ↔ ∃ a, x = .ok a ∧ ∃ b, f a = .ok b := by
  constructor
  · rintro ⟨b, h⟩
    exact (bind_eq_ok_iff.1 h).imp fun a ha => ⟨ha.1, b, ha.2⟩
  · rintro ⟨a, ha, b, hb⟩
    exact ⟨b, bind_eq_ok_iff.2 ⟨a, ha, hb⟩⟩

/-- A function that cannot fail does not change whether there is a result. -/
theorem exists_map_eq_ok_iff {x : Except Fault α} {f : α → β} : (∃ b, x.map f = .ok b) ↔ ∃ a, x = .ok a := by
  constructor
  · rintro ⟨b, h⟩
    exact (map_eq_ok_iff.1 h).imp fun a ha => ha.1
  · rintro ⟨a, ha⟩
    exact ⟨f a, map_eq_ok_iff.2 ⟨a, ha, rfl⟩⟩

/-- The steps of a list succeed together exactly if each one does. -/
theorem exists_mapM_eq_ok_iff {f : α → Except Fault β} {xs : List α} :
    (∃ ys, xs.mapM f = .ok ys) ↔ ∀ x ∈ xs, ∃ y, f x = .ok y := by
  induction xs with
  | nil => exact iff_of_true ⟨[], rfl⟩ fun x hx => nomatch hx
  | cons x rest ih =>
    rw [List.forall_mem_cons, ← ih, List.mapM_cons]
    constructor
    · rintro ⟨ys, h⟩
      obtain ⟨y, hy, h⟩ := bind_eq_ok_iff.1 h
      obtain ⟨ys', hys', -⟩ := bind_eq_ok_iff.1 h
      exact ⟨⟨y, hy⟩, ys', hys'⟩
    · rintro ⟨⟨y, hy⟩, ys, hys⟩
      rw [hy, hys]
      exact ⟨y :: ys, rfl⟩

/-- The results of a list are those of its elements. -/
theorem mem_of_mapM_eq_ok {f : α → Except Fault β} {xs : List α} {ys : List β} (h : xs.mapM f = .ok ys) (y : β) :
    y ∈ ys ↔ ∃ x ∈ xs, f x = .ok y := by
  induction xs generalizing ys with
  | nil =>
    cases h
    simp
  | cons x rest ih =>
    rw [List.mapM_cons] at h
    obtain ⟨z, hz, h⟩ := bind_eq_ok_iff.1 h
    obtain ⟨zs, hzs, h⟩ := bind_eq_ok_iff.1 h
    cases h
    simp only [List.mem_cons, exists_eq_or_imp, hz, Except.ok.injEq, ih hzs]
    exact or_congr_left eq_comm

theorem mapM_eq_ok_nil_iff {f : α → Except Fault β} {xs : List α} : xs.mapM f = .ok [] ↔ xs = [] := by
  cases xs with
  | nil => exact iff_of_true rfl rfl
  | cons x rest =>
    refine iff_of_false (fun h => ?_) (List.cons_ne_nil x rest)
    rw [List.mapM_cons] at h
    obtain ⟨y, -, h⟩ := bind_eq_ok_iff.1 h
    obtain ⟨ys, -, h⟩ := bind_eq_ok_iff.1 h
    nomatch h

/-- Steps of which some give nothing to keep succeed together as well. -/
theorem filterMapM_eq_filterMap {f : α → Except Fault (Option β)} {g : α → Option β} {xs : List α}
    (h : ∀ x ∈ xs, f x = .ok (g x)) : xs.filterMapM f = .ok (xs.filterMap g) := by
  induction xs with
  | nil => rfl
  | cons x rest ih =>
    obtain ⟨hx, hrest⟩ := List.forall_mem_cons.1 h
    rw [List.filterMapM_cons, hx, ih hrest]
    cases hg : g x with
    | none =>
      rw [List.filterMap_cons_none hg]
      rfl
    | some y =>
      rw [List.filterMap_cons_some hg]
      rfl

/-- Elements that were changed beforehand can as well be changed on the way. -/
theorem filterMapM_map {γ : Type} {f : β → Except Fault (Option γ)} (g : α → β) (xs : List α) :
    (xs.map g).filterMapM f = xs.filterMapM fun x => f (g x) := by
  induction xs with
  | nil => rfl
  | cons x rest ih => rw [List.map_cons, List.filterMapM_cons, List.filterMapM_cons, ih]

/-- Steps of which some give nothing to keep succeed together exactly if each one does. -/
theorem exists_filterMapM_eq_ok_iff {f : α → Except Fault (Option β)} {xs : List α} :
    (∃ ys, xs.filterMapM f = .ok ys) ↔ ∀ x ∈ xs, ∃ y, f x = .ok y := by
  induction xs with
  | nil => exact iff_of_true ⟨[], rfl⟩ fun x hx => nomatch hx
  | cons x rest ih =>
    rw [List.forall_mem_cons, ← ih, List.filterMapM_cons]
    constructor
    · rintro ⟨ys, h⟩
      obtain ⟨y, hy, h⟩ := bind_eq_ok_iff.1 h
      refine ⟨⟨y, hy⟩, ?_⟩
      -- a step that gives nothing leaves the others as they are
      cases y with
      | none => exact ⟨ys, h⟩
      | some y => exact (bind_eq_ok_iff.1 h).imp fun _ hzs => hzs.1
    · rintro ⟨⟨y, hy⟩, ys, hys⟩
      rw [hy]
      cases y with
      | none => exact ⟨ys, bind_eq_ok_iff.2 ⟨none, rfl, hys⟩⟩
      | some y => exact ⟨y :: ys, bind_eq_ok_iff.2 ⟨some y, rfl, bind_eq_ok_iff.2 ⟨ys, hys, rfl⟩⟩⟩

/-- What is kept are the results of some elements. -/
theorem mem_of_filterMapM_eq_ok {f : α → Except Fault (Option β)} {xs : List α} {ys : List β}
    (h : xs.filterMapM f = .ok ys) (y : β) : y ∈ ys ↔ ∃ x ∈ xs, f x = .ok (some y) := by
  induction xs generalizing ys with
  | nil =>
    cases h
    simp
  | cons x rest ih =>
    rw [List.filterMapM_cons] at h
    obtain ⟨z, hz, h⟩ := bind_eq_ok_iff.1 h
    simp only [List.mem_cons, exists_eq_or_imp, hz, Except.ok.injEq]
    cases z with
    | none => simpa using ih h
    | some z =>
      obtain ⟨zs, hzs, h⟩ := bind_eq_ok_iff.1 h
      cases h
      rw [List.mem_cons, ih hzs, Option.some.injEq, eq_comm]

/-- A search whose questions all have an answer. -/
theorem findM?_eq_find? {f : α → Except Fault Bool} {g : α → Bool} {xs : List α} (h : ∀ x ∈ xs, f x = .ok (g x)) :
    xs.findM? f = .ok (xs.find? g) := by
  induction xs with
  | nil => rfl
  | cons x rest ih =>
    obtain ⟨hx, hrest⟩ := List.forall_mem_cons.1 h
    rw [List.findM?, hx, List.find?_cons]
    cases g x with
    | true => rfl
    | false => exact ih hrest

/-- And one for the first result. -/
theorem findSomeM?_eq_findSome? {f : α → Except Fault (Option β)} {g : α → Option β} {xs : List α}
    (h : ∀ x ∈ xs, f x = .ok (g x)) : xs.findSomeM? f = .ok (xs.findSome? g) := by
  induction xs with
  | nil => rfl
  | cons x rest ih =>
    obtain ⟨hx, hrest⟩ := List.forall_mem_cons.1 h
    rw [List.findSomeM?, hx, List.findSome?_cons]
    cases g x with
    | some y => rfl
    | none => exact ih hrest

end Fault

end CodeAtlas
