import CodeAtlas.Resolution.Calls
import Mathlib.Data.Finset.Card
import Mathlib.Data.Finset.Filter
import Mathlib.Data.List.Nodup
/-!
  Which functions a call means, and which edges come of it.

  1. **Candidates** (`candidateSets`).  For a call there are four sets of identifiers, from the closest to the widest.
     Narrowing a list by conditions picks the first of them that is not empty (`narrow_eq`), so a function is a target
     exactly if the call `Means` it.

  2. **Edges.**  All calls of all functions are gone through in order, and of the edges between the same two
     functions the first one is kept.  Keeping the first of each key does not change what the first one with a key is
     (`find?_kept`); everything else follows from that.

  `exact_all` puts the two together.
-/
namespace CodeAtlas

namespace CallEdge

/-! ## Keeping the first element of each key -/

section Kept

variable {α β : Type} [DecidableEq β] {key : α → β} {skips : List α → α → Bool}

/-- The first element with a key stays the first one. -/
theorem find?_kept (hskips : ∀ acc x, skips acc x = acc.any fun y => decide (key y = key x)) (k : β)
    (xs acc : List α) :
    (xs.foldl (fun acc x => if skips acc x then acc else acc ++ [x]) acc).find? (fun x => decide (key x = k)) =
      (acc ++ xs).find? fun x => decide (key x = k) := by
  induction xs generalizing acc with
  | nil => rw [List.foldl_nil, List.append_nil]
  | cons x rest ih =>
    rw [List.foldl_cons, ih]
    by_cases hskip : skips acc x = true
    · rw [if_pos hskip, List.find?_append, List.find?_append, List.find?_cons]
      split
      · next hx =>
        -- an element that is left out has the key of an earlier one
        rw [hskips, List.any_eq_true] at hskip
        obtain ⟨y, hy, hyx⟩ := hskip
        have hk : key y = k := (of_decide_eq_true hyx).trans (of_decide_eq_true hx)
        have hsome : (acc.find? fun x => decide (key x = k)).isSome = true :=
          List.find?_isSome.2 ⟨y, hy, decide_eq_true hk⟩
        obtain ⟨z, hz⟩ := Option.isSome_iff_exists.1 hsome
        rw [hz, Option.some_or, Option.some_or]
      · rfl
    · rw [if_neg hskip, List.append_assoc, List.singleton_append]

/-- No key is kept twice. -/
theorem nodup_kept (hskips : ∀ acc x, skips acc x = acc.any fun y => decide (key y = key x)) (xs acc : List α)
    (hacc : (acc.map key).Nodup) :
    ((xs.foldl (fun acc x => if skips acc x then acc else acc ++ [x]) acc).map key).Nodup := by
  induction xs generalizing acc with
  | nil => exact hacc
  | cons x rest ih =>
    rw [List.foldl_cons]
    apply ih
    by_cases hskip : skips acc x = true
    · rw [if_pos hskip]
      exact hacc
    · rw [if_neg hskip, List.map_append, List.map_singleton]
      refine List.nodup_append.2 ⟨hacc, List.nodup_singleton _, fun a ha b hb hab => hskip ?_⟩
      obtain ⟨y, hy, hya⟩ := List.mem_map.1 ha
      rw [hskips, List.any_eq_true]
      exact ⟨y, hy, decide_eq_true (by rw [hya, hab, List.mem_singleton.1 hb])⟩

/-- The keys stay the same. -/
theorem exists_mem_kept_iff (hskips : ∀ acc x, skips acc x = acc.any fun y => decide (key y = key x)) (k : β)
    (xs : List α) : (∃ x ∈ xs.foldl (fun acc x => if skips acc x then acc else acc ++ [x]) [], key x = k) ↔
      ∃ x ∈ xs, key x = k := by
  have hfind := congrArg Option.isSome (find?_kept hskips k xs [])
  rw [List.nil_append, Bool.eq_iff_iff, List.find?_isSome, List.find?_isSome] at hfind
  simpa only [decide_eq_true_eq] using hfind

/-- What has the key of an element is that element, when no key is there twice. -/
theorem find?_of_mem_of_nodup {xs : List α} (hnd : (xs.map key).Nodup) {x : α} (hx : x ∈ xs) :
    xs.find? (fun y => decide (key y = key x)) = some x := by
  induction xs with
  | nil => nomatch hx
  | cons y rest ih =>
    obtain ⟨hy, hrest⟩ := List.nodup_cons.1 hnd
    rcases List.mem_cons.1 hx with rfl | hx
    · exact List.find?_cons_of_pos (decide_eq_true rfl)
    · have hne : key y ≠ key x := fun heq => hy (heq ▸ List.mem_map_of_mem hx)
      rw [List.find?_cons, decide_eq_false hne]
      exact ih hrest hx

end Kept

/-! ## Candidates -/

variable {functions : List NamedFunction} {maxTargets : Int} {excluded : List String} {caller : FunctionRecord}
  {called name id callee : String}

/-- The identifiers of the functions of a name. -/
def idsNamed (functions : List NamedFunction) (name : String) : Finset String :=
  ((functions.filter fun f => f.record.name = name).map (·.id)).toFinset

/-- Those whose first record has a property. -/
def idsWith (functions : List NamedFunction) (name : String) (property : FunctionRecord → Prop)
    [DecidablePred property] : Finset String :=
  (idsNamed functions name).filter fun id => ∃ r ∈ first? functions id, property r

/-- The sets of functions that a call can mean, the closest one first. -/
def candidateSets (functions : List NamedFunction) (caller : FunctionRecord) (called : String) :
    List (Finset String) :=
  let name := Text.afterLast '.' called
  let receiver := (Text.cutLast? '.' called).map (·.1)
  -- the type or module has the receiver's name
  [idsWith functions name fun r => receiver = some (Text.afterLast '.' r.scope),
    idsWith functions name fun r => r.scope = caller.scope,
    idsWith functions name fun r => r.file = caller.file,
    idsNamed functions name]

/-- **What a call means**: a function in the first set that is not empty, provided that this set is small enough and
    that the name is not excluded. -/
def Means (functions : List NamedFunction) (maxTargets : Int) (excluded : List String) (caller : FunctionRecord)
    (called callee : String) : Prop :=
  Text.afterLast '.' called ∉ excluded ∧
    ∃ s, (candidateSets functions caller called).find? (fun s => s.Nonempty) = some s ∧
      callee ∈ s ∧ (s.card : Int) ≤ maxTargets

/-- Leaving out known identifiers is leaving out known keys, with identifiers for keys. -/
theorem skips_contains (acc : List String) (id : String) :
    acc.contains id = acc.any fun other => decide (other = id) := by
  rw [Bool.eq_iff_iff, List.contains_iff_mem, List.any_eq_true]
  exact ⟨fun h => ⟨id, h, decide_eq_true rfl⟩, fun ⟨other, h, heq⟩ => of_decide_eq_true heq ▸ h⟩

theorem nodup_named (functions : List NamedFunction) (name : String) : (named functions name).Nodup := by
  have h : ((named functions name).map fun id => id).Nodup := nodup_kept skips_contains _ [] List.nodup_nil
  rwa [List.map_id'] at h

/-- The candidates of a name as a set. -/
theorem toFinset_named (functions : List NamedFunction) (name : String) :
    (named functions name).toFinset = idsNamed functions name := by
  ext id
  have h : (∃ x ∈ named functions name, x = id) ↔
      ∃ x ∈ (functions.filter fun f => f.record.name = name).map (·.id), x = id :=
    exists_mem_kept_iff skips_contains id _
  rw [exists_eq_right, exists_eq_right] at h
  rw [List.mem_toFinset, idsNamed, List.mem_toFinset]
  exact h

/-- The candidates under a condition on their records. -/
theorem idsWith_eq (functions : List NamedFunction) (name : String) (property : FunctionRecord → Prop)
    [DecidablePred property] :
    idsWith functions name property = (named functions name).toFinset.filter fun id =>
      ((first? functions id).any fun r => decide (property r)) = true := by
  rw [toFinset_named, idsWith]
  refine Finset.filter_congr fun id _ => ?_
  cases first? functions id <;> simp

/-- **Narrowing picks the first set that is not empty.** -/
theorem narrow_eq {candidates : List String} (hnd : candidates.Nodup) (conditions : List (String → Bool)) :
    (narrow candidates conditions).Nodup ∧
      ((conditions.map fun p => candidates.toFinset.filter (p ·)) ++ [candidates.toFinset]).find?
          (fun s => s.Nonempty) =
        if narrow candidates conditions = [] then none else some (narrow candidates conditions).toFinset := by
  have hfirst : ∀ (xs : List String) (sets : List (Finset String)),
      (xs.toFinset :: sets).find? (fun s => s.Nonempty) =
        if xs = [] then sets.find? (fun s => s.Nonempty) else some xs.toFinset := by
    intro xs sets
    rw [List.find?_cons]
    cases xs with
    | nil => rfl
    | cons x rest =>
      have hne := List.cons_ne_nil x rest
      rw [decide_eq_true ((List.toFinset_nonempty_iff _).2 hne), if_neg hne]
  induction conditions with
  | nil => exact ⟨hnd, hfirst candidates []⟩
  | cons p rest ih =>
    rw [List.map_cons, List.cons_append, ← List.toFinset_filter, hfirst]
    unfold narrow
    simp only [List.isEmpty_iff]
    by_cases hempty : candidates.filter p = []
    · rw [if_pos hempty, if_pos hempty]
      exact ih
    · rw [if_neg hempty, if_neg hempty, if_neg hempty]
      exact ⟨hnd.filter _, rfl⟩

/-- What is left of the candidates of a call. -/
def narrowed (functions : List NamedFunction) (caller : FunctionRecord) (called : String) : List String :=
  let asked (property : FunctionRecord → Bool) (id : String) : Bool := (first? functions id).any property
  narrow (named functions (Text.afterLast '.' called))
    [asked fun r => (Text.cutLast? '.' called).map (·.1) = some (Text.afterLast '.' r.scope),
      asked fun r => r.scope = caller.scope, asked fun r => r.file = caller.file]

/-- Narrowing stops where a set would become empty, which is taking the last set that is not. -/
theorem find?_candidateSets (functions : List NamedFunction) (caller : FunctionRecord) (called : String) :
    (narrowed functions caller called).Nodup ∧
      (candidateSets functions caller called).find? (fun s => s.Nonempty) =
        if narrowed functions caller called = [] then none else some (narrowed functions caller called).toFinset := by
  unfold candidateSets
  simp only [idsWith_eq, ← toFinset_named]
  exact narrow_eq (nodup_named functions _) _

/-- What is called is left out if its name means nothing in particular, or if it could be too many. -/
theorem targets_eq (functions : List NamedFunction) (maxTargets : Int) (excluded : List String)
    (caller : FunctionRecord) (called : String) : targets functions maxTargets excluded caller called =
      if Text.afterLast '.' called ∈ excluded ∨ maxTargets < (narrowed functions caller called).length then []
      else narrowed functions caller called := by
  have hparts : receiverAndName called = ((Text.cutLast? '.' called).map (·.1), Text.afterLast '.' called) := by
    unfold receiverAndName Text.afterLast
    cases Text.cutLast? '.' called <;> rfl
  unfold targets
  rw [hparts]
  simp only [List.contains_iff_mem]
  by_cases hexcluded : Text.afterLast '.' called ∈ excluded
  · rw [if_pos hexcluded, if_pos (.inl hexcluded)]
  · simp only [hexcluded, if_false, false_or]
    rfl

/-- **The targets of a call are the functions that it means.** -/
theorem mem_targets_iff :
    callee ∈ targets functions maxTargets excluded caller called ↔
      Means functions maxTargets excluded caller called callee := by
  obtain ⟨hnd, hfind⟩ := find?_candidateSets functions caller called
  rw [targets_eq, Means, hfind]
  by_cases hexcluded : Text.afterLast '.' called ∈ excluded
  · rw [if_pos (.inl hexcluded)]
    exact iff_of_false List.not_mem_nil fun h => h.1 hexcluded
  rw [and_iff_right hexcluded]
  by_cases hempty : narrowed functions caller called = []
  · rw [if_pos hempty, hempty, ite_self]
    exact iff_of_false List.not_mem_nil fun ⟨_, h, _⟩ => nomatch h
  rw [if_neg hempty]
  simp only [Option.some.injEq, exists_eq_left', List.mem_toFinset, List.toFinset_card_of_nodup hnd]
  by_cases hmany : maxTargets < (narrowed functions caller called).length
  · rw [if_pos (.inr hmany)]
    exact iff_of_false List.not_mem_nil fun h => absurd h.2 (by omega)
  · rw [if_neg (not_or.2 ⟨hexcluded, hmany⟩), and_iff_left (by omega)]

/-! ## Edges -/

/-- All calls with the functions that they stand in, in order. -/
def sites (functions : List NamedFunction) : List (NamedFunction × Call) :=
  functions.flatMap fun f => f.record.calls.map fun c => (f, c)

/-- The two functions that an edge joins. -/
def ends (e : CallEdge) : String × String := (e.caller, e.callee)

/-- The edges that one call gives rise to. -/
def edgesAt (functions : List NamedFunction) (maxTargets : Int) (excluded : List String) (s : NamedFunction × Call) :
    List CallEdge :=
  ((targets functions maxTargets excluded s.1.record s.2.name).filter (· ≠ s.1.id)).map fun t =>
    { caller := s.1.id, callee := t, line := s.2.line }

/-- One call makes an edge to each function that it means, but for its own. -/
theorem mem_edgesAt_iff {s : NamedFunction × Call} {e : CallEdge} :
    e ∈ edgesAt functions maxTargets excluded s ↔ s.1.id = e.caller ∧ e.callee ≠ e.caller ∧
      Means functions maxTargets excluded s.1.record s.2.name e.callee ∧ s.2.line = e.line := by
  unfold edgesAt
  rw [List.mem_map]
  constructor
  · rintro ⟨t, ht, rfl⟩
    obtain ⟨hmeans, hne⟩ := List.mem_filter.1 ht
    exact ⟨rfl, of_decide_eq_true hne, mem_targets_iff.1 hmeans, rfl⟩
  · rintro ⟨hcaller, hne, hmeans, hline⟩
    refine ⟨e.callee, List.mem_filter.2 ⟨mem_targets_iff.2 hmeans, decide_eq_true (hcaller ▸ hne)⟩, ?_⟩
    rw [hcaller, hline]

/-- The edges of some functions are exactly the right ones. -/
structure Exact (functions : List NamedFunction) (maxTargets : Int) (excluded : List String)
    (edges : List CallEdge) : Prop where
  /-- there are no two edges between the same two functions -/
  distinct : (edges.map ends).Nodup
  /-- there is an edge exactly where a call of the one function means the other one -/
  joined : ∀ caller callee, (∃ e ∈ edges, e.caller = caller ∧ e.callee = callee) ↔ callee ≠ caller ∧
    ∃ f ∈ functions, f.id = caller ∧
      ∃ c ∈ f.record.calls, Means functions maxTargets excluded f.record c.name callee
  /-- the line is that of the first such call -/
  first : ∀ e ∈ edges, ∃ before f c after, sites functions = before ++ (f, c) :: after ∧ f.id = e.caller ∧
    Means functions maxTargets excluded f.record c.name e.callee ∧ c.line = e.line ∧
    ∀ s ∈ before, s.1.id = e.caller → ¬ Means functions maxTargets excluded s.1.record s.2.name e.callee
  /-- the table has a row for each edge -/
  tabled : (∀ f ∈ functions, ∀ c ∈ f.record.calls, ∃ n, c.line = .int n) → frame edges =
    { columns := ["caller", "callee", "line"], rows := edges.map fun e => [.str e.caller, .str e.callee, e.line] }

/-- Leaving out known pairs is leaving out known keys, with both ends for the key. -/
theorem skips_ends (acc : List CallEdge) (e : CallEdge) :
    (acc.any fun d => d.caller = e.caller ∧ d.callee = e.callee) = acc.any fun d => decide (ends d = ends e) := by
  congr 1
  funext d
  exact decide_eq_decide.2 (by rw [ends, ends, Prod.mk.injEq])

/-- All edges are those of all calls, with the later ones between the same functions left out. -/
theorem all_eq (functions : List NamedFunction) (maxTargets : Int) (excluded : List String) :
    all functions maxTargets excluded = ((sites functions).flatMap (edgesAt functions maxTargets excluded)).foldl
      (fun acc e => if acc.any fun d => d.caller = e.caller ∧ d.callee = e.callee then acc else acc ++ [e]) [] := by
  rw [sites, List.flatMap_assoc]
  simp only [List.flatMap_map]
  rfl

theorem mem_sites_iff {s : NamedFunction × Call} :
    s ∈ sites functions ↔ s.1 ∈ functions ∧ s.2 ∈ s.1.record.calls := by
  simp only [sites, List.mem_flatMap, List.mem_map]
  constructor
  · rintro ⟨f, hf, c, hc, rfl⟩
    exact ⟨hf, hc⟩
  · rintro ⟨hf, hc⟩
    exact ⟨s.1, hf, s.2, hc, rfl⟩

/-- There is an edge exactly where one of the calls gives rise to one. -/
theorem exists_mem_all_iff (k : String × String) : (∃ e ∈ all functions maxTargets excluded, ends e = k) ↔
    ∃ s ∈ sites functions, ∃ e ∈ edgesAt functions maxTargets excluded s, ends e = k := by
  rw [all_eq, exists_mem_kept_iff skips_ends]
  simp only [List.mem_flatMap]
  exact ⟨fun ⟨e, ⟨s, hs, he⟩, hk⟩ => ⟨s, hs, e, he, hk⟩, fun ⟨s, hs, e, he, hk⟩ => ⟨e, ⟨s, hs, he⟩, hk⟩⟩

/-- An edge is the first one that a call gives rise to between its two functions. -/
theorem exists_first_of_mem_all {e : CallEdge} (he : e ∈ all functions maxTargets excluded) :
    ∃ before s after, sites functions = before ++ s :: after ∧ e ∈ edgesAt functions maxTargets excluded s ∧
      ∀ s' ∈ before, ∀ e' ∈ edgesAt functions maxTargets excluded s', ends e' ≠ ends e := by
  have hnd : ((all functions maxTargets excluded).map ends).Nodup := nodup_kept skips_ends _ [] List.nodup_nil
  have hfind := find?_of_mem_of_nodup hnd he
  rw [all_eq, find?_kept skips_ends, List.nil_append, List.find?_flatMap, List.findSome?_eq_some_iff] at hfind
  obtain ⟨before, s, after, hsites, hs, hbefore⟩ := hfind
  refine ⟨before, s, after, hsites, List.mem_of_find?_eq_some hs, fun s' hs' e' he' heq => ?_⟩
  exact List.find?_eq_none.1 (hbefore s' hs') e' he' (decide_eq_true heq)

/-- Lines that are integers stay as they are in the table. -/
theorem frame_of_integers {edges : List CallEdge} (h : ∀ e ∈ edges, ∃ n, e.line = .int n) : frame edges =
    { columns := ["caller", "callee", "line"], rows := edges.map fun e => [.str e.caller, .str e.callee, e.line] } := by
  have hlines : ∀ v ∈ edges.map (·.line), ∃ n, v = .int n := List.forall_mem_map.2 h
  have hkept : Frame.widens (edges.map (·.line)) = false := by
    unfold Frame.widens
    rw [Bool.and_eq_false_iff]
    right
    rw [List.any_eq_false]
    intro v hv
    obtain ⟨n, rfl⟩ := hlines v hv
    exact Bool.false_ne_true
  have htyped : Frame.typed (edges.map (·.line)) = edges.map (·.line) := by
    unfold Frame.typed
    rw [hkept, if_neg Bool.false_ne_true]
    refine (List.map_congr_left fun v hv => ?_).trans (List.map_id _)
    obtain ⟨n, rfl⟩ := hlines v hv
    rfl
  rw [frame, htyped, List.zipWith_map_right, List.zipWith_self]

/-- **The edges of any functions are exactly the right ones.** Between two functions there is an edge exactly if a
    call in the first one means the second one, it is there once, and its line is that of the first such call. -/
theorem exact_all (functions : List NamedFunction) (maxTargets : Int) (excluded : List String) :
    Exact functions maxTargets excluded (all functions maxTargets excluded) := by
  have hfirst : ∀ e ∈ all functions maxTargets excluded, ∃ before f c after,
      sites functions = before ++ (f, c) :: after ∧ f.id = e.caller ∧
      Means functions maxTargets excluded f.record c.name e.callee ∧ c.line = e.line ∧
      ∀ s ∈ before, s.1.id = e.caller → ¬ Means functions maxTargets excluded s.1.record s.2.name e.callee := by
    intro e he
    obtain ⟨before, ⟨f, c⟩, after, hsites, hs, hbefore⟩ := exists_first_of_mem_all he
    obtain ⟨hcaller, hne, hmeans, hline⟩ := mem_edgesAt_iff.1 hs
    refine ⟨before, f, c, after, hsites, hcaller, hmeans, hline, fun s hs' hcaller' hmeans' => ?_⟩
    exact hbefore s hs' ⟨e.caller, e.callee, s.2.line⟩ (mem_edgesAt_iff.2 ⟨hcaller', hne, hmeans', rfl⟩) rfl
  refine ⟨nodup_kept skips_ends _ [] List.nodup_nil, fun caller callee => ?_, hfirst, fun hintegers => ?_⟩
  · have h : (∃ e ∈ all functions maxTargets excluded, ends e = (caller, callee)) ↔ _ := exists_mem_all_iff _
    simp only [ends, Prod.mk.injEq] at h
    rw [h]
    constructor
    · rintro ⟨s, hs, e, he, rfl, rfl⟩
      obtain ⟨hcaller, hne, hmeans, -⟩ := mem_edgesAt_iff.1 he
      obtain ⟨hf, hc⟩ := mem_sites_iff.1 hs
      exact ⟨hne, s.1, hf, hcaller, s.2, hc, hmeans⟩
    · rintro ⟨hne, f, hf, hcaller, c, hc, hmeans⟩
      exact ⟨(f, c), mem_sites_iff.2 ⟨hf, hc⟩, ⟨caller, callee, c.line⟩,
        mem_edgesAt_iff.2 ⟨hcaller, hne, hmeans, rfl⟩, rfl, rfl⟩
  · refine frame_of_integers fun e he => ?_
    obtain ⟨before, f, c, after, hsites, -, -, hline, -⟩ := hfirst e he
    have hmem : (f, c) ∈ sites functions := hsites ▸ List.mem_append_right before List.mem_cons_self
    obtain ⟨hf, hc⟩ := mem_sites_iff.1 hmem
    rw [← hline]
    exact hintegers f hf c hc

end CallEdge

end CodeAtlas
