import CodeAtlas.Json.Reader
import CodeAtlas.Proofs.Settings.Loading
/-!
  The settings that come of a table, whatever is in it.

  A table is an object that was read from JSON, or a table of a configuration file.  It may state some settings, state
  others wrongly and leave the rest out.  `Overlays` says what is to come of it field by field: what is under a name
  counts if it is of the kind that the setting needs, and otherwise the setting stays.

  Two kinds of tables are treated otherwise.  A truth value counts as a duration, although it is refused for the
  integers; and a name to exclude may have no text.  There are no others (`behaves_iff`).

  Each setting is read by a partial function, and each has a lemma that says which values it takes, in the words of the
  kinds (`positive?_eq_some_iff` and its siblings).  With these, `replaced_of_reads` is one statement about all of them,
  and so are the two theorems about whole tables.
-/
namespace CodeAtlas.Settings

open Fault

/-! ## What is to come of a table -/

/-- A number; a truth value is none. -/
def isNumber : Json → Bool
  | .int _ | .float _ => true
  | _ => false

/-- Settings that an analysis can be run with. -/
structure WellFormed (s : Settings) : Prop where
  excluded : s.excluded.Nodup
  maxWorkers : 1 ≤ s.maxWorkers
  debounce : isNumber s.debounce = true

/-- A table of settings as it comes.  It has a name once, and an object is one that can be written in JSON. -/
inductive Table where
  | object (text : String) (fields : List (Json.Key × Json)) (hread : Json.read text = .ok (.obj fields))
  | section_ (fields : Toml.Fields) (hclear : Toml.Clear fields)

namespace Table

/-- The settings of a table laid over given ones. -/
def laidOver (base : Settings) : Table → Except Fault Settings
  | object _ fields _ => ofJson base (.obj fields)
  | section_ fields _ => ofToml base (.table .explicit fields)

/-- What a table has under a name, apart from values that can be no setting. -/
def value? (name : String) : Table → Option Json
  | object _ fields _ => Json.lookup (.str name) fields
  | section_ fields _ => (Toml.get? name fields).bind scalar?

/-- The texts of what a table lists to be excluded. -/
def excludedTexts : Table → Except Fault (List String)
  | object _ fields _ => .ok (((Json.lookup (.str "exclude") fields).bind listTexts?).getD [])
  | section_ fields _ => (excludedItems fields).mapM Toml.displayed

end Table

/-- A setting is replaced by what is found if that is of its kind, and otherwise it stays. -/
def Replaced {β : Type} (found : Option Json) (isKind : Json → β → Prop) (old new : β) : Prop :=
  (∀ v x, found = some v → isKind v x → new = x) ∧ ((∀ v x, found = some v → ¬ isKind v x) → new = old)

/-- What is to come of a table over given settings. -/
structure Overlays (base : Settings) (t : Table) (s : Settings) : Prop where
  wellFormed : s.WellFormed
  excluded : ∃ names, t.excludedTexts = .ok names ∧
    ∀ name, name ∈ s.excluded ↔ name ∈ base.excluded ∨ name ∈ names
  maxWorkers : Replaced (t.value? "max_workers") (fun v n => v = .int n ∧ 1 ≤ n) base.maxWorkers s.maxWorkers
  maxCallTargets : Replaced (t.value? "max_call_targets") (fun v n => v = .int n) base.maxCallTargets s.maxCallTargets
  snapshotDir : Replaced (t.value? "snapshot_dir") (fun v x => v = .str x) base.snapshotDir s.snapshotDir
  debounce : Replaced (t.value? "debounce_seconds") (fun v x => v = x ∧ isNumber x = true) base.debounce s.debounce
  cyclePolicy : Replaced (t.value? "cycle_policy") (fun v p => v = .str p.name) base.cyclePolicy s.cyclePolicy
  includeTests : Replaced (t.value? "include_tests") (fun v b => v = .bool b) base.includeTests s.includeTests

/-- A table gives settings, which are what is to come of it. -/
structure Behaves (base : Settings) (t : Table) : Prop where
  answers : ∃ s, t.laidOver base = .ok s
  overlays : ∀ s, t.laidOver base = .ok s → Overlays base t s

/-! ## One setting -/

variable {β : Type} {found : Option Json} {base s : Settings} {t : Table}

/-- A reader that knows a kind replaces a setting of this kind. -/
theorem replaced_of_reads {read? : Json → Option β} {isKind : Json → β → Prop}
    (hreads : ∀ v x, found = some v → (read? v = some x ↔ isKind v x)) (old : β) :
    Replaced found isKind old ((found.bind read?).getD old) := by
  cases found with
  | none => exact ⟨(fun v x hv => nomatch hv), fun _ => rfl⟩
  | some v =>
    rw [Option.bind_some]
    constructor
    · rintro w x ⟨⟩ hkind
      rw [(hreads v x rfl).2 hkind]
      rfl
    · intro hnone
      cases hread : read? v with
      | none => rfl
      | some x => exact absurd ((hreads v x rfl).1 hread) (hnone v x rfl)

/-- A number of workers is an integer above zero; a truth value is none. -/
theorem positive?_eq_some_iff (v : Json) (n : Int) : positive? v = some n ↔ v = .int n ∧ 1 ≤ n := by
  cases v with
  | int m =>
    unfold positive?
    rw [Option.ite_none_left_eq_some, Option.some.injEq, Json.int.injEq, Int.not_lt]
    exact ⟨fun ⟨hm, heq⟩ => ⟨heq, heq ▸ hm⟩, fun ⟨heq, hn⟩ => ⟨heq ▸ hn, heq⟩⟩
  | _ => simp [positive?]

theorem int?_eq_some_iff (v : Json) (n : Int) : int? v = some n ↔ v = .int n := by
  cases v <;> simp [int?]

theorem text?_eq_some_iff (v : Json) (x : String) : text? v = some x ↔ v = .str x := by
  cases v <;> simp [text?]

theorem truth?_eq_some_iff (v : Json) (b : Bool) : truth? v = some b ↔ v = .bool b := by
  cases v <;> simp [truth?]

theorem named?_eq_some_iff (v : Json) (p : CyclePolicy) : CyclePolicy.named? v = some p ↔ v = .str p.name := by
  unfold CyclePolicy.named?
  cases p <;> split <;> simp_all [CyclePolicy.name]

/-- Apart from truth values, durations are numbers. -/
theorem seconds?_eq_some_iff {v : Json} (hv : ∀ b, v ≠ .bool b) (x : Json) :
    seconds? v = some x ↔ v = x ∧ isNumber x = true := by
  cases v with
  | bool b => exact absurd rfl (hv b)
  | int n => exact ⟨fun h => by cases h; exact ⟨rfl, rfl⟩, fun h => congrArg some h.1⟩
  | float y => exact ⟨fun h => by cases h; exact ⟨rfl, rfl⟩, fun h => congrArg some h.1⟩
  | _ => exact iff_of_false (fun h => nomatch h) fun ⟨heq, hx⟩ => by rw [← heq] at hx; nomatch hx

/-- What is replaced by a value of a kind has a property of the kind. -/
theorem Replaced.induction {isKind : Json → β → Prop} {old new : β} (h : Replaced found isKind old new)
    (p : β → Prop) (hold : p old) (hkind : ∀ v x, isKind v x → p x) : p new := by
  by_cases hfound : ∃ v x, found = some v ∧ isKind v x
  · obtain ⟨v, x, hv, hx⟩ := hfound
    rw [h.1 v x hv hx]
    exact hkind v x hx
  · rw [h.2 fun v x hv hx => hfound ⟨v, x, hv, hx⟩]
    exact hold

/-! ## The whole table -/

/-- Named values that are laid over settings for a table. -/
structure Table.Reads (t : Table) (m : Metadata) : Prop where
  excluded : t.excludedTexts = .ok (((m.get? "exclude").bind listTexts?).getD [])
  value : ∀ name, name ≠ "exclude" → m.get? name = t.value? name

/-- Settings of a table are those of some named values. -/
theorem exists_reads_of_laidOver (h : t.laidOver base = .ok s) : ∃ m, t.Reads m ∧ s = base.override m := by
  cases t with
  | object text fields hread => exact ⟨⟨fields⟩, ⟨rfl, fun _ _ => rfl⟩, (Except.ok.inj h).symm⟩
  | section_ fields hclear =>
    obtain ⟨settings, hsettings, h⟩ := bind_eq_ok_iff.1 h
    cases h
    obtain ⟨names, hnames, heq⟩ := names_eq hclear hsettings
    exact ⟨_, ⟨hnames.trans (congrArg Except.ok heq.symm), fun name hname => get?_settings hclear hsettings hname⟩, rfl⟩

/-- There are settings exactly if all that is listed has a text. -/
theorem exists_laidOver_iff (base : Settings) (t : Table) :
    (∃ s, t.laidOver base = .ok s) ↔ ∃ names, t.excludedTexts = .ok names := by
  cases t with
  | object text fields hread => exact iff_of_true ⟨_, rfl⟩ ⟨_, rfl⟩
  | section_ fields hclear =>
    show (∃ s, ofToml base (.table .explicit fields) = .ok s) ↔ _
    rw [exists_ofToml_iff hclear]
    exact exists_mapM_eq_ok_iff.symm

/-- Without a truth value for a duration the settings are what is to come of the table. -/
theorem overlays_override {m : Metadata} (hbase : base.WellFormed) (hm : t.Reads m)
    (hseconds : ∀ b, t.value? "debounce_seconds" ≠ some (.bool b)) : Overlays base t (base.override m) := by
  have hvalue := hm.value
  have hworkers : Replaced (t.value? "max_workers") (fun v n => v = .int n ∧ 1 ≤ n) base.maxWorkers
      (base.override m).maxWorkers := by
    rw [← hvalue _ (by decide)]
    exact replaced_of_reads (fun v n _ => positive?_eq_some_iff v n) _
  have hdebounce : Replaced (t.value? "debounce_seconds") (fun v x => v = x ∧ isNumber x = true) base.debounce
      (base.override m).debounce := by
    rw [← hvalue _ (by decide)] at hseconds ⊢
    exact replaced_of_reads (fun v x hv => seconds?_eq_some_iff (fun b hb => hseconds b (hb ▸ hv)) x) _
  refine ⟨⟨exclude_nodup hbase.excluded, ?_, ?_⟩, ⟨_, hm.excluded, fun name => mem_exclude_iff⟩, hworkers, ?_, ?_,
    hdebounce, ?_, ?_⟩
  · exact hworkers.induction (1 ≤ ·) hbase.maxWorkers fun v n hn => hn.2
  · exact hdebounce.induction (isNumber · = true) hbase.debounce fun v x hx => hx.2
  · rw [← hvalue _ (by decide)]
    exact replaced_of_reads (fun v n _ => int?_eq_some_iff v n) _
  · rw [← hvalue _ (by decide)]
    exact replaced_of_reads (fun v x _ => text?_eq_some_iff v x) _
  · rw [← hvalue _ (by decide)]
    exact replaced_of_reads (fun v p _ => named?_eq_some_iff v p) _
  · rw [← hvalue _ (by decide)]
    exact replaced_of_reads (fun v b _ => truth?_eq_some_iff v b) _

/-- A truth value for a duration is taken as it is. -/
theorem not_wellFormed_override {m : Metadata} {b : Bool} (hm : t.Reads m)
    (hseconds : t.value? "debounce_seconds" = some (.bool b)) : ¬ (base.override m).WellFormed := by
  intro h
  have htruth : (base.override m).debounce = .bool b := by
    show ((m.get? "debounce_seconds").bind seconds?).getD base.debounce = _
    rw [hm.value _ (by decide), hseconds]
    rfl
  have hnumber := h.debounce
  rw [htruth] at hnumber
  nomatch hnumber

/-- **A table behaves exactly if its duration is no truth value and all that it excludes has a text.** Then each
    setting is what the table states, if this is of the right kind, and what it was before otherwise. -/
theorem behaves_iff (hbase : base.WellFormed) : Behaves base t ↔
    (∀ b, t.value? "debounce_seconds" ≠ some (.bool b)) ∧ ∃ names, t.excludedTexts = .ok names := by
  constructor
  · rintro ⟨⟨s, hs⟩, hoverlays⟩
    refine ⟨fun b hseconds => ?_, (exists_laidOver_iff base t).1 ⟨s, hs⟩⟩
    have hwellFormed := (hoverlays s hs).wellFormed
    obtain ⟨m, hm, rfl⟩ := exists_reads_of_laidOver hs
    exact not_wellFormed_override hm hseconds hwellFormed
  · rintro ⟨hseconds, hnames⟩
    refine ⟨(exists_laidOver_iff base t).2 hnames, fun s hs => ?_⟩
    obtain ⟨m, hm, rfl⟩ := exists_reads_of_laidOver hs
    exact overlays_override hbase hm hseconds

/-- An analysis can be run with the defaults. -/
theorem wellFormed_default : WellFormed default := ⟨by decide, by decide, by decide +kernel⟩

/-- A table with a value of a wrong kind or out of range under most names, and two that fit. -/
def careless : Table :=
  .object "\x7b\"max_workers\": 0, \"max_call_targets\": true, \"debounce_seconds\": 3, \"cycle_policy\": [\"raise\"], \"exclude\": [1, \"dist\"]\x7d"
    [("max_workers", .int 0), ("max_call_targets", .bool true), ("debounce_seconds", .int 3),
      ("cycle_policy", .arr [.str "raise"]), ("exclude", .arr [.int 1, .str "dist"])]
    (by decide +kernel)

/-- Most of this table is of the wrong kind, and the rest of it counts. -/
theorem behaves_careless : default.WellFormed ∧ Behaves default careless ∧
    ∃ s, careless.laidOver default = .ok s ∧ Overlays default careless s ∧ s.debounce = .int 3 := by
  have hbehaves := (behaves_iff (t := careless) wellFormed_default).2
    ⟨fun b => by cases b <;> decide +kernel, ⟨["1", "dist"], by decide +kernel⟩⟩
  obtain ⟨s, hs⟩ := hbehaves.answers
  have hoverlays := hbehaves.overlays s hs
  exact ⟨wellFormed_default, hbehaves, s, hs, hoverlays,
    hoverlays.debounce.1 (.int 3) (.int 3) (by decide +kernel) ⟨rfl, rfl⟩⟩

/-- A table with a truth value for a duration. -/
def truthful : Table :=
  .object "\x7b\"debounce_seconds\": true\x7d" [("debounce_seconds", .bool true)] (by decide +kernel)

/-- The truth value becomes the duration. -/
theorem not_behaves_truthful :
    truthful.laidOver default = .ok { default with debounce := .bool true } ∧ ¬ Behaves default truthful := by
  have hover : truthful.laidOver default = .ok { default with debounce := .bool true } := rfl
  refine ⟨hover, fun h => ?_⟩
  have hnumber := (h.overlays _ hover).wellFormed.debounce
  nomatch hnumber

end CodeAtlas.Settings
