import CodeAtlas.Proofs.Outcome
import CodeAtlas.Proofs.Toml.Names
import CodeAtlas.Settings.Configuration
/-!
  When the settings of a project can be loaded.

  Whatever is in the two files, loading is to end with settings: what has the wrong shape is passed over, and the next
  file counts, or the defaults do.  `stated` says what a project states in this way, and `Follows` which settings come
  of it.  Loading does end like this, unless something is in the way: data nested too deeply, something else than a
  table in the place for settings, or a name to exclude that has no text (`loads_iff`).

  There is one value at most under a name (`Toml.clear_of_ofBytes`), so it does not matter that the fields that are no
  settings are left out before a name is looked up.
-/
namespace CodeAtlas.Settings

open Fault

/-! ## What is stated -/

/-- What a file has in the place for settings, if the file can be read. -/
def valueIn? (t : FileTree) (root : Path) (file : String × List String) : Option Toml :=
  (t.read (root.child file.1)).toOption.bind fun bytes =>
    (Toml.ofBytes bytes).toOption.bind (configurationIn? file.2)

/-- The fields that it states. -/
def fieldsIn? (t : FileTree) (root : Path) (file : String × List String) : Option Toml.Fields :=
  (valueIn? t root file).bind Toml.fields?

/-- **What a project states**: the fields of the first table that is not empty. -/
def stated (t : FileTree) (root : Path) : Toml.Fields :=
  (configurationFiles.findSome? (fieldsIn? t root)).getD []

/-- A value without parts. -/
def scalar? : Toml → Option Json
  | .text s => some (.str s)
  | .integer n => some (.int n)
  | .float x => some (.float x)
  | .truth b => some (.bool b)
  | _ => none

/-- The items of a list. -/
def listed? : Toml → Option (List Toml)
  | .array items => some items
  | .tables newestFirst => some newestFirst.reverse
  | _ => none

/-- What is stated under a name, if it is of the right kind. -/
def setting? {β : Type} (fields : Toml.Fields) (name : String) (read? : Json → Option β) : Option β :=
  ((Toml.get? name fields).bind scalar?).bind read?

/-- What is stated to be excluded. -/
def excludedItems (fields : Toml.Fields) : List Toml := ((Toml.get? "exclude" fields).bind listed?).getD []

/-- The settings that are stated, and the defaults for the others. -/
structure Follows (fields : Toml.Fields) (s : Settings) : Prop where
  /-- what is stated is excluded besides the defaults -/
  excluded : ∃ names, (excludedItems fields).mapM Toml.displayed = .ok names ∧ s.excluded.Nodup ∧
    ∀ name, name ∈ s.excluded ↔ name ∈ default.excluded ∨ name ∈ names
  maxWorkers : s.maxWorkers = (setting? fields "max_workers" positive?).getD default.maxWorkers
  maxCallTargets : s.maxCallTargets = (setting? fields "max_call_targets" int?).getD default.maxCallTargets
  snapshotDir : s.snapshotDir = (setting? fields "snapshot_dir" text?).getD default.snapshotDir
  debounce : s.debounce = (setting? fields "debounce_seconds" seconds?).getD default.debounce
  cyclePolicy : s.cyclePolicy = (setting? fields "cycle_policy" CyclePolicy.named?).getD default.cyclePolicy
  includeTests : s.includeTests = (setting? fields "include_tests" truth?).getD default.includeTests

/-- The settings of a project are loaded as they should be. -/
structure Loads (t : FileTree) (root : Path) : Prop where
  /-- there are settings -/
  answers : ∃ s, ofProject t root = .ok s
  /-- they follow what is stated -/
  follows : ∀ s, ofProject t root = .ok s → Follows (stated t root) s
  /-- where nothing is stated, they are the defaults -/
  defaults : configurationFiles.findSome? (fieldsIn? t root) = none → ofProject t root = .ok default

/-! ## What is in the way -/

/-- A file that cannot even be passed over. -/
inductive Halts (t : FileTree) (root : Path) (file : String × List String) : Prop
  /-- its path is too long to be asked about -/
  | long (hread : t.read (root.child file.1) = .error .nameTooLong)
  /-- there are too many parts inside of each other -/
  | deep (bytes : ByteArray) (hread : t.read (root.child file.1) = .ok bytes)
      (hdeep : Toml.ofBytes bytes = .error .tooDeep)

/-- What there is about a file that keeps settings from being loaded. -/
inductive Stops (t : FileTree) (root : Path) (file : String × List String) : Prop
  | halts (hhalts : Halts t root file)
  /-- something else than a table is in the place for settings -/
  | shapeless (v : Toml) (hv : valueIn? t root file = some v) (hshape : v.fields? = none)
  /-- a name to exclude has no text -/
  | unnamed (fields : Toml.Fields) (hfields : fieldsIn? t root file = some fields) (item : Toml)
      (hitem : item ∈ excludedItems fields) (htext : ∀ text, item.displayed ≠ .ok text)

/-- One of some files stops the search, and those before it have nothing in the place for settings. -/
def Obstructed (t : FileTree) (root : Path) (files : List (String × List String)) : Prop :=
  ∃ before file after, files = before ++ file :: after ∧ (∀ f ∈ before, valueIn? t root f = none) ∧ Stops t root file

/-! ## The settings of a table -/

variable {t : FileTree} {root : Path} {fields : Toml.Fields} {origin : Toml.Origin} {name : String} {v : Toml}
  {s : Settings}

/-- A list of names to exclude is displayed, and any other field is a setting if it has no parts. -/
theorem ofField_eq (name : String) (v : Toml) : ofField (name, v) =
    match if name = "exclude" then listed? v else none with
    | some items => (items.mapM Toml.displayed).map fun names => some (.str "exclude", .arr (names.map .str))
    | none => .ok ((scalar? v).map fun j => (.str name, j)) := by
  by_cases hname : name = "exclude"
  · subst hname
    rw [if_pos rfl]
    cases v
    case array items =>
      show (items.mapM Toml.displayed >>= fun names => pure _) = (items.mapM Toml.displayed).map _
      cases items.mapM Toml.displayed <;> rfl
    case tables newestFirst =>
      show (newestFirst.reverse.mapM Toml.displayed >>= fun names => pure _) =
        (newestFirst.reverse.mapM Toml.displayed).map _
      cases newestFirst.reverse.mapM Toml.displayed <;> rfl
    all_goals rfl
  · rw [if_neg hname]
    cases v <;> simp [ofField, scalar?, hname] <;> rfl

/-- A field can be made a setting unless it lists a name to exclude that has no text. -/
theorem exists_ofField_iff : (∃ setting, ofField (name, v) = .ok setting) ↔
    (name = "exclude" → ∀ items, listed? v = some items → ∀ item ∈ items, ∃ text, item.displayed = .ok text) := by
  rw [ofField_eq]
  by_cases hname : name = "exclude"
  · rw [if_pos hname]
    cases hlisted : listed? v with
    | none => exact iff_of_true ⟨_, rfl⟩ fun _ _ hitems => nomatch hitems
    | some items =>
      simp only [hname, true_imp_iff, Option.some.injEq, forall_eq']
      rw [exists_map_eq_ok_iff, exists_mapM_eq_ok_iff]
  · rw [if_neg hname]
    exact iff_of_true ⟨_, rfl⟩ fun h => absurd h hname

/-- A setting keeps the name of its field. -/
theorem name_of_ofField {key : Json.Key} {value : Json} (h : ofField (name, v) = .ok (some (key, value))) :
    key = .str name := by
  rw [ofField_eq] at h
  split at h
  · next items hitems =>
    split at hitems
    · next hname =>
      obtain ⟨names, -, heq⟩ := map_eq_ok_iff.1 h
      cases heq
      rw [hname]
    · nomatch hitems
  · obtain ⟨j, -, heq⟩ := Option.map_eq_some_iff.1 (Except.ok.inj h)
    cases heq
    rfl

/-- Under a name there is what its field was made. -/
theorem lookup_settings {settings : List (Option (Json.Key × Json))} (hnd : (fields.map (·.1)).Nodup)
    (h : fields.mapM ofField = .ok settings) (name : String) :
    match Toml.get? name fields with
    | some v => ∃ setting, ofField (name, v) = .ok setting ∧
        Json.lookup (.str name) (settings.filterMap id) = setting.map (·.2)
    | none => Json.lookup (.str name) (settings.filterMap id) = none := by
  induction fields generalizing settings with
  | nil =>
    cases h
    rfl
  | cons field rest ih =>
    obtain ⟨n, v⟩ := field
    rw [List.mapM_cons] at h
    obtain ⟨setting, hsetting, h⟩ := bind_eq_ok_iff.1 h
    obtain ⟨others, hothers, h⟩ := bind_eq_ok_iff.1 h
    cases h
    obtain ⟨hn, hrest⟩ := List.nodup_cons.1 hnd
    have hlater := ih hrest hothers
    have hfirst : Json.lookup (.str name) ((setting :: others).filterMap id) =
        if n = name then setting.map (·.2) else Json.lookup (.str name) (others.filterMap id) := by
      cases setting with
      | none =>
        rw [List.filterMap_cons_none rfl]
        split
        · next hname =>
          -- the field is left out, and no other one has its name
          have hnone : Toml.get? name rest = none := by
            rw [← Option.not_isSome_iff_eq_none, Toml.get?, OrderedMap.lookup_isSome_iff]
            exact hname ▸ hn
          rw [hnone] at hlater
          exact hlater
        · rfl
      | some pair =>
        obtain ⟨key, value⟩ := pair
        obtain rfl := name_of_ofField hsetting
        show (if (Json.Key.str n).code = (Json.Key.str name).code then some value else _) = _
        simp only [Json.Key.code, Json.Key.str.injEq]
        rfl
    rw [hfirst]
    by_cases hname : n = name
    · have hget : Toml.get? name ((n, v) :: rest) = some v := if_pos hname
      rw [hget, if_pos hname]
      exact ⟨setting, hname ▸ hsetting, rfl⟩
    · have hget : Toml.get? name ((n, v) :: rest) = Toml.get? name rest := if_neg hname
      rw [hget, if_neg hname]
      exact hlater

/-- A name that is not of the names to exclude is looked up among the values without parts. -/
theorem get?_settings {settings : List (Option (Json.Key × Json))} (hfields : Toml.Clear fields)
    (h : fields.mapM ofField = .ok settings) (hname : name ≠ "exclude") :
    (⟨settings.filterMap id⟩ : Metadata).get? name = (Toml.get? name fields).bind scalar? := by
  have hlookup := lookup_settings hfields.names h name
  unfold Metadata.get?
  cases hget : Toml.get? name fields with
  | none =>
    rw [hget] at hlookup
    exact hlookup
  | some v =>
    rw [hget] at hlookup
    obtain ⟨setting, hsetting, hlookup⟩ := hlookup
    rw [ofField_eq, if_neg hname] at hsetting
    rw [hlookup, ← Except.ok.inj hsetting, Option.bind_some]
    cases scalar? v <;> rfl

/-- The names to exclude are the texts of what is listed. -/
theorem names_eq {settings : List (Option (Json.Key × Json))} (hfields : Toml.Clear fields)
    (h : fields.mapM ofField = .ok settings) : ∃ names, (excludedItems fields).mapM Toml.displayed = .ok names ∧
      (((⟨settings.filterMap id⟩ : Metadata).get? "exclude").bind listTexts?).getD [] = names := by
  have hlookup := lookup_settings hfields.names h "exclude"
  unfold excludedItems Metadata.get?
  cases hget : Toml.get? "exclude" fields with
  | none =>
    rw [hget] at hlookup
    rw [hlookup]
    exact ⟨[], rfl, rfl⟩
  | some v =>
    rw [hget] at hlookup
    obtain ⟨setting, hsetting, hlookup⟩ := hlookup
    rw [ofField_eq, if_pos rfl] at hsetting
    rw [hlookup, Option.bind_some]
    cases hlisted : listed? v with
    | none =>
      rw [hlisted] at hsetting
      refine ⟨[], rfl, ?_⟩
      rw [← Except.ok.inj hsetting]
      cases v <;> rfl
    | some items =>
      rw [hlisted] at hsetting
      obtain ⟨names, hnames, rfl⟩ := map_eq_ok_iff.1 hsetting
      refine ⟨names, hnames, ?_⟩
      show (names.map Json.str).map Json.text = names
      rw [List.map_map]
      exact List.map_id names

/-- Names are added to those that are excluded already, and a known one is not added again. -/
theorem mem_exclude_iff {names excluded : List String} {x : String} :
    x ∈ exclude names excluded ↔ x ∈ excluded ∨ x ∈ names := by
  induction names generalizing excluded with
  | nil => simp [exclude]
  | cons name rest ih =>
    rw [exclude, ih]
    split
    · next hknown =>
      rw [List.mem_cons]
      have hexcluded : x = name → x ∈ excluded := fun heq => heq ▸ List.contains_iff_mem.1 hknown
      tauto
    · rw [List.mem_append, List.mem_singleton, List.mem_cons, or_assoc]

/-- **The settings of a table follow what it states.** -/
theorem follows_of_ofToml (hfields : Toml.Clear fields) (h : ofToml default (.table origin fields) = .ok s) :
    Follows fields s := by
  obtain ⟨settings, hsettings, h⟩ := bind_eq_ok_iff.1 h
  cases h
  have hfield {β : Type} (name : String) (hname : name ≠ "exclude") (read? : Json → Option β) (fallback : β) :=
    congrArg (fun found => (Option.bind found read?).getD fallback) (get?_settings hfields hsettings hname)
  obtain ⟨names, hnames, heq⟩ := names_eq hfields hsettings
  refine ⟨⟨names, hnames, exclude_nodup (by decide), fun name => ?_⟩, hfield _ (by decide) _ _,
    hfield _ (by decide) _ _, hfield _ (by decide) _ _, hfield _ (by decide) _ _, hfield _ (by decide) _ _,
    hfield _ (by decide) _ _⟩
  rw [← heq]
  exact mem_exclude_iff

/-- What is listed to be excluded, if it is a list. -/
theorem mem_excludedItems_iff {item : Toml} : item ∈ excludedItems fields ↔
    ∃ v, Toml.get? "exclude" fields = some v ∧ ∃ items, listed? v = some items ∧ item ∈ items := by
  unfold excludedItems
  cases Toml.get? "exclude" fields with
  | none => simp
  | some v => cases hlisted : listed? v <;> simp [hlisted]

/-- There are settings as long as all that is listed has a text. -/
theorem exists_ofToml_iff {base : Settings} (hfields : Toml.Clear fields) :
    (∃ s, ofToml base (.table origin fields) = .ok s) ↔
      ∀ item ∈ excludedItems fields, ∃ text, item.displayed = .ok text := by
  have hsettings : (∃ s, ofToml base (.table origin fields) = .ok s) ↔
      ∀ field ∈ fields, ∃ setting, ofField field = .ok setting := by
    rw [← exists_mapM_eq_ok_iff]
    exact exists_bind_eq_ok_iff.trans (exists_congr fun _ => and_iff_left ⟨_, rfl⟩)
  rw [hsettings]
  constructor
  · intro hall item hitem
    obtain ⟨v, hget, items, hitems, hitem⟩ := mem_excludedItems_iff.1 hitem
    exact exists_ofField_iff.1 (hall ("exclude", v) (OrderedMap.mem_entries_of_lookup hget)) rfl items hitems item hitem
  · rintro hall ⟨name, v⟩ hfield
    refine exists_ofField_iff.2 fun hname items hitems item hitem => ?_
    subst hname
    have hget : Toml.get? "exclude" fields = some v := OrderedMap.get?_of_mem_entries ⟨fields⟩ hfields.names hfield
    exact hall item (mem_excludedItems_iff.2 ⟨v, hget, items, hitems, hitem⟩)

theorem follows_nil : Follows [] default :=
  ⟨⟨[], rfl, by decide, fun _ => by simp⟩, rfl, rfl, rfl, rfl, rfl, rfl⟩

/-! ## The files one after the other -/

variable {file : String × List String} {rest files : List (String × List String)}

/-- A part of a document has no name twice either. -/
theorem unambiguous_valueAt {place : List String} {w : Toml} (h : v.Unambiguous) (hw : valueAt place v = some w) :
    w.Unambiguous := by
  induction place generalizing v with
  | nil =>
    cases hw
    exact h
  | cons name rest ih =>
    obtain ⟨inner, hinner, hrest⟩ := Option.bind_eq_some_iff.1 hw
    obtain ⟨fields, hfields, hget⟩ := Option.bind_eq_some_iff.1 hinner
    cases v with
    | table origin others =>
      cases hfields
      exact ih ((Toml.unambiguous_table_iff.1 h).lookup hget) hrest
    | _ => nomatch hfields

/-- What is in the place for settings has no name twice. -/
theorem unambiguous_valueIn? (h : valueIn? t root file = some v) : v.Unambiguous := by
  obtain ⟨bytes, -, h⟩ := Option.bind_eq_some_iff.1 h
  obtain ⟨fields, hfields, h⟩ := Option.bind_eq_some_iff.1 h
  have hclear : Toml.Clear fields := by
    cases hread : Toml.ofBytes bytes with
    | error cause =>
      rw [hread] at hfields
      nomatch hfields
    | ok fields' =>
      rw [hread] at hfields
      cases hfields
      exact Toml.clear_of_ofBytes hread
  exact unambiguous_valueAt (Toml.unambiguous_table_iff.2 hclear) (Option.filter_eq_some_iff.1 h).1

/-- The fields of what is in the place for settings. -/
theorem fieldsIn?_eq (h : valueIn? t root file = some v) : fieldsIn? t root file = v.fields? := by
  rw [fieldsIn?, h, Option.bind_some]

/-- A file ends the search, is passed over, or gives its value. -/
theorem firstConfiguration_cases (t : FileTree) (root : Path) (file : String × List String)
    (rest : List (String × List String)) :
    (Halts t root file ∧ ∃ f, firstConfiguration t root (file :: rest) = .error f) ∨
    (¬ Halts t root file ∧ valueIn? t root file = none ∧
      firstConfiguration t root (file :: rest) = firstConfiguration t root rest) ∨
    ∃ v, valueIn? t root file = some v ∧ firstConfiguration t root (file :: rest) = .ok (some v) := by
  obtain ⟨name, place⟩ := file
  rw [firstConfiguration, valueIn?]
  cases hread : t.read (root.child name) with
  | error f =>
    -- of all failures to read a file, only a path that is too long is not caught
    by_cases hlong : f = .nameTooLong
    · subst hlong
      exact .inl ⟨.long hread, _, rfl⟩
    · refine .inr (.inl ⟨?_, rfl, ?_⟩)
      · rintro (h | ⟨bytes, h, -⟩)
        · rw [hread] at h
          cases h
          exact hlong rfl
        · rw [hread] at h
          nomatch h
      · cases f
        case nameTooLong => exact absurd rfl hlong
        all_goals rfl
  | ok bytes =>
    have hhalts : Halts t root (name, place) ↔ Toml.ofBytes bytes = .error .tooDeep := by
      constructor
      · rintro (h | ⟨bytes', h, hdeep⟩)
        · rw [hread] at h
          nomatch h
        · rw [hread] at h
          cases h
          exact hdeep
      · exact .deep bytes hread
    rw [hhalts]
    dsimp only [Except.toOption, Option.bind_some]
    cases Toml.ofBytes bytes with
    | error cause =>
      cases cause with
      | tooDeep => exact .inl ⟨rfl, _, rfl⟩
      | malformed => exact .inr (.inl ⟨fun h => (nomatch h), rfl, rfl⟩)
    | ok fields =>
      dsimp only [Option.bind_some]
      cases configurationIn? place fields with
      | none => exact .inr (.inl ⟨fun h => (nomatch h), rfl, rfl⟩)
      | some v => exact .inr (.inr ⟨v, rfl, rfl⟩)

/-- The settings of the first configuration in some files, or the defaults. -/
def ofFiles (t : FileTree) (root : Path) (files : List (String × List String)) : Except Fault Settings := do
  match ← firstConfiguration t root files with
  | some table => ofToml default table
  | none => return default

/-- The files of a project are tried in a fixed order. -/
theorem ofProject_eq (t : FileTree) (root : Path) : ofProject t root = ofFiles t root configurationFiles := rfl

/-- Loading ends as the value says that is found. -/
theorem ofFiles_eq_of_found (h : firstConfiguration t root files = .ok (some v)) :
    ofFiles t root files = ofToml default v := by
  unfold ofFiles
  rw [h]
  rfl

/-- The first file stops the loading, or it has nothing to say and the others do. -/
theorem obstructed_cons_iff : Obstructed t root (file :: rest) ↔
    Stops t root file ∨ (valueIn? t root file = none ∧ Obstructed t root rest) := by
  constructor
  · rintro ⟨before, stopping, after, heq, hbefore, hstops⟩
    cases before with
    | nil =>
      cases heq
      exact .inl hstops
    | cons first before =>
      cases heq
      obtain ⟨hfirst, hbefore⟩ := List.forall_mem_cons.1 hbefore
      exact .inr ⟨hfirst, before, stopping, after, rfl, hbefore, hstops⟩
  · rintro (hstops | ⟨hnone, before, stopping, after, rfl, hbefore, hstops⟩)
    · exact ⟨[], file, rest, rfl, fun _ h => (nomatch h), hstops⟩
    · exact ⟨file :: before, stopping, after, rfl, List.forall_mem_cons.2 ⟨hnone, hbefore⟩, hstops⟩

/-- Where nothing is in the place for settings, only the search itself can be stopped. -/
theorem stops_iff_of_none (h : valueIn? t root file = none) : Stops t root file ↔ Halts t root file := by
  constructor
  · rintro (hhalts | ⟨v, hv, -⟩ | ⟨fields, hfields, -⟩)
    · exact hhalts
    · rw [h] at hv
      nomatch hv
    · rw [fieldsIn?, h] at hfields
      nomatch hfields
  · exact .halts

/-- A file whose search ends with an answer does not halt it. -/
theorem not_halts_of_some (h : valueIn? t root file = some v) : ¬ Halts t root file := by
  obtain ⟨bytes, hread, h⟩ := Option.bind_eq_some_iff.1 h
  obtain ⟨fields, hfields, -⟩ := Option.bind_eq_some_iff.1 h
  rintro (hlong | ⟨bytes', hread', hdeep⟩)
  · rw [hlong] at hread
    nomatch hread
  · rw [hread'] at hread
    cases hread
    rw [hdeep] at hfields
    nomatch hfields

/-- A value in the place for settings gives settings unless it stops the search. -/
theorem exists_ofToml_iff_not_stops (h : valueIn? t root file = some v) :
    (∃ s, ofToml default v = .ok s) ↔ ¬ Stops t root file := by
  have hunambiguous := unambiguous_valueIn? h
  cases v with
  | table origin fields =>
    have hfields : fieldsIn? t root file = some fields := fieldsIn?_eq h
    rw [exists_ofToml_iff (Toml.unambiguous_table_iff.1 hunambiguous)]
    constructor
    · rintro hall (hhalts | ⟨v, hv, hshape⟩ | ⟨fields', hfields', item, hitem, htext⟩)
      · exact not_halts_of_some h hhalts
      · rw [h] at hv
        cases hv
        nomatch hshape
      · rw [hfields] at hfields'
        cases hfields'
        obtain ⟨text, hdisplayed⟩ := hall item hitem
        exact htext text hdisplayed
    · intro hstops item hitem
      by_contra hnone
      exact hstops (.unnamed fields hfields item hitem (not_exists.1 hnone))
  | _ => exact iff_of_false (fun ⟨_, hs⟩ => nomatch hs) fun hstops => hstops (.shapeless _ h rfl)

/-- Settings are loaded unless something is in the way. -/
theorem exists_ofFiles_iff (t : FileTree) (root : Path) (files : List (String × List String)) :
    (∃ s, ofFiles t root files = .ok s) ↔ ¬ Obstructed t root files := by
  induction files with
  | nil =>
    refine iff_of_true ⟨default, rfl⟩ ?_
    rintro ⟨before, file, after, heq, -⟩
    exact absurd heq (by simp)
  | cons file rest ih =>
    rw [obstructed_cons_iff]
    rcases firstConfiguration_cases t root file rest with ⟨hhalts, f, hf⟩ | ⟨hhalts, hnone, heq⟩ | ⟨v, hv, heq⟩
    -- the search ends with a failure
    · refine iff_of_false ?_ fun hfree => hfree (.inl (.halts hhalts))
      rintro ⟨s, hs⟩
      unfold ofFiles at hs
      rw [hf] at hs
      nomatch hs
    -- a file that is passed over leaves the others to decide
    · rw [stops_iff_of_none hnone, or_iff_right hhalts, and_iff_right hnone, ← ih]
      unfold ofFiles
      rw [heq]
    -- the search ends here, and the value decides
    · rw [ofFiles_eq_of_found heq, hv]
      simp only [reduceCtorEq, false_and, or_false]
      exact exists_ofToml_iff_not_stops hv

/-- The first table that is not empty decides, and without one there are the defaults. -/
theorem ofFiles_cases (h : ofFiles t root files = .ok s) :
    (files.findSome? (fieldsIn? t root) = none ∧ s = default) ∨
    ∃ fields, files.findSome? (fieldsIn? t root) = some fields ∧ Follows fields s := by
  induction files with
  | nil =>
    cases h
    exact .inl ⟨rfl, rfl⟩
  | cons file rest ih =>
    rw [List.findSome?_cons]
    rcases firstConfiguration_cases t root file rest with ⟨-, f, hf⟩ | ⟨-, hnone, heq⟩ | ⟨v, hv, heq⟩
    · unfold ofFiles at h
      rw [hf] at h
      nomatch h
    · rw [fieldsIn?, hnone]
      refine ih ?_
      unfold ofFiles at h ⊢
      rw [← heq]
      exact h
    · rw [ofFiles_eq_of_found heq] at h
      cases v with
      | table origin fields =>
        have hfields : fieldsIn? t root file = some fields := fieldsIn?_eq hv
        rw [hfields]
        exact .inr ⟨fields, rfl, follows_of_ofToml (Toml.unambiguous_table_iff.1 (unambiguous_valueIn? hv)) h⟩
      | _ => nomatch h

/-- **Settings are loaded as they should be, unless something is in the way.** The first configuration that states
    anything decides, field by field, values of the wrong kind are passed over, and without a configuration there are
    the defaults. -/
theorem loads_iff (t : FileTree) (root : Path) : Loads t root ↔ ¬ Obstructed t root configurationFiles := by
  have hanswers := exists_ofFiles_iff t root configurationFiles
  rw [← ofProject_eq] at hanswers
  rw [← hanswers]
  refine ⟨fun h => h.answers, fun h => ⟨h, fun s hs => ?_, fun hnothing => ?_⟩⟩
  · rw [ofProject_eq] at hs
    rcases ofFiles_cases hs with ⟨hnone, rfl⟩ | ⟨fields, hfields, hfollows⟩
    · rw [stated, hnone]
      exact follows_nil
    · rw [stated, hfields]
      exact hfollows
  · obtain ⟨s, hs⟩ := h
    rw [ofProject_eq] at hs ⊢
    rcases ofFiles_cases hs with ⟨-, rfl⟩ | ⟨fields, hfields, -⟩
    · exact hs
    · rw [hnothing] at hfields
      nomatch hfields

/-- What cannot be read is passed over, and so is a value of the wrong kind. -/
example : ofProject (.directory [("app", .directory [(".depgraph.toml", .file "[".toUTF8),
    ("pyproject.toml", .file "[tool.depgraph]\nmax_workers = 2\nsnapshot_dir = 5".toUTF8)])]) ⟨"/", ["app"]⟩ =
      .ok { default with maxWorkers := 2 } := by decide +kernel

/-- Settings that are a number. -/
def numberedSettings : FileTree :=
  .directory [("app", .directory [(".depgraph.toml", .file "depgraph = 5\n".toUTF8)])]

/-- Nobody looks whether they are a table, although nothing is stated, and the defaults could be taken. -/
theorem not_loads_numberedSettings :
    configurationFiles.findSome? (fieldsIn? numberedSettings ⟨"/", ["app"]⟩) = none ∧
      ofProject numberedSettings ⟨"/", ["app"]⟩ = .error .noFields ∧ ¬ Loads numberedSettings ⟨"/", ["app"]⟩ := by
  have hfails : ofProject numberedSettings ⟨"/", ["app"]⟩ = .error .noFields := by decide +kernel
  refine ⟨by decide +kernel, hfails, fun h => ?_⟩
  obtain ⟨s, hs⟩ := h.answers
  rw [hfails] at hs
  nomatch hs

end CodeAtlas.Settings
