import CodeAtlas.Proofs.Conversion.Integrity
import CodeAtlas.Proofs.Conversion.Reading
import CodeAtlas.Proofs.Snapshot.Loading
/-!
  A snapshot file is answered, whatever JSON value is in it.

  Reading a file can fail in the file, in its characters, in the conversion of the value and in the graph that comes of
  it.  Only two sorts of causes are to come out where a value was read: that it is no snapshot, and that its graph
  does not hold together.

    1. Conversion has causes of three sorts, one for the shape of values besides these two (`Graph.convert_ends`).
    2. A cause of the first sort is translated; the others pass (`Refused`).
    3. So there is an intact graph or a refusal, unless the characters have too many digits in an integer or too many
       lists and objects inside of each other (`answers_iff`).
-/
namespace CodeAtlas.Graph

open Fault

/-- The refusal of a value whose conversion failed: a wrong shape is one of the whole file. -/
inductive Refused (path : Path) : Fault → Fault → Prop
  | translated (cause : Fault) (hcause : cause.isValueFault = true) : Refused path cause (.malformedSnapshot path.text)
  | passed (cause : Fault) (hvalue : cause.isValueFault = false)
      (hcause : cause.isSnapshotFault = true ∨ cause.isGraphFault = true) : Refused path cause cause

/-- A file gives an intact graph, or it is refused as no snapshot or as a graph that does not hold together. -/
def Answers (t : FileTree) (path : Path) : Prop :=
  (∃ g, ofFile t path = .ok g ∧ g.validate = .ok ()) ∨
    ∃ f, ofFile t path = .error f ∧ (f.isSnapshotFault = true ∨ f.isGraphFault = true)

variable {t : FileTree} {path : Path} {text : String} {v : Json}

theorem Refused.isRefusal {cause f : Fault} (h : Refused path cause f) :
    f.isSnapshotFault = true ∨ f.isGraphFault = true := by
  cases h with
  | translated _ => exact .inl rfl
  | passed _ hcause => exact hcause

/-- A value that is converted is loaded. -/
theorem ofText_of_convert {g : Graph} (hread : Json.read text = .ok v) (hconvert : convert v = .ok g) :
    SnapshotStore.ofText path text = .ok g := by
  unfold SnapshotStore.ofText
  simp only [hread, hconvert]

/-- A value that is not converted is refused. -/
theorem ofText_of_convert_error (path : Path) {cause : Fault} (hread : Json.read text = .ok v)
    (hconvert : convert v = .error cause) : ∃ f, SnapshotStore.ofText path text = .error f ∧ Refused path cause f := by
  unfold SnapshotStore.ofText
  simp only [hread, hconvert]
  refine ⟨_, rfl, ?_⟩
  cases hvalue : cause.isValueFault with
  | true => exact .translated cause hvalue
  | false =>
    refine .passed cause hvalue ?_
    rcases (convert_ends v).of_error hconvert with hkind | hkind | hkind
    · rw [hkind] at hvalue
      nomatch hvalue
    · exact .inl hkind
    · exact .inr hkind

/-- **A file is answered exactly if the reader has no limit to set against its characters.** -/
theorem answers_iff (h : t.readCharacters path = .ok text) :
    Answers t path ↔ Json.read text ≠ .error .tooLong ∧ Json.read text ≠ .error .tooDeep := by
  unfold Answers
  rw [SnapshotStore.ofFile_eq_ofText h]
  cases hread : Json.read text with
  | ok v =>
    refine iff_of_true ?_ ⟨(fun heq => nomatch heq), fun heq => nomatch heq⟩
    cases hconvert : convert v with
    | ok g => exact .inl ⟨g, ofText_of_convert hread hconvert, (validate_eq_ok_iff g).2 (intact_of_convert hconvert)⟩
    | error cause =>
      obtain ⟨f, hf, hrefused⟩ := ofText_of_convert_error path hread hconvert
      exact .inr ⟨f, hf, hrefused.isRefusal⟩
  | error e =>
    unfold SnapshotStore.ofText
    rw [hread]
    cases e with
    | malformed => simp [isSnapshotFault]
    | tooLong => simp [isSnapshotFault, isGraphFault]
    | tooDeep => simp [isSnapshotFault, isGraphFault]

/-- **A file with a value in it is answered.**  Its graph is that of the value, and a failure of the conversion is told
    as a refusal, the wrong shape of a part as one of the whole file. -/
theorem answers_of_read (hfile : t.readCharacters path = .ok text) (hread : Json.read text = .ok v) :
    Answers t path ∧ (∀ g, ofFile t path = .ok g ↔ convert v = .ok g) ∧
      ∀ cause, convert v = .error cause → ∃ f, ofFile t path = .error f ∧ Refused path cause f := by
  refine ⟨?_, fun g => ?_, fun cause hconvert => ?_⟩
  · rw [answers_iff hfile, hread]
    exact ⟨(fun heq => nomatch heq), fun heq => nomatch heq⟩
  · rw [SnapshotStore.ofFile_eq_ofText hfile]
    constructor
    · intro hg
      cases hconvert : convert v with
      | ok g' => rw [← hg, ofText_of_convert hread hconvert]
      | error cause =>
        obtain ⟨f, hf, -⟩ := ofText_of_convert_error path hread hconvert
        rw [hf] at hg
        nomatch hg
    · exact ofText_of_convert hread
  · rw [SnapshotStore.ofFile_eq_ofText hfile]
    exact ofText_of_convert_error path hread hconvert

/-- A file with a symbol whose relations are lists, of which one has an item that is the name of a field. -/
def listedRelation : FileTree :=
  .directory [("deps.json", .file
    "\x7b\"symbols\": [\x7b\"id\": [1, null], \"relations\": [[], [\"target\"]]\x7d]\x7d".toUTF8)]

/-- A list is asked for a field there, and the refusal is one of the file. -/
theorem answers_listedRelation : ∃ text v, listedRelation.readCharacters ⟨"/", ["deps.json"]⟩ = .ok text ∧
    Json.read text = .ok v ∧ convert v = .error .noFields ∧ Answers listedRelation ⟨"/", ["deps.json"]⟩ ∧
      ofFile listedRelation ⟨"/", ["deps.json"]⟩ = .error (.malformedSnapshot "/deps.json") := by
  have hfile : listedRelation.readCharacters ⟨"/", ["deps.json"]⟩ =
      .ok "\x7b\"symbols\": [\x7b\"id\": [1, null], \"relations\": [[], [\"target\"]]\x7d]\x7d" := by decide +kernel
  have hread : Json.read "\x7b\"symbols\": [\x7b\"id\": [1, null], \"relations\": [[], [\"target\"]]\x7d]\x7d" =
      .ok (.obj [("symbols", .arr [.obj [("id", .arr [.int 1, .null]),
        ("relations", .arr [.arr [], .arr [.str "target"]])]])]) := by decide +kernel
  have hconvert : convert (.obj [("symbols", .arr [.obj [("id", .arr [.int 1, .null]),
      ("relations", .arr [.arr [], .arr [.str "target"]])]])]) = .error .noFields := by decide +kernel
  obtain ⟨hanswers, -, hrefused⟩ := answers_of_read hfile hread
  obtain ⟨f, hf, hcause⟩ := hrefused _ hconvert
  refine ⟨_, _, hfile, hread, hconvert, hanswers, ?_⟩
  cases hcause with
  | translated _ => exact hf
  | passed hvalue _ => nomatch hvalue

end CodeAtlas.Graph
