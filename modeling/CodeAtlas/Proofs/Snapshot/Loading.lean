import CodeAtlas.Proofs.Conversion.Reading
import CodeAtlas.Proofs.FileTree.Saving
import CodeAtlas.Proofs.Json.Plain
import CodeAtlas.Snapshot
import Mathlib.Data.List.Nodup
/-!
  Loading a snapshot.

  A file that cannot be used should be passed over.  Three kinds of files are not: one whose bytes are no characters,
  and one in which an integer has too many digits or too many lists and objects are inside of each other.  The
  fault of such a file ends the loading, and the files after it are not tried.

    1. `Blocks` says that a file is of these kinds, or that its path is too long.
    2. The first usable graph is found unless a file blocks the way to it (`firstUsable_eq_ok_iff`).
    3. Then it is loaded, and if it was converted, it is saved as well; this fails only if it is too deep to be
       written or a directory is in the place of its file (`load_eq_ok_iff`).
-/
namespace CodeAtlas.SnapshotStore

open Fault FileTree

variable {s : SnapshotStore} {t : FileTree} {name : String}

/-! ## One file -/

/-- The graph that can be loaded from a file. -/
def usable? (s : SnapshotStore) (t : FileTree) (name : String) : Option Graph :=
  match t.hasFile (s.directory.child name) with
  | .ok true => (Graph.ofFile t (s.directory.child name)).toOption
  | _ => none

/-- Only a file can be used, and only if a graph can be made of it. -/
theorem usable?_eq_some_iff {g : Graph} : s.usable? t name = some g ↔
    t.hasFile (s.directory.child name) = .ok true ∧ Graph.ofFile t (s.directory.child name) = .ok g := by
  unfold usable?
  split
  · next hfile =>
    rw [hfile]
    cases Graph.ofFile t (s.directory.child name) with
    | ok g' => simp [Except.toOption]
    | error f => exact iff_of_false (fun h => nomatch h) fun h => nomatch h.2
  · next hfile => exact iff_of_false (fun h => nomatch h) fun h => hfile h.1

/-- A file whose fault is not passed over. -/
def Blocks (s : SnapshotStore) (t : FileTree) (name : String) : Prop :=
  (∃ f, t.hasFile (s.directory.child name) = .error f) ∨
    t.hasFile (s.directory.child name) = .ok true ∧ ∃ bytes, t.read (s.directory.child name) = .ok bytes ∧
      (String.fromUTF8? bytes = none ∨ ∃ text, String.fromUTF8? bytes = some text ∧
        (Json.read text = .error .tooLong ∨ Json.read text = .error .tooDeep))

/-- What a file is when there is one. -/
theorem find_of_hasFile {p : Path} (h : t.hasFile p = .ok true) : ∃ bytes, t.find p = .ok (.file bytes) := by
  unfold hasFile check at h
  split at h
  · next x hfind =>
    cases x with
    | file bytes => exact ⟨bytes, hfind⟩
    | directory es => nomatch h
  · nomatch h
  · nomatch h

/-- What a look-up finds can be asked for. -/
theorem hasFile_of_find {p : Path} {bytes : ByteArray} (h : t.find p = .ok (.file bytes)) : t.hasFile p = .ok true := by
  unfold hasFile check
  rw [h]
  rfl

theorem read_of_find {p : Path} {bytes : ByteArray} (h : t.find p = .ok (.file bytes)) : t.read p = .ok bytes := by
  unfold FileTree.read
  rw [h]
  rfl

/-- A fault of conversion is passed over. -/
theorem isPassedOver_of_convert {v : Json} {f : Fault} (h : Graph.convert v = .error f) (text : String) :
    isPassedOver (if f.isValueFault then .malformedSnapshot text else f) = true := by
  split
  · rfl
  · next hvalue =>
    unfold isPassedOver
    rcases (Graph.convert_ends v).of_error h with hkind | hkind | hkind
    · exact absurd hkind hvalue
    · rw [hkind, Bool.or_true, Bool.true_or]
    · rw [hkind, Bool.or_true]

/-- The graph of the characters of a file. -/
def ofText (path : Path) (text : String) : Except Fault Graph :=
  match Json.read text with
  | .error .malformed => .error (.notJson path.text)
  | .error .tooLong => .error .badValue
  | .error .tooDeep => .error .tooDeep
  | .ok v =>
    match Graph.convert v with
    | .ok g => .ok g
    | .error f => .error (if f.isValueFault then .malformedSnapshot path.text else f)

/-- The characters of a file decide. -/
theorem ofFile_eq_ofText {p : Path} {text : String} (h : t.readCharacters p = .ok text) :
    Graph.ofFile t p = ofText p text := by
  unfold Graph.ofFile ofText
  rw [h]
  show (pure text >>= _ : Except Fault Graph) = _
  rw [pure_bind]
  cases Json.read text with
  | error e => cases e <;> rfl
  | ok v => cases Graph.convert v <;> rfl

/-- Bytes that are no characters are a failure of their own, and the text decides the rest. -/
theorem ofFile_eq {p : Path} {bytes : ByteArray} (h : t.find p = .ok (.file bytes)) :
    Graph.ofFile t p = (String.fromUTF8? bytes).elim (.error .undecodable) (ofText p) := by
  have hcharacters : t.readCharacters p = (String.fromUTF8? bytes).elim (.error .undecodable) .ok := by
    unfold readCharacters
    rw [read_of_find h]
    show (pure bytes >>= _ : Except Fault String) = _
    rw [pure_bind]
    cases String.fromUTF8? bytes <;> rfl
  cases htext : String.fromUTF8? bytes with
  | none =>
    unfold Graph.ofFile
    rw [hcharacters, htext]
    rfl
  | some text => exact ofFile_eq_ofText (by rw [hcharacters, htext]; rfl)

/-- The characters of a file give a graph, or it is passed over, or there is too much in them. -/
theorem ofText_cases (path : Path) (text : String) :
    (∃ g, ofText path text = .ok g ∧ Json.read text ≠ .error .tooLong ∧ Json.read text ≠ .error .tooDeep) ∨
      ∃ f, ofText path text = .error f ∧
        (isPassedOver f = true ∧ Json.read text ≠ .error .tooLong ∧ Json.read text ≠ .error .tooDeep ∨
          isPassedOver f = false ∧ (Json.read text = .error .tooLong ∨ Json.read text = .error .tooDeep)) := by
  unfold ofText
  cases hread : Json.read text with
  | error e =>
    cases e with
    | malformed => exact .inr ⟨_, rfl, .inl ⟨rfl, by simp⟩⟩
    | tooLong => exact .inr ⟨_, rfl, .inr ⟨rfl, .inl rfl⟩⟩
    | tooDeep => exact .inr ⟨_, rfl, .inr ⟨rfl, .inr rfl⟩⟩
  | ok v =>
    simp only
    cases hconvert : Graph.convert v with
    | ok g => exact .inl ⟨g, rfl, by simp⟩
    | error f => exact .inr ⟨_, rfl, .inl ⟨isPassedOver_of_convert hconvert _, by simp⟩⟩

/-- A file gives a graph, or it is passed over, or it blocks the way. -/
theorem ofFile_cases (h : t.hasFile (s.directory.child name) = .ok true) :
    (∃ g, Graph.ofFile t (s.directory.child name) = .ok g ∧ ¬ s.Blocks t name) ∨
      ∃ f, Graph.ofFile t (s.directory.child name) = .error f ∧
        (isPassedOver f = true ∧ ¬ s.Blocks t name ∨ isPassedOver f = false ∧ s.Blocks t name) := by
  obtain ⟨bytes, hfind⟩ := find_of_hasFile h
  -- the file blocks the way exactly by what is in it
  have hblocks : s.Blocks t name ↔ String.fromUTF8? bytes = none ∨ ∃ text, String.fromUTF8? bytes = some text ∧
      (Json.read text = .error .tooLong ∨ Json.read text = .error .tooDeep) := by
    unfold Blocks
    rw [h, read_of_find hfind]
    constructor
    · rintro (⟨f, hf⟩ | ⟨-, _, ⟨⟩, hcontent⟩)
      · nomatch hf
      · exact hcontent
    · exact fun hcontent => .inr ⟨rfl, bytes, rfl, hcontent⟩
  rw [ofFile_eq hfind, hblocks]
  cases String.fromUTF8? bytes with
  | none => exact .inr ⟨.undecodable, rfl, .inr ⟨rfl, .inl rfl⟩⟩
  | some text =>
    show (∃ g, ofText _ text = .ok g ∧ _) ∨ ∃ f, ofText _ text = .error f ∧ _
    have hcontent : (some text = none ∨ ∃ text', some text = some text' ∧
        (Json.read text' = .error .tooLong ∨ Json.read text' = .error .tooDeep)) ↔
          Json.read text = .error .tooLong ∨ Json.read text = .error .tooDeep := by
      simp
    rw [hcontent]
    rcases ofText_cases (s.directory.child name) text with ⟨g, hg, hlong, hdeep⟩ | ⟨f, hf, hcause⟩
    · exact .inl ⟨g, hg, not_or.2 ⟨hlong, hdeep⟩⟩
    · refine .inr ⟨f, hf, hcause.imp ?_ fun h => h⟩
      rintro ⟨hover, hlong, hdeep⟩
      exact ⟨hover, not_or.2 ⟨hlong, hdeep⟩⟩

/-! ## The first usable one -/

/-- The first file of some that a graph can be loaded from, and the graph. -/
def firstOf (s : SnapshotStore) (t : FileTree) (names : List String) : Option (String × Graph) :=
  names.findSome? fun name => (s.usable? t name).map (name, ·)

/-- The first usable file is one of those that are tried. -/
theorem firstOf_eq_some {names : List String} {g : Graph} (h : s.firstOf t names = some (name, g)) :
    name ∈ names ∧ s.usable? t name = some g := by
  obtain ⟨n, hn, hmap⟩ := List.exists_of_findSome?_eq_some h
  obtain ⟨g', hg', heq⟩ := Option.map_eq_some_iff.1 hmap
  cases heq
  exact ⟨hn, hg'⟩

/-- Every file that blocks the way has a usable one before it. -/
def IsClear (s : SnapshotStore) (t : FileTree) (names : List String) : Prop :=
  ∀ before name after, names = before ++ name :: after → s.Blocks t name → ∃ n ∈ before, (s.usable? t n).isSome = true

/-- The way is clear if the first file does not block it and can be used, or the way behind it is clear. -/
theorem isClear_cons_iff {names : List String} : s.IsClear t (name :: names) ↔
    ¬ s.Blocks t name ∧ ((s.usable? t name).isSome = true ∨ s.IsClear t names) := by
  constructor
  · intro h
    refine ⟨fun hblocks => ?_, ?_⟩
    · obtain ⟨n, hn, -⟩ := h [] name names rfl hblocks
      exact absurd hn List.not_mem_nil
    · by_cases husable : (s.usable? t name).isSome = true
      · exact .inl husable
      · right
        rintro before n after rfl hblocks
        obtain ⟨m, hm, hsome⟩ := h (name :: before) n after rfl hblocks
        rcases List.mem_cons.1 hm with rfl | hm
        · exact absurd hsome husable
        · exact ⟨m, hm, hsome⟩
  · rintro ⟨hnot, hrest⟩ (_ | ⟨first, before⟩) n after heq hblocks
    · cases heq
      exact absurd hblocks hnot
    · cases heq
      rcases hrest with husable | hrest
      · exact ⟨name, List.mem_cons_self, husable⟩
      · obtain ⟨m, hm, hsome⟩ := hrest before n after rfl hblocks
        exact ⟨m, List.mem_cons_of_mem _ hm, hsome⟩

/-- **The first usable graph is found exactly if nothing blocks the way to it.** -/
theorem firstUsable_eq_ok_iff (names : List String) (r : Option (String × Graph)) :
    s.firstUsable t names = .ok r ↔ s.IsClear t names ∧ r = s.firstOf t names := by
  induction names with
  | nil =>
    refine ⟨fun h => ⟨fun before name after heq => ?_, (Except.ok.inj h).symm⟩, fun h => congrArg Except.ok h.2.symm⟩
    exact absurd heq.symm (by simp)
  | cons name names ih =>
    rw [isClear_cons_iff, firstUsable, firstOf, List.findSome?_cons]
    cases hfile : t.hasFile (s.directory.child name) with
    | error f =>
      refine iff_of_false (fun h => nomatch h) fun h => h.1.1 (.inl ⟨f, hfile⟩)
    | ok there =>
      cases there with
      -- no file of this name: it blocks nothing and is not usable
      | false =>
        have husable : s.usable? t name = none := by
          unfold usable?
          rw [hfile]
        have hnot : ¬ s.Blocks t name := by
          unfold Blocks
          rw [hfile]
          rintro (⟨f, hf⟩ | ⟨hf, -⟩)
          · nomatch hf
          · nomatch hf
        rw [husable]
        show s.firstUsable t names = .ok r ↔ _
        rw [ih]
        simp [hnot, firstOf]
      | true =>
        have husable : s.usable? t name = (Graph.ofFile t (s.directory.child name)).toOption := by
          unfold usable?
          rw [hfile]
        rw [husable]
        rcases ofFile_cases hfile with ⟨g, hg, hnot⟩ | ⟨f, hf, hcause⟩
        · rw [hg]
          show Except.ok (some (name, g)) = .ok r ↔ (_ ∧ (true = true ∨ _)) ∧ r = some (name, g)
          rw [Except.ok.injEq, eq_comm]
          exact ⟨fun heq => ⟨⟨hnot, .inl rfl⟩, heq⟩, fun h => h.2⟩
        · rw [hf]
          show (if isPassedOver f = true then s.firstUsable t names else .error f) = .ok r ↔
            (_ ∧ (false = true ∨ _)) ∧ r = s.firstOf t names
          -- which of the two it is depends on the cause, and these are the causes of blocking
          rcases hcause with ⟨hover, hnot⟩ | ⟨hover, hblocks⟩
          · rw [if_pos hover, ih]
            simp [hnot]
          · rw [hover, if_neg Bool.false_ne_true]
            exact iff_of_false (fun h => nomatch h) fun h => h.1.1 hblocks

/-! ## The directory of the files -/

/-- The names of the files are short and without slashes, so each of them is one step down. -/
theorem plain_fileNames : ∀ name ∈ fileNames, Path.IsPlainName name ∧ name ≠ ".." ∧ Path.isLongName name = false := by
  decide +kernel

theorem graphFile_mem : graphFile ∈ fileNames := List.mem_cons_self

/-- A directory of snapshots is there. -/
structure IsAt (s : SnapshotStore) (t : FileTree) (place : List String) (es : List (String × FileTree)) : Prop where
  walk : t.walk [] s.directory.parts = .ok place
  here : at? place t = some (.directory es)
  bytes : ∀ name ∈ fileNames, (s.directory.child name).checkBytes = .ok ()

section

variable {x : FileTree} {place : List String} {es : List (String × FileTree)}

/-- It is there if anything was found in it. -/
theorem isAt_of_find (hname : name ∈ fileNames) (h : t.find (s.directory.child name) = .ok x) :
    ∃ place es, s.IsAt t place es := by
  obtain ⟨place, es, hwalk, hdir⟩ := exists_directory_of_find_child h
  refine ⟨place, es, hwalk, hdir, fun name' hname' => ?_⟩
  obtain ⟨hbytes, -⟩ := find_eq_ok_iff.1 h
  exact Path.checkBytes_child_congr (plain_fileNames name hname).1 (plain_fileNames name' hname').1 hbytes

/-- Then the files are among its entries. -/
theorem IsAt.find (h : s.IsAt t place es) (hname : name ∈ fileNames) :
    t.find (s.directory.child name) =
      if (s.directory.child name).isLong then .error .nameTooLong
      else (OrderedMap.lookup name es).elim (.error .fileMissing) .ok := by
  obtain ⟨-, hdots, hshort⟩ := plain_fileNames name hname
  rw [find_child h.walk h.here hdots hshort, h.bytes name hname]
  rfl

/-- A path that can be asked about is not too long. -/
theorem IsAt.isLong_of_hasFile {b : Bool} (h : s.IsAt t place es) (hname : name ∈ fileNames)
    (hfile : t.hasFile (s.directory.child name) = .ok b) : (s.directory.child name).isLong = false := by
  rw [← Bool.not_eq_true]
  intro hlong
  unfold hasFile check at hfile
  rw [h.find hname, if_pos hlong] at hfile
  nomatch hfile

/-- What stands under the name of a file is seen in the entries of the directory. -/
theorem IsAt.hasDirectory_iff (h : s.IsAt t place es) (hname : name ∈ fileNames)
    (hshort : (s.directory.child name).isLong = false) :
    t.hasDirectory (s.directory.child name) = .ok true ↔ ∃ sub, OrderedMap.lookup name es = some (.directory sub) := by
  unfold hasDirectory check
  rw [h.find hname, hshort, if_neg Bool.false_ne_true]
  cases OrderedMap.lookup name es with
  | none => exact iff_of_false (fun h => nomatch h) fun ⟨_, h⟩ => nomatch h
  | some x =>
    cases x with
    | file content => exact iff_of_false (fun h => nomatch h) fun ⟨_, h⟩ => nomatch h
    | directory sub => exact iff_of_true rfl ⟨sub, rfl⟩

/-! ## Saving in it -/

/-- A value can be written unless it is too deep. -/
theorem document_eq_ok_iff {v : Json} {text : String} :
    v.document = .ok text ↔ v.depth ≤ Json.maxDepth ∧ text = v.pretty ++ "\n" := by
  unfold Json.document
  split
  · next hdeep => exact iff_of_false (fun h => nomatch h) fun h => Nat.not_lt.2 h.1 hdeep
  · next hdeep =>
    rw [Except.ok.injEq, eq_comm]
    exact ⟨fun heq => ⟨Nat.not_lt.1 hdeep, heq⟩, fun h => h.2⟩

/-- The bytes of a document are read back as its characters. -/
theorem utf8?_pretty (v : Json) : ∃ bytes, Text.utf8? (v.pretty ++ "\n") = some bytes ∧
    String.fromUTF8? bytes = some (v.pretty ++ "\n") :=
  Text.utf8?_of_plain (Text.isPlain_concat (Json.isPlain_pretty v) (by decide))

variable {disk disk' : Disk} {g : Graph}

/-- What saving a graph leaves. -/
theorem IsAt.of_save_ok (h : s.IsAt disk.tree place es)
    (hsave : (Disk.Action.save (s.directory.child graphFile) g.toJson.document).on disk = (.ok (), disk')) :
    g.toJson.depth ≤ Json.maxDepth ∧ (∀ sub, OrderedMap.lookup graphFile es ≠ some (.directory sub)) ∧
      ∃ bytes, String.fromUTF8? bytes = some (g.toJson.pretty ++ "\n") ∧
        disk' = { disk with tree := modify (Disk.Action.savedEntries graphFile bytes) place disk.tree } := by
  have hwalk := h.walk
  rw [← Path.parent_child s.directory graphFile] at hwalk
  obtain ⟨text, bytes, hdocument, hbytes, hfree, rfl⟩ := Disk.Action.of_save_ok hsave hwalk h.here
  obtain ⟨hdepth, rfl⟩ := document_eq_ok_iff.1 hdocument
  obtain ⟨written, hwritten, hback⟩ := utf8?_pretty g.toJson
  cases hwritten.symm.trans hbytes
  rw [Path.name_child] at hfree ⊢
  exact ⟨hdepth, hfree, _, hback, rfl⟩

/-- A graph that can be written is saved in a directory that can be written to. -/
theorem IsAt.exists_save (h : s.IsAt disk.tree place es) (hanchor : Path.IsAnchor s.directory.anchor)
    (hwritable : disk.Writable place) (hshort : (s.directory.child graphFile).isLong = false)
    (hdepth : g.toJson.depth ≤ Json.maxDepth) (hfree : ∀ sub, OrderedMap.lookup graphFile es ≠ some (.directory sub)) :
    ∃ disk', (Disk.Action.save (s.directory.child graphFile) g.toJson.document).on disk = (.ok (), disk') := by
  obtain ⟨bytes, hbytes, -⟩ := utf8?_pretty g.toJson
  have hplain := (plain_fileNames graphFile graphFile_mem).1
  obtain ⟨hclean, hsize⟩ := Path.clean_of_child hanchor hplain.1 (h.bytes graphFile graphFile_mem) hshort
  have hname : 1 ≤ Path.nameSize graphFile := by decide
  have hwalk := h.walk
  rw [← Path.parent_child s.directory graphFile] at hwalk hclean
  rw [document_eq_ok_iff.2 ⟨hdepth, rfl⟩]
  refine ⟨_, Disk.Action.on_save hbytes hwalk h.here hwritable hclean ?_ ?_⟩
  · rw [Path.parent_child]
    omega
  · rw [Path.name_child]
    exact hfree

end

/-! ## Loading -/

variable {disk disk' : Disk}

/-- Loading in two steps: asking for the first usable graph, and saving it if it was converted. -/
theorem load_eq (s : SnapshotStore) :
    s.load = (Disk.Action.ask fun t => s.firstUsable t fileNames) >>= fun found =>
      found.elim (pure none) fun entry =>
        if entry.1 = graphFile then pure (some entry.2) else s.save entry.2 >>= fun _ => pure (some entry.2) := by
  unfold load
  congr 1
  funext found
  cases found with
  | none => rfl
  | some entry =>
    obtain ⟨name, g⟩ := entry
    show (if name ≠ graphFile then _ else _) = if name = graphFile then _ else _
    rw [ite_not]

/-- A graph is saved under the name of the graph file. -/
theorem exists_on_save_iff {g : Graph} :
    (∃ path, (s.save g).on disk = (.ok path, disk')) ↔
      (Disk.Action.save (s.directory.child graphFile) g.toJson.document).on disk = (.ok (), disk') := by
  unfold save saveDocument
  constructor
  · rintro ⟨path, hsave⟩
    obtain ⟨⟨⟩, d, hsave, hpath⟩ := Disk.Action.on_bind_ok_iff.1 hsave
    cases hpath
    exact hsave
  · exact fun hsave => ⟨_, Disk.Action.on_bind_ok_iff.2 ⟨(), disk', hsave, rfl⟩⟩

/-- **Loading answers the first usable graph,** and a converted one is saved. -/
theorem on_load_ok_iff {r : Option Graph} :
    s.load.on disk = (.ok r, disk') ↔
      s.firstUsable disk.tree fileNames = .ok none ∧ r = none ∧ disk' = disk ∨
        ∃ name g, s.firstUsable disk.tree fileNames = .ok (some (name, g)) ∧ r = some g ∧
          (name = graphFile ∧ disk' = disk ∨ name ≠ graphFile ∧
            (Disk.Action.save (s.directory.child graphFile) g.toJson.document).on disk = (.ok (), disk')) := by
  rw [load_eq, Disk.Action.on_bind, Disk.Action.on_ask]
  cases s.firstUsable disk.tree fileNames with
  | error f => exact iff_of_false (fun h => nomatch h) (by simp)
  | ok found =>
    cases found with
    | none =>
      show (Except.ok none, disk) = (Except.ok r, disk') ↔ _
      simp [eq_comm]
    | some entry =>
      obtain ⟨name, g⟩ := entry
      show ((if name = graphFile then _ else _ : Disk.Action _).on disk = _) ↔ _
      split
      · next hname =>
        show (Except.ok (some g), disk) = (Except.ok r, disk') ↔ _
        simp [hname, eq_comm]
      · next hname =>
        rw [Disk.Action.on_bind_ok_iff]
        constructor
        · rintro ⟨path, d, hsave, hpure⟩
          cases hpure
          exact .inr ⟨name, g, rfl, rfl, .inr ⟨hname, exists_on_save_iff.1 ⟨path, hsave⟩⟩⟩
        · rintro (⟨⟨⟩, -⟩ | ⟨_, _, ⟨⟩, rfl, ⟨heq, -⟩ | ⟨-, hsave⟩⟩)
          · exact absurd heq hname
          · obtain ⟨path, hsave⟩ := exists_on_save_iff.2 hsave
            exact ⟨path, disk', hsave, rfl⟩

/-- If there is an answer, it could be asked about the first file. -/
theorem hasFile_of_firstUsable {r : Option (String × Graph)} (h : s.firstUsable t fileNames = .ok r) :
    ∃ b, t.hasFile (s.directory.child graphFile) = .ok b := by
  rw [fileNames, firstUsable] at h
  obtain ⟨b, hb, -⟩ := Fault.bind_eq_ok_iff.1 h
  exact ⟨b, hb⟩

/-- If a graph was found, its directory is there, and the path of the first file is not too long. -/
theorem isAt_of_firstUsable {g : Graph} (h : s.firstUsable t fileNames = .ok (some (name, g))) :
    ∃ place es, s.IsAt t place es ∧ (s.directory.child graphFile).isLong = false := by
  obtain ⟨b, hfile⟩ := hasFile_of_firstUsable h
  obtain ⟨-, hfirst⟩ := (firstUsable_eq_ok_iff fileNames _).1 h
  obtain ⟨hname, husable⟩ := firstOf_eq_some hfirst.symm
  obtain ⟨bytes, hfind⟩ := find_of_hasFile (usable?_eq_some_iff.1 husable).1
  obtain ⟨place, es, hat⟩ := isAt_of_find hname hfind
  exact ⟨place, es, hat, hat.isLong_of_hasFile graphFile_mem hfile⟩

/-- The graph that was found can be saved if it can be written, and no directory is in the place of its file. -/
theorem exists_save_iff {g : Graph} (hanchor : Path.IsAnchor s.directory.anchor)
    (hwritable : ∀ place, disk.tree.walk [] s.directory.parts = .ok place → disk.Writable place)
    (hfound : s.firstUsable disk.tree fileNames = .ok (some (name, g))) :
    (∃ disk', (Disk.Action.save (s.directory.child graphFile) g.toJson.document).on disk = (.ok (), disk')) ↔
      g.toJson.depth ≤ Json.maxDepth ∧ disk.tree.hasDirectory (s.directory.child graphFile) ≠ .ok true := by
  obtain ⟨place, es, hat, hshort⟩ := isAt_of_firstUsable hfound
  rw [Ne, hat.hasDirectory_iff graphFile_mem hshort, not_exists]
  constructor
  · rintro ⟨disk', hsave⟩
    obtain ⟨hdepth, hfree, -⟩ := hat.of_save_ok hsave
    exact ⟨hdepth, hfree⟩
  · rintro ⟨hdepth, hfree⟩
    exact hat.exists_save hanchor (hwritable place hat.walk) hshort hdepth hfree

/-- A graph that was converted can be kept: it can be written, and no directory is in the place of its file. -/
def CanKeep (s : SnapshotStore) (t : FileTree) : Prop :=
  ∀ name g, s.firstOf t fileNames = some (name, g) → name ≠ graphFile →
    g.toJson.depth ≤ Json.maxDepth ∧ t.hasDirectory (s.directory.child graphFile) ≠ .ok true

/-- **When the first usable graph is loaded:** exactly if no file blocks the way to it and it can be kept.  The answer
    is the graph of the first usable file, or nothing if there is none, and in every other case the loading fails. -/
theorem load_eq_ok_iff {r : Option Graph} (hpath : ∃ directory, s.directory = Path.ofString directory)
    (hwritable : ∀ place, disk.tree.walk [] s.directory.parts = .ok place → disk.Writable place) :
    (s.load.on disk).1 = .ok r ↔
      r = (s.firstOf disk.tree fileNames).map (·.2) ∧ s.IsClear disk.tree fileNames ∧ s.CanKeep disk.tree := by
  have hanchor : Path.IsAnchor s.directory.anchor := by
    obtain ⟨directory, hdirectory⟩ := hpath
    rw [hdirectory]
    exact Path.isAnchor_ofString directory
  constructor
  · intro h
    rcases on_load_ok_iff.1 (Prod.ext h rfl) with ⟨hfound, rfl, -⟩ | ⟨name, g, hfound, rfl, hkept⟩
    · obtain ⟨hclear, hfirst⟩ := (firstUsable_eq_ok_iff fileNames _).1 hfound
      rw [CanKeep, ← hfirst]
      exact ⟨rfl, hclear, by simp⟩
    · obtain ⟨hclear, hfirst⟩ := (firstUsable_eq_ok_iff fileNames _).1 hfound
      rw [CanKeep, ← hfirst]
      refine ⟨rfl, hclear, ?_⟩
      rintro _ _ ⟨⟩ hname
      rcases hkept with ⟨heq, -⟩ | ⟨-, hsave⟩
      · exact absurd heq hname
      · exact (exists_save_iff hanchor hwritable hfound).1 ⟨_, hsave⟩
  · rintro ⟨rfl, hclear, hkeep⟩
    have hfound := (firstUsable_eq_ok_iff fileNames _).2 ⟨hclear, rfl⟩
    cases hfirst : s.firstOf disk.tree fileNames with
    | none =>
      rw [hfirst] at hfound
      exact congrArg Prod.fst (on_load_ok_iff.2 (.inl ⟨hfound, rfl, rfl⟩))
    | some entry =>
      obtain ⟨name, g⟩ := entry
      rw [hfirst] at hfound
      -- a graph from its own file is not saved again
      by_cases hname : name = graphFile
      · exact congrArg Prod.fst (on_load_ok_iff.2 (.inr ⟨name, g, hfound, rfl, .inl ⟨hname, rfl⟩⟩))
      · obtain ⟨disk', hsave⟩ := (exists_save_iff hanchor hwritable hfound).2 (hkeep name g hfirst hname)
        exact congrArg Prod.fst (on_load_ok_iff.2 (.inr ⟨name, g, hfound, rfl, .inr ⟨hname, hsave⟩⟩))

/-- A directory of snapshots by its name. -/
def depgraph : SnapshotStore := ⟨Path.ofString ".depgraph"⟩

/-- A list of classes behind another file. -/
def behind (bytes : ByteArray) : FileTree :=
  .directory [(".depgraph", .directory [(graphFile, .file bytes),
    (classesFile, .file "\x7b\"classes\": []\x7d".toUTF8)])]

/-- A file that is no JSON is passed over, and the list behind it is loaded. -/
theorem load_behind_empty : (∃ directory, depgraph.directory = Path.ofString directory) ∧
    (∀ place, (behind .empty).walk [] depgraph.directory.parts = .ok place →
      (Disk.sound (behind .empty)).Writable place) ∧
    (depgraph.load.on (Disk.sound (behind .empty))).1 = .ok (some (Graph.ofClasses [])) := by
  have hwritable : ∀ place, (behind .empty).walk [] depgraph.directory.parts = .ok place →
      (Disk.sound (behind .empty)).Writable place := fun _ _ _ _ => rfl
  have hfound : depgraph.firstUsable (behind .empty) fileNames = .ok (some (classesFile, Graph.ofClasses [])) := by
    decide +kernel
  obtain ⟨hclear, hfirst⟩ := (firstUsable_eq_ok_iff fileNames _).1 hfound
  refine ⟨⟨_, rfl⟩, hwritable, (load_eq_ok_iff ⟨_, rfl⟩ hwritable).2 ⟨?_, hclear, fun name g hsome _ => ?_⟩⟩
  · exact congrArg (Option.map (·.2)) hfirst
  · cases hfirst.trans hsome
    exact ⟨by decide +kernel, by decide +kernel⟩

/-- A file that is no text is not passed over, and the list behind it is not loaded. -/
theorem not_load_behind_byte :
    depgraph.firstOf (behind ⟨#[0xff]⟩) fileNames = some (classesFile, Graph.ofClasses []) ∧
      (depgraph.load.on (Disk.sound (behind ⟨#[0xff]⟩))).1 = .error .undecodable := by
  decide +kernel

end CodeAtlas.SnapshotStore
