import CodeAtlas.Proofs.Conversion.Codec
import CodeAtlas.Proofs.Conversion.Integrity
import CodeAtlas.Proofs.Snapshot.Loading
/-!
  A snapshot is converted only once.

  What was loaded from the symbols of an analysis or from a list of classes is saved as a graph, in the file that is
  tried first.  So it is what the next loading finds there that counts:

    1. any graph that is loaded is intact, and no type in it is empty; if no title is, the saved one is converted to
       itself (`convert_toJson_of_usable`);
    2. the directory with the new file has all other files as they were (`IsAt.saved`, `IsAt.find_other`);
    3. hence the next loading gives the same graph and changes nothing (`reload_of_load`).

  That the text of a JSON value is read back as this value is taken as given for the graph that is written.
-/
namespace CodeAtlas

/-- Reading inverts writing.  In particular all keys are texts, as no other keys are read. -/
def Json.IsReadBack (v : Json) : Prop := Json.read (v.pretty ++ "\n") = .ok v

instance (v : Json) : Decidable v.IsReadBack :=
  inferInstanceAs (Decidable (Json.read (v.pretty ++ "\n") = .ok v))

namespace SnapshotStore

open FileTree

variable {s : SnapshotStore} {t : FileTree} {name : String} {g : Graph}

/-! ## What is loaded -/

theorem exists_convert_of_usable (h : s.usable? t name = some g) : ∃ v, Graph.convert v = .ok g := by
  obtain ⟨hfile, hg⟩ := usable?_eq_some_iff.1 h
  obtain ⟨bytes, hfind⟩ := find_of_hasFile hfile
  rw [ofFile_eq hfind] at hg
  cases htext : String.fromUTF8? bytes with
  | none =>
    rw [htext] at hg
    nomatch hg
  | some text =>
    rw [htext, Option.elim_some, ofText] at hg
    split at hg
    · nomatch hg
    · nomatch hg
    · nomatch hg
    · next v _ =>
      cases hconvert : Graph.convert v with
      | ok g' =>
        rw [hconvert] at hg
        cases hg
        exact ⟨v, hconvert⟩
      | error f =>
        rw [hconvert] at hg
        nomatch hg

/-- What is loaded and written is converted to itself. -/
theorem convert_toJson_of_usable (h : s.usable? t name = some g) (htitles : ∀ n ∈ g.nodes, n.title ≠ "") :
    Graph.convert g.toJson = .ok g := by
  obtain ⟨v, hconvert⟩ := exists_convert_of_usable h
  have hnormal : g.IsNormal := fun n hn => ⟨(Graph.convert_ends v).of_ok hconvert n hn, .inl (htitles n hn)⟩
  rw [Graph.convert_toJson (Graph.intact_of_convert hconvert), Graph.completed_eq_self_iff.2 hnormal]

/-! ## What is saved -/

section

variable {place : List String} {es : List (String × FileTree)} {bytes : ByteArray}

/-- The directory is there after a graph was saved in it. -/
theorem IsAt.saved (h : s.IsAt t place es) (bytes : ByteArray)
    (hfree : ∀ sub, OrderedMap.lookup graphFile es ≠ some (.directory sub)) :
    s.IsAt (modify (Disk.Action.savedEntries graphFile bytes) place t) place
      (Disk.Action.savedEntries graphFile bytes es) where
  walk := (kept_modify h.here (Disk.Action.savedEntries_keeps bytes hfree)).walk h.walk h.here
  here := at?_modify h.here _
  bytes := h.bytes

/-- The new file is found. -/
theorem IsAt.find_graphFile (h : s.IsAt t place (Disk.Action.savedEntries graphFile bytes es))
    (hshort : (s.directory.child graphFile).isLong = false) :
    t.find (s.directory.child graphFile) = .ok (.file bytes) := by
  rw [h.find graphFile_mem, hshort, if_neg Bool.false_ne_true, Disk.Action.lookup_savedEntries, if_pos rfl]
  rfl

/-- Another file is found as before. -/
theorem IsAt.find_other {t' : FileTree} (h : s.IsAt t place es)
    (h' : s.IsAt t' place (Disk.Action.savedEntries graphFile bytes es)) (hname : name ∈ fileNames)
    (hother : name ≠ graphFile) : t'.find (s.directory.child name) = t.find (s.directory.child name) := by
  rw [h.find hname, h'.find hname, Disk.Action.lookup_savedEntries, if_neg hother.symm]

end

/-! ## Loading again -/

/-- A saved graph is found at once. -/
theorem firstUsable_of_saved {bytes : ByteArray} (hfind : t.find (s.directory.child graphFile) = .ok (.file bytes))
    (hbytes : String.fromUTF8? bytes = some (g.toJson.pretty ++ "\n")) (hread : g.toJson.IsReadBack)
    (hconvert : Graph.convert g.toJson = .ok g) : s.firstUsable t fileNames = .ok (some (graphFile, g)) := by
  have hfile : Graph.ofFile t (s.directory.child graphFile) = .ok g := by
    rw [ofFile_eq hfind, hbytes, Option.elim_some, ofText, show Json.read _ = _ from hread]
    simp only [hconvert]
  rw [fileNames, firstUsable, hasFile_of_find hfind]
  show (pure true >>= _ : Except Fault _) = _
  rw [pure_bind, hfile]
  rfl

variable {disk disk' : Disk}

/-- **A snapshot is converted only once.**  After a graph was loaded the standard file is there and the other files are
    what they were, and loading again gives the same graph and leaves the disk as it is. -/
theorem reload_of_load (hload : s.load.on disk = (.ok (some g), disk')) (htitles : ∀ n ∈ g.nodes, n.title ≠ "")
    (hread : g.toJson.IsReadBack) :
    disk'.tree.hasFile (s.directory.child graphFile) = .ok true ∧
      (∀ name ∈ [symbolsFile, classesFile],
        disk'.tree.find (s.directory.child name) = disk.tree.find (s.directory.child name)) ∧
      s.load.on disk' = (.ok (some g), disk') := by
  obtain ⟨-, ⟨⟩, -⟩ | ⟨name, _, hfound, ⟨⟩, hkept⟩ := on_load_ok_iff.1 hload
  obtain ⟨-, hfirst⟩ := (firstUsable_eq_ok_iff fileNames _).1 hfound
  obtain ⟨-, husable⟩ := firstOf_eq_some hfirst.symm
  rcases hkept with ⟨rfl, rfl⟩ | ⟨-, hsave⟩
  · -- the standard file itself was loaded
    exact ⟨(usable?_eq_some_iff.1 husable).1, fun _ _ => rfl, hload⟩
  · obtain ⟨place, es, hat, hshort⟩ := isAt_of_firstUsable hfound
    obtain ⟨-, hfree, bytes, hbytes, rfl⟩ := hat.of_save_ok hsave
    have hat' := hat.saved bytes hfree
    have hnew := hat'.find_graphFile hshort
    have hconvert := convert_toJson_of_usable husable htitles
    have hagain := firstUsable_of_saved hnew hbytes hread hconvert
    refine ⟨hasFile_of_find hnew, fun other hother => ?_, on_load_ok_iff.2 (.inr ⟨_, g, hagain, rfl, .inl ⟨rfl, rfl⟩⟩)⟩
    refine hat.find_other hat' (List.mem_cons_of_mem _ hother) ?_
    rintro rfl
    revert hother
    decide

/-- A graph in the file that is tried last, and no other file. -/
def lastFile : FileTree :=
  .directory [(".depgraph", .directory [(classesFile, .file
    "\x7b\"nodes\": [\x7b\"id\": \"a\"\x7d], \"edges\": []\x7d".toUTF8)])]

/-- The graph of `lastFile`. -/
def oneNode : Graph := { nodes := [⟨"a", "a", "symbol", ⟨[]⟩⟩], edges := [], metadata := ⟨[]⟩ }

/-- The graph is saved in the file that is tried first, and loaded from there. -/
theorem reload_lastFile : ∃ disk',
    depgraph.load.on (Disk.sound lastFile) = (.ok (some oneNode), disk') ∧
      (∀ n ∈ oneNode.nodes, n.title ≠ "") ∧ oneNode.toJson.IsReadBack ∧
      lastFile.hasFile (depgraph.directory.child graphFile) = .ok false ∧
      disk'.tree.hasFile (depgraph.directory.child graphFile) = .ok true ∧
      depgraph.load.on disk' = (.ok (some oneNode), disk') := by
  have hfound : depgraph.firstUsable lastFile fileNames = .ok (some (classesFile, oneNode)) := by decide +kernel
  have hat : depgraph.IsAt (Disk.sound lastFile).tree [".depgraph"]
      [(classesFile, .file "\x7b\"nodes\": [\x7b\"id\": \"a\"\x7d], \"edges\": []\x7d".toUTF8)] :=
    ⟨by decide +kernel, rfl, by decide +kernel⟩
  obtain ⟨disk', hsave⟩ := hat.exists_save (Path.isAnchor_ofString ".depgraph") (g := oneNode) (fun _ _ => rfl)
    (by decide +kernel) (by decide +kernel) fun sub h => nomatch h
  have hload : depgraph.load.on (Disk.sound lastFile) = (.ok (some oneNode), disk') :=
    on_load_ok_iff.2 (.inr ⟨classesFile, oneNode, hfound, rfl, .inr ⟨by decide, hsave⟩⟩)
  have htitles : ∀ n ∈ oneNode.nodes, n.title ≠ "" := by decide
  have hread : oneNode.toJson.IsReadBack := by decide +kernel
  obtain ⟨hfile, -, hagain⟩ := reload_of_load hload htitles hread
  exact ⟨disk', hload, htitles, hread, by decide +kernel, hfile, hagain⟩

end SnapshotStore

end CodeAtlas
