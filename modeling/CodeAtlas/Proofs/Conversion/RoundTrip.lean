import CodeAtlas.Proofs.Conversion.Codec
import CodeAtlas.Proofs.Conversion.Integrity
import CodeAtlas.Proofs.Conversion.Reading
/-!
  Reading, writing and converting come to rest after one step.

  The two halves meet at the normal forms.  What is read is in normal form, whatever it is read from
  (`Graph.reads_ofJson`, `Dependencies.reads_ofJson`), and what is in normal form is read back as it is
  (`Graph.ofJson_toJson`, `Dependencies.ofJson_toJson`).  A conversion keeps normal forms: the nodes of symbols have
  their titles and kinds, and the type of a class is never empty.  Its title is its name after the last dot, which is
  empty only for a name that ends in one; such a node is titled by its identifier when it is read back.
-/
namespace CodeAtlas

open Fault

/-! ## Reading back -/

/-- **Reading undoes writing exactly on the normal forms, and gives nothing else.** So a graph, and the dependencies
    of a language, change at most once on their way through a file: what was read from one is written and read back as
    it is. -/
theorem ofJson_toJson_iff_isNormal :
    ((∀ g : Graph, Graph.ofJson g.toJson = .ok g ↔ g.IsNormal) ∧
      ∀ v g, Graph.ofJson v = .ok g → g.IsNormal ∧ Graph.ofJson g.toJson = .ok g) ∧
    ((∀ d : Dependencies, Dependencies.ofJson d.toJson = .ok d ↔ d.IsNormal) ∧
      ∀ v d, Dependencies.ofJson v = .ok d → d.IsNormal ∧ Dependencies.ofJson d.toJson = .ok d) := by
  have hgraph : ∀ g : Graph, Graph.ofJson g.toJson = .ok g ↔ g.IsNormal := by
    intro g
    rw [Graph.ofJson_toJson, Except.ok.injEq, Graph.completed_eq_self_iff]
  have hsymbols : ∀ d : Dependencies, Dependencies.ofJson d.toJson = .ok d ↔ d.IsNormal := by
    intro d
    rw [Dependencies.ofJson_toJson, Except.ok.injEq, Dependencies.completed_eq_self_iff]
  refine ⟨⟨hgraph, ?_⟩, ⟨hsymbols, ?_⟩⟩
  · intro v g h
    have hnormal := (Graph.reads_ofJson v).of_ok h
    exact ⟨hnormal, (hgraph g).2 hnormal⟩
  · intro v d h
    have hnormal := (Dependencies.reads_ofJson v).of_ok h
    exact ⟨hnormal, (hsymbols d).2 hnormal⟩

/-- A node with a number for its identifier, one whose identifier is empty, and an edge of a kind with another name. -/
def looseGraph : Json :=
  .obj [("nodes", .arr [
      .obj [("id", .int 7), ("title", .str ""), ("metadata", .arr [.arr [.int 1, .str "x"]])],
      .obj [("id", .str ""), ("type", .arr [])]]),
    ("edges", .arr [.obj [("source", .int 7), ("target", .str ""), ("type", .str " Has-Method ")]])]

/-- A symbol without a kind, with a relation that has a target only. -/
def looseSymbols : Json :=
  .obj [("project", .int 0), ("symbols", .arr [
    .obj [("id", .bool true), ("line", .str "one"), ("relations", .arr [.obj [("target", .null)], .obj []])]])]

/-- Values of all kinds where texts are expected, and parts that are left out. -/
theorem readBack_loose :
    (∃ g, Graph.ofJson looseGraph = .ok g ∧
      g.nodes = [⟨"7", "7", "symbol", ⟨[(.int 1, .str "x")]⟩⟩, ⟨"", "", "symbol", ⟨[]⟩⟩] ∧
      g.edges = [⟨"7", "", .defines⟩] ∧ g.IsNormal ∧ Graph.ofJson g.toJson = .ok g) ∧
    ∃ d, Dependencies.ofJson looseSymbols = .ok d ∧ d.language = "unknown" ∧ d.project = .str "" ∧
      d.symbols = [⟨"True", "True", "symbol", "", .str "one", ⟨[]⟩, [⟨"", "None"⟩]⟩] ∧
      d.IsNormal ∧ Dependencies.ofJson d.toJson = .ok d := by
  have hgraph : Graph.ofJson looseGraph =
      .ok ⟨[⟨"7", "7", "symbol", ⟨[(.int 1, .str "x")]⟩⟩, ⟨"", "", "symbol", ⟨[]⟩⟩], [⟨"7", "", .defines⟩], ⟨[]⟩⟩ := by
    decide +kernel
  have hsymbols : Dependencies.ofJson looseSymbols =
      .ok ⟨"unknown", .str "", "", [⟨"True", "True", "symbol", "", .str "one", ⟨[]⟩, [⟨"", "None"⟩]⟩], []⟩ := by
    decide +kernel
  obtain ⟨⟨-, hnormal⟩, -, hnormal'⟩ := ofJson_toJson_iff_isNormal
  exact ⟨⟨_, hgraph, rfl, rfl, hnormal _ _ hgraph⟩, _, hsymbols, rfl, rfl, rfl, hnormal' _ _ hsymbols⟩

/-- An empty title is filled in, so it does not come back. -/
example : Node.ofJson (Node.toJson ⟨"a", "", "class", .empty⟩) = .ok ⟨"a", "a", "class", .empty⟩ := by decide +kernel

/-! ## Converting again -/

namespace Json

/-- The names of the classes of a list; what has no name is no class. -/
def classNames (v : Json) : List String :=
  ((v.itemsField "classes").toOption.getD []).filterMap fun c => ((c.get? "name").bind nonEmpty?).map text

/-- No class of a list has a name that ends in a dot. -/
def HasClosedNames (v : Json) : Prop := ∀ name ∈ v.classNames, Text.endsWith "." name = false

instance (v : Json) : Decidable v.HasClosedNames :=
  inferInstanceAs (Decidable (∀ name ∈ v.classNames, Text.endsWith "." name = false))

end Json

namespace Graph

/-- The nodes of symbols in normal form are in normal form. -/
theorem isNormal_ofDependencies {d : Dependencies} (h : d.IsNormal) : (ofDependencies d).IsNormal := by
  intro n hn
  obtain ⟨s, hs, rfl⟩ := List.mem_map.1 (mem_of_mem_firstNodes hn)
  exact h.symbols s hs

/-- A class has a type, and a title unless its name ends in a dot. -/
theorem isNormal_ofClasses {classes : List ClassEntry}
    (h : ∀ c ∈ classes, c.kind ≠ "" ∧ Text.afterLast '.' c.name ≠ "") : (ofClasses classes).IsNormal := by
  intro n hn
  obtain ⟨c, hc, rfl⟩ := List.mem_map.1 (mem_of_mem_firstNodes hn)
  exact ⟨(h c hc).1, .inl (h c hc).2⟩

/-- What is converted is in normal form, unless the name of a class has nothing after its last dot. -/
theorem isNormal_of_convert {v : Json} {g : Graph} (h : convert v = .ok g)
    (hnames : Shape.ofJson v = .classes → v.HasClosedNames) : g.IsNormal := by
  rcases convert_cases h with ⟨-, hread, -⟩ | ⟨-, d, hread, rfl⟩ | ⟨hshape, -⟩
  · exact (reads_ofJson v).of_ok hread
  · exact isNormal_ofDependencies ((Dependencies.reads_ofJson v).of_ok hread)
  · rw [convert_of_classes hshape] at h
    obtain ⟨values, hvalues, h⟩ := bind_eq_ok_iff.1 h
    obtain ⟨classes, hclasses, rfl⟩ := map_eq_ok_iff.1 h
    have hgood : Json.Reads (values.filterMapM ClassEntry.ofJson?) fun classes =>
        ∀ c ∈ classes, c.kind ≠ "" ∧ Text.afterLast '.' c.name ≠ "" := by
      apply ends_filterMapM
      intro value hvalue
      apply (ClassEntry.reads_ofJson? value).mono
      intro entry hentry c hc
      obtain ⟨hkind, name, hname, heq⟩ := hentry c hc
      obtain ⟨w, -, hw⟩ := Option.bind_eq_some_iff.1 hname
      have htext : name.text ≠ "" := Json.text_ne_empty (Json.isEmpty_of_nonEmpty? hw)
      have hmem : name.text ∈ v.classNames := by
        rw [Json.classNames, hvalues]
        exact List.mem_filterMap.2 ⟨value, hvalue, by rw [hname]; rfl⟩
      rw [heq]
      exact ⟨hkind, Text.afterLast_ne_empty htext (hnames hshape _ hmem)⟩
    exact isNormal_ofClasses (hgood.of_ok hclasses)

/-- **Conversion is idempotent.** What was converted and written is a graph that is converted to itself, whichever of
    the shapes it came from.  Only in a list of classes a name must not end in a dot, as nothing would be left of it
    for a title. -/
theorem convert_toJson_of_convert {v : Json} {g : Graph} (h : convert v = .ok g)
    (hnames : Shape.ofJson v = .classes → v.HasClosedNames) : convert g.toJson = .ok g := by
  rw [convert_toJson (intact_of_convert h), completed_eq_self_iff.2 (isNormal_of_convert h hnames)]

/-- A qualified name, a number for a name, and two things that are no classes. -/
def looseClasses : Json :=
  .obj [("classes", .arr [
    .obj [("name", .str "a.B"), ("type", .str "Interface"), ("package", .str "p"), ("extends", .str "7")],
    .str "C", .obj [("name", .int 7), ("package", .str "p"), ("imports", .arr [.str "a.B", .null])],
    .obj [("name", .str ""), ("type", .int 1)]])]

/-- A list of classes whose names are no texts throughout. -/
theorem reconvert_looseClasses :
    Shape.ofJson looseClasses = .classes ∧ looseClasses.classNames = ["a.B", "7"] ∧
      ∃ g, convert looseClasses = .ok g ∧ g.nodes.map (fun n => (n.id, n.title, n.kind)) =
          [("a.B", "B", "interface"), ("p.7", "7", "class")] ∧
        g.edges = [⟨"a.B", "p.7", .inherits⟩, ⟨"p.7", "a.B", .imports⟩] ∧ convert g.toJson = .ok g := by
  have hnames : looseClasses.HasClosedNames := by decide +kernel
  obtain ⟨g, hg, hnodes, hedges⟩ : ∃ g, convert looseClasses = .ok g ∧
      g.nodes.map (fun n => (n.id, n.title, n.kind)) = [("a.B", "B", "interface"), ("p.7", "7", "class")] ∧
      g.edges = [⟨"a.B", "p.7", .inherits⟩, ⟨"p.7", "a.B", .imports⟩] := ⟨_, rfl, by decide +kernel, by decide +kernel⟩
  exact ⟨by decide +kernel, by decide +kernel, g, hg, hnodes, hedges, convert_toJson_of_convert hg fun _ => hnames⟩

/-- A class whose name ends in a dot has no title at first, and then its identifier for one. -/
example :
    (convert (.obj [("classes", .arr [.obj [("name", .str "a.")]])]) >>= fun g => convert g.toJson).map
      (fun g => g.nodes.map (·.title)) = .ok ["a."] := by
  decide +kernel

end Graph

end CodeAtlas
