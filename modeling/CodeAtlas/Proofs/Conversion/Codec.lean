import CodeAtlas.Conversion
import CodeAtlas.Proofs.Outcome
/-!
  What is written is read back, up to the defaults of reading.

  Reading fills in what a written form leaves out, and an empty text counts as left out: what has no title is titled by
  its identifier, a node or symbol without a kind is a symbol, and no language is an unknown one.  So what is read back
  is the `completed` record, and it is the same record exactly if that is in normal form: what reading fills in is
  there already.  All other fields come back as they are, metadata and lines of any shape included; but the name of a
  project, which may be any value, comes back as a text.

  1. **Fields**: what one look-up in a written object gives, for each way of reading a field.
  2. **Records**: a written record is read back as its completed form (`ofJson_toJson`), for nodes and edges and so for
     graphs, for relations and symbols and so for all dependencies.
  3. **Normal forms**: a record is its own completed form exactly if it is in normal form (`completed_eq_self_iff`).
-/
namespace CodeAtlas

open Fault

/-- A text, or a fallback for an empty one. -/
def Text.orElse (s fallback : String) : String := if s = "" then fallback else s

/-- A default changes a text only if it takes the place of an empty one. -/
theorem Text.orElse_eq_self_iff {s fallback : String} : Text.orElse s fallback = s ↔ s ≠ "" ∨ fallback = "" := by
  unfold Text.orElse
  split
  · next h => simp [h]
  · next h => simp [h]

namespace Json

/-! ## Fields of an object -/

variable {name fallback s : String} {fields : List (Key × Json)}

theorem nonEmpty?_str (s : String) : nonEmpty? (.str s) = if s = "" then none else some (.str s) := by
  show (if s.isEmpty = true then none else some (Json.str s)) = _
  simp only [String.isEmpty_iff]

/-- Only a text is its own display text. -/
theorem str_textOrEmpty_eq_self_iff {v : Json} : .str v.textOrEmpty = v ↔ ∃ s, v = .str s := by
  constructor
  · intro h
    exact ⟨_, h.symm⟩
  · rintro ⟨s, rfl⟩
    show Json.str (if s.isEmpty = true then "" else s) = _
    split
    · next h => rw [String.isEmpty_iff.1 h]
    · rfl

/-- Any value under the name comes back as its text. -/
theorem textField_of_lookup {v : Json} (hfield : lookup name fields = some v) :
    (obj fields).textField name fallback = .ok ((v.nonEmpty?.map text).getD fallback) := by
  show ((Except.ok (lookup name fields)).map fun found => found.bind nonEmpty?).map _ = _
  rw [hfield]
  rfl

/-- A text is read back, unless it is empty. -/
theorem textField_of_lookup_str (hfield : lookup name fields = some (.str s)) :
    (obj fields).textField name fallback = .ok (Text.orElse s fallback) := by
  rw [textField_of_lookup hfield, nonEmpty?_str, Text.orElse]
  split <;> rfl

/-- Where the default is empty itself, every text comes back. -/
theorem textField_of_lookup_empty (hfield : lookup name fields = some (.str s)) :
    (obj fields).textField name "" = .ok s := by
  rw [textField_of_lookup_str hfield, Text.orElse_eq_self_iff.2 (.inr rfl)]

/-- A list is read back, also an empty one. -/
theorem itemsField_of_lookup {items : List Json} (hfield : lookup name fields = some (.arr items)) :
    (obj fields).itemsField name = .ok items := by
  show ((Except.ok (lookup name fields)).map fun found => found.bind nonEmpty?) >>= _ = _
  rw [hfield]
  cases items <;> rfl

end Json

/-! ## Lists of records -/

section

variable {α β : Type} {encode : α → Json} {xs : List α}

/-- What is read back one by one is read back together. -/
theorem mapM_map_eq_ok {decode : Json → Except Fault β} {f : α → β} (h : ∀ x, decode (encode x) = .ok (f x)) :
    (xs.map encode).mapM decode = .ok (xs.map f) := by
  rw [List.mapM_map]
  exact mapM_eq_map fun x _ => h x

/-- If each record comes back, so does the list, and none of them is left out. -/
theorem filterMapM_map_eq_ok {decode : Json → Except Fault (Option α)} (h : ∀ x, decode (encode x) = .ok (some x)) :
    (xs.map encode).filterMapM decode = .ok xs := by
  induction xs with
  | nil => rfl
  | cons x rest ih =>
    rw [List.map_cons, List.filterMapM_cons, h]
    show (_ >>= _ : Except Fault _) = _
    rw [ih]
    rfl

/-- A function keeps a list exactly if it keeps each of its elements. -/
theorem map_eq_self_iff {f : α → α} : xs.map f = xs ↔ ∀ x ∈ xs, f x = x := by
  induction xs with
  | nil => simp
  | cons x rest ih => simp [ih]

end

open Json

/-- Metadata come back with all their fields, in their order. -/
theorem Metadata.ofField_of_lookup {name : String} {m : Metadata} {fields : List (Json.Key × Json)}
    (hfield : lookup name fields = some m.toJson) : Metadata.ofField name (obj fields) = .ok m := by
  show ((Except.ok (lookup name fields)) >>= _ : Except Fault _).map Metadata.mk = _
  rw [hfield]
  obtain ⟨fields⟩ := m
  cases fields <;> rfl

/-- The name of a kind is read as this kind. -/
theorem EdgeKind.ofValue_name (k : EdgeKind) : EdgeKind.ofValue (.str k.name) = k := by
  cases k <;> decide +kernel

/-- A kind that is not empty, and a title that is empty only if the identifier is. -/
structure IsLabelled (id title kind : String) : Prop where
  kind : kind ≠ ""
  title : title ≠ "" ∨ id = ""

/-- Such texts are what reading completes them to. -/
theorem isLabelled_iff {id title kind : String} :
    IsLabelled id title kind ↔ Text.orElse title id = title ∧ Text.orElse kind "symbol" = kind := by
  rw [Text.orElse_eq_self_iff, Text.orElse_eq_self_iff]
  constructor
  · intro h
    exact ⟨h.title, .inl h.kind⟩
  · rintro ⟨htitle, hkind⟩
    exact ⟨hkind.resolve_right (by decide), htitle⟩

/-! ## Graphs -/

namespace Node

/-- What is read from the written form of a node. -/
def completed (n : Node) : Node := { n with title := Text.orElse n.title n.id, kind := Text.orElse n.kind "symbol" }

/-- A node with a type, and with a title unless its identifier is empty. -/
abbrev IsNormal (n : Node) : Prop := IsLabelled n.id n.title n.kind

theorem completed_eq_self_iff {n : Node} : n.completed = n ↔ n.IsNormal := by
  obtain ⟨id, title, kind, metadata⟩ := n
  rw [completed, Node.mk.injEq, IsNormal, isLabelled_iff]
  simp

/-- All fields of a node are written, so only the two defaults can change it. -/
theorem ofJson_toJson (n : Node) : Node.ofJson n.toJson = .ok n.completed := by
  have hid : n.toJson.required "id" = .ok (.str n.id) := rfl
  have htitle : n.toJson.textField "title" n.id = .ok (Text.orElse n.title n.id) := textField_of_lookup_str rfl
  have hkind : n.toJson.textField "type" "symbol" = .ok (Text.orElse n.kind "symbol") := textField_of_lookup_str rfl
  have hmetadata : Metadata.ofField "metadata" n.toJson = .ok n.metadata := Metadata.ofField_of_lookup rfl
  refine bind_eq_ok_iff.2 ⟨_, hid, bind_eq_ok_iff.2 ⟨_, htitle, bind_eq_ok_iff.2 ⟨_, hkind, ?_⟩⟩⟩
  exact bind_eq_ok_iff.2 ⟨_, hmetadata, rfl⟩

end Node

/-- An edge has no defaults, so it comes back as it is. -/
theorem Edge.ofJson_toJson (e : Edge) : Edge.ofJson e.toJson = .ok e := by
  show Except.ok (Edge.mk e.source e.target (EdgeKind.ofValue (.str e.kind.name))) = _
  rw [EdgeKind.ofValue_name]

namespace Graph

/-- What is read from the written form of a graph. -/
def completed (g : Graph) : Graph := { g with nodes := g.nodes.map Node.completed }

/-- A graph with nodes in normal form. -/
def IsNormal (g : Graph) : Prop := ∀ n ∈ g.nodes, n.IsNormal

theorem completed_eq_self_iff {g : Graph} : g.completed = g ↔ g.IsNormal := by
  obtain ⟨nodes, edges, metadata⟩ := g
  have hnodes : nodes.map Node.completed = nodes ↔ ∀ n ∈ nodes, n.IsNormal := by
    simp only [map_eq_self_iff, Node.completed_eq_self_iff]
  rw [completed, Graph.mk.injEq, IsNormal, ← hnodes]
  simp

/-- **A written graph is read back**, completed. -/
theorem ofJson_toJson (g : Graph) : Graph.ofJson g.toJson = .ok g.completed := by
  have hnodes : g.toJson.itemsField "nodes" = .ok (g.nodes.map Node.toJson) := itemsField_of_lookup rfl
  have hedges : g.toJson.itemsField "edges" = .ok (g.edges.map Edge.toJson) := itemsField_of_lookup rfl
  have hmetadata : Metadata.ofField "metadata" g.toJson = .ok g.metadata := Metadata.ofField_of_lookup rfl
  have hnodes' : (g.nodes.map Node.toJson).mapM Node.ofJson = .ok (g.nodes.map Node.completed) :=
    mapM_map_eq_ok Node.ofJson_toJson
  have hedges' : (g.edges.map Edge.toJson).mapM Edge.ofJson = .ok (g.edges.map id) := mapM_map_eq_ok Edge.ofJson_toJson
  rw [List.map_id] at hedges'
  refine bind_eq_ok_iff.2 ⟨_, hnodes, bind_eq_ok_iff.2 ⟨_, hnodes', bind_eq_ok_iff.2 ⟨_, hedges, ?_⟩⟩⟩
  exact bind_eq_ok_iff.2 ⟨_, hedges', bind_eq_ok_iff.2 ⟨_, hmetadata, rfl⟩⟩

/-- Filling in titles and types changes no identifiers, so the graph holds together as before. -/
theorem intact_completed {g : Graph} (h : g.Intact) : g.completed.Intact := by
  have hids : g.completed.ids = g.ids := by
    rw [ids, completed, List.map_map]
    rfl
  show g.completed.ids.Nodup ∧ ∀ e ∈ g.edges, e.source ∈ g.completed.ids ∧ e.target ∈ g.completed.ids
  rw [hids]
  exact h

/-- What is written of an intact graph is converted to the same graph, completed. -/
theorem convert_toJson {g : Graph} (h : g.Intact) : convert g.toJson = .ok g.completed := by
  have hshape : Shape.ofJson g.toJson = .graph := rfl
  unfold convert
  rw [hshape]
  exact bind_eq_ok_iff.2 ⟨_, ofJson_toJson g, (validated_eq_ok_iff _ _).2 ⟨intact_completed h, rfl⟩⟩

end Graph

/-! ## Symbols -/

/-- A relation has a target, so it is not left out. -/
theorem Relation.ofJson?_toJson (r : Relation) : Relation.ofJson? r.toJson = .ok (some r) := rfl

namespace Symbol

/-- What is read from the written form of a symbol. -/
def completed (s : Symbol) : Symbol := { s with title := Text.orElse s.title s.id, kind := Text.orElse s.kind "symbol" }

/-- A symbol with a kind, and with a title unless its identifier is empty. -/
abbrev IsNormal (s : Symbol) : Prop := IsLabelled s.id s.title s.kind

theorem completed_eq_self_iff {s : Symbol} : s.completed = s ↔ s.IsNormal := by
  obtain ⟨id, title, kind, file, line, metadata, relations⟩ := s
  rw [completed, Symbol.mk.injEq, IsNormal, isLabelled_iff]
  simp

/-- The same for symbols, whose relations come back one by one. -/
theorem ofJson_toJson (s : Symbol) : Symbol.ofJson s.toJson = .ok s.completed := by
  have hid : s.toJson.required "id" = .ok (.str s.id) := rfl
  have htitle : s.toJson.textField "title" s.id = .ok (Text.orElse s.title s.id) := textField_of_lookup_str rfl
  have hkind : s.toJson.textField "kind" "symbol" = .ok (Text.orElse s.kind "symbol") := textField_of_lookup_str rfl
  have hfile : s.toJson.textField "file_path" "" = .ok s.file := textField_of_lookup_empty rfl
  have hline : s.toJson.optional "line" = .ok (some s.line) := rfl
  have hmetadata : Metadata.ofField "metadata" s.toJson = .ok s.metadata := Metadata.ofField_of_lookup rfl
  have hrelations : s.toJson.itemsField "relations" = .ok (s.relations.map Relation.toJson) := itemsField_of_lookup rfl
  have hrelations' : (s.relations.map Relation.toJson).filterMapM Relation.ofJson? = .ok s.relations :=
    filterMapM_map_eq_ok Relation.ofJson?_toJson
  refine bind_eq_ok_iff.2 ⟨_, hid, bind_eq_ok_iff.2 ⟨_, htitle, bind_eq_ok_iff.2 ⟨_, hkind, ?_⟩⟩⟩
  refine bind_eq_ok_iff.2 ⟨_, hfile, bind_eq_ok_iff.2 ⟨_, hline, bind_eq_ok_iff.2 ⟨_, hmetadata, ?_⟩⟩⟩
  exact bind_eq_ok_iff.2 ⟨_, hrelations, bind_eq_ok_iff.2 ⟨_, hrelations', rfl⟩⟩

end Symbol

theorem Diagnostic.ofJson_toJson (d : Diagnostic) : Diagnostic.ofJson d.toJson = .ok d := rfl

namespace Dependencies

/-- What is read from the written form of the symbols of a project. -/
def completed (d : Dependencies) : Dependencies :=
  { d with
    language := Text.orElse d.language "unknown"
    project := .str d.project.textOrEmpty
    symbols := d.symbols.map Symbol.completed }

/-- Symbols in normal form, of a language and of a project with a text for a name. -/
structure IsNormal (d : Dependencies) : Prop where
  language : d.language ≠ ""
  project : ∃ name, d.project = .str name
  symbols : ∀ s ∈ d.symbols, s.IsNormal

theorem completed_eq_self_iff {d : Dependencies} : d.completed = d ↔ d.IsNormal := by
  obtain ⟨language, project, root, symbols, diagnostics⟩ := d
  have hlanguage : Text.orElse language "unknown" = language ↔ language ≠ "" := by simp [Text.orElse_eq_self_iff]
  have hsymbols : symbols.map Symbol.completed = symbols ↔ ∀ s ∈ symbols, s.IsNormal := by
    simp only [map_eq_self_iff, Symbol.completed_eq_self_iff]
  rw [completed, Dependencies.mk.injEq]
  constructor
  · rintro ⟨hknown, hname, -, hcompleted, -⟩
    exact ⟨hlanguage.1 hknown, str_textOrEmpty_eq_self_iff.1 hname, hsymbols.1 hcompleted⟩
  · intro h
    exact ⟨hlanguage.2 h.language, str_textOrEmpty_eq_self_iff.2 h.project, rfl, hsymbols.2 h.symbols, rfl⟩

/-- **Written symbols are read back**, completed. -/
theorem ofJson_toJson (d : Dependencies) : Dependencies.ofJson d.toJson = .ok d.completed := by
  have hlanguage : d.toJson.textField "language" "unknown" = .ok (Text.orElse d.language "unknown") :=
    textField_of_lookup_str rfl
  have hproject : d.toJson.textField "project" "" = .ok d.project.textOrEmpty := by
    have hread : d.toJson.textField "project" "" = .ok ((d.project.nonEmpty?.map text).getD "") := textField_of_lookup rfl
    rw [hread, nonEmpty?, textOrEmpty]
    split <;> rfl
  have hroot : d.toJson.textField "root" "" = .ok d.root := textField_of_lookup_empty rfl
  have hsymbols : d.toJson.itemsField "symbols" = .ok (d.symbols.map Symbol.toJson) := itemsField_of_lookup rfl
  have hsymbols' : (d.symbols.map Symbol.toJson).mapM Symbol.ofJson = .ok (d.symbols.map Symbol.completed) :=
    mapM_map_eq_ok Symbol.ofJson_toJson
  have hdiagnostics : d.toJson.itemsField "diagnostics" = .ok (d.diagnostics.map Diagnostic.toJson) :=
    itemsField_of_lookup rfl
  have hdiagnostics' : (d.diagnostics.map Diagnostic.toJson).mapM Diagnostic.ofJson = .ok (d.diagnostics.map id) :=
    mapM_map_eq_ok Diagnostic.ofJson_toJson
  rw [List.map_id] at hdiagnostics'
  refine bind_eq_ok_iff.2 ⟨_, hlanguage, bind_eq_ok_iff.2 ⟨_, hproject, bind_eq_ok_iff.2 ⟨_, hroot, ?_⟩⟩⟩
  refine bind_eq_ok_iff.2 ⟨_, hsymbols, bind_eq_ok_iff.2 ⟨_, hsymbols', ?_⟩⟩
  exact bind_eq_ok_iff.2 ⟨_, hdiagnostics, bind_eq_ok_iff.2 ⟨_, hdiagnostics', rfl⟩⟩

end Dependencies

end CodeAtlas
