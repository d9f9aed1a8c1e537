import CodeAtlas.Proofs.Conversion.Codec
import CodeAtlas.Proofs.Conversion.Integrity
import CodeAtlas.Proofs.Conversion.Reading
/-!
  A list of classes and the symbols that say the same have the same graph.

  What a list says is read off its fields directly, in `ClassList`: the classes are the objects with a name, and each
  has an identifier, a type and relations, in the words of symbols.  `ClassList.IsTwin` compares these with some
  symbols, which may have any titles, places and metadata.

    1. Reading the classes of a list gives one entry for each, with the same identifier and type (`ofJson?_eq`).
    2. The edges of an entry are those of the relations (`edges_entry`); a class is found in the package of the one
       that refers to it, whether it stands before it or after it, as all identifiers are known before the first edge.
    3. A graph that is put together depends on the identifiers and types of the nodes and on the edges, and counts what
       it drops by these alone (`agrees_assemble`).
-/
namespace CodeAtlas

open Fault

/-! ## What a list of classes says -/

namespace ClassList

/-- The text in a field, which is empty if there is none. -/
def text (field : String) (c : Json) : String :=
  match c.get? field with
  | some (.str s) => s
  | _ => ""

/-- Whether a field holds a text, or nothing. -/
def holdsText (field : String) (c : Json) : Bool :=
  match c.get? field with
  | none | some .null | some (.str _) => true
  | _ => false

/-- The text of an item. -/
def itemText? : Json → Option String
  | .str s => some s
  | _ => none

/-- The names in a field with a text or a list of texts.  An empty text is no name. -/
def names (field : String) (c : Json) : List String :=
  match c.get? field with
  | some (.str s) => [s].filter (· ≠ "")
  | some (.arr items) => (items.filterMap itemText?).filter (· ≠ "")
  | _ => []

/-- Whether an item of a list of names is a text, or nothing. -/
def isItem : Json → Bool
  | .null | .str _ => true
  | _ => false

/-- Whether a field holds a text or a list of texts, or nothing. -/
def holdsNames (field : String) (c : Json) : Bool :=
  match c.get? field with
  | none | some .null | some (.str _) => true
  | some (.arr items) => items.all isItem
  | _ => false

/-- The fields with the names of other classes, and the kinds of the relations that they stand for. -/
def fields : List (String × String) :=
  [("extends", "extends"), ("implements", "implements"), ("imports", "imports"), ("dependencies", "dependency")]

/-- The items of a list of classes. -/
def items (v : Json) : List Json :=
  match v.get? "classes" with
  | some (.arr items) => items
  | _ => []

/-- All names and types are texts. -/
def IsTextual (v : Json) : Prop :=
  ∀ c ∈ items v, (∀ field ∈ ["name", "package", "type"], holdsText field c = true) ∧
    ∀ f ∈ fields, holdsNames f.1 c = true

instance (v : Json) : Decidable (IsTextual v) :=
  inferInstanceAs (Decidable (∀ c ∈ items v, (∀ field ∈ ["name", "package", "type"], holdsText field c = true) ∧
    ∀ f ∈ fields, holdsNames f.1 c = true))

/-- The classes of a list: the items with a name. -/
def classes (v : Json) : List Json := (items v).filter fun c => text "name" c ≠ ""

/-- The identifier of a class: its name in its package, unless it has none or its name is qualified already. -/
def id (c : Json) : String :=
  if text "package" c = "" ∨ '.' ∈ (text "name" c).toList then text "name" c
  else text "package" c ++ "." ++ text "name" c

/-- The type of a class in lower case; without one it is a class. -/
def kind (c : Json) : String := if text "type" c = "" then "class" else Text.lower (text "type" c)

/-- The identifiers of all classes. -/
def ids (v : Json) : List String := (classes v).map id

/-- What a class means by a name: the class of the name in its own package, if there is one and no class has the name
    itself for its identifier. -/
def target (ids : List String) (c : Json) (name : String) : String :=
  if name ∉ ids ∧ text "package" c ≠ "" ∧ text "package" c ++ "." ++ name ∈ ids then text "package" c ++ "." ++ name
  else name

/-- The relations of a class, field by field. -/
def relations (ids : List String) (c : Json) : List Relation :=
  fields.flatMap fun f => (names f.1 c).map fun name => ⟨f.2, target ids c name⟩

/-- Symbols that say what the classes of a list say: one for each class in order, with its identifier, its type and its
    relations. -/
def IsTwin (v : Json) (d : Dependencies) : Prop :=
  d.symbols.map (fun s => (s.id, s.kind, s.relations)) = (classes v).map fun c => (id c, kind c, relations (ids v) c)

/-! ## The entries of the classes -/

/-- What is read from a class. -/
def entry (c : Json) : ClassEntry where
  name := text "name" c
  package := text "package" c
  kind := kind c
  file := ((c.get? "sourceFile").bind Json.nonEmpty?).getD (.str "")
  references := ClassEntry.referenceFields.flatMap fun f => (names f.1 c).map (f.2, ·)

/-- The fields are the same, and the kinds of the relations stand for the kinds of the edges. -/
theorem referenceFields_eq : ClassEntry.referenceFields = fields.map fun f => (f.1, EdgeKind.ofRelation f.2) := by
  decide +kernel

variable {c v : Json} {field : String}

/-- A field with a text at most: missing, null, or a text. -/
theorem get?_of_holdsText (h : holdsText field c = true) :
    c.get? field = none ∧ text field c = "" ∨ c.get? field = some .null ∧ text field c = "" ∨
      c.get? field = some (.str (text field c)) := by
  unfold holdsText at h
  unfold text
  split at h
  · next hfield => exact .inl ⟨hfield, by rw [hfield]⟩
  · next hfield => exact .inr (.inl ⟨hfield, by rw [hfield]⟩)
  · next s hfield => exact .inr (.inr (by rw [hfield]))
  · nomatch h

/-- In each of the three cases the text decides whether it counts as present. -/
theorem nonEmpty?_of_holdsText (h : holdsText field c = true) :
    (c.get? field).bind Json.nonEmpty? = if text field c = "" then none else some (.str (text field c)) := by
  rcases get?_of_holdsText h with ⟨hfield, htext⟩ | ⟨hfield, htext⟩ | hfield
  · rw [hfield, htext]
    rfl
  · rw [hfield, htext]
    rfl
  · rw [hfield]
    exact Json.nonEmpty?_str _

theorem textOrEmpty_of_holdsText (h : holdsText field c = true) :
    ((c.get? field).map Json.textOrEmpty).getD "" = text field c := by
  rcases get?_of_holdsText h with ⟨hfield, htext⟩ | ⟨hfield, htext⟩ | hfield
  · rw [hfield, htext]
    rfl
  · rw [hfield, htext]
    rfl
  · rw [hfield]
    exact Json.str.inj (Json.str_textOrEmpty_eq_self_iff.2 ⟨_, rfl⟩)

/-- The items that are texts are those that are read. -/
theorem filterMap_items {items : List Json} (h : items.all isItem = true) :
    items.filterMap (fun x => x.nonEmpty?.map Json.text) = (items.filterMap itemText?).filter (· ≠ "") := by
  induction items with
  | nil => rfl
  | cons x rest ih =>
    rw [List.all_cons, Bool.and_eq_true] at h
    obtain ⟨hx, hrest⟩ := h
    cases x with
    | null => exact ih hrest
    | str s =>
      have htext : itemText? (.str s) = some s := rfl
      rw [List.filterMap_cons, Json.nonEmpty?_str, List.filterMap_cons_some htext, List.filter_cons]
      by_cases hs : s = ""
      · simpa [hs] using ih hrest
      · simpa [hs, Json.text] using ih hrest
    | _ => nomatch hx

/-- Reading the names of a field passes over what is no text, which are the nulls here. -/
theorem names_of_holdsNames (h : holdsNames field c = true) :
    ClassEntry.names (c.get? field) = .ok (names field c) := by
  unfold holdsNames at h
  unfold names
  split at h
  · next hfield => rw [hfield]; rfl
  · next hfield => rw [hfield]; rfl
  · next s hfield =>
    rw [hfield]
    by_cases hs : s = "" <;> simp [ClassEntry.names, hs]
  · next items hfield =>
    rw [hfield]
    exact congrArg Except.ok (filterMap_items h)
  · nomatch h

/-- **A class is read as its entry**, and what has no name is passed over. -/
theorem ofJson?_eq (htexts : ∀ field ∈ ["name", "package", "type"], holdsText field c = true)
    (hnames : ∀ f ∈ fields, holdsNames f.1 c = true) :
    ClassEntry.ofJson? c = .ok (if text "name" c = "" then none else some (entry c)) := by
  simp only [List.forall_mem_cons] at htexts
  obtain ⟨hname, hpackage, htype, -⟩ := htexts
  have hreferences : ClassEntry.referenceFields.mapM (fun f => (ClassEntry.names (c.get? f.1)).map fun names =>
      names.map (f.2, ·)) = .ok (ClassEntry.referenceFields.map fun f => (names f.1 c).map (f.2, ·)) := by
    apply mapM_eq_map
    intro f hf
    rw [referenceFields_eq] at hf
    obtain ⟨g, hg, rfl⟩ := List.mem_map.1 hf
    rw [names_of_holdsNames (hnames g hg)]
    rfl
  unfold ClassEntry.ofJson?
  rw [nonEmpty?_of_holdsText hname]
  by_cases hempty : text "name" c = ""
  · rw [if_pos hempty, if_pos hempty]
  · rw [if_neg hempty, if_neg hempty]
    refine bind_eq_ok_iff.2 ⟨_, hreferences, ?_⟩
    have hkind : Text.lower (((c.get? "type").bind Json.nonEmpty?).elim "class" Json.text) = kind c := by
      rw [nonEmpty?_of_holdsText htype, kind]
      split
      · decide +kernel
      · rfl
    rw [hkind, textOrEmpty_of_holdsText hpackage, ← List.flatMap_def]
    rfl

/-! ## The graph of the entries -/

/-- The identifier that an entry forms is the one of its class. -/
theorem id_entry (c : Json) : (entry c).id = id c := by
  unfold ClassEntry.id id
  simp only [Bool.or_eq_true, decide_eq_true_eq, Text.hasChar_iff]
  rfl

/-- What an entry takes a name for is what the class means by it. -/
theorem resolve_entry (ids : List String) (c : Json) (name : String) :
    ClassEntry.resolve ids (entry c).package name = target ids c name := by
  rw [show (entry c).package = text "package" c from rfl]
  unfold ClassEntry.resolve target
  simp only [Bool.or_eq_true, List.contains_iff_mem, decide_eq_true_eq]
  by_cases hname : name ∈ ids
  · simp [hname]
  · by_cases hpackage : text "package" c = ""
    · simp [hpackage]
    · simp [hname, hpackage]

/-- The edges of an entry are those of the relations of the class. -/
theorem edges_entry (ids : List String) (c : Json) :
    ClassEntry.edges ids (entry c) =
      (relations ids c).map fun r => ⟨id c, r.target, EdgeKind.ofRelation r.kind⟩ := by
  have hreferences : (entry c).references =
      fields.flatMap fun f => (names f.1 c).map fun name => (EdgeKind.ofRelation f.2, name) := by
    rw [show (entry c).references = ClassEntry.referenceFields.flatMap fun f => (names f.1 c).map (f.2, ·) from rfl,
      referenceFields_eq, List.flatMap_map]
  unfold ClassEntry.edges relations
  rw [hreferences, List.map_flatMap, List.map_flatMap]
  simp only [List.map_map, Function.comp_def, id_entry, resolve_entry]

/-- A value is taken for a list of classes only if it has a list under this name, and this list is gone through. -/
theorem itemsField_of_classes (h : Shape.ofJson v = .classes) : v.itemsField "classes" = .ok (items v) := by
  cases v with
  | obj fields =>
    have hlist : Shape.holdsList "classes" (.obj fields) = true := by
      rw [Shape.ofJson] at h
      split at h
      · nomatch h
      · split at h
        · nomatch h
        · split at h
          · assumption
          · nomatch h
    rw [Shape.holdsList] at hlist
    split at hlist
    · next found hfound =>
      rw [items, hfound]
      exact Json.itemsField_of_lookup hfound
    · nomatch hlist
  | _ => nomatch h

/-- The classes of a list are read one by one. -/
theorem convert_eq (hshape : Shape.ofJson v = .classes) (htextual : IsTextual v) :
    Graph.convert v = .ok (Graph.ofClasses ((classes v).map entry)) := by
  have hentries : (items v).filterMapM ClassEntry.ofJson? = .ok ((classes v).map entry) := by
    rw [filterMapM_eq_filterMap fun c hc => ofJson?_eq (htextual c hc).1 (htextual c hc).2, classes,
      ← List.filterMap_eq_map, List.filterMap_filter]
    congr 2
    funext c
    by_cases hname : text "name" c = "" <;> simp [hname]
  rw [Graph.convert_of_classes hshape]
  exact bind_eq_ok_iff.2 ⟨_, itemsField_of_classes hshape, map_eq_ok_iff.2 ⟨_, hentries, rfl⟩⟩

end ClassList

/-! ## Graphs that agree -/

namespace Graph

/-- Two graphs with the same identifiers and types, the same edges and the same counts of what was dropped.  Titles and
    other metadata are not compared. -/
structure Agrees (g h : Graph) : Prop where
  nodes : (g.nodes.map fun n => (n.id, n.kind)) = h.nodes.map fun n => (n.id, n.kind)
  edges : g.edges = h.edges
  pruned : g.metadata.get? "pruned_edges" = h.metadata.get? "pruned_edges"
  repeated : g.metadata.get? "duplicate_nodes" = h.metadata.get? "duplicate_nodes"

/-- Which of several nodes with one identifier comes first does not depend on their titles and metadata. -/
theorem map_firstNodes_congr {nodes nodes' : List Node}
    (h : (nodes.map fun n => (n.id, n.kind)) = nodes'.map fun n => (n.id, n.kind)) :
    ((firstNodes nodes).map fun n => (n.id, n.kind)) = (firstNodes nodes').map fun n => (n.id, n.kind) := by
  induction nodes generalizing nodes' with
  | nil =>
    cases nodes' with
    | nil => rfl
    | cons n' rest' => nomatch h
  | cons n rest ih =>
    cases nodes' with
    | nil => nomatch h
    | cons n' rest' =>
      rw [List.map_cons, List.map_cons, List.cons.injEq] at h
      obtain ⟨hhead, hrest⟩ := h
      have hid : n.id = n'.id := congrArg Prod.fst hhead
      -- what is dropped is told by the identifier, which is a part of what is compared
      have hfilter : ∀ ms : List Node, ((ms.filter fun m => m.id ≠ n.id).map fun m => (m.id, m.kind)) =
          (ms.map fun m => (m.id, m.kind)).filter fun k => k.1 ≠ n.id := by
        intro ms
        rw [List.filter_map]
        rfl
      rw [firstNodes, firstNodes, List.map_cons, List.map_cons, hhead, ← hid, hfilter, hfilter, ih hrest]

/-- **What is put together depends on identifiers, types and edges alone.** -/
theorem agrees_assemble {nodes nodes' : List Node} {metadata metadata' : Metadata} (edges : List Edge)
    (hnodes : (nodes.map fun n => (n.id, n.kind)) = nodes'.map fun n => (n.id, n.kind))
    (hrepeated : metadata.get? "duplicate_nodes" = metadata'.get? "duplicate_nodes") :
    (assemble nodes edges metadata).Agrees (assemble nodes' edges metadata') := by
  have hmap : nodes.map (·.id) = nodes'.map (·.id) := by
    have hfst := congrArg (List.map Prod.fst) hnodes
    rwa [List.map_map, List.map_map] at hfst
  have hlength : nodes.length = nodes'.length := by
    have hlengths := congrArg List.length hmap
    rwa [List.length_map, List.length_map] at hlengths
  have hids : (assemble nodes edges metadata).ids = (assemble nodes' edges metadata').ids := by
    rw [ids_assemble, ids_assemble, hmap]
  constructor
  · exact map_firstNodes_congr hnodes
  · rw [edges_assemble, edges_assemble, hids]
  · rw [get?_pruned_assemble, get?_pruned_assemble, hids]
  · rw [get?_repeated_assemble, get?_repeated_assemble, hmap, hlength, hrepeated]

end Graph

/-! ## The two shapes -/

namespace DependencyData

/-- The symbols that are converted. -/
def Holds (d : Dependencies) : DependencyData → Prop
  | value v => Shape.ofJson v = .symbols ∧ Dependencies.ofJson v = .ok d
  | symbols d' => d' = d
  | graph _ => False

theorem toGraph_of_holds {x : DependencyData} {d : Dependencies} (h : x.Holds d) :
    x.toGraph = .ok (Graph.ofDependencies d) := by
  cases x with
  | value v =>
    obtain ⟨hshape, hread⟩ := h
    show Graph.convert v = _
    unfold Graph.convert
    rw [hshape]
    exact map_eq_ok_iff.2 ⟨d, hread, rfl⟩
  | symbols d' =>
    cases h
    rfl
  | graph g => nomatch h

end DependencyData

namespace ClassList

/-- Symbols with the same identifiers, types and relations have the same graph. -/
theorem agrees_of_isTwin {v : Json} {d : Dependencies} (h : IsTwin v d) :
    (Graph.ofClasses ((classes v).map entry)).Agrees (Graph.ofDependencies d) := by
  have hids : ((classes v).map entry).map (·.id) = ids v := by
    rw [List.map_map]
    exact List.map_congr_left fun c _ => id_entry c
  have hnodes : ((((classes v).map entry).map ClassEntry.toNode).map fun n => (n.id, n.kind)) =
      (d.symbols.map (Graph.nodeOfSymbol d.language)).map fun n => (n.id, n.kind) := by
    have hkeys := congrArg (List.map fun t => (t.1, t.2.1)) h
    rw [List.map_map, List.map_map] at hkeys
    rw [List.map_map, List.map_map, List.map_map]
    refine Eq.trans (List.map_congr_left fun c _ => ?_) hkeys.symm
    exact congrArg (·, kind c) (id_entry c)
  have hedges : ((classes v).map entry).flatMap (ClassEntry.edges (ids v)) = d.symbols.flatMap Graph.edgesOfSymbol := by
    have hrelations := congrArg (List.flatMap fun t => t.2.2.map fun r : Relation =>
      Edge.mk t.1 r.target (EdgeKind.ofRelation r.kind)) h
    rw [List.flatMap_map, List.flatMap_map] at hrelations
    rw [List.flatMap_map]
    refine Eq.trans (List.flatMap_congr fun c _ => ?_) hrelations.symm
    exact edges_entry (ids v) c
  unfold Graph.ofClasses Graph.ofDependencies
  rw [hids]
  simp only
  rw [hedges]
  refine Graph.agrees_assemble _ hnodes ?_
  simp [Metadata.ofList, Metadata.get?_set, Metadata.get?_empty]

/-- Symbols that say what the classes of a list say, with their names for titles. -/
def twin (v : Json) : Dependencies where
  language := "java"
  project := .str ""
  root := ""
  symbols := (classes v).map fun c =>
    { id := id c
      title := text "name" c
      kind := kind c
      file := text "sourceFile" c
      line := .null
      metadata := .empty
      relations := relations (ids v) c }
  diagnostics := []

/-- There is such a twin for each list. -/
theorem isTwin_twin (v : Json) : IsTwin v (twin v) := by
  unfold IsTwin twin
  rw [List.map_map]
  rfl

/-- And it can be written and read back, as nothing in it is left to defaults. -/
theorem isNormal_twin (v : Json) : (twin v).IsNormal where
  language := show "java" ≠ "" by decide
  project := ⟨"", rfl⟩
  symbols := by
    intro s hs
    obtain ⟨c, hc, rfl⟩ := List.mem_map.1 hs
    constructor
    · show kind c ≠ ""
      unfold kind
      split
      · decide
      · next htype => exact Text.lower_ne_empty htype
    · exact .inl (of_decide_eq_true (List.mem_filter.1 hc).2)

/-- So every list of classes has a twin, which can be written. -/
theorem holds_twin (v : Json) : (DependencyData.value (twin v).toJson).Holds (twin v) := by
  refine ⟨rfl, ?_⟩
  rw [Dependencies.ofJson_toJson, Dependencies.completed_eq_self_iff.2 (isNormal_twin v)]

/-- **A list of classes and its twin have the same graph**, up to titles and metadata: the same identifiers and types
    in the same order, the same edges, and the same numbers of edges and nodes that were left out. -/
theorem agrees_of_twin {v : Json} {x : DependencyData} {d : Dependencies} (hshape : Shape.ofJson v = .classes)
    (htextual : IsTextual v) (hx : x.Holds d) (htwin : IsTwin v d) :
    ∃ g h, Graph.convert v = .ok g ∧ x.toGraph = .ok h ∧ g.Agrees h :=
  ⟨_, _, convert_eq hshape htextual, DependencyData.toGraph_of_holds hx, agrees_of_isTwin htwin⟩

/-- A class twice, one with a qualified name, one without a package and one without a name; and references to a class
    further behind, to one in the own package and to none. -/
def shop : Json :=
  .obj [("classes", .arr [
    .obj [("name", .str "Cart"), ("package", .str "shop"), ("type", .str "Interface"), ("extends", .str "Item"),
      ("implements", .arr [.str "store.Bag", .str "Nowhere"]), ("dependencies", .arr [.str "Item", .null, .str ""])],
    .obj [("name", .str "Item"), ("package", .str "shop"), ("imports", .arr [.str "Cart", .str "java.util.List"])],
    .obj [("name", .str "store.Bag"), ("package", .str "shop"), ("extends", .str "Cart")],
    .obj [("name", .str "Cart"), ("package", .str "shop"), ("imports", .str "store.Bag")],
    .obj [("name", .str "Main"), ("dependencies", .arr [.str "Cart"])],
    .obj [("package", .str "shop")]])]

/-- A list with names of other packages, a name that is nowhere, and a class that is there twice. -/
theorem agrees_shop :
    Shape.ofJson shop = .classes ∧ IsTextual shop ∧ ∃ g h, Graph.convert shop = .ok g ∧
      Graph.convert (twin shop).toJson = .ok h ∧ g.Agrees h ∧
      (h.nodes.map fun n => (n.id, n.kind)) =
        [("shop.Cart", "interface"), ("shop.Item", "class"), ("store.Bag", "class"), ("Main", "class")] ∧
      h.edges = [⟨"shop.Cart", "shop.Item", .inherits⟩, ⟨"shop.Cart", "store.Bag", .implements⟩,
        ⟨"shop.Cart", "shop.Item", .depends⟩, ⟨"shop.Item", "shop.Cart", .imports⟩,
        ⟨"store.Bag", "shop.Cart", .inherits⟩, ⟨"shop.Cart", "store.Bag", .imports⟩] ∧
      h.metadata.get? "pruned_edges" = some (.int 3) ∧ h.metadata.get? "duplicate_nodes" = some (.int 1) := by
  have hshape : Shape.ofJson shop = .classes := by decide +kernel
  have htextual : IsTextual shop := by decide +kernel
  obtain ⟨g, h, hg, hh, hagrees⟩ := agrees_of_twin hshape htextual (holds_twin shop) (isTwin_twin shop)
  have heq : h = Graph.ofDependencies (twin shop) :=
    Except.ok.inj (hh.symm.trans (DependencyData.toGraph_of_holds (holds_twin shop)))
  refine ⟨hshape, htextual, g, h, hg, hh, hagrees, ?_⟩
  rw [heq]
  decide +kernel

end ClassList

end CodeAtlas
