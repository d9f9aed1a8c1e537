import CodeAtlas.Proofs.Conversion.Agreement
/-!
  The classes of one package refer to each other by their simple names.

  In a list of classes a reference is a name.  A name without dots, used inside of a package, can mean the class of that
  name in the package, wherever it stands in the list.  There is one exception: a name that is the whole identifier of a
  class, as that of a class without a package is, means this class.

  Names, packages and references may be values of any kind, which stand for their display texts.  So what a list says
  is read off its fields by `nameOf?`, `packageOf` and `Mentions`.

    1. A class is read as an entry with the name, the package and the references that it states (`of_ofJson?`).
    2. A list is converted if the fields with references of all its classes can be gone through (`exists_convert_iff`).
    3. A simple name is an identifier only of a class without a package (`mem_ids_iff`).
    4. So a class is joined to its neighbours (`joinsNeighbours_of_listable`).
-/
namespace CodeAtlas

open Fault

namespace ClassList

/-! ## What a class says, in values of any kind -/

/-- The name of a class. -/
def nameOf? (c : Json) : Option String := ((c.get? "name").bind Json.nonEmpty?).map Json.text

/-- The package of a class, which is empty if there is none. -/
def packageOf (c : Json) : String := ((c.get? "package").map Json.textOrEmpty).getD ""

/-- A name is all of a value, or an item of it, or a key.  An empty one is no name. -/
inductive Mentions (name : String) : Json → Prop
  | whole (hname : name ≠ "") : Mentions name (.str name)
  | item (items : List Json) (x : Json) (hx : x ∈ items) (hfull : x.isEmpty = false) (htext : x.text = name) :
      Mentions name (.arr items)
  | key (fields : List (Json.Key × Json)) (k : Json.Key) (hk : k ∈ fields.map (·.1))
      (hfull : (Json.ofKey k).isEmpty = false) (htext : (Json.ofKey k).text = name) : Mentions name (.obj fields)

/-- Whether the names in a field can be gone through. -/
def isListable : Option Json → Bool
  | none | some .null | some (.str _) | some (.arr _) | some (.obj _) => true
  | _ => false

/-- All classes of a list have references that can be gone through. -/
def IsListable (v : Json) : Prop :=
  ∀ c ∈ items v, nameOf? c ≠ none → ∀ f ∈ fields, isListable (c.get? f.1) = true

instance (v : Json) : Decidable (IsListable v) :=
  inferInstanceAs (Decidable (∀ c ∈ items v, nameOf? c ≠ none → ∀ f ∈ fields, isListable (c.get? f.1) = true))

/-- A list has a class of some name in some package. -/
def Declares (v : Json) (package name : String) : Prop :=
  ∃ c ∈ items v, nameOf? c = some name ∧ packageOf c = package

/-- A class of some name in some package mentions a name in a field that stands for a kind of edges. -/
def Refers (v : Json) (package name : String) (kind : EdgeKind) (target : String) : Prop :=
  ∃ c ∈ items v, nameOf? c = some name ∧ packageOf c = package ∧
    ∃ f ∈ fields, EdgeKind.ofRelation f.2 = kind ∧ ∃ w, c.get? f.1 = some w ∧ Mentions target w

/-- A reference by a simple name between two classes of one package. -/
structure Neighbours (v : Json) (package name : String) (kind : EdgeKind) (target : String) : Prop where
  packaged : package ≠ ""
  simple : '.' ∉ name.toList
  simple_target : '.' ∉ target.toList
  refers : Refers v package name kind target
  declares : Declares v package target

/-- The own package comes first: a class is joined to the neighbours that it mentions. -/
def PrefersNeighbours (v : Json) (g : Graph) : Prop :=
  ∀ package name kind target, Neighbours v package name kind target →
    ⟨package ++ "." ++ name, package ++ "." ++ target, kind⟩ ∈ g.edges

/-- A whole identifier comes first: a class is joined to the neighbours that it mentions, unless a class without a
    package has the name. -/
def JoinsNeighbours (v : Json) (g : Graph) : Prop :=
  ∀ package name kind target, Neighbours v package name kind target →
    (¬ Declares v "" target → ⟨package ++ "." ++ name, package ++ "." ++ target, kind⟩ ∈ g.edges) ∧
      (Declares v "" target → ⟨package ++ "." ++ name, target, kind⟩ ∈ g.edges)

/-! ## Reading the classes -/

variable {v c : Json} {field : Option Json} {e : ClassEntry}

/-- The names in a field can be read if it is absent, a text, or something that can be gone through. -/
theorem exists_names_iff : (∃ names, ClassEntry.names field = .ok names) ↔ isListable field = true := by
  cases field with
  | none => exact iff_of_true ⟨[], rfl⟩ rfl
  | some w => cases w <;> simp [ClassEntry.names, isListable, Json.items, Except.map]

/-- The parts that are no empty values, as texts. -/
theorem mem_filterMap_text {parts : List Json} {name : String} :
    name ∈ parts.filterMap (fun x => x.nonEmpty?.map Json.text) ↔ ∃ x ∈ parts, x.isEmpty = false ∧ x.text = name := by
  simp only [List.mem_filterMap, Option.map_eq_some_iff, Json.nonEmpty?, Option.ite_none_left_eq_some,
    Option.some.injEq, Bool.not_eq_true]
  constructor
  · rintro ⟨x, hx, _, ⟨hfull, rfl⟩, htext⟩
    exact ⟨x, hx, hfull, htext⟩
  · rintro ⟨x, hx, hfull, htext⟩
    exact ⟨x, hx, x, ⟨hfull, rfl⟩, htext⟩

/-- What is mentioned is among the names. -/
theorem mem_names_of_mentions {names : List String} {w : Json} {name : String}
    (h : ClassEntry.names (some w) = .ok names) (hname : Mentions name w) : name ∈ names := by
  cases hname with
  | whole hname =>
    cases h
    rw [if_neg hname]
    exact List.mem_singleton_self name
  | item items x hx hfull htext =>
    cases h
    exact mem_filterMap_text.2 ⟨x, hx, hfull, htext⟩
  | key fields k hk hfull htext =>
    cases h
    obtain ⟨f, hf, rfl⟩ := List.mem_map.1 hk
    exact mem_filterMap_text.2 ⟨_, List.mem_map.2 ⟨f, hf, rfl⟩, hfull, htext⟩

/-- The references of a class, field by field. -/
def readReferences (c : Json) : Except Fault (List (List (EdgeKind × String))) :=
  ClassEntry.referenceFields.mapM fun (field, kind) =>
    (ClassEntry.names (c.get? field)).map fun targets => targets.map (kind, ·)

/-- All fields are read, and each of them can fail. -/
theorem exists_readReferences_iff :
    (∃ references, readReferences c = .ok references) ↔ ∀ f ∈ fields, isListable (c.get? f.1) = true := by
  unfold readReferences
  rw [exists_mapM_eq_ok_iff, referenceFields_eq, List.forall_mem_map]
  exact forall₂_congr fun f _ => exists_map_eq_ok_iff.trans exists_names_iff

/-- Whatever a field mentions is among the references, under the kind of the field. -/
theorem mem_of_readReferences {references : List (List (EdgeKind × String))} (h : readReferences c = .ok references)
    {f : String × String} (hf : f ∈ fields) {w : Json} (hw : c.get? f.1 = some w) {target : String}
    (htarget : Mentions target w) : (EdgeKind.ofRelation f.2, target) ∈ references.flatten := by
  have hfield : (f.1, EdgeKind.ofRelation f.2) ∈ ClassEntry.referenceFields := by
    rw [referenceFields_eq]
    exact List.mem_map_of_mem hf
  obtain ⟨_, hlist⟩ := exists_mapM_eq_ok_iff.1 ⟨references, h⟩ _ hfield
  obtain ⟨names, hnames, rfl⟩ := map_eq_ok_iff.1 hlist
  rw [hw] at hnames
  have hin := (mem_of_mapM_eq_ok h _).2 ⟨_, hfield, hlist⟩
  exact List.mem_flatten_of_mem hin (List.mem_map_of_mem (mem_names_of_mentions hnames htarget))

/-- What has no name is no class, and it is passed over before its fields are looked at. -/
theorem ofJson?_of_unnamed (h : nameOf? c = none) : ClassEntry.ofJson? c = .ok none := by
  unfold ClassEntry.ofJson?
  rw [Option.map_eq_none_iff.1 h]

/-- So the fields matter only in items with a name. -/
theorem exists_ofJson?_iff : (∃ entry, ClassEntry.ofJson? c = .ok entry) ↔
    (nameOf? c ≠ none → ∀ f ∈ fields, isListable (c.get? f.1) = true) := by
  cases hname : (c.get? "name").bind Json.nonEmpty? with
  | none =>
    have hnone : nameOf? c = none := Option.map_eq_none_iff.2 hname
    exact iff_of_true ⟨none, ofJson?_of_unnamed hnone⟩ fun h => absurd hnone h
  | some name =>
    have hsome : nameOf? c ≠ none := by simp [nameOf?, hname]
    rw [← exists_readReferences_iff, imp_iff_right hsome]
    unfold ClassEntry.ofJson?
    rw [hname]
    exact exists_bind_eq_ok_iff.trans (exists_congr fun _ => and_iff_left ⟨_, rfl⟩)

/-- **A class is read as what it states.** -/
theorem of_ofJson? (h : ClassEntry.ofJson? c = .ok (some e)) :
    nameOf? c = some e.name ∧ packageOf c = e.package ∧
      ∀ f ∈ fields, ∀ w, c.get? f.1 = some w → ∀ target, Mentions target w →
        (EdgeKind.ofRelation f.2, target) ∈ e.references := by
  unfold ClassEntry.ofJson? at h
  split at h
  · nomatch h
  · next name hname =>
    obtain ⟨references, hreferences, h⟩ := bind_eq_ok_iff.1 h
    cases h
    exact ⟨Option.map_eq_some_iff.2 ⟨name, hname, rfl⟩, rfl,
      fun f hf w hw target htarget => mem_of_readReferences hreferences hf hw htarget⟩

/-- What has a name is not passed over. -/
theorem exists_of_ofJson? {entry : Option ClassEntry} {name : String} (h : ClassEntry.ofJson? c = .ok entry)
    (hname : nameOf? c = some name) : ∃ e, entry = some e := by
  cases entry with
  | some e => exact ⟨e, rfl⟩
  | none =>
    unfold ClassEntry.ofJson? at h
    split at h
    · next hnone =>
      have hunnamed : nameOf? c = none := Option.map_eq_none_iff.2 hnone
      rw [hunnamed] at hname
      nomatch hname
    · obtain ⟨_, -, h⟩ := bind_eq_ok_iff.1 h
      nomatch h

/-- The classes of a list are read one by one. -/
theorem convert_eq_ok_iff {g : Graph} (hshape : Shape.ofJson v = .classes) : Graph.convert v = .ok g ↔
    ∃ entries, (items v).filterMapM ClassEntry.ofJson? = .ok entries ∧ Graph.ofClasses entries = g := by
  rw [Graph.convert_of_classes hshape, itemsField_of_classes hshape, ← map_eq_ok_iff]
  rfl

/-- **A list is converted exactly if its references can be gone through.** -/
theorem exists_convert_iff (hshape : Shape.ofJson v = .classes) :
    (∃ g, Graph.convert v = .ok g) ↔ IsListable v := by
  have hentries : (∃ g, Graph.convert v = .ok g) ↔
      ∃ entries, (items v).filterMapM ClassEntry.ofJson? = .ok entries := by
    simp only [convert_eq_ok_iff hshape]
    exact ⟨fun ⟨_, entries, h, _⟩ => ⟨entries, h⟩, fun ⟨entries, h⟩ => ⟨_, entries, h, rfl⟩⟩
  rw [hentries, exists_filterMapM_eq_ok_iff]
  exact forall₂_congr fun c _ => exists_ofJson?_iff

/-! ## Identifiers -/

variable {entries : List ClassEntry} {package name target : String}

/-- A simple name in a package gets the package in front. -/
theorem id_of_packaged (hname : '.' ∉ e.name.toList) (hpackage : e.package ≠ "") :
    e.id = e.package ++ "." ++ e.name := by
  unfold ClassEntry.id
  rw [if_neg]
  simp [hpackage, Text.hasChar_iff, hname]

/-- An identifier without dots is a name without a package. -/
theorem id_eq_iff (hname : '.' ∉ name.toList) : e.id = name ↔ e.name = name ∧ e.package = "" := by
  by_cases hpackage : e.package = ""
  · unfold ClassEntry.id
    simp [hpackage]
  · refine iff_of_false (fun hid => hname ?_) fun h => hpackage h.2
    rw [← hid]
    by_cases hsimple : '.' ∈ e.name.toList
    · unfold ClassEntry.id
      rw [if_pos (by simp [Text.hasChar_iff, hsimple])]
      exact hsimple
    · rw [id_of_packaged hsimple hpackage]
      simp

/-- A class that is declared has an entry. -/
theorem exists_entry (h : (items v).filterMapM ClassEntry.ofJson? = .ok entries) (hdeclares : Declares v package name) :
    ∃ e ∈ entries, e.name = name ∧ e.package = package := by
  obtain ⟨c, hc, hname, hpackage⟩ := hdeclares
  obtain ⟨entry, hentry⟩ := exists_filterMapM_eq_ok_iff.1 ⟨entries, h⟩ c hc
  obtain ⟨e, rfl⟩ := exists_of_ofJson? hentry hname
  obtain ⟨hename, hepackage, -⟩ := of_ofJson? hentry
  refine ⟨e, (mem_of_filterMapM_eq_ok h e).2 ⟨c, hc, hentry⟩, ?_, hepackage.symm.trans hpackage⟩
  exact Option.some.inj (hename.symm.trans hname)

/-- **A simple name is an identifier only of a class without a package.** -/
theorem mem_ids_iff (h : (items v).filterMapM ClassEntry.ofJson? = .ok entries) (hname : '.' ∉ name.toList) :
    name ∈ entries.map (·.id) ↔ Declares v "" name := by
  constructor
  · intro hid
    obtain ⟨e, he, hid⟩ := List.mem_map.1 hid
    obtain ⟨rfl, hpackage⟩ := (id_eq_iff hname).1 hid
    obtain ⟨c, hc, hentry⟩ := (mem_of_filterMapM_eq_ok h e).1 he
    obtain ⟨hename, hepackage, -⟩ := of_ofJson? hentry
    exact ⟨c, hc, hename, hepackage.trans hpackage⟩
  · intro hdeclares
    obtain ⟨e, he, hename, hepackage⟩ := exists_entry h hdeclares
    exact List.mem_map.2 ⟨e, he, (id_eq_iff hname).2 ⟨hename, hepackage⟩⟩

/-- A class that a list declares has its identifier in the graph, wherever it stands in the list. -/
theorem mem_ids_of_declares (h : (items v).filterMapM ClassEntry.ofJson? = .ok entries)
    (hdeclares : Declares v package name) (hpackage : package ≠ "") (hname : '.' ∉ name.toList) :
    package ++ "." ++ name ∈ entries.map (·.id) := by
  obtain ⟨e, he, rfl, rfl⟩ := exists_entry h hdeclares
  exact List.mem_map.2 ⟨e, he, id_of_packaged hname hpackage⟩

/-- A name of a class without a package means this class. -/
theorem resolve_of_unpackaged (h : (items v).filterMapM ClassEntry.ofJson? = .ok entries) (htarget : '.' ∉ target.toList)
    (hother : Declares v "" target) : ClassEntry.resolve (entries.map (·.id)) package target = target := by
  have hid := (mem_ids_iff h htarget).2 hother
  unfold ClassEntry.resolve
  rw [if_pos (by simp [-List.mem_map, hid])]

/-- Any other name of a class of the own package means this one. -/
theorem resolve_of_packaged (h : (items v).filterMapM ClassEntry.ofJson? = .ok entries) (htarget : '.' ∉ target.toList)
    (hpackage : package ≠ "") (hown : Declares v package target) (hother : ¬ Declares v "" target) :
    ClassEntry.resolve (entries.map (·.id)) package target = package ++ "." ++ target := by
  have hid := mem_ids_of_declares h hown hpackage htarget
  unfold ClassEntry.resolve
  rw [if_neg, if_pos (List.contains_iff_mem.2 hid)]
  simp [hpackage, -List.mem_map, mem_ids_iff h htarget, hother]

/-! ## Edges -/

/-- A reference to a class of the list is an edge of its graph. -/
theorem mem_edges_ofClasses {kind : EdgeKind} (he : e ∈ entries) (hreference : (kind, target) ∈ e.references)
    (hid : ClassEntry.resolve (entries.map (·.id)) e.package target ∈ entries.map (·.id)) :
    ⟨e.id, ClassEntry.resolve (entries.map (·.id)) e.package target, kind⟩ ∈ (Graph.ofClasses entries).edges := by
  have hids : (Graph.ofClasses entries).ids = Adjacency.firsts (entries.map (·.id)) := by
    unfold Graph.ofClasses
    rw [Graph.ids_assemble, List.map_map]
    rfl
  have hmem : ∀ id ∈ entries.map (·.id), id ∈ (Graph.ofClasses entries).ids := by
    intro id hid
    rw [hids, Adjacency.mem_firsts]
    exact hid
  unfold Graph.ofClasses
  rw [Graph.edges_assemble, List.mem_filter, Adjacency.mem_firsts, List.mem_flatMap]
  refine ⟨⟨e, he, List.mem_map.2 ⟨_, hreference, rfl⟩⟩, ?_⟩
  unfold Graph.joins
  rw [Bool.and_eq_true, List.contains_iff_mem, List.contains_iff_mem]
  exact ⟨hmem _ (List.mem_map_of_mem he), hmem _ hid⟩

/-- **Neighbours are joined**, in every list that can be converted.  A class that mentions a simple name gets an edge
    to the class of this name in its own package, whichever of the two comes first, unless a class without a package
    has the name. -/
theorem joinsNeighbours_of_listable (hshape : Shape.ofJson v = .classes) (hlistable : IsListable v) :
    ∃ g, Graph.convert v = .ok g ∧ JoinsNeighbours v g := by
  obtain ⟨g, hg⟩ := (exists_convert_iff hshape).2 hlistable
  refine ⟨g, hg, fun package name kind target h => ?_⟩
  obtain ⟨entries, hentries, rfl⟩ := (convert_eq_ok_iff hshape).1 hg
  obtain ⟨hpackage, hname, htarget, ⟨c, hc, hcname, hcpackage, f, hf, rfl, w, hw, hmentions⟩, hdeclares⟩ := h
  -- the class that refers has an entry with this reference
  obtain ⟨entry, hentry⟩ := exists_filterMapM_eq_ok_iff.1 ⟨entries, hentries⟩ c hc
  obtain ⟨e, rfl⟩ := exists_of_ofJson? hentry hcname
  obtain ⟨hename, hepackage, hreferences⟩ := of_ofJson? hentry
  obtain rfl : e.name = name := Option.some.inj (hename.symm.trans hcname)
  obtain rfl : e.package = package := hepackage.symm.trans hcpackage
  have he : e ∈ entries := (mem_of_filterMapM_eq_ok hentries e).2 ⟨c, hc, hentry⟩
  have hedge := mem_edges_ofClasses he (hreferences f hf w hw target hmentions)
  rw [id_of_packaged hname hpackage] at hedge
  constructor
  · intro hother
    rw [resolve_of_packaged hentries htarget hpackage hdeclares hother] at hedge
    exact hedge (mem_ids_of_declares hentries hdeclares hpackage htarget)
  · intro hother
    rw [resolve_of_unpackaged hentries htarget hother] at hedge
    exact hedge ((mem_ids_iff hentries htarget).2 hother)

/-- A class that mentions two others of its package, which come after it; a class without a package has the name of one
    of them. -/
def mixed : Json :=
  .obj [("classes", .arr [
    .obj [("name", .str "A"), ("package", .str "p"), ("extends", .str "T"), ("dependencies", .arr [.null, .str "B"])],
    .obj [("name", .str "T")],
    .obj [("name", .str "T"), ("package", .str "p")],
    .obj [("name", .str "B"), ("package", .str "p")]])]

/-- One class extends a name that a class without a package has, and depends on a neighbour. -/
theorem refers_mixed : Refers mixed "p" "A" .inherits "T" ∧ Refers mixed "p" "A" .depends "B" := by
  constructor
  · exact ⟨_, List.mem_cons_self, by decide +kernel, by decide +kernel, ("extends", "extends"), by decide,
      by decide +kernel, .str "T", by decide +kernel, .whole (by decide)⟩
  · exact ⟨_, List.mem_cons_self, by decide +kernel, by decide +kernel, ("dependencies", "dependency"), by decide,
      by decide +kernel, .arr [.null, .str "B"], by decide +kernel, .item _ (.str "B") (by decide) rfl rfl⟩

/-- There are classes of both names in its own package. -/
theorem neighbours_mixed : Neighbours mixed "p" "A" .inherits "T" ∧ Neighbours mixed "p" "A" .depends "B" :=
  ⟨⟨by decide, by decide +kernel, by decide +kernel, refers_mixed.1,
      _, List.mem_of_getElem? (show (items mixed)[2]? = _ from rfl), by decide +kernel, by decide +kernel⟩,
    ⟨by decide, by decide +kernel, by decide +kernel, refers_mixed.2,
      _, List.mem_of_getElem? (show (items mixed)[3]? = _ from rfl), by decide +kernel, by decide +kernel⟩⟩

/-- The name of a class without a package is there. -/
theorem declares_mixed : Declares mixed "" "T" ∧ ¬ Declares mixed "" "B" := by
  unfold Declares
  decide +kernel

/-- It is joined to the neighbour, but what it extends is the class without a package. -/
theorem joinsNeighbours_mixed : Shape.ofJson mixed = .classes ∧ IsListable mixed ∧
    ∃ g, Graph.convert mixed = .ok g ∧ Neighbours mixed "p" "A" .depends "B" ∧ ¬ Declares mixed "" "B" ∧
      ⟨"p.A", "p.B", .depends⟩ ∈ g.edges ∧ Neighbours mixed "p" "A" .inherits "T" ∧ Declares mixed "" "T" ∧
      ⟨"p.A", "T", .inherits⟩ ∈ g.edges := by
  have hshape : Shape.ofJson mixed = .classes := by decide +kernel
  have hlistable : IsListable mixed := by decide +kernel
  obtain ⟨g, hg, hjoins⟩ := joinsNeighbours_of_listable hshape hlistable
  obtain ⟨hT, hB⟩ := neighbours_mixed
  obtain ⟨hdeclared, hundeclared⟩ := declares_mixed
  exact ⟨hshape, hlistable, g, hg, hB, hundeclared, (hjoins _ _ _ _ hB).1 hundeclared, hT, hdeclared,
    (hjoins _ _ _ _ hT).2 hdeclared⟩

/-- The class without a package wins over that of the own package. -/
theorem not_prefersNeighbours_mixed : ∃ g, Graph.convert mixed = .ok g ∧ Neighbours mixed "p" "A" .inherits "T" ∧
    ⟨"p.A", "p.T", .inherits⟩ ∉ g.edges ∧ ¬ PrefersNeighbours mixed g := by
  have hedges : (Graph.convert mixed).map (·.edges) =
      .ok [⟨"p.A", "T", .inherits⟩, ⟨"p.A", "p.B", .depends⟩] := by decide +kernel
  obtain ⟨g, hg, hedges⟩ := map_eq_ok_iff.1 hedges
  have hmissing : ⟨"p.A", "p.T", .inherits⟩ ∉ g.edges := by
    rw [hedges]
    decide
  exact ⟨g, hg, neighbours_mixed.1, hmissing, fun h => hmissing (h _ _ _ _ neighbours_mixed.1)⟩

end ClassList

end CodeAtlas
