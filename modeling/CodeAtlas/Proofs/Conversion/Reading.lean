import CodeAtlas.Proofs.Conversion.Codec
import CodeAtlas.Proofs.Conversion.Completeness
import CodeAtlas.Proofs.Outcome
/-!
  How the conversion of a value ends.

  Reading goes through a value part by part, and each part can have the wrong shape or content; nothing else can
  go wrong before the graph is there.  Then it may not hold together.  So `convert` fails in three expected ways only
  (`convert_ends`), however the value is made.

  Reading is lenient about what is left out: an empty text counts as absent, and gets a default.  So what is read is
  in normal form (`Graph.reads_ofJson`, `Dependencies.reads_ofJson`), and no node comes out without a type.  For this a
  value that is no empty one has to keep a text that is no empty one, whatever it is: a number is written out, and its
  digits do not vanish (`text_ne_empty`).

  `Reads` is the statement about one reader: it ends well, with what it is said to give, or it finds a fault of the
  value.  The readers of larger parts are put together from those of smaller ones, and so are their lemmas.
-/
namespace CodeAtlas

open Fault

/-! ## Texts that are not empty -/

namespace Text

/-- A text with something behind it is not empty. -/
theorem append_ne_empty_right (s : String) {t : String} (h : t ≠ "") : s ++ t ≠ "" := by
  intro heq
  exact h (String.append_eq_empty_iff.1 heq).2

/-- Lower case may make a letter longer, but none disappears. -/
theorem lower_ne_empty {s : String} (h : s ≠ "") : lower s ≠ "" := by
  intro heq
  have hnil : lowerAfter [] s.toList = [] := by
    have hlist := congrArg String.toList heq
    rwa [lower, String.toList_ofList] at hlist
  cases hs : s.toList with
  | nil => exact h (String.toList_eq_nil_iff.1 hs)
  | cons c rest =>
    rw [hs, lowerAfter] at hnil
    obtain ⟨hhere, -⟩ := List.append_eq_nil_iff.1 hnil
    split at hhere
    · nomatch hhere
    · split at hhere
      · split at hhere <;> nomatch hhere
      · nomatch hhere

end Text

/-- Every number is written with one character at least, if infinity and what is no number have texts. -/
theorem Double.text_ne_empty {special : Double.SpecialTexts} (hinfinity : special.infinity ≠ "")
    (hundefined : special.undefined ≠ "") (x : Double) : x.text special ≠ "" := by
  have hmagnitude : x.magnitudeText ≠ [] := by
    unfold Double.magnitudeText
    split
    · exact List.cons_ne_nil _ _
    · unfold Double.layout
      simp only
      split
      · split <;> simp
      · simp
  unfold Double.text
  simp only
  split
  · exact hundefined
  · split
    · exact Text.append_ne_empty_right _ hinfinity
    · refine Text.append_ne_empty_right _ fun heq => hmagnitude ?_
      have hlist := congrArg String.toList heq
      rwa [String.toList_ofList] at hlist

namespace Json

/-- What counts as something has a display text. -/
theorem text_ne_empty {v : Json} (h : v.isEmpty = false) : v.text ≠ "" := by
  cases v with
  | null => nomatch h
  | bool b => cases b <;> decide
  | int n =>
    show toString n ≠ ""
    rw [Int.toString_eq_repr, Int.repr_eq_if]
    split
    · exact Nat.repr_ne_empty
    · exact Text.append_ne_empty_right _ Nat.repr_ne_empty
  | float x => exact Double.text_ne_empty (by decide) (by decide) x
  | str s =>
    rintro rfl
    nomatch h
  | arr items => exact Text.append_ne_empty_right _ (by decide)
  | obj fields => exact Text.append_ne_empty_right _ (by decide)

theorem isEmpty_of_nonEmpty? {v w : Json} (h : v.nonEmpty? = some w) : w.isEmpty = false := by
  unfold nonEmpty? at h
  split at h
  · nomatch h
  · next hv =>
    cases h
    exact Bool.eq_false_iff.2 hv

/-! ## Parts of a value -/

/-- A part is read, or it has the wrong shape or content. -/
abbrev Reads {α : Type} (x : Except Fault α) (good : α → Prop) : Prop := Ends x good fun f => f.isValueFault = true

theorem reads_required (name : String) (v : Json) : Reads (v.required name) fun _ => True := by
  unfold required
  split
  · split
    · exact ends_ok trivial
    · exact ends_error rfl
  · exact ends_error rfl

/-- An optional part may be missing, but the value itself must have parts. -/
theorem reads_optional (name : String) (v : Json) : Reads (v.optional name) fun _ => True := by
  unfold optional
  split
  · exact ends_ok trivial
  · exact ends_error rfl

/-- An empty part counts as a missing one. -/
theorem reads_nonEmptyField (name : String) (v : Json) :
    Reads (v.nonEmptyField name) fun found => ∀ w ∈ found, w.isEmpty = false := by
  refine (reads_optional name v).map fun found _ w hw => ?_
  obtain ⟨u, -, hu⟩ := Option.bind_eq_some_iff.1 hw
  exact isEmpty_of_nonEmpty? hu

/-- The text of a part is empty only where its default is. -/
theorem reads_textField (name fallback : String) (v : Json) :
    Reads (v.textField name fallback) fun s => fallback ≠ "" → s ≠ "" := by
  refine (reads_nonEmptyField name v).map fun found hfound hfallback => ?_
  cases found with
  | none => exact hfallback
  | some w => exact text_ne_empty (hfound w rfl)

/-- Lists, texts and tables can be gone through; a text gives its characters and a table its names. -/
theorem reads_items (v : Json) : Reads v.items fun _ => True := by
  unfold items
  split
  · exact ends_ok trivial
  · exact ends_ok trivial
  · exact ends_ok trivial
  · exact ends_error rfl

theorem reads_itemsField (name : String) (v : Json) : Reads (v.itemsField name) fun _ => True := by
  refine (reads_nonEmptyField name v).bind fun found _ => ?_
  cases found with
  | none => exact ends_ok trivial
  | some w => exact reads_items w

/-- A text can be asked whether another one is in it, as a list or a table can. -/
theorem reads_mentions (name : String) (v : Json) : Reads (v.mentions name) fun _ => True := by
  unfold mentions
  split
  · exact ends_ok trivial
  · exact ends_ok trivial
  · exact ends_ok trivial
  · exact ends_error rfl

theorem reads_pair (v : Json) : Reads v.pair fun _ => True := by
  refine (reads_items v).bind fun parts _ => ?_
  split
  · split
    · exact ends_ok trivial
    · exact ends_error rfl
  · exact ends_error rfl

/-- The parts of a table, or those that a list of pairs stands for. -/
theorem reads_fieldsOf (v : Json) : Reads v.fieldsOf fun _ => True := by
  unfold fieldsOf
  split
  · exact ends_ok trivial
  · split
    · exact ends_ok trivial
    · refine (reads_items v).bind fun parts _ => ?_
      exact (ends_mapM (fun _ => True) fun part _ => reads_pair part).bind fun _ _ => ends_ok trivial

theorem reads_fieldsField (name : String) (v : Json) : Reads (v.fieldsField name) fun _ => True := by
  refine (reads_optional name v).bind fun found _ => ?_
  cases found with
  | none => exact ends_ok trivial
  | some w => exact reads_fieldsOf w

end Json

open Json

theorem Metadata.reads_ofField (name : String) (v : Json) : Reads (Metadata.ofField name v) fun _ => True :=
  (reads_fieldsField name v).map fun _ _ => trivial

/-! ## Graphs and symbols -/

/-- The default of the type is not empty, so no type is; a title that is left out is the identifier. -/
theorem Node.reads_ofJson (v : Json) : Reads (Node.ofJson v) Node.IsNormal := by
  refine (reads_required "id" v).bind fun id _ => ?_
  refine (reads_textField "title" _ v).bind fun title htitle => ?_
  refine (reads_textField "type" "symbol" v).bind fun kind hkind => ?_
  refine (Metadata.reads_ofField "metadata" v).bind fun _ _ => ends_ok ?_
  exact ⟨hkind (by decide), or_iff_not_imp_right.2 htitle⟩

/-- Both ends are required, and a missing type is none. -/
theorem Edge.reads_ofJson (v : Json) : Reads (Edge.ofJson v) fun _ => True := by
  refine (reads_required "source" v).bind fun source _ => ?_
  refine (reads_required "target" v).bind fun target _ => ?_
  exact (reads_optional "type" v).bind fun _ _ => ends_ok trivial

/-- A graph is in normal form if its nodes are. -/
theorem Graph.reads_ofJson (v : Json) : Reads (Graph.ofJson v) Graph.IsNormal := by
  refine (reads_itemsField "nodes" v).bind fun nodes _ => ?_
  refine (ends_mapM Node.IsNormal fun n _ => Node.reads_ofJson n).bind fun nodes hnodes => ?_
  refine (reads_itemsField "edges" v).bind fun edges _ => ?_
  refine (ends_mapM (fun _ => True) fun e _ => Edge.reads_ofJson e).bind fun edges _ => ?_
  exact (Metadata.reads_ofField "metadata" v).bind fun _ _ => ends_ok hnodes

/-- A relation without a target is left out. -/
theorem Relation.reads_ofJson? (v : Json) : Reads (Relation.ofJson? v) fun _ => True := by
  refine (reads_mentions "target" v).bind fun mentioned _ => ?_
  split
  · refine (reads_optional "kind" v).bind fun kind _ => ?_
    exact (reads_required "target" v).bind fun _ _ => ends_ok trivial
  · exact ends_ok trivial

/-- The same for symbols, which have a kind in place of a type. -/
theorem Symbol.reads_ofJson (v : Json) : Reads (Symbol.ofJson v) Symbol.IsNormal := by
  refine (reads_required "id" v).bind fun id _ => ?_
  refine (reads_textField "title" _ v).bind fun title htitle => ?_
  refine (reads_textField "kind" "symbol" v).bind fun kind hkind => ?_
  refine (reads_textField "file_path" "" v).bind fun file _ => ?_
  refine (reads_optional "line" v).bind fun line _ => ?_
  refine (Metadata.reads_ofField "metadata" v).bind fun metadata _ => ?_
  refine (reads_itemsField "relations" v).bind fun relations _ => ?_
  have hrelations : Reads (relations.filterMapM Relation.ofJson?) fun ys => ∀ y ∈ ys, True :=
    ends_filterMapM (fun _ => True) fun r _ => (Relation.reads_ofJson? r).mono fun _ _ _ _ => trivial
  exact hrelations.bind fun _ _ => ends_ok ⟨hkind (by decide), or_iff_not_imp_right.2 htitle⟩

/-- All parts of a diagnostic may be missing. -/
theorem Diagnostic.reads_ofJson (v : Json) : Reads (Diagnostic.ofJson v) fun _ => True := by
  refine (reads_optional "path" v).bind fun path _ => ?_
  refine (reads_optional "message" v).bind fun message _ => ?_
  exact (reads_optional "line" v).bind fun _ _ => ends_ok trivial

/-- A missing language is unknown, and whatever is under `project` comes out as a text. -/
theorem Dependencies.reads_ofJson (v : Json) : Reads (Dependencies.ofJson v) Dependencies.IsNormal := by
  refine (reads_textField "language" "unknown" v).bind fun language hlanguage => ?_
  refine (reads_textField "project" "" v).bind fun project _ => ?_
  refine (reads_textField "root" "" v).bind fun root _ => ?_
  refine (reads_itemsField "symbols" v).bind fun symbols _ => ?_
  refine (ends_mapM Symbol.IsNormal fun s _ => Symbol.reads_ofJson s).bind fun symbols hsymbols => ?_
  refine (reads_itemsField "diagnostics" v).bind fun diagnostics _ => ?_
  refine (ends_mapM (fun _ => True) fun d _ => Diagnostic.reads_ofJson d).bind fun _ _ => ends_ok ?_
  exact ⟨hlanguage (by decide), ⟨project, rfl⟩, hsymbols⟩

/-! ## Classes -/

theorem ClassEntry.reads_names (field : Option Json) : Reads (ClassEntry.names field) fun _ => True := by
  unfold ClassEntry.names
  split
  · exact ends_ok trivial
  · exact ends_ok trivial
  · exact ends_ok trivial
  · exact (reads_items _).map fun _ _ => trivial

/-- A class has the type and the name that it was given; without a type it is a class. -/
theorem ClassEntry.reads_ofJson? (v : Json) :
    Reads (ClassEntry.ofJson? v) fun c =>
      ∀ b ∈ c, b.kind ≠ "" ∧ ∃ name, (v.get? "name").bind nonEmpty? = some name ∧ b.name = name.text := by
  unfold ClassEntry.ofJson?
  split
  · exact ends_ok fun _ h => nomatch h
  · next name hname =>
    refine (ends_mapM (fun _ => True) fun entry _ => ?_).bind fun references _ => ends_ok ?_
    · exact (ClassEntry.reads_names _).map fun _ _ => trivial
    rintro _ ⟨⟩
    refine ⟨Text.lower_ne_empty ?_, name, hname, rfl⟩
    cases hkind : (v.get? "type").bind nonEmpty? with
    | none => exact show "class" ≠ "" by decide
    | some w =>
      obtain ⟨u, -, hu⟩ := Option.bind_eq_some_iff.1 hkind
      exact text_ne_empty (isEmpty_of_nonEmpty? hu)

namespace Graph

/-! ## Conversion -/

/-- Of nodes with the same identifier the first one stays. -/
theorem mem_of_mem_firstNodes {nodes : List Node} {n : Node} (h : n ∈ firstNodes nodes) : n ∈ nodes :=
  List.mem_of_find?_eq_some (find?_of_mem_firstNodes h)

/-- A fault that says that a value is no graph. -/
def IsConversionFault (f : Fault) : Prop := f.isValueFault = true ∨ f.isSnapshotFault = true ∨ f.isGraphFault = true

/-- A graph that does not hold together has two nodes of one name, or an edge to nowhere. -/
theorem isGraphFault_of_validate {g : Graph} {f : Fault} (h : g.validate = .error f) : f.isGraphFault = true := by
  unfold validate fault? at h
  split at h
  · next fault hfault =>
    cases h
    split at hfault
    · cases hfault
      rfl
    · obtain ⟨e, -, he⟩ := List.exists_of_findSome?_eq_some hfault
      unfold danglingFault? at he
      split at he
      · cases he
        rfl
      · split at he
        · cases he
          rfl
        · nomatch he
  · nomatch h

/-- **Conversion gives nodes with types, or it says that the value is no graph.** -/
theorem convert_ends (v : Json) : Ends (convert v) (fun g => ∀ n ∈ g.nodes, n.kind ≠ "") IsConversionFault := by
  have hreads : ∀ {α : Type} {x : Except Fault α} {good : α → Prop}, Reads x good → Ends x good IsConversionFault :=
    fun h => ⟨h.of_ok, fun heq => .inl (h.of_error heq)⟩
  unfold convert
  split
  · refine (hreads (Graph.reads_ofJson v)).bind fun g hg => ?_
    unfold validated
    cases hvalid : g.validate with
    | ok u => exact ends_ok fun n hn => (hg n hn).kind
    | error f => exact ends_error (.inr (.inr (isGraphFault_of_validate hvalid)))
  · refine (hreads (Dependencies.reads_ofJson v)).map fun d hd n hn => ?_
    obtain ⟨s, hs, rfl⟩ := List.mem_map.1 (mem_of_mem_firstNodes hn)
    exact (hd.symbols s hs).kind
  · refine (hreads (reads_itemsField "classes" v)).bind fun values _ => ?_
    have hentries : Reads (values.filterMapM ClassEntry.ofJson?) fun ys => ∀ y ∈ ys, y.kind ≠ "" :=
      ends_filterMapM (fun c : ClassEntry => c.kind ≠ "") fun value _ =>
        (ClassEntry.reads_ofJson? value).mono fun _ hgood c hc => (hgood c hc).1
    refine (hreads hentries).bind fun entries hkinds => ends_ok fun n hn => ?_
    obtain ⟨c, hc, rfl⟩ := List.mem_map.1 (mem_of_mem_firstNodes hn)
    exact hkinds c hc
  · exact ends_error (.inr (.inl rfl))

end Graph

end CodeAtlas
