import CodeAtlas.Extraction.Context
import CodeAtlas.Proofs.Resolution.Symbols
/-!
  What can go wrong while declarations are taken out of a file.

  Only one thing can: a node covers bytes that are no text.  `Decodes` says this of a step, and of its result,
  if there is one, that it has a property.  `Reads` says it of a step whose result does not matter.

  What a node declares is `Inner`: it comes without a file and without diagnostics, and the data of a type do
  not speak of its qualified name.  What a whole file declares is `OneFile`: the record of this file, and below it
  what its nodes declare.

    1. Every reading of a text is `decodes_text`, which also bounds the dots of the text: one dot is one byte, so that
       no import has more dots than the file has bytes.  The other readings are put together from it.
    2. Paths matter only for module names.  They are asked of files below their source root (`IsUnder`), and there the
       question always has an answer (`below?_append`).
    3. Declarations are added up, and `Inner` is kept by adding (`Inner.append`, `inner_mergeAll`).

  The three languages are in modules of their own (`Java`, `Python`, `Script`); each of them ends with the statement
  that its extraction gives `OneFile` or meets bytes that are no text.
-/
namespace CodeAtlas

namespace Fault

variable {α β : Type}

/-- A step gives a result with a property, unless it meets bytes that are no text. -/
abbrev Decodes (x : Except Fault α) (good : α → Prop) : Prop := Ends x good fun f => f = .undecodable

/-- A step gives a result, unless it meets bytes that are no text. -/
abbrev Reads (x : Except Fault α) : Prop := Decodes x fun _ => True

/-- A step whose result has a property is one whose result does not matter. -/
theorem Ends.reads {good : α → Prop} {x : Except Fault α} (h : Decodes x good) : Reads x := h.mono fun _ _ => trivial

/-- A result that is there has met no bytes at all. -/
theorem reads_ok (a : α) : Reads (.ok a) := ends_ok trivial

/-- The same for a step that only hands a result on. -/
theorem reads_pure (a : α) : Reads (pure a) := ends_pure trivial

/-- What is made of a text afterwards meets no bytes. -/
theorem reads_map {x : Except Fault α} (f : α → β) (h : Reads x) : Reads (x.map f) := h.map fun _ _ => trivial

/-- The steps of a list meet only what one of them meets. -/
theorem reads_mapM {f : α → Except Fault β} {xs : List α} (h : ∀ x ∈ xs, Reads (f x)) : Reads (xs.mapM f) :=
  (ends_mapM (fun _ => True) h).reads

/-- The same where some of the steps give nothing to keep. -/
theorem reads_filterMapM {f : α → Except Fault (Option β)} {xs : List α} (h : ∀ x ∈ xs, Reads (f x)) :
    Reads (xs.filterMapM f) :=
  (ends_filterMapM (fun _ => True) fun x hx => (h x hx).mono fun _ _ _ _ => trivial).reads

end Fault

/-! ## Files below their source root -/

namespace Path

/-- A path that leads on from another one. -/
def IsUnder (p root : Path) : Prop := ∃ parts, parts ≠ [] ∧ p = { root with parts := root.parts ++ parts }

/-- What leads on from a root leads there by the names that were put behind it. -/
theorem below?_append (root : Path) (parts : List String) :
    below? { root with parts := root.parts ++ parts } root = some { anchor := "", parts } := by
  unfold below?
  split
  · next h =>
    rw [Bool.and_eq_true, decide_eq_true_eq, decide_eq_true_eq] at h
    simp [h.1, h.2]
  · simp

/-- The directory of such a path leads on from there as well, or is the same. -/
theorem parent_append (root : Path) {parts : List String} (h : parts ≠ []) :
    parent { root with parts := root.parts ++ parts } = { root with parts := root.parts ++ parts.dropLast } := by
  rw [parent, List.dropLast_append_of_ne_nil h]

/-- What leads on from a path inside of another one is inside of that as well. -/
theorem IsUnder.below?_isSome {p root top : Path} (h : p.IsUnder root) (hroot : (root.below? top).isSome = true) :
    (p.below? top).isSome = true := by
  obtain ⟨parts, -, rfl⟩ := h
  unfold below? at hroot ⊢
  split
  -- everything is below the path of no names, as long as the anchors agree
  · next htop =>
    rw [if_pos htop] at hroot
    split at hroot
    · next hanchor => rw [if_pos hanchor]; rfl
    · nomatch hroot
  · next htop =>
    rw [if_neg htop] at hroot
    split at hroot
    · next hstart =>
      rw [Bool.and_eq_true, List.isPrefixOf_iff_prefix] at hstart
      rw [if_pos]
      · rfl
      · rw [Bool.and_eq_true, List.isPrefixOf_iff_prefix]
        exact ⟨hstart.1, hstart.2.trans (List.prefix_append _ _)⟩
    · nomatch hroot

end Path

open Fault

/-! ## Texts of nodes -/

namespace FileContext

variable (c : FileContext)

/-- A text has no more dots than the file has bytes. -/
theorem decodes_text (t : SyntaxTree) :
    Decodes (c.text t) fun s => s.toList.count '.' ≤ c.source.bytes.size := by
  unfold text Source.text Source.slice
  split
  · next s hs =>
    -- a dot is one byte, so the bytes of the node bound the dots of its text
    have hcount : s.toList.count '.' ≤ (c.source.bytes.extract t.start t.stop).size :=
      Text.count_le_of_ofUtf8? (by decide) hs
    rw [ByteArray.size_extract] at hcount
    exact ends_ok (by omega)
  · exact ends_error rfl

/-- The text of a node, where only bytes that are no text are in the way. -/
theorem reads_text (t : SyntaxTree) : Reads (c.text t) := (c.decodes_text t).reads

/-- The text of a node that may be missing. -/
theorem reads_text? (t : Option SyntaxTree) : Reads (c.text? t) := by
  cases t with
  | none => exact reads_ok none
  | some t => exact reads_map some (c.reads_text t)

theorem reads_texts (ts : List SyntaxTree) : Reads (c.texts ts) := reads_mapM fun t _ => c.reads_text t

/-- The name of a node is the text of one of its fields. -/
theorem reads_nameOf (t : SyntaxTree) : Reads (c.nameOf t) := reads_map _ (c.reads_text? _)

/-- Tokens are looked at one after the other up to the one that is searched or one that ends the search, and each time
    only a text is read. -/
theorem reads_hasToken (token : String) (closing : List String) (ts : List SyntaxTree) :
    Reads (c.hasToken token closing ts) := by
  induction ts with
  | nil => exact reads_ok false
  | cons t rest ih =>
    unfold hasToken
    split
    · -- a named node is no token
      exact ih
    · refine (c.reads_text t).bind fun text _ => ?_
      split
      · exact reads_pure true
      · split
        · exact reads_pure false
        · exact ih

/-- The calls below a node, where the walk itself reads nothing and each entry is a step of its own. -/
theorem reads_calls {entry : SyntaxTree → Except Fault (List Call)} (h : ∀ t, Reads (entry t)) (t : SyntaxTree) :
    Reads (calls entry t) :=
  reads_map List.flatten (reads_mapM fun x _ => h x)

end FileContext

/-! ## What a node declares -/

namespace Declarations

/-- Declarations from inside of a file. -/
structure Inner (d : Declarations) : Prop where
  files : d.files = []
  diagnostics : d.diagnostics = []
  names : d.KeepsNames

/-- Nothing at all is declarations from inside of a file. -/
theorem inner_empty : Inner empty := ⟨rfl, rfl, fun _ h => nomatch h⟩

/-- A function brings no file and no type with it. -/
theorem inner_ofFunction (f : FunctionRecord) : Inner (ofFunction f) := ⟨rfl, rfl, fun _ h => nomatch h⟩

theorem inner_ofAttributes (attributes : List AttributeRecord) : Inner (ofAttributes attributes) :=
  ⟨rfl, rfl, fun _ h => nomatch h⟩

/-- The record of a type keeps its name if its data do not speak of one. -/
theorem inner_ofType {r : TypeRecord} (h : r.form.metadata.get? "qualified_name" = none) (heritage : List Heritage) :
    Inner (ofType r heritage) :=
  ⟨rfl, rfl, fun r' hr' => by rw [List.mem_singleton.1 hr']; exact h⟩

/-- Declarations side by side: all three lists are those of both, one after the other. -/
theorem Inner.append {a b : Declarations} (ha : a.Inner) (hb : b.Inner) : (a ++ b).Inner where
  files := by show a.files ++ b.files = []; rw [ha.files, hb.files]; rfl
  diagnostics := by show a.diagnostics ++ b.diagnostics = []; rw [ha.diagnostics, hb.diagnostics]; rfl
  names r hr := (List.mem_append.1 hr).elim (ha.names r) (hb.names r)

/-- All parts of a file together.  The loop starts with nothing and adds one part after the other, so the statement is
    proved for any declarations to start with. -/
theorem inner_mergeAll {all : List Declarations} (h : ∀ d ∈ all, d.Inner) : (mergeAll all).Inner := by
  have hfrom : ∀ acc : Declarations, acc.Inner → (all.foldl merge acc).Inner := by
    induction all with
    | nil => exact fun acc hacc => hacc
    | cons d rest ih =>
      intro acc hacc
      obtain ⟨hd, hrest⟩ := List.forall_mem_cons.1 h
      exact ih hrest _ (hacc.append hd)
  exact hfrom empty inner_empty

/-- What a whole file declares: one record of the file, whose imports have at most so many dots. -/
structure OneFile (limit : Nat) (d : Declarations) : Prop where
  files : ∃ f, d.files = [f] ∧ ∀ i ∈ f.imports, i.level ≤ limit
  diagnostics : d.diagnostics = []
  names : d.KeepsNames

/-- What a file declares, together with the record of the file. -/
theorem Inner.oneFile {d : Declarations} (h : d.Inner) {limit : Nat} {f : SourceFile}
    (hf : ∀ i ∈ f.imports, i.level ≤ limit) : OneFile limit ({ empty with files := [f] } ++ d) where
  files := ⟨f, by show [f] ++ d.files = [f]; rw [h.files]; rfl, hf⟩
  diagnostics := by show [] ++ d.diagnostics = []; rw [h.diagnostics]; rfl
  names r hr := (List.mem_append.1 hr).elim (fun h => nomatch h) (h.names r)

end Declarations

end CodeAtlas
