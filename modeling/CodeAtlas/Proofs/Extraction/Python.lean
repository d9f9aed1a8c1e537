import CodeAtlas.Extraction.Python
import CodeAtlas.Proofs.Extraction.Reading
/-!
  What becomes of a Python file.

  One lemma for each function of the extraction, in its order.  Where the records matter, they say that a class
  keeps its qualified name, and that an import has no more dots than the file has bytes.

    1. Functions, calls and fields are made of texts of nodes.  Reading them can meet bytes that are no text and
       nothing else (`Reads`), however often a list of assignments is gone through.
    2. A class has one of three forms, and the data of none of them speak of its qualified name (`decodes_formOf`).
    3. Definitions can be nested and decorated to any depth.  The four functions that look for them are proved
       together, by recursion on the syntax tree.
    4. The dots of a relative import are counted in one token after the other.  The loop keeps the bound, because each
       token is a text of its own (`decodes_importModule`).
-/
namespace CodeAtlas.Python

open Fault Declarations

variable (c : FileContext)

/-! ## Functions -/

/-- The text of a documentation string, which may be missing. -/
theorem reads_docOf (t : SyntaxTree) : Reads (docOf c t) := reads_map _ (c.reads_text? _)

/-- The bases of a class as they are written. -/
theorem reads_basesOf (t : SyntaxTree) : Reads (basesOf c t) := c.reads_texts _

/-- Decorators as they are written; the mark in front of them is cut off afterwards. -/
theorem reads_decoratorsOf (t : SyntaxTree) : Reads (decoratorsOf c t) := reads_map _ (c.reads_texts _)

/-- A signature is made of the texts of the nodes in front of the body. -/
theorem reads_signatureOf (t : SyntaxTree) : Reads (signatureOf c t) := reads_map _ (c.reads_texts _)

/-- A call of a plain name or of a member, with its receiver.  What is called by any other expression has no name, and
    nothing of it is read. -/
theorem reads_callEntry (t : SyntaxTree) : Reads (callEntry c t) := by
  unfold callEntry
  split
  · exact reads_pure []
  · split
    · exact reads_pure []
    · next f _ =>
      split
      · exact (c.reads_text f).bind fun name _ => reads_pure _
      · split
        · split
          · exact reads_pure []
          · next member _ =>
            refine (c.reads_text member).bind fun name _ => ?_
            refine (c.reads_text? _).bind fun receiver _ => ?_
            simp only
            split <;> exact reads_pure _
        · exact reads_pure []

/-- The calls in a body; a declaration without one calls nothing. -/
theorem reads_callsIn (body : Option SyntaxTree) : Reads (callsIn c body) := by
  unfold callsIn
  split
  · exact FileContext.reads_calls (reads_callEntry c) _
  · exact reads_ok []

/-- The record of a function, in the order in which its parts are read. -/
theorem reads_functionOf (owner : Option String) (decorators : List String) (t : SyntaxTree) :
    Reads (functionOf c owner decorators t) := by
  refine (c.reads_nameOf t).bind fun name _ => ?_
  refine (c.reads_hasToken _ _ _).bind fun isAsync _ => ?_
  refine (reads_signatureOf c t).bind fun signature _ => ?_
  refine (reads_docOf c t).bind fun doc _ => ?_
  refine (c.reads_text? _).bind fun returnType _ => ?_
  exact (reads_callsIn c _).bind fun calls _ => reads_pure _

/-! ## Fields -/

/-- The type of a field: the one that is stated, or the class that the value is made of. -/
theorem reads_assignedType (t : SyntaxTree) : Reads (assignedType c t) := by
  unfold assignedType
  split
  · exact reads_map _ (c.reads_text _)
  · split
    · split
      · exact reads_map _ (c.reads_text _)
      · exact reads_ok none
    · exact reads_ok none

/-- The record of a field, of which only the type is read off the assignment. -/
theorem reads_attributeOf (owner name : String) (line : Int) (assignment : SyntaxTree) :
    Reads (attributeOf c owner name line assignment) :=
  (reads_assignedType c assignment).bind fun _ _ => reads_pure _

/-- The fields that the body of a class sets. -/
theorem reads_bodyAttributes (owner : String) (t : SyntaxTree) : Reads (bodyAttributes c owner t) := by
  refine reads_mapM fun x _ => ?_
  exact (c.reads_text _).bind fun name _ => reads_attributeOf c owner name _ _

/-- The name of the field that an assignment sets on the object itself, if it sets one. -/
theorem reads_selfName (t : SyntaxTree) : Reads (selfName c t) := by
  unfold selfName
  split
  · exact reads_pure none
  · split
    · exact reads_pure none
    · exact (c.reads_text _).bind fun name _ => reads_pure _

/-- Assignments are gone through with the names that were met before; which ones these are does not matter for the
    reading, so the induction is over all of them. -/
theorem reads_selfAttributes (owner : String) (seen : List String) (ts : List SyntaxTree) :
    Reads (selfAttributes c owner seen ts) := by
  induction ts generalizing seen with
  | nil => exact reads_ok []
  | cons t rest ih =>
    unfold selfAttributes
    refine (reads_selfName c t).bind fun name _ => ?_
    split
    · exact ih seen
    · next name =>
      split
      · exact ih seen
      · refine (reads_attributeOf c owner name _ t).bind fun a _ => ?_
        exact (ih (name :: seen)).bind fun found _ => reads_pure _

/-- The search for the initializer goes by the names of the functions in the body. -/
theorem reads_initializer? (ts : List SyntaxTree) : Reads (initializer? c ts) := by
  induction ts with
  | nil => exact reads_ok none
  | cons t rest ih =>
    unfold initializer?
    split
    · exact ih
    · next f _ =>
      refine (c.reads_nameOf f).bind fun name _ => ?_
      split
      · exact reads_pure _
      · exact ih

/-- The fields that the initializer sets; a class without one has none of them. -/
theorem reads_initializedAttributes (owner : String) (seen : List String) (initializer : Option SyntaxTree) :
    Reads (initializedAttributes c owner seen initializer) := by
  unfold initializedAttributes
  split
  · exact reads_selfAttributes c owner seen _
  · exact reads_ok []

/-- All fields of a class: those of its body, then those of its initializer. -/
theorem reads_attributesOf (owner : String) (t : SyntaxTree) : Reads (attributesOf c owner t) := by
  refine (reads_bodyAttributes c owner t).bind fun own _ => ?_
  refine (reads_initializer? c _).bind fun initializer _ => ?_
  exact (reads_initializedAttributes c owner _ _).bind fun found _ => reads_pure _

/-! ## Classes -/

/-- Whether a class is an enumeration, a protocol or a plain class.  The data of a plain class are about its bases and
    decorators, so in no case do they speak of a qualified name. -/
theorem decodes_formOf (bases decorators : List String) (t : SyntaxTree) :
    Decodes (formOf c bases decorators t) fun form => form.metadata.get? "qualified_name" = none := by
  unfold formOf
  split
  · exact (c.reads_texts _).map fun _ _ => rfl
  · split
    · exact ends_ok rfl
    · refine ends_ok ?_
      show (Metadata.setIf _ _ _ _).get? _ = none
      rw [Metadata.get?_setIf, Metadata.get?_empty]
      simp

/-- The record of a class has the form that was found for it. -/
theorem decodes_classRecord (outer : String) (decorators : List String) (t : SyntaxTree) :
    Decodes (classRecord c outer decorators t) fun r => r.form.metadata.get? "qualified_name" = none := by
  refine (c.reads_nameOf t).bind fun name _ => ?_
  refine (reads_basesOf c t).bind fun bases _ => ?_
  refine (decodes_formOf c bases decorators t).bind fun form hform => ?_
  exact (reads_docOf c t).bind fun doc _ => ends_pure hform

theorem reads_heritageOf (r : TypeRecord) (t : SyntaxTree) : Reads (heritageOf c r t) :=
  reads_map _ (reads_basesOf c t)

-- by recursion on the syntax tree: a definition goes down to its children, a list of members along them
mutual

/-- A node that declares something is a function, a class with all that is inside of it, or a decorated one of these;
    every other node declares nothing. -/
theorem decodes_declared (owner : Option String) (decorators : Option (List String)) :
    ∀ t, Decodes (declared c owner decorators t) Inner
  | .node kind named missing hasError start stop field children => by
    unfold declared
    split
    · exact (reads_functionOf c owner _ _).map fun f _ => inner_ofFunction f
    · split
      · refine (decodes_classRecord c _ _ _).bind fun r hr => ?_
        -- nothing inside of an enumeration is looked at
        split
        · exact ends_pure (inner_ofType hr [])
        · refine (reads_heritageOf c r _).bind fun heritage _ => ?_
          refine (decodes_inBlock r.qualified children).bind fun inner hinner => ?_
          refine (reads_attributesOf c r.qualified _).bind fun attributes _ => ?_
          exact ends_pure (((inner_ofType hr heritage).append hinner).append (inner_ofAttributes attributes))
      · split
        · refine (reads_decoratorsOf c _).bind fun decorators _ => ?_
          exact decodes_definition owner decorators children
        · exact ends_ok inner_empty

/-- What decorators stand before is the first definition behind them. -/
theorem decodes_definition (owner : Option String) (decorators : List String) :
    ∀ ts, Decodes (definition c owner decorators ts) Inner
  | [] => by
    unfold definition
    exact ends_ok inner_empty
  | t :: rest => by
    unfold definition
    split
    · exact decodes_declared owner (some decorators) t
    · exact decodes_definition owner decorators rest

/-- The block of a class is the first child of the right kind. -/
theorem decodes_inBlock (owner : String) : ∀ ts, Decodes (inBlock c owner ts) Inner
  | [] => by
    unfold inBlock
    exact ends_ok inner_empty
  | .node kind named missing hasError start stop field children :: rest => by
    unfold inBlock
    split
    · exact decodes_members owner children
    · exact decodes_inBlock owner rest

/-- The members of a block, one after the other. -/
theorem decodes_members (owner : String) : ∀ ts, Decodes (members c owner ts) Inner
  | [] => by
    unfold members
    exact ends_ok inner_empty
  | t :: rest => by
    unfold members
    refine (decodes_declared (some owner) none t).bind fun here hhere => ?_
    exact (decodes_members owner rest).bind fun others hothers => ends_pure (hhere.append hothers)

end

/-! ## Files -/

/-- An import has no more dots than the file has bytes. -/
theorem decodes_importModule (t : SyntaxTree) :
    Decodes (importModule c t) fun r => r.1 ≤ (c.source.bytes.size : Int) := by
  unfold importModule
  split
  · refine ends_foldlM (fun r : Int × String => r.1 ≤ (c.source.bytes.size : Int)) (by omega) ?_
    rintro ⟨level, module⟩ x _ hlevel
    simp only
    -- the dots of a prefix replace those before them, a name keeps them
    split
    · refine (c.decodes_text x).bind fun dots hcount => ends_pure ?_
      exact Int.ofNat_le.2 hcount
    · split
      · exact (c.reads_text x).bind fun name _ => ends_pure hlevel
      · exact ends_pure hlevel
  · exact (c.reads_text t).map fun _ _ => Int.natCast_nonneg _

/-- The names of an import, as they are written. -/
theorem reads_importedNames (t : SyntaxTree) : Reads (importedNames c t) := c.reads_texts _

/-- One import for each module of a statement.  Only a relative import has dots, and they are counted by
    `decodes_importModule`. -/
theorem decodes_importsOf (t : SyntaxTree) :
    Decodes (importsOf c t) fun is => ∀ i ∈ is, i.level ≤ (c.source.bytes.size : Int) := by
  unfold importsOf
  split
  · refine (reads_importedNames c t).bind fun names _ => ends_pure fun i hi => ?_
    obtain ⟨target, -, rfl⟩ := List.mem_map.1 hi
    exact Int.natCast_nonneg _
  · split
    · exact ends_pure fun i hi => absurd hi List.not_mem_nil
    · next m _ =>
      refine (decodes_importModule c m).bind fun r hr => ?_
      refine (reads_importedNames c t).bind fun names _ => ends_pure fun i hi => ?_
      rw [List.mem_singleton.1 hi]
      exact hr

/-- The exported names of a file, where they are given as a list of texts. -/
theorem reads_exportsOf (a : SyntaxTree) : Reads (exportsOf c a) := by
  unfold exportsOf
  split
  · exact reads_ok []
  · next left _ =>
    refine (c.reads_text left).bind fun text _ => ?_
    split
    · exact reads_pure []
    · split
      · exact reads_pure []
      · exact (c.reads_texts _).bind fun items _ => reads_pure _

/-- Below the source root a file has a module: at least its own name is left of the path. -/
theorem decodes_modulePath {path root : Path} (h : path.IsUnder root) : Reads (modulePath path root) := by
  obtain ⟨parts, hparts, rfl⟩ := h
  unfold modulePath
  rw [Path.below?_append]
  simp only
  rw [List.getLast?_eq_some_getLast hparts]
  exact reads_ok _

/-- **A Python file is taken as a whole or not at all.** -/
theorem decodes_extract (source : Source) {path root : Path} (h : path.IsUnder root) (file : String)
    (tree : SyntaxTree) : Decodes (extract source path root file tree) (OneFile source.bytes.size) := by
  refine (decodes_modulePath h).bind fun module _ => ?_
  simp only
  -- the bound speaks of the bytes of the source, the lemmas of those of the context
  generalize hc : FileContext.mk source file module = c
  have hsource : c.source = source := by rw [← hc]
  have himports : Decodes ((tree.children.filter fun t => importKinds.contains t.kind).mapM (importsOf c))
      fun is => ∀ i ∈ is.flatten, i.level ≤ (source.bytes.size : Int) := by
    refine (ends_mapM (fun is => ∀ i ∈ is, i.level ≤ (source.bytes.size : Int)) fun t _ =>
      hsource ▸ decodes_importsOf c t).mono fun iss hiss i hi => ?_
    obtain ⟨is, his, hi⟩ := List.mem_flatten.1 hi
    exact hiss is his i hi
  refine himports.bind fun imports himports => ?_
  refine (reads_mapM fun a _ => reads_exportsOf c a).bind fun exports _ => ?_
  refine (ends_mapM Inner fun t _ => decodes_declared c none none t).bind fun found hfound => ?_
  exact ends_pure ((inner_mergeAll hfound).oneFile himports)

end CodeAtlas.Python
