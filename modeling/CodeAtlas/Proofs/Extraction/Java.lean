import CodeAtlas.Extraction.Java
import CodeAtlas.Proofs.Extraction.Reading
/-!
  What becomes of a Java file.

  One lemma for each function of the extraction, in its order.  Imports have no dots in front, and the data of a
  class are about its annotations and modifiers only.

    1. The parts of a declaration (modifiers, annotations, comments, names of types, calls) are texts of nodes.  Of
       these it only matters that reading them can meet bytes that are no text and nothing else (`Reads`).
    2. The record of a type is the one part of which something is known (`decodes_typeOf`): its data have no qualified
       name.
    3. Types are nested, and so are the four functions that look for them.  They are proved together, by recursion on
       the syntax tree: a type stands in front of what its body declares, and members are put side by side.
    4. A file has one package, and its module is found because the file lies below its source root.
-/
namespace CodeAtlas.Java

open Fault Declarations

variable (c : FileContext)

/-! ## Parts of a declaration -/

/-- The visibility is one of the words among the modifiers. -/
theorem reads_visibilityOf (t : SyntaxTree) : Reads (visibilityOf c t) := reads_map _ (c.reads_texts _)

/-- Modifiers are read one by one until the one that is searched comes up. -/
theorem reads_hasModifier (modifier : String) (ts : List SyntaxTree) : Reads (hasModifier c modifier ts) := by
  induction ts with
  | nil => exact reads_ok false
  | cons t rest ih =>
    refine (c.reads_text t).bind fun text _ => ?_
    split
    · exact reads_pure true
    · exact ih

/-- Annotations are read as they are written; what is cut off them afterwards needs no text. -/
theorem reads_annotationsOf (t : SyntaxTree) : Reads (annotationsOf c t) := reads_map _ (c.reads_texts _)

/-- The documentation comment among the nodes before a declaration, which may be missing. -/
theorem reads_docOf (before : List SyntaxTree) : Reads (docOf c before) := by
  unfold docOf
  split
  · exact reads_map _ (c.reads_text _)
  · exact reads_ok none

/-- A signature is made of the texts of the nodes in front of the body. -/
theorem reads_signatureOf (t : SyntaxTree) : Reads (signatureOf c t) := reads_map _ (c.reads_texts _)

/-- The name of a type without its arguments; some types have none. -/
theorem reads_typeNameOf (t : SyntaxTree) : Reads (typeNameOf c t) := reads_map _ (c.reads_text? _)

/-- The names of those types that have one. -/
theorem reads_typeNamesOf (ts : List SyntaxTree) : Reads (typeNamesOf c ts) :=
  reads_filterMapM fun t _ => reads_typeNameOf c t

/-- The search for a name ends with the first type that has one. -/
theorem reads_firstTypeName (ts : List SyntaxTree) : Reads (firstTypeName c ts) := by
  induction ts with
  | nil => exact reads_ok none
  | cons t rest ih =>
    refine (reads_typeNameOf c t).bind fun name _ => ?_
    split
    · exact reads_pure _
    · exact ih

/-- The arguments of a type are names of types again. -/
theorem reads_typeArguments (t : SyntaxTree) : Reads (typeArguments c t) := c.reads_texts _

theorem reads_superclassOf (t : SyntaxTree) : Reads (superclassOf c t) := reads_firstTypeName c _

theorem reads_interfacesOf (t : SyntaxTree) : Reads (interfacesOf c t) := reads_typeNamesOf c _

/-- A call of a method, with its receiver if there is one, or the creation of an object.  All other nodes are no calls,
    and nothing of them is read. -/
theorem reads_callEntry (t : SyntaxTree) : Reads (callEntry c t) := by
  unfold callEntry
  split
  -- a call of a method, with what it is called on or without
  · split
    · next name object _ _ =>
      refine (c.reads_text name).bind fun method _ => ?_
      refine (c.reads_text object).bind fun receiver _ => ?_
      simp only
      split <;> exact reads_pure _
    · next name _ _ => exact (c.reads_text name).bind fun method _ => reads_pure _
    · exact reads_pure []
  -- a construction, and nothing else is a call
  · split
    · split
      · exact reads_pure []
      · next type_ _ =>
        refine (reads_typeNameOf c type_).bind fun name _ => ?_
        split <;> exact reads_pure _
    · exact reads_pure []

/-- The calls in a body; a declaration without one calls nothing. -/
theorem reads_callsIn (body : Option SyntaxTree) : Reads (callsIn c body) := by
  unfold callsIn
  split
  · exact FileContext.reads_calls (reads_callEntry c) _
  · exact reads_ok []

/-! ## Records -/

/-- The record of a method, in the order in which its parts are read. -/
theorem reads_methodOf (owner : String) (before : List SyntaxTree) (t : SyntaxTree) :
    Reads (methodOf c owner before t) := by
  refine (c.reads_nameOf t).bind fun name _ => ?_
  refine (reads_hasModifier c _ _).bind fun isStatic _ => ?_
  refine (reads_hasModifier c _ _).bind fun isAbstract _ => ?_
  refine (reads_visibilityOf c t).bind fun visibility _ => ?_
  refine (reads_signatureOf c t).bind fun signature _ => ?_
  refine (reads_docOf c before).bind fun doc _ => ?_
  refine (c.reads_text? _).bind fun returnType _ => ?_
  refine (reads_annotationsOf c t).bind fun annotations _ => ?_
  exact (reads_callsIn c _).bind fun calls _ => reads_pure _

/-- The types in a declared type; a field may have been declared without one. -/
theorem reads_mentionedTypes (t : Option SyntaxTree) : Reads (mentionedTypes c t) := by
  cases t with
  | none => exact reads_ok []
  | some t => exact reads_typeArguments c t

/-- One declaration of fields gives a record for each of its names. -/
theorem reads_fieldsOf (owner : String) (t : SyntaxTree) : Reads (fieldsOf c owner t) := by
  refine (reads_mentionedTypes c _).bind fun types _ => ?_
  refine (reads_visibilityOf c t).bind fun visibility _ => ?_
  exact (reads_mapM fun x _ => c.reads_nameOf x).bind fun names _ => reads_pure _

/-- The constants of an enumeration by their names. -/
theorem reads_constantsOf (t : SyntaxTree) : Reads (constantsOf c t) := reads_mapM fun x _ => c.reads_nameOf x

/-- The record of a type.  Its data are about its modifiers and annotations, or about its constants, so they never
    speak of its qualified name. -/
theorem decodes_typeOf (outer : String) (before : List SyntaxTree) (t : SyntaxTree) :
    Decodes (typeOf c outer before t) fun r => r.1.form.metadata.get? "qualified_name" = none := by
  refine (c.reads_nameOf t).bind fun name _ => ?_
  refine (reads_interfacesOf c t).bind fun interfaces _ => ?_
  refine (reads_visibilityOf c t).bind fun visibility _ => ?_
  refine (reads_docOf c before).bind fun doc _ => ?_
  simp only
  -- a class, an enumeration or an interface; only a class has data that have to be looked at
  split
  · refine (reads_superclassOf c t).bind fun superclass _ => ?_
    refine (reads_annotationsOf c t).bind fun annotations _ => ?_
    refine (reads_hasModifier c _ _).bind fun isAbstract _ => ends_pure ?_
    simp [TypeForm.metadata, Metadata.get?_setIf, Metadata.get?_empty]
  · split
    · exact (reads_constantsOf c t).bind fun constants _ => ends_pure rfl
    · exact ends_pure rfl

-- by recursion on the syntax tree: each of the four functions goes down to the children of a node or along them
mutual

/-- A declared type: its record in front of everything that is declared inside of it. -/
theorem decodes_declared (outer : String) (before : List SyntaxTree) : ∀ t, Decodes (declared c outer before t) Inner
  | .node kind named missing hasError start stop field children => by
    unfold declared
    refine (decodes_typeOf c outer before _).bind ?_
    rintro ⟨r, heritage⟩ hr
    exact (decodes_inBody r.qualified children).bind fun inner hinner =>
      ends_pure ((inner_ofType hr heritage).append hinner)

/-- The body is the first child of the right kind; a type without a body has nothing inside. -/
theorem decodes_inBody (owner : String) : ∀ ts, Decodes (inBody c owner ts) Inner
  | [] => by
    unfold inBody
    exact ends_ok inner_empty
  | .node kind named missing hasError start stop field children :: rest => by
    unfold inBody
    split
    · exact decodes_members owner [] children
    · exact decodes_inBody owner rest

/-- The members of a body, with what stands before each of them, where its comment is looked for. -/
theorem decodes_members (owner : String) (before : List SyntaxTree) : ∀ ts, Decodes (members c owner before ts) Inner
  | [] => by
    unfold members
    exact ends_ok inner_empty
  | t :: rest => by
    unfold members
    refine (decodes_member owner before t).bind fun here hhere => ?_
    exact (decodes_members owner (t :: before) rest).bind fun others hothers => ends_pure (hhere.append hothers)

/-- A member is a method, a declaration of fields, a nested type, or the further declarations of an enumeration, which
    are members again; every other node declares nothing. -/
theorem decodes_member (owner : String) (before : List SyntaxTree) : ∀ t, Decodes (member c owner before t) Inner
  | .node kind named missing hasError start stop field children => by
    unfold member
    split
    · exact (reads_methodOf c owner before _).map fun f _ => inner_ofFunction f
    · split
      · exact (reads_fieldsOf c owner _).map fun attributes _ => inner_ofAttributes attributes
      · split
        · -- a nested type, as at the top of a file
          refine (decodes_typeOf c owner before _).bind ?_
          rintro ⟨r, heritage⟩ hr
          exact (decodes_inBody r.qualified children).bind fun inner hinner =>
            ends_pure ((inner_ofType hr heritage).append hinner)
        · split
          · exact decodes_members owner [] children
          · exact ends_ok inner_empty

end

/-! ## Files -/

/-- The package of a file; without one it is the unnamed package. -/
theorem reads_packageOf (t : SyntaxTree) : Reads (packageOf c t) := by
  unfold packageOf
  simp only
  split
  · exact c.reads_text _
  · exact reads_ok ""

/-- Below the source root a file has a module, whether a package is declared in it or not. -/
theorem reads_modulePath {path root : Path} (h : path.IsUnder root) (package : String) :
    Reads (modulePath path root package) := by
  obtain ⟨parts, -, rfl⟩ := h
  unfold modulePath
  rw [Path.below?_append]
  split <;> exact reads_ok _

/-- An import has no dots in front: what is imported is a whole name, and for a static member it is that of the type
    around it. -/
theorem decodes_importOf (t : SyntaxTree) : Decodes (importOf c t) fun i => ∀ x ∈ i, x.level = 0 := by
  refine (c.reads_text t).bind fun text _ => ?_
  simp only
  split
  · exact ends_pure fun x hx => nomatch hx
  · refine (c.reads_text _).bind fun path _ => ends_pure fun x hx => ?_
    cases hx
    rfl

/-- A node at the top of a file declares a type or nothing. -/
theorem decodes_declaredAtTop (before : List SyntaxTree) (t : SyntaxTree) :
    Decodes (declaredAtTop c before t) Inner := by
  unfold declaredAtTop
  split
  · exact decodes_declared c _ before t
  · exact ends_ok inner_empty

/-- The nodes at the top, one after the other, each with those before it. -/
theorem decodes_topLevel (before : List SyntaxTree) (ts : List SyntaxTree) : Decodes (topLevel c before ts) Inner := by
  induction ts generalizing before with
  | nil => exact ends_ok inner_empty
  | cons t rest ih =>
    refine (decodes_declaredAtTop c before t).bind fun here hhere => ?_
    exact (ih (t :: before)).bind fun others hothers => ends_pure (hhere.append hothers)

/-- **A Java file is taken as a whole or not at all.** -/
theorem decodes_extract (source : Source) {path root : Path} (h : path.IsUnder root) (file : String)
    (tree : SyntaxTree) : Decodes (extract source path root file tree) (OneFile 0) := by
  refine (reads_packageOf _ tree).bind fun package _ => ?_
  refine (reads_modulePath h package).bind fun module _ => ?_
  simp only
  refine (ends_filterMapM (fun i : Import => i.level = 0) fun t _ => decodes_importOf _ t).bind fun imports himports => ?_
  refine (decodes_topLevel _ [] tree.children).bind fun found hfound => ?_
  exact ends_pure (hfound.oneFile fun i hi => Int.le_of_eq (himports i hi))

end CodeAtlas.Java
