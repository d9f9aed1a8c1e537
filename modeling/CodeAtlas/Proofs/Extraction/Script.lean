import CodeAtlas.Extraction.Script
import CodeAtlas.Proofs.Extraction.Reading
/-!
  What becomes of a TypeScript or a JavaScript file.

  One lemma for each function of the extraction, in its order.  Statements add declarations, imports and exports;
  the imports have no dots in front, because relative specifiers are resolved at once.

    1. Module names need paths.  A file below its source root has a module, and so has whatever a specifier names from
       there (`reads_modulePath`, `reads_resolveSpecifier`).
    2. The parts of a declaration are texts of nodes.  Of these it only matters that reading them can meet bytes that
       are no text and nothing else (`Reads`).
    3. Classes and interfaces do not nest here: their members are functions and fields, and what is inside of a method
       is not looked at.  So there is no recursion but that of an export, whose declaration is a smaller tree
       (`decodes_topLevel`).
    4. What the statements of a file add is put together by `Found.both`, and the modules that are required anywhere in
       the file come behind the imports.
-/
namespace CodeAtlas.Script

open Fault Declarations

variable (c : FileContext)

/-! ## Modules -/

/-- Below the source root a file has a module. -/
theorem reads_modulePath {path root : Path} (h : path.IsUnder root) : Reads (modulePath path root) := by
  obtain ⟨parts, -, rfl⟩ := h
  unfold modulePath
  rw [Path.below?_append]
  exact reads_ok _

/-- The module that an import names is found as well: the directory of the file is below the source root like the
    file. -/
theorem reads_resolveSpecifier {path root : Path} (h : path.IsUnder root) (specifier : String) :
    Reads (resolveSpecifier specifier path root) := by
  obtain ⟨parts, hparts, rfl⟩ := h
  unfold resolveSpecifier
  rw [Path.parent_append root hparts, Path.below?_append]
  split
  · exact reads_ok _
  · simp only
    split
    · exact reads_ok _
    · split <;> exact reads_ok _

/-! ## Parts of a declaration -/

/-- The name of a declaration is one of its fields, or else its first identifier; where there is neither, nothing is
    read. -/
theorem reads_nameOf (t : SyntaxTree) : Reads (nameOf c t) := by
  unfold nameOf
  split
  · exact c.reads_text _
  · split
    · exact c.reads_text _
    · exact reads_ok _

/-- The visibility of a member is an accessibility modifier or comes from its name. -/
theorem reads_visibilityOf (s : Site) : Reads (visibilityOf c s) := by
  unfold visibilityOf
  simp only
  split
  · exact reads_pure _
  · split
    · exact (c.reads_text _).bind fun word _ => reads_pure _
    · split
      · exact (reads_nameOf c s.tree).bind fun name _ => reads_pure _
      · exact reads_pure _

/-- The comment before a statement, which may be missing. -/
theorem reads_docOf (s : Site) : Reads (docOf c s) := by
  unfold docOf
  simp only
  split
  · exact reads_map _ (c.reads_text _)
  · exact reads_ok none

/-- Decorators stand inside of a declaration or before it. -/
theorem reads_decoratorsOf (s : Site) : Reads (decoratorsOf c s) := by
  refine (c.reads_texts _).bind fun own _ => ?_
  exact (c.reads_texts _).bind fun earlier _ => reads_pure _

mutual

/-- The name of a type without its arguments; of a generic or nested type it is a part that has one. -/
theorem reads_typeName : ∀ t, Reads (typeName c t)
  | .node kind named missing hasError start stop field children => by
    unfold typeName
    split
    · exact reads_map _ (c.reads_text _)
    · split
      · exact reads_firstTypeName children
      · exact reads_ok none

theorem reads_firstTypeName : ∀ ts, Reads (firstTypeName c ts)
  | [] => by
    unfold firstTypeName
    exact reads_ok none
  | t :: rest => by
    unfold firstTypeName
    refine (reads_typeName t).bind fun name _ => ?_
    split
    · exact reads_pure _
    · exact reads_firstTypeName rest

end

/-- The names of those types in a clause that have one. -/
theorem reads_typesIn (clauses : List SyntaxTree) : Reads (typesIn c clauses) :=
  reads_filterMapM fun t _ => reads_typeName c t

/-- What a type extends, and what it implements. -/
theorem reads_heritageOf (t : SyntaxTree) : Reads (heritageOf c t) := by
  refine (reads_typesIn c _).bind fun extended _ => ?_
  exact (reads_typesIn c _).bind fun implemented _ => reads_pure _

/-- A signature is made of the texts of the nodes in front of the body. -/
theorem reads_signatureOf (t : SyntaxTree) : Reads (signatureOf c t) := reads_map _ (c.reads_texts _)

/-- A declared type as it is written, without the colon. -/
theorem reads_declaredTypeOf (t : SyntaxTree) : Reads (declaredTypeOf c t) := reads_map _ (c.reads_text t)

/-- The same where the type may be left out. -/
theorem reads_declaredType? (t : Option SyntaxTree) : Reads (declaredType? c t) := by
  cases t with
  | none => exact reads_ok none
  | some t => exact reads_declaredTypeOf c t

/-- A call of a plain name or of a property, with its receiver, or the creation of an object.  What is called by any
    other expression has no name. -/
theorem reads_callEntry (t : SyntaxTree) : Reads (callEntry c t) := by
  unfold callEntry
  split
  · split
    · exact reads_pure []
    · next f _ =>
      split
      · exact (c.reads_text f).bind fun name _ => reads_pure _
      · split
        · split
          · next property object _ _ =>
            refine (c.reads_text property).bind fun method _ => ?_
            refine (c.reads_text object).bind fun receiver _ => ?_
            simp only
            split <;> exact reads_pure _
          · next property _ _ => exact (c.reads_text property).bind fun method _ => reads_pure _
          · exact reads_pure []
        · exact reads_pure []
  · split
    · split
      · exact (c.reads_text _).bind fun name _ => reads_pure _
      · exact reads_pure []
    · exact reads_pure []

/-- The calls in a body; a declaration without one calls nothing. -/
theorem reads_callsIn (body : Option Site) : Reads (callsIn c body) := by
  unfold callsIn
  split
  · exact FileContext.reads_calls (reads_callEntry c) _
  · exact reads_ok []

/-! ## Records -/

/-- The record of a function has the name that it was given, behind that of the scope. -/
theorem decodes_functionOf (name scope : String) (owner : Option String) (s statement : Site) :
    Decodes (functionOf c name scope owner s statement) fun f => f.name = name ∧ f.qualified = scope ++ "." ++ name := by
  refine (c.reads_hasToken _ _ _).bind fun isStatic _ => ?_
  refine (reads_visibilityOf c statement).bind fun visibility _ => ?_
  refine (c.reads_hasToken _ _ _).bind fun isAsync _ => ?_
  refine (reads_signatureOf c _).bind fun signature _ => ?_
  refine (reads_docOf c statement).bind fun doc _ => ?_
  refine (reads_declaredType? c _).bind fun returnType _ => ?_
  refine (reads_decoratorsOf c s).bind fun decorators _ => ?_
  exact (reads_callsIn c _).bind fun calls _ => ends_pure ⟨rfl, rfl⟩

/-- The same without what is known of the record. -/
theorem reads_functionOf (name scope : String) (owner : Option String) (s statement : Site) :
    Reads (functionOf c name scope owner s statement) :=
  (decodes_functionOf c name scope owner s statement).reads

/-- A method is a function with a type for its scope. -/
theorem reads_methodOf (owner : String) (s : Site) : Reads (methodOf c owner s) :=
  (reads_nameOf c s.tree).bind fun _ _ => reads_functionOf c _ _ _ _ _

/-- The type of a field: the one that is declared, or the class that its value is made of. -/
theorem reads_fieldType (t : SyntaxTree) : Reads (fieldType c t) := by
  unfold fieldType
  split
  · exact reads_declaredTypeOf c _
  · exact c.reads_text? _

/-- The record of a field; one without a plain name has none. -/
theorem reads_fieldOf (owner : String) (t : SyntaxTree) : Reads (fieldOf c owner t) := by
  unfold fieldOf
  split
  · exact reads_pure none
  · refine (reads_fieldType c t).bind fun declaredType _ => ?_
    refine (c.reads_texts _).bind fun access _ => ?_
    exact (c.reads_text _).bind fun name _ => reads_pure _

/-- A parameter of a constructor is a field if a modifier says so. -/
theorem reads_parameterField (owner : String) (t : SyntaxTree) : Reads (parameterField c owner t) := by
  refine (c.reads_texts _).bind fun modifiers _ => ?_
  split
  · refine (c.reads_text _).bind fun name _ => ?_
    exact (reads_declaredType? c _).bind fun declaredType _ => reads_pure _
  · exact reads_pure none

/-- Only the constructor has parameters that are fields. -/
theorem reads_methodFields (owner name : String) (t : SyntaxTree) : Reads (methodFields c owner name t) := by
  unfold methodFields
  split
  · exact reads_filterMapM fun x _ => reads_parameterField c owner x
  · exact reads_ok []

/-- The members of an enumeration as they are written. -/
theorem reads_membersOf (s : Site) : Reads (membersOf c s) := c.reads_texts _

/-- The record of a type has the form that it was given. -/
theorem decodes_typeOf (s : Site) (form : TypeForm) : Decodes (typeOf c s form) fun r => r.form = form := by
  refine (reads_nameOf c s.tree).bind fun name _ => ?_
  refine (reads_visibilityOf c s).bind fun visibility _ => ?_
  exact (reads_docOf c s).bind fun doc _ => ends_pure rfl

/-- A method of a class, and behind it the fields among its parameters. -/
theorem decodes_classMember (owner : String) (s : Site) : Decodes (classMember c owner s) Inner := by
  refine (reads_methodOf c owner s).bind fun f _ => ?_
  refine (reads_methodFields c owner f.name s.tree).bind fun fields _ => ?_
  exact ends_pure ((inner_ofFunction f).append (inner_ofAttributes fields))

/-- The record of a class, then its fields, then its methods. -/
theorem decodes_classOf (s : Site) : Decodes (classOf c s) Inner := by
  refine (reads_heritageOf c s.tree).bind ?_
  rintro ⟨extended, implemented⟩ -
  refine (reads_decoratorsOf c s).bind fun decorators _ => ?_
  refine (decodes_typeOf c s _).bind fun r hr => ?_
  have hname : r.form.metadata.get? "qualified_name" = none := by
    rw [hr]
    simp [TypeForm.metadata, Metadata.get?_setIf, Metadata.get?_empty]
  -- fields are taken out of the body by their kinds, so each node of it is asked
  have hfield : ∀ x : Site,
      Reads (if fieldKinds.contains x.tree.kind then fieldOf c r.qualified x.tree else pure none) := by
    intro x
    split
    · exact reads_fieldOf c r.qualified x.tree
    · exact reads_pure none
  refine (reads_filterMapM fun x _ => hfield x).bind fun fields _ => ?_
  refine (ends_mapM Inner fun x _ => decodes_classMember c r.qualified x).bind fun methods hmethods => ?_
  exact ends_pure (((inner_ofType hname _).append (inner_ofAttributes fields)).append (inner_mergeAll hmethods))

/-- A member of an interface is a method, or a field, or nothing that is recorded. -/
theorem decodes_interfaceMember (owner : String) (s : Site) : Decodes (interfaceMember c owner s) Inner := by
  unfold interfaceMember
  split
  · exact (reads_methodOf c owner s).bind fun f _ => ends_pure (inner_ofFunction f)
  · split
    · split
      · exact ends_pure inner_empty
      · refine (reads_declaredType? c _).bind fun declaredType _ => ?_
        exact (c.reads_text _).bind fun name _ => ends_pure (inner_ofAttributes _)
    · exact ends_pure inner_empty

/-- The record of an interface, then its members. -/
theorem decodes_interfaceOf (s : Site) : Decodes (interfaceOf c s) Inner := by
  refine (reads_heritageOf c s.tree).bind ?_
  rintro ⟨extended, implemented⟩ -
  refine (decodes_typeOf c s _).bind fun r hr => ?_
  have hname : r.form.metadata.get? "qualified_name" = none := by rw [hr]; rfl
  refine (ends_mapM Inner fun x _ => decodes_interfaceMember c r.qualified x).bind fun members hmembers => ?_
  exact ends_pure ((inner_ofType hname _).append (inner_mergeAll hmembers))

/-! ## Statements -/

/-- What a statement adds comes from inside of a file, and its imports have no dots in front. -/
structure Found.Inner (f : Found) : Prop where
  declared : f.declared.Inner
  imports : ∀ i ∈ f.imports, i.level = 0

/-- A statement that is not looked at adds nothing. -/
theorem Found.inner_empty : Found.empty.Inner := ⟨Declarations.inner_empty, fun _ h => nomatch h⟩

theorem Found.Inner.both {a b : Found} (ha : a.Inner) (hb : b.Inner) : (a.both b).Inner where
  declared := ha.declared.append hb.declared
  imports i hi := (List.mem_append.1 hi).elim (ha.imports i) (hb.imports i)

/-- What all statements of a file add.  As in `inner_mergeAll`, the loop is taken from any start. -/
theorem Found.inner_foldl {found : List Found} (h : ∀ f ∈ found, f.Inner) : (found.foldl both empty).Inner := by
  have hfrom : ∀ acc : Found, acc.Inner → (found.foldl both acc).Inner := by
    induction found with
    | nil => exact fun acc hacc => hacc
    | cons f rest ih =>
      intro acc hacc
      obtain ⟨hf, hrest⟩ := List.forall_mem_cons.1 h
      exact ih hrest _ (hacc.both hf)
  exact hfrom empty inner_empty

/-- A declaration adds no imports; whether it is exported matters for the exports only. -/
theorem inner_declared (exported : Bool) (name : String) {d : Declarations} (h : d.Inner) :
    (declared exported name d).Inner :=
  ⟨h, fun _ hi => nomatch hi⟩

/-- A variable declares something only if its value is a function. -/
theorem decodes_variableOf (exported : Bool) (statement s : Site) :
    Decodes (variableOf c exported statement s) Found.Inner := by
  unfold variableOf
  split
  · exact ends_pure Found.inner_empty
  · refine (c.reads_text _).bind fun name _ => ?_
    split
    · exact ends_pure (inner_declared exported name inner_empty)
    · refine (reads_functionOf c _ _ _ _ _).bind fun f _ => ?_
      exact ends_pure (inner_declared exported name (inner_ofFunction f))

/-- The names in the braces of an export. -/
theorem reads_clauseExports (t : SyntaxTree) : Reads (clauseExports c t) := c.reads_texts _

/-- An export is taken with what it exports, which is a smaller tree. -/
theorem decodes_topLevel (exported : Bool) (s : Site) : Decodes (topLevel c exported s) Found.Inner := by
  unfold topLevel
  simp only
  -- in the order of the kinds: a function, a class, an interface, an enumeration, variables, an export, anything else
  split
  · refine (reads_nameOf c s.tree).bind fun name _ => ?_
    refine (reads_functionOf c _ _ _ _ _).bind fun f _ => ?_
    exact ends_pure (inner_declared exported name (inner_ofFunction f))
  · split
    · refine (reads_nameOf c s.tree).bind fun name _ => ?_
      exact (decodes_classOf c s).bind fun d hd => ends_pure (inner_declared exported name hd)
    · split
      · refine (reads_nameOf c s.tree).bind fun name _ => ?_
        exact (decodes_interfaceOf c s).bind fun d hd => ends_pure (inner_declared exported name hd)
      · split
        · refine (reads_membersOf c s).bind fun members _ => ?_
          refine (decodes_typeOf c s _).bind fun r hr => ?_
          have hname : r.form.metadata.get? "qualified_name" = none := by rw [hr]; rfl
          exact ends_pure (inner_declared exported r.name (inner_ofType hname []))
        · split
          · refine (ends_mapM Found.Inner fun x _ => decodes_variableOf c exported s x).bind fun found hfound => ?_
            exact ends_pure (Found.inner_foldl hfound)
          · split
            · have hexports : ∀ inner : Found, inner.Inner →
                  Decodes (clauseExports c s.tree >>= fun more => pure { inner with exports := inner.exports ++ more })
                    Found.Inner := fun inner hinner =>
                (reads_clauseExports c s.tree).bind fun more _ => ends_pure ⟨hinner.declared, hinner.imports⟩
              split
              · next d hd => exact (decodes_topLevel true d).bind hexports
              · exact hexports _ Found.inner_empty
            · exact ends_pure Found.inner_empty
termination_by s.tree.size
decreasing_by exact Site.size_lt_of_mem_children (exportedDeclaration?_mem ‹_›)

/-! ## Imports -/

/-- The names in the braces of an import. -/
theorem reads_listedNames (t : SyntaxTree) : Reads (listedNames c t) := c.reads_texts _

/-- All names of an import; a star stands for all of them. -/
theorem reads_importedNames (t : SyntaxTree) : Reads (importedNames c t) := by
  refine (reads_listedNames c t).bind fun listed _ => ?_
  split
  · exact (c.reads_hasToken _ _ _).bind fun all _ => reads_pure _
  · exact reads_pure _

/-- An import has no dots in front: its specifier was resolved at once. -/
theorem decodes_importOf {path root : Path} (h : path.IsUnder root) (t : SyntaxTree) :
    Decodes (importOf c path root t) fun is => ∀ i ∈ is, i.level = 0 := by
  unfold importOf
  split
  · exact ends_pure fun i hi => nomatch hi
  · refine (c.reads_text _).bind fun literal _ => ?_
    refine (reads_importedNames c t).bind fun names _ => ?_
    refine (reads_resolveSpecifier h _).bind fun target _ => ends_pure fun i hi => ?_
    rw [List.mem_singleton.1 hi]

/-- The literal that a call of `require` is given; every other call has none. -/
theorem reads_requiredLiteral (t : SyntaxTree) : Reads (requiredLiteral c t) := by
  unfold requiredLiteral
  split
  · exact reads_pure none
  · split
    · next f arguments _ _ =>
      refine (c.reads_text f).bind fun name _ => ?_
      split
      · exact reads_pure none
      · split <;> exact reads_pure _
    · next f _ _ => exact (c.reads_text f).bind fun name _ => reads_pure none
    · exact reads_pure none

/-- And a required module has no dots in front either. -/
theorem decodes_requiredBy {path root : Path} (h : path.IsUnder root) (t : SyntaxTree) :
    Decodes (requiredBy c path root t) fun is => ∀ i ∈ is, i.level = 0 := by
  refine (reads_requiredLiteral c t).bind fun literal _ => ?_
  split
  · exact ends_pure fun i hi => nomatch hi
  · refine (c.reads_text _).bind fun text _ => ?_
    refine (reads_resolveSpecifier h _).bind fun target _ => ends_pure fun i hi => ?_
    rw [List.mem_singleton.1 hi]

/-- Nor has any of those that are required somewhere in a file. -/
theorem decodes_requires {path root : Path} (h : path.IsUnder root) (tree : SyntaxTree) :
    Decodes (requires c path root tree) fun is => ∀ i ∈ is, i.level = 0 := by
  refine (ends_mapM (fun is : List Import => ∀ i ∈ is, i.level = 0) fun t _ => decodes_requiredBy c h t).map
    fun found hfound i hi => ?_
  obtain ⟨is, his, hi⟩ := List.mem_flatten.1 hi
  exact hfound is his i hi

/-! ## Files -/

/-- A statement at the top is an import, or whatever `topLevel` says. -/
theorem decodes_statement {path root : Path} (h : path.IsUnder root) (s : Site) :
    Decodes (statement c path root s) Found.Inner := by
  unfold statement
  split
  · exact (decodes_importOf c h s.tree).map fun imports himports => ⟨inner_empty, himports⟩
  · exact decodes_topLevel c false s

/-- **A script is taken as a whole or not at all.** -/
theorem decodes_extract (language : Language) (source : Source) {path root : Path} (h : path.IsUnder root)
    (file : String) (tree : SyntaxTree) : Decodes (extract language source path root file tree) (OneFile 0) := by
  refine (reads_modulePath h).bind fun module _ => ?_
  refine (ends_mapM Found.Inner fun s _ => decodes_statement _ h s).bind fun found hfound => ?_
  have hall := Found.inner_foldl hfound
  refine (decodes_requires _ h tree).bind fun required hrequired => ?_
  refine ends_pure (hall.declared.oneFile fun i hi => Int.le_of_eq ?_)
  rcases List.mem_append.1 hi with hi | hi
  · exact hall.imports i hi
  · exact hrequired i hi

end CodeAtlas.Script
