import CodeAtlas.Extraction
import CodeAtlas.Proofs.Extraction.Reading
import CodeAtlas.Proofs.Resolution.Order
/-!
  The records of a file fit together.

  Methods, fields and clauses name the type that they belong to, and a nested type is named after the one around it.
  The records are made in different places: a walk hands the name of a type down to its members, and the record of
  the type itself goes another way.  `Scoped` is what one part of a walk gives: whatever its records refer to is a
  type among them, or the type around the whole part.  Parts are put side by side (`Scoped.append`), or below the
  record of the type that was around them (`Scoped.nested`); nothing is around a file, so all references of a file
  lead to types of the file.

  The three walks are then gone through function by function.  Here it does not matter which texts can be read, so all
  statements are about the result alone (`Gives`).

    * In Python and in scripts every file is a module, and a name at the top is put behind that of the module.
    * In Java a file may be in the unnamed package.  Then names at the top stand alone, and the empty name means both
      "no package" and "no type around": `houter` carries through the walk that an outer name is empty only where the
      package is.
-/
namespace CodeAtlas

open Fault

/-! ## Where records stand -/

variable {file module : String} {top : String → String} {known known' : String → Prop}

/-- A function of a file stands in its owner, or else in the module. -/
structure FunctionRecord.Placed (file module : String) (known : String → Prop) (f : FunctionRecord) : Prop where
  file : f.file = file
  method : f.isMethod = f.owner.isSome
  qualified : f.qualified = f.owner.getD module ++ "." ++ f.name
  owner : ∀ o ∈ f.owner, known o

/-- A type of a file stands at the top, or in another type.  `top` gives the qualified names at the top, where a
    module without a name is left out in some languages. -/
structure TypeRecord.Placed (file : String) (top : String → String) (known : String → Prop) (r : TypeRecord) :
    Prop where
  file : r.file = file
  kind : r.form.kind ∈ SymbolTable.typeKinds
  qualified : r.qualified = top r.name ∨ ∃ outer, known outer ∧ r.qualified = outer ++ "." ++ r.name

/-- A field of a file belongs to a type. -/
structure AttributeRecord.Placed (file : String) (known : String → Prop) (a : AttributeRecord) : Prop where
  file : a.file = file
  owner : known a.owner

/-- A clause of a file belongs to a type. -/
structure Heritage.Placed (file : String) (known : String → Prop) (h : Heritage) : Prop where
  file : h.file = file
  kind : h.kind = "extends" ∨ h.kind = "implements"
  source : known h.source

/-- A function stays in its place where more types are known. -/
theorem FunctionRecord.Placed.mono {f : FunctionRecord} (h : f.Placed file module known)
    (himp : ∀ name, known name → known' name) : f.Placed file module known' :=
  ⟨h.file, h.method, h.qualified, fun o ho => himp o (h.owner o ho)⟩

theorem TypeRecord.Placed.mono {r : TypeRecord} (h : r.Placed file top known)
    (himp : ∀ name, known name → known' name) : r.Placed file top known' :=
  ⟨h.file, h.kind, h.qualified.imp_right fun ⟨outer, houter, heq⟩ => ⟨outer, himp outer houter, heq⟩⟩

theorem AttributeRecord.Placed.mono {a : AttributeRecord} (h : a.Placed file known)
    (himp : ∀ name, known name → known' name) : a.Placed file known' :=
  ⟨h.file, himp _ h.owner⟩

theorem Heritage.Placed.mono {h : Heritage} (hh : h.Placed file known) (himp : ∀ name, known name → known' name) :
    h.Placed file known' :=
  ⟨hh.file, hh.kind, himp _ hh.source⟩

/-- All clauses of a type belong to it. -/
theorem Heritage.placed_clauses {r : TypeRecord} (hr : r.file = file) {kind : String}
    (hkind : kind = "extends" ∨ kind = "implements") (targets : List String) :
    ∀ h ∈ Heritage.clauses r kind targets, h.Placed file fun name => name = r.qualified := by
  intro h hh
  obtain ⟨target, -, rfl⟩ := List.mem_map.1 hh
  exact ⟨hr, hkind, rfl⟩

/-- Fields of one type. -/
def OwnedBy (file owner : String) (attributes : List AttributeRecord) : Prop :=
  ∀ a ∈ attributes, a.Placed file fun name => name = owner

/-- No fields at all belong to any type. -/
theorem ownedBy_nil (file owner : String) : OwnedBy file owner [] := fun _ h => nomatch h

/-- Fields that come from two places of one type. -/
theorem OwnedBy.append {owner : String} {as bs : List AttributeRecord} (ha : OwnedBy file owner as)
    (hb : OwnedBy file owner bs) : OwnedBy file owner (as ++ bs) :=
  fun a h => (List.mem_append.1 h).elim (ha a) (hb a)

/-- The qualified name of a declaration at the top of a file, in a language where every file is a module. -/
def FileContext.inModule (c : FileContext) (name : String) : String := c.modulePath ++ "." ++ name

namespace Declarations

variable {outer : Option String} {a b d : Declarations}

/-- The names of the types that are there, and that of the type around them. -/
def Knows (outer : Option String) (d : Declarations) (name : String) : Prop :=
  outer = some name ∨ ∃ r ∈ d.types, r.qualified = name

/-- A part of a file: every reference leads to a type of this part, or to the one around it. -/
structure Scoped (file module : String) (top : String → String) (outer : Option String) (d : Declarations) : Prop where
  functions : ∀ f ∈ d.functions, f.Placed file module (d.Knows outer)
  types : ∀ r ∈ d.types, r.Placed file top (d.Knows outer)
  attributes : ∀ a ∈ d.attributes, a.Placed file (d.Knows outer)
  heritage : ∀ h ∈ d.heritage, h.Placed file (d.Knows outer)

/-- A part with more types knows more names. -/
theorem Knows.of_subset {name : String} (h : a.Knows outer name) (hsub : ∀ r ∈ a.types, r ∈ b.types) :
    b.Knows outer name :=
  h.imp_right fun ⟨r, hr, heq⟩ => ⟨r, hsub r hr, heq⟩

theorem scoped_empty : Scoped file module top outer empty :=
  ⟨(fun _ h => nomatch h), (fun _ h => nomatch h), (fun _ h => nomatch h), fun _ h => nomatch h⟩

/-- A function alone can only belong to the type around the part. -/
theorem scoped_ofFunction {f : FunctionRecord} (hf : f.Placed file module fun name => outer = some name) :
    Scoped file module top outer (ofFunction f) :=
  ⟨fun f' hf' => by rw [List.mem_singleton.1 hf']; exact hf.mono fun _ => .inl,
    (fun _ h => nomatch h), (fun _ h => nomatch h), fun _ h => nomatch h⟩

theorem scoped_ofAttributes {owner : String} {attributes : List AttributeRecord} (h : OwnedBy file owner attributes) :
    Scoped file module top (some owner) (ofAttributes attributes) :=
  ⟨(fun _ h => nomatch h), (fun _ h => nomatch h), fun a ha => (h a ha).mono fun _ heq => .inl (congrArg some heq.symm),
    fun _ h => nomatch h⟩

/-- Parts that stand side by side. -/
theorem Scoped.append (ha : Scoped file module top outer a) (hb : Scoped file module top outer b) :
    Scoped file module top outer (a ++ b) := by
  have hleft (name : String) (h : a.Knows outer name) : (a ++ b).Knows outer name :=
    h.of_subset fun r => List.mem_append_left _
  have hright (name : String) (h : b.Knows outer name) : (a ++ b).Knows outer name :=
    h.of_subset fun r => List.mem_append_right _
  refine ⟨fun f hf => ?_, fun r hr => ?_, fun x hx => ?_, fun h hh => ?_⟩
  · exact (List.mem_append.1 hf).elim (fun h => (ha.functions f h).mono hleft) fun h => (hb.functions f h).mono hright
  · exact (List.mem_append.1 hr).elim (fun h => (ha.types r h).mono hleft) fun h => (hb.types r h).mono hright
  · exact (List.mem_append.1 hx).elim (fun h => (ha.attributes x h).mono hleft) fun h => (hb.attributes x h).mono hright
  · exact (List.mem_append.1 hh).elim (fun h' => (ha.heritage h h').mono hleft) fun h' => (hb.heritage h h').mono hright

/-- Parts are put side by side list by list, so the order of doing so does not matter. -/
theorem append_assoc (a b d : Declarations) : a ++ b ++ d = a ++ (b ++ d) := by
  show merge (merge a b) d = merge a (merge b d)
  simp only [merge, List.append_assoc]

/-- Any number of parts side by side.  The loop adds one after the other, so it is taken from any start that fits. -/
theorem scoped_mergeAll {ds : List Declarations} (h : ∀ d ∈ ds, Scoped file module top outer d) :
    Scoped file module top outer (mergeAll ds) := by
  have hfrom : ∀ acc : Declarations, Scoped file module top outer acc →
      Scoped file module top outer (ds.foldl merge acc) := by
    induction ds with
    | nil => exact fun acc hacc => hacc
    | cons d rest ih =>
      intro acc hacc
      obtain ⟨hd, hrest⟩ := List.forall_mem_cons.1 h
      exact ih hrest _ (hacc.append hd)
  exact hfrom empty scoped_empty

/-- A part below the record of the type around it.  The record may be nested itself, and the type around the part is
    now a type of the part. -/
theorem Scoped.nested {r : TypeRecord} {heritage : List Heritage} (hr : r.Placed file top fun name => outer = some name)
    (hheritage : ∀ h ∈ heritage, h.Placed file fun name => name = r.qualified)
    (hd : Scoped file module top (some r.qualified) d) : Scoped file module top outer (ofType r heritage ++ d) := by
  have hself : (ofType r heritage ++ d).Knows outer r.qualified := .inr ⟨r, List.mem_cons_self, rfl⟩
  have hinner : ∀ name, d.Knows (some r.qualified) name → (ofType r heritage ++ d).Knows outer name := by
    rintro name (heq | ⟨r', hr', heq⟩)
    · cases heq; exact hself
    · exact .inr ⟨r', List.mem_cons_of_mem r hr', heq⟩
  -- the record in front is known by what was around it, everything else by what the part knows
  refine ⟨fun f hf => (hd.functions f hf).mono hinner, fun r' hr' => ?_, fun x hx => (hd.attributes x hx).mono hinner,
    fun h hh => ?_⟩
  · rcases List.mem_cons.1 hr' with rfl | hr'
    · exact hr.mono fun _ => .inl
    · exact (hd.types r' hr').mono hinner
  · rcases List.mem_append.1 hh with hh | hh
    · exact (hheritage h hh).mono fun name hname => hname ▸ hself
    · exact (hd.heritage h hh).mono hinner

/-- A type with nothing inside. -/
theorem scoped_ofType {r : TypeRecord} {heritage : List Heritage} (hr : r.Placed file top fun name => outer = some name)
    (hheritage : ∀ h ∈ heritage, h.Placed file fun name => name = r.qualified) :
    Scoped file module top outer (ofType r heritage) := by
  have h : Scoped file module top outer (ofType r heritage ++ empty) := Scoped.nested hr hheritage scoped_empty
  have hsame : ofType r heritage ++ empty = ofType r heritage := by
    show merge _ _ = _
    simp [merge, empty, ofType]
  rwa [hsame] at h

end Declarations

open Declarations

/-! ## Python -/

namespace Python

variable (c : FileContext)

/-- A function is recorded below its owner, or below the module if it has none. -/
theorem placed_functionOf (owner : Option String) (decorators : List String) (t : SyntaxTree) :
    Gives (functionOf c owner decorators t)
      (FunctionRecord.Placed c.file c.modulePath fun name => owner = some name) := by
  refine (ends_anyhow _).bind fun name _ => ?_
  refine (ends_anyhow _).bind fun isAsync _ => ?_
  refine (ends_anyhow _).bind fun signature _ => ?_
  refine (ends_anyhow _).bind fun doc _ => ?_
  refine (ends_anyhow _).bind fun returnType _ => ?_
  refine (ends_anyhow _).bind fun calls _ => ends_pure ?_
  exact ⟨rfl, rfl, by cases owner <;> rfl, fun o ho => ho⟩

/-- A field is recorded with the owner that the walk hands down. -/
theorem placed_attributeOf (owner name : String) (line : Int) (t : SyntaxTree) :
    Gives (attributeOf c owner name line t) (AttributeRecord.Placed c.file fun n => n = owner) :=
  (ends_anyhow _).bind fun _ _ => ends_pure ⟨rfl, rfl⟩

/-- The fields that the body of a class sets belong to it. -/
theorem ownedBy_bodyAttributes (owner : String) (t : SyntaxTree) :
    Gives (bodyAttributes c owner t) (OwnedBy c.file owner) :=
  ends_mapM _ fun _ _ => (ends_anyhow _).bind fun name _ => placed_attributeOf c owner name _ _

/-- So do those that the initializer sets, whichever names were seen before. -/
theorem ownedBy_selfAttributes (owner : String) (seen : List String) (ts : List SyntaxTree) :
    Gives (selfAttributes c owner seen ts) (OwnedBy c.file owner) := by
  induction ts generalizing seen with
  | nil => exact ends_ok (ownedBy_nil c.file owner)
  | cons t rest ih =>
    refine (ends_anyhow _).bind fun name _ => ?_
    split
    · exact ih seen
    · next name =>
      split
      · exact ih seen
      · refine (placed_attributeOf c owner name _ t).bind fun a ha => ?_
        exact (ih (name :: seen)).bind fun found hfound => ends_pure (List.forall_mem_cons.2 ⟨ha, hfound⟩)

/-- So all fields of a class belong to it. -/
theorem ownedBy_attributesOf (owner : String) (t : SyntaxTree) :
    Gives (attributesOf c owner t) (OwnedBy c.file owner) := by
  refine (ownedBy_bodyAttributes c owner t).bind fun own hown => ?_
  refine (ends_anyhow _).bind fun initializer _ => ?_
  have hinitialized : Gives (initializedAttributes c owner (own.map (·.name)) initializer) (OwnedBy c.file owner) := by
    unfold initializedAttributes
    split
    · exact ownedBy_selfAttributes c owner _ _
    · exact ends_ok (ownedBy_nil c.file owner)
  exact hinitialized.bind fun found hfound => ends_pure (hown.append hfound)

/-- Each of the three forms of a class counts as a type. -/
theorem kind_formOf (bases decorators : List String) (t : SyntaxTree) :
    Gives (formOf c bases decorators t) fun form => form.kind ∈ SymbolTable.typeKinds := by
  unfold formOf
  split
  · exact (ends_anyhow _).map fun _ _ => by show "enum" ∈ SymbolTable.typeKinds; decide
  · split
    · exact ends_ok (by show "protocol" ∈ SymbolTable.typeKinds; decide)
    · exact ends_ok (by show "class" ∈ SymbolTable.typeKinds; decide)

/-- A class is named after the module or after the class around it. -/
theorem placed_classRecord (owner : Option String) (decorators : List String) (t : SyntaxTree) :
    Gives (classRecord c (owner.getD c.modulePath) decorators t)
      (TypeRecord.Placed c.file c.inModule fun name => owner = some name) := by
  refine (ends_anyhow _).bind fun name _ => ?_
  refine (ends_anyhow _).bind fun bases _ => ?_
  refine (kind_formOf c bases decorators t).bind fun form hform => ?_
  refine (ends_anyhow _).bind fun doc _ => ends_pure ⟨rfl, hform, ?_⟩
  cases owner with
  | none => exact .inl rfl
  | some o => exact .inr ⟨o, rfl, rfl⟩

/-- The bases of a class belong to it. -/
theorem placed_heritageOf {r : TypeRecord} (hr : r.file = c.file) (t : SyntaxTree) :
    Gives (heritageOf c r t) fun heritage => ∀ h ∈ heritage, h.Placed c.file fun name => name = r.qualified :=
  (ends_anyhow _).map fun _ _ => Heritage.placed_clauses hr (.inl rfl) _

mutual

/-- A statement of Python: a function belongs to the owner around it, a class stands in front of its block and its
    fields, and a decorated definition is the definition itself.  Whatever is inside of a class has the class around
    it. -/
theorem scoped_declared (owner : Option String) (decorators : Option (List String)) :
    ∀ t, Gives (declared c owner decorators t) (Scoped c.file c.modulePath c.inModule owner)
  | .node kind named missing hasError start stop field children => by
    unfold declared
    split
    · exact (placed_functionOf c owner _ _).map fun f hf => scoped_ofFunction hf
    · split
      · refine (placed_classRecord c owner _ _).bind fun r hr => ?_
        split
        · exact ends_pure (scoped_ofType hr fun h hh => nomatch hh)
        · refine (placed_heritageOf c hr.file _).bind fun heritage hheritage => ?_
          refine (scoped_inBlock r.qualified children).bind fun inner hinner => ?_
          refine (ownedBy_attributesOf c r.qualified _).bind fun attributes hattributes => ?_
          -- the fields stand behind the block, but inside of the class like everything in it
          have hbody := hinner.append (scoped_ofAttributes hattributes)
          rw [Declarations.append_assoc]
          exact ends_pure (Scoped.nested hr hheritage hbody)
      · split
        · exact (ends_anyhow _).bind fun decorators _ => scoped_definition owner decorators children
        · exact ends_ok scoped_empty

/-- The definition behind some decorators is a part like the one without them. -/
theorem scoped_definition (owner : Option String) (decorators : List String) :
    ∀ ts, Gives (definition c owner decorators ts) (Scoped c.file c.modulePath c.inModule owner)
  | [] => by
    unfold definition
    exact ends_ok scoped_empty
  | t :: rest => by
    unfold definition
    split
    · exact scoped_declared owner (some decorators) t
    · exact scoped_definition owner decorators rest

/-- The block of a class is around everything that its statements declare. -/
theorem scoped_inBlock (owner : String) :
    ∀ ts, Gives (inBlock c owner ts) (Scoped c.file c.modulePath c.inModule (some owner))
  | [] => by
    unfold inBlock
    exact ends_ok scoped_empty
  | .node kind named missing hasError start stop field children :: rest => by
    unfold inBlock
    split
    · exact scoped_members owner children
    · exact scoped_inBlock owner rest

/-- Statements one after the other are parts side by side. -/
theorem scoped_members (owner : String) :
    ∀ ts, Gives (members c owner ts) (Scoped c.file c.modulePath c.inModule (some owner))
  | [] => by
    unfold members
    exact ends_ok scoped_empty
  | t :: rest => by
    unfold members
    refine (scoped_declared (some owner) none t).bind fun here hhere => ?_
    exact (scoped_members owner rest).bind fun others hothers => ends_pure (hhere.append hothers)

end

end Python

/-! ## Java -/

namespace Java

variable (c : FileContext)

/-- A method is recorded below the type around it. -/
theorem placed_methodOf (owner : String) (before : List SyntaxTree) (t : SyntaxTree) :
    Gives (methodOf c owner before t)
      (FunctionRecord.Placed c.file c.modulePath fun name => some owner = some name) := by
  refine (ends_anyhow _).bind fun name _ => ?_
  refine (ends_anyhow _).bind fun isStatic _ => ?_
  refine (ends_anyhow _).bind fun isAbstract _ => ?_
  refine (ends_anyhow _).bind fun visibility _ => ?_
  refine (ends_anyhow _).bind fun signature _ => ?_
  refine (ends_anyhow _).bind fun doc _ => ?_
  refine (ends_anyhow _).bind fun returnType _ => ?_
  refine (ends_anyhow _).bind fun annotations _ => ?_
  refine (ends_anyhow _).bind fun calls _ => ends_pure ?_
  exact ⟨rfl, rfl, rfl, fun o ho => ho⟩

/-- All records of one declaration of fields belong to the type around it. -/
theorem ownedBy_fieldsOf (owner : String) (t : SyntaxTree) : Gives (fieldsOf c owner t) (OwnedBy c.file owner) := by
  refine (ends_anyhow _).bind fun types _ => ?_
  refine (ends_anyhow _).bind fun visibility _ => ?_
  refine (ends_anyhow _).bind fun names _ => ends_pure fun a ha => ?_
  obtain ⟨name, -, ha⟩ := List.mem_flatMap.1 ha
  obtain ⟨declaredType, -, rfl⟩ := List.mem_map.1 ha
  exact ⟨rfl, rfl⟩

/-- Names of types are bare inside of an unnamed package only. -/
theorem eq_empty_of_qualify_eq {outer name : String} (h : qualify outer name = "") : outer = "" := by
  unfold qualify at h
  split at h
  · assumption
  · simp at h

/-- The name of a type, as that of one at the top or of a nested one.  An outer name may be empty only where the
    package is. -/
theorem qualify_cases {module outer : String} (houter : outer = "" → module = "") {known : String → Prop}
    (hknown : known outer) (name : String) :
    qualify outer name = qualify module name ∨ ∃ o, known o ∧ qualify outer name = o ++ "." ++ name := by
  by_cases h : outer = ""
  · rw [h, houter h]
    exact .inl rfl
  · exact .inr ⟨outer, hknown, if_neg h⟩

/-- What the record of a type says of its name. -/
structure Named (c : FileContext) (outer : String) (r : TypeRecord × List Heritage) : Prop where
  file : r.1.file = c.file
  kind : r.1.form.kind ∈ SymbolTable.typeKinds
  qualified : r.1.qualified = qualify outer r.1.name
  heritage : ∀ h ∈ r.2, h.Placed c.file fun name => name = r.1.qualified

/-- The record of a type of Java, for each of the three kinds of declarations: it is named after what is around it,
    and its clauses start from it. -/
theorem named_typeOf (outer : String) (before : List SyntaxTree) (t : SyntaxTree) :
    Gives (typeOf c outer before t) (Named c outer) := by
  refine (ends_anyhow _).bind fun name _ => ?_
  refine (ends_anyhow _).bind fun interfaces _ => ?_
  refine (ends_anyhow _).bind fun visibility _ => ?_
  refine (ends_anyhow _).bind fun doc _ => ?_
  simp only
  split
  · refine (ends_anyhow _).bind fun superclass _ => ?_
    refine (ends_anyhow _).bind fun annotations _ => ?_
    refine (ends_anyhow _).bind fun isAbstract _ => ends_pure ⟨rfl, ?_, rfl, fun h hh => ?_⟩
    · show "class" ∈ SymbolTable.typeKinds
      decide
    · exact (List.mem_append.1 hh).elim (Heritage.placed_clauses rfl (.inl rfl) _ h)
        (Heritage.placed_clauses rfl (.inr rfl) _ h)
  · split
    · refine (ends_anyhow _).bind fun constants _ => ends_pure ⟨rfl, ?_, rfl, Heritage.placed_clauses rfl (.inr rfl) _⟩
      show "enum" ∈ SymbolTable.typeKinds
      decide
    · refine ends_pure ⟨rfl, ?_, rfl, Heritage.placed_clauses rfl (.inl rfl) _⟩
      show "interface" ∈ SymbolTable.typeKinds
      decide

variable {c} in
/-- A qualified name is empty only where the name of the type and everything around it are, so only in the unnamed
    package. -/
theorem Named.eq_empty {outer : String} {r : TypeRecord × List Heritage} (h : Named c outer r)
    (houter : outer = "" → c.modulePath = "") (hr : r.1.qualified = "") : c.modulePath = "" :=
  houter (eq_empty_of_qualify_eq (h.qualified ▸ hr))

variable {c} in
/-- A type with what is inside of it. -/
theorem Named.scoped {outer : String} {r : TypeRecord} {heritage : List Heritage} (h : Named c outer (r, heritage))
    (houter : outer = "" → c.modulePath = "") {around : Option String}
    (haround : outer = c.modulePath ∨ around = some outer) {d : Declarations}
    (hd : Scoped c.file c.modulePath (qualify c.modulePath) (some r.qualified) d) :
    Scoped c.file c.modulePath (qualify c.modulePath) around (ofType r heritage ++ d) := by
  refine Scoped.nested ⟨h.file, h.kind, ?_⟩ h.heritage hd
  rcases haround with rfl | haround
  · exact .inl h.qualified
  · rw [h.qualified]
    exact qualify_cases houter haround _

mutual

/-- A type with its body.  What is around it is the package, or the type whose name is handed down; the two hypotheses
    say that an empty name always means the package. -/
theorem scoped_declared (outer : String) (houter : outer = "" → c.modulePath = "") (around : Option String)
    (haround : outer = c.modulePath ∨ around = some outer) (before : List SyntaxTree) :
    ∀ t, Gives (declared c outer before t) (Scoped c.file c.modulePath (qualify c.modulePath) around)
  | .node kind named missing hasError start stop field children => by
    unfold declared
    refine (named_typeOf c outer before _).bind ?_
    rintro ⟨r, heritage⟩ hr
    have hempty := hr.eq_empty houter
    exact (scoped_inBody r.qualified hempty children).bind fun inner hinner =>
      ends_pure (hr.scoped houter haround hinner)

/-- The body of a type is around everything that its members declare. -/
theorem scoped_inBody (owner : String) (howner : owner = "" → c.modulePath = "") :
    ∀ ts, Gives (inBody c owner ts) (Scoped c.file c.modulePath (qualify c.modulePath) (some owner))
  | [] => by
    unfold inBody
    exact ends_ok scoped_empty
  | .node kind named missing hasError start stop field children :: rest => by
    unfold inBody
    split
    · exact scoped_members owner howner [] children
    · exact scoped_inBody owner howner rest

/-- Members one after the other are parts side by side. -/
theorem scoped_members (owner : String) (howner : owner = "" → c.modulePath = "") (before : List SyntaxTree) :
    ∀ ts, Gives (members c owner before ts) (Scoped c.file c.modulePath (qualify c.modulePath) (some owner))
  | [] => by
    unfold members
    exact ends_ok scoped_empty
  | t :: rest => by
    unfold members
    refine (scoped_member owner howner before t).bind fun here hhere => ?_
    exact (scoped_members owner howner (t :: before) rest).bind fun others hothers => ends_pure (hhere.append hothers)

/-- A method and fields belong to the type around them.  A nested type is named after it, and the further declarations
    of an enumeration are members of it again. -/
theorem scoped_member (owner : String) (howner : owner = "" → c.modulePath = "") (before : List SyntaxTree) :
    ∀ t, Gives (member c owner before t) (Scoped c.file c.modulePath (qualify c.modulePath) (some owner))
  | .node kind named missing hasError start stop field children => by
    unfold member
    split
    · exact (placed_methodOf c owner before _).map fun f hf => scoped_ofFunction hf
    · split
      · exact (ownedBy_fieldsOf c owner _).map fun attributes hattributes => scoped_ofAttributes hattributes
      · split
        · refine (named_typeOf c owner before _).bind ?_
          rintro ⟨r, heritage⟩ hr
          -- a type inside of another one has an empty name only if both the outer one and the module have
          have hempty := hr.eq_empty howner
          exact (scoped_inBody r.qualified hempty children).bind fun inner hinner =>
            ends_pure (hr.scoped howner (.inr rfl) hinner)
        · split
          · exact scoped_members owner howner [] children
          · exact ends_ok scoped_empty

end

/-- Nothing is around the types at the top of a file, which are named after the package alone. -/
theorem scoped_topLevel (before ts : List SyntaxTree) :
    Gives (topLevel c before ts) (Scoped c.file c.modulePath (qualify c.modulePath) none) := by
  induction ts generalizing before with
  | nil => exact ends_ok scoped_empty
  | cons t rest ih =>
    have hhere : Gives (declaredAtTop c before t) (Scoped c.file c.modulePath (qualify c.modulePath) none) := by
      unfold declaredAtTop
      split
      · exact scoped_declared c c.modulePath id none (.inl rfl) before t
      · exact ends_ok scoped_empty
    refine hhere.bind fun here hhere => ?_
    exact (ih (t :: before)).bind fun others hothers => ends_pure (hhere.append hothers)

end Java

/-! ## TypeScript and JavaScript -/

namespace Script

variable (c : FileContext)

/-- A function is recorded below its owner, or below the module if it has none. -/
theorem placed_functionOf (name : String) (owner : Option String) (s statement : Site) :
    Gives (functionOf c name (owner.getD c.modulePath) owner s statement)
      (FunctionRecord.Placed c.file c.modulePath fun n => owner = some n) := by
  refine (ends_anyhow _).bind fun isStatic _ => ?_
  refine (ends_anyhow _).bind fun visibility _ => ?_
  refine (ends_anyhow _).bind fun isAsync _ => ?_
  refine (ends_anyhow _).bind fun signature _ => ?_
  refine (ends_anyhow _).bind fun doc _ => ?_
  refine (ends_anyhow _).bind fun returnType _ => ?_
  refine (ends_anyhow _).bind fun decorators _ => ?_
  refine (ends_anyhow _).bind fun calls _ => ends_pure ?_
  exact ⟨rfl, rfl, by cases owner <;> rfl, fun o ho => ho⟩

/-- A method is recorded below the type around it. -/
theorem placed_methodOf (owner : String) (s : Site) :
    Gives (methodOf c owner s) (FunctionRecord.Placed c.file c.modulePath fun n => some owner = some n) :=
  (ends_anyhow _).bind fun name _ => placed_functionOf c name (some owner) s s

/-- The fields in the body of a class belong to it. -/
theorem ownedBy_fieldsOf (owner : String) (s : Site) :
    Gives ((inBody s).filterMapM fun x =>
      if fieldKinds.contains x.tree.kind then fieldOf c owner x.tree else pure none) (OwnedBy c.file owner) := by
  refine ends_filterMapM _ fun x _ => ?_
  split
  · unfold fieldOf
    split
    · exact ends_pure fun a ha => nomatch ha
    · refine (ends_anyhow _).bind fun declaredType _ => ?_
      refine (ends_anyhow _).bind fun access _ => ?_
      refine (ends_anyhow _).bind fun name _ => ends_pure fun a ha => ?_
      cases ha
      exact ⟨rfl, rfl⟩
  · exact ends_pure fun a ha => nomatch ha

/-- So do those that the parameters of its constructor declare. -/
theorem ownedBy_methodFields (owner name : String) (t : SyntaxTree) :
    Gives (methodFields c owner name t) (OwnedBy c.file owner) := by
  unfold methodFields
  split
  · refine ends_filterMapM _ fun x _ => ?_
    refine (ends_anyhow _).bind fun modifiers _ => ?_
    split
    · refine (ends_anyhow _).bind fun pattern _ => ?_
      refine (ends_anyhow _).bind fun declaredType _ => ends_pure fun a ha => ?_
      cases ha
      exact ⟨rfl, rfl⟩
    · exact ends_pure fun a ha => nomatch ha
  · exact ends_ok (ownedBy_nil c.file owner)

/-- Types stand at the top of a script only, whatever form they have. -/
theorem placed_typeOf (s : Site) (form : TypeForm) :
    Gives (typeOf c s form) fun r => form.kind ∈ SymbolTable.typeKinds →
      r.Placed c.file c.inModule fun name => none = some name := by
  refine (ends_anyhow _).bind fun name _ => ?_
  refine (ends_anyhow _).bind fun visibility _ => ?_
  exact (ends_anyhow _).bind fun doc _ => ends_pure fun hform => ⟨rfl, hform, .inl rfl⟩

/-- A method with its fields, inside of the class around it. -/
theorem scoped_classMember (owner : String) (s : Site) :
    Gives (classMember c owner s) (Scoped c.file c.modulePath c.inModule (some owner)) := by
  refine (placed_methodOf c owner s).bind fun f hf => ?_
  refine (ownedBy_methodFields c owner f.name s.tree).bind fun fields hfields => ?_
  exact ends_pure ((scoped_ofFunction hf).append (scoped_ofAttributes hfields))

/-- A class stands in front of its fields and methods, and its clauses start from it. -/
theorem scoped_classOf (s : Site) : Gives (classOf c s) (Scoped c.file c.modulePath c.inModule none) := by
  refine (ends_anyhow _).bind ?_
  rintro ⟨extended, implemented⟩ -
  refine (ends_anyhow _).bind fun decorators _ => ?_
  have hkind : "class" ∈ SymbolTable.typeKinds := by decide
  refine (placed_typeOf c s _).bind fun r hr => ?_
  have hr := hr hkind
  refine (ownedBy_fieldsOf c r.qualified s).bind fun fields hfields => ?_
  refine (ends_mapM _ fun x _ => scoped_classMember c r.qualified x).bind fun methods hmethods => ?_
  rw [Declarations.append_assoc]
  refine ends_pure (Scoped.nested hr (fun h hh => ?_) ((scoped_ofAttributes hfields).append (scoped_mergeAll hmethods)))
  exact (List.mem_append.1 hh).elim (Heritage.placed_clauses hr.file (.inl rfl) _ h)
    (Heritage.placed_clauses hr.file (.inr rfl) _ h)

/-- A member of an interface belongs to it. -/
theorem scoped_interfaceMember (owner : String) (s : Site) :
    Gives (interfaceMember c owner s) (Scoped c.file c.modulePath c.inModule (some owner)) := by
  unfold interfaceMember
  split
  · exact (placed_methodOf c owner s).bind fun f hf => ends_pure (scoped_ofFunction hf)
  · split
    · split
      · exact ends_pure scoped_empty
      · refine (ends_anyhow _).bind fun declaredType _ => ?_
        refine (ends_anyhow _).bind fun name _ => ends_pure (scoped_ofAttributes fun a ha => ?_)
        rw [List.mem_singleton.1 ha]
        exact ⟨rfl, rfl⟩
    · exact ends_pure scoped_empty

/-- An interface stands in front of its members. -/
theorem scoped_interfaceOf (s : Site) : Gives (interfaceOf c s) (Scoped c.file c.modulePath c.inModule none) := by
  refine (ends_anyhow _).bind ?_
  rintro ⟨extended, implemented⟩ -
  have hkind : "interface" ∈ SymbolTable.typeKinds := by decide
  refine (placed_typeOf c s _).bind fun r hr => ?_
  have hr := hr hkind
  refine (ends_mapM _ fun x _ => scoped_interfaceMember c r.qualified x).bind fun members hmembers => ?_
  exact ends_pure (Scoped.nested hr (Heritage.placed_clauses hr.file (.inl rfl) _) (scoped_mergeAll hmembers))

/-- A variable that holds a function declares one below the module. -/
theorem scoped_variableOf (exported : Bool) (statement s : Site) :
    Gives (variableOf c exported statement s) fun found =>
      found.declared.Scoped c.file c.modulePath c.inModule none := by
  unfold variableOf
  split
  · exact ends_pure scoped_empty
  · refine (ends_anyhow _).bind fun name _ => ?_
    split
    · exact ends_pure scoped_empty
    · exact (placed_functionOf c name none _ _).bind fun f hf => ends_pure (scoped_ofFunction hf)

/-- What all statements of a file declare is side by side.  The loop is taken from any start that fits. -/
theorem scoped_foldl_both {found : List Found}
    (h : ∀ f ∈ found, f.declared.Scoped c.file c.modulePath c.inModule none) :
    (found.foldl Found.both Found.empty).declared.Scoped c.file c.modulePath c.inModule none := by
  have hfrom : ∀ acc : Found, acc.declared.Scoped c.file c.modulePath c.inModule none →
      (found.foldl Found.both acc).declared.Scoped c.file c.modulePath c.inModule none := by
    induction found with
    | nil => exact fun acc hacc => hacc
    | cons f rest ih =>
      intro acc hacc
      obtain ⟨hf, hrest⟩ := List.forall_mem_cons.1 h
      exact ih hrest _ (hacc.append hf)
  exact hfrom Found.empty scoped_empty

/-- An export adds what it exports. -/
theorem scoped_topLevel (exported : Bool) (s : Site) :
    Gives (topLevel c exported s) fun found => found.declared.Scoped c.file c.modulePath c.inModule none := by
  unfold topLevel
  simp only
  split
  · refine (ends_anyhow _).bind fun name _ => ?_
    exact (placed_functionOf c name none _ _).bind fun f hf => ends_pure (scoped_ofFunction hf)
  · split
    · refine (ends_anyhow _).bind fun name _ => ?_
      exact (scoped_classOf c s).bind fun d hd => ends_pure hd
    · split
      · refine (ends_anyhow _).bind fun name _ => ?_
        exact (scoped_interfaceOf c s).bind fun d hd => ends_pure hd
      · split
        · refine (ends_anyhow _).bind fun members _ => ?_
          have hkind : "enum" ∈ SymbolTable.typeKinds := by decide
          refine (placed_typeOf c s _).bind fun r hr => ?_
          exact ends_pure (scoped_ofType (hr hkind) fun h hh => nomatch hh)
        · split
          · refine (ends_mapM _ fun x _ => scoped_variableOf c exported s x).bind fun found hfound => ?_
            exact ends_pure (scoped_foldl_both c hfound)
          · split
            -- an export adds names to what is exported, and no declarations
            · have hexports : ∀ inner : Found, inner.declared.Scoped c.file c.modulePath c.inModule none →
                  Gives (clauseExports c s.tree >>= fun more => pure { inner with exports := inner.exports ++ more })
                    fun found => found.declared.Scoped c.file c.modulePath c.inModule none := fun inner hinner =>
                (ends_anyhow _).bind fun more _ => ends_pure hinner
              split
              · next d hd => exact (scoped_topLevel true d).bind hexports
              · exact hexports _ scoped_empty
            · exact ends_pure scoped_empty
termination_by s.tree.size
decreasing_by exact Site.size_lt_of_mem_children (exportedDeclaration?_mem ‹_›)

end Script

end CodeAtlas
