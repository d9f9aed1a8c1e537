import CodeAtlas.Proofs.Resolution.Identifiers
import CodeAtlas.Proofs.Resolution.Links
import Mathlib.Data.List.Nodup
/-!
  What a name without dots means.

  A name stands in a file, inside of some scopes.  If the file declares a type of that name in one of them, one expects
  the name to mean the type of the innermost such scope.  Two other types come before it.  One has the name as its whole
  qualified name, like a type outside of all packages.  The other one stands in another file, but its qualified name is
  that of a scope further in, where the file itself declares nothing of the name.

  `resolveType_of_dotless` says that there is nothing else: with neither of them the name means the type of the
  innermost scope.  It also says where the search goes on when no scope has such a type.
-/
namespace CodeAtlas

namespace SymbolTable

/-- Every declaration has an identifier of one of the two forms. -/
def Formed (t : SymbolTable) : Prop :=
  ∀ file qualified id, t.record? file qualified = some id → id = qualified ∨ id = qualified ++ "@" ++ file

/-- A file declares a type under a qualified name. -/
def DeclaresType (t : SymbolTable) (file qualified id : String) : Prop :=
  t.record? file qualified = some id ∧ t.isType id = true

instance (t : SymbolTable) (file qualified id : String) : Decidable (t.DeclaresType file qualified id) :=
  inferInstanceAs (Decidable (t.record? file qualified = some id ∧ t.isType id = true))

variable {t : SymbolTable} {file name scope id : String}

theorem formed_addAll {root : Path} {language : String} {es : List Entry}
    (h : (empty root language).addAll es = .ok t) : t.Formed :=
  (Recorded.of_prefix (recorded_empty root language) h).formed

/-- What stands in a scope has an identifier that is not empty. -/
theorem Formed.ne_empty (h : t.Formed) (hid : t.record? file (scope ++ "." ++ name) = some id) : id ≠ "" := by
  intro hempty
  have hdot : (scope ++ "." ++ name).length ≠ 0 := by
    rw [String.length_append, String.length_append]
    have hone : ".".length = 1 := rfl
    omega
  rcases h _ _ _ hid with heq | heq
  · rw [← heq, hempty] at hdot
    exact hdot rfl
  · have hlength := congrArg String.length heq
    rw [hempty, String.length_append, String.length_append] at hlength
    have hat : "@".length = 1 := rfl
    have hzero : "".length = 0 := rfl
    omega

end SymbolTable

namespace Scopes

open SymbolTable

variable {t : SymbolTable} {s : Scopes} {file name scope id : String}

/-- The type with a whole qualified name, wherever it is declared. -/
def typeNamed (t : SymbolTable) (qualified : String) : Option String := typeOnly t (t.lookup? qualified)

/-- The type of another file in a scope in which the file itself declares nothing of the name. -/
def typeElsewhere (t : SymbolTable) (file name scope : String) : Option String :=
  if (t.record? file (scope ++ "." ++ name)).isSome then none else typeNamed t (scope ++ "." ++ name)

/-- A scope has a type of the file itself, or else one of another file. -/
theorem inScope_eq_some_of_declaresType (hformed : t.Formed) (h : t.DeclaresType file (scope ++ "." ++ name) id) :
    inScope t file name scope = some id := by
  have hne : id ≠ "" := hformed.ne_empty h.1
  have hfilter : (t.record? file (scope ++ "." ++ name)).filter (· ≠ "") = some id := by
    rw [h.1, Option.filter_some, if_pos (decide_eq_true hne)]
  unfold inScope
  simp only [hfilter]
  show (some id).filter t.isType = some id
  rw [Option.filter_some, if_pos h.2]

theorem inScope_eq_typeElsewhere (hformed : t.Formed)
    (h : ∀ id, ¬ t.DeclaresType file (scope ++ "." ++ name) id) :
    inScope t file name scope = typeElsewhere t file name scope := by
  unfold inScope typeElsewhere
  simp only
  cases hrecord : t.record? file (scope ++ "." ++ name) with
  | none => rfl
  | some id =>
    have hne : id ≠ "" := hformed.ne_empty hrecord
    have hother : t.isType id = false := by
      rw [← Bool.not_eq_true]
      intro htype
      exact h id ⟨hrecord, htype⟩
    rw [Option.filter_some, if_pos (decide_eq_true hne)]
    show (some id).filter t.isType = none
    rw [Option.filter_some, hother, if_neg Bool.false_ne_true]

/-- As long as the file itself has no type of the name, only other files can have one. -/
theorem findSome?_inScope (hformed : t.Formed) {inner : List String}
    (h : ∀ place ∈ inner, ∀ id, ¬ t.DeclaresType file (place ++ "." ++ name) id) :
    inner.findSome? (inScope t file name) = inner.findSome? (typeElsewhere t file name) := by
  induction inner with
  | nil => rfl
  | cons place rest ih =>
    have hplace := inScope_eq_typeElsewhere hformed (h place List.mem_cons_self)
    have hrest := ih fun place' hplace' => h place' (List.mem_cons_of_mem place hplace')
    rw [List.findSome?_cons, List.findSome?_cons, hplace, hrest]

/-- A name without dots is bound as it is, or not at all. -/
theorem imported_of_dotless (hdot : '.' ∉ name.toList) :
    s.imported t file name = .ok (typeOnly t (s.bindings.get? (file, name))) := by
  have hcut : Text.cutFirst? '.' name = none := by
    rw [Text.cutFirst?, Option.map_eq_none_iff]
    exact Text.Chars.cutFirst?_eq_none hdot
  unfold imported
  simp only [hcut, Option.getD_none]
  cases s.bindings.get? (file, name) with
  | none => rfl
  | some bound => simp

/-- The places that are searched for a name without dots, one after the other. -/
theorem resolveType_eq {written : String} {around : Option String} (hname : Text.trim written = name)
    (hne : name ≠ "") (hdot : '.' ∉ name.toList) :
    s.resolveType t written file around =
      .ok ((((typeNamed t name).or ((enclosing around (s.moduleOf file)).findSome? (inScope t file name))).or
        (typeOnly t (s.bindings.get? (file, name)))).or (uniqueByTitle t name)) := by
  unfold resolveType
  simp only [hname, if_neg hne, imported_of_dotless hdot]
  unfold typeNamed
  cases typeOnly t (t.lookup? name) with
  | some id => rfl
  | none =>
    cases (enclosing around (s.moduleOf file)).findSome? (inScope t file name) with
    | some id => rfl
    | none =>
      cases typeOnly t (s.bindings.get? (file, name)) with
      | some id => rfl
      | none => rfl

section

variable {written : String} {around : Option String} {inner outer : List String}

/-- What comes before the type that a file declares in the innermost scope with one. -/
theorem resolveType_of_declaresType (hformed : t.Formed) (hname : Text.trim written = name) (hne : name ≠ "")
    (hdot : '.' ∉ name.toList) (hchain : enclosing around (s.moduleOf file) = inner ++ scope :: outer)
    (hhere : t.DeclaresType file (scope ++ "." ++ name) id)
    (hinner : ∀ place ∈ inner, ∀ id', ¬ t.DeclaresType file (place ++ "." ++ name) id') :
    s.resolveType t written file around =
      .ok (some (((typeNamed t name).or (inner.findSome? (typeElsewhere t file name))).getD id)) := by
  have hfound : (enclosing around (s.moduleOf file)).findSome? (inScope t file name) =
      (inner.findSome? (typeElsewhere t file name)).or (some id) := by
    rw [hchain, List.findSome?_append, findSome?_inScope hformed hinner, List.findSome?_cons,
      inScope_eq_some_of_declaresType hformed hhere]
  rw [resolveType_eq hname hne hdot, hfound]
  cases typeNamed t name with
  | some other => rfl
  | none =>
    cases inner.findSome? (typeElsewhere t file name) with
    | some other => rfl
    | none => rfl

/-- Where the search goes on when no scope has a type of the name. -/
theorem resolveType_of_undeclared (hformed : t.Formed) (hname : Text.trim written = name) (hne : name ≠ "")
    (hdot : '.' ∉ name.toList)
    (hhere : ∀ place ∈ enclosing around (s.moduleOf file), ∀ id, ¬ t.DeclaresType file (place ++ "." ++ name) id)
    (helsewhere : ∀ place ∈ enclosing around (s.moduleOf file), typeElsewhere t file name place = none) :
    s.resolveType t written file around =
      .ok (((typeNamed t name).or (typeOnly t (s.bindings.get? (file, name)))).or (uniqueByTitle t name)) := by
  have hfound : (enclosing around (s.moduleOf file)).findSome? (inScope t file name) = none := by
    rw [findSome?_inScope hformed hhere, List.findSome?_eq_none_iff]
    exact helsewhere
  rw [resolveType_eq hname hne hdot, hfound, Option.or_none]

end

/-- **The innermost scope decides.**  A name without dots means the type that its file declares in the innermost scope
    with one, unless the name is the whole qualified name of a type, or a scope further in has such a type in another
    file.  If no scope has one, the imports of the file decide, and then the titles of all types. -/
theorem resolveType_of_dotless {written : String} {around : Option String} (hformed : t.Formed)
    (hname : Text.trim written = name) (hne : name ≠ "") (hdot : '.' ∉ name.toList) :
    (∀ inner scope outer id, enclosing around (s.moduleOf file) = inner ++ scope :: outer →
      t.DeclaresType file (scope ++ "." ++ name) id →
      (∀ place ∈ inner, ∀ id', ¬ t.DeclaresType file (place ++ "." ++ name) id') →
      s.resolveType t written file around =
        .ok (some (((typeNamed t name).or (inner.findSome? (typeElsewhere t file name))).getD id))) ∧
    ((∀ place ∈ enclosing around (s.moduleOf file), ∀ id, ¬ t.DeclaresType file (place ++ "." ++ name) id) →
      (∀ place ∈ enclosing around (s.moduleOf file), typeElsewhere t file name place = none) →
      s.resolveType t written file around =
        .ok (((typeNamed t name).or (typeOnly t (s.bindings.get? (file, name)))).or (uniqueByTitle t name))) := by
  constructor
  · intro inner scope outer id hchain hhere hinner
    exact resolveType_of_declaresType hformed hname hne hdot hchain hhere hinner
  · intro hhere helsewhere
    exact resolveType_of_undeclared hformed hname hne hdot hhere helsewhere

/-- The types of a file with a package, one type outside of all packages, and one in the package that is called like a
    type of the file. -/
def crowded : List Entry :=
  [⟨"T", "T", "class", "T.java", .int 1, .empty⟩, ⟨"p.A", "A", "class", "p/A.java", .int 1, .empty⟩,
    ⟨"p.A.M", "M", "class", "p/A.java", .int 2, .empty⟩, ⟨"p.M", "M", "class", "p/A.java", .int 8, .empty⟩,
    ⟨"p.N", "N", "class", "p/A.java", .int 9, .empty⟩, ⟨"p.T", "T", "class", "p/A.java", .int 10, .empty⟩,
    ⟨"p.A.N", "N", "class", "p/A/N.java", .int 1, .empty⟩, ⟨"q.I", "I", "class", "q/I.java", .int 1, .empty⟩]

/-- Their files; one of them imports a type. -/
def crowdedScopes : Scopes :=
  { modules := .ofList [("T.java", ""), ("p/A.java", "p"), ("p/A/N.java", "p.A"), ("q/I.java", "q")]
    bindings := .ofList [(("p/A.java", "I"), "q.I")] }

/-- Inside of a type in a type, a name means the type that stands next to it, and an imported name what it is bound
    to. -/
theorem resolveType_crowded : ∃ t, (SymbolTable.empty (Path.ofString "/r") "java").addAll crowded = .ok t ∧ t.Formed ∧
    Text.trim " M " = "M" ∧ '.' ∉ "M".toList ∧
    crowdedScopes.resolveType t " M " "p/A.java" (some "p.A.B") = .ok (some "p.A.M") ∧
    crowdedScopes.resolveType t "I" "p/A.java" (some "p") = .ok (some "q.I") := by
  obtain ⟨t, ht⟩ : ∃ t, (SymbolTable.empty (Path.ofString "/r") "java").addAll crowded = .ok t := ⟨_, rfl⟩
  have hformed : t.Formed := formed_addAll ht
  have hfacts : ((SymbolTable.empty (Path.ofString "/r") "java").addAll crowded).map (fun t => decide
      (t.DeclaresType "p/A.java" "p.A.M" "p.A.M" ∧ t.record? "p/A.java" "p.A.B.M" = none ∧
        (typeNamed t "M").or (["p.A.B"].findSome? (typeElsewhere t "p/A.java" "M")) = none ∧
        t.record? "p/A.java" "p.I" = none ∧ typeElsewhere t "p/A.java" "I" "p" = none ∧
        (typeNamed t "I").or (typeOnly t (crowdedScopes.bindings.get? ("p/A.java", "I"))) = some "q.I")) =
      .ok true := by decide +kernel
  rw [ht] at hfacts
  obtain ⟨hhere, hinner, hnone, hundeclared, helsewhere, hbound⟩ := of_decide_eq_true (Except.ok.inj hfacts)
  have htrim : Text.trim " M " = "M" ∧ Text.trim "I" = "I" := by decide +kernel
  refine ⟨t, ht, hformed, htrim.1, by decide, ?_, ?_⟩
  · have hchain : enclosing (some "p.A.B") (crowdedScopes.moduleOf "p/A.java") = ["p.A.B"] ++ "p.A" :: ["p"] := by
      decide +kernel
    have hdecided := (resolveType_of_dotless hformed htrim.1 (by decide) (by decide)).1 _ _ _ "p.A.M" hchain hhere
    rw [hdecided, hnone]
    · rfl
    · intro place hplace id hid
      rw [List.mem_singleton.1 hplace] at hid
      have hsome : some id = none := hid.1.symm.trans hinner
      nomatch hsome
  · have hchain : enclosing (some "p") (crowdedScopes.moduleOf "p/A.java") = ["p"] := by decide +kernel
    refine ((resolveType_of_dotless hformed htrim.2 (by decide) (by decide)).2 ?_ ?_).trans ?_
    · rw [hchain]
      intro place hplace id hid
      rw [List.mem_singleton.1 hplace] at hid
      have hsome : some id = none := hid.1.symm.trans hundeclared
      nomatch hsome
    · rw [hchain]
      intro place hplace
      rw [List.mem_singleton.1 hplace]
      exact helsewhere
    · rw [hbound]
      rfl

/-- A type outside of all packages is taken for the one that stands next to the name, and so is one of another file in
    a scope further in. -/
theorem not_innermost_crowded : ∃ t, (SymbolTable.empty (Path.ofString "/r") "java").addAll crowded = .ok t ∧
    (enclosing (some "p") (crowdedScopes.moduleOf "p/A.java") = ["p"] ∧ t.DeclaresType "p/A.java" "p.T" "p.T" ∧
      crowdedScopes.resolveType t "T" "p/A.java" (some "p") = .ok (some "T")) ∧
    (enclosing (some "p.A") (crowdedScopes.moduleOf "p/A.java") = ["p.A", "p"] ∧
      t.record? "p/A.java" "p.A.N" = none ∧ t.DeclaresType "p/A.java" "p.N" "p.N" ∧
      crowdedScopes.resolveType t "N" "p/A.java" (some "p.A") = .ok (some "p.A.N")) := by
  have hfacts : ((SymbolTable.empty (Path.ofString "/r") "java").addAll crowded).map (fun t => decide
      ((enclosing (some "p") (crowdedScopes.moduleOf "p/A.java") = ["p"] ∧ t.DeclaresType "p/A.java" "p.T" "p.T" ∧
          crowdedScopes.resolveType t "T" "p/A.java" (some "p") = .ok (some "T")) ∧
        (enclosing (some "p.A") (crowdedScopes.moduleOf "p/A.java") = ["p.A", "p"] ∧
          t.record? "p/A.java" "p.A.N" = none ∧ t.DeclaresType "p/A.java" "p.N" "p.N" ∧
          crowdedScopes.resolveType t "N" "p/A.java" (some "p.A") = .ok (some "p.A.N")))) = .ok true := by
    decide +kernel
  obtain ⟨t, ht, hfacts⟩ := Fault.map_eq_ok_iff.1 hfacts
  exact ⟨t, ht, of_decide_eq_true hfacts⟩

end Scopes

end CodeAtlas
