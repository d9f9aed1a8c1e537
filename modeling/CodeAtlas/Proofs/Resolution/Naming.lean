import CodeAtlas.Proofs.Resolution.Identifiers
import Mathlib.Data.String.Basic
/-!
  The identifier of a declaration by its place among the others.

  The first declaration of a qualified name has it as its identifier, and all others have the name with the file.
  Which one is the first depends only on the order in which the declarations are added.  `Leading` says that this
  order does what the order of files would do: the first one is in the smallest file.

    1. In a list in the order of files every name leads (`leading_of_sorted`).
    2. Where such a list follows others, a name of it leads unless it comes too late: it is taken in larger
       files only (`leading_append_iff`).
-/
namespace CodeAtlas.SymbolTable

variable {keys : List (String × String)} {key : String × String}

/-! ## The first one keeps the name -/

/-- The identifier of a declaration among others: the qualified name for the first one that has it, and the name with
    the file for all others. -/
def identifierIn (keys : List (String × String)) (key : String × String) : String :=
  if keys.find? (fun k => k.2 = key.2) = some key then key.2 else key.2 ++ "@" ++ key.1

/-- No qualified name looks like the second form of an identifier, and no two second forms are the same. -/
structure Distinguishable (keys : List (String × String)) : Prop where
  names : ∀ k ∈ keys, ∀ k' ∈ keys, k.2 ≠ k'.2 ++ "@" ++ k'.1
  forms : ∀ k ∈ keys, ∀ k' ∈ keys, k.2 ++ "@" ++ k.1 = k'.2 ++ "@" ++ k'.1 → k = k'

instance (keys : List (String × String)) : Decidable (Distinguishable keys) :=
  decidable_of_iff ((∀ k ∈ keys, ∀ k' ∈ keys, k.2 ≠ k'.2 ++ "@" ++ k'.1) ∧
      ∀ k ∈ keys, ∀ k' ∈ keys, k.2 ++ "@" ++ k.1 = k'.2 ++ "@" ++ k'.1 → k = k')
    ⟨fun ⟨h₁, h₂⟩ => ⟨h₁, h₂⟩, fun ⟨h₁, h₂⟩ => ⟨h₁, h₂⟩⟩

theorem Distinguishable.of_subset {keys' : List (String × String)} (h : Distinguishable keys')
    (hsub : ∀ k ∈ keys, k ∈ keys') : Distinguishable keys where
  names k hk k' hk' := h.names k (hsub k hk) k' (hsub k' hk')
  forms k hk k' hk' := h.forms k (hsub k hk) k' (hsub k' hk')

/-- Names without at signs cannot be mixed up. -/
theorem distinguishable_of_plain (h : ∀ k ∈ keys, '@' ∉ k.2.toList) : Distinguishable keys where
  names k hk k' hk' heq := h k hk (by rw [heq]; simp)
  forms k hk k' hk' heq := eq_of_at_eq (h k hk) (h k' hk') heq

/-- Some declaration of a name is the first one. -/
theorem exists_find?_eq_some (h : key ∈ keys) :
    ∃ first, keys.find? (fun k => k.2 = key.2) = some first ∧ first ∈ keys ∧ first.2 = key.2 := by
  have hsome : (keys.find? fun k => k.2 = key.2).isSome = true := by
    rw [List.find?_isSome]
    exact ⟨key, h, decide_eq_true rfl⟩
  obtain ⟨first, hfirst⟩ := Option.isSome_iff_exists.1 hsome
  have hname := List.find?_some hfirst
  exact ⟨first, hfirst, List.mem_of_find?_eq_some hfirst, by simpa using hname⟩

/-- Later declarations do not change the identifier. -/
theorem identifierIn_append (h : key ∈ keys) (more : List (String × String)) :
    identifierIn (keys ++ more) key = identifierIn keys key := by
  obtain ⟨first, hfirst, -⟩ := exists_find?_eq_some h
  unfold identifierIn
  rw [List.find?_append, hfirst, Option.some_or]

/-- A last one gets the qualified name exactly if nothing before has it. -/
theorem identifierIn_concat (hnew : key ∉ keys) :
    identifierIn (keys ++ [key]) key = if key.2 ∈ keys.map (·.2) then key.2 ++ "@" ++ key.1 else key.2 := by
  unfold identifierIn
  rw [List.find?_append]
  by_cases htaken : key.2 ∈ keys.map (·.2)
  · obtain ⟨k, hk, hname⟩ := List.mem_map.1 htaken
    obtain ⟨first, hfirst, hmem, -⟩ := exists_find?_eq_some hk
    rw [hname] at hfirst
    have hne : first ≠ key := by
      rintro rfl
      exact hnew hmem
    rw [hfirst, Option.some_or, if_neg (by simpa using hne), if_pos htaken]
  · have hnone : keys.find? (fun k => k.2 = key.2) = none := by
      refine List.find?_eq_none.2 fun k hk heq => htaken ?_
      exact List.mem_map.2 ⟨k, hk, by simpa using heq⟩
    rw [hnone, Option.none_or, if_pos (by simp), if_neg htaken]

/-- The first one of a name has it. -/
theorem exists_identifierIn_eq {name : String} (h : name ∈ keys.map (·.2)) :
    ∃ k ∈ keys, k.2 = name ∧ identifierIn keys k = name := by
  obtain ⟨k, hk, rfl⟩ := List.mem_map.1 h
  obtain ⟨first, hfirst, hmem, hname⟩ := exists_find?_eq_some hk
  refine ⟨first, hmem, hname, ?_⟩
  unfold identifierIn
  rw [hname, if_pos hfirst]

theorem identifierIn_cases (keys : List (String × String)) (key : String × String) :
    identifierIn keys key = key.2 ∨ identifierIn keys key = key.2 ++ "@" ++ key.1 := by
  unfold identifierIn
  split
  · exact .inl rfl
  · exact .inr rfl

/-- The name alone is not the name with a file. -/
theorem ne_append_at (name file : String) : name ≠ name ++ "@" ++ file := by
  intro heq
  have hlength := congrArg String.length heq
  have hat : "@".length = 1 := rfl
  rw [String.length_append, String.length_append] at hlength
  omega

/-- The plain one is for the first of its name. -/
theorem identifierIn_eq_name_iff : identifierIn keys key = key.2 ↔ keys.find? (fun k => k.2 = key.2) = some key := by
  unfold identifierIn
  split
  · next h => exact iff_of_true rfl h
  · next h => exact iff_of_false (ne_append_at key.2 key.1).symm h

/-- Different declarations have different identifiers. -/
theorem Distinguishable.eq_of_identifierIn_eq (h : Distinguishable keys) {k k' : String × String} (hk : k ∈ keys)
    (hk' : k' ∈ keys) (heq : identifierIn keys k = identifierIn keys k') : k = k' := by
  rcases identifierIn_cases keys k with hid | hid <;> rcases identifierIn_cases keys k' with hid' | hid'
  · have hname : k.2 = k'.2 := by rw [← hid, heq, hid']
    have hfirst := identifierIn_eq_name_iff.1 hid
    rw [hname, identifierIn_eq_name_iff.1 hid'] at hfirst
    exact (Option.some.inj hfirst).symm
  · exact absurd (hid.symm.trans (heq.trans hid')) (h.names k hk k' hk')
  · exact absurd (hid'.symm.trans (heq.symm.trans hid)) (h.names k' hk' k hk)
  · exact h.forms k hk k' hk' (hid.symm.trans (heq.trans hid'))

/-! ## The order of files -/

/-- The first declaration of a name is in the smallest file. -/
def Leading (keys : List (String × String)) (name : String) : Prop :=
  ∀ first, keys.find? (fun k => k.2 = name) = some first → ∀ file, (file, name) ∈ keys → first.1 ≤ file

/-- In the order of files every name leads. -/
theorem leading_of_sorted (h : keys.Pairwise fun k k' => k.1 ≤ k'.1) (name : String) : Leading keys name := by
  induction keys with
  | nil => exact fun first hfirst => nomatch hfirst
  | cons head rest ih =>
    obtain ⟨hhead, hrest⟩ := List.pairwise_cons.1 h
    intro first hfirst file hfile
    rw [List.find?_cons] at hfirst
    split at hfirst
    · cases hfirst
      rcases List.mem_cons.1 hfile with rfl | hfile
      · exact le_refl file
      · exact hhead (file, name) hfile
    · next hother =>
      rcases List.mem_cons.1 hfile with rfl | hfile
      · exact absurd rfl (of_decide_eq_false hother)
      · exact ih hrest first hfirst file hfile

/-- The name is taken, but in larger files only. -/
def Late (keys : List (String × String)) (name file : String) : Prop :=
  (∃ file', (file', name) ∈ keys) ∧ ∀ file', (file', name) ∈ keys → file < file'

/-- **What is added later must not come too late.** -/
theorem leading_append_iff {more : List (String × String)} (hmore : more.Pairwise fun k k' => k.1 ≤ k'.1)
    (name : String) :
    Leading (keys ++ more) name ↔ Leading keys name ∧ ∀ file, (file, name) ∈ more → ¬ Late keys name file := by
  by_cases hsome : ∃ file, (file, name) ∈ keys
  · obtain ⟨taken, htaken⟩ := hsome
    obtain ⟨first, hfirst, hmem, hname⟩ := exists_find?_eq_some htaken
    replace hfirst : keys.find? (fun k => k.2 = name) = some first := hfirst
    replace hmem : (first.1, name) ∈ keys := by
      rw [← show first.2 = name from hname]
      exact hmem
    have hboth : (keys ++ more).find? (fun k => k.2 = name) = some first := by
      rw [List.find?_append, hfirst, Option.some_or]
    constructor
    · intro hleading
      refine ⟨fun first' hfirst' file hfile => ?_, fun file hfile hlate => ?_⟩
      · rw [hfirst] at hfirst'
        cases hfirst'
        exact hleading first hboth file (List.mem_append_left _ hfile)
      · exact absurd (hlate.2 first.1 hmem) (not_lt.2 (hleading first hboth file (List.mem_append_right _ hfile)))
    · rintro ⟨hleading, hnone⟩ first' hfirst' file hfile
      rw [hboth] at hfirst'
      cases hfirst'
      rcases List.mem_append.1 hfile with hfile | hfile
      · exact hleading first hfirst file hfile
      · refine not_lt.1 fun hlt => hnone file hfile ⟨⟨taken, htaken⟩, fun file' hfile' => ?_⟩
        exact lt_of_lt_of_le hlt (hleading first hfirst file' hfile')
  · -- nothing but the later ones has the name
    have hnone : keys.find? (fun k => k.2 = name) = none := by
      refine List.find?_eq_none.2 fun k hk heq => hsome ⟨k.1, ?_⟩
      rw [← show k.2 = name by simpa using heq]
      exact hk
    refine iff_of_true (fun first hfirst file hfile => ?_) ⟨fun first hfirst => ?_, fun _ _ hlate => hsome hlate.1⟩
    · rw [List.find?_append, hnone, Option.none_or] at hfirst
      rcases List.mem_append.1 hfile with hfile | hfile
      · exact absurd ⟨file, hfile⟩ hsome
      · exact leading_of_sorted hmore name first hfirst file hfile
    · rw [hnone] at hfirst
      nomatch hfirst

end CodeAtlas.SymbolTable
