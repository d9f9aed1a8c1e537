import CodeAtlas.EdgeKind
import CodeAtlas.Proofs.Json.Plain
import CodeAtlas.Proofs.Text.Trimming
import Mathlib.Data.List.DropRight
/-!
  Names that stand for the same kind of edge.

    1. The kind of a name is that of its plain form, where letters are changed one by one (`ofRelation_eq`).  Beyond
       ASCII the lower-case form is more than that, but then there is a letter in it that no known name has
       (`exists_foreign_lowerAfter`), and neither form stands for anything.
    2. All ways to write a name have the same plain form (`Bare.plain_trim_eq`).
    3. A name and its plural have the same stem.  Names with a stem that is not known are plain dependencies in both
       numbers; the stems that are known are looked at one by one (`ofNormalized_append_eq_iff`).

  The last step does not always succeed: a plural s is ignored for the names under which the kinds are written, and not
  for their synonyms.  `unpaired` has the names that are left alone by this.
-/
namespace CodeAtlas

namespace Text

/-! ## Lower case -/

/-- Beyond ASCII, changing one character by itself changes nothing. -/
theorem toLower_eq_self {c : Char} (h : 0x80 ≤ c.toNat) : c.toLower = c := by
  unfold Char.toLower
  have hnot : ¬ (c.val ≥ 'A'.val ∧ c.val ≤ 'Z'.val) := by
    rintro ⟨-, hz⟩
    have : c.toNat ≤ 90 := UInt32.le_iff_toNat_le.1 hz
    omega
  exact dif_neg hnot

/-- The lower-case form of a plain text goes character by character. -/
theorem lowerAfter_of_isPlain {cs : List Char} (h : IsPlain cs) (before : List Char) :
    lowerAfter before cs = cs.map Char.toLower := by
  induction cs generalizing before with
  | nil => rfl
  | cons c rest ih =>
    obtain ⟨hc, hrest⟩ := List.forall_mem_cons.1 h
    have hdotted : c ≠ 'İ' := by
      rintro rfl
      exact absurd hc (by decide)
    have hsigma : c ≠ 'Σ' := by
      rintro rfl
      exact absurd hc (by decide)
    have hchar : lowerChar c = c.toLower := if_pos hc
    rw [lowerAfter, if_neg hdotted, if_neg hsigma, ih hrest, hchar]
    rfl

/-- What letters beyond ASCII have for lower-case forms: other such letters, and the sign of Kelvin has a plain k. -/
def Foreign (c : Char) : Prop := 0x80 ≤ c.toNat ∨ c = 'k'

instance (c : Char) : Decidable (Foreign c) := inferInstanceAs (Decidable (_ ∨ _))

/-- In the table, a run is that of the sign of Kelvin, or all its lower-case forms are beyond the plain letters. -/
theorem lowerRuns_foreign : ∀ run ∈ lowerRuns, run.1 = 0x212A ∧ run.2.1 = 0x212A ∧ run.2.2.2 = -8383 ∨
    0x80 ≤ run.1 + run.2.2.2 ∧ (run.2.1 + run.2.2.2 < 0xD800 ∨
      0xDFFF < run.1 + run.2.2.2 ∧ run.2.1 + run.2.2.2 < 0x110000) := by
  decide +kernel

/-- The table has the changes of single letters, and what is not in it stays. -/
theorem foreign_lowerChar {c : Char} (h : 0x80 ≤ c.toNat) : Foreign (lowerChar c) := by
  unfold lowerChar
  simp only
  rw [if_neg (Nat.not_lt.2 h)]
  split
  · next first last step distance hrun =>
    have hbounds := List.find?_some hrun
    simp only [Bool.and_eq_true, decide_eq_true_iff] at hbounds
    obtain ⟨⟨hfirst, hlast⟩, -⟩ := hbounds
    have hforms := lowerRuns_foreign _ (List.mem_of_find?_eq_some hrun)
    dsimp only at hforms
    rcases hforms with ⟨hkelvin, hkelvin', hdistance⟩ | ⟨hlow, hvalid⟩
    · right
      have hc : c.toNat = 0x212A := by omega
      rw [hc, hdistance]
      rfl
    · left
      rw [toNat_ofNat (by unfold Nat.isValidChar; omega)]
      omega
  · exact .inl h

/-- A letter beyond ASCII leaves something in the lower-case form that no known name has. -/
theorem exists_foreign_lowerAfter {cs : List Char} {c : Char} (hc : c ∈ cs) (h : 0x80 ≤ c.toNat)
    (before : List Char) : ∃ d ∈ lowerAfter before cs, Foreign d := by
  induction cs generalizing before with
  | nil => nomatch hc
  | cons first rest ih =>
    rw [lowerAfter]
    rcases List.mem_cons.1 hc with rfl | hc
    · -- three ways to write a letter in lower case, and each leaves one beyond the known names
      suffices hhere : ∃ d ∈ (if c = 'İ' then ['i', '\u0307']
          else if c = 'Σ' then if nextIsCased before && !nextIsCased rest then ['ς'] else ['σ']
          else [lowerChar c]), Foreign d by
        obtain ⟨d, hd, hforeign⟩ := hhere
        exact ⟨d, List.mem_append_left _ hd, hforeign⟩
      split
      · exact ⟨'\u0307', by decide, by decide⟩
      · split
        · split
          · exact ⟨'ς', by decide, by decide⟩
          · exact ⟨'σ', by decide, by decide⟩
        · exact ⟨_, List.mem_singleton_self _, foreign_lowerChar h⟩
    · obtain ⟨d, hd, hforeign⟩ := ih hc (first :: before)
      exact ⟨d, List.mem_append_right _ hd, hforeign⟩

end Text

namespace EdgeKind

open Text

/-! ## Names without their case -/

/-- A letter without its case, and a dash as an underscore. -/
def plainLetter (c : Char) : Char := if c = '-' then '_' else c.toLower

/-- A name in lower case and with underscores for dashes. -/
def plain (name : String) : String := String.ofList (name.toList.map plainLetter)

/-- So the plain form changes ASCII letters and dashes only. -/
theorem plainLetter_eq_self {c : Char} (h : 0x80 ≤ c.toNat) : plainLetter c = c := by
  have hdash : c ≠ '-' := by
    rintro rfl
    exact absurd h (by decide)
  rw [plainLetter, if_neg hdash, toLower_eq_self h]

/-- What holds of all plain characters is seen by looking at them. -/
theorem of_plain {P : Char → Prop} (h : ∀ n < 0x80, P (Char.ofNat n)) {c : Char} (hc : c.toNat < 0x80) : P c :=
  Char.ofNat_toNat c ▸ h c.toNat hc

/-- White space stays white space, and nothing becomes one. -/
theorem isBlank_plainLetter (c : Char) : isBlank (plainLetter c) = isBlank c := by
  rcases Nat.lt_or_ge c.toNat 0x80 with hc | hc
  · exact of_plain (P := fun c => isBlank (plainLetter c) = isBlank c) (by decide +kernel) hc
  · rw [plainLetter_eq_self hc]

/-- Only the two letters s have this plain form. -/
theorem eq_of_plainLetter_eq {c : Char} (h : plainLetter c = 's') : c = 's' ∨ c = 'S' := by
  rcases Nat.lt_or_ge c.toNat 0x80 with hc | hc
  · exact of_plain (P := fun c => plainLetter c = 's' → c = 's' ∨ c = 'S') (by decide +kernel) hc h
  · rw [plainLetter_eq_self hc] at h
    exact .inl h

/-! ## Known names -/

/-- The names that are known, be it as the name of a kind or as a synonym. -/
def known : List String := synonyms.map (·.1) ++ all.map name

/-- A name without the s at its end. -/
def stem (text : String) : String := trimEndOf ['s'] text

theorem toList_stem (text : String) : (stem text).toList = text.toList.rdropWhile ['s'].contains := by
  rw [stem, trimEndOf, String.toList_ofList]
  rfl

/-- The plural of a name has its stem. -/
theorem stem_append (text : String) : stem (text ++ "s") = stem text := by
  rw [← String.toList_inj, toList_stem, toList_stem, String.toList_append]
  exact List.rdropWhile_concat_pos _ _ 's' rfl

theorem stem_stem (text : String) : stem (stem text) = stem text := by
  rw [← String.toList_inj, toList_stem, toList_stem, List.rdropWhile_idempotent]

theorem mem_known_of_synonym? {text : String} {k : EdgeKind} (h : synonym? text = some k) : text ∈ known :=
  List.mem_append_left _ (List.mem_map_of_mem (f := (·.1)) (OrderedMap.mem_entries_of_lookup h))

theorem mem_known_of_named? {text : String} {k : EdgeKind} (h : named? text = some k) : text ∈ known := by
  unfold named? at h
  have hname := List.find?_some h
  rw [decide_eq_true_iff] at hname
  exact List.mem_append_right _ (hname ▸ List.mem_map_of_mem (List.mem_of_find?_eq_some h))

/-- A name with a stem that no known name has is a plain dependency. -/
theorem ofNormalized_eq_depends {text : String} (h : ∀ name ∈ known, stem name ≠ stem text) :
    ofNormalized text = depends := by
  have hnamed {name : String} (hstem : stem name = stem text) : named? name = none :=
    Option.eq_none_iff_forall_not_mem.2 fun _ hk => h name (mem_known_of_named? hk) hstem
  have hsynonym : synonym? text = none :=
    Option.eq_none_iff_forall_not_mem.2 fun _ hk => h text (mem_known_of_synonym? hk) rfl
  simp only [ofNormalized, hsynonym, hnamed rfl, hnamed (stem_append text)]
  rw [show trimEndOf ['s'] text = stem text from rfl, hnamed (stem_stem text)]
  rfl

/-- Looked at one by one: the names are in ASCII, and there is no k in them, which the sign of Kelvin would give. -/
theorem known_plain : ∀ name ∈ known, IsPlain name.toList ∧ 'k' ∉ name.toList := by decide +kernel

/-- A name with such a letter is a plain dependency: no known name has a letter beyond ASCII, and none has a k. -/
theorem ofNormalized_of_foreign {text : String} {c : Char} (hc : c ∈ text.toList) (h : Foreign c) :
    ofNormalized text = depends := by
  refine ofNormalized_eq_depends fun name hname hstem => ?_
  have hstay : c ∈ (stem text).toList := by
    obtain ⟨after, hafter, hclass⟩ := exists_eq_dropEndWhile_append ['s'].contains text.toList
    rw [hafter, List.mem_append] at hc
    rcases hc with hc | hc
    · rwa [toList_stem]
    · obtain rfl : c = 's' := List.mem_singleton.1 (List.contains_iff_mem.1 (hclass c hc))
      exact absurd h (by decide)
  rw [← hstem, toList_stem] at hstay
  have hin : c ∈ name.toList := (List.rdropWhile_prefix _ _).subset hstay
  obtain ⟨hplain, hk⟩ := known_plain name hname
  rcases h with hbeyond | rfl
  · exact absurd (hplain c hin) (Nat.not_lt.2 hbeyond)
  · exact hk hin

/-- The kind of a name is that of its plain form: where the two forms differ, no kind is known by the name. -/
theorem ofRelation_eq (written : String) : ofRelation written = ofNormalized (plain (trim written)) := by
  unfold ofRelation normalized
  generalize trim written = text
  by_cases hplain : IsPlain text.toList
  -- letter by letter both forms are the same
  · have hletter : ∀ c ∈ text.toList, (if c.toLower = '-' then '_' else c.toLower) = plainLetter c := fun c hc =>
      of_plain (P := fun c => (if c.toLower = '-' then '_' else c.toLower) = plainLetter c) (by decide +kernel)
        (hplain c hc)
    rw [lower, lowerAfter_of_isPlain hplain, replaceChar, String.toList_ofList, List.map_map, plain]
    exact congrArg (fun cs => ofNormalized (String.ofList cs)) (List.map_congr_left hletter)
  · obtain ⟨c, hc, hbeyond⟩ : ∃ c ∈ text.toList, 0x80 ≤ c.toNat := by
      simpa only [IsPlain, not_forall, exists_prop, not_lt] using hplain
    obtain ⟨d, hd, hforeign⟩ := exists_foreign_lowerAfter hc hbeyond []
    have hleft : d ∈ (replaceChar '-' '_' (lower text)).toList := by
      rw [replaceChar, lower, String.toList_ofList, String.toList_ofList]
      refine List.mem_map.2 ⟨d, hd, if_neg ?_⟩
      rintro rfl
      exact absurd hforeign (by decide)
    have hright : c ∈ (plain text).toList := by
      rw [plain, String.toList_ofList]
      exact List.mem_map.2 ⟨c, hc, plainLetter_eq_self hbeyond⟩
    -- the forms may differ, but neither is known
    rw [ofNormalized_of_foreign hleft hforeign, ofNormalized_of_foreign hright (.inl hbeyond)]

/-! ## Ways to write a name -/

/-- A way to write a name: its letters in any case, dashes and underscores for each other, white space around all. -/
def Spells (name written : String) : Prop :=
  ∃ before middle after, written.toList = before ++ middle ++ after ∧ (∀ c ∈ before, isBlank c = true) ∧
    (∀ c ∈ after, isBlank c = true) ∧ middle.map plainLetter = name.toList.map plainLetter

/-- A name without white space around it. -/
structure Bare (name : String) : Prop where
  first : ∀ c ∈ name.toList.head?, isBlank c = false
  last : ∀ c ∈ name.toList.getLast?, isBlank c = false

/-- White space at an end is seen in the plain form too. -/
theorem not_isBlank_of_map_eq {end₁ end₂ : Option Char} (h : end₁.map plainLetter = end₂.map plainLetter)
    (hend : ∀ c ∈ end₂, isBlank c = false) : ∀ c ∈ end₁, isBlank c = false := by
  rintro c rfl
  obtain ⟨d, hd, hletter⟩ := Option.map_eq_some_iff.1 h.symm
  rw [← isBlank_plainLetter c, ← hletter, isBlank_plainLetter d]
  exact hend d hd

/-- All ways to write a name have its plain form. -/
theorem Bare.plain_trim_eq {name written : String} (h : Bare name) (hspells : Spells name written) :
    plain (trim written) = plain name := by
  obtain ⟨before, middle, after, hwritten, hbefore, hafter, hletters⟩ := hspells
  have hfirst : middle.head?.map plainLetter = name.toList.head?.map plainLetter := by
    rw [← List.head?_map, hletters, List.head?_map]
  have hlast : middle.getLast?.map plainLetter = name.toList.getLast?.map plainLetter := by
    rw [← List.getLast?_map, hletters, List.getLast?_map]
  have htrims : TrimsTo isBlank written.toList (String.ofList middle).toList := by
    rw [String.toList_ofList]
    exact ⟨⟨before, after, hwritten, hbefore, hafter⟩, not_isBlank_of_map_eq hfirst h.first,
      not_isBlank_of_map_eq hlast h.last⟩
  rw [trim_eq_iff.2 htrims, plain, String.toList_ofList, hletters, plain]

/-- Therefore all of them stand for what the plain form stands for. -/
theorem Bare.ofRelation_eq_of_spells {name written : String} (h : Bare name) (hspells : Spells name written) :
    ofRelation written = ofNormalized (plain name) := by
  rw [ofRelation_eq, h.plain_trim_eq hspells]

/-! ## Both numbers -/

/-- The names without an s at their end that are known in one number only. -/
def unpaired : List String := ["inherit", "inheritance", "usage", "contain", "has_method"]

theorem ofNormalized_known_stems : ∀ text ∈ known.map stem,
    (ofNormalized (text ++ "s") = ofNormalized text ↔ text ∉ unpaired) := by
  decide +kernel

theorem unpaired_subset : unpaired ⊆ known.map stem := by decide +kernel

/-- A name stands for the same in both numbers unless it is one of a few. -/
theorem ofNormalized_append_eq_iff {text : String} (h : text.toList.getLast? ≠ some 's') :
    ofNormalized (text ++ "s") = ofNormalized text ↔ text ∉ unpaired := by
  have hstem : stem text = text := by
    rw [← String.toList_inj, toList_stem, List.rdropWhile_eq_self_iff]
    intro hne hs
    have hlast : text.toList.getLast hne = 's' := List.mem_singleton.1 (List.contains_iff_mem.1 hs)
    exact h (by rw [List.getLast?_eq_some_getLast hne, hlast])
  by_cases hknown : text ∈ known.map stem
  · exact ofNormalized_known_stems text hknown
  · have hother : ∀ name ∈ known, stem name ≠ stem text := by
      rintro name hname heq
      exact hknown (List.mem_map.2 ⟨name, hname, heq.trans hstem⟩)
    have hunpaired : text ∉ unpaired := fun hmem => hknown (unpaired_subset hmem)
    rw [ofNormalized_eq_depends hother, ofNormalized_eq_depends (stem_append text ▸ hother)]
    exact iff_of_true rfl hunpaired

/-- A bare name that does not end in s, in either case. -/
structure Singular (k : String) : Prop extends Bare k where
  not_plural : ∀ c ∈ k.toList.getLast?, c ≠ 's' ∧ c ≠ 'S'

/-- The two ends of a name decide this, so that it can be seen without going through the name. -/
theorem singular_of_ends {k : String} {first last : Char} (hfirst : k.toList.head? = some first)
    (hlast : k.toList.getLast? = some last) (h : isBlank first = false)
    (h' : isBlank last = false ∧ last ≠ 's' ∧ last ≠ 'S') : Singular k where
  first _ hc := Option.some.inj (hfirst.symm.trans hc) ▸ h
  last _ hc := Option.some.inj (hlast.symm.trans hc) ▸ h'.1
  not_plural _ hc := Option.some.inj (hlast.symm.trans hc) ▸ h'.2

/-- Its plural has no white space around it either. -/
theorem Singular.bare_plural {k : String} (h : Singular k) : Bare (k ++ "s") := by
  have hletter : isBlank 's' = false := by decide
  constructor
  · rw [String.toList_append, List.head?_append]
    cases hk : k.toList.head? with
    | none => exact fun c hc => Option.mem_some.1 hc ▸ hletter
    | some c => exact fun d hd => h.first d (hk.trans hd)
  · have hlast : (k ++ "s").toList.getLast? = some 's' := by
      rw [String.toList_append]
      exact List.getLast?_concat
    rw [hlast]
    exact fun c hc => Option.mem_some.1 hc ▸ hletter

theorem plain_plural (k : String) : plain (k ++ "s") = plain k ++ "s" := by
  rw [plain, String.toList_append, List.map_append, String.ofList_append, plain]
  rfl

/-- A name, the name with an s behind it, and all the ways to write these two stand for one kind. -/
def Agrees (k : String) : Prop :=
  ∀ written, Spells k written ∨ Spells (k ++ "s") written → ofRelation written = ofRelation k

theorem spells_self (name : String) : Spells name name :=
  ⟨[], name.toList, [], by rw [List.nil_append, List.append_nil], List.forall_mem_nil _, List.forall_mem_nil _, rfl⟩

/-- **All ways to write a name in both numbers stand for one kind, unless the name is known in one number only.**
    Case, dashes for underscores and white space around the name never matter. -/
theorem agrees_iff {k : String} (h : Singular k) : Agrees k ↔ plain k ∉ unpaired := by
  have hone {written : String} (hspells : Spells k written) := h.toBare.ofRelation_eq_of_spells hspells
  have hmany {written : String} (hspells : Spells (k ++ "s") written) := h.bare_plural.ofRelation_eq_of_spells hspells
  have hlast : (plain k).toList.getLast? ≠ some 's' := by
    intro hs
    rw [plain, String.toList_ofList, List.getLast?_map] at hs
    obtain ⟨c, hc, hletter⟩ := Option.map_eq_some_iff.1 hs
    rcases eq_of_plainLetter_eq hletter with hc' | hc'
    · exact (h.not_plural c hc).1 hc'
    · exact (h.not_plural c hc).2 hc'
  rw [← ofNormalized_append_eq_iff hlast, ← plain_plural]
  constructor
  · intro hagrees
    rw [← hmany (spells_self _), ← hone (spells_self k)]
    exact hagrees _ (.inr (spells_self _))
  · rintro hnumbers written (hspells | hspells)
    · rw [hone hspells, hone (spells_self k)]
    · rw [hmany hspells, hone (spells_self k), hnumbers]

/-- A name that has a synonym in its plural. -/
theorem agrees_implement : Singular "Implement" ∧ Agrees "Implement" ∧ ofRelation "\tIMPLEMENTS " = implements := by
  have hsingular : Singular "Implement" :=
    singular_of_ends (by decide : _ = some 'I') (by decide : _ = some 't') (by decide) (by decide)
  exact ⟨hsingular, (agrees_iff hsingular).2 (by decide +kernel), by decide +kernel⟩

/-- One usage is a use, and several ones are a plain dependency. -/
theorem not_agrees_usage : Singular "usage" ∧ ofRelation "usage" = uses ∧ ofRelation "usages" = depends ∧
    ¬ Agrees "usage" := by
  have hone : ofRelation "usage" = uses := by decide +kernel
  have hmany : ofRelation "usages" = depends := by decide +kernel
  refine ⟨singular_of_ends (by decide : _ = some 'u') (by decide : _ = some 'e') (by decide) (by decide), hone, hmany,
    fun h => ?_⟩
  have hsame := h "usages" (.inr (spells_self "usages"))
  rw [hone, hmany] at hsame
  nomatch hsame

end EdgeKind

end CodeAtlas
