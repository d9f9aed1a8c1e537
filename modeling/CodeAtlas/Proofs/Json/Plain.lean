import CodeAtlas.Json.Writer
import Mathlib.Data.Nat.Digits.Defs
/-!
  A JSON document is plain text.

  Whatever a value says, its JSON text has only characters of one byte: every other character is escaped.  So there
  is nothing in it that has no bytes, and the bytes of a document are read back as its characters (`utf8?_of_plain`).

  Being plain is kept by everything that texts are put together with, so the lemmas follow the writer from the inside
  to the outside: digits and numbers, escaped characters and texts, and then values with parts, where the two lists of
  parts call back to the values (`isPlain_prettyAt`).
-/
namespace CodeAtlas

namespace Text

/-- Characters of one byte. -/
def IsPlain (cs : List Char) : Prop := ∀ c ∈ cs, c.toNat < 0x80

instance (cs : List Char) : Decidable (IsPlain cs) := List.decidableBAll (fun c : Char => c.toNat < 0x80) cs

variable {cs ds : List Char} {s t : String}

theorem isPlain_append (hcs : IsPlain cs) (hds : IsPlain ds) : IsPlain (cs ++ ds) :=
  List.forall_mem_append.2 ⟨hcs, hds⟩

theorem isPlain_cons {c : Char} (hc : c.toNat < 0x80) (hcs : IsPlain cs) : IsPlain (c :: cs) :=
  List.forall_mem_cons.2 ⟨hc, hcs⟩

/-- What is put together of plain texts is plain. -/
theorem isPlain_flatMap {α : Type} {f : α → List Char} {xs : List α} (h : ∀ x ∈ xs, IsPlain (f x)) :
    IsPlain (xs.flatMap f) := by
  intro c hc
  obtain ⟨x, hx, hc⟩ := List.mem_flatMap.1 hc
  exact h x hx c hc

theorem isPlain_concat (hs : IsPlain s.toList) (ht : IsPlain t.toList) : IsPlain (s ++ t).toList := by
  rw [String.toList_append]
  exact isPlain_append hs ht

theorem isPlain_join {sep : String} (hsep : IsPlain sep.toList) {texts : List String}
    (h : ∀ s ∈ texts, IsPlain s.toList) : IsPlain (join sep texts).toList := by
  induction texts with
  | nil => exact fun c hc => absurd hc (by simp [join])
  | cons s rest ih =>
    obtain ⟨hs, hrest⟩ := List.forall_mem_cons.1 h
    cases rest with
    | nil => exact hs
    | cons t rest => exact isPlain_concat (isPlain_concat hs hsep) (ih hrest)

/-- The bytes of a plain text are read back as its characters. -/
theorem utf8?_of_plain (h : IsPlain s.toList) :
    ∃ bytes, utf8? s = some bytes ∧ String.fromUTF8? bytes = some s := by
  have hmark : s.toList.contains mark = false := by
    rw [← Bool.not_eq_true, List.contains_iff_mem]
    intro hmem
    exact absurd (h mark hmem) (by decide)
  refine ⟨s.toUTF8, ?_, ?_⟩
  · unfold utf8? characters?
    rw [hmark, if_neg Bool.false_ne_true, Option.map_some, String.ofList_toList]
  · have hvalid : s.toUTF8.IsValidUTF8 := s.isValidUTF8
    unfold String.fromUTF8?
    rw [dif_pos hvalid]
    rfl

/-! ## Numbers -/

/-- A number below that bound is the number of its character. -/
theorem isPlain_ofNat {n : Nat} (h : n < 0x80) : (Char.ofNat n).toNat < 0x80 := by
  rw [toNat_ofNat (Or.inl (by omega))]
  exact h

theorem isPlain_hexDigits (width n : Nat) : IsPlain (hexDigits width n) := by
  induction width generalizing n with
  | zero => exact fun c hc => nomatch hc
  | succ width ih =>
    rw [hexDigits]
    refine isPlain_append (ih _) (List.forall_mem_singleton.2 ?_)
    unfold hexDigit
    split <;> exact isPlain_ofNat (by omega)

theorem isPlain_toString_nat (n : Nat) : IsPlain (toString n).toList := by
  intro c hc
  rw [Nat.toString_eq_ofList_toDigits, String.toList_ofList] at hc
  have hdigit := Nat.isDigit_of_mem_toDigits (by decide) (by decide) hc
  rw [Char.isDigit, Bool.and_eq_true, decide_eq_true_iff, decide_eq_true_iff] at hdigit
  have hle : c.toNat ≤ 0x39 := hdigit.2
  omega

/-- With a minus in front, if need be. -/
theorem isPlain_toString_int (n : Int) : IsPlain (toString n).toList := by
  rw [Int.toString_eq_repr, Int.repr_eq_if]
  split
  · exact isPlain_toString_nat n.toNat
  · exact isPlain_concat (by decide) (isPlain_toString_nat (-n).toNat)

end Text

namespace Double

open Text

/-- One digit with each step, in front of the others. -/
theorem isPlain_digitsOnto (fuel n : Nat) {acc : List Char} (h : IsPlain acc) : IsPlain (digitsOnto fuel n acc) := by
  induction fuel generalizing n acc with
  | zero => exact h
  | succ fuel ih =>
    have hacc : IsPlain (Char.ofNat (0x30 + n % 10) :: acc) := isPlain_cons (isPlain_ofNat (by omega)) h
    rw [digitsOnto]
    split
    · exact hacc
    · exact ih _ hacc

theorem isPlain_decimalDigits (n : Nat) : IsPlain (decimalDigits n) := isPlain_digitsOnto _ n (fun _ h => nomatch h)

theorem isPlain_replicate {c : Char} (h : c.toNat < 0x80) (n : Nat) : IsPlain (List.replicate n c) := by
  intro d hd
  rw [(List.mem_replicate.1 hd).2]
  exact h

/-- Zeros, the digits, a point and an exponent: whichever of the forms is chosen, its parts come from these. -/
theorem isPlain_layout {digits : List Char} (h : IsPlain digits) (point : Int) : IsPlain (layout digits point) := by
  have hpart : ∀ {part : List Char}, part ⊆ digits → IsPlain part := fun hsub c hc => h c (hsub hc)
  have hsize := isPlain_decimalDigits (point - 1).natAbs
  unfold layout
  simp only
  split
  · split
    · exact isPlain_cons (by decide) (isPlain_cons (by decide) (isPlain_append (isPlain_replicate (by decide) _) h))
    · refine isPlain_append (isPlain_append (hpart (List.take_subset _ _)) (isPlain_replicate (by decide) _))
        (isPlain_cons (by decide) ?_)
      split
      · decide
      · exact hpart (List.drop_subset _ _)
  · refine isPlain_append (isPlain_append (hpart (List.take_subset _ _)) ?_)
      (isPlain_cons (by decide) (isPlain_cons ?_ ?_))
    · split
      · decide
      · exact isPlain_cons (by decide) (hpart (List.drop_subset _ _))
    · split <;> decide
    · split
      · exact isPlain_cons (by decide) hsize
      · exact hsize

/-- A number is a sign and its digits, or it has one of the special texts. -/
theorem isPlain_text {special : SpecialTexts} (hinfinity : IsPlain special.infinity.toList)
    (hundefined : IsPlain special.undefined.toList) (x : Double) : IsPlain (x.text special).toList := by
  have hsign : IsPlain (if x.isNegative then "-" else "").toList := by split <;> decide
  have hmagnitude : IsPlain x.magnitudeText := by
    unfold magnitudeText
    split
    · decide
    · refine isPlain_layout (fun c hc => ?_) _
      have hmem : c ∈ (decimalDigits x.shortest.1).reverse :=
        (List.dropWhile_sublist _).subset (List.mem_reverse.1 hc)
      exact isPlain_decimalDigits _ c (List.mem_reverse.1 hmem)
  unfold text
  simp only
  split
  · exact hundefined
  · split
    · exact isPlain_concat hsign hinfinity
    · refine isPlain_concat hsign ?_
      rw [String.toList_ofList]
      exact hmagnitude

end Double

namespace Json

open Text

/-! ## Texts -/

theorem isPlain_escapedUnit (n : Nat) : IsPlain (escapedUnit n) :=
  isPlain_cons (by decide) (isPlain_cons (by decide) (isPlain_hexDigits 4 n))

/-- What can be printed in one byte stands for itself; all the rest is escaped, in two parts beyond the first plane. -/
theorem isPlain_escapedPoint (n : Nat) : IsPlain (escapedPoint n) := by
  unfold escapedPoint
  iterate 7 split; decide
  split
  · next hprintable =>
    rw [Bool.and_eq_true, decide_eq_true_iff, decide_eq_true_iff] at hprintable
    exact List.forall_mem_singleton.2 (isPlain_ofNat (by omega))
  · split
    · exact isPlain_escapedUnit n
    · exact isPlain_append (isPlain_escapedUnit _) (isPlain_escapedUnit _)

/-- So texts are plain, with whatever is in them. -/
theorem isPlain_writtenText (s : String) : IsPlain (writtenText s).toList := by
  unfold writtenText
  rw [String.toList_ofList]
  refine isPlain_append (isPlain_cons (by decide) ?_) (by decide)
  exact isPlain_flatMap fun n _ => isPlain_escapedPoint n

theorem isPlain_writtenScalar (v : Json) : IsPlain (writtenScalar v).toList := by
  cases v with
  | null => decide
  | bool b => cases b <;> decide
  | int n => exact isPlain_toString_int n
  | float x => exact Double.isPlain_text (by decide) (by decide) x
  | str s => exact isPlain_writtenText s
  | arr items => exact show IsPlain "[]".toList by decide
  | obj fields => exact show IsPlain "\x7b\x7d".toList by decide

/-! ## Values -/

theorem isPlain_lineStart (level : Nat) : IsPlain (lineStart level).toList := by
  unfold lineStart
  rw [String.toList_ofList]
  exact isPlain_cons (by decide) (Double.isPlain_replicate (by decide) _)

/-- The text of a list or an object: something on each line, between two brackets. -/
theorem isPlain_block {first last : String} (hfirst : IsPlain first.toList) (hlast : IsPlain last.toList) (level : Nat)
    {texts : List String} (h : ∀ s ∈ texts, IsPlain s.toList) :
    IsPlain (first ++ lineStart (level + 1) ++ Text.join ("," ++ lineStart (level + 1)) texts ++ lineStart level ++
      last).toList := by
  have hsep : IsPlain ("," ++ lineStart (level + 1)).toList := isPlain_concat (by decide) (isPlain_lineStart _)
  have hstart := isPlain_concat hfirst (isPlain_lineStart (level + 1))
  exact isPlain_concat (isPlain_concat (isPlain_concat hstart (isPlain_join hsep h)) (isPlain_lineStart level)) hlast

mutual

/-- The text of a value has plain characters only. -/
theorem isPlain_prettyAt (level : Nat) : (v : Json) → IsPlain (prettyAt level v).toList
  | arr (v :: rest) => isPlain_block (by decide) (by decide) level (isPlain_prettyItems (level + 1) (v :: rest))
  | obj (f :: rest) => isPlain_block (by decide) (by decide) level (isPlain_prettyFields (level + 1) (f :: rest))
  | null => isPlain_writtenScalar null
  | bool b => isPlain_writtenScalar (bool b)
  | int n => isPlain_writtenScalar (int n)
  | float x => isPlain_writtenScalar (float x)
  | str s => isPlain_writtenScalar (str s)
  | arr [] => isPlain_writtenScalar (arr [])
  | obj [] => isPlain_writtenScalar (obj [])

/-- The items of a list, one level further in. -/
theorem isPlain_prettyItems (level : Nat) : (items : List Json) → ∀ s ∈ prettyItems level items, IsPlain s.toList
  | [] => fun _ h => nomatch h
  | v :: rest => List.forall_mem_cons.2 ⟨isPlain_prettyAt level v, isPlain_prettyItems level rest⟩

/-- The fields of an object, each with its name and a colon. -/
theorem isPlain_prettyFields (level : Nat) :
    (fields : List (Key × Json)) → ∀ s ∈ prettyFields level fields, IsPlain s.toList
  | [] => fun _ h => nomatch h
  | (k, v) :: rest => List.forall_mem_cons.2
    ⟨isPlain_concat (isPlain_concat (isPlain_writtenText k.text) (by decide)) (isPlain_prettyAt level v),
      isPlain_prettyFields level rest⟩

end

/-- **A JSON text has plain characters only.** -/
theorem isPlain_pretty (v : Json) : IsPlain v.pretty.toList := isPlain_prettyAt 0 v

end Json

end CodeAtlas
