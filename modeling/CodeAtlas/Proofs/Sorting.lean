import CodeAtlas.Text.Pieces
import Mathlib.Data.String.Basic
import Mathlib.Order.Basic
/-!
  Sorted lists.

  Records are sorted by a rank, and ones of the same rank keep their order.  So a sorted list depends only on the
  records of each rank, in their order (`mergeSort_eq_of_rank`).  Records with different names stand in the strict
  order of their names (`pairwise_lt_mergeSort`).

  The first of these is put together of three facts: sorting is stable, so that it does not touch the records of one
  rank (`filter_rank_mergeSort`); its result is sorted (`sorted_mergeSort_of_rank`); and of sorted lists with the same
  records of each rank there is only one (`eq_of_filter_rank`).
-/
namespace CodeAtlas

/-! ## Stable sorting -/

section Rank

variable {α κ : Type} [LinearOrder κ] {le : α → α → Bool} {rank : α → κ} {xs ys : List α}

/-- Comparing ranks is transitive, as sorting needs it to be. -/
theorem rank_trans (hle : ∀ a b, le a b = true ↔ rank a ≤ rank b) (a b c : α) (hab : le a b = true)
    (hbc : le b c = true) : le a c = true :=
  (hle a c).2 (((hle a b).1 hab).trans ((hle b c).1 hbc))

theorem rank_total (hle : ∀ a b, le a b = true ↔ rank a ≤ rank b) (a b : α) : (le a b || le b a) = true := by
  rw [Bool.or_eq_true, hle, hle]
  exact le_total _ _

/-- The records of one rank stay in their order. -/
theorem filter_rank_mergeSort (hle : ∀ a b, le a b = true ↔ rank a ≤ rank b) (xs : List α) (k : κ) :
    (xs.mergeSort le).filter (fun a => rank a = k) = xs.filter fun a => rank a = k := by
  have hties : (xs.filter fun a => rank a = k).Pairwise fun a b => le a b = true := by
    refine List.pairwise_of_forall_mem_list fun a ha b hb => (hle a b).2 ?_
    rw [of_decide_eq_true (List.mem_filter.1 ha).2, of_decide_eq_true (List.mem_filter.1 hb).2]
  -- stability: the records of the rank are a part of the sorted list, and there are no others of that rank in it
  have hsub := (List.sublist_mergeSort (rank_trans hle) (rank_total hle) hties List.filter_sublist).filter
    fun a => rank a = k
  rw [List.filter_filter] at hsub
  simp only [Bool.and_self] at hsub
  exact (hsub.eq_of_length ((List.mergeSort_perm xs le).filter _).length_eq.symm).symm

/-- Lists with the same records of each rank have the same records. -/
theorem mem_iff_of_filter_rank (h : ∀ k, xs.filter (fun a => rank a = k) = ys.filter fun a => rank a = k) (a : α) :
    a ∈ xs ↔ a ∈ ys := by
  have hk : a ∈ xs.filter (fun b => rank b = rank a) ↔ a ∈ ys.filter fun b => rank b = rank a := by
    rw [h]
  simpa using hk

/-- Sorted lists with the same records of each rank, in the same order, are equal. -/
theorem eq_of_filter_rank (hx : xs.Pairwise fun a b => rank a ≤ rank b)
    (hy : ys.Pairwise fun a b => rank a ≤ rank b)
    (h : ∀ k, xs.filter (fun a => rank a = k) = ys.filter fun a => rank a = k) : xs = ys := by
  have hmem := mem_iff_of_filter_rank h
  induction xs generalizing ys with
  | nil => exact (List.eq_nil_iff_forall_not_mem.2 fun a ha => List.not_mem_nil ((hmem a).2 ha)).symm
  | cons a xs ih =>
    cases ys with
    | nil => exact absurd ((hmem a).1 List.mem_cons_self) List.not_mem_nil
    | cons b ys =>
      rw [List.pairwise_cons] at hx hy
      -- both heads are least, so they are of one rank and the first ones of it
      have hab : rank a ≤ rank b := by
        rcases List.mem_cons.1 ((hmem b).2 List.mem_cons_self) with rfl | hb
        · exact le_refl _
        · exact hx.1 b hb
      have hba : rank b ≤ rank a := by
        rcases List.mem_cons.1 ((hmem a).1 List.mem_cons_self) with rfl | ha
        · exact le_refl _
        · exact hy.1 a ha
      have hrank : rank b = rank a := le_antisymm hba hab
      have hhead := h (rank a)
      rw [List.filter_cons_of_pos (by simp), List.filter_cons_of_pos (by simp [hrank])] at hhead
      obtain rfl := (List.cons.inj hhead).1
      have hrest : ∀ k, xs.filter (fun c => rank c = k) = ys.filter fun c => rank c = k := by
        intro k
        have hk := h k
        rw [List.filter_cons, List.filter_cons] at hk
        split at hk
        · exact (List.cons.inj hk).2
        · exact hk
      rw [ih hx.2 hy.2 hrest (mem_iff_of_filter_rank hrest)]

/-- The sorted list is in the order of the ranks. -/
theorem sorted_mergeSort_of_rank (hle : ∀ a b, le a b = true ↔ rank a ≤ rank b) (xs : List α) :
    (xs.mergeSort le).Pairwise fun a b => rank a ≤ rank b :=
  (List.pairwise_mergeSort (rank_trans hle) (rank_total hle) xs).imp fun {a b} => (hle a b).1

/-- **A stable sort sees the records of each rank only.** -/
theorem mergeSort_eq_of_rank (hle : ∀ a b, le a b = true ↔ rank a ≤ rank b)
    (h : ∀ k, xs.filter (fun a => rank a = k) = ys.filter fun a => rank a = k) :
    xs.mergeSort le = ys.mergeSort le := by
  refine eq_of_filter_rank (sorted_mergeSort_of_rank hle xs) (sorted_mergeSort_of_rank hle ys) fun k => ?_
  rw [filter_rank_mergeSort hle, filter_rank_mergeSort hle, h]

end Rank

/-! ## Names -/

/-- The order of texts that sorting uses is their order. -/
theorem Text.le_iff (a b : String) : Text.le a b = true ↔ a ≤ b := by
  rw [Text.le, Bool.not_eq_true', decide_eq_false_iff_not, not_lt]

/-- Records with different names are in the strict order of their names. -/
theorem pairwise_lt_mergeSort {α : Type} (name : α → String) {xs : List α} (h : (xs.map name).Nodup) :
    (xs.mergeSort fun a b => Text.le (name a) (name b)).Pairwise fun a b => name a < name b := by
  have hle := sorted_mergeSort_of_rank (fun a b => Text.le_iff (name a) (name b)) xs
  have hne : (xs.mergeSort fun a b => Text.le (name a) (name b)).Pairwise fun a b => name a ≠ name b :=
    List.pairwise_map.1 (((List.mergeSort_perm _ _).map name).nodup_iff.2 h)
  exact (hle.and hne).imp fun h => lt_of_le_of_ne h.1 h.2

end CodeAtlas
