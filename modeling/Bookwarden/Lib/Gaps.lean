import Mathlib.Algebra.Order.Ring.Int
import Mathlib.Data.List.Sort

/-!
# Gaps of a set of integers

Half-open ranges of integers in increasing order, and what of a range a given list does not have.

## Main definitions

* `Gaps.range`, `Gaps.missing`

## Main results

* `Gaps.mem_missing`, `Gaps.pairwise_missing`, `Gaps.length_missing_le`
* `Gaps.missing_append` — two adjacent ranges
* `Gaps.eq_of_mem_iff` — a strictly increasing list is determined by its members
-/

namespace Gaps

/-- The integers from `lo` on and below `hi`. -/
def range (lo hi : ℤ) : List ℤ := (List.range (hi - lo).toNat).map fun k : ℕ => lo + (k : ℤ)

/-- What of a range is not in the list. -/
def missing (lo hi : ℤ) (owned : List ℤ) : List ℤ := (range lo hi).filter fun i => i ∉ owned

variable {lo mid hi i : ℤ} {owned : List ℤ}

theorem mem_range : i ∈ range lo hi ↔ lo ≤ i ∧ i < hi := by
  rw [range, List.mem_map]
  constructor
  · rintro ⟨k, hk, rfl⟩
    have hlt := List.mem_range.mp hk
    omega
  · rintro ⟨hlo, hhi⟩
    refine ⟨(i - lo).toNat, List.mem_range.mpr (by omega), by omega⟩

@[simp] theorem length_range (lo hi : ℤ) : (range lo hi).length = (hi - lo).toNat := by
  simp [range]

theorem pairwise_range (lo hi : ℤ) : (range lo hi).Pairwise (· < ·) := by
  rw [range, List.pairwise_map]
  refine List.pairwise_lt_range.imp ?_
  intro a b hab
  omega

theorem range_append (h : lo ≤ mid) (h' : mid ≤ hi) : range lo mid ++ range mid hi = range lo hi := by
  have hlength : (hi - lo).toNat = (mid - lo).toNat + (hi - mid).toNat := by omega
  rw [range, range, range, hlength, List.range_add, List.map_append, List.map_map]
  congr 1
  refine List.map_congr_left fun k _ => ?_
  show mid + (k : ℤ) = lo + (((mid - lo).toNat + k : ℕ) : ℤ)
  omega

theorem mem_missing : i ∈ missing lo hi owned ↔ (lo ≤ i ∧ i < hi) ∧ i ∉ owned := by
  rw [missing, List.mem_filter, mem_range, decide_eq_true_eq]

theorem pairwise_missing (lo hi : ℤ) (owned : List ℤ) :
    (missing lo hi owned).Pairwise (· < ·) :=
  (pairwise_range lo hi).sublist List.filter_sublist

theorem length_missing_le (lo hi : ℤ) (owned : List ℤ) :
    (missing lo hi owned).length ≤ (hi - lo).toNat := by
  have hle := List.length_filter_le (fun i => decide (i ∉ owned)) (range lo hi)
  rwa [length_range] at hle

theorem missing_append (h : lo ≤ mid) (h' : mid ≤ hi) :
    missing lo mid owned ++ missing mid hi owned = missing lo hi owned := by
  rw [missing, missing, missing, ← List.filter_append, range_append h h']

theorem missing_congr {owned' : List ℤ} (h : ∀ i, i ∈ owned ↔ i ∈ owned') :
    missing lo hi owned = missing lo hi owned' := by
  refine List.filter_congr fun i _ => ?_
  rw [decide_eq_decide, h i]

theorem range_eq_missing (h : ∀ i ∈ owned, hi ≤ i) : range lo hi = missing lo hi owned := by
  symm
  rw [missing, List.filter_eq_self]
  intro i hi'
  rw [decide_eq_true_eq]
  intro hmem
  have hlt := (mem_range.mp hi').2
  have hle := h i hmem
  omega

/-- A list in strictly increasing order is determined by its members. -/
theorem eq_of_mem_iff {xs ys : List ℤ} (hxs : xs.Pairwise (· < ·)) (hys : ys.Pairwise (· < ·))
    (h : ∀ i, i ∈ xs ↔ i ∈ ys) : xs = ys := by
  have hperm : xs.Perm ys := (List.perm_ext_iff_of_nodup (hxs.imp fun hab => ne_of_lt hab)
    (hys.imp fun hab => ne_of_lt hab)).mpr h
  exact hperm.eq_of_pairwise (fun a b _ _ hab hba => absurd (hab.trans hba) (lt_irrefl a)) hxs hys

/-- The end of a range that the list has is no gap. -/
theorem length_missing_of_mem (hlo : lo ∈ owned) (hhi : hi ∈ owned) :
    (missing lo (hi + 1) owned).length ≤ (hi - lo - 1).toNat := by
  have hinner : missing lo (hi + 1) owned = missing (lo + 1) hi owned := by
    refine eq_of_mem_iff (pairwise_missing ..) (pairwise_missing ..) fun i => ?_
    rw [mem_missing, mem_missing]
    constructor
    · rintro ⟨⟨hle, hlt⟩, hnot⟩
      have hne : i ≠ lo := fun heq => hnot (heq ▸ hlo)
      have hne' : i ≠ hi := fun heq => hnot (heq ▸ hhi)
      exact ⟨⟨by omega, by omega⟩, hnot⟩
    · rintro ⟨⟨hle, hlt⟩, hnot⟩
      exact ⟨⟨by omega, by omega⟩, hnot⟩
  have hle := length_missing_le (lo + 1) hi owned
  rw [hinner]
  omega

end Gaps
