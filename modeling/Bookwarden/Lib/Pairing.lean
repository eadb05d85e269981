import Mathlib.Data.List.Count
import Mathlib.Data.List.Perm.Basic
import Mathlib.Data.List.Perm.Subperm
import Mathlib.Tactic.Common

/-!
# Lists put side by side

Two collections are put side by side in some order, and every pair has to have one property on the
left or another on the right. Which orders do that is a matter of counting: what lacks the property
on the left must not stand next to what lacks it on the right.

## Main results

* `exists_pairing_iff` — some order does it
* `forall_pairing_iff` — every order does it
* `forall_take_iff` — every order has something among the first few
-/

namespace Pairing

variable {α β : Type*} {p : α → Bool} {q : β → Bool}

/-- In a pairing the two kinds of gaps have places of their own. -/
theorem countP_le_of_zip {xs : List α} {ys : List β} (hlength : xs.length = ys.length)
    (h : ∀ z ∈ xs.zip ys, p z.1 = true ∨ q z.2 = true) :
    xs.countP (fun x => !p x) + ys.countP (fun y => !q y) ≤ xs.length := by
  induction xs generalizing ys with
  | nil =>
    rw [List.length_nil] at hlength
    rw [List.length_eq_zero_iff.mp hlength.symm]
    exact Nat.le_refl _
  | cons x xs ih =>
    cases ys with
    | nil => cases hlength
    | cons y ys =>
      rw [List.zip_cons_cons] at h
      obtain ⟨hhead, htail⟩ := List.forall_mem_cons.mp h
      have hrest := ih (Nat.succ.inj hlength) htail
      rw [List.countP_cons, List.countP_cons, List.length_cons]
      rcases hhead with hx | hy
      · have hy' : (if (!q y) = true then 1 else 0) ≤ 1 := by split <;> omega
        simp only [hx, Bool.not_true, Bool.false_eq_true, if_false]
        omega
      · have hx' : (if (!p x) = true then 1 else 0) ≤ 1 := by split <;> omega
        simp only [hy, Bool.not_true, Bool.false_eq_true, if_false]
        omega

/-- The pairs of two lists whose beginnings and ends are paired. -/
theorem mem_zip_append {as bs : List α} {cs ds : List β} (h : cs.length ≤ as.length) {z : α × β}
    (hz : z ∈ (as ++ bs).zip (cs ++ ds)) : z.1 ∈ as ∨ z.2 ∈ ds := by
  induction as generalizing cs with
  | nil =>
    rw [List.length_nil, Nat.le_zero, List.length_eq_zero_iff] at h
    rw [h, List.nil_append, List.nil_append] at hz
    exact .inr (List.of_mem_zip hz).2
  | cons a as ih =>
    cases cs with
    | nil => exact .inr (List.of_mem_zip hz).2
    | cons c cs =>
      rw [List.cons_append, List.cons_append, List.zip_cons_cons, List.mem_cons] at hz
      rcases hz with rfl | hz
      · exact .inl List.mem_cons_self
      · exact (ih (Nat.le_of_succ_le_succ h) hz).imp (List.mem_cons_of_mem _) id

/-- Some order pairs every gap with what is there, exactly when the gaps fit. -/
theorem exists_pairing_iff {xs : List α} {ys : List β} (hlength : xs.length = ys.length) :
    (∃ (xs' : List α) (ys' : List β), xs'.Perm xs ∧ ys'.Perm ys ∧
      ∀ z ∈ xs'.zip ys', p z.1 = true ∨ q z.2 = true) ↔
      xs.countP (fun x => !p x) + ys.countP (fun y => !q y) ≤ xs.length := by
  constructor
  · rintro ⟨xs', ys', hxs, hys, h⟩
    rw [← hxs.countP_eq, ← hys.countP_eq, ← hxs.length_eq]
    exact countP_le_of_zip (by rw [hxs.length_eq, hys.length_eq, hlength]) h
  · -- what is there on the left comes first, and so do the gaps on the right
    intro hcount
    refine ⟨xs.filter p ++ xs.filter (fun x => !p x), ys.filter (fun y => !q y) ++ ys.filter q,
      List.filter_append_perm p xs, ?_, fun z hz => ?_⟩
    · have hperm := List.filter_append_perm (fun y => !q y) ys
      simpa using hperm
    · have hfit : (ys.filter fun y => !q y).length ≤ (xs.filter p).length := by
        have hxs := List.length_eq_countP_add_countP p (l := xs)
        rw [← List.countP_eq_length_filter, ← List.countP_eq_length_filter]
        simp only [Bool.not_eq_true, Bool.decide_eq_false] at hxs
        omega
      exact (mem_zip_append hfit hz).imp (fun h => (List.mem_filter.mp h).2)
        fun h => (List.mem_filter.mp h).2

/-- Every order pairs every gap with what is there, when one side has no gaps. -/
theorem forall_pairing_iff {xs : List α} {ys : List β} :
    (∀ (xs' : List α) (ys' : List β), xs'.Perm xs → ys'.Perm ys →
      ∀ z ∈ xs'.zip ys', p z.1 = true ∨ q z.2 = true) ↔
      (∀ x ∈ xs, p x = true) ∨ ∀ y ∈ ys, q y = true := by
  constructor
  · intro h
    by_contra hgaps
    push Not at hgaps
    obtain ⟨⟨x, hx, hpx⟩, y, hy, hqy⟩ := hgaps
    obtain ⟨xs₁, xs₂, rfl⟩ := List.append_of_mem hx
    obtain ⟨ys₁, ys₂, rfl⟩ := List.append_of_mem hy
    have hpair := h (x :: (xs₁ ++ xs₂)) (y :: (ys₁ ++ ys₂)) List.perm_middle.symm
      List.perm_middle.symm (x, y) List.mem_cons_self
    exact hpair.elim hpx hqy
  · rintro (h | h) xs' ys' hxs hys z hz
    · exact .inl (h _ (hxs.mem_iff.mp (List.of_mem_zip hz).1))
    · exact .inr (h _ (hys.mem_iff.mp (List.of_mem_zip hz).2))

/-- Every order has one of a kind among its first `k`, when the others are fewer. -/
theorem forall_take_iff {xs : List α} {k : ℕ} (hk : k ≤ xs.length) :
    (∀ xs' : List α, xs'.Perm xs → ∃ x ∈ xs'.take k, p x = true) ↔ xs.length - k < xs.countP p := by
  have hsplit := List.length_eq_countP_add_countP p (l := xs)
  simp only [Bool.not_eq_true, Bool.decide_eq_false] at hsplit
  constructor
  · intro h
    by_contra hfew
    obtain ⟨x, hx, hpx⟩ := h (xs.filter (fun x => !p x) ++ xs.filter p) (by
      have hperm := List.filter_append_perm (fun x => !p x) xs
      simpa using hperm)
    have hfit : k ≤ (xs.filter fun x => !p x).length := by
      rw [← List.countP_eq_length_filter]
      omega
    rw [List.take_append_of_le_length hfit] at hx
    have hnot := (List.mem_filter.mp (List.mem_of_mem_take hx)).2
    rw [hpx] at hnot
    cases hnot
  · intro hmany xs' hperm
    by_contra hnone
    push Not at hnone
    have hzero : (xs'.take k).countP p = 0 := List.countP_eq_zero.mpr hnone
    have hdrop : (xs'.drop k).countP p ≤ (xs'.drop k).length := List.countP_le_length
    have hcount : xs'.countP p = (xs'.take k).countP p + (xs'.drop k).countP p := by
      rw [← List.countP_append, List.take_append_drop]
    rw [List.length_drop, hperm.length_eq] at hdrop
    rw [hperm.countP_eq] at hcount
    omega

end Pairing
