import Mathlib.Algebra.GroupWithZero.Nat
import Mathlib.Algebra.Order.BigOperators.Group.List
import Bookwarden.Lib.Assoc

/-!
# Counting into a dictionary

Every item adds one to the number under it. The number under an item is how often it came, the
numbers add up to how many came, and the items are those that came.

## Main definitions

* `Tally.add`, `Tally.addAll`
* `Tally.total`

## Main results

* `Tally.get?_addAll`, `Tally.total_addAll` — what the dictionary has in the end
-/

namespace Tally

variable {κ : Type*} [DecidableEq κ]

/-- One more of an item. -/
def add (d : List (κ × ℕ)) (k : κ) : List (κ × ℕ) := Assoc.set k ((Assoc.get? k d).getD 0 + 1) d

/-- The items one after the other. -/
def addAll (d : List (κ × ℕ)) (ks : List κ) : List (κ × ℕ) := ks.foldl add d

/-- The sum of the numbers. -/
def total (d : List (κ × ℕ)) : ℕ := (d.map Prod.snd).sum

variable {d : List (κ × ℕ)} {k k' : κ}

theorem addAll_append (d : List (κ × ℕ)) (ks ks' : List κ) :
    addAll d (ks ++ ks') = addAll (addAll d ks) ks' :=
  List.foldl_append

theorem nodup_keys_addAll (hd : (Assoc.keys d).Nodup) (ks : List κ) :
    (Assoc.keys (addAll d ks)).Nodup := by
  induction ks generalizing d with
  | nil => exact hd
  | cons k ks ih => exact ih (Assoc.nodup_keys_set hd k _)

theorem getD_add (d : List (κ × ℕ)) (k k' : κ) :
    (Assoc.get? k' (add d k)).getD 0 = (Assoc.get? k' d).getD 0 + if k' = k then 1 else 0 := by
  rw [add, Assoc.get?_set]
  by_cases h : k' = k
  · subst h
    rw [if_pos rfl, if_pos rfl]
    rfl
  · rw [if_neg h, if_neg h, Nat.add_zero]

/-- An item is counted once each time it comes. -/
theorem getD_addAll (d : List (κ × ℕ)) (ks : List κ) (k : κ) :
    (Assoc.get? k (addAll d ks)).getD 0 = (Assoc.get? k d).getD 0 + ks.count k := by
  induction ks generalizing d with
  | nil => rfl
  | cons k' ks ih =>
    show (Assoc.get? k (addAll (add d k') ks)).getD 0 = _
    rw [ih, getD_add, List.count_cons]
    by_cases h : k = k'
    · subst h
      simp only [if_true, beq_self_eq_true]
      omega
    · have hne : (k' == k) = false := beq_eq_false_iff_ne.mpr (Ne.symm h)
      rw [if_neg h, hne]
      simp

theorem total_set (d : List (κ × ℕ)) (k : κ) (n : ℕ) :
    total (Assoc.set k ((Assoc.get? k d).getD 0 + n) d) = total d + n := by
  induction d with
  | nil => simp [Assoc.set, total]
  | cons p d ih =>
    obtain ⟨k', m⟩ := p
    rw [Assoc.get?_cons, Assoc.set]
    by_cases h : k' = k
    · rw [if_pos h, if_pos h]
      simp only [total, List.map_cons, List.sum_cons, Option.getD_some]
      omega
    · rw [if_neg h, if_neg h]
      simp only [total, List.map_cons, List.sum_cons] at ih ⊢
      omega

/-- Nothing that came is lost, and nothing is counted twice. -/
theorem total_addAll (d : List (κ × ℕ)) (ks : List κ) : total (addAll d ks) = total d + ks.length := by
  induction ks generalizing d with
  | nil => rfl
  | cons k ks ih =>
    show total (addAll (add d k) ks) = _
    rw [ih, add, total_set, List.length_cons]
    omega

omit [DecidableEq κ] in
theorem total_perm {d d' : List (κ × ℕ)} (h : d.Perm d') : total d = total d' :=
  (h.map Prod.snd).sum_eq

end Tally
