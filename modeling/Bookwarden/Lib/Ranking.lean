import Mathlib.Data.List.Sort

/-!
# The first of a ranking

A list sorted by descending key, where items of one key keep their order, and the item that comes
first. Its key is the largest of all, whatever the order of the list; the item itself is the first of
the largest.

## Main results

* `Ranking.mem_of_best`, `Ranking.key_le_of_best` — the first item is one of the largest key
* `Ranking.best_cons` — of several largest the first in the list wins
* `Ranking.key_best_eq_of_perm` — the order of the list does not show in the key
-/

namespace Ranking

variable {α β : Type*} [LinearOrder β] (key : α → β)

/-- The list by descending key. The sort is stable. -/
def ranked (xs : List α) : List α := xs.insertionSort fun a b => key b ≤ key a

/-- The first of the ranking. -/
def best (xs : List α) : Option α := (ranked key xs).head?

variable {key} {xs ys : List α} {a b : α}

theorem ranked_perm : (ranked key xs).Perm xs := List.perm_insertionSort _ xs

theorem pairwise_ranked : (ranked key xs).Pairwise fun a b => key b ≤ key a := by
  have htotal : Std.Total fun a b : α => key b ≤ key a := ⟨fun a b => le_total (key b) (key a)⟩
  have htrans : IsTrans α fun a b => key b ≤ key a := ⟨fun _ _ _ hab hbc => hbc.trans hab⟩
  exact List.pairwise_insertionSort _ xs

theorem best_eq_none : best key xs = none ↔ xs = [] := by
  rw [best, List.head?_eq_none_iff]
  constructor
  · intro h
    exact List.nil_perm.mp (h ▸ @ranked_perm _ _ _ key xs)
  · rintro rfl
    rfl

theorem exists_best (h : xs ≠ []) : ∃ b, best key xs = some b :=
  Option.ne_none_iff_exists'.mp fun hnone => h (best_eq_none.mp hnone)

theorem mem_of_best (h : best key xs = some b) : b ∈ xs :=
  ranked_perm.mem_iff.mp (List.mem_of_mem_head? h)

theorem key_le_of_best (h : best key xs = some b) (ha : a ∈ xs) : key a ≤ key b := by
  have hsorted := @pairwise_ranked _ _ _ key xs
  have hmem : a ∈ ranked key xs := ranked_perm.mem_iff.mpr ha
  obtain ⟨rest, hrest⟩ := List.head?_eq_some_iff.mp h
  rw [hrest] at hsorted hmem
  rcases List.mem_cons.mp hmem with rfl | hin
  · exact le_rfl
  · exact List.rel_of_pairwise_cons hsorted hin

theorem best_cons (h : ∀ x ∈ xs, key x ≤ key a) : best key (a :: xs) = some a := by
  have hranked : ranked key (a :: xs) = a :: ranked key xs :=
    List.insertionSort_cons_of_forall_rel _ h
  rw [best, hranked]
  rfl

theorem key_best_eq_of_perm (hperm : xs.Perm ys) (ha : best key xs = some a)
    (hb : best key ys = some b) : key a = key b :=
  le_antisymm (key_le_of_best hb (hperm.mem_iff.mp (mem_of_best ha)))
    (key_le_of_best ha (hperm.mem_iff.mpr (mem_of_best hb)))

end Ranking
