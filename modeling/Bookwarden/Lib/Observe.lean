import Mathlib.Data.List.Sort
import Mathlib.Data.List.Dedup
import Mathlib.Tactic.Common

/-!
# Observations that factor through a filter

A list is read through tests that only ever pick elements of some kind. Two lists with the same
elements of that kind, in the same order, then look the same to every such reader, however many
other elements stand between them. This is the noninterference argument for list readers, with the
one case that is not a plain filter: a partial map over the sorted distinct images of a list.

## Main results

* `Observe.filter_eq`, `Observe.any_eq` — readers that select
* `Observe.filterMap_insertionSort_eq` — a partial map over a sorted set only sees the keys it is
  defined on
-/

namespace Observe

variable {α β : Type*} {keep p : α → Bool} {l m : List α}

/-- A test that only accepts kept elements selects the same elements from both lists. -/
theorem filter_eq (hp : ∀ x, p x = true → keep x = true) (h : l.filter keep = m.filter keep) :
    l.filter p = m.filter p := by
  have hthrough : ∀ k : List α, k.filter p = (k.filter keep).filter p := by
    intro k
    rw [List.filter_filter]
    refine List.filter_congr fun x _ => ?_
    cases hx : p x with
    | false => rfl
    | true => simp [hp x hx]
  rw [hthrough l, hthrough m, h]

theorem any_eq (hp : ∀ x, p x = true → keep x = true) (h : l.filter keep = m.filter keep) :
    l.any p = m.any p := by
  have hany : ∀ k : List α, k.any p = !(k.filter p).isEmpty := by
    intro k
    rw [Bool.eq_iff_iff]
    simp [List.filter_eq_nil_iff]
  rw [hany l, hany m, filter_eq hp h]

variable [LinearOrder α]

/-- Restricting a sorted set to a subset sorts the subset. -/
theorem filter_insertionSort_dedup (p : α → Bool) (l : List α) :
    (l.dedup.insertionSort (· ≤ ·)).filter p = (l.filter p).dedup.insertionSort (· ≤ ·) := by
  have hsort : ∀ k : List α, (k.insertionSort (· ≤ ·)).Pairwise (· ≤ ·) := fun k =>
    List.pairwise_insertionSort (· ≤ ·) k
  refine List.Perm.eq_of_pairwise' ((hsort _).filter p) (hsort _) ?_
  refine (List.perm_ext_iff_of_nodup ?_ ?_).mpr fun x => ?_
  · exact ((List.perm_insertionSort _ _).nodup_iff.mpr (List.nodup_dedup l)).filter p
  · exact (List.perm_insertionSort _ _).nodup_iff.mpr (List.nodup_dedup _)
  · simp

/-- A partial map over a sorted set reads only the keys it is defined on. -/
theorem filterMap_insertionSort_eq {f : α → Option β} {l m : List α}
    (h : ∀ x, f x ≠ none → (x ∈ l ↔ x ∈ m)) :
    (l.dedup.insertionSort (· ≤ ·)).filterMap f = (m.dedup.insertionSort (· ≤ ·)).filterMap f := by
  have hdefined : ∀ k : List α, (k.dedup.insertionSort (· ≤ ·)).filterMap f
      = ((k.filter fun x => (f x).isSome).dedup.insertionSort (· ≤ ·)).filterMap f := by
    intro k
    rw [← filter_insertionSort_dedup, List.filterMap_filter]
    refine List.filterMap_congr fun x _ => ?_
    cases f x <;> rfl
  have hset : ∀ x, x ∈ l.filter (fun x => (f x).isSome) ↔ x ∈ m.filter (fun x => (f x).isSome) := by
    intro x
    simp only [List.mem_filter]
    exact and_congr_left fun hx => h x fun hnone => by simp [hnone] at hx
  rw [hdefined l, hdefined m]
  congr 1
  refine List.Perm.eq_of_pairwise' (List.pairwise_insertionSort (· ≤ ·) _)
    (List.pairwise_insertionSort (· ≤ ·) _) ?_
  refine (List.perm_insertionSort _ _).trans (.trans ?_ (List.perm_insertionSort _ _).symm)
  exact (List.perm_ext_iff_of_nodup (List.nodup_dedup _) (List.nodup_dedup _)).mpr fun x => by
    simpa using hset x

end Observe
