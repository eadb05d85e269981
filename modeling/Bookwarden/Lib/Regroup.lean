import Mathlib.Data.List.Nodup
import Mathlib.Tactic.Common

/-!
# Replacing groups of a list

The items of a list fall into groups by a key. An edit takes one group out of the list and appends
new items of the same group at the end. After edits of different groups each edited group is what
its edit says, and the items of all other groups are there as before, in their order and in front.

## Main definitions

* `Regroup.replace`, `Regroup.replaceAll` — one edit, and several
* `Regroup.Keyed` — edits of different groups, each with new items of its own group

## Main results

* `Regroup.replaceAll_eq` — what the edits leave
* `Regroup.group_replaceAll_of_mem`, `Regroup.group_replaceAll_of_notMem` — one group afterwards
-/

namespace Regroup

variable {α κ : Type*} [DecidableEq κ] (key : α → κ)

/-- Take a group out and append new items. -/
def replace (k : κ) (news l : List α) : List α := l.filter (fun x => key x ≠ k) ++ news

/-- The edits one after the other. -/
def replaceAll (edits : List (κ × List α)) (l : List α) : List α :=
  edits.foldl (fun acc edit => replace key edit.1 edit.2 acc) l

/-- The edits are of different groups, and each brings items of its own group. -/
structure Keyed (edits : List (κ × List α)) : Prop where
  nodup : (edits.map Prod.fst).Nodup
  own : ∀ edit ∈ edits, ∀ x ∈ edit.2, key x = edit.1

variable {key} {k : κ} {news l : List α} {edit : κ × List α} {edits : List (κ × List α)}

theorem replaceAll_append (edits edits' : List (κ × List α)) (l : List α) :
    replaceAll key (edits ++ edits') l = replaceAll key edits' (replaceAll key edits l) :=
  List.foldl_append

omit [DecidableEq κ] in
theorem Keyed.of_cons (h : Keyed key (edit :: edits)) : Keyed key edits :=
  ⟨(List.nodup_cons.mp h.nodup).2, fun e he => h.own e (List.mem_cons_of_mem _ he)⟩

omit [DecidableEq κ] in
/-- The new items of the first edit are in no group of a later one. -/
theorem Keyed.key_notMem (h : Keyed key (edit :: edits)) {x : α} (hx : x ∈ edit.2) :
    key x ∉ edits.map Prod.fst := by
  rw [h.own edit List.mem_cons_self x hx]
  exact (List.nodup_cons.mp h.nodup).1

theorem replaceAll_eq (h : Keyed key edits) (l : List α) :
    replaceAll key edits l =
      l.filter (fun x => key x ∉ edits.map Prod.fst) ++ edits.flatMap Prod.snd := by
  -- induction on the edits; the list they work on changes with each
  induction edits generalizing l with
  | nil => simp [replaceAll]
  | cons edit edits ih =>
    have hnews : edit.2.filter (fun x => key x ∉ edits.map Prod.fst) = edit.2 := by
      refine List.filter_eq_self.mpr fun x hx => ?_
      exact decide_eq_true (h.key_notMem hx)
    have hkept : (l.filter fun x => key x ≠ edit.1).filter (fun x => key x ∉ edits.map Prod.fst) =
        l.filter fun x => key x ∉ (edit :: edits).map Prod.fst := by
      rw [List.filter_filter]
      refine List.filter_congr fun x _ => ?_
      simp only [List.map_cons, List.mem_cons, not_or, ← Bool.decide_and]
      exact decide_eq_decide.mpr and_comm
    show replaceAll key edits (replace key edit.1 edit.2 l) = _
    rw [ih h.of_cons, replace, List.filter_append, hnews, hkept, List.append_assoc,
      List.flatMap_cons]

theorem filter_news_of_notMem (h : ∀ edit ∈ edits, ∀ x ∈ edit.2, key x = edit.1)
    (hk : k ∉ edits.map Prod.fst) :
    (edits.flatMap Prod.snd).filter (fun x => key x = k) = [] := by
  refine List.filter_eq_nil_iff.mpr fun x hx => ?_
  obtain ⟨edit, hedit, hx⟩ := List.mem_flatMap.mp hx
  rw [h edit hedit x hx, decide_eq_true_eq]
  rintro rfl
  exact hk (List.mem_map_of_mem hedit)

theorem filter_news_of_mem (h : Keyed key edits) (hmem : (k, news) ∈ edits) :
    (edits.flatMap Prod.snd).filter (fun x => key x = k) = news := by
  induction edits with
  | nil => cases hmem
  | cons edit edits ih =>
    rw [List.flatMap_cons, List.filter_append]
    rcases List.mem_cons.mp hmem with rfl | hmem
    · have hnews : news.filter (fun x => key x = k) = news := by
        refine List.filter_eq_self.mpr fun x hx => ?_
        exact decide_eq_true (h.own (k, news) List.mem_cons_self x hx)
      have hrest := filter_news_of_notMem h.of_cons.own (List.nodup_cons.mp h.nodup).1
      rw [hnews, hrest, List.append_nil]
    · have hfirst : edit.2.filter (fun x => key x = k) = [] := by
        refine List.filter_eq_nil_iff.mpr fun x hx => ?_
        rw [decide_eq_true_eq]
        rintro rfl
        exact h.key_notMem hx (List.mem_map_of_mem hmem)
      rw [hfirst, List.nil_append, ih h.of_cons hmem]

/-- An edited group is what its edit brings. -/
theorem group_replaceAll_of_mem (h : Keyed key edits) (hmem : (k, news) ∈ edits) (l : List α) :
    (replaceAll key edits l).filter (fun x => key x = k) = news := by
  have hold : (l.filter fun x => key x ∉ edits.map Prod.fst).filter (fun x => key x = k) = [] := by
    refine List.filter_eq_nil_iff.mpr fun x hx => ?_
    rw [decide_eq_true_eq]
    rintro rfl
    exact of_decide_eq_true (List.mem_filter.mp hx).2 (List.mem_map_of_mem hmem)
  rw [replaceAll_eq h, List.filter_append, hold, List.nil_append, filter_news_of_mem h hmem]

/-- A group without an edit is what it was. -/
theorem group_replaceAll_of_notMem (h : Keyed key edits) (hk : k ∉ edits.map Prod.fst)
    (l : List α) :
    (replaceAll key edits l).filter (fun x => key x = k) = l.filter fun x => key x = k := by
  have hold : (l.filter fun x => key x ∉ edits.map Prod.fst).filter (fun x => key x = k) =
      l.filter fun x => key x = k := by
    rw [List.filter_filter]
    refine List.filter_congr fun x _ => ?_
    rw [← Bool.decide_and]
    refine decide_eq_decide.mpr ⟨And.left, ?_⟩
    rintro rfl
    exact ⟨rfl, hk⟩
  rw [replaceAll_eq h, List.filter_append, hold, filter_news_of_notMem h.own hk, List.append_nil]

/-- The items of the groups without an edit are what they were, in their order. -/
theorem others_replaceAll (h : Keyed key edits) (l : List α) :
    (replaceAll key edits l).filter (fun x => key x ∉ edits.map Prod.fst) =
      l.filter fun x => key x ∉ edits.map Prod.fst := by
  have hnews : (edits.flatMap Prod.snd).filter (fun x => key x ∉ edits.map Prod.fst) = [] := by
    refine List.filter_eq_nil_iff.mpr fun x hx => ?_
    obtain ⟨edit, hedit, hx⟩ := List.mem_flatMap.mp hx
    rw [h.own edit hedit x hx, decide_eq_true_eq, not_not]
    exact List.mem_map_of_mem hedit
  rw [replaceAll_eq h, List.filter_append, List.filter_filter, hnews, List.append_nil]
  simp only [Bool.and_self]

end Regroup
