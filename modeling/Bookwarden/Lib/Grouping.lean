import Mathlib.Data.List.Induction
import Bookwarden.Lib.Assoc

/-!
# Collecting values under keys

Pairs are read in order, and every value is appended to the list under its key, which starts empty.
The dictionary has each key once, and under it the values of all pairs with that key, in order.

## Main definitions

* `Grouping.push`, `Grouping.collect`
* `Grouping.group` — the values of one key

## Main results

* `Grouping.nodup_keys_collect`, `Grouping.mem_collect` — what the dictionary has
-/

namespace Grouping

variable {κ α : Type*} [DecidableEq κ]

/-- Append a value to the list under a key. -/
def push (k : κ) (a : α) (d : List (κ × List α)) : List (κ × List α) :=
  Assoc.set k ((Assoc.get? k d).getD [] ++ [a]) d

/-- The pairs one after the other. -/
def collect (pairs : List (κ × α)) : List (κ × List α) :=
  pairs.foldl (fun d p => push p.1 p.2 d) []

/-- The values of the pairs with a key. -/
def group (k : κ) (pairs : List (κ × α)) : List α :=
  (pairs.filter fun p => p.1 = k).map Prod.snd

variable {k : κ} {g : List α} {pairs : List (κ × α)}

theorem mem_group {a : α} : a ∈ group k pairs ↔ (k, a) ∈ pairs := by
  rw [group, List.mem_map]
  constructor
  · rintro ⟨⟨k', a'⟩, hp, rfl⟩
    obtain ⟨hp, hk⟩ := List.mem_filter.mp hp
    rwa [← of_decide_eq_true hk]
  · exact fun h => ⟨(k, a), List.mem_filter.mpr ⟨h, decide_eq_true rfl⟩, rfl⟩

theorem collect_concat (pairs : List (κ × α)) (p : κ × α) :
    collect (pairs ++ [p]) = push p.1 p.2 (collect pairs) := by
  rw [collect, List.foldl_concat, ← collect]

theorem group_concat (k : κ) (pairs : List (κ × α)) (p : κ × α) :
    group k (pairs ++ [p]) = group k pairs ++ if p.1 = k then [p.2] else [] := by
  rw [group, List.filter_append, List.map_append, ← group]
  by_cases h : p.1 = k <;> simp [h]

theorem get?_collect (k : κ) (pairs : List (κ × α)) :
    Assoc.get? k (collect pairs) = if (group k pairs).isEmpty then none else some (group k pairs) := by
  induction pairs using List.reverseRecOn with
  | nil => rfl
  | append_singleton pairs p ih =>
    rw [collect_concat, push, Assoc.get?_set, group_concat]
    by_cases h : p.1 = k
    · subst h
      rw [if_pos rfl, ih]
      cases group p.1 pairs <;> simp
    · rw [if_neg (Ne.symm h), if_neg h, List.append_nil, ih]

theorem nodup_keys_collect (pairs : List (κ × α)) : (Assoc.keys (collect pairs)).Nodup := by
  induction pairs using List.reverseRecOn with
  | nil => exact List.nodup_nil
  | append_singleton pairs p ih =>
    rw [collect_concat, push]
    exact Assoc.nodup_keys_set ih _ _

/-- The dictionary has the groups that are not empty. -/
theorem mem_collect : (k, g) ∈ collect pairs ↔ g ≠ [] ∧ g = group k pairs := by
  have hget : (k, g) ∈ collect pairs ↔ Assoc.get? k (collect pairs) = some g :=
    ⟨Assoc.get?_of_mem (nodup_keys_collect pairs), Assoc.mem_of_get?⟩
  rw [hget, get?_collect]
  cases hg : group k pairs with
  | nil => simp
  | cons a as =>
    rw [if_neg (by simp), Option.some.injEq, eq_comm]
    refine ⟨?_, And.right⟩
    rintro rfl
    exact ⟨List.cons_ne_nil a as, rfl⟩

/-- Of what a map makes of the groups, where the result shows the key, one key has what its group
becomes. -/
theorem filter_filterMap_collect {γ : Type*} (f : κ × List α → Option γ) (key : γ → κ)
    (hkey : ∀ p c, f p = some c → key c = p.1) (pairs : List (κ × α)) (k : κ) :
    ((collect pairs).filterMap f).filter (fun c => key c = k) =
      if group k pairs = [] then [] else (f (k, group k pairs)).toList := by
  have hdict : ∀ d : List (κ × List α), (Assoc.keys d).Nodup →
      (d.filterMap f).filter (fun c => key c = k) =
        match Assoc.get? k d with
        | none => []
        | some g => (f (k, g)).toList := by
    intro d hd
    induction d with
    | nil => rfl
    | cons p d ih =>
      obtain ⟨k', g'⟩ := p
      have hd' : (k' :: Assoc.keys d).Nodup := hd
      obtain ⟨hnew, hrest⟩ := List.nodup_cons.mp hd'
      have hstep : ((k', g') :: d).filterMap f = (f (k', g')).toList ++ d.filterMap f := by
        rw [List.filterMap_cons]
        cases f (k', g') <;> rfl
      rw [hstep, List.filter_append, ih hrest, Assoc.get?_cons]
      by_cases h : k' = k
      · subst h
        have hnone : Assoc.get? k' d = none := Assoc.get?_eq_none_iff.mpr hnew
        have hall : (f (k', g')).toList.filter (fun c => key c = k') = (f (k', g')).toList := by
          refine List.filter_eq_self.mpr fun c hc => ?_
          simp [hkey _ _ (Option.mem_toList.mp hc)]
        rw [hnone, if_pos rfl, hall, List.append_nil]
      · have hempty : (f (k', g')).toList.filter (fun c => key c = k) = [] := by
          refine List.filter_eq_nil_iff.mpr fun c hc => ?_
          simpa [hkey _ _ (Option.mem_toList.mp hc)] using h
        rw [hempty, if_neg h, List.nil_append]
  rw [hdict _ (nodup_keys_collect pairs), get?_collect]
  cases group k pairs with
  | nil => rfl
  | cons a as => rfl

end Grouping
