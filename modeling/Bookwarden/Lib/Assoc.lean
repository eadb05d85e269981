import Mathlib.Data.List.Basic
import Mathlib.Data.List.Nodup
import Mathlib.Tactic.Common

/-!
# Insertion-ordered association lists and keyed tables

A list of pairs read as a finite map: the first pair with a key gives its value, writing an
existing key keeps its place, and writing a new key appends it. `Table` is such a list in which no
key occurs twice, carried as a field, so that a row can be addressed by its key and counted once.

## Main definitions

* `Assoc.get?`, `Assoc.set`, `Assoc.erase`, `Assoc.update`
* `Table`, with `Table.get?`, `Table.set`, `Table.erase`, `Table.count`

## Main results

* `Assoc.get?_set`, `Assoc.get?_erase`, `Assoc.get?_update`
* `Table.get?_set`, `Table.get?_erase`, `Table.mem_rows_iff`
* `Table.count_set_new`, `Table.count_set_same` — counting rows through an insertion and through
  a rewrite that does not move a row across the counted predicate
-/

namespace Assoc

variable {κ : Type*} {ρ : Type*} [DecidableEq κ]

/-- The value of the first pair with key `k`. -/
def get? (k : κ) : List (κ × ρ) → Option ρ
  | [] => none
  | (k', v) :: l => if k' = k then some v else get? k l

/-- Write `k`: in place when the key is there, at the end otherwise. -/
def set (k : κ) (v : ρ) : List (κ × ρ) → List (κ × ρ)
  | [] => [(k, v)]
  | (k', w) :: l => if k' = k then (k, v) :: l else (k', w) :: set k v l

/-- Drop every pair with key `k`. -/
def erase (k : κ) (l : List (κ × ρ)) : List (κ × ρ) := l.filter fun p => decide (p.1 ≠ k)

/-- Write the pairs of `m` one after the other. -/
def update (l m : List (κ × ρ)) : List (κ × ρ) := m.foldl (fun acc p => set p.1 p.2 acc) l

/-- The keys, in order. -/
def keys (l : List (κ × ρ)) : List κ := l.map Prod.fst

@[simp] theorem get?_nil (k : κ) : get? k ([] : List (κ × ρ)) = none := rfl

theorem get?_cons (k k' : κ) (v : ρ) (l : List (κ × ρ)) :
    get? k ((k', v) :: l) = if k' = k then some v else get? k l := rfl

theorem get?_set (k k' : κ) (v : ρ) (l : List (κ × ρ)) :
    get? k' (set k v l) = if k' = k then some v else get? k' l := by
  induction l with
  | nil => simp only [set, get?_cons, get?_nil, eq_comm]
  | cons p l ih =>
    obtain ⟨a, w⟩ := p
    by_cases ha : a = k
    · subst ha
      rw [set, if_pos rfl, get?_cons, get?_cons]
      by_cases h : k' = a
      · simp [h]
      · simp [h, Ne.symm h]
    · rw [set, if_neg ha, get?_cons, get?_cons, ih]
      by_cases h : k' = k
      · subst h; simp [ha]
      · simp [h]

theorem get?_erase (k k' : κ) (l : List (κ × ρ)) :
    get? k' (erase k l) = if k' = k then none else get? k' l := by
  induction l with
  | nil => simp [erase]
  | cons p l ih =>
    obtain ⟨a, w⟩ := p
    by_cases ha : a = k
    · subst ha
      have hdrop : erase a ((a, w) :: l) = erase a l := by simp [erase]
      rw [hdrop, ih, get?_cons]
      by_cases h : k' = a
      · simp [h]
      · simp [h, Ne.symm h]
    · have hkeep : erase k ((a, w) :: l) = (a, w) :: erase k l := by simp [erase, ha]
      rw [hkeep, get?_cons, get?_cons, ih]
      by_cases h : k' = k
      · subst h; simp [ha]
      · simp [h]

theorem get?_update_of_notMem {k : κ} {m : List (κ × ρ)} (hk : k ∉ keys m) (l : List (κ × ρ)) :
    get? k (update l m) = get? k l := by
  induction m generalizing l with
  | nil => rfl
  | cons p m ih =>
    simp only [keys, List.map_cons, List.mem_cons, not_or] at hk
    rw [update, List.foldl_cons]
    have := ih hk.2 (set p.1 p.2 l)
    rw [update] at this
    rw [this, get?_set, if_neg hk.1]

/-- The last pair of `m` with the key wins; with distinct keys that is the only one. -/
theorem get?_update {m : List (κ × ρ)} (hm : (keys m).Nodup) (k : κ) (l : List (κ × ρ)) :
    get? k (update l m) = (get? k m).or (get? k l) := by
  induction m generalizing l with
  | nil => simp [update]
  | cons p m ih =>
    obtain ⟨a, v⟩ := p
    simp only [keys, List.map_cons, List.nodup_cons] at hm
    rw [update, List.foldl_cons, ← update, get?_cons]
    by_cases h : a = k
    · subst h
      rw [get?_update_of_notMem hm.1, get?_set]
      simp
    · rw [ih hm.2, get?_set, if_neg (Ne.symm h), if_neg h]

theorem get?_eq_none_iff {k : κ} {l : List (κ × ρ)} : get? k l = none ↔ k ∉ keys l := by
  induction l with
  | nil => simp [keys]
  | cons p l ih =>
    obtain ⟨a, v⟩ := p
    by_cases h : a = k
    · simp [get?_cons, keys, h]
    · simp only [get?_cons, if_neg h, ih, keys, List.map_cons, List.mem_cons, not_or]
      exact ⟨fun hl => ⟨Ne.symm h, hl⟩, fun hl => hl.2⟩

theorem mem_of_get? {k : κ} {v : ρ} {l : List (κ × ρ)} (h : get? k l = some v) : (k, v) ∈ l := by
  induction l with
  | nil => simp at h
  | cons p l ih =>
    obtain ⟨a, w⟩ := p
    rw [get?_cons] at h
    by_cases ha : a = k
    · rw [if_pos ha] at h
      simp [ha, Option.some.inj h]
    · rw [if_neg ha] at h
      exact List.mem_cons_of_mem _ (ih h)

theorem get?_of_mem {k : κ} {v : ρ} {l : List (κ × ρ)} (hl : (keys l).Nodup) (h : (k, v) ∈ l) :
    get? k l = some v := by
  induction l with
  | nil => simp at h
  | cons p l ih =>
    obtain ⟨a, w⟩ := p
    simp only [keys, List.map_cons, List.nodup_cons] at hl
    rcases List.mem_cons.mp h with heq | htail
    · cases heq; simp [get?_cons]
    · have hne : a ≠ k := by
        rintro rfl
        exact hl.1 (List.mem_map_of_mem (f := Prod.fst) htail)
      rw [get?_cons, if_neg hne]
      exact ih hl.2 htail

theorem mem_keys_iff {k : κ} {l : List (κ × ρ)} : k ∈ keys l ↔ ∃ v, get? k l = some v := by
  rw [← not_iff_not, ← get?_eq_none_iff, Option.eq_none_iff_forall_ne_some, not_exists]

theorem get?_append (k : κ) (l m : List (κ × ρ)) :
    get? k (l ++ m) = (get? k l).or (get? k m) := by
  induction l with
  | nil => rfl
  | cons p l ih =>
    rw [List.cons_append, get?_cons, get?_cons, ih]
    split <;> rfl

theorem get?_map {σ : Type*} (f : ρ → σ) (k : κ) (l : List (κ × ρ)) :
    get? k (l.map fun p => (p.1, f p.2)) = (get? k l).map f := by
  induction l with
  | nil => rfl
  | cons p l ih =>
    obtain ⟨a, v⟩ := p
    rw [List.map_cons, get?_cons, get?_cons, ih]
    split <;> rfl

/-- Two maps with the same keys in the same order and the same values are equal. -/
theorem ext_of_keys {l m : List (κ × ρ)} (hl : (keys l).Nodup) (hkeys : keys l = keys m)
    (h : ∀ k, get? k l = get? k m) : l = m := by
  induction l generalizing m with
  | nil => exact (List.map_eq_nil_iff.mp hkeys.symm).symm
  | cons p l ih =>
    obtain ⟨k, v⟩ := p
    obtain ⟨⟨k', v'⟩, m, rfl⟩ : ∃ q m', m = q :: m' := by
      cases m with
      | nil => exact absurd hkeys (by simp [keys])
      | cons q m' => exact ⟨q, m', rfl⟩
    have hhead : k = k' ∧ keys l = keys m := by simpa [keys] using hkeys
    obtain ⟨rfl, htail⟩ := hhead
    have hnodup : k ∉ keys l ∧ (keys l).Nodup := List.nodup_cons.mp hl
    have hv : v = v' := by simpa [get?_cons] using h k
    have hrest : ∀ j, get? j l = get? j m := by
      intro j
      by_cases hj : k = j
      · rw [← hj, get?_eq_none_iff.mpr hnodup.1, get?_eq_none_iff.mpr (htail ▸ hnodup.1)]
      · simpa [get?_cons, hj] using h j
    rw [hv, ih hnodup.2 htail hrest]

/-- With distinct keys the order of the pairs does not matter. -/
theorem get?_eq_of_perm {l m : List (κ × ρ)} (hl : (keys l).Nodup) (h : l.Perm m) (k : κ) :
    get? k l = get? k m := by
  have hm : (keys m).Nodup := (h.map Prod.fst).nodup_iff.mp hl
  refine Option.ext fun v => ⟨fun hv => ?_, fun hv => ?_⟩
  · exact get?_of_mem hm (h.mem_iff.mp (mem_of_get? hv))
  · exact get?_of_mem hl (h.mem_iff.mpr (mem_of_get? hv))

/-- With distinct keys, a property of all pairs is a property of all lookups. -/
theorem forall_mem_iff {l : List (κ × ρ)} (hl : (keys l).Nodup) {P : κ → ρ → Prop} :
    (∀ p ∈ l, P p.1 p.2) ↔ ∀ k v, get? k l = some v → P k v :=
  ⟨fun h k v hk => h (k, v) (mem_of_get? hk), fun h p hp => h p.1 p.2 (get?_of_mem hl hp)⟩

theorem keys_set_of_mem {k : κ} {l : List (κ × ρ)} (h : k ∈ keys l) (v : ρ) :
    keys (set k v l) = keys l := by
  induction l with
  | nil => simp [keys] at h
  | cons p l ih =>
    obtain ⟨a, w⟩ := p
    by_cases ha : a = k
    · simp [set, keys, ha]
    · have htail : k ∈ keys l := by simpa [keys, Ne.symm ha] using h
      rw [set, if_neg ha]
      exact congrArg (a :: ·) (ih htail)

theorem set_of_notMem {k : κ} {l : List (κ × ρ)} (h : k ∉ keys l) (v : ρ) :
    set k v l = l ++ [(k, v)] := by
  induction l with
  | nil => rfl
  | cons p l ih =>
    obtain ⟨a, w⟩ := p
    simp only [keys, List.map_cons, List.mem_cons, not_or] at h
    rw [set, if_neg (Ne.symm h.1), ih h.2, List.cons_append]

theorem keys_set_of_notMem {k : κ} {l : List (κ × ρ)} (h : k ∉ keys l) (v : ρ) :
    keys (set k v l) = keys l ++ [k] := by
  rw [set_of_notMem h, keys, List.map_append, List.map_singleton]
  rfl

/-- Writing distinct new keys appends them. -/
theorem update_of_nodup {l m : List (κ × ρ)} (h : (keys (l ++ m)).Nodup) :
    update l m = l ++ m := by
  induction m generalizing l with
  | nil => rw [List.append_nil]; rfl
  | cons p m ih =>
    have hp : p.1 ∉ keys l := by
      intro hp
      rw [keys, List.map_append, List.map_cons] at h
      exact (List.nodup_append.mp h).2.2 p.1 hp p.1 (List.mem_cons_self ..) rfl
    have hset : set p.1 p.2 l = l ++ [p] := set_of_notMem hp p.2
    have happend : l ++ [p] ++ m = l ++ p :: m := List.append_cons l p m |>.symm
    show update (set p.1 p.2 l) m = l ++ p :: m
    rw [hset, ih (by rw [happend]; exact h), happend]

/-- Writing what is there changes nothing. -/
theorem set_eq_self {k : κ} {v : ρ} {l : List (κ × ρ)} (h : get? k l = some v) : set k v l = l := by
  induction l with
  | nil => cases h
  | cons p l ih =>
    obtain ⟨a, w⟩ := p
    rw [get?_cons] at h
    rw [set]
    split at h
    · rename_i ha
      rw [if_pos ha, ha, Option.some.inj h]
    · rename_i ha
      rw [if_neg ha, ih h]

theorem update_eq_self {l m : List (κ × ρ)} (h : ∀ p ∈ m, get? p.1 l = some p.2) :
    update l m = l := by
  induction m with
  | nil => rfl
  | cons p m ih =>
    show update (set p.1 p.2 l) m = l
    rw [set_eq_self (h p List.mem_cons_self), ih fun q hq => h q (List.mem_cons_of_mem _ hq)]

/-- Writing the same pairs twice is writing them once. -/
theorem update_update {m : List (κ × ρ)} (hm : (keys m).Nodup) (l : List (κ × ρ)) :
    update (update l m) m = update l m :=
  update_eq_self fun p hp => by rw [get?_update hm, get?_of_mem hm hp, Option.some_or]

theorem nodup_keys_set {l : List (κ × ρ)} (hl : (keys l).Nodup) (k : κ) (v : ρ) :
    (keys (set k v l)).Nodup := by
  by_cases h : k ∈ keys l
  · rwa [keys_set_of_mem h]
  · rw [keys_set_of_notMem h]
    exact hl.append (List.nodup_singleton k) (by simpa [List.disjoint_singleton] using h)

theorem nodup_keys_erase {l : List (κ × ρ)} (hl : (keys l).Nodup) (k : κ) :
    (keys (erase k l)).Nodup :=
  hl.sublist (List.filter_sublist.map Prod.fst)

theorem nodup_keys_update {l : List (κ × ρ)} (hl : (keys l).Nodup) (m : List (κ × ρ)) :
    (keys (update l m)).Nodup := by
  induction m generalizing l with
  | nil => exact hl
  | cons p m ih => exact ih (nodup_keys_set hl p.1 p.2)

end Assoc

/-- A keyed table: rows in insertion order, no key twice. -/
structure Table (κ ρ : Type*) where
  /-- The rows with their keys, oldest first. -/
  rows : List (κ × ρ)
  /-- The key is unique. -/
  nodup : (Assoc.keys rows).Nodup

namespace Table

variable {κ : Type*} {ρ : Type*} [DecidableEq κ]

/-- The table without rows. -/
def empty : Table κ ρ := ⟨[], List.nodup_nil⟩

/-- The row with key `k`. -/
def get? (t : Table κ ρ) (k : κ) : Option ρ := Assoc.get? k t.rows

/-- Insert the row, or overwrite the one with this key. -/
def set (t : Table κ ρ) (k : κ) (v : ρ) : Table κ ρ :=
  ⟨Assoc.set k v t.rows, Assoc.nodup_keys_set t.nodup k v⟩

/-- Delete the row with key `k`. -/
def erase (t : Table κ ρ) (k : κ) : Table κ ρ :=
  ⟨Assoc.erase k t.rows, Assoc.nodup_keys_erase t.nodup k⟩

/-- The number of rows that satisfy `p`. -/
def count (t : Table κ ρ) (p : ρ → Bool) : ℕ := t.rows.countP fun r => p r.2

@[simp] theorem get?_empty (k : κ) : (empty : Table κ ρ).get? k = none := rfl

omit [DecidableEq κ] in
@[simp] theorem count_empty (p : ρ → Bool) : (empty : Table κ ρ).count p = 0 := rfl

theorem get?_set (t : Table κ ρ) (k k' : κ) (v : ρ) :
    (t.set k v).get? k' = if k' = k then some v else t.get? k' :=
  Assoc.get?_set k k' v t.rows

@[simp] theorem get?_set_self (t : Table κ ρ) (k : κ) (v : ρ) : (t.set k v).get? k = some v := by
  rw [get?_set, if_pos rfl]

theorem get?_set_of_ne (t : Table κ ρ) {k k' : κ} (v : ρ) (h : k' ≠ k) :
    (t.set k v).get? k' = t.get? k' := by
  rw [get?_set, if_neg h]

theorem get?_erase (t : Table κ ρ) (k k' : κ) :
    (t.erase k).get? k' = if k' = k then none else t.get? k' :=
  Assoc.get?_erase k k' t.rows

theorem mem_rows_iff {t : Table κ ρ} {k : κ} {v : ρ} : (k, v) ∈ t.rows ↔ t.get? k = some v :=
  ⟨Assoc.get?_of_mem t.nodup, Assoc.mem_of_get?⟩

theorem countP_set_new {p : ρ → Bool} {k : κ} {v : ρ} {l : List (κ × ρ)}
    (h : Assoc.get? k l = none) :
    (Assoc.set k v l).countP (fun r => p r.2) = l.countP (fun r => p r.2) + (p v).toNat := by
  induction l with
  | nil => cases hv : p v <;> simp [Assoc.set, hv]
  | cons r l ih =>
    obtain ⟨a, w⟩ := r
    rw [Assoc.get?_cons] at h
    split at h
    · simp at h
    · rename_i ha
      rw [Assoc.set, if_neg ha, List.countP_cons, List.countP_cons, ih h]
      omega

theorem countP_set_same {p : ρ → Bool} {k : κ} {v w : ρ} {l : List (κ × ρ)}
    (h : Assoc.get? k l = some w) (hp : p v = p w) :
    (Assoc.set k v l).countP (fun r => p r.2) = l.countP (fun r => p r.2) := by
  induction l with
  | nil => simp at h
  | cons r l ih =>
    obtain ⟨a, u⟩ := r
    rw [Assoc.get?_cons] at h
    split at h
    · rename_i ha
      cases Option.some.inj h
      rw [Assoc.set, if_pos ha, List.countP_cons, List.countP_cons]
      simp [hp]
    · rename_i ha
      rw [Assoc.set, if_neg ha, List.countP_cons, List.countP_cons, ih h]

/-- A new row is counted when it satisfies the predicate. -/
theorem count_set_new {t : Table κ ρ} {k : κ} {v : ρ} (h : t.get? k = none) (p : ρ → Bool) :
    (t.set k v).count p = t.count p + (p v).toNat :=
  countP_set_new h

/-- Rewriting a row without moving it across the predicate leaves the count alone. -/
theorem count_set_same {t : Table κ ρ} {k : κ} {v w : ρ} {p : ρ → Bool} (h : t.get? k = some w)
    (hp : p v = p w) : (t.set k v).count p = t.count p :=
  countP_set_same h hp

/-- The rows that satisfy `p`, first to last. -/
def filter (t : Table κ ρ) (p : ρ → Bool) : List (κ × ρ) := t.rows.filter fun r => p r.2

theorem mem_filter_iff {t : Table κ ρ} {p : ρ → Bool} {k : κ} {v : ρ} :
    (k, v) ∈ t.filter p ↔ t.get? k = some v ∧ p v = true := by
  rw [filter, List.mem_filter, mem_rows_iff]

theorem filter_eq_nil_iff {t : Table κ ρ} {p : ρ → Bool} :
    t.filter p = [] ↔ ∀ k v, t.get? k = some v → p v = false := by
  rw [filter, List.filter_eq_nil_iff]
  constructor
  · intro h k v hk
    simpa using h (k, v) (mem_rows_iff.mpr hk)
  · rintro h ⟨k, v⟩ hmem
    simpa using h k v (mem_rows_iff.mp hmem)

end Table
