import Bookwarden.Lib.Assoc

/-!
# Unique indexes of a table

An index reads a value off a row; a row without one is not in the index. The database refuses a
write that would give two rows one indexed value, so an index that is unique stays unique.

## Main definitions

* `Table.Unique` — no two rows have one indexed value
* `Table.Admits` — the check in front of a write

## Main results

* `Table.Unique.set` — a write that is admitted keeps the index unique
-/

namespace Table

variable {κ ρ ι : Type*} [DecidableEq κ] [DecidableEq ι]

omit [DecidableEq ι] in
/-- No two rows have one indexed value. -/
def Unique (index : ρ → Option ι) (t : Table κ ρ) : Prop :=
  ∀ k k' v v', t.get? k = some v → t.get? k' = some v' → (index v).isSome → index v = index v' →
    k = k'

/-- No other row has the indexed value of `v`. -/
def Admits (index : ρ → Option ι) (t : Table κ ρ) (k : κ) (v : ρ) : Prop :=
  ∀ r ∈ t.rows, r.1 = k ∨ index v = none ∨ index r.2 ≠ index v

instance (index : ρ → Option ι) (t : Table κ ρ) (k : κ) (v : ρ) : Decidable (t.Admits index k v) :=
  inferInstanceAs (Decidable (∀ r ∈ t.rows, r.1 = k ∨ index v = none ∨ index r.2 ≠ index v))

omit [DecidableEq ι] in
theorem unique_empty (index : ρ → Option ι) : (empty : Table κ ρ).Unique index := by
  intro k k' v v' h
  cases h

omit [DecidableEq ι] in
theorem Admits.eq_key {index : ρ → Option ι} {t : Table κ ρ} {k k' : κ} {v v' : ρ}
    (h : t.Admits index k v) (hv' : t.get? k' = some v') (hsome : (index v).isSome)
    (heq : index v' = index v) : k' = k := by
  rcases h (k', v') (mem_rows_iff.mpr hv') with hk | hnone | hne
  · exact hk
  · rw [hnone] at hsome
    cases hsome
  · exact absurd heq hne

omit [DecidableEq ι] in
theorem Unique.set {index : ρ → Option ι} {t : Table κ ρ} {k : κ} {v : ρ} (hu : t.Unique index)
    (ha : t.Admits index k v) : (t.set k v).Unique index := by
  intro k₁ k₂ v₁ v₂ h₁ h₂ hsome heq
  rw [get?_set] at h₁ h₂
  split at h₁
  · rename_i hk₁
    cases h₁
    split at h₂
    · rename_i hk₂
      rw [hk₁, hk₂]
    · rw [hk₁]
      exact (ha.eq_key h₂ hsome heq.symm).symm
  · split at h₂
    · rename_i hk₂
      cases h₂
      rw [hk₂]
      exact ha.eq_key h₁ (heq ▸ hsome) heq
    · exact hu k₁ k₂ v₁ v₂ h₁ h₂ hsome heq

end Table
