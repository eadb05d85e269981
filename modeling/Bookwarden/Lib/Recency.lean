import Bookwarden.Lib.Assoc

/-!
# A bounded dictionary in order of use

A dictionary that remembers the order of its pairs, oldest first, and has room for a number of them.
A pair that is used goes to the end. Before a pair is written, the oldest pairs go until there is
room for one more, whether or not the key is there already.

## Main definitions

* `Recency.touch`, `Recency.makeRoom`, `Recency.put`

## Main results

* `Recency.length_put_le` — the dictionary stays within its room
* `Recency.mem_keys_of_not_put` — a key that is lost by writing was the oldest of a full dictionary
-/

namespace Recency

variable {κ ρ : Type*} [DecidableEq κ] {k k' : κ} {v : ρ} {l : List (κ × ρ)} {room : ℕ}

/-- The pair of a key goes to the end. -/
def touch (k : κ) (l : List (κ × ρ)) : List (κ × ρ) :=
  match Assoc.get? k l with
  | none => l
  | some v => Assoc.erase k l ++ [(k, v)]

/-- Drop the oldest pair while the dictionary is full. -/
def makeRoom (room : ℕ) : List (κ × ρ) → List (κ × ρ)
  | [] => []
  | p :: l => if room ≤ (p :: l).length then makeRoom room l else p :: l

/-- Make room and write a pair. -/
def put (room : ℕ) (k : κ) (v : ρ) (l : List (κ × ρ)) : List (κ × ρ) :=
  Assoc.set k v (makeRoom room l)

/-! ### Use -/

theorem get?_touch (k k' : κ) (l : List (κ × ρ)) :
    Assoc.get? k' (touch k l) = Assoc.get? k' l := by
  rw [touch]
  cases hget : Assoc.get? k l with
  | none => rfl
  | some v =>
    show Assoc.get? k' (Assoc.erase k l ++ [(k, v)]) = _
    rw [Assoc.get?_append, Assoc.get?_erase, Assoc.get?_cons, Assoc.get?_nil]
    by_cases h : k' = k
    · rw [if_pos h, Option.none_or, if_pos h.symm, h, hget]
    · rw [if_neg h, if_neg (Ne.symm h), Option.or_none]

theorem nodup_keys_touch (hl : (Assoc.keys l).Nodup) (k : κ) : (Assoc.keys (touch k l)).Nodup := by
  rw [touch]
  cases Assoc.get? k l with
  | none => exact hl
  | some v =>
    have hnotMem : k ∉ Assoc.keys (Assoc.erase k l) := by
      rw [← Assoc.get?_eq_none_iff, Assoc.get?_erase, if_pos rfl]
    have hset := Assoc.nodup_keys_set (Assoc.nodup_keys_erase hl k) k v
    rwa [Assoc.set_of_notMem hnotMem] at hset

theorem length_touch_le (k : κ) (l : List (κ × ρ)) : (touch k l).length ≤ l.length := by
  rw [touch]
  cases hget : Assoc.get? k l with
  | none => exact Nat.le_refl _
  | some v =>
    have herase : (Assoc.erase k l).length < l.length := by
      rw [Assoc.erase, List.length_filter_lt_length_iff_exists]
      exact ⟨(k, v), Assoc.mem_of_get? hget, by simp⟩
    show (Assoc.erase k l ++ [(k, v)]).length ≤ l.length
    rw [List.length_append, List.length_singleton]
    omega

/-! ### Room -/

theorem makeRoom_suffix (room : ℕ) (l : List (κ × ρ)) : makeRoom room l <:+ l := by
  induction l with
  | nil => exact List.suffix_rfl
  | cons p l ih =>
    rw [makeRoom]
    split
    · exact ih.trans (List.suffix_cons p l)
    · exact List.suffix_rfl

theorem length_makeRoom_lt (hroom : 0 < room) (l : List (κ × ρ)) :
    (makeRoom room l).length < room := by
  induction l with
  | nil => exact hroom
  | cons p l ih =>
    rw [makeRoom]
    split
    · exact ih
    · omega

theorem makeRoom_eq_self (h : l.length < room) : makeRoom room l = l := by
  cases l with
  | nil => rfl
  | cons p l => rw [makeRoom, if_neg (by omega)]

/-- Of a dictionary that is just full, only the oldest pair goes. -/
theorem makeRoom_eq_tail (hroom : 0 < room) (h : l.length = room) : makeRoom room l = l.tail := by
  cases l with
  | nil => exact absurd h (by simp; omega)
  | cons p l =>
    rw [List.length_cons] at h
    rw [makeRoom, if_pos (by rw [List.length_cons]; omega), makeRoom_eq_self (by omega), List.tail_cons]

theorem nodup_keys_makeRoom (hl : (Assoc.keys l).Nodup) (room : ℕ) :
    (Assoc.keys (makeRoom room l)).Nodup :=
  hl.sublist ((makeRoom_suffix room l).sublist.map Prod.fst)

theorem nodup_keys_put (hl : (Assoc.keys l).Nodup) (room : ℕ) (k : κ) (v : ρ) :
    (Assoc.keys (put room k v l)).Nodup :=
  Assoc.nodup_keys_set (nodup_keys_makeRoom hl room) k v

theorem length_put_le (hroom : 0 < room) (k : κ) (v : ρ) (l : List (κ × ρ)) :
    (put room k v l).length ≤ room := by
  have hlt := length_makeRoom_lt hroom l
  have hkeys : (put room k v l).length = (Assoc.keys (put room k v l)).length :=
    (List.length_map _).symm
  rw [hkeys, put]
  by_cases h : k ∈ Assoc.keys (makeRoom room l)
  · rw [Assoc.keys_set_of_mem h, Assoc.keys, List.length_map]
    omega
  · rw [Assoc.keys_set_of_notMem h, List.length_append, Assoc.keys, List.length_map,
      List.length_singleton]
    omega

/-- What is there after writing was written now or was there before. -/
theorem get?_of_get?_put (hl : (Assoc.keys l).Nodup) {w : ρ}
    (h : Assoc.get? k' (put room k v l) = some w) :
    k' = k ∧ w = v ∨ Assoc.get? k' l = some w := by
  rw [put, Assoc.get?_set] at h
  split at h
  · rename_i heq
    exact Or.inl ⟨heq, (Option.some.inj h).symm⟩
  · exact Or.inr (Assoc.get?_of_mem hl ((makeRoom_suffix room l).mem (Assoc.mem_of_get? h)))

/-- A key that is lost by writing was the oldest of a full dictionary. -/
theorem mem_keys_of_not_put (hroom : 0 < room) (hlength : l.length ≤ room) (hk : k' ∈ Assoc.keys l)
    (hlost : k' ∉ Assoc.keys (put room k v l)) :
    l.length = room ∧ (Assoc.keys l).head? = some k' ∧ k' ≠ k := by
  rw [← Assoc.get?_eq_none_iff, put, Assoc.get?_set] at hlost
  have hne : k' ≠ k := by
    rintro rfl
    rw [if_pos rfl] at hlost
    cases hlost
  rw [if_neg hne, Assoc.get?_eq_none_iff] at hlost
  have hfull : l.length = room := by
    by_contra hnot
    rw [makeRoom_eq_self (by omega)] at hlost
    exact hlost hk
  rw [makeRoom_eq_tail hroom hfull] at hlost
  refine ⟨hfull, ?_, hne⟩
  cases l with
  | nil => cases hk
  | cons p l =>
    rcases List.mem_cons.mp hk with rfl | hk
    · rfl
    · exact absurd hk hlost

end Recency
