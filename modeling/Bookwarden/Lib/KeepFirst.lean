import Mathlib.Data.List.Nodup

/-!
# Keeping the first of each key

An item is appended when no item with its key is there. What was there stays in its place, and every
item is kept exactly when no key comes twice.

## Main definitions

* `KeepFirst.add`, `KeepFirst.addAll` — appending an item, and several

## Main results

* `KeepFirst.length_addAll_le` — no more is there than was put in
* `KeepFirst.length_addAll_eq_iff` — when every item is kept
-/

namespace KeepFirst

variable {α κ : Type*} [DecidableEq κ] (key : α → κ)

/-- Append an item with a new key. -/
def add (acc : List α) (a : α) : List α :=
  if acc.any fun b => key b = key a then acc else acc ++ [a]

/-- Append the items with new keys. -/
def addAll (acc l : List α) : List α := l.foldl (add key) acc

variable {key} {acc l : List α} {a : α}

theorem add_of_mem (h : key a ∈ acc.map key) : add key acc a = acc := by
  obtain ⟨b, hb, hkey⟩ := List.mem_map.mp h
  exact if_pos (List.any_eq_true.mpr ⟨b, hb, decide_eq_true hkey⟩)

theorem add_of_notMem (h : key a ∉ acc.map key) : add key acc a = acc ++ [a] := by
  refine if_neg fun hany => ?_
  obtain ⟨b, hb, hkey⟩ := List.any_eq_true.mp hany
  exact h (List.mem_map.mpr ⟨b, hb, of_decide_eq_true hkey⟩)

theorem addAll_nil : addAll key acc [] = acc := rfl

theorem addAll_append (l l' : List α) :
    addAll key acc (l ++ l') = addAll key (addAll key acc l) l' :=
  List.foldl_append

theorem length_addAll_le (acc l : List α) : (addAll key acc l).length ≤ acc.length + l.length := by
  induction l generalizing acc with
  | nil => exact Nat.le_refl _
  | cons a l ih =>
    have hone : (add key acc a).length ≤ acc.length + 1 := by
      rw [add]
      split
      · omega
      · exact Nat.le_of_eq List.length_append
    have hrest := ih (add key acc a)
    show (addAll key (add key acc a) l).length ≤ _
    rw [List.length_cons]
    omega

/-- Every item is kept exactly when no key comes twice. -/
theorem length_addAll_eq_iff (hacc : (acc.map key).Nodup) :
    (addAll key acc l).length = acc.length + l.length ↔ ((acc ++ l).map key).Nodup := by
  induction l generalizing acc with
  | nil =>
    rw [List.append_nil]
    exact iff_of_true rfl hacc
  | cons a l ih =>
    show (addAll key (add key acc a) l).length = _ ↔ _
    by_cases hmem : key a ∈ acc.map key
    · -- the item is dropped, and no later one makes up for it
      have hle : (addAll key acc l).length ≤ acc.length + l.length := length_addAll_le acc l
      rw [add_of_mem hmem, List.length_cons]
      refine iff_of_false (by omega) fun hnodup => ?_
      rw [List.map_append, List.nodup_append'] at hnodup
      exact hnodup.2.2 hmem List.mem_cons_self
    · have hnodup : ((acc ++ [a]).map key).Nodup := by
        rw [List.map_append, List.nodup_append']
        refine ⟨hacc, List.nodup_singleton _, ?_⟩
        rw [List.map_singleton, List.disjoint_singleton]
        exact hmem
      have hrest := ih hnodup
      rw [List.length_append, List.length_singleton, List.append_assoc, List.singleton_append] at hrest
      rw [add_of_notMem hmem, List.length_cons, ← hrest]
      omega

/-- Items that a property rules out leave those it selects as they are. -/
theorem filter_addAll {p : α → Bool} (hl : ∀ a ∈ l, p a = false) :
    (addAll key acc l).filter p = acc.filter p := by
  induction l generalizing acc with
  | nil => rfl
  | cons a l ih =>
    show (addAll key (add key acc a) l).filter p = _
    rw [ih fun b hb => hl b (List.mem_cons_of_mem a hb), add]
    split
    · rfl
    · rw [List.filter_append, List.filter_cons_of_neg (by rw [hl a List.mem_cons_self]; decide),
        List.filter_nil, List.append_nil]

/-- What holds of everything that was there and of every item holds of everything that is there. -/
theorem forall_mem_addAll {P : α → Prop} (hacc : ∀ a ∈ acc, P a) (hl : ∀ a ∈ l, P a) :
    ∀ a ∈ addAll key acc l, P a := by
  induction l generalizing acc with
  | nil => exact hacc
  | cons a l ih =>
    have hadd : ∀ b ∈ add key acc a, P b := by
      intro b hb
      rw [add] at hb
      split at hb
      · exact hacc b hb
      · rcases List.mem_append.mp hb with hb | hb
        · exact hacc b hb
        · rw [List.mem_singleton.mp hb]
          exact hl a List.mem_cons_self
    exact ih hadd fun b hb => hl b (List.mem_cons_of_mem a hb)

theorem mem_addAll_of_mem (ha : a ∈ acc) : a ∈ addAll key acc l := by
  induction l generalizing acc with
  | nil => exact ha
  | cons b l ih =>
    refine ih ?_
    rw [add]
    split
    · exact ha
    · exact List.mem_append_left _ ha

/-- Every item, or one with its key that came before, is there in the end. -/
theorem exists_mem_addAll (ha : a ∈ acc ++ l) : ∃ b ∈ addAll key acc l, key b = key a := by
  induction l generalizing acc with
  | nil =>
    rw [List.append_nil] at ha
    exact ⟨a, ha, rfl⟩
  | cons c l ih =>
    rcases List.mem_append.mp ha with hacc | hl
    · exact ⟨a, mem_addAll_of_mem hacc, rfl⟩
    · rcases List.mem_cons.mp hl with rfl | hl
      · by_cases hmem : key a ∈ acc.map key
        · obtain ⟨b, hb, hkey⟩ := List.mem_map.mp hmem
          exact ⟨b, mem_addAll_of_mem hb, hkey⟩
        · have hnow : a ∈ add key acc a := by
            rw [add_of_notMem hmem]
            exact List.mem_append_right _ List.mem_cons_self
          have hkept : a ∈ addAll key (add key acc a) l := mem_addAll_of_mem hnow
          exact ⟨a, hkept, rfl⟩
      · exact ih (List.mem_append_right _ hl)

end KeepFirst
