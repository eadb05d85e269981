import Mathlib.Data.List.Pairwise
import Mathlib.Data.List.Range
import Mathlib.Data.Rat.Defs
import Mathlib.Algebra.Order.Field.Rat
import Mathlib.Tactic.FieldSimp
import Mathlib.Tactic.NormNum
import Mathlib.Tactic.Common

/-!
# Similarity by longest matching blocks

The similarity of two sequences: the longest block that both have is taken out, what is left of it
and what is right of it are compared in the same way, and the ratio is twice the number of matched
items over the number of all items. Of several longest blocks the first in the first sequence is
taken, and of several places in the second sequence the first.

In a long second sequence the items that come up all the time do not start a block. They only extend
one, which is why the block found first decides even between two equal sequences.

## Main definitions

* `SequenceMatcher.longestMatch` — the block that is taken out
* `SequenceMatcher.matched`, `SequenceMatcher.ratio`

## Main results

* `SequenceMatcher.longestMatch_self` — the block of a sequence with itself is the whole sequence
* `SequenceMatcher.ratio_self` — its ratio is 1
-/

namespace SequenceMatcher

variable {α : Type*} [DecidableEq α] (popular : α → Bool)

/-- The length of the longest common beginning. -/
def common : List α → List α → ℕ
  | x :: xs, y :: ys => if x = y then common xs ys + 1 else 0
  | _, _ => 0

/-- The length of the longest common beginning without popular items. -/
def commonRare : List α → List α → ℕ
  | x :: xs, y :: ys => if x = y ∧ popular y = false then commonRare xs ys + 1 else 0
  | _, _ => 0

/-- The starts of blocks, in the order in which they are preferred. -/
def starts (a b : List α) : List (ℕ × ℕ) :=
  (List.range a.length).flatMap fun i => (List.range b.length).map fun j => (i, j)

/-- The number of rare items of the block from a start on. -/
def size (a b : List α) (s : ℕ × ℕ) : ℕ := commonRare popular (a.drop s.1) (b.drop s.2)

/-- The first of the largest. -/
def firstMax {γ : Type*} (f : γ → ℕ) (l : List γ) (init : γ) : γ :=
  l.foldl (fun best c => if f best < f c then c else best) init

/-- The first start of a longest block, or the beginning when there is no block. -/
def bestStart (a b : List α) : ℕ × ℕ := firstMax (size popular a b) (starts a b) (0, 0)

/-- `find_longest_match`: where the block starts in the two sequences, and its length. -/
def longestMatch (a b : List α) : ℕ × ℕ × ℕ :=
  let s := bestStart popular a b
  let k := size popular a b s
  let before := common (a.take s.1).reverse (b.take s.2).reverse
  (s.1 - before, s.2 - before, before + k + common (a.drop (s.1 + k)) (b.drop (s.2 + k)))

/-- The number of items in the blocks; the fuel bounds the depth of the search. -/
def matched : ℕ → List α → List α → ℕ
  | 0, _, _ => 0
  | fuel + 1, a, b =>
    let (i, j, k) := longestMatch popular a b
    if k = 0 then 0
    else k + matched fuel (a.take i) (b.take j) + matched fuel (a.drop (i + k)) (b.drop (j + k))

/-- The items that do not start a block: in a sequence of 200 or more, those that make up more than
a hundredth of it. -/
def isPopular (b : List α) (x : α) : Bool :=
  200 ≤ b.length && b.length / 100 + 1 < b.count x

/-- `ratio`. -/
def ratio (a b : List α) : ℚ :=
  if a.length + b.length = 0 then 1
  else 2 * matched (isPopular b) (a.length + 1) a b / (a.length + b.length : ℕ)

variable {popular} {a b : List α}

/-! ### The preferred start -/

/-- Nothing before the first maximum is as large, and nothing is larger. -/
theorem firstMax_spec {γ : Type*} (f : γ → ℕ) (l : List γ) (init : γ) :
    f init ≤ f (firstMax f l init) ∧ (∀ c ∈ l, f c ≤ f (firstMax f l init)) ∧
      (firstMax f l init = init ∨ ∃ l₁ l₂, l = l₁ ++ firstMax f l init :: l₂ ∧
        ∀ c ∈ init :: l₁, f c < f (firstMax f l init)) := by
  induction l generalizing init with
  | nil => exact ⟨Nat.le_refl _, by simp, .inl rfl⟩
  | cons d l ih =>
    by_cases hd : f init < f d
    · have hstep : firstMax f (d :: l) init = firstMax f l d := by
        rw [firstMax, List.foldl_cons, if_pos hd, firstMax]
      obtain ⟨hinit, hall, hwhere⟩ := ih d
      rw [hstep]
      refine ⟨by omega, List.forall_mem_cons.mpr ⟨hinit, hall⟩, .inr ?_⟩
      rcases hwhere with heq | ⟨l₁, l₂, hl, hless⟩
      · refine ⟨[], l, by rw [heq]; rfl, fun c hc => ?_⟩
        rw [List.mem_singleton.mp hc, heq]
        exact hd
      · have hfirst := hless d List.mem_cons_self
        exact ⟨d :: l₁, l₂, by rw [List.cons_append, ← hl],
          List.forall_mem_cons.mpr ⟨by omega, hless⟩⟩
    · have hstep : firstMax f (d :: l) init = firstMax f l init := by
        rw [firstMax, List.foldl_cons, if_neg hd, firstMax]
      obtain ⟨hinit, hall, hwhere⟩ := ih init
      rw [hstep]
      refine ⟨hinit, List.forall_mem_cons.mpr ⟨by omega, hall⟩, ?_⟩
      rcases hwhere with heq | ⟨l₁, l₂, hl, hless⟩
      · exact .inl heq
      · have hfirst := hless init List.mem_cons_self
        refine .inr ⟨d :: l₁, l₂, by rw [List.cons_append, ← hl], ?_⟩
        refine List.forall_mem_cons.mpr ⟨hfirst, List.forall_mem_cons.mpr ⟨by omega, ?_⟩⟩
        exact fun c hc => hless c (List.mem_cons_of_mem _ hc)

/-- A start is preferred to another. -/
def Before (s t : ℕ × ℕ) : Prop := s.1 < t.1 ∨ s.1 = t.1 ∧ s.2 < t.2

omit [DecidableEq α] in
theorem mem_starts_iff {s : ℕ × ℕ} : s ∈ starts a b ↔ s.1 < a.length ∧ s.2 < b.length := by
  simp [starts, Prod.ext_iff]

omit [DecidableEq α] in
theorem pairwise_starts (a b : List α) : (starts a b).Pairwise Before := by
  refine List.pairwise_flatMap.mpr ⟨fun i _ => ?_, ?_⟩
  · refine List.pairwise_map.mpr (List.pairwise_lt_range.imp fun h => ?_)
    exact .inr ⟨rfl, h⟩
  · refine List.pairwise_lt_range.imp fun h s hs t ht => ?_
    obtain ⟨j, -, rfl⟩ := List.mem_map.mp hs
    obtain ⟨j', -, rfl⟩ := List.mem_map.mp ht
    exact .inl h

theorem bestStart_mem (popular : α → Bool) (a b : List α) :
    bestStart popular a b = (0, 0) ∨ bestStart popular a b ∈ starts a b := by
  obtain ⟨-, -, hwhere⟩ := firstMax_spec (size popular a b) (starts a b) (0, 0)
  refine hwhere.imp id fun hpair => ?_
  obtain ⟨l₁, l₂, hl, -⟩ := hpair
  have hmem : bestStart popular a b ∈ l₁ ++ bestStart popular a b :: l₂ :=
    List.mem_append_right _ List.mem_cons_self
  rwa [bestStart, ← hl] at hmem

/-- A start that is preferred to the best one has a smaller block. -/
theorem size_lt_of_before (popular : α → Bool) {s : ℕ × ℕ} (hs : s ∈ starts a b)
    (h : Before s (bestStart popular a b)) :
    size popular a b s < size popular a b (bestStart popular a b) := by
  obtain ⟨-, -, hwhere⟩ := firstMax_spec (size popular a b) (starts a b) (0, 0)
  rcases hwhere with hinit | ⟨l₁, l₂, hl, hless⟩
  · rw [bestStart, hinit] at h
    rcases h with h | ⟨-, h⟩ <;> omega
  · have hpair := pairwise_starts a b
    rw [hl] at hs hpair
    rcases List.mem_append.mp hs with hs | hs
    · exact hless s (List.mem_cons_of_mem _ hs)
    · -- what comes later is not preferred
      exfalso
      have hlater := (List.pairwise_cons.mp (List.pairwise_append.mp hpair).2.1).1
      rcases List.mem_cons.mp hs with rfl | hs
      · rcases h with h | ⟨-, h⟩ <;> exact absurd h (Nat.lt_irrefl _)
      · have hafter := hlater s hs
        unfold Before bestStart at *
        omega

/-! ### A sequence with itself -/

@[simp] theorem common_self (a : List α) : common a a = a.length := by
  induction a with
  | nil => rfl
  | cons x a ih => rw [common, if_pos rfl, ih, List.length_cons]

theorem commonRare_comm (a b : List α) : commonRare popular a b = commonRare popular b a := by
  induction a generalizing b with
  | nil => cases b <;> rfl
  | cons x a ih =>
    cases b with
    | nil => rfl
    | cons y b =>
      rw [commonRare, commonRare, ih]
      by_cases hxy : x = y
      · rw [hxy]
      · rw [if_neg fun h => hxy h.1, if_neg fun h => hxy h.1.symm]

theorem commonRare_le_self (popular : α → Bool) (a b : List α) : commonRare popular a b ≤ commonRare popular a a := by
  induction a generalizing b with
  | nil => cases b <;> exact Nat.le_refl _
  | cons x a ih =>
    cases b with
    | nil => exact Nat.zero_le _
    | cons y b =>
      rw [commonRare, commonRare]
      split
      · rename_i h
        have hrare : x = x ∧ popular x = false := ⟨rfl, by rw [h.1]; exact h.2⟩
        have hrest := ih b
        rw [if_pos hrare]
        omega
      · exact Nat.zero_le _

theorem commonRare_le_length (a b : List α) : commonRare popular a b ≤ a.length := by
  induction a generalizing b with
  | nil => cases b <;> exact Nat.le_refl _
  | cons x a ih =>
    cases b with
    | nil => exact Nat.zero_le _
    | cons y b =>
      have hrest := ih b
      rw [commonRare, List.length_cons]
      split <;> omega

/-- The block is in the same place of both. -/
theorem bestStart_self (popular : α → Bool) (a : List α) : (bestStart popular a a).1 = (bestStart popular a a).2 := by
  rcases bestStart_mem popular a a with hinit | hmem
  · rw [hinit]
  · obtain ⟨hi, hj⟩ := mem_starts_iff.mp hmem
    set i := (bestStart popular a a).1 with hidef
    set j := (bestStart popular a a).2 with hjdef
    have hsize : size popular a a (bestStart popular a a) =
        commonRare popular (a.drop i) (a.drop j) := rfl
    rcases Nat.lt_trichotomy i j with hlt | heq | hgt
    · -- the block at `i` in both is as long and preferred
      have hless := size_lt_of_before popular (s := (i, i))
        (mem_starts_iff.mpr ⟨hi, hi⟩) (.inr ⟨rfl, hlt⟩)
      have hle := commonRare_le_self popular (a.drop i) (a.drop j)
      rw [hsize] at hless
      exact absurd hle (Nat.not_le.mpr hless)
    · exact heq
    · have hless := size_lt_of_before popular (s := (j, i))
        (mem_starts_iff.mpr ⟨hj, hi⟩) (.inl hgt)
      rw [hsize, commonRare_comm] at hless
      exact absurd hless (Nat.lt_irrefl _)

/-- The block of a sequence with itself is the whole sequence. -/
theorem longestMatch_self (a : List α) : longestMatch popular a a = (0, 0, a.length) := by
  have hsame := bestStart_self popular a
  have hle : (bestStart popular a a).1 ≤ a.length := by
    rcases bestStart_mem popular a a with hinit | hmem
    · rw [hinit]
      exact Nat.zero_le _
    · exact Nat.le_of_lt (mem_starts_iff.mp hmem).1
  have hsize : size popular a a (bestStart popular a a) ≤
      a.length - (bestStart popular a a).1 := by
    rw [← List.length_drop]
    exact commonRare_le_length _ _
  simp only [longestMatch, ← hsame, common_self, List.length_reverse, List.length_take,
    List.length_drop]
  rw [Prod.mk.injEq, Prod.mk.injEq]
  omega

theorem matched_self (fuel : ℕ) (a : List α) : matched popular (fuel + 1) a a = a.length := by
  rw [matched, longestMatch_self]
  dsimp only
  split
  · rename_i h
    exact h.symm
  · have hleft : ∀ n, matched popular n (a.take 0) (a.take 0) = 0 := by
      intro n
      cases n with
      | zero => rfl
      | succ n =>
        rw [matched, longestMatch_self]
        rfl
    have hright : ∀ n, matched popular n (a.drop (0 + a.length)) (a.drop (0 + a.length)) = 0 := by
      intro n
      cases n with
      | zero => rfl
      | succ n =>
        rw [matched, longestMatch_self]
        simp
    rw [hleft, hright, Nat.add_zero]

/-- A sequence is as similar to itself as can be. -/
theorem ratio_self (a : List α) : ratio a a = 1 := by
  rw [ratio, matched_self]
  split
  · rfl
  · rename_i h
    have hpos : (a.length : ℚ) ≠ 0 := by
      exact_mod_cast fun hzero => h (by omega)
    push_cast
    field_simp
    norm_num

end SequenceMatcher
