import Mathlib.Logic.Function.Basic
import Mathlib.Logic.Relation
import Mathlib.Order.Basic
import Mathlib.Data.List.Basic
import Mathlib.Tactic.Common

/-!
# Forests of parents

A function that takes every item to its parent, and a root to itself, is a forest when ranks grow
towards the roots. Two changes are made to such a forest: an item is redirected to its root, which
moves no item to another tree, and one root is linked below another, which joins two trees and
nothing else. Both keep the forest ranked, if the rank of the new root is raised when the two ranks
are the same.

## Main definitions

* `Forest.RootOf`, `Forest.SameTree`
* `Forest.Ranked`
* `Forest.above` — how many items of a list have a higher rank, the measure of a climb

## Main results

* `Forest.rootOf_redirect`, `Forest.ranked_redirect`
* `Forest.rootOf_link`, `Forest.ranked_link`, `Forest.sameTree_link`
* `Forest.eqvGen_or_pair` — the equivalence generated by one more pair
-/

namespace Forest

variable {κ : Type*} {parent : κ → κ} {rank : κ → ℕ} {x y r s : κ}

/-- The climb from the item ends in the root. -/
inductive RootOf (parent : κ → κ) : κ → κ → Prop
  | root {r : κ} (h : parent r = r) : RootOf parent r r
  | step {x r : κ} (h : parent x ≠ x) (tail : RootOf parent (parent x) r) : RootOf parent x r

/-- The climbs from two items end in the same root. -/
def SameTree (parent : κ → κ) (x y : κ) : Prop := ∃ r, RootOf parent x r ∧ RootOf parent y r

/-- Ranks grow on the way to a root. -/
def Ranked (parent : κ → κ) (rank : κ → ℕ) : Prop := ∀ x, parent x ≠ x → rank x < rank (parent x)

/-- How many items of the list have a higher rank. -/
def above (rank : κ → ℕ) (items : List κ) (x : κ) : ℕ := items.countP fun k => rank x < rank k

theorem RootOf.isRoot (h : RootOf parent x r) : parent r = r := by
  induction h with
  | root h => exact h
  | step _ _ ih => exact ih

theorem RootOf.eq_of_root (h : RootOf parent x r) (hx : parent x = x) : r = x := by
  cases h with
  | root _ => rfl
  | step hne _ => exact absurd hx hne

theorem RootOf.unique (h : RootOf parent x r) (h' : RootOf parent x s) : r = s := by
  induction h with
  | root hr => exact (h'.eq_of_root hr).symm
  | step hne _ ih =>
    cases h' with
    | root hs => exact absurd hs hne
    | step _ tail => exact ih tail

/-- The root of another item is the parent of something. -/
theorem RootOf.eq_or_exists (h : RootOf parent x r) : r = x ∨ ∃ z, parent z ≠ z ∧ parent z = r := by
  induction h with
  | root _ => exact .inl rfl
  | @step x r hne _ ih =>
    rcases ih with hr | hz
    · exact .inr ⟨x, hne, hr.symm⟩
    · exact .inr hz

theorem RootOf.rank_lt (hrank : Ranked parent rank) (h : RootOf parent x r) (hne : x ≠ r) :
    rank x < rank r := by
  induction h with
  | root _ => exact absurd rfl hne
  | @step x r hx _ ih =>
    by_cases hp : parent x = r
    · rw [← hp]
      exact hrank x hx
    · exact Nat.lt_trans (hrank x hx) (ih hp)

/-! ### Climbing -/

/-- The parent of an item has fewer items above it. -/
theorem above_parent_lt (hrank : Ranked parent rank) {items : List κ} (hx : parent x ≠ x)
    (hmem : parent x ∈ items) : above rank items (parent x) < above rank items x := by
  have hlt := hrank x hx
  rw [above, above]
  induction items with
  | nil => cases hmem
  | cons k items ih =>
    have hle : items.countP (fun k => rank (parent x) < rank k) ≤
        items.countP fun k => rank x < rank k := by
      refine List.countP_mono_left fun k _ hk => ?_
      simp only [decide_eq_true_eq] at hk ⊢
      omega
    rw [List.countP_cons, List.countP_cons]
    rcases List.mem_cons.mp hmem with rfl | htail
    · rw [if_neg (by simp), if_pos (by simpa using hlt)]
      omega
    · have hstep : (if decide (rank (parent x) < rank k) = true then 1 else 0) ≤
          if decide (rank x < rank k) = true then 1 else 0 := by
        by_cases hk : rank (parent x) < rank k
        · have hone : (if decide (rank x < rank k) = true then 1 else 0) = 1 :=
            if_pos (decide_eq_true (Nat.lt_trans hlt hk))
          rw [hone]
          split <;> omega
        · rw [if_neg (by simpa using hk)]
          exact Nat.zero_le _
      exact Nat.add_lt_add_of_lt_of_le (ih htail) hstep

theorem exists_rootOf (hrank : Ranked parent rank) {items : List κ}
    (hitems : ∀ z, parent z ≠ z → parent z ∈ items) (x : κ) : ∃ r, RootOf parent x r := by
  -- induction on the number of items above
  induction hn : above rank items x using Nat.strongRecOn generalizing x with
  | ind n ih =>
    by_cases hx : parent x = x
    · exact ⟨x, .root hx⟩
    · obtain ⟨r, hr⟩ := ih _ (hn ▸ above_parent_lt hrank hx (hitems x hx)) (parent x) rfl
      exact ⟨r, .step hx hr⟩

/-! ### Redirecting an item to its root -/

variable [DecidableEq κ]

theorem rootOf_redirect (h : RootOf parent x r) :
    RootOf (Function.update parent x r) y s ↔ RootOf parent y s := by
  have hroot := h.isRoot
  constructor
  · intro hy
    induction hy with
    | @root s hs =>
      by_cases hsx : s = x
      · subst hsx
        rw [Function.update_self] at hs
        subst hs
        exact .root hroot
      · rw [Function.update_of_ne hsx] at hs
        exact .root hs
    | @step y s hy _ ih =>
      by_cases hyx : y = x
      · subst hyx
        rw [Function.update_self] at ih
        rwa [ih.eq_of_root hroot]
      · rw [Function.update_of_ne hyx] at hy ih
        exact .step hy ih
  · intro hy
    induction hy with
    | @root s hs =>
      refine .root ?_
      by_cases hsx : s = x
      · subst hsx
        rw [Function.update_self, h.eq_of_root hs]
      · rwa [Function.update_of_ne hsx]
    | @step y s hy tail ih =>
      by_cases hyx : y = x
      · subst hyx
        have hrx : r ≠ y := by
          rintro rfl
          exact hy hroot
        have hs : s = r := (RootOf.step hy tail).unique h
        subst hs
        refine .step ?_ ?_
        · rwa [Function.update_self]
        · rw [Function.update_self]
          exact .root (by rwa [Function.update_of_ne hrx])
      · refine .step ?_ ?_
        · rwa [Function.update_of_ne hyx]
        · rwa [Function.update_of_ne hyx]

theorem ranked_redirect (hrank : Ranked parent rank) (h : RootOf parent x r) :
    Ranked (Function.update parent x r) rank := by
  intro z hz
  by_cases hzx : z = x
  · subst hzx
    rw [Function.update_self] at hz ⊢
    exact h.rank_lt hrank (Ne.symm hz)
  · rw [Function.update_of_ne hzx] at hz ⊢
    exact hrank z hz

/-! ### Linking two roots -/

/-- Of two roots, one below the other. -/
theorem rootOf_link {a b : κ} (ha : parent a = a) (hb : parent b = b) (hab : a ≠ b) :
    RootOf (Function.update parent a b) y s ↔
      (RootOf parent y s ∧ s ≠ a) ∨ (RootOf parent y a ∧ s = b) := by
  have hparent : ∀ z, z ≠ a → Function.update parent a b z = parent z := fun z hz =>
    Function.update_of_ne hz _ _
  constructor
  · intro h
    induction h with
    | @root s hs =>
      have hsa : s ≠ a := by
        rintro rfl
        rw [Function.update_self] at hs
        exact hab hs.symm
      rw [hparent s hsa] at hs
      exact .inl ⟨.root hs, hsa⟩
    | @step y s hy _ ih =>
      by_cases hya : y = a
      · subst hya
        rw [Function.update_self] at ih
        rcases ih with ⟨hbs, _⟩ | ⟨_, hs⟩
        · exact .inr ⟨.root ha, hbs.eq_of_root hb⟩
        · exact .inr ⟨.root ha, hs⟩
      · rw [hparent y hya] at hy ih
        exact ih.imp (fun h => ⟨.step hy h.1, h.2⟩) fun h => ⟨.step hy h.1, h.2⟩
  · rintro (⟨h, hs⟩ | ⟨h, rfl⟩)
    · induction h with
      | @root s hroot => exact .root (by rwa [hparent s hs])
      | @step y s hy _ ih =>
        have hya : y ≠ a := by
          rintro rfl
          exact hy ha
        exact .step (by rwa [hparent y hya]) (by rw [hparent y hya]; exact ih hs)
    · have hlast : RootOf (Function.update parent a s) a s := by
        refine .step ?_ ?_
        · rw [Function.update_self]
          exact Ne.symm hab
        · rw [Function.update_self]
          exact .root (by rwa [hparent s (Ne.symm hab)])
      induction h with
      | root _ => exact hlast
      | @step y a hy _ ih =>
        have hya : y ≠ a := by
          rintro rfl
          exact hy ha
        exact .step (by rwa [hparent y hya])
          (by rw [hparent y hya]; exact ih ha hab hparent hlast)

/-- Two ranks in order, the lower root below the higher. -/
theorem ranked_link {a b : κ} (hrank : Ranked parent rank) (h : rank a < rank b) :
    Ranked (Function.update parent a b) rank := by
  intro z hz
  by_cases hza : z = a
  · subst hza
    rwa [Function.update_self]
  · rw [Function.update_of_ne hza] at hz ⊢
    exact hrank z hz

/-- Raising a root keeps the ranks. -/
theorem ranked_raise {b : κ} {n : ℕ} (hrank : Ranked parent rank) (hb : parent b = b)
    (hn : rank b ≤ n) : Ranked parent (Function.update rank b n) := by
  intro z hz
  have hzb : z ≠ b := by
    rintro rfl
    exact hz hb
  rw [Function.update_of_ne hzb]
  by_cases hp : parent z = b
  · rw [hp, Function.update_self]
    have hlt := hrank z hz
    rw [hp] at hlt
    omega
  · rw [Function.update_of_ne hp]
    exact hrank z hz

/-! ### Trees -/

omit [DecidableEq κ] in
theorem sameTree_iff_of_rootOf (h : RootOf parent x r) : SameTree parent x y ↔ RootOf parent y r := by
  constructor
  · rintro ⟨s, hx, hy⟩
    rwa [h.unique hx]
  · exact fun hy => ⟨r, h, hy⟩

/-- Linking the roots of two items joins their trees, and no others. -/
theorem sameTree_link {a b u v : κ} (hx : RootOf parent x a) (hy : RootOf parent y b) (hab : a ≠ b) :
    SameTree (Function.update parent a b) u v ↔ SameTree parent u v ∨
      (SameTree parent u x ∧ SameTree parent y v) ∨ (SameTree parent u y ∧ SameTree parent x v) := by
  have hlink : ∀ z s, RootOf (Function.update parent a b) z s ↔
      (RootOf parent z s ∧ s ≠ a) ∨ (RootOf parent z a ∧ s = b) := fun z s =>
    rootOf_link hx.isRoot hy.isRoot hab
  have hua : SameTree parent u x ↔ RootOf parent u a := by
    rw [← sameTree_iff_of_rootOf hx, SameTree, SameTree]
    simp only [and_comm]
  have hub : SameTree parent u y ↔ RootOf parent u b := by
    rw [← sameTree_iff_of_rootOf hy, SameTree, SameTree]
    simp only [and_comm]
  rw [hua, hub, sameTree_iff_of_rootOf hx, sameTree_iff_of_rootOf hy]
  constructor
  · rintro ⟨s, hu, hv⟩
    rw [hlink] at hu hv
    rcases hu with ⟨hu, hs⟩ | ⟨hu, rfl⟩
    · rcases hv with ⟨hv, -⟩ | ⟨hv, rfl⟩
      · exact .inl ⟨s, hu, hv⟩
      · exact .inr (.inr ⟨hu, hv⟩)
    · rcases hv with ⟨hv, -⟩ | ⟨hv, -⟩
      · exact .inr (.inl ⟨hu, hv⟩)
      · exact .inl ⟨a, hu, hv⟩
  · rintro (⟨s, hu, hv⟩ | ⟨hu, hv⟩ | ⟨hu, hv⟩)
    · by_cases hs : s = a
      · subst hs
        exact ⟨b, (hlink u b).mpr (.inr ⟨hu, rfl⟩), (hlink v b).mpr (.inr ⟨hv, rfl⟩)⟩
      · exact ⟨s, (hlink u s).mpr (.inl ⟨hu, hs⟩), (hlink v s).mpr (.inl ⟨hv, hs⟩)⟩
    · exact ⟨b, (hlink u b).mpr (.inr ⟨hu, rfl⟩), (hlink v b).mpr (.inl ⟨hv, Ne.symm hab⟩)⟩
    · exact ⟨b, (hlink u b).mpr (.inl ⟨hu, Ne.symm hab⟩), (hlink v b).mpr (.inr ⟨hv, rfl⟩)⟩

omit [DecidableEq κ] in
/-- The equivalence that one more pair generates. -/
theorem eqvGen_or_pair {R : κ → κ → Prop} {u v : κ} :
    Relation.EqvGen (fun p q => R p q ∨ (p = x ∧ q = y)) u v ↔ Relation.EqvGen R u v ∨
      (Relation.EqvGen R u x ∧ Relation.EqvGen R y v) ∨
      (Relation.EqvGen R u y ∧ Relation.EqvGen R x v) := by
  constructor
  · intro h
    induction h with
    | rel p q hpq =>
      rcases hpq with hpq | ⟨rfl, rfl⟩
      · exact .inl (.rel _ _ hpq)
      · exact .inr (.inl ⟨.refl _, .refl _⟩)
    | refl p => exact .inl (.refl _)
    | symm p q _ ih =>
      rcases ih with ih | ⟨hx, hy⟩ | ⟨hy, hx⟩
      · exact .inl (.symm _ _ ih)
      · exact .inr (.inr ⟨.symm _ _ hy, .symm _ _ hx⟩)
      · exact .inr (.inl ⟨.symm _ _ hx, .symm _ _ hy⟩)
    | trans p q w _ _ ih ih' =>
      rcases ih with ih | ⟨hx, hy⟩ | ⟨hy, hx⟩
      · rcases ih' with ih' | ⟨hx', hy'⟩ | ⟨hy', hx'⟩
        · exact .inl (.trans _ _ _ ih ih')
        · exact .inr (.inl ⟨.trans _ _ _ ih hx', hy'⟩)
        · exact .inr (.inr ⟨.trans _ _ _ ih hy', hx'⟩)
      · rcases ih' with ih' | ⟨-, hy'⟩ | ⟨-, hx'⟩
        · exact .inr (.inl ⟨hx, .trans _ _ _ hy ih'⟩)
        · exact .inr (.inl ⟨hx, hy'⟩)
        · exact .inl (.trans _ _ _ hx hx')
      · rcases ih' with ih' | ⟨-, hy'⟩ | ⟨-, hx'⟩
        · exact .inr (.inr ⟨hy, .trans _ _ _ hx ih'⟩)
        · exact .inl (.trans _ _ _ hy hy')
        · exact .inr (.inr ⟨hy, hx'⟩)
  · have hmono : ∀ {p q}, Relation.EqvGen R p q →
        Relation.EqvGen (fun p q => R p q ∨ (p = x ∧ q = y)) p q := fun h =>
      h.mono fun _ _ => .inl
    have hpair : Relation.EqvGen (fun p q => R p q ∨ (p = x ∧ q = y)) x y :=
      .rel _ _ (.inr ⟨rfl, rfl⟩)
    rintro (h | ⟨hx, hy⟩ | ⟨hy, hx⟩)
    · exact hmono h
    · exact .trans _ _ _ (hmono hx) (.trans _ _ _ hpair (hmono hy))
    · exact .trans _ _ _ (hmono hy) (.trans _ _ _ (.symm _ _ hpair) (hmono hx))

end Forest
