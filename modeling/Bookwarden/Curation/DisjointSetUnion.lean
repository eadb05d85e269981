import Mathlib.Data.List.Nodup
import Bookwarden.Lib.Assoc
import Bookwarden.Lib.Forest

/-!
# Disjoint sets

The class `DisjointSetUnion` of `curation/series_topology.py`: two dictionaries, with path compression
and union by rank. An item that was never seen is its own parent of rank 0, so that the two
dictionaries are a forest on all items. The recursion of `find` is bounded by the number of items:
every step reaches a parent of higher rank.

## Main definitions

* `DisjointSetUnion`, with `find` and `union`
* `DisjointSetUnion.Represents` — a valid forest with the trees of a generated equivalence

## Main results

* `DisjointSetUnion.find_spec`
* `DisjointSetUnion.Represents.union`, `DisjointSetUnion.Represents.unionAll`
-/

namespace Bookwarden.Curation

open Forest

/-- `DisjointSetUnion`. -/
structure DisjointSetUnion (κ : Type*) where
  parent : List (κ × κ) := []
  rank : List (κ × ℕ) := []

namespace DisjointSetUnion

variable {κ : Type*} [DecidableEq κ]

/-- The parent of an item. -/
def parentOf (d : DisjointSetUnion κ) (item : κ) : κ := (Assoc.get? item d.parent).getD item

/-- The rank of an item. -/
def rankOf (d : DisjointSetUnion κ) (item : κ) : ℕ := (Assoc.get? item d.rank).getD 0

/-- `find`, with a bound on the depth of its recursion. -/
def findIn : ℕ → DisjointSetUnion κ → κ → DisjointSetUnion κ × κ
  | 0, d, item => (d, item)
  | fuel + 1, d, item =>
    match Assoc.get? item d.parent with
    | none => ({ parent := Assoc.set item item d.parent, rank := Assoc.set item 0 d.rank }, item)
    | some p =>
      if p = item then (d, item)
      else
        let (d', root) := findIn fuel d p
        ({ d' with parent := Assoc.set item root d'.parent }, root)

/-- `find`. -/
def find (d : DisjointSetUnion κ) (item : κ) : DisjointSetUnion κ × κ :=
  findIn (d.parent.length + 1) d item

/-- The branches of `union` on the two roots. -/
def linkRoots (d : DisjointSetUnion κ) (rootX rootY : κ) : DisjointSetUnion κ :=
  if rootX = rootY then d
  else if d.rankOf rootX < d.rankOf rootY then
    { d with parent := Assoc.set rootX rootY d.parent }
  else if d.rankOf rootY < d.rankOf rootX then
    { d with parent := Assoc.set rootY rootX d.parent }
  else
    { parent := Assoc.set rootY rootX d.parent
      rank := Assoc.set rootX (d.rankOf rootX + 1) d.rank }

/-- `union`. -/
def union (d : DisjointSetUnion κ) (x y : κ) : DisjointSetUnion κ :=
  let (d, rootX) := d.find x
  let (d, rootY) := d.find y
  d.linkRoots rootX rootY

/-! ### The invariant -/

/-- The parents are a ranked forest on the items seen so far. -/
structure Valid (d : DisjointSetUnion κ) : Prop where
  ranked : Ranked d.parentOf d.rankOf
  closed : ∀ x, d.parentOf x ≠ x → d.parentOf x ∈ Assoc.keys d.parent
  fresh : ∀ x, x ∉ Assoc.keys d.parent → d.rankOf x = 0

variable {d : DisjointSetUnion κ} {x y item root : κ}

theorem parentOf_of_notMem (h : x ∉ Assoc.keys d.parent) : d.parentOf x = x := by
  rw [parentOf, Assoc.get?_eq_none_iff.mpr h]
  rfl

theorem parentOf_of_get? {p : κ} (h : Assoc.get? x d.parent = some p) : d.parentOf x = p := by
  rw [parentOf, h]
  rfl

theorem mem_keys_of_parentOf_ne (h : d.parentOf x ≠ x) : x ∈ Assoc.keys d.parent := by
  by_contra hx
  exact h (parentOf_of_notMem hx)

/-- Writing a parent is an update of the parents. -/
theorem parentOf_set (d : DisjointSetUnion κ) (x p : κ) (rank : List (κ × ℕ)) :
    parentOf { parent := Assoc.set x p d.parent, rank := rank } = Function.update d.parentOf x p := by
  funext z
  rw [parentOf, Assoc.get?_set]
  by_cases hz : z = x
  · subst hz
    rw [if_pos rfl, Function.update_self]
    rfl
  · rw [if_neg hz, Function.update_of_ne hz, parentOf]

theorem rankOf_set (d : DisjointSetUnion κ) (x : κ) (n : ℕ) (parent : List (κ × κ)) :
    rankOf { parent := parent, rank := Assoc.set x n d.rank } = Function.update d.rankOf x n := by
  funext z
  rw [rankOf, Assoc.get?_set]
  by_cases hz : z = x
  · subst hz
    rw [if_pos rfl, Function.update_self]
    rfl
  · rw [if_neg hz, Function.update_of_ne hz, rankOf]

theorem mem_keys_set {l : List (κ × κ)} {p : κ} :
    y ∈ Assoc.keys (Assoc.set x p l) ↔ y = x ∨ y ∈ Assoc.keys l := by
  by_cases hx : x ∈ Assoc.keys l
  · rw [Assoc.keys_set_of_mem hx]
    refine ⟨.inr, ?_⟩
    rintro (rfl | h)
    · exact hx
    · exact h
  · rw [Assoc.keys_set_of_notMem hx, List.mem_append, List.mem_singleton, or_comm]

theorem Valid.empty : (Valid ({} : DisjointSetUnion κ)) where
  ranked _ h := absurd rfl h
  closed _ h := absurd rfl h
  fresh _ _ := rfl

/-- The root of an item was seen, or is the item. -/
theorem Valid.root_mem (hd : d.Valid) (h : RootOf d.parentOf x root) :
    root = x ∨ root ∈ Assoc.keys d.parent := by
  rcases h.eq_or_exists with hx | ⟨z, hz, hroot⟩
  · exact .inl hx
  · rw [← hroot]
    exact .inr (hd.closed z hz)

theorem Valid.exists_rootOf (hd : d.Valid) (x : κ) : ∃ root, RootOf d.parentOf x root :=
  Forest.exists_rootOf hd.ranked hd.closed x

/-! ### Finding -/

/-- What `find` gives and leaves: the root of the item, and the same forest with shorter ways. -/
structure Found (d : DisjointSetUnion κ) (item : κ) (found : DisjointSetUnion κ × κ) : Prop where
  root : RootOf d.parentOf item found.2
  valid : found.1.Valid
  same : ∀ y s, RootOf found.1.parentOf y s ↔ RootOf d.parentOf y s
  ranks : found.1.rankOf = d.rankOf
  seen : found.2 ∈ Assoc.keys found.1.parent
  keys : ∀ y ∈ Assoc.keys d.parent, y ∈ Assoc.keys found.1.parent

theorem found_fresh (hd : d.Valid) (h : Assoc.get? item d.parent = none) :
    Found d item ({ parent := Assoc.set item item d.parent, rank := Assoc.set item 0 d.rank }, item) := by
  have hmem : item ∉ Assoc.keys d.parent := Assoc.get?_eq_none_iff.mp h
  have hroot : d.parentOf item = item := parentOf_of_notMem hmem
  have hparent : parentOf ⟨Assoc.set item item d.parent, Assoc.set item 0 d.rank⟩ =
      d.parentOf := by
    rw [parentOf_set, Function.update_eq_self_iff, hroot]
  have hrank : rankOf ⟨Assoc.set item item d.parent, Assoc.set item 0 d.rank⟩ = d.rankOf := by
    rw [rankOf_set, Function.update_eq_self_iff, hd.fresh item hmem]
  refine ⟨.root hroot, ⟨?_, ?_, ?_⟩, fun y s => ?_, hrank, mem_keys_set.mpr (.inl rfl),
    fun y hy => mem_keys_set.mpr (.inr hy)⟩
  · rw [hparent, hrank]
    exact hd.ranked
  · intro x hx
    rw [hparent] at hx ⊢
    exact mem_keys_set.mpr (.inr (hd.closed x hx))
  · intro x hx
    rw [hrank]
    exact hd.fresh x fun h => hx (mem_keys_set.mpr (.inr h))
  · rw [hparent]

theorem found_root (hd : d.Valid) (h : Assoc.get? item d.parent = some item) :
    Found d item (d, item) :=
  ⟨.root (parentOf_of_get? h), hd, fun _ _ => Iff.rfl, rfl,
    Assoc.mem_keys_iff.mpr ⟨item, h⟩, fun _ hy => hy⟩

/-- The recursive case: the item is redirected to the root of its parent. -/
theorem found_step {p : κ} (h : Assoc.get? item d.parent = some p) (hp : p ≠ item)
    {found : DisjointSetUnion κ × κ} (hf : Found d p found) :
    Found d item ({ found.1 with parent := Assoc.set item found.2 found.1.parent }, found.2) := by
  have hparent : d.parentOf item = p := parentOf_of_get? h
  have hitem : RootOf d.parentOf item found.2 :=
    .step (by rwa [hparent]) (by rw [hparent]; exact hf.root)
  have hitem' : RootOf found.1.parentOf item found.2 := (hf.same item found.2).mpr hitem
  have hset : parentOf { found.1 with parent := Assoc.set item found.2 found.1.parent } =
      Function.update found.1.parentOf item found.2 := parentOf_set _ _ _ _
  have hrank : rankOf { found.1 with parent := Assoc.set item found.2 found.1.parent } =
      found.1.rankOf := rfl
  refine ⟨hitem, ⟨?_, ?_, ?_⟩, fun y s => ?_, hrank.trans hf.ranks,
    mem_keys_set.mpr (.inr hf.seen), fun y hy => mem_keys_set.mpr (.inr (hf.keys y hy))⟩
  · rw [hset, hrank]
    exact ranked_redirect hf.valid.ranked hitem'
  · intro x hx
    rw [hset] at hx ⊢
    refine mem_keys_set.mpr (.inr ?_)
    by_cases hxi : x = item
    · subst hxi
      rw [Function.update_self]
      exact hf.seen
    · rw [Function.update_of_ne hxi] at hx ⊢
      exact hf.valid.closed x hx
  · intro x hx
    rw [hrank]
    exact hf.valid.fresh x fun hmem => hx (mem_keys_set.mpr (.inr hmem))
  · rw [hset, rootOf_redirect hitem', hf.same]

theorem findIn_spec (hd : d.Valid) : ∀ (fuel : ℕ) (item : κ),
    above d.rankOf (Assoc.keys d.parent) item < fuel → Found d item (findIn fuel d item)
  | 0, _, h => absurd h (Nat.not_lt_zero _)
  | fuel + 1, item, h => by
    rw [findIn]
    cases hget : Assoc.get? item d.parent with
    | none => exact found_fresh hd hget
    | some p =>
      show Found d item (if p = item then (d, item) else _)
      by_cases hp : p = item
      · subst hp
        rw [if_pos rfl]
        exact found_root hd hget
      · rw [if_neg hp]
        have hparent : d.parentOf item = p := parentOf_of_get? hget
        have hne : d.parentOf item ≠ item := by rwa [hparent]
        have hlt := above_parent_lt hd.ranked hne (hd.closed item hne)
        rw [hparent] at hlt
        exact found_step hget hp (findIn_spec hd fuel p (by omega))

/-- The number of items is bound enough. -/
theorem find_spec (hd : d.Valid) (item : κ) : Found d item (d.find item) := by
  refine findIn_spec hd _ item (Nat.lt_succ_of_le ?_)
  have hlength : (Assoc.keys d.parent).length = d.parent.length := List.length_map _
  exact hlength ▸ List.countP_le_length

/-! ### Uniting -/

/-- The forest is valid, and its trees are the classes of the equivalence that `R` generates. -/
structure Represents (d : DisjointSetUnion κ) (R : κ → κ → Prop) : Prop where
  valid : d.Valid
  same : ∀ u v, SameTree d.parentOf u v ↔ Relation.EqvGen R u v

variable {R : κ → κ → Prop}

theorem Represents.congr {R' : κ → κ → Prop} (h : d.Represents R) (hR : ∀ u v, R u v ↔ R' u v) :
    d.Represents R' := by
  obtain rfl : R = R' := by
    funext u v
    exact propext (hR u v)
  exact h

theorem Represents.empty : Represents ({} : DisjointSetUnion κ) fun _ _ => False where
  valid := .empty
  same u v := by
    have hroot : ∀ x, RootOf (parentOf ({} : DisjointSetUnion κ)) x x := fun x => .root rfl
    rw [sameTree_iff_of_rootOf (hroot u)]
    constructor
    · intro h
      rw [h.eq_of_root rfl]
      exact .refl v
    · intro h
      induction h with
      | rel _ _ h => exact h.elim
      | refl x => exact hroot x
      | symm x y _ ih => rw [ih.eq_of_root rfl]; exact hroot _
      | trans x y z _ _ ih ih' =>
        obtain rfl := ih.eq_of_root rfl
        exact ih'

theorem Represents.find (h : d.Represents R) (item : κ) : (d.find item).1.Represents R where
  valid := (find_spec h.valid item).valid
  same u v := by
    rw [← h.same, SameTree, SameTree]
    simp only [(find_spec h.valid item).same]

/-- Linking the roots of two items below one another. -/
theorem Represents.link (h : d.Represents R) {a b : κ} (hx : RootOf d.parentOf x a)
    (hy : RootOf d.parentOf y b) (hab : a ≠ b) {d' : DisjointSetUnion κ} (hd' : d'.Valid)
    (hparent : d'.parentOf = Function.update d.parentOf a b) :
    d'.Represents fun p q => R p q ∨ (p = x ∧ q = y) where
  valid := hd'
  same u v := by
    rw [hparent, sameTree_link hx hy hab, eqvGen_or_pair]
    simp only [h.same]

/-- What is valid stays valid when a root that was seen goes below another. -/
theorem Valid.link (hd : d.Valid) {a b : κ} (hb : b ∈ Assoc.keys d.parent)
    (hranked : Ranked (Function.update d.parentOf a b) d.rankOf) :
    Valid { d with parent := Assoc.set a b d.parent } := by
  have hset : parentOf { d with parent := Assoc.set a b d.parent } =
      Function.update d.parentOf a b := parentOf_set _ _ _ _
  refine ⟨by rw [hset]; exact hranked, fun x hx => ?_, fun x hx => ?_⟩
  · rw [hset] at hx ⊢
    refine mem_keys_set.mpr (.inr ?_)
    by_cases hxa : x = a
    · subst hxa
      rwa [Function.update_self]
    · rw [Function.update_of_ne hxa] at hx ⊢
      exact hd.closed x hx
  · exact hd.fresh x fun hmem => hx (mem_keys_set.mpr (.inr hmem))

/-- A root that was seen may be raised. -/
theorem Valid.raise (hd : d.Valid) {a : κ} (ha : a ∈ Assoc.keys d.parent)
    (hroot : d.parentOf a = a) : Valid { d with rank := Assoc.set a (d.rankOf a + 1) d.rank } := by
  have hset : rankOf { d with rank := Assoc.set a (d.rankOf a + 1) d.rank } =
      Function.update d.rankOf a (d.rankOf a + 1) := rankOf_set _ _ _ _
  refine ⟨?_, hd.closed, fun x hx => ?_⟩
  · rw [hset]
    exact ranked_raise hd.ranked hroot (Nat.le_succ _)
  · have hne : x ≠ a := by
      rintro rfl
      exact hx ha
    rw [hset, Function.update_of_ne hne]
    exact hd.fresh x hx

omit [DecidableEq κ] in
theorem eqvGen_pair_swap {u v : κ} :
    Relation.EqvGen (fun p q => R p q ∨ (p = x ∧ q = y)) u v ↔
      Relation.EqvGen (fun p q => R p q ∨ (p = y ∧ q = x)) u v := by
  rw [eqvGen_or_pair, eqvGen_or_pair]
  exact or_congr_right or_comm

theorem Represents.swap (h : d.Represents fun p q => R p q ∨ (p = y ∧ q = x)) :
    d.Represents fun p q => R p q ∨ (p = x ∧ q = y) :=
  ⟨h.valid, fun u v => (h.same u v).trans eqvGen_pair_swap⟩

/-- The branches of `union` join the classes of two items with these roots. -/
theorem Represents.linkRoots (h : d.Represents R) {rootX rootY : κ}
    (hx : RootOf d.parentOf x rootX) (hy : RootOf d.parentOf y rootY)
    (hseenX : rootX ∈ Assoc.keys d.parent) (hseenY : rootY ∈ Assoc.keys d.parent) :
    (d.linkRoots rootX rootY).Represents fun p q => R p q ∨ (p = x ∧ q = y) := by
  rw [DisjointSetUnion.linkRoots]
  by_cases hroots : rootX = rootY
  · subst hroots
    rw [if_pos rfl]
    refine ⟨h.valid, fun u v => ?_⟩
    have hxy : Relation.EqvGen R x y := (h.same x y).mp ⟨rootX, hx, hy⟩
    rw [h.same, eqvGen_or_pair]
    refine ⟨.inl, ?_⟩
    rintro (huv | ⟨hux, hyv⟩ | ⟨huy, hxv⟩)
    · exact huv
    · exact .trans _ _ _ hux (.trans _ _ _ hxy hyv)
    · exact .trans _ _ _ huy (.trans _ _ _ (.symm _ _ hxy) hxv)
  · rw [if_neg hroots]
    by_cases hlt : d.rankOf rootX < d.rankOf rootY
    · rw [if_pos hlt]
      exact h.link hx hy hroots (h.valid.link hseenY (ranked_link h.valid.ranked hlt))
        (parentOf_set _ _ _ _)
    · rw [if_neg hlt]
      by_cases hgt : d.rankOf rootY < d.rankOf rootX
      · rw [if_pos hgt]
        exact (h.link hy hx (Ne.symm hroots)
          (h.valid.link hseenX (ranked_link h.valid.ranked hgt)) (parentOf_set _ _ _ _)).swap
      · rw [if_neg hgt]
        have hraised := h.valid.raise hseenX hx.isRoot
        have hrank : rankOf ⟨d.parent, Assoc.set rootX (d.rankOf rootX + 1) d.rank⟩ =
            Function.update d.rankOf rootX (d.rankOf rootX + 1) := rankOf_set _ _ _ _
        have hlink : Ranked (Function.update d.parentOf rootY rootX)
            (rankOf ⟨d.parent, Assoc.set rootX (d.rankOf rootX + 1) d.rank⟩) := by
          refine ranked_link hraised.ranked ?_
          rw [hrank, Function.update_self, Function.update_of_ne (Ne.symm hroots)]
          omega
        exact (h.link hy hx (Ne.symm hroots) (hraised.link hseenX hlink)
          (parentOf_set _ _ _ _)).swap

/-- `union` joins the classes of its two items. -/
theorem Represents.union (h : d.Represents R) (x y : κ) :
    (d.union x y).Represents fun p q => R p q ∨ (p = x ∧ q = y) := by
  have h₁ := h.find x
  have hx := find_spec h.valid x
  have hy := find_spec h₁.valid y
  exact (h₁.find y).linkRoots ((hy.same x _).mpr ((hx.same x _).mpr hx.root))
    ((hy.same y _).mpr hy.root) (hy.keys _ hx.seen) hy.seen

/-- Several pairs one after the other. -/
def unionAll (d : DisjointSetUnion κ) (pairs : List (κ × κ)) : DisjointSetUnion κ :=
  pairs.foldl (fun d p => d.union p.1 p.2) d

theorem Represents.unionAll (h : d.Represents R) (pairs : List (κ × κ)) :
    (d.unionAll pairs).Represents fun u v => R u v ∨ (u, v) ∈ pairs := by
  induction pairs generalizing d R with
  | nil => exact h.congr fun u v => by simp
  | cons p pairs ih =>
    refine (ih (h.union p.1 p.2)).congr fun u v => ?_
    rw [List.mem_cons, or_assoc]
    refine or_congr_right (or_congr_left ?_)
    rw [Prod.ext_iff]

end DisjointSetUnion

end Bookwarden.Curation
