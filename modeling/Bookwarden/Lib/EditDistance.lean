import Mathlib.Order.Bounds.Basic
import Mathlib.Order.MinMax
import Mathlib.Tactic.Common

/-!
# Edit distance

The least number of single insertions, deletions and replacements that lead from one list to another,
its recursion over the first elements, and the dynamic program over the last ones, row by row.

## Main definitions

* `EditDistance.Edit`, `EditDistance.Edits` — one edit, and several
* `EditDistance.distance` — the recursion
* `EditDistance.row` — the distances of the prefixes

## Main results

* `EditDistance.isLeast_distance` — the recursion is the least number of edits
* `EditDistance.distance_comm`, `EditDistance.distance_reverse`, `EditDistance.distance_le_max`
* `EditDistance.distance_concat` — the recursion over the last elements
-/

namespace EditDistance

variable {α : Type*}

/-! ### Edits -/

/-- One element is inserted, deleted or replaced. -/
inductive Edit : List α → List α → Prop
  | insert (y : α) (l : List α) : Edit l (y :: l)
  | delete (x : α) (l : List α) : Edit (x :: l) l
  | replace (x y : α) (l : List α) : Edit (x :: l) (y :: l)
  | cons (x : α) {l m : List α} (h : Edit l m) : Edit (x :: l) (x :: m)

/-- Several edits, one after the other. -/
inductive Edits : ℕ → List α → List α → Prop
  | refl (l : List α) : Edits 0 l l
  | step {n : ℕ} {l m k : List α} (h : Edits n l m) (e : Edit m k) : Edits (n + 1) l k

theorem Edit.symm {l m : List α} (h : Edit l m) : Edit m l := by
  induction h with
  | insert y l => exact .delete y l
  | delete x l => exact .insert x l
  | replace x y l => exact .replace y x l
  | cons x h ih => exact .cons x ih

theorem Edit.append_left {l m : List α} (h : Edit l m) (k : List α) : Edit (k ++ l) (k ++ m) := by
  induction k with
  | nil => exact h
  | cons x k ih => exact .cons x ih

theorem Edit.append_right {l m : List α} (h : Edit l m) (k : List α) : Edit (l ++ k) (m ++ k) := by
  induction h with
  | insert y l => exact .insert y (l ++ k)
  | delete x l => exact .delete x (l ++ k)
  | replace x y l => exact .replace x y (l ++ k)
  | cons x h ih => exact .cons x ih

theorem Edit.reverse {l m : List α} (h : Edit l m) : Edit l.reverse m.reverse := by
  induction h with
  | insert y l =>
    have hlast : Edit (l.reverse ++ []) (l.reverse ++ [y]) := (Edit.insert y []).append_left _
    rwa [List.append_nil, ← List.reverse_cons] at hlast
  | delete x l =>
    have hlast : Edit (l.reverse ++ [x]) (l.reverse ++ []) := (Edit.delete x []).append_left _
    rwa [List.append_nil, ← List.reverse_cons] at hlast
  | replace x y l =>
    have hlast : Edit (l.reverse ++ [x]) (l.reverse ++ [y]) := (Edit.replace x y []).append_left _
    rwa [← List.reverse_cons, ← List.reverse_cons] at hlast
  | cons x h ih =>
    rw [List.reverse_cons, List.reverse_cons]
    exact ih.append_right [x]

theorem Edits.reverse {n : ℕ} {l m : List α} (h : Edits n l m) : Edits n l.reverse m.reverse := by
  induction h with
  | refl l => exact .refl _
  | step h e ih => exact .step ih e.reverse

theorem Edits.cons {n : ℕ} {l m : List α} (h : Edits n l m) (x : α) : Edits n (x :: l) (x :: m) := by
  induction h with
  | refl l => exact .refl _
  | step h e ih => exact .step ih (.cons x e)

/-- The first edit comes before the others. -/
theorem Edits.head {n : ℕ} {l m k : List α} (e : Edit l m) (h : Edits n m k) :
    Edits (n + 1) l k := by
  induction h with
  | refl m => exact .step (.refl l) e
  | step h e' ih => exact .step (ih e) e'

/-! ### The recursion -/

variable [DecidableEq α]

/-- What it costs to put `y` in the place of `x`. -/
def cost (x y : α) : ℕ := if x = y then 0 else 1

theorem cost_le_one (x y : α) : cost x y ≤ 1 := by
  rw [cost]
  split <;> omega

theorem cost_comm (x y : α) : cost x y = cost y x := by
  simp only [cost, eq_comm]

/-- The edit distance. -/
def distance : List α → List α → ℕ
  | [], m => m.length
  | x :: l, [] => (x :: l).length
  | x :: l, y :: m =>
    min (min (distance l (y :: m) + 1) (distance (x :: l) m + 1)) (distance l m + cost x y)
termination_by l m => l.length + m.length

theorem distance_nil_left (m : List α) : distance [] m = m.length := by
  rw [distance]

theorem distance_nil_right (l : List α) : distance l [] = l.length := by
  cases l <;> rw [distance]

theorem distance_cons_cons (x y : α) (l m : List α) :
    distance (x :: l) (y :: m)
      = min (min (distance l (y :: m) + 1) (distance (x :: l) m + 1)) (distance l m + cost x y) := by
  rw [distance]

theorem distance_cons_left_le (x : α) (l m : List α) : distance (x :: l) m ≤ distance l m + 1 := by
  cases m with
  | nil =>
    rw [distance_nil_right, distance_nil_right, List.length_cons]
  | cons y m =>
    rw [distance_cons_cons]
    omega

theorem distance_cons_right_le (y : α) (l m : List α) : distance l (y :: m) ≤ distance l m + 1 := by
  cases l with
  | nil =>
    rw [distance_nil_left, distance_nil_left, List.length_cons]
  | cons x l =>
    rw [distance_cons_cons]
    omega

theorem distance_comm (l m : List α) : distance l m = distance m l := by
  induction l generalizing m with
  | nil => rw [distance_nil_left, distance_nil_right]
  | cons x l ihl =>
    induction m with
    | nil => rw [distance_nil_left, distance_nil_right]
    | cons y m ihm =>
      rw [distance_cons_cons, distance_cons_cons, ihl, ihl, ihm, cost_comm]
      omega

theorem distance_self (l : List α) : distance l l = 0 := by
  induction l with
  | nil => rw [distance_nil_left, List.length_nil]
  | cons x l ih =>
    have hcost : cost x x = 0 := if_pos rfl
    rw [distance_cons_cons, ih, hcost]
    omega

theorem distance_le_max (l m : List α) : distance l m ≤ max l.length m.length := by
  induction l generalizing m with
  | nil => rw [distance_nil_left, List.length_nil, Nat.zero_max]
  | cons x l ih =>
    cases m with
    | nil => rw [distance_nil_right, List.length_nil, Nat.max_zero]
    | cons y m =>
      have hrest := ih m
      have hcost := cost_le_one x y
      rw [distance_cons_cons, List.length_cons, List.length_cons]
      omega

theorem distance_eq_zero_iff (l m : List α) : distance l m = 0 ↔ l = m := by
  constructor
  · intro h
    induction l generalizing m with
    | nil =>
      rw [distance_nil_left, List.length_eq_zero_iff] at h
      exact h.symm
    | cons x l ih =>
      cases m with
      | nil =>
        rw [distance_nil_right] at h
        cases h
      | cons y m =>
        rw [distance_cons_cons] at h
        have hrest : distance l m = 0 := by omega
        have hcost : cost x y = 0 := by omega
        have hxy : x = y := by
          by_contra hne
          rw [cost, if_neg hne] at hcost
          omega
        rw [hxy, ih m hrest]
  · rintro rfl
    exact distance_self l

/-! ### The recursion is the least number of edits -/

/-- An element less costs at most one more. -/
theorem distance_le_of_cons (y : α) (l m : List α) : distance l m ≤ distance l (y :: m) + 1 := by
  induction l with
  | nil =>
    rw [distance_nil_left, distance_nil_left, List.length_cons]
    omega
  | cons x l ih =>
    have hless := distance_cons_left_le x l m
    rw [distance_cons_cons]
    omega

theorem distance_replace_le (y y' : α) (l m : List α) :
    distance l (y' :: m) ≤ distance l (y :: m) + 1 := by
  induction l with
  | nil =>
    rw [distance_nil_left, distance_nil_left, List.length_cons, List.length_cons]
    omega
  | cons x l ih =>
    have hcost := cost_le_one x y'
    rw [distance_cons_cons, distance_cons_cons]
    omega

/-- One more edit is at most one more. -/
theorem distance_le_of_edit {m m' : List α} (h : Edit m m') (l : List α) :
    distance l m' ≤ distance l m + 1 := by
  induction h generalizing l with
  | insert y m => exact distance_cons_right_le y l m
  | delete y m => exact distance_le_of_cons y l m
  | replace y y' m => exact distance_replace_le y y' l m
  | @cons y m m' h ih =>
    induction l with
    | nil =>
      have hlength := ih []
      rw [distance_nil_left, distance_nil_left] at hlength ⊢
      rw [List.length_cons, List.length_cons]
      omega
    | cons x l ihl =>
      have hwhole := ih (x :: l)
      have hrest := ih l
      rw [distance_cons_cons, distance_cons_cons]
      omega

theorem distance_le_of_edits {n : ℕ} {l m : List α} (h : Edits n l m) : distance l m ≤ n := by
  induction h with
  | refl l => rw [distance_self]
  | @step n l m k h e ih =>
    have hstep := distance_le_of_edit e l
    exact le_trans hstep (Nat.succ_le_succ ih)

omit [DecidableEq α] in
theorem edits_delete_all (l : List α) : Edits l.length l [] := by
  induction l with
  | nil => exact .refl []
  | cons x l ih => exact .head (.delete x l) ih

omit [DecidableEq α] in
theorem edits_insert_all (m : List α) : Edits m.length [] m := by
  induction m with
  | nil => exact .refl []
  | cons y m ih => exact .step ih (.insert y m)

/-- The distance is reached: each branch of the recursion is an edit. -/
theorem edits_distance (l m : List α) : Edits (distance l m) l m := by
  induction l generalizing m with
  | nil =>
    rw [distance_nil_left]
    exact edits_insert_all m
  | cons x l ihl =>
    induction m with
    | nil =>
      rw [distance_nil_right]
      exact edits_delete_all (x :: l)
    | cons y m ihm =>
      have hdelete : Edits (distance l (y :: m) + 1) (x :: l) (y :: m) :=
        .head (.delete x l) (ihl (y :: m))
      have hinsert : Edits (distance (x :: l) m + 1) (x :: l) (y :: m) := .step ihm (.insert y m)
      have hreplace : Edits (distance l m + cost x y) (x :: l) (y :: m) := by
        rw [cost]
        split
        · rename_i hxy
          rw [hxy]
          exact (ihl m).cons y
        · exact .step ((ihl m).cons x) (.replace x y m)
      rw [distance_cons_cons]
      rcases min_choice (min (distance l (y :: m) + 1) (distance (x :: l) m + 1))
        (distance l m + cost x y) with h | h
      · rw [h]
        rcases min_choice (distance l (y :: m) + 1) (distance (x :: l) m + 1) with h' | h'
        · rwa [h']
        · rwa [h']
      · rwa [h]

/-- The distance is the least number of edits from one list to the other. -/
theorem isLeast_distance (l m : List α) : IsLeast {n | Edits n l m} (distance l m) :=
  ⟨edits_distance l m, fun _ h => distance_le_of_edits h⟩

theorem distance_reverse (l m : List α) : distance l.reverse m.reverse = distance l m := by
  have hle : ∀ l m : List α, distance l.reverse m.reverse ≤ distance l m := fun l m =>
    distance_le_of_edits (edits_distance l m).reverse
  have hback := hle l.reverse m.reverse
  rw [List.reverse_reverse, List.reverse_reverse] at hback
  exact le_antisymm (hle l m) hback

/-- The recursion over the last elements. -/
theorem distance_concat (x y : α) (l m : List α) :
    distance (l ++ [x]) (m ++ [y])
      = min (min (distance l (m ++ [y]) + 1) (distance (l ++ [x]) m + 1))
          (distance l m + cost x y) := by
  rw [← distance_reverse (l ++ [x]), ← distance_reverse l (m ++ [y]), ← distance_reverse (l ++ [x]) m,
    ← distance_reverse l m, List.reverse_concat, List.reverse_concat, distance_cons_cons]

/-! ### Rows -/

/-- The distances from `l` to the prefix `p`, and to the longer prefixes that `q` makes of it. -/
def row (l p : List α) : List α → List ℕ
  | [] => [distance l p]
  | y :: q => distance l p :: row l (p ++ [y]) q

theorem row_eq_cons (l p q : List α) : ∃ rest, row l p q = distance l p :: rest := by
  cases q with
  | nil => exact ⟨[], rfl⟩
  | cons y q => exact ⟨row l (p ++ [y]) q, rfl⟩

/-- The last entry of a row is the distance to the whole list. -/
theorem getLastD_row (l p q : List α) (d : ℕ) : (row l p q).getLastD d = distance l (p ++ q) := by
  induction q generalizing p d with
  | nil =>
    rw [List.append_nil]
    rfl
  | cons y q ih =>
    rw [row, List.getLastD_cons, ih, List.append_assoc, List.singleton_append]

end EditDistance
