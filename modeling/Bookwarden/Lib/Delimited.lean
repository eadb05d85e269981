import Mathlib.Data.List.Basic
import Mathlib.Data.List.Forall2
import Mathlib.Tactic.Common

/-!
# Texts that mark their own end

A text function delimits a value when the text of the value, in front of anything that may follow
it, determines the value and where its text ends. What may follow is a predicate on the rest: a
number ends where a separator begins, a quoted string ends by itself. A value is determined up to a
relation, since two values may be written alike.

## Main definitions

* `Delimits` — the text of a value determines the value and its end

## Main results

* `append_inj_of_stops` — two tokens without a stopping character
* `flatMap_append_inj` — a sequence of code words up to a closing mark
* `intercalate_append_inj` — a separated sequence up to a closing mark
-/

namespace Delimited

variable {α γ : Type*}

/-- Whatever value `b` is written in front of a stop, if the result is the text of `a` in front of a
stop then `a` and `b` are related and the rests are equal. -/
def Delimits (stop : List γ → Prop) (text : α → List γ) (R : α → α → Prop) (a : α) : Prop :=
  ∀ b r r', stop r → stop r' → text a ++ r = text b ++ r' → R a b ∧ r = r'

/-- A rest that is empty or starts with a stopping character. -/
def Stops (p : γ → Prop) (r : List γ) : Prop := ∀ c ∈ r.head?, p c

theorem stops_nil (p : γ → Prop) : Stops p [] := by
  intro c hc
  cases hc

theorem stops_cons {p : γ → Prop} {c : γ} (h : p c) (r : List γ) : Stops p (c :: r) := by
  intro d hd
  rw [List.head?_cons, Option.mem_some_iff] at hd
  exact hd ▸ h

/-- Two tokens without a stopping character, each in front of a stop. -/
theorem append_inj_of_stops {p : γ → Prop} {x y r r' : List γ} (hx : ∀ c ∈ x, ¬ p c)
    (hy : ∀ c ∈ y, ¬ p c) (hr : Stops p r) (hr' : Stops p r') (h : x ++ r = y ++ r') :
    x = y ∧ r = r' := by
  induction x generalizing y with
  | nil =>
    cases y with
    | nil => exact ⟨rfl, h⟩
    | cons d y =>
      -- the rest starts with a character of the other token
      rw [List.nil_append, List.cons_append] at h
      rw [h] at hr
      exact absurd (hr d rfl) (hy d (List.mem_cons_self ..))
  | cons c x ih =>
    cases y with
    | nil =>
      rw [List.nil_append, List.cons_append] at h
      rw [← h] at hr'
      exact absurd (hr' c rfl) (hx c (List.mem_cons_self ..))
    | cons d y =>
      rw [List.cons_append, List.cons_append] at h
      obtain ⟨hcd, htail⟩ := List.cons.inj h
      obtain ⟨hxy, hrest⟩ := ih (fun e he => hx e (List.mem_cons_of_mem _ he))
        (fun e he => hy e (List.mem_cons_of_mem _ he)) htail
      exact ⟨by rw [hcd, hxy], hrest⟩

/-- Code words of a prefix code, none of which starts with the closing mark. -/
theorem flatMap_append_inj {code : α → List γ} {close : γ}
    (hcode : ∀ a b r r', code a ++ r = code b ++ r' → a = b ∧ r = r')
    (hclose : ∀ a r r', code a ++ r ≠ close :: r') {xs ys : List α} {r r' : List γ}
    (h : xs.flatMap code ++ close :: r = ys.flatMap code ++ close :: r') : xs = ys ∧ r = r' := by
  induction xs generalizing ys with
  | nil =>
    cases ys with
    | nil => exact ⟨rfl, (List.cons.inj h).2⟩
    | cons y ys =>
      rw [List.flatMap_cons, List.append_assoc] at h
      exact absurd h.symm (hclose y _ _)
  | cons x xs ih =>
    cases ys with
    | nil =>
      rw [List.flatMap_cons, List.append_assoc] at h
      exact absurd h (hclose x _ _)
    | cons y ys =>
      rw [List.flatMap_cons, List.flatMap_cons, List.append_assoc, List.append_assoc] at h
      obtain ⟨hxy, htail⟩ := hcode x y _ _ h
      obtain ⟨hrest, hr⟩ := ih htail
      exact ⟨by rw [hxy, hrest], hr⟩

section Separated

variable {stop : List γ → Prop} {text : α → List γ} {R : α → α → Prop} {sep close : γ}

/-- A separated sequence is its first member, then the others with the separator in front. -/
theorem intercalate_cons_eq (x : α) (xs : List α) :
    [sep].intercalate ((x :: xs).map text) = text x ++ xs.flatMap fun y => sep :: text y := by
  induction xs generalizing x with
  | nil => rw [List.map_singleton, List.intercalate_singleton, List.flatMap_nil, List.append_nil]
  | cons y ys ih =>
    rw [List.map_cons, List.map_cons, List.intercalate_cons_cons, ← List.map_cons, ih,
      List.flatMap_cons, List.append_assoc, List.singleton_append, List.cons_append]

/-- What follows a member starts with the separator or the closing mark. -/
theorem stop_tail (hsep : ∀ r, stop (sep :: r)) (hclose : ∀ r, stop (close :: r)) (xs : List α)
    (r : List γ) : stop ((xs.flatMap fun y => sep :: text y) ++ close :: r) := by
  cases xs with
  | nil => exact hclose r
  | cons x xs =>
    rw [List.flatMap_cons, List.append_assoc, List.cons_append]
    exact hsep _

theorem tail_append_inj (hsep : ∀ r, stop (sep :: r)) (hclose : ∀ r, stop (close :: r))
    (hne : sep ≠ close) {xs ys : List α} (hxs : ∀ x ∈ xs, Delimits stop text R x) {r r' : List γ}
    (h : (xs.flatMap fun x => sep :: text x) ++ close :: r
      = (ys.flatMap fun y => sep :: text y) ++ close :: r') :
    List.Forall₂ R xs ys ∧ r = r' := by
  induction xs generalizing ys with
  | nil =>
    cases ys with
    | nil => exact ⟨.nil, (List.cons.inj h).2⟩
    | cons y ys => exact absurd (List.cons.inj h).1.symm hne
  | cons x xs ih =>
    cases ys with
    | nil => exact absurd (List.cons.inj h).1 hne
    | cons y ys =>
      rw [List.flatMap_cons, List.flatMap_cons, List.append_assoc, List.append_assoc,
        List.cons_append, List.cons_append] at h
      obtain ⟨hxy, htail⟩ := hxs x (List.mem_cons_self ..) y _ _ (stop_tail hsep hclose xs r)
        (stop_tail hsep hclose ys r') (List.cons.inj h).2
      obtain ⟨hall, hr⟩ := ih (fun z hz => hxs z (List.mem_cons_of_mem _ hz)) htail
      exact ⟨.cons hxy hall, hr⟩

/-- A separated sequence of delimited values up to a closing mark. No text starts with the closing
mark. -/
theorem intercalate_append_inj (hsep : ∀ r, stop (sep :: r)) (hclose : ∀ r, stop (close :: r))
    (hne : sep ≠ close) (hopen : ∀ a r r', text a ++ r ≠ close :: r') {xs ys : List α}
    (hxs : ∀ x ∈ xs, Delimits stop text R x) {r r' : List γ}
    (h : [sep].intercalate (xs.map text) ++ close :: r
      = [sep].intercalate (ys.map text) ++ close :: r') :
    List.Forall₂ R xs ys ∧ r = r' := by
  cases xs with
  | nil =>
    cases ys with
    | nil => exact ⟨.nil, (List.cons.inj h).2⟩
    | cons y ys =>
      rw [intercalate_cons_eq, List.append_assoc] at h
      exact absurd h.symm (hopen y _ _)
  | cons x xs =>
    cases ys with
    | nil =>
      rw [intercalate_cons_eq, List.append_assoc] at h
      exact absurd h (hopen x _ _)
    | cons y ys =>
      rw [intercalate_cons_eq, intercalate_cons_eq, List.append_assoc, List.append_assoc] at h
      obtain ⟨hxy, htail⟩ := hxs x (List.mem_cons_self ..) y _ _ (stop_tail hsep hclose xs r)
        (stop_tail hsep hclose ys r') h
      obtain ⟨hall, hr⟩ := tail_append_inj hsep hclose hne
        (fun z hz => hxs z (List.mem_cons_of_mem _ hz)) htail
      exact ⟨.cons hxy hall, hr⟩

end Separated

end Delimited
