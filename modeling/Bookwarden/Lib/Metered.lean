import Mathlib.Tactic.Common

/-!
# Computations with a cost

A computation raises or returns a value, and either way it has run up a cost. The cost of one
computation after another is the sum, up to the first that raises. What a computation meets is a bound
on the cost, which holds also when it raises, and a condition on the value; conditions compose
along the sequence.

## Main definitions

* `Metered`
* `Metered.Meets`

## Main results

* `Metered.Meets.bind` — the rule of sequence
-/

/-- The outcome and the cost. -/
structure Metered (ε α : Type*) where
  result : Except ε α
  cost : ℕ

namespace Metered

variable {ε α β : Type*}

/-- A value for nothing. -/
def ret (a : α) : Metered ε α := ⟨.ok a, 0⟩

/-- An outcome for nothing. -/
def free (result : Except ε α) : Metered ε α := ⟨result, 0⟩

/-- One computation after another. -/
def andThen (x : Metered ε α) (f : α → Metered ε β) : Metered ε β :=
  match x.result with
  | .error e => ⟨.error e, x.cost⟩
  | .ok a => ⟨(f a).result, x.cost + (f a).cost⟩

instance : Monad (Metered ε) where
  pure := ret
  bind := andThen

/-- At most this cost, and a value with this condition if there is one. -/
structure Meets (x : Metered ε α) (n : ℕ) (P : α → Prop) : Prop where
  cost : x.cost ≤ n
  result : ∀ a, x.result = .ok a → P a

variable {x : Metered ε α} {n m : ℕ} {P : α → Prop}

theorem Meets.mono (h : Meets x n P) (hn : n ≤ m) {Q : α → Prop} (hQ : ∀ a, P a → Q a) :
    Meets x m Q :=
  ⟨Nat.le_trans h.cost hn, fun a ha => hQ a (h.result a ha)⟩

theorem Meets.of_value {a : α} (ha : P a) : Meets (ret a : Metered ε α) n P := by
  refine ⟨Nat.zero_le n, ?_⟩
  intro b hb
  cases hb
  exact ha

theorem Meets.of_result {result : Except ε α} (h : ∀ a, result = .ok a → P a) :
    Meets (free result) n P :=
  ⟨Nat.zero_le n, h⟩

/-- Whatever raises has no value. -/
theorem Meets.error {e : ε} : Meets (free (.error e) : Metered ε α) n P :=
  Meets.of_result fun _ h => nomatch h

/-- Costs add up, and what the first returns is what the second may rely on. -/
theorem Meets.bind {α β : Type _} {x : Metered ε α} {f : α → Metered ε β} {P : α → Prop}
    {Q : β → Prop} (hx : Meets x n P) (hf : ∀ a, P a → Meets (f a) m Q) :
    Meets (x >>= f) (n + m) Q := by
  show Meets (x.andThen f) (n + m) Q
  obtain ⟨result, cost⟩ := x
  cases result with
  | error e => exact ⟨Nat.le_trans hx.cost (Nat.le_add_right n m), fun _ h => nomatch h⟩
  | ok a =>
    have hrest := hf a (hx.result a rfl)
    exact ⟨Nat.add_le_add hx.cost hrest.cost, hrest.result⟩

/-- What comes after takes nothing back. -/
theorem le_cost_bind {α β : Type _} (x : Metered ε α) (f : α → Metered ε β) :
    x.cost ≤ (x >>= f).cost := by
  show x.cost ≤ (x.andThen f).cost
  obtain ⟨result, cost⟩ := x
  cases result with
  | error e => exact Nat.le_refl _
  | ok a => exact Nat.le_add_right _ _

theorem bind_of_ok {α β : Type _} {x : Metered ε α} {f : α → Metered ε β} {a : α}
    (h : x.result = .ok a) : (x >>= f).result = (f a).result := by
  show (x.andThen f).result = _
  rw [andThen, h]

end Metered
