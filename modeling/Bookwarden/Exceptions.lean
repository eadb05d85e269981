/-!
# Exceptions

What a raised exception of the code is to the model: its kind, as far as some handler tells the kinds
apart, and its text.
-/

namespace Bookwarden

/-- The exceptions the code tells apart. -/
inductive ErrorKind
  | value
  | type
  | os
  | other
  deriving DecidableEq, Repr

/-- A raised exception, with `str(exc)`. -/
structure PyError where
  kind : ErrorKind
  message : String
  deriving DecidableEq, Repr

end Bookwarden

/-! ### Computations that may raise -/

namespace Except

theorem exists_of_bind_eq_ok {ε : Type _} {α β : Type} {x : Except ε α} {f : α → Except ε β} {b : β}
    (h : x >>= f = .ok b) : ∃ a, x = .ok a ∧ f a = .ok b := by
  cases x with
  | error e => cases h
  | ok a => exact ⟨a, rfl, h⟩

theorem eq_error_of_bind_eq_error {ε : Type _} {α β : Type} {x : Except ε α} {f : α → Except ε β}
    {e : ε} (h : x >>= f = .error e) : x = .error e ∨ ∃ a, x = .ok a ∧ f a = .error e := by
  cases x with
  | error e' => exact .inl (congrArg Except.error (Except.error.inj h))
  | ok a => exact .inr ⟨a, rfl, h⟩

theorem exists_of_map_eq_ok {ε : Type _} {α β : Type _} {x : Except ε α} {f : α → β} {b : β}
    (h : x.map f = .ok b) : ∃ a, x = .ok a ∧ f a = b := by
  cases x with
  | error e => cases h
  | ok a => exact ⟨a, rfl, Except.ok.inj h⟩

theorem eq_ok_of_mapError {ε ε' α : Type _} {x : Except ε' α} {f : ε' → ε} {a : α}
    (h : x.mapError f = .ok a) : x = .ok a := by
  cases x with
  | error e => cases h
  | ok a' =>
    cases h
    rfl

theorem eq_error_of_mapError {ε ε' α : Type _} {x : Except ε' α} {f : ε' → ε} {e : ε}
    (h : x.mapError f = .error e) : ∃ e', x = .error e' ∧ f e' = e := by
  cases x with
  | error e' => exact ⟨e', rfl, Except.error.inj h⟩
  | ok a => cases h

end Except
