import Mathlib.Data.List.Basic
import Mathlib.Tactic.Common

/-!
# Programs that may stop after any step

A program on a disk does one atomic step after the other and looks at the disk in between; what it sees
may make it raise. A crash leaves the disk after some of its steps, so `Program` keeps every disk on
the way.

A triple says what holds when the program returns, what holds when it raises, and what holds of every
disk on the way.

## Main definitions

* `Crash.Program`, with `Program.step`, `Program.ask`, `Program.lift`
* `Crash.Program.after` — the disk that is left, wherever the program stops
* `Crash.Triple`

## Main results

* `Crash.Triple.bind`, `Crash.Triple.step_bind`, `Crash.Triple.get_bind` — the rules
* `Crash.Triple.after` — what holds of every disk on the way holds of what is left
-/

namespace Crash

variable {σ ε : Type} {α β : Type}

/-- From a disk: the disks after each atomic step, in order, and how the program ends. -/
def Program (σ ε α : Type) : Type := σ → List σ × Except ε α

/-- The last disk on the way. -/
def last (s : σ) (trace : List σ) : σ := trace.getLast?.getD s

@[simp] theorem last_nil (s : σ) : last s [] = s := rfl

@[simp] theorem last_singleton (s s' : σ) : last s [s'] = s' := rfl

theorem last_append (s : σ) (trace trace' : List σ) :
    last s (trace ++ trace') = last (last s trace) trace' := by
  rw [last, last, last, List.getLast?_append]
  cases trace'.getLast? <;> rfl

theorem last_mem (s : σ) (trace : List σ) : last s trace = s ∨ last s trace ∈ trace := by
  rw [last]
  cases hlast : trace.getLast? with
  | none => exact .inl rfl
  | some s' => exact .inr (List.mem_of_getLast? hlast)

namespace Program

instance : Monad (Program σ ε) where
  pure a := fun _ => ([], .ok a)
  bind x f := fun s =>
    match (x s).2 with
    | .error e => ((x s).1, .error e)
    | .ok a => ((x s).1 ++ (f a (last s (x s).1)).1, (f a (last s (x s).1)).2)

/-- One atomic step. -/
def step (f : σ → σ) : Program σ ε Unit := fun s => ([f s], .ok ())

/-- What the disk says. -/
def ask (f : σ → α) : Program σ ε α := fun s => ([], .ok (f s))

/-- A value, or why the program raises. -/
def lift (r : Except ε α) : Program σ ε α := fun _ => ([], r)

/-- Raise. -/
def raise (e : ε) : Program σ ε α := lift (.error e)

/-- The disk that is left: after the whole program, or after so many of its steps. -/
def after (x : Program σ ε α) (s : σ) : Option ℕ → σ
  | none => last s (x s).1
  | some k => last s ((x s).1.take k)

/-- How the program ends. -/
def result (x : Program σ ε α) (s : σ) : Except ε α := (x s).2

theorem bind_of_ok {x : Program σ ε α} {f : α → Program σ ε β} {s : σ} {a : α}
    (h : (x s).2 = .ok a) :
    (x >>= f) s = ((x s).1 ++ (f a (last s (x s).1)).1, (f a (last s (x s).1)).2) := by
  show (match (x s).2 with | .error e => _ | .ok a => _) = _
  rw [h]

theorem bind_of_error {x : Program σ ε α} {f : α → Program σ ε β} {s : σ} {e : ε}
    (h : (x s).2 = .error e) : (x >>= f) s = ((x s).1, .error e) := by
  show (match (x s).2 with | .error e => _ | .ok a => _) = _
  rw [h]

theorem ask_bind (g : σ → α) (f : α → Program σ ε β) (s : σ) : (ask g >>= f) s = f (g s) s := rfl

theorem lift_ok_bind (a : α) (f : α → Program σ ε β) (s : σ) : (lift (.ok a) >>= f) s = f a s := rfl

theorem lift_error_bind (e : ε) (f : α → Program σ ε β) (s : σ) :
    (lift (.error e) >>= f) s = ([], .error e) := rfl

theorem step_bind (g : σ → σ) (f : Unit → Program σ ε β) (s : σ) :
    (step g >>= f) s = (g s :: (f () (g s)).1, (f () (g s)).2) := rfl

theorem bind_assoc {γ : Type} (x : Program σ ε α) (f : α → Program σ ε β) (g : β → Program σ ε γ) :
    x >>= f >>= g = x >>= fun a => f a >>= g := by
  funext s
  cases hx : (x s).2 with
  | error e => rw [bind_of_error (e := e) (by rw [bind_of_error hx]), bind_of_error hx, bind_of_error hx]
  | ok a =>
    rw [bind_of_ok hx]
    cases hf : (f a (last s (x s).1)).2 with
    | error e =>
      rw [bind_of_error (e := e) (by rw [bind_of_ok hx]; exact hf), bind_of_ok hx, bind_of_error hf]
    | ok b =>
      rw [bind_of_ok (a := b) (by rw [bind_of_ok hx]; exact hf), bind_of_ok hx, bind_of_ok hf,
        List.append_assoc, last_append]

theorem after_congr {x y : Program σ ε α} {s : σ} (h : x s = y s) (stop : Option ℕ) :
    x.after s stop = y.after s stop := by
  cases stop <;> rw [after, after, h]

/-- Stopped before the second part begins. -/
theorem after_bind_of_le {x : Program σ ε α} {f : α → Program σ ε β} {s : σ} {k : ℕ}
    (h : k ≤ (x s).1.length) : (x >>= f).after s (some k) = x.after s (some k) := by
  cases hresult : (x s).2 with
  | error e => rw [after, after, bind_of_error hresult]
  | ok a => rw [after, after, bind_of_ok hresult, List.take_append_of_le_length h]

/-- Stopped in the second part. -/
theorem after_bind_of_ge {x : Program σ ε α} {f : α → Program σ ε β} {s : σ} {a : α} {k : ℕ}
    (hresult : (x s).2 = .ok a) (h : (x s).1.length ≤ k) :
    (x >>= f).after s (some k) = (f a).after (last s (x s).1) (some (k - (x s).1.length)) := by
  rw [after, after, bind_of_ok hresult, List.take_append, List.take_of_length_le h, last_append]

/-- A program that raises or returns without a step leaves the disk as it is. -/
theorem after_of_nil {x : Program σ ε α} {s : σ} (h : (x s).1 = []) (stop : Option ℕ) :
    x.after s stop = s := by
  cases stop with
  | none => rw [after, h, last_nil]
  | some k => rw [after, h, List.take_nil, last_nil]

/-- The program returns after so many steps. -/
structure Takes (x : Program σ ε α) (s : σ) (n : ℕ) (a : α) (s' : σ) : Prop where
  length : (x s).1.length = n
  result : (x s).2 = .ok a
  left : last s (x s).1 = s'

namespace Takes

variable {x y : Program σ ε α} {f : α → Program σ ε β} {s s' s'' : σ} {a : α} {b : β} {m n k : ℕ}

theorem pure (a : α) (s : σ) : Takes (Pure.pure a : Program σ ε α) s 0 a s := ⟨rfl, rfl, rfl⟩

theorem step (g : σ → σ) (s : σ) : Takes (step g : Program σ ε Unit) s 1 () (g s) := ⟨rfl, rfl, rfl⟩

theorem bind (hx : Takes x s n a s') (hf : Takes (f a) s' m b s'') :
    Takes (x >>= f) s (n + m) b s'' := by
  obtain ⟨hlength, hresult, hleft⟩ := hx
  refine ⟨?_, ?_, ?_⟩ <;> rw [bind_of_ok hresult, hleft]
  · rw [List.length_append, hlength, hf.length]
  · exact hf.result
  · rw [last_append, hleft, hf.left]

theorem congr (hx : Takes x s n a s') (h : y s = x s) : Takes y s n a s' := by
  obtain ⟨hlength, hresult, hleft⟩ := hx
  exact ⟨by rw [h, hlength], by rw [h, hresult], by rw [h, hleft]⟩

theorem after_le (hx : Takes x s n a s') (h : k ≤ n) :
    (x >>= f).after s (some k) = x.after s (some k) :=
  after_bind_of_le (hx.length ▸ h)

theorem after_ge (hx : Takes x s n a s') (h : n ≤ k) :
    (x >>= f).after s (some k) = (f a).after s' (some (k - n)) := by
  rw [after_bind_of_ge hx.result (hx.length.symm ▸ h), hx.left, hx.length]

end Takes

end Program

/-! ### Triples -/

/-- From a disk with `P`: every disk on the way has `I`, the program returns with `Q` or raises with
`E`. -/
def Triple (P : σ → Prop) (x : Program σ ε α) (Q : α → σ → Prop) (E I : σ → Prop) : Prop :=
  ∀ s, P s → (∀ s' ∈ (x s).1, I s') ∧
    match (x s).2 with
    | .ok a => Q a (last s (x s).1)
    | .error _ => E (last s (x s).1)

namespace Triple

variable {P P' : σ → Prop} {x : Program σ ε α} {f : α → Program σ ε β} {Q Q' : α → σ → Prop}
  {R : β → σ → Prop} {E E' I I' : σ → Prop}

theorem pure {a : α} (h : ∀ s, P s → Q a s) : Triple P (pure a : Program σ ε α) Q E I :=
  fun s hs => ⟨fun _ hmem => absurd hmem List.not_mem_nil, h s hs⟩

theorem lift {r : Except ε α} (hok : ∀ s a, P s → r = .ok a → Q a s)
    (herror : ∀ s e, P s → r = .error e → E s) : Triple P (Program.lift r) Q E I := by
  intro s hs
  refine ⟨fun _ hmem => absurd hmem List.not_mem_nil, ?_⟩
  cases r with
  | ok a => exact hok s a hs rfl
  | error e => exact herror s e hs rfl

theorem step {g : σ → σ} {Q : Unit → σ → Prop} (h : ∀ s, P s → Q () (g s) ∧ I (g s)) :
    Triple P (Program.step g : Program σ ε Unit) Q E I := by
  intro s hs
  refine ⟨fun s' hmem => ?_, (h s hs).1⟩
  rw [List.mem_singleton.mp hmem]
  exact (h s hs).2

theorem bind (hx : Triple P x Q E I) (hf : ∀ a, Triple (Q a) (f a) R E I) :
    Triple P (x >>= f) R E I := by
  intro s hs
  obtain ⟨hway, hend⟩ := hx s hs
  cases hresult : (x s).2 with
  | error e =>
    rw [hresult] at hend
    rw [Program.bind_of_error hresult]
    exact ⟨hway, hend⟩
  | ok a =>
    rw [hresult] at hend
    obtain ⟨hway', hend'⟩ := hf a _ hend
    rw [Program.bind_of_ok hresult]
    refine ⟨fun s' hmem => ?_, ?_⟩
    · rcases List.mem_append.mp hmem with hmem | hmem
      · exact hway s' hmem
      · exact hway' s' hmem
    · rw [last_append]
      exact hend'

theorem weaken (h : Triple P x Q E I) (hpre : ∀ s, P' s → P s) (hpost : ∀ a s, Q a s → Q' a s)
    (hraised : ∀ s, E s → E' s) (hway : ∀ s, I s → I' s) : Triple P' x Q' E' I' := by
  intro s hs
  obtain ⟨hmem, hend⟩ := h s (hpre s hs)
  refine ⟨fun s' hs' => hway s' (hmem s' hs'), ?_⟩
  cases hresult : (x s).2 with
  | error e =>
    rw [hresult] at hend
    exact hraised _ hend
  | ok a =>
    rw [hresult] at hend
    exact hpost a _ hend

/-- Disk by disk. -/
theorem of_forall (h : ∀ s, P s → Triple (fun s' => s' = s) x Q E I) : Triple P x Q E I :=
  fun s hs => h s hs s rfl

/-- On one disk, programs that do the same there. -/
theorem congr {y : Program σ ε α} {s : σ} (h : Triple (fun s' => s' = s) y Q E I)
    (heq : x s = y s) : Triple (fun s' => s' = s) x Q E I := by
  rintro s' rfl
  rw [heq]
  exact h s' rfl

/-- After a look at the disk, the disk is known. -/
theorem ask_bind {g : σ → α} (h : ∀ s, P s → Triple (fun s' => s' = s) (f (g s)) R E I) :
    Triple P (Program.ask g >>= f) R E I :=
  of_forall fun s hs => bind (Q := fun a s' => a = g s ∧ s' = s)
    (fun s' hs' => ⟨fun _ hmem => absurd hmem List.not_mem_nil, by rw [hs']; exact ⟨rfl, rfl⟩⟩)
    fun a => of_forall fun s' hs' => by
      obtain ⟨rfl, rfl⟩ := hs'
      exact h s' hs

theorem lift_bind {r : Except ε α} (hok : ∀ a, r = .ok a → Triple P (f a) R E I)
    (herror : ∀ e, r = .error e → ∀ s, P s → E s) : Triple P (Program.lift r >>= f) R E I := by
  cases r with
  | ok a =>
    have hlift : Triple P (Program.lift (.ok a) : Program σ ε α) (fun b s => b = a ∧ P s) E I :=
      lift (fun s b hs hb => ⟨(Except.ok.inj hb).symm, hs⟩) nofun
    refine hlift.bind fun b => of_forall fun s hs => ?_
    obtain ⟨rfl, hs⟩ := hs
    exact (hok b rfl).weaken (fun s' h => h ▸ hs) (fun _ _ => id) (fun _ => id) fun _ => id
  | error e =>
    have hlift : Triple P (Program.lift (.error e) : Program σ ε α) (fun _ _ => False) E I :=
      lift nofun fun s e' hs _ => herror e rfl s hs
    exact hlift.bind fun a s hs => hs.elim

theorem step_bind {g : σ → σ} {f : Unit → Program σ ε β} {K : σ → Prop}
    (hstep : ∀ s, P s → K (g s) ∧ I (g s)) (hf : Triple K (f ()) R E I) :
    Triple P (Program.step g >>= f) R E I :=
  bind (Q := fun _ => K) (step hstep) fun _ => hf

/-- What holds of every disk on the way, and at the start, holds wherever the program stops. -/
theorem after (h : Triple P x Q E I) {s : σ} (hs : P s) (hstart : I s) (stop : Option ℕ) :
    I (x.after s stop) := by
  have hway := (h s hs).1
  cases stop with
  | none =>
    rcases last_mem s (x s).1 with heq | hmem
    · rw [Program.after, heq]
      exact hstart
    · exact hway _ hmem
  | some k =>
    rcases last_mem s ((x s).1.take k) with heq | hmem
    · rw [Program.after, heq]
      exact hstart
    · exact hway _ (List.mem_of_mem_take hmem)

/-- A program that does not raise returns. -/
theorem returns (h : Triple P x Q (fun _ => False) I) {s : σ} (hs : P s) :
    ∃ a, x.result s = .ok a ∧ Q a (x.after s none) := by
  have hend := (h s hs).2
  cases hresult : (x s).2 with
  | error e =>
    rw [hresult] at hend
    exact hend.elim
  | ok a =>
    rw [hresult] at hend
    exact ⟨a, hresult, hend⟩

end Triple

end Crash
