import Mathlib.Data.List.Basic
import Mathlib.Tactic.Common

/-!
# Runs of a deterministic machine

A machine is a function `exec : σ → ε → σ`; what the environment chooses is part of the event. A
run is a left fold over a list of events, so a statement about every interleaving is a statement
about every list.

## Main results

* `Runs.invariant` — what one event preserves, every run preserves
* `Runs.Meets.invariant` — the same for the runs all of whose events meet a condition in the state
  before them
* `Runs.Meets.append`, `Runs.run_append` — splitting a run
-/

namespace Runs

variable {σ ε : Type*} (exec : σ → ε → σ)

/-- The state after a list of events. -/
def run (s : σ) (es : List ε) : σ := es.foldl exec s

@[simp] theorem run_nil (s : σ) : run exec s [] = s := rfl

@[simp] theorem run_cons (s : σ) (e : ε) (es : List ε) :
    run exec s (e :: es) = run exec (exec s e) es := rfl

theorem run_append (s : σ) (es fs : List ε) :
    run exec s (es ++ fs) = run exec (run exec s es) fs := List.foldl_append

variable {exec}

/-- **Run lemma.** A property that every event preserves holds after every run. -/
theorem invariant (Inv : σ → Prop) (hstep : ∀ s e, Inv s → Inv (exec s e)) {s : σ} (hs : Inv s)
    (es : List ε) : Inv (run exec s es) := by
  induction es generalizing s with
  | nil => exact hs
  | cons e es ih => exact ih (hstep s e hs)

variable (exec) in
/-- Every event of the run meets `ok` in the state it is executed in. -/
def Meets (ok : σ → ε → Prop) : σ → List ε → Prop
  | _, [] => True
  | s, e :: es => ok s e ∧ Meets ok (exec s e) es

instance Meets.decidable {ok : σ → ε → Prop} [∀ s e, Decidable (ok s e)] :
    ∀ (s : σ) (es : List ε), Decidable (Meets exec ok s es)
  | _, [] => isTrue trivial
  | s, e :: es => @instDecidableAnd _ _ _ (Meets.decidable (exec s e) es)

/-- **Conditioned run lemma.** -/
theorem Meets.invariant {ok : σ → ε → Prop} (Inv : σ → Prop)
    (hstep : ∀ s e, ok s e → Inv s → Inv (exec s e)) {s : σ} {es : List ε}
    (h : Meets exec ok s es) (hs : Inv s) : Inv (run exec s es) := by
  induction es generalizing s with
  | nil => exact hs
  | cons e es ih => exact ih h.2 (hstep s e h.1 hs)

/-- A condition on the events alone can be carried along. -/
theorem Meets.and_of_forall {ok : σ → ε → Prop} {q : ε → Prop} {s : σ} {es : List ε}
    (h : Meets exec ok s es) (hq : ∀ e ∈ es, q e) :
    Meets exec (fun s e => ok s e ∧ q e) s es := by
  induction es generalizing s with
  | nil => trivial
  | cons e es ih =>
    exact ⟨⟨h.1, hq e List.mem_cons_self⟩,
      ih h.2 fun e' he' => hq e' (List.mem_cons_of_mem _ he')⟩

theorem Meets.append {ok : σ → ε → Prop} {s : σ} {es fs : List ε} :
    Meets exec ok s (es ++ fs) ↔ Meets exec ok s es ∧ Meets exec ok (run exec s es) fs := by
  induction es generalizing s with
  | nil => simp [Meets]
  | cons e es ih => simp [Meets, ih, and_assoc]

end Runs
