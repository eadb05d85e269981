import Mathlib.Data.List.Basic
import Mathlib.Tactic.Common

/-!
# Runs that stop at their first refusal

`f : α → Option β` treats one item; `none` refuses it. The run over a list collects the results and
stops at the first refusal, so two runs can only be told apart at an item that is reached.

## Main results

* `Halting.run_eq_iff` — two runs agree exactly when they agree at every item reached
-/

namespace Halting

variable {α α' β : Type*}

/-- The results up to the first refusal, and whether the list was finished. -/
def run (f : α → Option β) : List α → List β × Bool
  | [] => ([], true)
  | a :: as =>
    match f a with
    | none => ([], false)
    | some b => (b :: (run f as).1, (run f as).2)

/-- The run over the list comes to the item. -/
inductive Reached (f : α → Option β) : List α → α → Prop
  | here {a : α} {as : List α} : Reached f (a :: as) a
  | later {a a' : α} {as : List α} (h : (f a').isSome = true) (rest : Reached f as a) :
      Reached f (a' :: as) a

variable {f g : α → Option β}

theorem run_cons_none {a : α} {as : List α} (h : f a = none) : run f (a :: as) = ([], false) := by
  rw [run, h]

theorem run_cons_some {a : α} {b : β} {as : List α} (h : f a = some b) :
    run f (a :: as) = (b :: (run f as).1, (run f as).2) := by
  rw [run, h]

theorem run_map (f : α → Option β) (φ : α' → α) (as : List α') :
    run f (as.map φ) = run (f ∘ φ) as := by
  induction as with
  | nil => rfl
  | cons a as ih => rw [List.map_cons, run, run, ih, Function.comp_apply]

theorem Reached.mem {a : α} {as : List α} (h : Reached f as a) : a ∈ as := by
  induction h with
  | here => exact List.mem_cons_self
  | later _ _ ih => exact List.mem_cons_of_mem _ ih

/-- Two runs agree exactly when they agree at every item that one of them reaches. -/
theorem run_eq_iff {as : List α} : run f as = run g as ↔ ∀ a, Reached f as a → f a = g a := by
  induction as with
  | nil => exact iff_of_true rfl fun a h => absurd h.mem List.not_mem_nil
  | cons a as ih =>
    constructor
    · intro h
      have hhead : f a = g a := by
        cases hf : f a with
        | none =>
          cases hg : g a with
          | none => rfl
          | some b =>
            rw [run_cons_none hf, run_cons_some hg] at h
            cases h
        | some b =>
          cases hg : g a with
          | none =>
            rw [run_cons_some hf, run_cons_none hg] at h
            cases h
          | some b' =>
            rw [run_cons_some hf, run_cons_some hg] at h
            exact congrArg some (List.cons.inj (Prod.mk.inj h).1).1
      intro x hx
      cases hx with
      | here => exact hhead
      | later hsome hrest =>
        obtain ⟨b, hf⟩ := Option.isSome_iff_exists.mp hsome
        have hg : g a = some b := hhead.symm.trans hf
        rw [run_cons_some hf, run_cons_some hg] at h
        obtain ⟨hresults, hfinished⟩ := Prod.mk.inj h
        have hrun : run f as = run g as := Prod.ext (List.cons.inj hresults).2 hfinished
        exact ih.mp hrun x hrest
    · intro h
      have hhead : f a = g a := h a .here
      cases hf : f a with
      | none => rw [run_cons_none hf, run_cons_none (hhead.symm.trans hf)]
      | some b =>
        have hrun : run f as = run g as := by
          refine ih.mpr fun x hx => h x (.later ?_ hx)
          rw [hf]
          rfl
        rw [run_cons_some hf, run_cons_some (hhead.symm.trans hf), hrun]

end Halting
