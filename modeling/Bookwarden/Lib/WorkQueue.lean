import Mathlib.Data.Set.Function
import Mathlib.Logic.Relation
import Mathlib.Tactic.Common

/-!
# Jobs, their delivery and the locks on their resources

Jobs are queued, worked on and settled. Each job needs one resource and holds the lock on it exactly
while it is worked on; a delivery record, written next to the job, follows it. Jobs, records and
locks are three tables, and a system that keeps them together moves all three in one transaction.

`Queue` is a view of the three tables, `Step` the moves that keep them together. A system is
connected by showing that each of its transactions is a number of such moves.

## Main definitions

* `Stage`, `Delivery`, `Queue`
* `Step` — enqueue, take, keep working, release, settle
* `Consistent` — every record follows its job, and the locks are those of the jobs worked on

## Main results

* `Step.consistent`, `consistent_run`
* `working_unique` — at most one job is worked on for each resource
* `settled_run` — a settled job stays as it is
-/

namespace WorkQueue

/-- The stage of a job. -/
inductive Stage
  | queued
  | working
  | settled (ok : Bool)
  deriving DecidableEq, Repr

/-- The delivery record of a job. -/
inductive Delivery
  | pending
  | processing
  | published
  | failed
  deriving DecidableEq, Repr

/-- The record that belongs to a stage. -/
def Stage.delivery : Stage → Delivery
  | .queued => .pending
  | .working => .processing
  | .settled true => .published
  | .settled false => .failed

/-- Jobs with the resource they need, delivery records, and the job that holds each lock. -/
structure Queue (ι β : Type*) where
  job : ι → Option (β × Stage)
  delivery : ι → Option Delivery
  holder : β → Option ι

variable {ι β : Type*} [DecidableEq ι] [DecidableEq β]

/-- The locks once `i` gives up the one on `b`; a lock that another job holds is left alone. -/
def unhold (holder : β → Option ι) (b : β) (i : ι) : β → Option ι :=
  if holder b = some i then Function.update holder b none else holder

/-- Move a job and its record to a stage. -/
def Queue.put (q : Queue ι β) (i : ι) (b : β) (s : Stage) : Queue ι β where
  job := Function.update q.job i (some (b, s))
  delivery := Function.update q.delivery i (some s.delivery)
  holder := q.holder

/-- The moves. -/
inductive Step : Queue ι β → Queue ι β → Prop
  | enqueue {q} (i : ι) (b : β) (hnew : q.job i = none) : Step q (q.put i b .queued)
  | take {q} (i : ι) (b : β) (hjob : q.job i = some (b, .queued)) (hfree : q.holder b = none) :
      Step q { q.put i b .working with holder := Function.update q.holder b (some i) }
  | release {q} (i : ι) (b : β) (hjob : q.job i = some (b, .working)) :
      Step q { q.put i b .queued with holder := unhold q.holder b i }
  | settle {q} (i : ι) (b : β) (ok : Bool) (hjob : q.job i = some (b, .working)) :
      Step q { q.put i b (.settled ok) with holder := unhold q.holder b i }

/-- The records follow the jobs, and a lock is held by exactly the job worked on. -/
structure Consistent (q : Queue ι β) : Prop where
  record : ∀ i, q.delivery i = (q.job i).map fun j => j.2.delivery
  locked : ∀ i b, q.job i = some (b, .working) ↔ q.holder b = some i

/-! ### One move -/

omit [DecidableEq β] in
theorem record_put {q : Queue ι β} (h : Consistent q) (i : ι) (b : β) (s : Stage) (j : ι) :
    (q.put i b s).delivery j = ((q.put i b s).job j).map fun j => j.2.delivery := by
  show Function.update q.delivery i _ j = (Function.update q.job i _ j).map _
  by_cases hij : j = i
  · subst hij
    rw [Function.update_self, Function.update_self]
    rfl
  · rw [Function.update_of_ne hij, Function.update_of_ne hij]
    exact h.record j

/-- A job that stops being worked on gives up its lock and no other one. -/
theorem locked_unhold {q : Queue ι β} (h : Consistent q) {i : ι} {b : β}
    (hjob : q.job i = some (b, .working)) {s : Stage} (hs : s ≠ .working) (j : ι) (c : β) :
    (q.put i b s).job j = some (c, .working) ↔ unhold q.holder b i c = some j := by
  have hheld : q.holder b = some i := (h.locked i b).mp hjob
  rw [unhold, if_pos hheld]
  show Function.update q.job i _ j = _ ↔ _
  by_cases hij : j = i
  · subst hij
    rw [Function.update_self, Option.some.injEq, Prod.mk.injEq]
    refine ⟨fun heq => absurd heq.2 hs, fun hc => ?_⟩
    by_cases hcb : c = b
    · rw [hcb, Function.update_self] at hc
      cases hc
    · -- the job is worked on for one resource only
      rw [Function.update_of_ne hcb, ← h.locked, hjob] at hc
      cases hc
      exact absurd rfl hcb
  · rw [Function.update_of_ne hij, h.locked]
    by_cases hcb : c = b
    · rw [hcb, Function.update_self, hheld, Option.some.injEq]
      exact ⟨fun heq => absurd heq.symm hij, fun heq => by cases heq⟩
    · rw [Function.update_of_ne hcb]

theorem Step.consistent {q q' : Queue ι β} (hstep : Step q q') (h : Consistent q) :
    Consistent q' := by
  cases hstep with
  | enqueue i b hnew =>
    refine ⟨record_put h i b _, fun j c => ?_⟩
    show Function.update q.job i _ j = _ ↔ q.holder c = some j
    by_cases hij : j = i
    · subst hij
      rw [Function.update_self, ← h.locked, hnew]
      exact ⟨fun heq => (by cases heq), fun heq => (by cases heq)⟩
    · rw [Function.update_of_ne hij, h.locked]
  | take i b hjob hfree =>
    refine ⟨record_put h i b _, fun j c => ?_⟩
    show Function.update q.job i _ j = _ ↔ Function.update q.holder b (some i) c = some j
    by_cases hij : j = i
    · subst hij
      rw [Function.update_self]
      by_cases hcb : c = b
      · rw [hcb, Function.update_self]
        exact ⟨fun _ => rfl, fun _ => rfl⟩
      · rw [Function.update_of_ne hcb, ← h.locked, hjob]
        refine ⟨fun heq => ?_, fun heq => by cases heq⟩
        cases heq
        exact absurd rfl hcb
    · rw [Function.update_of_ne hij, h.locked]
      by_cases hcb : c = b
      · rw [hcb, Function.update_self, hfree, Option.some.injEq]
        exact ⟨fun heq => (by cases heq), fun heq => absurd heq.symm hij⟩
      · rw [Function.update_of_ne hcb]
  | release i b hjob =>
    exact ⟨record_put h i b _, locked_unhold h hjob (by decide)⟩
  | settle i b ok hjob =>
    exact ⟨record_put h i b _, locked_unhold h hjob (by cases ok <;> decide)⟩

/-- A settled job is not touched. -/
theorem Step.settled {q q' : Queue ι β} (hstep : Step q q') {i : ι} {b : β} {ok : Bool}
    (h : q.job i = some (b, .settled ok)) : q'.job i = some (b, .settled ok) := by
  have hput : ∀ (j : ι) (c : β) (s : Stage), j ≠ i →
      (q.put j c s).job i = some (b, .settled ok) := by
    intro j c s hne
    show Function.update q.job j _ i = _
    rw [Function.update_of_ne hne.symm, h]
  cases hstep with
  | enqueue j c hnew =>
    refine hput j c _ fun heq => ?_
    rw [heq, h] at hnew
    cases hnew
  | take j c hjob _ =>
    refine hput j c _ fun heq => ?_
    rw [heq, h] at hjob
    cases hjob
  | release j c hjob =>
    refine hput j c _ fun heq => ?_
    rw [heq, h] at hjob
    cases hjob
  | settle j c _ hjob =>
    refine hput j c _ fun heq => ?_
    rw [heq, h] at hjob
    cases hjob

/-! ### Many moves -/

/-- Any number of moves. -/
abbrev Moves : Queue ι β → Queue ι β → Prop := Relation.ReflTransGen Step

/-- **Moves keep the tables together.** -/
theorem consistent_run {q q' : Queue ι β} (hrun : Moves q q') (h : Consistent q) :
    Consistent q' := by
  induction hrun with
  | refl => exact h
  | tail _ hstep ih => exact hstep.consistent ih

/-- **Settled is final.** -/
theorem settled_run {q q' : Queue ι β} (hrun : Moves q q') {i : ι} {b : β} {ok : Bool}
    (h : q.job i = some (b, .settled ok)) : q'.job i = some (b, .settled ok) := by
  induction hrun with
  | refl => exact h
  | tail _ hstep ih => exact hstep.settled ih

omit [DecidableEq ι] [DecidableEq β] in
/-- **One job at a time.** Two jobs worked on for one resource are the same job. -/
theorem Consistent.working_unique {q : Queue ι β} (h : Consistent q) {i j : ι} {b : β}
    (hi : q.job i = some (b, .working)) (hj : q.job j = some (b, .working)) : i = j := by
  have hheld := (h.locked i b).mp hi
  rw [(h.locked j b).mp hj] at hheld
  exact (Option.some.inj hheld).symm

omit [DecidableEq ι] [DecidableEq β] in
/-- Only a job that is worked on holds a lock. -/
theorem Consistent.not_held {q : Queue ι β} (h : Consistent q) {i : ι} {b : β} {s : Stage}
    (hi : q.job i = some (b, s)) (hs : s ≠ .working) (c : β) : q.holder c ≠ some i := by
  intro hc
  rw [← h.locked, hi] at hc
  cases hc
  exact hs rfl

end WorkQueue
