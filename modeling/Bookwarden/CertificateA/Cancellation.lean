import Bookwarden.CertificateA.Resume

/-!
# Cancelling a run

The operator's cancel request and the end of an execution are separate transactions. Before it
finishes a run as completed an attempt asks once more whether cancellation was requested; `finish`
itself loads the owned run again and does not ask. Every other write of an attempt that may keep a
cancelled run going (`inventory`, `record_state`) asks in its own transaction.

## Main definitions

* `Polled`, `PolledEvent`, `execPolled` — the world with the check after processing as an event of
  its own; only an attempt whose check found no cancellation completes its run
* `timely` — no request is made for a run whose attempt is between its check and its finish

## Main results

* `cancelled_run_completes` — a request between the two is accepted, and the run completes
* `cancel_honoured` — in every run of timely events an accepted request is honoured
-/

namespace Bookwarden

namespace CertificateA

/-- The world, and the attempts whose check after processing found no cancellation. -/
structure Polled where
  world : World
  cleared : List ℕ

/-- The check after processing, or an event of the world. -/
inductive PolledEvent
  | check (attempt : ℕ) (m : Moment)
  | world (e : WorldEvent)

/-- The action finishes the run as completed. -/
def Action.completes : Action → Bool
  | .complete .. => true
  | _ => false

/-- The attempt has processed its books. -/
def Phase.processed : Phase → Bool
  | .processing _ [] _ => true
  | _ => false

/-- The phases of the attempts after one of them leaves its processing. -/
def World.raise (w : World) (i : ℕ) (a : Attempt) : World :=
  { w with attempts := w.attempts.set i { a with phase := .raised none } }

variable (py : Runtime) (validate : Dict → Option EvidencePackageV2)

/-- The end of `execute_certificate_a_claim`: the check, and then the finish. An attempt whose check
finds a cancellation, or no owned run, completes nothing any more. -/
def execPolled (p : Polled) : PolledEvent → Polled
  | .check i m => match p.world.attempts[i]? with
    | none => p
    | some a =>
      if a.alive && a.phase.processed then
        match cancellationRequested p.world.db a.claim m with
        | .ok false => { p with cleared := i :: p.cleared }
        | .ok true => { p with world := p.world.raise i a }
        | .error _ => { p with world := p.world.raise i a }
      else p
  | .world (.act i action) =>
    if action.completes = true ∧ i ∉ p.cleared then p
    else { p with world := exec py validate p.world (.act i action) }
  | .world e => { p with world := exec py validate p.world e }

/-- The world before the first request. -/
def Polled.start : Polled := ⟨.start, []⟩

/-- `cancel_run` accepts a request for the run. -/
def acceptsCancel (db : Db) (runId : String) : Bool :=
  match db.runs.get? runId with
  | none => false
  | some run => run.contractVersion = some contractVersion
      && run.pipelineVersion = "manifestation-v2" && run.finishedAt = none
      && decide (run.status ∈ claimableStatuses)

/-- A live attempt that holds the run stands between its check and its finish. -/
def Polled.finishing (p : Polled) (runId : String) : Bool :=
  p.cleared.any fun i => match p.world.attempts[i]? with
    | none => false
    | some a => a.alive && a.claim.runId = runId && a.claim.fenceToken = fenceOf p.world.db runId

/-- No request is made for a run that is being finished. -/
def timely (p : Polled) : PolledEvent → Bool
  | .world (.cancel runId _) => !p.finishing runId
  | _ => true

/-- The two statuses of a run that came to its end. -/
def completedStatuses : List RunStatus := [.completed, .completedWithErrors]

variable {py validate} {db db' : Db} {claim : CertificateAClaim}

/-! ### What an event does to the rows of the runs -/

/-- A row that neither gains nor loses a cancel request, and does not complete. -/
structure KeptRow (run run' : VerificationRun) : Prop where
  requested : run'.cancelRequestedAt = run.cancelRequestedAt
  cancelling : run'.status = .cancelling → run.status = .cancelling
  completed : run'.status ∈ completedStatuses → run.status ∈ completedStatuses

/-- A row before and after an event; a new row is not cancelled and not completed. -/
def Kept : Option VerificationRun → Option VerificationRun → Prop
  | some run, some run' => KeptRow run run'
  | none, some run' => run'.cancels = false ∧ run'.status ∉ completedStatuses
  | none, none => True
  | some _, none => False

/-- Every row of the runs is kept. -/
def KeepsRuns (db db' : Db) : Prop := ∀ id, Kept (db.runs.get? id) (db'.runs.get? id)

theorem KeptRow.refl (run : VerificationRun) : KeptRow run run := ⟨rfl, id, id⟩

theorem Kept.refl (row : Option VerificationRun) : Kept row row := by
  cases row with
  | none => trivial
  | some run => exact KeptRow.refl run

theorem keepsRuns_of_eq (h : db'.runs = db.runs) : KeepsRuns db db' := by
  intro id
  rw [h]
  exact Kept.refl _

theorem keepsRuns_set {id : String} {run run' : VerificationRun} (hrun : db.runs.get? id = some run)
    (hruns : db'.runs = db.runs.set id run') (h : KeptRow run run') : KeepsRuns db db' := by
  intro id'
  rw [hruns, Table.get?_set]
  split
  · rename_i hid
    rw [hid, hrun]
    exact h
  · exact Kept.refl _

theorem KeptRow.cancels {run run' : VerificationRun} (h : KeptRow run run')
    (hno : run.cancels = false) : run'.cancels = false := by
  simp only [VerificationRun.cancels, Bool.or_eq_false_iff, decide_eq_false_iff_not] at hno ⊢
  exact ⟨fun hs => hno.1 (h.cancelling hs), h.requested ▸ hno.2⟩

theorem keepsRuns_heartbeat (m : Moment) (ttl : ℤ) :
    KeepsRuns db (heartbeat db claim m ttl).1 := by
  rw [heartbeat]
  cases hrun : db.runs.get? claim.runId with
  | none => exact keepsRuns_of_eq rfl
  | some run =>
    by_cases how : owns claim m run = true
    · simp only [if_pos how]
      exact keepsRuns_set hrun rfl ⟨rfl, id, id⟩
    · simp only [if_neg how]
      exact keepsRuns_of_eq rfl

theorem keepsRuns_inventory {keys : List String} {snapshot : Dict} {m₁ m₂ : Moment}
    (h : inventory db claim keys snapshot m₁ m₂ = .ok db') : KeepsRuns db db' := by
  rw [inventory] at h
  split at h
  · cases h
  · cases hactive : activeRun db claim m₁ with
    | error e => simp [hactive] at h
    | ok run =>
      have hrun := (ownedRun_eq_ok_iff.mp (activeRun_eq_ok_iff.mp hactive).1).1
      simp only [hactive] at h
      split at h
      · cases h
      · split at h
        · cases h
        · cases h
          refine keepsRuns_set hrun rfl ⟨rfl, fun hs => ?_, fun hs => ?_⟩
          · cases hs
          · have hno : RunStatus.running ∉ completedStatuses := by decide
            exact absurd hs hno

theorem abandonStatuses_disjoint :
    ∀ status ∈ abandonStatuses, status ≠ .cancelling ∧ status ∉ completedStatuses := by
  decide

/-- Finishing a run under another status than the two keeps its row. -/
theorem keepsRuns_finish {status : RunStatus} {code : Option String} {m₁ m₂ : Moment}
    (hstatus : status ∈ abandonStatuses) (h : finish db claim status code m₁ m₂ = .ok db') :
    KeepsRuns db db' := by
  obtain ⟨-, run, hrun, -, rfl⟩ := finish_eq_ok h
  have hno := abandonStatuses_disjoint status hstatus
  exact keepsRuns_set hrun rfl ⟨rfl, fun hs => absurd hs hno.1, fun hs => absurd hs hno.2⟩

/-- An action that does not complete the run keeps the rows of the runs. -/
theorem keepsRuns_perform (action : Action) (phase : Phase) (hcompletes : action.completes = false) :
    KeepsRuns db (action.perform py validate db claim phase).1 := by
  have hrefl : KeepsRuns db db := keepsRuns_of_eq rfl
  cases action with
  | heartbeat m ttl => exact keepsRuns_heartbeat m ttl
  | inventory keys snapshot m₁ m₂ =>
    cases phase with
    | claimed =>
      simp only [Action.perform]
      cases hok : CertificateA.inventory db claim keys snapshot m₁ m₂ with
      | error e => exact hrefl
      | ok db' => exact keepsRuns_inventory hok
    | _ => exact hrefl
  | resume m =>
    cases phase with
    | inventoried keys =>
      simp only [Action.perform]
      cases resumableBookKeys py validate db claim m <;> exact hrefl
    | _ => exact hrefl
  | emit state m =>
    cases phase with
    | processing keys books hasErrors =>
      cases books with
      | nil => exact hrefl
      | cons key todo =>
        simp only [Action.perform]
        split
        · exact hrefl
        · cases hok : recordState db claim key state m with
          | error e => exact hrefl
          | ok db' =>
            obtain ⟨result, -, rfl⟩ := recordState_eq_ok hok
            exact keepsRuns_of_eq rfl
    | _ => exact hrefl
  | conclude package m =>
    cases phase with
    | processing keys books hasErrors =>
      cases books with
      | nil => exact hrefl
      | cons key todo =>
        simp only [Action.perform]
        split
        · cases hok : recordState db claim key package.state m with
          | error e =>
            show KeepsRuns db (if _ then _ else _ : Db × Phase × Bool).1
            split
            · exact hrefl
            · exact hrefl
          | ok db' =>
            obtain ⟨result, -, rfl⟩ := recordState_eq_ok hok
            exact keepsRuns_of_eq rfl
        · exact hrefl
    | _ => exact hrefl
  | store m₁ m₂ =>
    cases phase with
    | emitted keys todo hasErrors package =>
      simp only [Action.perform]
      cases hok : recordPackage py db claim package m₁ m₂ with
      | error e => exact hrefl
      | ok db' =>
        obtain ⟨-, -, run, result, hrun, -, -, -, rfl⟩ := recordPackage_eq_ok hok
        have hkept : KeepsRuns db { writePackage py db result package with
            runs := db.runs.set claim.runId
              (refreshCounts (writePackage py db result package) claim.runId run) } :=
          keepsRuns_set hrun rfl ⟨rfl, id, id⟩
        show KeepsRuns db (if package.state = .sourceChanged then _ else _ : Db × Phase × Bool).1
        split
        · exact hkept
        · exact hkept
    | _ => exact hrefl
  | complete m₁ m₂ => cases hcompletes
  | abandon status code m₁ m₂ =>
    simp only [Action.perform]
    split
    · rename_i hstatus
      cases hok : finish db claim status code m₁ m₂ with
      | error e => exact hrefl
      | ok db' => exact keepsRuns_finish hstatus hok
    · exact hrefl
  | crash => exact hrefl

theorem keepsRuns_claim (db : Db) (owner : String) (m : Moment) (ttl : ℤ) (runId : Option String) :
    KeepsRuns db (claimAnswer db owner m ttl runId).1 := by
  rw [claimAnswer, claimNextCertificateARun]
  by_cases howner : owner = "" ∨ 128 < owner.length
  · rw [if_pos howner]
    exact keepsRuns_of_eq rfl
  · rw [if_neg howner]
    cases hcand : claimCandidate db m runId with
    | none => exact keepsRuns_of_eq rfl
    | some r =>
      refine keepsRuns_set (claimCandidate_spec hcand).1 rfl ⟨rfl, fun hs => ?_, fun hs => ?_⟩
      · by_cases hpending : r.2.status = .pending
        · rw [if_pos hpending] at hs
          cases hs
        · rwa [if_neg hpending] at hs
      · by_cases hpending : r.2.status = .pending
        · rw [if_pos hpending] at hs
          have hno : RunStatus.inventorying ∉ completedStatuses := by decide
          exact absurd hs hno
        · rwa [if_neg hpending] at hs

theorem keepsRuns_requestRun (db : Db) (runId : String) (startedAt : Moment) :
    KeepsRuns db (requestRun db runId startedAt) := by
  rw [requestRun]
  cases hrun : db.runs.get? runId with
  | some run => exact keepsRuns_of_eq rfl
  | none =>
    intro id
    show Kept _ (Table.get? (db.runs.set runId _) id)
    rw [Table.get?_set]
    split
    · rename_i hid
      rw [hid, hrun]
      have hno : RunStatus.pending ∉ completedStatuses := by decide
      exact ⟨rfl, hno⟩
    · exact Kept.refl _

/-- An accepted request sets the row to cancelling and keeps its time; a refused one changes
nothing. -/
theorem cancelRun_cases (db : Db) (runId : String) (m : Moment) :
    (acceptsCancel db runId = false ∧ cancelRun db runId m = db) ∨
      (acceptsCancel db runId = true ∧ ∃ run, db.runs.get? runId = some run ∧
        cancelRun db runId m = { db with runs := db.runs.set runId { run with
          status := .cancelling
          cancelRequestedAt := some (run.cancelRequestedAt.getD m) } }) := by
  rw [cancelRun, acceptsCancel]
  cases hrun : db.runs.get? runId with
  | none => exact Or.inl ⟨rfl, rfl⟩
  | some run =>
    by_cases h : run.contractVersion = some contractVersion
        ∧ run.pipelineVersion = "manifestation-v2" ∧ run.finishedAt = none
        ∧ run.status ∈ claimableStatuses
    · refine Or.inr ⟨by simp [h], run, rfl, ?_⟩
      simp only [if_pos h]
    · refine Or.inl ⟨?_, by simp only [if_neg h]⟩
      have hno : ¬ (((run.contractVersion = some contractVersion
          ∧ run.pipelineVersion = "manifestation-v2") ∧ run.finishedAt = none)
          ∧ run.status ∈ claimableStatuses) := fun hall =>
        h ⟨hall.1.1.1, hall.1.1.2, hall.1.2, hall.2⟩
      simpa using hno

/-! ### The invariant -/

variable (py) in
/-- What holds of the polled world while every event is timely. -/
structure Honoured (p : Polled) : Prop where
  ordered : (queue py).Ordered p.world.queueWorld
  bound : ∀ i ∈ p.cleared, i < p.world.attempts.length
  /-- A run that is being finished has no cancel request. -/
  clear : ∀ i ∈ p.cleared, ∀ a, p.world.attempts[i]? = some a → a.alive = true →
    a.claim.fenceToken = fenceOf p.world.db a.claim.runId →
    ∀ run, p.world.db.runs.get? a.claim.runId = some run → run.cancels = false
  /-- A run with a cancel request has not completed. -/
  requested : ∀ id run, p.world.db.runs.get? id = some run → run.cancelRequestedAt.isSome = true →
    run.status ∉ completedStatuses

theorem requested_of_keepsRuns (h : KeepsRuns db db')
    (hreq : ∀ id run, db.runs.get? id = some run → run.cancelRequestedAt.isSome = true →
      run.status ∉ completedStatuses) :
    ∀ id run, db'.runs.get? id = some run → run.cancelRequestedAt.isSome = true →
      run.status ∉ completedStatuses := by
  intro id run' hrun' hsome hdone
  have hkept := h id
  rw [hrun'] at hkept
  cases hrun : db.runs.get? id with
  | none =>
    rw [hrun] at hkept
    exact hkept.2 hdone
  | some run =>
    rw [hrun] at hkept
    exact hreq id run hrun (hkept.requested ▸ hsome) (hkept.completed hdone)

/-- What a kept row was before, when the run was there. -/
theorem Kept.not_cancels {old : Option VerificationRun} {run' : VerificationRun}
    (h : Kept old (some run')) (hold : ∀ run, old = some run → run.cancels = false) :
    run'.cancels = false := by
  cases old with
  | none => exact h.1
  | some run => exact KeptRow.cancels h (hold run rfl)

/-- An event that keeps the rows of the runs and moves no fence, with attempts that are the old ones
or new. -/
theorem Honoured.of_keepsRuns {p : Polled} (h : Honoured py p) {w : World}
    (hord : (queue py).Ordered w.queueWorld) (hkeeps : KeepsRuns p.world.db w.db)
    (hlen : p.world.attempts.length ≤ w.attempts.length)
    (hold : ∀ i ∈ p.cleared, ∀ a, w.attempts[i]? = some a → a.alive = true →
      a.claim.fenceToken = fenceOf w.db a.claim.runId →
      ∃ b, p.world.attempts[i]? = some b ∧ b.alive = true ∧ b.claim = a.claim ∧
        b.claim.fenceToken = fenceOf p.world.db b.claim.runId) :
    Honoured py { p with world := w } := by
  refine ⟨hord, fun i hi => (h.bound i hi).trans_le hlen, ?_, requested_of_keepsRuns hkeeps h.requested⟩
  intro i hi a ha halive hcur run hrun
  obtain ⟨b, hb, hblive, hclaim, hbcur⟩ := hold i hi a ha halive hcur
  have hclear := h.clear i hi b hb hblive hbcur
  have hkept := hkeeps a.claim.runId
  rw [hrun] at hkept
  refine hkept.not_cancels fun old hget => hclear old ?_
  rw [hclaim]
  exact hget

/-- Moving the phase or ending the life of an attempt brings no attempt back. -/
theorem exists_attempt_of_set {l : List Attempt} {i j : ℕ} {a b : Attempt} {phase : Phase}
    {alive : Bool} (ha : l[i]? = some a) (hlive : a.alive = true)
    (hb : (l.set i { a with phase, alive })[j]? = some b) (hblive : b.alive = true) :
    ∃ c, l[j]? = some c ∧ c.alive = true ∧ c.claim = b.claim := by
  rw [getElem?_set_attempt (w := ⟨⟨.empty, .empty, .empty, .empty⟩, l⟩) ha] at hb
  split at hb
  · rename_i hij
    subst hij
    cases hb
    exact ⟨a, ha, hlive, rfl⟩
  · exact ⟨b, hb, hblive, rfl⟩

/-- Attempts move on the same database. -/
theorem Honoured.raise {p : Polled} (h : Honoured py p) {i : ℕ} {a : Attempt}
    (ha : p.world.attempts[i]? = some a) (hlive : a.alive = true) :
    Honoured py { p with world := p.world.raise i a } := by
  have hattempts : (p.world.raise i a).attempts
      = p.world.attempts.set i { a with phase := .raised none, alive := a.alive } := rfl
  refine h.of_keepsRuns ?_ (keepsRuns_of_eq rfl) ?_ ?_
  · rw [World.queueWorld, hattempts, map_claim_set_attempt ha]
    exact h.ordered
  · rw [hattempts, List.length_set]
  · intro j hj b hb hblive hbcur
    rw [hattempts] at hb
    obtain ⟨c, hc, hclive, hclaim⟩ := exists_attempt_of_set ha hlive hb hblive
    refine ⟨c, hc, hclive, hclaim, ?_⟩
    rw [hclaim]
    exact hbcur

/-- The check of an attempt keeps the invariant: what it read is the row of its run. -/
theorem Honoured.check {p : Polled} (h : Honoured py p) (i : ℕ) (m : Moment) :
    Honoured py (execPolled py validate p (.check i m)) := by
  rw [execPolled]
  cases ha : p.world.attempts[i]? with
  | none => exact h
  | some a =>
    by_cases hready : (a.alive && a.phase.processed) = true
    · have hlive : a.alive = true := (Bool.and_eq_true _ _ ▸ hready).1
      simp only [if_pos hready]
      cases hcheck : cancellationRequested p.world.db a.claim m with
      | error e => exact h.raise ha hlive
      | ok requested =>
        cases requested with
        | true => exact h.raise ha hlive
        | false =>
          rw [cancellationRequested] at hcheck
          cases howned : ownedRun p.world.db a.claim m with
          | error e => simp [howned] at hcheck
          | ok run =>
            simp only [howned, Except.ok.injEq] at hcheck
            refine ⟨h.ordered, fun j hj => ?_, fun j hj b hb hblive hbcur run' hrun' => ?_,
              h.requested⟩
            · rcases List.mem_cons.mp hj with rfl | hj
              · exact (List.getElem?_eq_some_iff.mp ha).1
              · exact h.bound j hj
            · rcases List.mem_cons.mp hj with rfl | hj
              · rw [ha] at hb
                cases hb
                rw [(ownedRun_eq_ok_iff.mp howned).1] at hrun'
                cases hrun'
                exact hcheck
              · exact h.clear j hj b hb hblive hbcur run' hrun'
    · simp only [if_neg hready]
      exact h

/-- An action that does not complete the run keeps the invariant. -/
theorem Honoured.act {p : Polled} (h : Honoured py p) (i : ℕ) {action : Action}
    (hcompletes : action.completes = false) :
    Honoured py { p with world := exec py validate p.world (.act i action) } := by
  have hord := ordered_exec validate h.ordered (.act i action)
  rw [exec] at hord ⊢
  cases ha : p.world.attempts[i]? with
  | none => exact h
  | some a =>
    by_cases hlive : a.alive = true
    · simp only [ha, if_pos hlive] at hord ⊢
      refine h.of_keepsRuns hord (keepsRuns_perform action a.phase hcompletes) ?_ ?_
      · rw [List.length_set]
      · intro j hj b hb hblive hbcur
        obtain ⟨c, hc, hclive, hclaim⟩ := exists_attempt_of_set ha hlive hb hblive
        refine ⟨c, hc, hclive, hclaim, ?_⟩
        rw [hclaim, hbcur]
        exact fenceOf_perform action a.phase b.claim.runId
    · simp only [if_neg hlive]
      exact h

/-- A run that completes had no cancel request: its attempt was cleared, and holds the run. -/
theorem Honoured.complete {p : Polled} (h : Honoured py p) {i : ℕ} {m₁ m₂ : Moment}
    (hi : i ∈ p.cleared) :
    Honoured py { p with world := exec py validate p.world (.act i (.complete m₁ m₂)) } := by
  have hord := ordered_exec validate h.ordered (.act i (.complete m₁ m₂))
  rw [exec] at hord ⊢
  cases ha : p.world.attempts[i]? with
  | none => exact h
  | some a =>
    by_cases hlive : a.alive = true
    swap
    · simp only [if_neg hlive]
      exact h
    simp only [ha, if_pos hlive] at hord ⊢
    have hsame : ∀ (phase : Phase), (queue py).Ordered
        (⟨p.world.db, p.world.attempts.set i { a with phase, alive := true }⟩ : World).queueWorld →
        Honoured py { p with
          world := ⟨p.world.db, p.world.attempts.set i { a with phase, alive := true }⟩ } := by
      intro phase hord
      refine h.of_keepsRuns hord (keepsRuns_of_eq rfl) ?_ ?_
      · rw [List.length_set]
      · intro j hj b hb hblive hbcur
        obtain ⟨c, hc, hclive, hclaim⟩ := exists_attempt_of_set ha hlive hb hblive
        exact ⟨c, hc, hclive, hclaim, hclaim ▸ hbcur⟩
    cases hphase : a.phase with
    | processing keys books hasErrors =>
      cases books with
      | cons key todo =>
        simp only [hphase, Action.perform] at hord ⊢
        exact hsame _ hord
      | nil =>
        simp only [hphase, Action.perform] at hord ⊢
        cases hok : finish p.world.db a.claim
            (if hasErrors then .completedWithErrors else .completed) none m₁ m₂ with
        | error e =>
          simp only [hok] at hord ⊢
          exact hsame _ hord
        | ok db' =>
          simp only [hok] at hord ⊢
          have hfences := (effect_finish hok).fenceOf_eq
          obtain ⟨-, run, hrun, how, rfl⟩ := finish_eq_ok hok
          have hfence : a.claim.fenceToken = fenceOf p.world.db a.claim.runId := by
            rw [fenceOf, hrun]
            exact (fenceToken_of_owns how).symm
          have hclear := h.clear i hi a ha hlive hfence run hrun
          have hnone : run.cancelRequestedAt.isSome = false := by
            rw [VerificationRun.cancels, Bool.or_eq_false_iff] at hclear
            exact hclear.2
          refine ⟨hord, fun j hj => ?_, fun j hj b hb hblive hbcur run' hrun' => ?_,
            fun id run' hrun' hsome => ?_⟩
          · rw [List.length_set]
            exact h.bound j hj
          · -- the attempt that finished is over, and no other one holds its run
            rw [getElem?_set_attempt (w := p.world) ha] at hb
            split at hb
            · cases hb
              cases hblive
            · rename_i hij
              have hne : b.claim.runId ≠ a.claim.runId := by
                intro heq
                have hbfence : b.claim.fenceToken = a.claim.fenceToken := by
                  rw [hbcur, heq, hfences, hfence]
                exact hij (current_attempt_unique h.ordered ha hb heq.symm hbfence.symm)
              rw [Table.get?_set_of_ne _ _ hne] at hrun'
              refine h.clear j hj b hb hblive ?_ run' hrun'
              rw [hbcur, hfences]
          · rw [Table.get?_set] at hrun'
            split at hrun'
            · cases hrun'
              have hsome' : run.cancelRequestedAt.isSome = true := hsome
              rw [hnone] at hsome'
              cases hsome'
            · exact h.requested id run' hrun' hsome
    | _ =>
      simp only [hphase, Action.perform] at hord ⊢
      exact hsame _ hord

/-- A claim moves the fence of its run past every attempt there is. -/
theorem Honoured.claimed {p : Polled} (h : Honoured py p) (owner : String) (m : Moment) (ttl : ℤ)
    (runId : Option String) :
    Honoured py { p with world := exec py validate p.world (.claim owner m ttl runId) } := by
  have hord := ordered_exec validate h.ordered (.claim owner m ttl runId)
  refine h.of_keepsRuns hord (keepsRuns_claim p.world.db owner m ttl runId) ?_ ?_
  · rw [exec, List.length_append]
    exact Nat.le_add_right _ _
  · intro i hi a ha hlive hcur
    rw [exec, List.getElem?_append_left (h.bound i hi)] at ha
    refine ⟨a, ha, hlive, rfl, Nat.le_antisymm ?_ ?_⟩
    · exact h.ordered.bounded a.claim (List.mem_map_of_mem (List.mem_of_getElem? ha))
    · rw [hcur]
      exact Fencing.Protocol.token_le_exec (P := queue py) p.world.db (.claim owner m ttl runId)
        a.claim.runId

theorem Honoured.request {p : Polled} (h : Honoured py p) (runId : String) (startedAt : Moment) :
    Honoured py { p with world := exec py validate p.world (.request runId startedAt) } := by
  have hord := ordered_exec validate h.ordered (.request runId startedAt)
  refine h.of_keepsRuns hord (keepsRuns_requestRun p.world.db runId startedAt) le_rfl ?_
  intro i hi a ha hlive hcur
  refine ⟨a, ha, hlive, rfl, ?_⟩
  rw [hcur]
  exact fenceOf_requestRun runId a.claim.runId startedAt

/-- A timely request sets the row of a run that no attempt is finishing. -/
theorem Honoured.cancel {p : Polled} (h : Honoured py p) {runId : String} (m : Moment)
    (htimely : timely p (.world (.cancel runId m)) = true) :
    Honoured py { p with world := exec py validate p.world (.cancel runId m) } := by
  have hord := ordered_exec validate h.ordered (.cancel runId m)
  have hfences := fun id => fenceOf_cancelRun p.world.db runId id m
  rw [exec] at hord ⊢
  rcases cancelRun_cases p.world.db runId m with ⟨-, heq⟩ | ⟨-, run, hrun, heq⟩
  · rw [heq]
    exact h
  rw [heq] at hord hfences ⊢
  refine ⟨hord, h.bound, fun i hi a ha hlive hcur run' hrun' => ?_, fun id run' hrun' hsome => ?_⟩
  · rw [hfences] at hcur
    have hne : a.claim.runId ≠ runId := by
      intro hid
      have hfinishing : p.finishing runId = true := by
        rw [Polled.finishing, List.any_eq_true]
        exact ⟨i, hi, by simp [ha, hlive, hid, hcur]⟩
      rw [timely, hfinishing] at htimely
      cases htimely
    rw [Table.get?_set_of_ne _ _ hne] at hrun'
    exact h.clear i hi a ha hlive hcur run' hrun'
  · rw [Table.get?_set] at hrun'
    split at hrun'
    · cases hrun'
      have hno : RunStatus.cancelling ∉ completedStatuses := by decide
      exact hno
    · exact h.requested id run' hrun' hsome

/-- **One timely event.** -/
theorem Honoured.step {p : Polled} (h : Honoured py p) {e : PolledEvent} (htimely : timely p e = true) :
    Honoured py (execPolled py validate p e) := by
  cases e with
  | check i m => exact h.check i m
  | world e =>
    cases e with
    | act i action =>
      rw [execPolled]
      split
      · exact h
      · rename_i hready
        cases hcompletes : action.completes with
        | false => exact h.act i hcompletes
        | true =>
          rw [hcompletes] at hready
          cases action with
          | complete m₁ m₂ => exact h.complete (not_not.mp fun hno => hready ⟨rfl, hno⟩)
          | _ => cases hcompletes
    | claim owner m ttl runId => exact h.claimed owner m ttl runId
    | cancel runId m => exact h.cancel m htimely
    | request runId startedAt => exact h.request runId startedAt

theorem honoured_start : Honoured py Polled.start where
  ordered := Fencing.Protocol.ordered_start _
  bound := fun _ hi => absurd hi List.not_mem_nil
  clear := fun _ hi => absurd hi List.not_mem_nil
  requested := fun _ _ hrun => by cases hrun

/-! ### Requests persist -/

/-- The run has a cancel request. -/
def Requested (db : Db) (runId : String) : Prop :=
  ∃ run, db.runs.get? runId = some run ∧ run.cancelRequestedAt.isSome = true

theorem Requested.of_kept {runId : String} (h : Requested db runId) (hkeeps : KeepsRuns db db') :
    Requested db' runId := by
  obtain ⟨run, hrun, hsome⟩ := h
  have hkept := hkeeps runId
  rw [hrun] at hkept
  cases hrun' : db'.runs.get? runId with
  | none =>
    rw [hrun'] at hkept
    exact absurd hkept id
  | some run' =>
    rw [hrun'] at hkept
    exact ⟨run', hrun', hkept.requested ▸ hsome⟩

theorem Requested.finish {runId : String} {status : RunStatus} {code : Option String} {m₁ m₂ : Moment}
    (h : Requested db runId) (hok : finish db claim status code m₁ m₂ = .ok db') :
    Requested db' runId := by
  obtain ⟨run, hrun, hsome⟩ := h
  obtain ⟨-, row, hrow, -, rfl⟩ := finish_eq_ok hok
  by_cases hid : runId = claim.runId
  · subst hid
    rw [hrow] at hrun
    cases hrun
    exact ⟨_, Table.get?_set_self _ _ _, hsome⟩
  · exact ⟨run, (Table.get?_set_of_ne _ _ hid).trans hrun, hsome⟩

theorem Requested.act {w : World} {runId : String} (h : Requested w.db runId) (i : ℕ)
    (action : Action) : Requested (exec py validate w (.act i action)).db runId := by
  rw [exec]
  cases w.attempts[i]? with
  | none => exact h
  | some a =>
    by_cases hlive : a.alive = true
    swap
    · simp only [if_neg hlive]
      exact h
    simp only [if_pos hlive]
    cases hcompletes : action.completes with
    | false => exact h.of_kept (keepsRuns_perform action a.phase hcompletes)
    | true =>
      cases action with
      | complete m₁ m₂ =>
        cases a.phase with
        | processing keys books hasErrors =>
          cases books with
          | cons key todo => exact h
          | nil =>
            simp only [Action.perform]
            cases hok : CertificateA.finish w.db a.claim
                (if hasErrors then .completedWithErrors else .completed) none m₁ m₂ with
            | error e => exact h
            | ok db' => exact h.finish hok
        | _ => exact h
      | _ => cases hcompletes

theorem Requested.cancel {runId : String} (h : Requested db runId) (runId' : String) (m : Moment) :
    Requested (cancelRun db runId' m) runId := by
  rcases cancelRun_cases db runId' m with ⟨-, heq⟩ | ⟨-, row, hrow, heq⟩
  · rwa [heq]
  · obtain ⟨run, hrun, hsome⟩ := h
    rw [heq]
    by_cases hid : runId = runId'
    · subst hid
      exact ⟨_, Table.get?_set_self _ _ _, rfl⟩
    · exact ⟨run, (Table.get?_set_of_ne _ _ hid).trans hrun, hsome⟩

/-- A cancel request is never withdrawn. -/
theorem Requested.step {p : Polled} {runId : String} (h : Requested p.world.db runId)
    (e : PolledEvent) : Requested (execPolled py validate p e).world.db runId := by
  cases e with
  | check i m =>
    rw [execPolled]
    cases p.world.attempts[i]? with
    | none => exact h
    | some a =>
      by_cases hready : (a.alive && a.phase.processed) = true
      · simp only [if_pos hready]
        rcases cancellationRequested p.world.db a.claim m with e | b
        · exact h
        · cases b <;> exact h
      · simp only [if_neg hready]
        exact h
  | world e =>
    cases e with
    | act i action =>
      rw [execPolled]
      split
      · exact h
      · exact h.act i action
    | claim owner m ttl id => exact h.of_kept (keepsRuns_claim p.world.db owner m ttl id)
    | cancel id m => exact h.cancel id m
    | request id startedAt => exact h.of_kept (keepsRuns_requestRun p.world.db id startedAt)

theorem requested_of_accepted {runId : String} (m : Moment) (h : acceptsCancel db runId = true) :
    Requested (cancelRun db runId m) runId := by
  rcases cancelRun_cases db runId m with ⟨hno, -⟩ | ⟨-, run, -, heq⟩
  · rw [h] at hno
    cases hno
  · rw [heq]
    exact ⟨_, Table.get?_set_self _ _ _, rfl⟩

/-- **Cancellation is honoured.** In a run of timely events, once a cancel request for a run has been
accepted the run has neither of the two completed statuses, whatever follows. -/
theorem cancel_honoured (py : Runtime) (validate : Dict → Option EvidencePackageV2)
    (es fs : List PolledEvent) (runId : String) (m : Moment)
    (htimely : Runs.Meets (execPolled py validate) (fun p e => timely p e = true) Polled.start
      (es ++ .world (.cancel runId m) :: fs))
    (haccepted : acceptsCancel (Runs.run (execPolled py validate) Polled.start es).world.db runId
      = true) :
    ∀ run, (Runs.run (execPolled py validate) Polled.start
        (es ++ .world (.cancel runId m) :: fs)).world.db.runs.get? runId = some run →
      run.status ∉ completedStatuses := by
  intro run hrun
  have hinv : Honoured py (Runs.run (execPolled py validate) Polled.start
      (es ++ .world (.cancel runId m) :: fs)) :=
    htimely.invariant (Honoured py) (fun _ _ hok h => h.step hok) honoured_start
  have hreq : Requested (Runs.run (execPolled py validate) Polled.start
      (es ++ .world (.cancel runId m) :: fs)).world.db runId := by
    rw [Runs.run_append, Runs.run_cons]
    exact Runs.invariant (fun p : Polled => Requested p.world.db runId) (fun p e h => h.step e)
      (requested_of_accepted m haccepted) fs
  obtain ⟨run', hrun', hsome⟩ := hreq
  rw [hrun] at hrun'
  cases hrun'
  exact hinv.requested runId run hrun hsome

/-! ### A request that is accepted and not honoured -/

/-- A run over an empty library up to the check of its attempt. -/
def checkedEvents : List PolledEvent :=
  [.world (.request "run" 0), .world (.claim "verifier" 0 120 none),
    .world (.act 0 (.inventory [] [] (seconds 1) (seconds 1))),
    .world (.act 0 (.resume (seconds 2))), .check 0 (seconds 3)]

/-- The request arrives after the check: it is accepted, and the run completes. -/
theorem cancelled_run_completes :
    acceptsCancel (Runs.run (execPolled .ascii fun _ => none) Polled.start checkedEvents).world.db
      "run" = true ∧
    ∃ run, (Runs.run (execPolled .ascii fun _ => none) Polled.start
        (checkedEvents ++ [.world (.cancel "run" (seconds 4)),
          .world (.act 0 (.complete (seconds 5) (seconds 5)))])).world.db.runs.get? "run"
          = some run ∧ run.status = .completed ∧ run.cancelRequestedAt = some (seconds 4) :=
  ⟨by decide, _, rfl, by decide, by decide⟩

/-- A request that arrives before the check is timely, and honoured. -/
theorem cancel_honoured_before_check :
    ∃ run, (Runs.run (execPolled .ascii fun _ => none) Polled.start
        (checkedEvents.take 4 ++ .world (.cancel "run" (seconds 3)) ::
          [.check 0 (seconds 4), .world (.act 0 (.complete (seconds 5) (seconds 5)))])).world.db.runs.get?
          "run" = some run ∧ run.status ∉ completedStatuses :=
  ⟨_, rfl, cancel_honoured .ascii (fun _ => none) (checkedEvents.take 4)
    [.check 0 (seconds 4), .world (.act 0 (.complete (seconds 5) (seconds 5)))] "run" (seconds 3)
    (by decide) (by decide) _ rfl⟩

end CertificateA

end Bookwarden
