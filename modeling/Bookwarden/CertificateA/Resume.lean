import Bookwarden.CertificateA.RunInvariant

/-!
# Resuming and completing a run

All runs together: the current attempt of a run is the one with its fence, no other attempt can
change it, and so each event touches the invariant of one run at most. It survives every event but
one: a claim that takes over from an attempt which has re-recorded the state of a book and not yet
its package.

## Main definitions

* `HasPhase` — the phase of the attempt that holds the current fence
* `Inv` — the invariant of the world

## Main results

* `Action.perform_db`, `ordered_exec` — an action is at most one write of the queue, so the order of
  claims carries over
* `exec_inv` — one event keeps the invariant
* `resume_backed` — resumed keys are backed, and so is every member of a completed run
* `torn_row_resumed` — a broken attempt over a failed package completes the run without a new one
-/

namespace Bookwarden

namespace CertificateA

variable {py : Runtime} {validate : Dict → Option EvidencePackageV2} {db db' : Db}
  {claim : CertificateAClaim}

/-! ### The world -/

/-- The attempt holding the current fence of the run is in this phase. -/
def HasPhase (w : World) (runId : String) (phase : Phase) : Prop :=
  ∃ (i : ℕ) (a : Attempt), w.attempts[i]? = some a ∧ a.claim.runId = runId ∧
    a.claim.fenceToken = fenceOf w.db runId ∧ a.phase = phase

/-- The world as the queue sees it. -/
def World.queueWorld (w : World) : Fencing.Protocol.World Db CertificateAClaim :=
  ⟨w.db, w.attempts.map (·.claim)⟩

variable (py validate) in
/-- The invariant of the world. -/
structure Inv (w : World) : Prop where
  ordered : (queue py).Ordered w.queueWorld
  stored : Stored py validate w.db
  runs : ∀ runId, RunInv py validate w.db runId (HasPhase w runId)

variable (py validate db claim) in
/-- An action changes the database by one write of its claim, or not at all. -/
theorem Action.perform_db (action : Action) (phase : Phase) :
    (action.perform py validate db claim phase).1 = db ∨
      ∃ op : StoreOp, (action.perform py validate db claim phase).1 = op.exec py db claim := by
  have hop : ∀ (op : StoreOp) {db'}, op.apply py db claim = .ok db' → db' = op.exec py db claim := by
    intro op db' h
    rw [StoreOp.exec, h]
  cases action with
  | heartbeat m ttl => exact Or.inr ⟨.heartbeat m ttl, rfl⟩
  | inventory keys snapshot m₁ m₂ =>
    cases phase with
    | claimed =>
      simp only [Action.perform]
      cases hok : CertificateA.inventory db claim keys snapshot m₁ m₂ with
      | error e => exact Or.inl rfl
      | ok db' => exact Or.inr ⟨_, hop (.inventory keys snapshot m₁ m₂) hok⟩
    | _ => exact Or.inl rfl
  | resume m =>
    cases phase with
    | inventoried keys =>
      simp only [Action.perform]
      cases resumableBookKeys py validate db claim m <;> exact Or.inl rfl
    | _ => exact Or.inl rfl
  | emit state m =>
    cases phase with
    | processing keys books hasErrors =>
      cases books with
      | nil => exact Or.inl rfl
      | cons key todo =>
        simp only [Action.perform]
        split
        · exact Or.inl rfl
        · cases hok : recordState db claim key state m with
          | error e => exact Or.inl rfl
          | ok db' => exact Or.inr ⟨_, hop (.recordState key state m) hok⟩
    | _ => exact Or.inl rfl
  | conclude package m =>
    cases phase with
    | processing keys books hasErrors =>
      cases books with
      | nil => exact Or.inl rfl
      | cons key todo =>
        simp only [Action.perform]
        split
        · cases hok : recordState db claim key package.state m with
          | error e =>
            by_cases hfailed : package.state ∈ [.failed, .sourceChanged]
            · exact Or.inl (by simp only [if_pos hfailed])
            · exact Or.inl (by simp only [if_neg hfailed])
          | ok db' => exact Or.inr ⟨_, hop (.recordState key package.state m) hok⟩
        · exact Or.inl rfl
    | _ => exact Or.inl rfl
  | store m₁ m₂ =>
    cases phase with
    | emitted keys todo hasErrors package =>
      simp only [Action.perform]
      cases hok : recordPackage py db claim package m₁ m₂ with
      | error e => exact Or.inl rfl
      | ok db' =>
        refine Or.inr ⟨.recordPackage package m₁ m₂, ?_⟩
        rw [← hop (.recordPackage package m₁ m₂) hok]
        by_cases hsource : package.state = .sourceChanged
        · simp only [if_pos hsource]
        · simp only [if_neg hsource]
    | _ => exact Or.inl rfl
  | complete m₁ m₂ =>
    cases phase with
    | processing keys books hasErrors =>
      cases books with
      | cons key todo => exact Or.inl rfl
      | nil =>
        simp only [Action.perform]
        cases hok : finish db claim (if hasErrors then .completedWithErrors else .completed) none
            m₁ m₂ with
        | error e => exact Or.inl rfl
        | ok db' => exact Or.inr ⟨_, hop (.finish _ none m₁ m₂) hok⟩
    | _ => exact Or.inl rfl
  | abandon status code m₁ m₂ =>
    simp only [Action.perform]
    split
    · cases hok : finish db claim status code m₁ m₂ with
      | error e => exact Or.inl rfl
      | ok db' => exact Or.inr ⟨_, hop (.finish status code m₁ m₂) hok⟩
    · exact Or.inl rfl
  | crash => exact Or.inl rfl

theorem fenceOf_exec (op : StoreOp) (runId : String) :
    fenceOf (op.exec py db claim) runId = fenceOf db runId := by
  rcases op.effect py db claim with heq | heff
  · rw [heq]
  · exact heff.fenceOf_eq runId

theorem fenceOf_perform (action : Action) (phase : Phase) (runId : String) :
    fenceOf (action.perform py validate db claim phase).1 runId = fenceOf db runId := by
  rcases action.perform_db py validate db claim phase with heq | ⟨op, heq⟩
  · rw [heq]
  · rw [heq, fenceOf_exec]

variable (py validate db) in
/-- An action leaves the other runs alone. -/
theorem sameRun_perform (action : Action) (phase : Phase) {runId : String}
    (hne : runId ≠ claim.runId) :
    SameRun runId db (action.perform py validate db claim phase).1 ∧
      PackagesGrow db (action.perform py validate db claim phase).1 := by
  rcases action.perform_db py validate db claim phase with heq | ⟨op, heq⟩
  · rw [heq]
    exact ⟨SameRun.refl runId db, fun _ _ h => h⟩
  · rw [heq]
    rcases op.effect py db claim with hsame | heff
    · rw [hsame]
      exact ⟨SameRun.refl runId db, fun _ _ h => h⟩
    · exact ⟨heff.sameRun hne, heff.packagesGrow⟩

variable (py validate) in
/-- An attempt without the current fence changes nothing. -/
theorem perform_db_of_superseded (action : Action) (phase : Phase)
    (hcur : claim.fenceToken ≠ fenceOf db claim.runId) :
    (action.perform py validate db claim phase).1 = db := by
  rcases action.perform_db py validate db claim phase with heq | ⟨op, heq⟩
  · exact heq
  · rw [heq]
    by_contra hne
    exact hcur ((queue py).fenced db (.write claim op) claim rfl hne)

/-- Two attempts of one run with the current fence are one attempt. -/
theorem current_attempt_unique {w : World} (h : (queue py).Ordered w.queueWorld) {i j : ℕ}
    {a b : Attempt} (ha : w.attempts[i]? = some a) (hb : w.attempts[j]? = some b)
    (hrun : a.claim.runId = b.claim.runId) (hfence : a.claim.fenceToken = b.claim.fenceToken) :
    i = j := by
  have hinc := List.pairwise_iff_getElem.mp h.increasing
  have hlt : ∀ {i j : ℕ} {a b : Attempt}, w.attempts[i]? = some a → w.attempts[j]? = some b →
      a.claim.runId = b.claim.runId → i < j → a.claim.fenceToken < b.claim.fenceToken := by
    intro i j a b ha hb hrun hij
    obtain ⟨hi, rfl⟩ := List.getElem?_eq_some_iff.mp ha
    obtain ⟨hj, rfl⟩ := List.getElem?_eq_some_iff.mp hb
    have := hinc i j (by simpa [World.queueWorld] using hi) (by simpa [World.queueWorld] using hj) hij
    simpa [World.queueWorld, queue] using this (by simpa [World.queueWorld, queue] using hrun)
  rcases Nat.lt_trichotomy i j with hij | hij | hij
  · have := hlt ha hb hrun hij
    omega
  · exact hij
  · have := hlt hb ha hrun.symm hij
    omega

section Act

variable {w : World} {i : ℕ} {a : Attempt} (ha : w.attempts[i]? = some a) (phase' : Phase)
  (alive' : Bool)

include ha

/-- The world after an action that moves the attempt to `phase'`. -/
theorem getElem?_set_attempt (j : ℕ) :
    (w.attempts.set i { a with phase := phase', alive := alive' })[j]?
      = if i = j then some { a with phase := phase', alive := alive' } else w.attempts[j]? := by
  rw [List.getElem?_set]
  split
  · rename_i hij
    subst hij
    rw [if_pos (List.getElem?_eq_some_iff.mp ha).1]
  · rfl

theorem map_claim_set_attempt :
    (w.attempts.set i { a with phase := phase', alive := alive' }).map (·.claim)
      = w.attempts.map (·.claim) := by
  refine List.ext_getElem? fun j => ?_
  rw [List.getElem?_map, List.getElem?_map, getElem?_set_attempt ha]
  split
  · rename_i hij
    subst hij
    rw [ha]
    rfl
  · rfl

/-- An action does not move the phase of a run its attempt does not hold. -/
theorem hasPhase_act_other {runId : String}
    (hother : runId ≠ a.claim.runId ∨ a.claim.fenceToken ≠ fenceOf w.db runId)
    (hfence : fenceOf db' runId = fenceOf w.db runId) (phase : Phase) :
    HasPhase ⟨db', w.attempts.set i { a with phase := phase', alive := alive' }⟩ runId phase ↔
      HasPhase w runId phase := by
  have hne : ∀ b : Attempt, b.claim = a.claim → b.claim.runId = runId →
      b.claim.fenceToken ≠ fenceOf w.db runId := by
    intro b hb hrun
    rcases hother with h | h
    · exact absurd (hb ▸ hrun).symm h
    · exact hb ▸ h
  constructor
  · rintro ⟨j, b, hb, hrun, hcur, hphase⟩
    rw [getElem?_set_attempt ha] at hb
    rw [hfence] at hcur
    split at hb
    · cases hb
      exact absurd hcur (hne _ rfl hrun)
    · exact ⟨j, b, hb, hrun, hcur, hphase⟩
  · rintro ⟨j, b, hb, hrun, hcur, hphase⟩
    refine ⟨j, b, ?_, hrun, hfence ▸ hcur, hphase⟩
    rw [getElem?_set_attempt ha]
    split
    · rename_i hij
      subst hij
      rw [ha] at hb
      cases hb
      exact absurd hcur (hne a rfl hrun)
    · exact hb

theorem hasPhase_current (h : (queue py).Ordered w.queueWorld)
    (hcur : a.claim.fenceToken = fenceOf w.db a.claim.runId) (phase : Phase) :
    HasPhase w a.claim.runId phase ↔ phase = a.phase := by
  constructor
  · rintro ⟨j, b, hb, hrun, hcur', rfl⟩
    have hij := current_attempt_unique h ha hb hrun.symm (hcur.trans hcur'.symm)
    subst hij
    rw [ha] at hb
    cases hb
    rfl
  · rintro rfl
    exact ⟨i, a, ha, rfl, hcur, rfl⟩

theorem hasPhase_act_current (h : (queue py).Ordered w.queueWorld)
    (hcur : a.claim.fenceToken = fenceOf w.db a.claim.runId)
    (hfence : fenceOf db' a.claim.runId = fenceOf w.db a.claim.runId) (phase : Phase) :
    HasPhase ⟨db', w.attempts.set i { a with phase := phase', alive := alive' }⟩ a.claim.runId phase ↔
      phase = phase' := by
  constructor
  · rintro ⟨j, b, hb, hrun, hcur', rfl⟩
    rw [getElem?_set_attempt ha] at hb
    rw [hfence] at hcur'
    split at hb
    · cases hb
      rfl
    · rename_i hij
      exact absurd (current_attempt_unique h ha hb hrun.symm (hcur.trans hcur'.symm)) hij
  · rintro rfl
    refine ⟨i, { a with phase, alive := alive' }, ?_, rfl, hfence ▸ hcur, rfl⟩
    rw [getElem?_set_attempt ha, if_pos rfl]

end Act

/-! ### One event -/

theorem PhaseInv.pendingInv {runId : String} {phase : Phase}
    (h : PhaseInv py validate db runId phase) {package : EvidencePackageV2}
    (hp : phase.pending = some package) : PendingInv validate db runId package := by
  cases phase with
  | emitted keys todo hasErrors package' =>
    cases hp
    exact h.2.2.1
  | raised package' =>
    cases hp
    exact h
  | _ => cases hp

theorem RunInv.congr {runId : String} {has has' : Phase → Prop}
    (h : RunInv py validate db runId has) (hiff : ∀ phase, has' phase ↔ has phase) :
    RunInv py validate db runId has' := by
  have heq : has' = has := funext fun phase => propext (hiff phase)
  rw [heq]
  exact h

theorem inv_start : Inv py validate World.start where
  ordered := Fencing.Protocol.ordered_start _
  stored id row hrow := by cases hrow
  runs runId := by
    refine ⟨fun key row id hrow _ => ?_, ?_, fun run hrun _ => ?_⟩
    · cases hrow
    · rintro phase ⟨i, a, ha, -⟩
      cases ha
    · cases hrun

variable (validate) in
theorem ordered_exec {w : World} (h : (queue py).Ordered w.queueWorld) (e : WorldEvent) :
    (queue py).Ordered (exec py validate w e).queueWorld := by
  cases e with
  | claim owner moment ttl runId =>
    have hstep := Fencing.Protocol.ordered_exec h (Event.claim owner moment ttl runId)
    have heq : (exec py validate w (.claim owner moment ttl runId)).queueWorld
        = ⟨(claimAnswer w.db owner moment ttl runId).1,
          w.queueWorld.issued ++ (claimAnswer w.db owner moment ttl runId).2.toList⟩ := by
      rw [exec, World.queueWorld, List.map_append, List.map_map]
      congr 2
      exact List.map_id _
    rw [heq]
    exact hstep
  | act i action =>
    rw [exec]
    cases ha : w.attempts[i]? with
    | none => exact h
    | some a =>
      show (queue py).Ordered (if a.alive = true then _ else w).queueWorld
      split
      · rw [World.queueWorld, map_claim_set_attempt ha]
        refine ⟨fun c hc => ?_, h.increasing⟩
        have hbound := h.bounded c hc
        exact hbound.trans_eq (fenceOf_perform action a.phase c.runId).symm
      · exact h
  | cancel runId moment =>
    refine ⟨fun c hc => ?_, h.increasing⟩
    exact (h.bounded c hc).trans_eq (fenceOf_cancelRun _ runId c.runId moment).symm
  | request runId startedAt =>
    refine ⟨fun c hc => ?_, h.increasing⟩
    exact (h.bounded c hc).trans_eq (fenceOf_requestRun runId c.runId startedAt).symm

/-- What the web process changes: no results, no packages, and it completes no run. -/
theorem cancelRun_spec (db : Db) (runId : String) (moment : Moment) :
    (cancelRun db runId moment).results = db.results ∧
      (cancelRun db runId moment).packages = db.packages ∧
      ∀ id run, (cancelRun db runId moment).runs.get? id = some run → run.status = .completed →
        db.runs.get? id = some run := by
  rw [cancelRun]
  cases hrun : db.runs.get? runId with
  | none => exact ⟨rfl, rfl, fun _ _ h _ => h⟩
  | some row =>
    by_cases hcond : row.contractVersion = some contractVersion
        ∧ row.pipelineVersion = "manifestation-v2" ∧ row.finishedAt = none
        ∧ row.status ∈ claimableStatuses
    · simp only [if_pos hcond]
      refine ⟨trivial, trivial, fun id run h hcompleted => ?_⟩
      rw [Table.get?_set] at h
      split at h
      · cases h
        cases hcompleted
      · exact h
    · simp only [if_neg hcond]
      exact ⟨trivial, trivial, fun _ _ h _ => h⟩

theorem requestRun_spec (db : Db) (runId : String) (startedAt : Moment) :
    (requestRun db runId startedAt).results = db.results ∧
      (requestRun db runId startedAt).packages = db.packages ∧
      ∀ id run, (requestRun db runId startedAt).runs.get? id = some run →
        run.status = .completed → db.runs.get? id = some run := by
  rw [requestRun]
  cases hrun : db.runs.get? runId with
  | some row => exact ⟨rfl, rfl, fun _ _ h _ => h⟩
  | none =>
    refine ⟨rfl, rfl, fun id run h hcompleted => ?_⟩
    rw [Table.get?_set] at h
    split at h
    · cases h
      cases hcompleted
    · exact h

/-- A change of runs only, under which no fence moves and no run completes. -/
theorem Inv.of_runs {w : World} (h : Inv py validate w)
    (hord : (queue py).Ordered (⟨db', w.attempts⟩ : World).queueWorld)
    (hfence : ∀ runId, fenceOf db' runId = fenceOf w.db runId)
    (hspec : db'.results = w.db.results ∧ db'.packages = w.db.packages ∧
      ∀ id run, db'.runs.get? id = some run → run.status = .completed →
        w.db.runs.get? id = some run) : Inv py validate ⟨db', w.attempts⟩ where
  ordered := hord
  stored id row hrow := h.stored id row (hspec.2.1 ▸ hrow)
  runs runId := by
    have hiff : ∀ phase, HasPhase ⟨db', w.attempts⟩ runId phase ↔ HasPhase w runId phase := by
      intro phase
      simp only [HasPhase, hfence runId]
    refine RunInv.congr ?_ hiff
    exact (h.runs runId).transport (fun key => by rw [hspec.1]) (packagesGrow_of_eq hspec.2.1)
      fun run => hspec.2.2 runId run

/-- A claim that breaks no attempt keeps the invariant of the run it takes over. -/
theorem runInv_claim {w : World} (h : Inv py validate w) {id owner : String}
    {run run' : VerificationRun} {moment : Moment} (hget : w.db.runs.get? id = some run)
    (hpred : claimPredicate moment run = true)
    (hstatus : run'.status = .inventorying ∨ run'.status = run.status)
    (hunbroken : w.attempts.any (·.brokenBy w.db ⟨id, owner, run.fenceToken + 1⟩) = false) :
    RunInv py validate { w.db with runs := w.db.runs.set id run' } id (· = .claimed) := by
  have hfence : fenceOf w.db id = run.fenceToken := by rw [fenceOf, hget]; rfl
  refine ⟨fun key row evidence hrow hid => ?_, ?_, fun row hrow hcompleted => ?_⟩
  · obtain ⟨package, hpackage, hor⟩ := (h.runs id).rows key row evidence hrow hid
    refine ⟨package, sealedPackage_mono (packagesGrow_of_eq rfl) hpackage, fun hres => Or.inl ?_⟩
    rcases hor hres with heq | ⟨phase, pending, hphase, hp, hkey⟩
    · exact heq
    · -- the row in hand has an evidence id, which the condition excludes
      exfalso
      obtain ⟨row', hrow', hstate⟩ := (((h.runs id).phases phase hphase).pendingInv hp).row
      rw [hkey, hrow] at hrow'
      cases hrow'
      obtain ⟨i, a, ha, hrun, hcur, hphase'⟩ := hphase
      have hbroken := List.any_eq_false.mp hunbroken a (List.mem_of_getElem? ha)
      refine hbroken ?_
      have hevidence : evidenceOf w.db id pending.bookKey = some evidence := by
        rw [evidenceOf, hkey, hrow]
        exact hid
      have hres' : pending.state ∈ resumableStates := hstate ▸ hres
      simp [Attempt.brokenBy, hrun, hcur, hfence, hphase', hp, hevidence, hres']
  · rintro phase rfl
    trivial
  · rw [Table.get?_set_self] at hrow
    cases hrow
    simp only [claimPredicate, Bool.and_eq_true, decide_eq_true_eq] at hpred
    rcases hstatus with hs | hs
    · rw [hs] at hcompleted
      cases hcompleted
    · rw [hcompleted] at hs
      rw [← hs] at hpred
      exact absurd hpred.1.2 (by decide)

/-- After a claim of the run, its attempt is at the start. -/
theorem hasPhase_claim {w : World} (h : (queue py).Ordered w.queueWorld) {claim : CertificateAClaim}
    (hold : fenceOf w.db claim.runId < claim.fenceToken)
    (hnew : fenceOf db' claim.runId = claim.fenceToken) (phase : Phase) :
    HasPhase ⟨db', w.attempts ++ [{ claim := claim }]⟩ claim.runId phase ↔ phase = .claimed := by
  constructor
  · rintro ⟨j, b, hb, hrun, hcur, rfl⟩
    rw [List.getElem?_append] at hb
    split at hb
    · have hmem : b.claim ∈ w.queueWorld.issued :=
        List.mem_map_of_mem (List.mem_of_getElem? hb)
      have hle : b.claim.fenceToken ≤ fenceOf w.db b.claim.runId := h.bounded b.claim hmem
      rw [hrun] at hle
      rw [hnew] at hcur
      omega
    · have hmem : b ∈ [({ claim := claim } : Attempt)] := List.mem_of_getElem? hb
      rw [List.mem_singleton.mp hmem]
  · rintro rfl
    refine ⟨w.attempts.length, { claim := claim }, ?_, rfl, hnew.symm, rfl⟩
    rw [List.getElem?_append_right (Nat.le_refl _), Nat.sub_self]
    rfl

/-- A claim of another run does not move the phase of this one. -/
theorem hasPhase_claim_other {w : World} {claim : CertificateAClaim} {runId : String}
    (hne : runId ≠ claim.runId) (hfence : fenceOf db' runId = fenceOf w.db runId) (phase : Phase) :
    HasPhase ⟨db', w.attempts ++ [{ claim := claim }]⟩ runId phase ↔ HasPhase w runId phase := by
  constructor
  · rintro ⟨j, b, hb, hrun, hcur, hphase⟩
    rw [List.getElem?_append] at hb
    split at hb
    · exact ⟨j, b, hb, hrun, hfence ▸ hcur, hphase⟩
    · have hmem : b ∈ [({ claim := claim } : Attempt)] := List.mem_of_getElem? hb
      rw [List.mem_singleton.mp hmem] at hrun
      exact absurd hrun.symm hne
  · rintro ⟨j, b, hb, hrun, hcur, hphase⟩
    refine ⟨j, b, ?_, hrun, hfence.symm ▸ hcur, hphase⟩
    rw [List.getElem?_append_left (List.getElem?_eq_some_iff.mp hb).1]
    exact hb

/-- The package whose state an event records. -/
def WorldEvent.concluded : WorldEvent → Option EvidencePackageV2
  | .act _ (.conclude package _) => some package
  | _ => none

/-- **One event.** An event that breaks no attempt keeps the invariant. -/
theorem exec_inv {w : World} {e : WorldEvent} (h : Inv py validate w) (hunbroken : unbroken w e = true)
    (hread : ∀ package, e.concluded = some package → validate package.dump = some package) :
    Inv py validate (exec py validate w e) := by
  have hordered := ordered_exec validate h.ordered e
  cases e with
  | claim owner moment ttl target =>
    rcases claimAnswer_cases w.db owner moment ttl target with
      heq | ⟨id, run, run', hget, hpred, hf, hstatus, heq⟩
    · rw [exec, heq] at hordered ⊢
      simpa using h
    · rw [exec, heq] at hordered ⊢
      rw [unbroken, heq, Bool.not_eq_true'] at hunbroken
      have hfence : fenceOf w.db id = run.fenceToken := by rw [fenceOf, hget]; rfl
      refine ⟨hordered, h.stored, fun runId => ?_⟩
      by_cases hrun : runId = id
      · subst hrun
        refine (runInv_claim h hget hpred hstatus hunbroken).congr fun phase => ?_
        refine hasPhase_claim h.ordered ?_ ?_ phase
        · show fenceOf w.db runId < run.fenceToken + 1
          omega
        · show fenceOf _ runId = run.fenceToken + 1
          rw [fenceOf_set, if_pos rfl, hf]
      · have hsame : fenceOf { w.db with runs := w.db.runs.set id run' } runId
            = fenceOf w.db runId := by
          rw [fenceOf_set, if_neg hrun]
        refine RunInv.congr ?_ (hasPhase_claim_other hrun hsame)
        refine (h.runs runId).transport (fun _ => rfl) (packagesGrow_of_eq rfl)
          fun row hrow _ => ?_
        rw [Table.get?_set_of_ne _ _ hrun] at hrow
        exact hrow
  | act i action =>
    rw [exec] at hordered ⊢
    cases ha : w.attempts[i]? with
    | none => exact h
    | some a =>
      rw [ha] at hordered
      by_cases halive : a.alive = true
      · simp only [if_pos halive] at hordered ⊢
        have hpkg : ∀ package m, action = .conclude package m →
            validate package.dump = some package := by
          rintro package m rfl
          exact hread package rfl
        have hself := hasPhase_current ha h.ordered
        by_cases hcur : a.claim.fenceToken = fenceOf w.db a.claim.runId
        · obtain ⟨hstored, hinv⟩ := perform_runInv h.stored hpkg
            ((h.runs a.claim.runId).congr fun phase => (hself hcur phase).symm)
          refine ⟨hordered, hstored, fun runId => ?_⟩
          by_cases hrun : runId = a.claim.runId
          · subst hrun
            exact hinv.congr (hasPhase_act_current ha _ _ h.ordered hcur (fenceOf_perform _ _ _))
          · obtain ⟨hsame, hgrow⟩ := sameRun_perform py validate w.db action a.phase hrun
            refine RunInv.congr ?_ (hasPhase_act_other ha _ _ (Or.inl hrun) (fenceOf_perform _ _ _))
            exact (h.runs runId).transport hsame.results hgrow
              fun row hrow _ => hsame.run ▸ hrow
        · have hdb := perform_db_of_superseded py validate action a.phase hcur
          rw [hdb] at hordered ⊢
          refine ⟨hordered, h.stored, fun runId => (h.runs runId).congr ?_⟩
          refine hasPhase_act_other ha _ _ ?_ rfl
          by_cases hrun : runId = a.claim.runId
          · exact Or.inr (hrun ▸ hcur)
          · exact Or.inl hrun
      · simp only [if_neg halive]
        exact h
  | cancel runId moment =>
    exact h.of_runs hordered (fun id => fenceOf_cancelRun _ runId id moment)
      (cancelRun_spec w.db runId moment)
  | request runId startedAt =>
    exact h.of_runs hordered (fun id => fenceOf_requestRun runId id startedAt)
      (requestRun_spec w.db runId startedAt)

/-! ### Resuming and completing -/

variable (py validate) in
/-- The world after a list of events. -/
def runWorld (es : List WorldEvent) : World := Runs.run (exec py validate) World.start es

theorem runWorld_concat (es : List WorldEvent) (e : WorldEvent) :
    runWorld py validate (es ++ [e]) = exec py validate (runWorld py validate es) e :=
  Runs.run_append _ _ es [e]

/-- **Resume and completion.** In a run that breaks no attempt, every key an attempt with no package
in hand can resume is backed, and so is every member of a completed run. -/
theorem resume_backed (py : Runtime) (validate : Dict → Option EvidencePackageV2)
    (es : List WorldEvent)
    (hread : ∀ e ∈ es, ∀ package, e.concluded = some package → validate package.dump = some package)
    (hunbroken : Runs.Meets (exec py validate) (fun w e => unbroken w e = true) World.start es) :
    (∀ (i : ℕ) (a : Attempt) m keys, (runWorld py validate es).attempts[i]? = some a → a.phase.pending = none →
      resumableBookKeys py validate (runWorld py validate es).db a.claim m = .ok keys →
      ∀ key ∈ keys, Backed py validate (runWorld py validate es).db a.claim.runId key) ∧
    (∀ runId run, (runWorld py validate es).db.runs.get? runId = some run →
      run.status = .completed →
      ∀ key row, (runWorld py validate es).db.results.get? (runId, key) = some row →
        Backed py validate (runWorld py validate es).db runId key) := by
  have hinv : Inv py validate (runWorld py validate es) :=
    (hunbroken.and_of_forall hread).invariant (Inv py validate)
      (fun _ _ hok h => exec_inv h hok.1 hok.2) inv_start
  refine ⟨fun i a m keys ha hpending hok key hkey => ?_, fun runId run hrun hcompleted => ?_⟩
  · obtain ⟨row, id, package, hrow, hid, hstate, -⟩ := mem_resumableBookKeys hok hkey
    have hcur : a.claim.fenceToken = fenceOf (runWorld py validate es).db a.claim.runId := by
      rw [resumableBookKeys] at hok
      cases hactive : activeRun (runWorld py validate es).db a.claim m with
      | error e => simp [hactive] at hok
      | ok run => exact stamp_current_of_mayWrite ⟨m, run, (activeRun_eq_ok_iff.mp hactive).1⟩
    have hrunInv := (hinv.runs a.claim.runId).congr fun phase =>
      (hasPhase_current ha hinv.ordered hcur phase).symm
    exact hrunInv.backed_of_row hpending hrow hid hstate
  · exact ((hinv.runs runId).completed run hrun hcompleted).2

/-- The snapshot of the example book. -/
def exampleSnapshot : BookSnapshot :=
  let snapshot : BookSnapshot := {
    bookKey := "calibre-offline:f:1"
    calibreBookId := 1
    currentMetadata := []
    files := []
    source := some ⟨.offlineCalibreSnapshot, "f"⟩
    sourceRevisionSha256 := some "r"
    snapshotSha256 := "" }
  { snapshot with snapshotSha256 := snapshot.calculatedSha256 .ascii }

/-- A package of the example book. -/
def examplePackage (id : String) (state : BookAuditState) (tier : IdentityTier) : EvidencePackageV2 :=
  let package : EvidencePackageV2 := {
    evidenceId := id
    runId := "run"
    bookKey := "calibre-offline:f:1"
    createdAt := "2026"
    state
    snapshot := exampleSnapshot
    identity := { tier } }
  { package with packageSha256 := some (package.sealValue .ascii) }

/-- Reading back the two packages of the example. -/
def exampleValidate (observations : Dict) : Option EvidencePackageV2 :=
  [examplePackage "e1" .failed .tierC, examplePackage "e2" .review .tierB].find? fun package =>
    Assoc.get? "evidence_id" observations = some (.str package.evidenceId)

theorem exampleValidate_failed : exampleValidate (examplePackage "e1" .failed .tierC).dump
    = some (examplePackage "e1" .failed .tierC) := rfl

theorem exampleValidate_review : exampleValidate (examplePackage "e2" .review .tierB).dump
    = some (examplePackage "e2" .review .tierB) := rfl

/-- An attempt that takes the run at a minute, freezes the inventory and resumes. -/
def startAttempt (i : ℕ) (minute : ℤ) : List WorldEvent :=
  [.claim "verifier" (seconds (60 * minute)) 120 none,
    .act i (.inventory ["calibre-offline:f:1"] [] (seconds (60 * minute + 1)) 0),
    .act i (.resume (seconds (60 * minute + 2)))]

/-- The run is requested, and a first attempt records the state of this package. -/
def firstEvents (package : EvidencePackageV2) : List WorldEvent :=
  [.request "run" 0] ++ startAttempt 0 0 ++ [.act 0 (.conclude package (seconds 3))]

/-- A second attempt takes over from the first one and records the state of a review. -/
def secondEvents : List WorldEvent :=
  [.act 0 .crash] ++ startAttempt 1 10
    ++ [.act 1 (.conclude (examplePackage "e2" .review .tierB) (seconds 603))]

/-- A first attempt records a failed package and dies; a second one records the state of a review
and dies; a third one starts. -/
def tornEvents : List WorldEvent :=
  firstEvents (examplePackage "e1" .failed .tierC) ++ [.act 0 (.store (seconds 4) (seconds 4))]
    ++ secondEvents ++ [.act 1 .crash] ++ startAttempt 2 20

/-- A first attempt records a review with its package and dies; a second one resumes. -/
def wholeEvents : List WorldEvent :=
  firstEvents (examplePackage "e2" .review .tierB) ++ [.act 0 (.store (seconds 4) (seconds 4))]
    ++ (.act 0 .crash :: startAttempt 1 10)

theorem verifySeal_examplePackage (id : String) (state : BookAuditState) {tier : IdentityTier}
    (htier : tier ≠ .tierA) : (examplePackage id state tier).verifySeal .ascii = true := by
  have hinv : (examplePackage id state tier).verifyInvariants .ascii = true := by
    have hhash : exampleSnapshot.verifyHash .ascii = true := decide_eq_true rfl
    have hkey : exampleSnapshot.expectedBookKey = "calibre-offline:f:1" := by decide
    have hfiles : exampleSnapshot.filesValid .ascii = true := by
      simp [BookSnapshot.filesValid, exampleSnapshot]
    have hsnapshot : (examplePackage id state tier).snapshot = exampleSnapshot := rfl
    have htier' : (examplePackage id state tier).identity.tier = tier := rfl
    rw [EvidencePackageV2.verifyInvariants, hsnapshot, hhash, hkey, hfiles, htier']
    simp [htier, examplePackage, exampleSnapshot]
  rw [EvidencePackageV2.verifySeal, hinv, Bool.true_and]
  exact decide_eq_true rfl

/-- The run of the example after the inventory of the first attempt. -/
def exampleRun : VerificationRun where
  status := .running
  startedAt := 0
  total := 1
  pipelineVersion := "manifestation-v2"
  mode := "shadow"
  contractVersion := some contractVersion
  sourceSnapshot := some []
  leaseOwner := some "verifier"
  leaseExpiresAt := some (seconds 120)
  fenceToken := 1
  claimedAt := some 0
  heartbeatAt := some 0
  inventoryFinishedAt := some 0

/-- The database of the example once the first package is recorded. -/
def recordedDb (package : EvidencePackageV2) : Db :=
  let first := (runWorld .ascii exampleValidate (firstEvents package)).db
  let written := writePackage .ascii first { state := package.state } package
  { written with runs := first.runs.set "run" (refreshCounts written "run" exampleRun) }

/-- Recording a package with a valid seal. -/
theorem recordPackage_of_verifySeal {package : EvidencePackageV2} {m₁ m₂ : Moment}
    {run : VerificationRun} {result : VerificationResult} (hrun : package.runId = claim.runId)
    (hseal : package.verifySeal py = true) (h₁ : ownedRun db claim m₁ = .ok run)
    (hresult : resultRow db claim.runId package.bookKey = .ok result)
    (hdiffers : differs (db.packages.get? package.evidenceId) package = false)
    (h₂ : ownedRun (writePackage py db result package) claim m₂ = .ok run) :
    recordPackage py db claim package m₁ m₂ = .ok { writePackage py db result package with
      runs := db.runs.set claim.runId
        (refreshCounts (writePackage py db result package) claim.runId run) } := by
  rw [recordPackage, if_neg (by simp [hrun, hseal])]
  simp only [h₁, hresult, hdiffers, h₂]
  rfl

theorem exec_store {w : World} {i : ℕ} {a : Attempt} {keys todo : List String} {hasErrors : Bool}
    {package : EvidencePackageV2} {m₁ m₂ : Moment} {db : Db} (ha : w.attempts[i]? = some a)
    (halive : a.alive = true) (hphase : a.phase = .emitted keys todo hasErrors package)
    (hdb : recordPackage py w.db a.claim package m₁ m₂ = .ok db)
    (hstate : package.state ≠ .sourceChanged) :
    exec py validate w (.act i (.store m₁ m₂))
      = ⟨db, w.attempts.set i { a with phase := .processing keys todo hasErrors }⟩ := by
  simp only [exec, ha, halive, if_true, Action.perform, hphase, hdb, if_neg hstate]

theorem exec_resume {w : World} {i : ℕ} {a : Attempt} {keys skip : List String} {m : Moment}
    (ha : w.attempts[i]? = some a) (halive : a.alive = true) (hphase : a.phase = .inventoried keys)
    (hskip : resumableBookKeys py validate w.db a.claim m = .ok skip) :
    exec py validate w (.act i (.resume m)) = ⟨w.db, w.attempts.set i
      { a with phase := .processing keys (keys.filter fun key => key ∉ skip) false }⟩ := by
  simp only [exec, ha, halive, if_true, Action.perform, hphase, hskip]

theorem exec_complete {w : World} {i : ℕ} {a : Attempt} {keys : List String} {hasErrors : Bool}
    {m₁ m₂ : Moment} {db : Db} (ha : w.attempts[i]? = some a) (halive : a.alive = true)
    (hphase : a.phase = .processing keys [] hasErrors)
    (hdb : finish w.db a.claim (if hasErrors then .completedWithErrors else .completed) none m₁ m₂
      = .ok db) :
    exec py validate w (.act i (.complete m₁ m₂))
      = ⟨db, w.attempts.set i { a with alive := false }⟩ := by
  simp only [exec, ha, halive, if_true, Action.perform, hphase, hdb]

/-- The example once the first package is recorded. -/
theorem run_firstEvents_store (id : String) {state : BookAuditState} {tier : IdentityTier}
    (hstate : state = .failed ∨ state = .review) (htier : tier ≠ .tierA) :
    runWorld .ascii exampleValidate
        (firstEvents (examplePackage id state tier) ++ [.act 0 (.store (seconds 4) (seconds 4))])
      = ⟨recordedDb (examplePackage id state tier), [{
          claim := ⟨"run", "verifier", 1⟩
          phase := .processing ["calibre-offline:f:1"] [] (decide (state = .failed)) }]⟩ := by
  have hseal := verifySeal_examplePackage id state htier
  rw [runWorld, Runs.run_append, Runs.run_cons, Runs.run_nil]
  have hattempts : (Runs.run (exec .ascii exampleValidate) World.start
      (firstEvents (examplePackage id state tier))).attempts = [{
        claim := ⟨"run", "verifier", 1⟩
        phase := .emitted ["calibre-offline:f:1"] [] (decide (state = .failed))
          (examplePackage id state tier) }] := by
    rcases hstate with rfl | rfl <;> rfl
  have hdb : recordPackage .ascii (Runs.run (exec .ascii exampleValidate) World.start
      (firstEvents (examplePackage id state tier))).db ⟨"run", "verifier", 1⟩
      (examplePackage id state tier) (seconds 4) (seconds 4)
        = .ok (recordedDb (examplePackage id state tier)) := by
    rcases hstate with rfl | rfl <;>
      exact recordPackage_of_verifySeal rfl hseal rfl rfl rfl rfl
  have hne : (examplePackage id state tier).state ≠ .sourceChanged := by
    show state ≠ .sourceChanged
    rcases hstate with rfl | rfl <;> decide
  have hattempt : (Runs.run (exec .ascii exampleValidate) World.start
      (firstEvents (examplePackage id state tier))).attempts[0]? = some {
        claim := ⟨"run", "verifier", 1⟩
        phase := .emitted ["calibre-offline:f:1"] [] (decide (state = .failed))
          (examplePackage id state tier) } := by
    rw [hattempts]
    rfl
  rw [exec_store hattempt rfl rfl hdb hne, hattempts]
  rfl

/-- Resuming a run of one book with a backed row. -/
theorem resumableBookKeys_of_row {m : Moment} {run : VerificationRun} {key id : String}
    {row : VerificationResult} {package : EvidencePackageV2}
    (hactive : activeRun db claim m = .ok run) (hrows : runResults db claim.runId = [(key, row)])
    (hid : row.evidenceId = some id) (hne : id ≠ "") (hstate : row.state ∈ resumableStates)
    (hpackage : sealedPackage py validate db claim.runId key id = some package) :
    resumableBookKeys py validate db claim m = .ok [key] := by
  simp [resumableBookKeys, hactive, hrows, hid, hne, hstate, hpackage]

/-- The torn example before its third attempt resumes. -/
def tornWorld : World := Runs.run (exec .ascii exampleValidate)
  ⟨recordedDb (examplePackage "e1" .failed .tierC), [{
    claim := ⟨"run", "verifier", 1⟩
    phase := .processing ["calibre-offline:f:1"] [] true }]⟩
  (secondEvents ++ [.act 1 .crash] ++ (startAttempt 2 20).take 2)

theorem runWorld_tornEvents : runWorld .ascii exampleValidate tornEvents
    = exec .ascii exampleValidate tornWorld (.act 2 (.resume (seconds 1202))) := by
  have hfirst : runWorld .ascii exampleValidate _ = _ :=
    run_firstEvents_store "e1" (.inl rfl) (show IdentityTier.tierC ≠ .tierA by decide)
  rw [runWorld] at hfirst
  rw [runWorld, tornEvents, List.append_assoc, List.append_assoc, Runs.run_append, hfirst]
  rfl

theorem activeRun_tornWorld : activeRun tornWorld.db ⟨"run", "verifier", 3⟩ (seconds 1202)
    = .ok { exampleRun with
        completed := 1
        counts := [(.failed, 1)]
        leaseExpiresAt := some (seconds 1320)
        fenceToken := 3
        claimedAt := some (seconds 1200)
        heartbeatAt := some (seconds 1200) } := rfl

/-- The row says review, the package it points to says failed. -/
def tornRow : VerificationResult where
  verdict := packageVerdict (examplePackage "e1" .failed .tierC)
  evidenceId := some "e1"
  state := .review

theorem runResults_tornWorld :
    runResults tornWorld.db "run" = [("calibre-offline:f:1", tornRow)] := rfl

theorem attempts_tornWorld : tornWorld.attempts[2]? = some {
    claim := ⟨"run", "verifier", 3⟩
    phase := .inventoried ["calibre-offline:f:1"] } := rfl

/-- In a database with these rows the package that is found is the failed one. -/
theorem sealedPackage_tornRow {db : Db}
    (h : db.packages.get? "e1" = some (packageRow (examplePackage "e1" .failed .tierC))) :
    sealedPackage .ascii exampleValidate db "run" "calibre-offline:f:1" "e1"
      = some (examplePackage "e1" .failed .tierC) :=
  sealedPackage_of_row h rfl rfl (verifySeal_examplePackage _ _ (by decide)) rfl rfl

theorem not_backed_tornRow {db : Db} (hresults : runResults db "run" = runResults tornWorld.db "run")
    (hpackages : db.packages.get? "e1" = tornWorld.db.packages.get? "e1") :
    ¬ Backed .ascii exampleValidate db "run" "calibre-offline:f:1" := by
  rintro ⟨row, id, package, hrow, hid, -, hpackage, heq⟩
  have hmem := mem_runResults.mpr hrow
  rw [hresults, runResults_tornWorld, List.mem_singleton, Prod.mk.injEq] at hmem
  obtain ⟨-, rfl⟩ := hmem
  obtain rfl : "e1" = id := Option.some.inj hid
  rw [sealedPackage_tornRow (hpackages.trans rfl)] at hpackage
  cases hpackage
  exact absurd heq (by decide : BookAuditState.failed ≠ .review)

theorem resumableBookKeys_tornWorld :
    resumableBookKeys .ascii exampleValidate tornWorld.db ⟨"run", "verifier", 3⟩ (seconds 1202)
      = .ok ["calibre-offline:f:1"] :=
  resumableBookKeys_of_row activeRun_tornWorld runResults_tornWorld rfl (by decide) (by decide)
    (sealedPackage_tornRow rfl)

theorem finish_tornWorld : ∃ run, finish tornWorld.db ⟨"run", "verifier", 3⟩ .completed none
      (seconds 1203) (seconds 1203)
    = .ok { tornWorld.db with runs := tornWorld.db.runs.set "run" run } ∧
      run.status = .completed := ⟨_, rfl, rfl⟩

/-- **The torn row.** The third attempt resumes the book as settled, and the run completes with no
package of the review: the only stored one is the failed package of the first attempt. -/
theorem torn_row_resumed :
    (∀ e ∈ tornEvents, ∀ package, e.concluded = some package →
      exampleValidate package.dump = some package) ∧
    (∃ a, (runWorld .ascii exampleValidate tornEvents).attempts[2]? = some a ∧
      a.phase.pending = none ∧
      resumableBookKeys .ascii exampleValidate (runWorld .ascii exampleValidate tornEvents).db
        a.claim (seconds 1202) = .ok ["calibre-offline:f:1"]) ∧
    ¬ Backed .ascii exampleValidate (runWorld .ascii exampleValidate tornEvents).db
      "run" "calibre-offline:f:1" ∧
    ∃ run row, (runWorld .ascii exampleValidate
        (tornEvents ++ [.act 2 (.complete (seconds 1203) (seconds 1203))])).db.runs.get? "run"
          = some run ∧ run.status = .completed ∧
      (runWorld .ascii exampleValidate
        (tornEvents ++ [.act 2 (.complete (seconds 1203) (seconds 1203))])).db.results.get?
          ("run", "calibre-offline:f:1") = some row ∧
      ¬ Backed .ascii exampleValidate (runWorld .ascii exampleValidate
        (tornEvents ++ [.act 2 (.complete (seconds 1203) (seconds 1203))])).db
          "run" "calibre-offline:f:1" := by
  obtain ⟨run, hfinish, hstatus⟩ := finish_tornWorld
  have hlt : 2 < tornWorld.attempts.length := (List.getElem?_eq_some_iff.mp attempts_tornWorld).1
  rw [runWorld_concat, runWorld_tornEvents,
    exec_resume attempts_tornWorld rfl rfl resumableBookKeys_tornWorld,
    exec_complete (List.getElem?_set_self hlt) rfl rfl hfinish]
  refine ⟨?_, ⟨_, List.getElem?_set_self hlt, rfl, resumableBookKeys_tornWorld⟩,
    not_backed_tornRow rfl rfl, run, tornRow, Table.get?_set_self _ _ _, hstatus,
    mem_runResults.mp ?_, not_backed_tornRow rfl rfl⟩
  · simp [tornEvents, firstEvents, secondEvents, startAttempt, WorldEvent.concluded,
      exampleValidate_failed, exampleValidate_review]
  · show _ ∈ runResults tornWorld.db "run"
    rw [runResults_tornWorld]
    exact List.mem_singleton_self _

/-- The whole example before its second attempt resumes. -/
def wholeWorld : World := Runs.run (exec .ascii exampleValidate)
  ⟨recordedDb (examplePackage "e2" .review .tierB), [{
    claim := ⟨"run", "verifier", 1⟩
    phase := .processing ["calibre-offline:f:1"] [] false }]⟩
  (.act 0 .crash :: (startAttempt 1 10).take 2)

theorem runWorld_wholeEvents : runWorld .ascii exampleValidate wholeEvents
    = exec .ascii exampleValidate wholeWorld (.act 1 (.resume (seconds 602))) := by
  have hfirst : runWorld .ascii exampleValidate _ = _ :=
    run_firstEvents_store "e2" (.inr rfl) (show IdentityTier.tierB ≠ .tierA by decide)
  rw [runWorld] at hfirst
  rw [runWorld, wholeEvents, Runs.run_append, hfirst]
  rfl

theorem attempts_wholeWorld : wholeWorld.attempts[1]? = some {
    claim := ⟨"run", "verifier", 2⟩
    phase := .inventoried ["calibre-offline:f:1"] } := rfl

theorem resumableBookKeys_wholeWorld :
    resumableBookKeys .ascii exampleValidate wholeWorld.db ⟨"run", "verifier", 2⟩ (seconds 602)
      = .ok ["calibre-offline:f:1"] := by
  have hactive : activeRun wholeWorld.db ⟨"run", "verifier", 2⟩ (seconds 602) = .ok { exampleRun with
      completed := 1
      counts := [(.review, 1)]
      leaseExpiresAt := some (seconds 720)
      fenceToken := 2
      claimedAt := some (seconds 600)
      heartbeatAt := some (seconds 600) } := rfl
  have hrows : runResults wholeWorld.db "run" = [("calibre-offline:f:1", {
      verdict := packageVerdict (examplePackage "e2" .review .tierB)
      evidenceId := some "e2"
      state := .review })] := rfl
  exact resumableBookKeys_of_row hactive hrows rfl (by decide) (by decide)
    (sealedPackage_of_row rfl rfl exampleValidate_review
      (verifySeal_examplePackage _ _ (by decide)) rfl rfl)

theorem unbroken_wholeEvents : Runs.Meets (exec .ascii exampleValidate)
    (fun w e => unbroken w e = true) World.start wholeEvents := by
  have hfirst : runWorld .ascii exampleValidate _ = _ :=
    run_firstEvents_store "e2" (.inr rfl) (show IdentityTier.tierB ≠ .tierA by decide)
  rw [runWorld] at hfirst
  rw [wholeEvents, Runs.Meets.append, hfirst]
  exact ⟨⟨rfl, rfl, rfl, rfl, rfl, rfl, trivial⟩, rfl, rfl, rfl, rfl, trivial⟩

/-- The resumed review of the whole example. -/
theorem resume_backed_wholeEvents : Backed .ascii exampleValidate
    (runWorld .ascii exampleValidate wholeEvents).db "run" "calibre-offline:f:1" := by
  have hlt : 1 < wholeWorld.attempts.length := (List.getElem?_eq_some_iff.mp attempts_wholeWorld).1
  have hread : ∀ e ∈ wholeEvents, ∀ package, e.concluded = some package →
      exampleValidate package.dump = some package := by
    simp [wholeEvents, firstEvents, startAttempt, WorldEvent.concluded, exampleValidate_review]
  have hbacked := (resume_backed .ascii exampleValidate wholeEvents hread unbroken_wholeEvents).1
  rw [runWorld_wholeEvents,
    exec_resume attempts_wholeWorld rfl rfl resumableBookKeys_wholeWorld] at hbacked ⊢
  exact hbacked 1 _ _ _ (List.getElem?_set_self hlt) rfl resumableBookKeys_wholeWorld _
    (List.mem_singleton_self _)

end CertificateA

end Bookwarden
