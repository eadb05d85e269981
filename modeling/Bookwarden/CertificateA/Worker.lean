import Bookwarden.CertificateA.Fencing

/-!
# Verifiers at work

`execute_certificate_a_claim` with the pipeline's loop over the books, one attempt per claim. An
attempt is a program counter over the store: each action is one transaction, and what the
environment decides (clock readings, the selected books, the package a book ends with, where a
process dies) is part of the action. An attempt may act at any moment, crash at any moment, and
lose its lease to a newer claim.

A book is settled in two transactions: the pipeline records the terminal state, then the callback
records the package. Between the two the attempt is in the phase `emitted`.

## Main definitions

* `Phase`, `Attempt`, `World` — program counters, one attempt per claim, all attempts on a database
* `Action.perform`, `exec` — one transaction of an attempt, one event of the world
* `Backed` — a result row whose stored package has the state of the row
* `unbroken` — no claim takes over from an attempt that has re-recorded the state of a book without
  its new package
-/

namespace Bookwarden

namespace CertificateA

/-- Where an attempt stands. -/
inductive Phase
  /-- The claim was handed out. -/
  | claimed
  /-- The inventory is frozen. -/
  | inventoried (keys : List String)
  /-- The books still to process; the first one may be in progress. -/
  | processing (keys todo : List String) (hasErrors : Bool)
  /-- The terminal state of this package's book is recorded, the package is not. -/
  | emitted (keys todo : List String) (hasErrors : Bool) (package : EvidencePackageV2)
  /-- An exception is on its way to the handlers; the package is one whose state was recorded. -/
  | raised (package : Option EvidencePackageV2)
  deriving DecidableEq, Repr

/-- The package whose state was recorded without it. -/
def Phase.pending : Phase → Option EvidencePackageV2
  | .emitted _ _ _ package => some package
  | .raised package => package
  | _ => none

/-- One execution of a claim. A crash or a finish ends it where it stands. -/
structure Attempt where
  claim : CertificateAClaim
  phase : Phase := .claimed
  alive : Bool := true
  deriving DecidableEq, Repr

/-- The database and all attempts, oldest first. -/
structure World where
  db : Db
  attempts : List Attempt

/-- One transaction of an attempt, with the answers of its environment. -/
inductive Action
  | heartbeat (moment : Moment) (ttlSeconds : ℤ)
  | inventory (keys : List String) (sourceSnapshot : Dict) (m₁ m₂ : Moment)
  | resume (m : Moment)
  | emit (state : BookAuditState) (m : Moment)
  | conclude (package : EvidencePackageV2) (m : Moment)
  | store (m₁ m₂ : Moment)
  | complete (m₁ m₂ : Moment)
  | abandon (status : RunStatus) (errorCode : Option String) (m₁ m₂ : Moment)
  | crash

variable (py : Runtime) (validate : Dict → Option EvidencePackageV2)

/-- The statuses an attempt that does not complete finishes its run with. -/
def abandonStatuses : List RunStatus := [.cancelled, .sourceChanged, .blockedRecovery, .failed]

/-- The database, the phase and the life of an attempt after an action. An action that does not fit
the phase does nothing. -/
def Action.perform (db : Db) (claim : CertificateAClaim) (phase : Phase) :
    Action → Db × Phase × Bool
  | .heartbeat m ttl => ((CertificateA.heartbeat db claim m ttl).1, phase, true)
  | .inventory keys snapshot m₁ m₂ => match phase with
    | .claimed => match CertificateA.inventory db claim keys snapshot m₁ m₂ with
      | .ok db' => (db', .inventoried keys, true)
      | .error _ => (db, .raised none, true)
    | _ => (db, phase, true)
  | .resume m => match phase with
    | .inventoried keys => match resumableBookKeys py validate db claim m with
      | .ok skip => (db, .processing keys (keys.filter fun key => key ∉ skip) false, true)
      | .error _ => (db, .raised none, true)
    | _ => (db, phase, true)
  | .emit state m => match phase with
    | .processing _ (key :: _) _ =>
      if state ∈ terminalBookStates then (db, phase, true)
      -- an exception inside a book becomes a failed package of the book
      else match recordState db claim key state m with
        | .ok db' => (db', phase, true)
        | .error _ => (db, phase, true)
    | _ => (db, phase, true)
  | .conclude package m => match phase with
    | .processing keys (key :: todo) hasErrors =>
      if package.runId = claim.runId ∧ package.bookKey = key ∧ package.state ∈ terminalBookStates then
        match recordState db claim key package.state m with
        | .ok db' =>
          (db', .emitted keys todo (hasErrors || decide (package.state = .failed)) package, true)
        | .error _ =>
          -- the state of a failed book is recorded outside the handler that makes it one
          if package.state ∈ [.failed, .sourceChanged] then (db, .raised none, true)
          else (db, phase, true)
      else (db, phase, true)
    | _ => (db, phase, true)
  | .store m₁ m₂ => match phase with
    | .emitted keys todo hasErrors package =>
      match CertificateA.recordPackage py db claim package m₁ m₂ with
      | .ok db' =>
        if package.state = .sourceChanged then (db', .raised none, true)
        else (db', .processing keys todo hasErrors, true)
      | .error _ => (db, .raised (some package), true)
    | _ => (db, phase, true)
  | .complete m₁ m₂ => match phase with
    | .processing _ [] hasErrors =>
      match CertificateA.finish db claim (if hasErrors then .completedWithErrors else .completed)
          none m₁ m₂ with
      | .ok db' => (db', phase, false)
      | .error _ => (db, .raised none, true)
    | _ => (db, phase, true)
  | .abandon status code m₁ m₂ =>
    if status ∈ abandonStatuses then
      match CertificateA.finish db claim status code m₁ m₂ with
      | .ok db' => (db', phase, false)
      | .error _ => (db, phase, false)
    else (db, phase, true)
  | .crash => (db, phase, false)

/-- An event: a claim request, an action of an attempt, the operator, the web process. -/
inductive WorldEvent
  | claim (owner : String) (moment : Moment) (ttlSeconds : ℤ) (runId : Option String)
  | act (attempt : ℕ) (action : Action)
  | cancel (runId : String) (moment : Moment)
  | request (runId : String) (startedAt : Moment)

/-- The world after an event. -/
def exec (w : World) : WorldEvent → World
  | .claim owner moment ttl runId =>
    let answer := claimAnswer w.db owner moment ttl runId
    ⟨answer.1, w.attempts ++ (answer.2.toList.map fun claim => { claim })⟩
  | .act i action => match w.attempts[i]? with
    | none => w
    | some a =>
      if a.alive then
        let r := action.perform py validate w.db a.claim a.phase
        ⟨r.1, w.attempts.set i { a with phase := r.2.1, alive := r.2.2 }⟩
      else w
  | .cancel runId moment => ⟨cancelRun w.db runId moment, w.attempts⟩
  | .request runId startedAt => ⟨requestRun w.db runId startedAt, w.attempts⟩

/-- The world before the first request. -/
def World.start : World := ⟨⟨.empty, .empty, .empty, .empty⟩, []⟩

/-- The result row of a book has a resumable state, and the package it points to is stored, sealed,
of this run and book, and has the state of the row. -/
def Backed (db : Db) (runId bookKey : String) : Prop :=
  ∃ row evidenceId package, db.results.get? (runId, bookKey) = some row ∧
    row.evidenceId = some evidenceId ∧ row.state ∈ resumableStates ∧
    sealedPackage py validate db runId bookKey evidenceId = some package ∧ package.state = row.state

/-- `Backed`, computed. -/
def backed (db : Db) (runId bookKey : String) : Bool :=
  match db.results.get? (runId, bookKey) with
  | none => false
  | some row => match row.evidenceId with
    | none => false
    | some evidenceId => decide (row.state ∈ resumableStates)
        && match sealedPackage py validate db runId bookKey evidenceId with
          | none => false
          | some package => package.state = row.state

theorem backed_eq_true_iff {db : Db} {runId bookKey : String} :
    backed py validate db runId bookKey = true ↔ Backed py validate db runId bookKey := by
  rw [backed]
  constructor
  · intro h
    cases hrow : db.results.get? (runId, bookKey) with
    | none => simp [hrow] at h
    | some row =>
      cases hid : row.evidenceId with
      | none => simp [hrow, hid] at h
      | some id =>
        cases hpackage : sealedPackage py validate db runId bookKey id with
        | none => simp [hrow, hid, hpackage] at h
        | some package =>
          simp only [hrow, hid, hpackage, Bool.and_eq_true, decide_eq_true_eq] at h
          exact ⟨row, id, package, hrow, hid, h.1, hpackage, h.2⟩
  · rintro ⟨row, id, package, hrow, hid, hstate, hpackage, heq⟩
    simp [hrow, hid, hpackage, hstate, heq]

instance (db : Db) (runId bookKey : String) : Decidable (Backed py validate db runId bookKey) :=
  decidable_of_iff _ (backed_eq_true_iff py validate)

/-- The evidence id of a result row. -/
def evidenceOf (db : Db) (runId bookKey : String) : Option String :=
  (db.results.get? (runId, bookKey)).bind (·.evidenceId)

/-- The attempt is the one this claim supersedes, and stands between the two transactions of a book
that has an evidence id from before. -/
def Attempt.brokenBy (db : Db) (claim : CertificateAClaim) (a : Attempt) : Bool :=
  a.claim.runId = claim.runId && a.claim.fenceToken + 1 = claim.fenceToken
    && match a.phase.pending with
      | none => false
      | some package => decide (package.state ∈ resumableStates)
          && (evidenceOf db claim.runId package.bookKey).isSome

/-- A claim that succeeds does not break an attempt. -/
def unbroken (w : World) : WorldEvent → Bool
  | .claim owner moment ttl runId => match (claimAnswer w.db owner moment ttl runId).2 with
    | none => true
    | some claim => !w.attempts.any (·.brokenBy w.db claim)
  | _ => true

end CertificateA

end Bookwarden
