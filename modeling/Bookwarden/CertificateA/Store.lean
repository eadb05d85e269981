import Bookwarden.Storage.Models

/-!
# The fenced store of Certificate A

`certificate_a_worker.py`: the queue of verification runs and the store through which a verifier
writes. Every function here is one transaction. A moment the code reads from a clock is an argument,
one for each reading, so nothing ties the clocks of two calls together.

An error leaves the database as it was; the functions return the new database only on success.

## Main definitions

* `VerificationRun`, `VerificationResult`, `Db`
* `claimNextCertificateARun`, `ownedRun` — the claim, and the check in front of every write
* `heartbeat`, `inventory`, `recordState`, `recordPackage`, `finish`, `cancelRun`
* `resumableBookKeys`
* `StoreOp`, `StoreOp.apply` — the writes of a claim, as data
-/

namespace Bookwarden

namespace CertificateA

/-- The status column of a verification run. -/
inductive RunStatus
  | pending
  | inventorying
  | running
  | cancelling
  | cancelled
  | completed
  | completedWithErrors
  | failed
  | sourceChanged
  | blockedRecovery
  deriving DecidableEq, Repr

/-- `CLAIMABLE_STATUSES`, also `ACTIVE_STATUSES` of the web process. -/
def claimableStatuses : List RunStatus := [.pending, .inventorying, .running, .cancelling]

/-- `TERMINAL_STATUSES`. -/
def terminalStatuses : List RunStatus :=
  [.cancelled, .completed, .completedWithErrors, .failed, .sourceChanged, .blockedRecovery]

/-- `CERTIFICATE_A_CONTRACT_VERSION`. -/
def contractVersion : String := "certificate-a-v1"

/-- A row of `VerificationRun`, keyed by `run_id`; rows stand in the order of their `id`. -/
structure VerificationRun where
  status : RunStatus
  startedAt : Moment
  finishedAt : Option Moment := none
  total : ℕ := 0
  completed : ℕ := 0
  counts : List (BookAuditState × ℕ) := []
  useLlm : Bool := false
  pipelineVersion : String := "v1"
  mode : String := "legacy"
  contractVersion : Option String := none
  sourceSnapshot : Option Dict := none
  leaseOwner : Option String := none
  leaseExpiresAt : Option Moment := none
  fenceToken : ℕ := 0
  claimedAt : Option Moment := none
  heartbeatAt : Option Moment := none
  inventoryFinishedAt : Option Moment := none
  cancelRequestedAt : Option Moment := none
  errorCode : Option String := none
  deriving DecidableEq, Repr

/-- A row of `VerificationResult`, keyed by `run_id` and `book_key`. -/
structure VerificationResult where
  verdict : Dict := []
  evidenceId : Option String := none
  state : BookAuditState := .pending
  deriving DecidableEq, Repr

/-- The tables a verifier works on. -/
structure Db where
  runs : Table String VerificationRun
  results : Table (String × String) VerificationResult
  packages : Table String StoredPackage
  books : Table String BookRecord

/-- `CertificateAClaim`. -/
structure CertificateAClaim where
  runId : String
  owner : String
  fenceToken : ℕ
  deriving DecidableEq, Repr

/-- The exceptions of a store call. -/
inductive StoreError
  | lostVerifierLease (message : String)
  | sourceSnapshotMismatch (message : String)
  | verifierCancellationRequested (message : String)
  | value (message : String)
  deriving DecidableEq, Repr

/-! ### Claiming -/

/-- `_claim_predicate`. -/
def claimPredicate (moment : Moment) (run : VerificationRun) : Bool :=
  run.contractVersion = some contractVersion && run.pipelineVersion = "manifestation-v2"
    && run.mode = "shadow" && run.finishedAt.isNone && decide (run.status ∈ claimableStatuses)
    && (run.leaseOwner.isNone || match run.leaseExpiresAt with
      | none => true
      | some expires => expires ≤ moment)

/-- The first row in the order of `started_at` and `id`. -/
def earliest : List (String × VerificationRun) → Option (String × VerificationRun)
  | [] => none
  | r :: rest => match earliest rest with
    | none => some r
    | some q => if r.2.startedAt ≤ q.2.startedAt then some r else some q

/-- The candidate of a claim. -/
def claimCandidate (db : Db) (moment : Moment) (runId : Option String) :
    Option (String × VerificationRun) :=
  earliest (db.runs.rows.filter fun r =>
    claimPredicate moment r.2 && match runId with
      | none => true
      | some id => r.1 = id)

/-- `claim_next_certificate_a_run`. -/
def claimNextCertificateARun (db : Db) (owner : String) (moment : Moment) (ttlSeconds : ℤ)
    (runId : Option String) : Except StoreError (Db × Option CertificateAClaim) :=
  if owner = "" ∨ 128 < owner.length then
    .error (.value "verifier owner must contain between 1 and 128 characters")
  else match claimCandidate db moment runId with
    | none => .ok (db, none)
    | some (id, run) =>
      .ok ({ db with runs := db.runs.set id { run with
          leaseOwner := some owner
          leaseExpiresAt := some (moment + seconds (max 3 ttlSeconds))
          claimedAt := some moment
          heartbeatAt := some moment
          fenceToken := run.fenceToken + 1
          status := if run.status = .pending then .inventorying else run.status } },
        some ⟨id, owner, run.fenceToken + 1⟩)

/-! ### Owned runs -/

/-- The condition of `_load_owned_run`. -/
def owns (claim : CertificateAClaim) (moment : Moment) (run : VerificationRun) : Bool :=
  run.contractVersion = some contractVersion && run.leaseOwner = some claim.owner
    && run.fenceToken = claim.fenceToken && run.finishedAt.isNone
    && decide (run.status ∈ claimableStatuses)
    && match run.leaseExpiresAt with
      | none => false
      | some expires => moment < expires

/-- `_load_owned_run`. -/
def ownedRun (db : Db) (claim : CertificateAClaim) (moment : Moment) :
    Except StoreError VerificationRun :=
  match db.runs.get? claim.runId with
  | none => .error (.lostVerifierLease "verifier lease or fence is no longer current")
  | some run =>
    if owns claim moment run then .ok run
    else .error (.lostVerifierLease "verifier lease or fence is no longer current")

/-- The run's cancellation was requested. -/
def VerificationRun.cancels (run : VerificationRun) : Bool :=
  run.status = .cancelling || run.cancelRequestedAt.isSome

/-- `_run(session, allow_cancelling=False)`. -/
def activeRun (db : Db) (claim : CertificateAClaim) (moment : Moment) :
    Except StoreError VerificationRun :=
  match ownedRun db claim moment with
  | .error e => .error e
  | .ok run =>
    if run.cancels then
      .error (.verifierCancellationRequested "verification cancellation was requested")
    else .ok run

/-- `_result`. -/
def resultRow (db : Db) (runId bookKey : String) : Except StoreError VerificationResult :=
  match db.results.get? (runId, bookKey) with
  | none => .error (.value "book is outside the frozen Certificate A membership")
  | some result => .ok result

/-- The results of a run. -/
def runResults (db : Db) (runId : String) : List (String × VerificationResult) :=
  (db.results.rows.filter fun r => r.1.1 = runId).map fun r => (r.1.2, r.2)

/-- `heartbeat_certificate_a_run`; the Boolean says whether the lease was extended. -/
def heartbeat (db : Db) (claim : CertificateAClaim) (moment : Moment) (ttlSeconds : ℤ) :
    Db × Bool :=
  match db.runs.get? claim.runId with
  | none => (db, false)
  | some run =>
    if owns claim moment run then
      ({ db with runs := db.runs.set claim.runId { run with
          leaseExpiresAt := some (moment + seconds (max 3 ttlSeconds))
          heartbeatAt := some moment } }, true)
    else (db, false)

/-! ### Writes -/

/-- The results of a run with its inventory: the books become rows when the run has none. -/
def freezeMembers (db : Db) (runId : String) (bookKeys : List String) :
    Table (String × String) VerificationResult :=
  if runResults db runId = [] then
    bookKeys.foldl (fun t key => t.set (runId, key) {}) db.results
  else db.results

/-- `inventory`. The second moment is read only when the inventory is finished for the first
time. -/
def inventory (db : Db) (claim : CertificateAClaim) (bookKeys : List String)
    (sourceSnapshot : Dict) (m₁ m₂ : Moment) : Except StoreError Db :=
  if ¬ bookKeys.Nodup ∨ (bookKeys.any fun key => strip key = "") = true then
    .error (.value "Certificate A inventory must contain unique non-empty book keys")
  else match activeRun db claim m₁ with
    | .error e => .error e
    | .ok run =>
      let existing := (runResults db claim.runId).map Prod.fst
      if run.sourceSnapshot.any fun s => !Json.pyEq (.obj s) (.obj sourceSnapshot) then
        .error (.sourceSnapshotMismatch "offline source snapshot changed during recovery")
      else if existing ≠ [] ∧ ¬ (existing ⊆ bookKeys ∧ bookKeys ⊆ existing) then
        .error (.sourceSnapshotMismatch "selected library membership changed during recovery")
      else .ok { db with
        results := freezeMembers db claim.runId bookKeys
        runs := db.runs.set claim.runId { run with
          sourceSnapshot := some sourceSnapshot
          total := bookKeys.length
          inventoryFinishedAt := some (run.inventoryFinishedAt.getD m₂)
          status := .running } }

/-- `record_state`. -/
def recordState (db : Db) (claim : CertificateAClaim) (bookKey : String) (state : BookAuditState)
    (m : Moment) : Except StoreError Db :=
  match activeRun db claim m with
  | .error e => .error e
  | .ok _ => match resultRow db claim.runId bookKey with
    | .error e => .error e
    | .ok result =>
      .ok { db with results := db.results.set (claim.runId, bookKey) { result with state } }

/-- A result that counts as completed. -/
def VerificationResult.isCompleted (result : VerificationResult) : Bool :=
  decide (result.state ∈ terminalBookStates) && present result.evidenceId

/-- `_refresh_counts` on a loaded run. -/
def refreshCounts (db : Db) (runId : String) (run : VerificationRun) : VerificationRun :=
  let done := (runResults db runId).filter fun r => r.2.isCompleted
  { run with
    completed := done.length
    counts := done.foldl (fun counts r =>
      Assoc.set r.2.state ((Assoc.get? r.2.state counts).getD 0 + 1) counts) [] }

/-- The verdict column of a recorded package. -/
def packageVerdict (package : EvidencePackageV2) : Dict :=
  [("schema_version", .int 2), ("evidence_id", .str package.evidenceId),
    ("book_key", .str package.bookKey), ("state", .str package.state.value),
    ("identity", package.identity.toJson), ("warnings", .strs package.warnings)]

variable (py : Runtime)

/-- The book row after a package of it was recorded. -/
def recordedBook (stored : Option BookRecord) (package : EvidencePackageV2) : BookRecord :=
  let source := match package.snapshot.source with
    | some source => source.kind.value
    | none => "calibre"
  { stored.getD { runId := package.runId, calibreBookId := none } with
    runId := package.runId
    calibreBookId := some package.snapshot.calibreBookId
    source
    files := bookFiles py package
    currentMetadata := package.snapshot.currentMetadata
    status := package.state.value }

/-- The rows a recorded package changes, before the counts. -/
def writePackage (db : Db) (result : VerificationResult) (package : EvidencePackageV2) : Db :=
  { db with
    books := db.books.set package.bookKey
      (recordedBook py (db.books.get? package.bookKey) package)
    packages := match db.packages.get? package.evidenceId with
      | none => db.packages.set package.evidenceId (packageRow package)
      | some _ => db.packages
    results := db.results.set (package.runId, package.bookKey) { result with
      evidenceId := some package.evidenceId
      state := package.state
      verdict := packageVerdict package } }

/-- A stored row with this evidence id holds other content. -/
def differs (stored : Option StoredPackage) (package : EvidencePackageV2) : Bool :=
  match stored with
  | none => false
  | some row => match row.observations with
    | none => true
    | some observations => !Json.pyEq (.obj observations) (.obj package.dump)

/-- `record_package`. The second moment is the one `_refresh_counts` reads. -/
def recordPackage (db : Db) (claim : CertificateAClaim) (package : EvidencePackageV2)
    (m₁ m₂ : Moment) : Except StoreError Db :=
  if package.runId ≠ claim.runId ∨ package.verifySeal py = false then
    .error (.value "evidence package identity or seal is invalid")
  else match ownedRun db claim m₁ with
    | .error e => .error e
    | .ok _ => match resultRow db claim.runId package.bookKey with
      | .error e => .error e
      | .ok result =>
        if differs (db.packages.get? package.evidenceId) package then
          .error (.value "evidence id already exists with different sealed content")
        else
          let written := writePackage py db result package
          match ownedRun written claim m₂ with
          | .error e => .error e
          | .ok run =>
            .ok { written with
              runs := written.runs.set claim.runId (refreshCounts written claim.runId run) }

/-- `finish`. -/
def finish (db : Db) (claim : CertificateAClaim) (status : RunStatus) (errorCode : Option String)
    (m₁ m₂ : Moment) : Except StoreError Db :=
  if status ∉ terminalStatuses then .error (.value "invalid Certificate A terminal status")
  else match ownedRun db claim m₁ with
    | .error e => .error e
    | .ok run =>
      .ok { db with runs := db.runs.set claim.runId { refreshCounts db claim.runId run with
        status
        errorCode
        finishedAt := some m₂
        leaseOwner := none
        leaseExpiresAt := none } }

/-- `cancel_run` of the web process. -/
def cancelRun (db : Db) (runId : String) (moment : Moment) : Db :=
  match db.runs.get? runId with
  | none => db
  | some run =>
    if run.contractVersion = some contractVersion ∧ run.pipelineVersion = "manifestation-v2"
        ∧ run.finishedAt = none ∧ run.status ∈ claimableStatuses then
      { db with runs := db.runs.set runId { run with
        status := .cancelling
        cancelRequestedAt := some (run.cancelRequestedAt.getD moment) } }
    else db

/-- The web process inserts a request; a `run_id` that is taken is refused by the database. -/
def requestRun (db : Db) (runId : String) (startedAt : Moment) : Db :=
  match db.runs.get? runId with
  | some _ => db
  | none => { db with runs := db.runs.set runId {
      status := .pending
      startedAt
      pipelineVersion := "manifestation-v2"
      mode := "shadow"
      contractVersion := some contractVersion } }

/-! ### Reading -/

/-- The terminal states a resumed run keeps. -/
def resumableStates : List BookAuditState :=
  terminalBookStates.filter fun state => state ≠ .failed ∧ state ≠ .sourceChanged

/-- The stored row is a sealed package of this run and book. `validate` is `model_validate`. -/
def sealedPackage (validate : Dict → Option EvidencePackageV2) (db : Db) (runId bookKey : String)
    (evidenceId : String) : Option EvidencePackageV2 :=
  match db.packages.get? evidenceId with
  | none => none
  | some evidence =>
    if evidence.schemaVersion ≠ 2 then none
    else match evidence.observations with
      | none => none
      | some observations =>
        if observations = [] then none
        else match validate observations with
          | none => none
          | some package =>
            if package.verifySeal py && package.evidenceId = evidenceId && package.runId = runId
                && package.bookKey = bookKey && evidence.bookKey = package.bookKey
                && evidence.runId = package.runId then some package
            else none

/-- `resumable_book_keys`. -/
def resumableBookKeys (validate : Dict → Option EvidencePackageV2) (db : Db)
    (claim : CertificateAClaim) (moment : Moment) : Except StoreError (List String) :=
  match activeRun db claim moment with
  | .error e => .error e
  | .ok _ => .ok ((runResults db claim.runId).filterMap fun r =>
      match r.2.evidenceId with
      | none => none
      | some evidenceId =>
        if evidenceId = "" ∨ r.2.state ∉ resumableStates then none
        else (sealedPackage py validate db claim.runId r.1 evidenceId).map fun _ => r.1)

/-- `cancellation_requested`. -/
def cancellationRequested (db : Db) (claim : CertificateAClaim) (moment : Moment) :
    Except StoreError Bool :=
  match ownedRun db claim moment with
  | .error e => .error e
  | .ok run => .ok run.cancels

/-! ### The writes of a claim as data -/

/-- A write a verifier asks for under its claim. -/
inductive StoreOp
  | heartbeat (moment : Moment) (ttlSeconds : ℤ)
  | inventory (bookKeys : List String) (sourceSnapshot : Dict) (m₁ m₂ : Moment)
  | recordState (bookKey : String) (state : BookAuditState) (m : Moment)
  | recordPackage (package : EvidencePackageV2) (m₁ m₂ : Moment)
  | finish (status : RunStatus) (errorCode : Option String) (m₁ m₂ : Moment)

/-- The outcome of a write. -/
def StoreOp.apply (db : Db) (claim : CertificateAClaim) : StoreOp → Except StoreError Db
  | .heartbeat m ttl => .ok (CertificateA.heartbeat db claim m ttl).1
  | .inventory keys snapshot m₁ m₂ => CertificateA.inventory db claim keys snapshot m₁ m₂
  | .recordState key state m => CertificateA.recordState db claim key state m
  | .recordPackage package m₁ m₂ => CertificateA.recordPackage py db claim package m₁ m₂
  | .finish status code m₁ m₂ => CertificateA.finish db claim status code m₁ m₂

/-- The database after a write: unchanged when the call raises. -/
def StoreOp.exec (db : Db) (claim : CertificateAClaim) (op : StoreOp) : Db :=
  match op.apply py db claim with
  | .ok db' => db'
  | .error _ => db

end CertificateA

end Bookwarden
