import Bookwarden.CertificateA.Worker

/-!
# The store of durable runs

`durable_v2.py` and `persistence_v2.py`: the lease of a verification run that an app process
executes itself, and the store it writes through. The runs, results and packages are the tables of
Certificate A; nothing but the columns of a row tells the two kinds of run apart.

No write here looks at the lease. The lease functions read a row, decide, and commit: what they
decide is a function of the row that was read, kept apart from the commit.

## Main definitions

* `claimRow`, `heartbeatRow`, `releaseRow`, `finishRow` — what a call makes of the row it read
* `claimVerificationRun`, `heartbeatVerificationRun`, `releaseVerificationRun` — the calls, when
  nothing comes between
* `start`, `recordState`, `recordPackage`, `finish`, `resumableBookKeys` — `SQLAuditStore`
* `listRecoverableV2RunIds`, `incompleteBookKeys`, `resetStaleInFlightStates`
-/

namespace Bookwarden

namespace Durable

open CertificateA

/-- `TERMINAL_RUN_STATUSES`. -/
def terminalRunStatuses : List RunStatus :=
  [.completed, .completedWithErrors, .failed, .blockedRecovery]

/-- `ACTIVE_RUN_STATUSES`. -/
def activeRunStatuses : List RunStatus := [.running, .pending]

/-- The exceptions of a call. -/
inductive AuditError
  | value (message : String)
  /-- The database refuses a second row for one run and book. -/
  | integrity
  deriving DecidableEq, Repr

/-! ### Leases -/

/-- Another owner holds an unexpired lease on the run. -/
def heldByOther (run : VerificationRun) (owner : String) (moment : Moment) : Bool :=
  match run.leaseOwner, run.leaseExpiresAt with
  | some other, some expires => other ≠ "" && other ≠ owner && moment < expires
  | _, _ => false

/-- What `claim_verification_run` makes of the row it read; `none` is `False`. -/
def claimRow (run : VerificationRun) (owner : String) (moment : Moment) (ttlSeconds : ℤ) :
    Option VerificationRun :=
  if run.status ∈ terminalRunStatuses ∨ run.finishedAt.isSome = true
      ∨ heldByOther run owner moment = true then none
  else some { run with
    leaseOwner := some owner
    leaseExpiresAt := some (moment + seconds (max 1 ttlSeconds))
    status := if run.status ∈ activeRunStatuses then run.status else .running }

/-- What `heartbeat_verification_run` makes of the row it read; `none` is `False`. -/
def heartbeatRow (run : VerificationRun) (owner : String) (moment : Moment) (ttlSeconds : ℤ) :
    Option VerificationRun :=
  if run.leaseOwner ≠ some owner ∨ run.status ∈ terminalRunStatuses then none
  else some { run with leaseExpiresAt := some (moment + seconds (max 1 ttlSeconds)) }

/-- What `release_verification_run` makes of the row it read; `none` when it is not the owner's. -/
def releaseRow (run : VerificationRun) (owner : String) : Option VerificationRun :=
  if run.leaseOwner ≠ some owner then none
  else some { run with leaseOwner := none, leaseExpiresAt := none }

/-- What `finish` makes of the row it read. -/
def finishRow (db : Db) (runId : String) (run : VerificationRun) (status : RunStatus)
    (moment : Moment) : VerificationRun :=
  { refreshCounts db runId run with status, finishedAt := some moment }

/-- A call on the row of a run that nothing comes between; the Boolean is its answer. -/
def onRow (db : Db) (runId : String) (decide : VerificationRun → Option VerificationRun) :
    Db × Bool :=
  match db.runs.get? runId with
  | none => (db, false)
  | some run => match decide run with
    | none => (db, false)
    | some run' => ({ db with runs := db.runs.set runId run' }, true)

/-- `claim_verification_run`. -/
def claimVerificationRun (db : Db) (runId owner : String) (moment : Moment) (ttlSeconds : ℤ) :
    Except AuditError (Db × Bool) :=
  if owner = "" then .error (.value "lease owner must be non-empty")
  else .ok (onRow db runId fun run => claimRow run owner moment ttlSeconds)

/-- `heartbeat_verification_run`. -/
def heartbeatVerificationRun (db : Db) (runId owner : String) (moment : Moment) (ttlSeconds : ℤ) :
    Db × Bool :=
  onRow db runId fun run => heartbeatRow run owner moment ttlSeconds

/-- `release_verification_run`. -/
def releaseVerificationRun (db : Db) (runId owner : String) : Db :=
  (onRow db runId fun run => releaseRow run owner).1

/-! ### The store -/

/-- The results of a run with rows for the new books. -/
def addMembers (db : Db) (runId : String) (bookKeys : List String) :
    Table (String × String) VerificationResult :=
  bookKeys.foldl (fun t key => t.set (runId, key) {}) db.results

/-- `start`. -/
def start (db : Db) (runId : String) (bookKeys : List String) (mode : String) (useLlm : Bool)
    (moment : Moment) : Except AuditError Db :=
  let run : Except AuditError VerificationRun := match db.runs.get? runId with
    | none => .ok {
        status := .running
        startedAt := moment
        total := bookKeys.length
        useLlm
        pipelineVersion := "manifestation-v2"
        mode }
    | some run =>
      if run.pipelineVersion ≠ "manifestation-v2" ∨ run.mode ≠ mode then
        .error (.value "run_id already belongs to a different verification contract")
      else .ok run
  match run with
  | .error e => .error e
  | .ok run =>
    let existing := (runResults db runId).map Prod.fst
    if existing ≠ [] ∧ ¬ (existing ⊆ bookKeys ∧ bookKeys ⊆ existing) then
      .error (.value "run_id library membership differs from the frozen V2 snapshot")
    else
      let new := bookKeys.filter fun key => key ∉ existing
      if ¬ new.Nodup then .error .integrity
      else .ok { db with
        runs := db.runs.set runId run
        results := addMembers db runId new }

/-- `_result`. -/
def resultRow (db : Db) (runId bookKey : String) : Except AuditError VerificationResult :=
  match db.results.get? (runId, bookKey) with
  | none => .error (.value ("book " ++ bookKey ++ " is not part of run " ++ runId))
  | some result => .ok result

/-- `_run`. -/
def startedRun (db : Db) (runId : String) : Except AuditError VerificationRun :=
  match db.runs.get? runId with
  | none => .error (.value ("verification run " ++ runId ++ " has not been started"))
  | some run => .ok run

/-- `record_state`. -/
def recordState (db : Db) (runId bookKey : String) (state : BookAuditState) : Except AuditError Db :=
  match resultRow db runId bookKey with
  | .error e => .error e
  | .ok result => .ok { db with results := db.results.set (runId, bookKey) { result with state } }

variable (py : Runtime)

/-- `record_package`. -/
def recordPackage (db : Db) (runId : String) (package : EvidencePackageV2) : Except AuditError Db :=
  if package.runId ≠ runId ∨ package.verifySeal py = false then
    .error (.value "evidence package identity or seal is invalid")
  else if differs (db.packages.get? package.evidenceId) package then
    .error (.value "evidence_id already exists with a different sealed payload")
  else match resultRow db runId package.bookKey with
    | .error e => .error e
    | .ok result =>
      let written := writePackage py db result package
      match startedRun written runId with
      | .error e => .error e
      | .ok run => .ok { written with runs := written.runs.set runId (refreshCounts written runId run) }

/-- `finish`. -/
def finish (db : Db) (runId : String) (status : RunStatus) (moment : Moment) : Except AuditError Db :=
  match startedRun db runId with
  | .error e => .error e
  | .ok run => .ok { db with runs := db.runs.set runId (finishRow db runId run status moment) }

variable (validate : Dict → Option EvidencePackageV2)

/-- The package a result row points to: sealed, of this run and book, and stored with its own
current record and identity. `validate` is `model_validate`. -/
def sealedPackage (db : Db) (runId bookKey evidenceId : String) : Option EvidencePackageV2 :=
  match CertificateA.sealedPackage py validate db runId bookKey evidenceId,
      db.packages.get? evidenceId with
  | some package, some stored =>
    if Json.pyEq (.obj stored.current) (.obj package.snapshot.currentMetadata)
        && Json.pyEq stored.extracted package.identity.toJson then some package
    else none
  | _, _ => none

/-- `resumable_book_keys`. -/
def resumableBookKeys (db : Db) (runId : String) : List String :=
  (runResults db runId).filterMap fun r => match r.2.evidenceId with
    | none => none
    | some evidenceId =>
      if evidenceId = "" ∨ r.2.state ∉ resumableStates then none
      else (sealedPackage py validate db runId r.1 evidenceId).map fun _ => r.1

/-! ### Recovery -/

/-- The rows in the order of `started_at`; rows of one moment keep their order. -/
def byStart (rows : List (String × VerificationRun)) : List (String × VerificationRun) :=
  rows.insertionSort fun a b => a.2.startedAt ≤ b.2.startedAt

/-- A V2 run that is not terminal and has no live lease. -/
def recoverable (moment : Moment) (run : VerificationRun) : Bool :=
  run.pipelineVersion = "manifestation-v2" && run.finishedAt.isNone
    && decide (run.status ∉ terminalRunStatuses)
    && !(present run.leaseOwner && match run.leaseExpiresAt with
      | none => false
      | some expires => moment < expires)

/-- `list_recoverable_v2_run_ids`. -/
def listRecoverableV2RunIds (db : Db) (moment : Moment) : List String :=
  ((byStart db.runs.rows).filter fun r => recoverable moment r.2).map Prod.fst

/-- The states `reset_stale_in_flight_states` resets; `pending` rows and finished rows stay. -/
def isStale (row : VerificationResult) : Bool :=
  !(decide (row.state ∈ terminalBookStates) && present row.evidenceId)
    && (decide (row.state ∈ [.snapshotting, .extracting, .resolving, .decided, .applying])
      || (decide (row.state ∉ terminalBookStates) && row.state ≠ .pending))

/-- `reset_stale_in_flight_states`. -/
def resetStaleInFlightStates (db : Db) (runId : String) : Db :=
  { db with results := (runResults db runId).foldl (fun t r =>
      if isStale r.2 then t.set (runId, r.1) { r.2 with state := .pending } else t) db.results }

end Durable

end Bookwarden
