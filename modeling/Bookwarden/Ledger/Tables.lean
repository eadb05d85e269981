import Bookwarden.Lib.WorkQueue
import Bookwarden.Storage.Models
import Bookwarden.Writer.Readback

/-!
# The write ledger

`storage/operations.py` and the ledger rows of `storage/models.py`. An operation is queued with one
outbox event; the writer claims it under the lock of its book, and whatever settles it settles the
event and the lock in the same transaction.

An outbox event is keyed by the operation it is about: `create_operation` inserts the two together
and nothing else inserts events.

## Main definitions

* `OperationState`, `allowedTransitions`, `transitionOperation`, `OperationLedger.walk`
* `Change`, `OutboxEvent`, `BookWriteLock`, `PilotSession`, `Db`
* `createOperation`, `finishOutbox`, `settle`
* `Db.queue` — the ledger as jobs, delivery records and locks
-/

namespace Bookwarden

namespace Ledger

open WorkQueue (Stage Delivery)

/-- The state column of an operation. -/
inductive OperationState
  | requested
  | claimed
  | writing
  | verifying
  | restoring
  | succeeded
  | restored
  | restoreFailed
  | unknown
  | failed
  | cancelled
  deriving DecidableEq, Repr

/-- `ALLOWED_TRANSITIONS`. -/
def allowedTransitions : OperationState → List OperationState
  | .requested => [.claimed, .cancelled]
  | .claimed => [.requested, .writing, .failed, .cancelled]
  | .writing => [.verifying, .restoring, .unknown]
  | .verifying => [.succeeded, .restoring, .unknown]
  | .restoring => [.restored, .restoreFailed]
  | _ => []

/-- The literal of a state. -/
def OperationState.value : OperationState → String
  | .requested => "requested"
  | .claimed => "claimed"
  | .writing => "writing"
  | .verifying => "verifying"
  | .restoring => "restoring"
  | .succeeded => "succeeded"
  | .restored => "restored"
  | .restoreFailed => "restore_failed"
  | .unknown => "unknown"
  | .failed => "failed"
  | .cancelled => "cancelled"

/-- The states between a claim and its outcome. -/
def inflightStates : List OperationState := [.claimed, .writing, .verifying, .restoring]

/-- `_NONTERMINAL_OPERATION_STATES`. -/
def nonterminalStates : List OperationState := .requested :: inflightStates

/-- The stage of the job an operation is. -/
def OperationState.stage : OperationState → Stage
  | .requested => .queued
  | .claimed | .writing | .verifying | .restoring => .working
  | .succeeded => .settled true
  | .restored | .restoreFailed | .unknown | .failed | .cancelled => .settled false

/-- A row of `OperationLedger`, keyed by `operation_id`. `completed` says that `completed_at` is
set. -/
structure OperationLedger where
  idempotencyKey : String
  operationType : String
  bookKey : String
  runId : Option String := none
  calibreBookId : Option ℤ := none
  state : OperationState := .requested
  requestedPatch : Dict
  expectedBeforeMetadata : Option Dict := none
  beforeMetadata : Option Dict := none
  targetMetadata : Option Dict := none
  observedMetadata : Option Dict := none
  authorizationId : Option String := none
  verdictHash : Option String := none
  patchHash : Option String := none
  fieldLocksHash : Option String := none
  policyVersion : String := "v1"
  changeId : Option ℕ := none
  rollbackOpfPath : Option String := none
  rollbackOpfSha256 : Option String := none
  rollbackCoverPath : Option String := none
  rollbackCoverSha256 : Option String := none
  rollbackCustom : List (String × String) := []
  evidenceId : Option String := none
  pilotId : Option String := none
  leaseOwner : Option String := none
  leaseExpiresAt : Option Moment := none
  error : Option String := none
  completed : Bool := false
  deriving DecidableEq, Repr

/-- The status column of a change. -/
inductive ChangeStatus
  | pendingApply
  | applied
  | failedRolledBack
  | failedRollbackFailed
  | undone
  deriving DecidableEq, Repr

/-- A row of `Change`, keyed by `id`. -/
structure Change where
  operationId : Option String
  bookKey : String
  runId : String
  beforeMetadata : Dict
  afterMetadata : Dict
  backupOpfPath : String
  backupOpfSha256 : Option String
  backupCoverPath : Option String
  backupCoverSha256 : Option String
  beforeCustom : List (String × String)
  status : ChangeStatus
  deriving DecidableEq, Repr

/-- A row of `OutboxEvent`, keyed by `aggregate_id`; rows stand in the order of their `id`. -/
structure OutboxEvent where
  eventType : String := "operation.requested"
  status : Delivery := .pending
  attempts : ℕ := 0
  lastError : Option String := none
  deriving DecidableEq, Repr

/-- A row of `BookWriteLock`, keyed by `book_key`. -/
structure BookWriteLock where
  operationId : String
  leaseOwner : String
  leaseExpiresAt : Moment
  deriving DecidableEq, Repr

/-- The state column of a pilot session. -/
inductive PilotState
  | opened
  | stopped
  | completed
  deriving DecidableEq, Repr

/-- A row of `PilotSession`, keyed by `pilot_id`. -/
structure PilotSession where
  libraryRootSha256 : String
  releaseDigest : String
  alembicRevision : String
  maxOperations : ℤ
  reservedOperations : ℕ := 0
  state : PilotState := .opened
  deriving DecidableEq, Repr

/-- A row of `ManualAuthorization`, keyed by `authorization_id`. -/
structure ManualAuthorization where
  bookKey : String
  runId : String
  verdictHash : String
  patchHash : String
  actor : String
  reason : String
  deriving DecidableEq, Repr

/-- A row of `OperationIncidentAcknowledgement`, keyed by `operation_id`. -/
structure OperationIncidentAcknowledgement where
  actor : String
  reason : String
  deriving DecidableEq, Repr

/-- The tables around the ledger. -/
structure Db where
  books : Table String BookRecord
  packages : Table String StoredPackage
  authorizations : Table String ManualAuthorization
  operations : Table String OperationLedger
  changes : Table ℕ Change
  outbox : Table String OutboxEvent
  locks : Table String BookWriteLock
  pilots : Table String PilotSession
  acknowledgements : Table String OperationIncidentAcknowledgement

/-- The database before the first request. -/
def Db.empty : Db := ⟨.empty, .empty, .empty, .empty, .empty, .empty, .empty, .empty, .empty⟩

/-! ### Transitions -/

/-- `transition_operation`. -/
def transitionOperation (op : OperationLedger) (new : OperationState) (error : Option String) :
    Except PyError OperationLedger :=
  if new ∈ allowedTransitions op.state then
    .ok { op with
      state := new
      error
      completed := op.completed || (allowedTransitions new).isEmpty }
  else .error ⟨.value, "Invalid operation transition: " ++ op.state.value ++ " -> " ++ new.value⟩

/-- Several transitions in a row; the error text goes to the last one. -/
def OperationLedger.walk (op : OperationLedger) (error : Option String) :
    List OperationState → Except PyError OperationLedger
  | [] => .ok op
  | [s] => transitionOperation op s error
  | s :: rest => match transitionOperation op s none with
    | .error e => .error e
    | .ok op' => op'.walk error rest

/-- The transitions a walk attempts. -/
def attempts (state : OperationState) : List OperationState → List (OperationState × OperationState)
  | [] => []
  | s :: rest => (state, s) :: attempts s rest

/-! ### Creating and settling -/

/-- `create_operation`: the id of the operation with this key, new or not. The id of a new one is
drawn by the caller; one that is taken is refused by the database. -/
def createOperation (db : Db) (operationId : String) (op : OperationLedger) :
    Except PyError (Db × String) :=
  match db.operations.rows.find? fun r => r.2.idempotencyKey = op.idempotencyKey with
  | some existing => .ok (db, existing.1)
  | none =>
    if (db.operations.get? operationId).isSome then .error ⟨.other, "UNIQUE constraint failed"⟩
    else .ok ({ db with
      operations := db.operations.set operationId op
      outbox := db.outbox.set operationId {} }, operationId)

/-- The locks without the one an operation holds on its book. -/
def releaseLock (locks : Table String BookWriteLock) (bookKey operationId : String) :
    Table String BookWriteLock :=
  match locks.get? bookKey with
  | some lock => if lock.operationId = operationId then locks.erase bookKey else locks
  | none => locks

/-- `_finish_outbox`. -/
def finishOutbox (db : Db) (operationId : String) (status : Delivery) (error : Option String) :
    Except PyError Db :=
  match db.outbox.get? operationId, db.operations.get? operationId with
  | some event, some op => .ok { db with
      outbox := db.outbox.set operationId { event with status, lastError := error }
      locks := releaseLock db.locks op.bookKey operationId }
  | _, _ => .error ⟨.other, "No row was found when one was required"⟩

/-- Write the status of a book that is there. -/
def Db.setBookStatus (db : Db) (bookKey status : String) : Db :=
  match db.books.get? bookKey with
  | some book => { db with books := db.books.set bookKey { book with status } }
  | none => db

/-- Write the status of a change that is there. -/
def Db.setChangeStatus (db : Db) (changeId : ℕ) (status : ChangeStatus) : Db :=
  match db.changes.get? changeId with
  | some change => { db with changes := db.changes.set changeId { change with status } }
  | none => db

/-- The change an operation has made: `select(Change).where(operation_id == ·).first()`. -/
def Db.changeOf (db : Db) (operationId : String) : Option (ℕ × Change) :=
  db.changes.rows.find? fun r => r.2.operationId = some operationId

/-! ### The ledger as jobs under locks -/

/-- The jobs, their delivery records and the lock holders. -/
def Db.queue (db : Db) : WorkQueue.Queue String String where
  job id := (db.operations.get? id).map fun op => (op.bookKey, op.state.stage)
  delivery id := (db.outbox.get? id).map (·.status)
  holder bookKey := (db.locks.get? bookKey).map (·.operationId)

end Ledger

end Bookwarden
