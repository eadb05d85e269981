import Bookwarden.Ledger.Tables

/-!
# Queueing writes

`apply/coordinator.py`: what an operator or the web process may queue, and the revalidation the
writer runs before it touches the library. Each function that changes the ledger is one transaction;
an error leaves the database as it was.

PostgreSQL's advisory lock orders the calls of `queue_v2_operation`; as transactions are atomic here
it has no other effect. `validate` is `EvidencePackageV2.model_validate`.

## Main definitions

* `loadV2Package`, `validateV2BookSnapshot`, `v2Patch`, `v2AuthorizationMatches`
* `PilotGuard`, `validatePilotGuard`, `lockOrCreatePilot`, `blocksQueue`
* `queueV2Operation`, `queueUndoOperation`, `queueApprovedOperations`
* `acknowledgeV2Failure`, `pilotStop`
* `validateApplyOperation` — the gate in front of the writer
-/

namespace Bookwarden

namespace Ledger

open WorkQueue (Delivery)

/-- A `ValueError`. -/
def valueError {α : Type} (message : String) : Except PyError α := .error ⟨.value, message⟩

variable (py : Runtime) (validate : Dict → Option EvidencePackageV2)

/-! ### Packages, books and patches -/

/-- `load_v2_package`. -/
def loadV2Package (db : Db) (evidenceId : String) :
    Except PyError (StoredPackage × EvidencePackageV2) :=
  match db.packages.get? evidenceId with
  | none => valueError "sealed V2 evidence package is unavailable"
  | some stored =>
    let observations := stored.observations.getD []
    if stored.schemaVersion ≠ 2 ∨ observations = [] then
      valueError "sealed V2 evidence package is unavailable"
    else match validate observations with
      | none => valueError "validation error for EvidencePackageV2"
      | some package =>
        if package.verifySeal py = false ∨ package.evidenceId ≠ evidenceId
            ∨ package.bookKey ≠ stored.bookKey ∨ package.runId ≠ stored.runId
            ∨ Json.pyEq (.obj stored.current) (.obj package.snapshot.currentMetadata) = false
            ∨ Json.pyEq stored.extracted package.identity.toJson = false then
          valueError "V2 evidence package identity or seal is invalid"
        else .ok (stored, package)

/-- `_book_file_paths`. -/
def bookFilePaths (book : BookRecord) : List String :=
  book.files.filterMap fun
    | .obj kvs => match Assoc.get? "path" kvs with
      | some (.str path) => some path
      | _ => none
    | _ => none

/-- `_validate_v2_book_snapshot`; the book is the row with this key. -/
def validateV2BookSnapshot (bookKey : String) (book : BookRecord) (package : EvidencePackageV2) :
    Except PyError Unit :=
  if package.snapshot.source.isSome then
    valueError "remote Content Server evidence cannot be authorized for writing"
  else if package.error.isSome ∨ package.state ≠ .shadowed ∨ bookKey ≠ package.bookKey
      ∨ book.runId ≠ package.runId ∨ book.calibreBookId ≠ some package.snapshot.calibreBookId
      ∨ Json.pyEq (.obj book.currentMetadata) (.obj package.snapshot.currentMetadata) = false
      ∨ bookFilePaths book ≠ package.snapshot.files then
    valueError "persisted book no longer matches the exact sealed V2 snapshot"
  else .ok ()

/-- `_v2_patch`. -/
def v2Patch (package : EvidencePackageV2) (book : BookRecord) : Except PyError Dict :=
  match CanonicalPatch.validate py package.identity.autoPatch with
  | none => valueError "validation error for CanonicalPatch"
  | some patch => .ok (patch.dump.filter fun item => !book.fieldLocks.has item.1)

/-- `_v2_authorization_matches`. -/
def v2AuthorizationMatches (authorization : Option ManualAuthorization) (bookKey : String)
    (book : BookRecord) (package : EvidencePackageV2) (patch : Dict) : Bool :=
  match authorization with
  | none => false
  | some a => present package.packageSha256 && a.bookKey = bookKey && a.runId = book.runId
      && some a.verdictHash = package.packageSha256 && a.patchHash = hashJson py (.obj patch)

/-! ### Pilots -/

/-- `PilotGuard`. -/
structure PilotGuard where
  enabled : Bool
  pilotId : String
  libraryRoot : String
  releaseDigest : String
  alembicRevision : String
  maxOperations : ℤ
  writerReady : Bool
  deriving DecidableEq, Repr

/-- Hexadecimal digits with single underscores between them. -/
def hexDigits : List Char → Bool
  | [] => false
  | [c] => c.isDigit || ('a' ≤ c.toLower && c.toLower ≤ 'f')
  | c :: '_' :: rest => (c.isDigit || ('a' ≤ c.toLower && c.toLower ≤ 'f')) && hexDigits rest
  | c :: rest => (c.isDigit || ('a' ≤ c.toLower && c.toLower ≤ 'f')) && hexDigits rest

/-- `int(s, 16)` does not raise, for a text of ASCII characters. -/
def isHexInt (s : String) : Bool :=
  let unsigned := match stripChars s.toList with
    | '+' :: rest | '-' :: rest => rest
    | cs => cs
  match unsigned with
  | '0' :: 'x' :: '_' :: rest | '0' :: 'X' :: '_' :: rest => hexDigits rest
  | '0' :: 'x' :: rest | '0' :: 'X' :: rest => hexDigits rest
  | cs => hexDigits cs

/-- `library_root_sha256`. -/
def libraryRootSha256 (root : String) : String := py.sha256 (canonicalPath py root)

/-- `_validate_pilot_guard`. -/
def validatePilotGuard (pilot : PilotGuard) (package : EvidencePackageV2) :
    Except PyError String :=
  if pilot.enabled = false then valueError "supervised V2 apply is disabled"
  else if pilot.writerReady = false then valueError "a fresh writer heartbeat is required"
  else if strip pilot.pilotId = "" ∨ 128 < pilot.pilotId.length then
    valueError "a valid pilot id is required"
  else if startsWith pilot.releaseDigest "sha256:" = false ∨ pilot.releaseDigest.length ≠ 71
      ∨ isHexInt (removePrefix pilot.releaseDigest "sha256:") = false then
    valueError "a sha256 release digest is required"
  else if strip pilot.alembicRevision = "" then valueError "an Alembic revision is required"
  else if ¬ (1 ≤ pilot.maxOperations ∧ pilot.maxOperations ≤ 5) then
    valueError "the supervised pilot is limited to five operations"
  else if pilot.libraryRoot ≠ canonicalPath py pilot.libraryRoot
      ∨ package.snapshot.libraryRoot ≠ some (canonicalPath py pilot.libraryRoot) then
    valueError "pilot and evidence library roots do not match"
  else .ok (libraryRootSha256 py (canonicalPath py pilot.libraryRoot))

/-- `_pilot_operation_count`. -/
def pilotOperationCount (db : Db) (pilotId : String) : ℕ :=
  db.operations.count fun op => op.pilotId = some pilotId

/-- The session of a pilot, inserted when there is none. -/
def loadOrCreatePilot (db : Db) (pilot : PilotGuard) (rootSha256 : String) :
    Except PyError (Db × PilotSession) :=
  match db.pilots.get? pilot.pilotId with
  | some stored => .ok (db, stored)
  | none =>
    if pilotOperationCount db pilot.pilotId ≠ 0 then
      valueError "pilot budget ledger has operations without a persisted session"
    else
      let stored : PilotSession := {
        libraryRootSha256 := rootSha256
        releaseDigest := pilot.releaseDigest
        alembicRevision := pilot.alembicRevision
        maxOperations := pilot.maxOperations }
      .ok ({ db with pilots := db.pilots.set pilot.pilotId stored }, stored)

/-- `_lock_or_create_pilot`: the database with the session, and the session. -/
def lockOrCreatePilot (db : Db) (pilot : PilotGuard) (rootSha256 : String) :
    Except PyError (Db × PilotSession) :=
  match loadOrCreatePilot db pilot rootSha256 with
  | .error e => .error e
  | .ok (db', stored) =>
    if stored.libraryRootSha256 ≠ rootSha256 ∨ stored.releaseDigest ≠ pilot.releaseDigest
        ∨ stored.alembicRevision ≠ pilot.alembicRevision
        ∨ stored.maxOperations ≠ pilot.maxOperations then
      valueError "pilot runtime binding does not match its persisted session"
    else if stored.state ≠ .opened then valueError "pilot session is closed"
    else if stored.reservedOperations ≠ pilotOperationCount db pilot.pilotId then
      valueError "pilot budget ledger does not match its bound operations"
    else if stored.maxOperations ≤ stored.reservedOperations then
      valueError "pilot operation limit has been reached"
    else .ok (db', stored)

/-- The `where` of the query for unpublished events: an event that blocks a reservation of this
pilot. A comparison with a missing row is not true. -/
def blocksQueue (db : Db) (pilotId : String) (operationId : String) (event : OutboxEvent) : Bool :=
  let op := db.operations.get? operationId
  let pilot := op.bind fun op => op.pilotId.bind db.pilots.get?
  let lock := op.bind fun op => db.locks.get? op.bookKey
  decide (event.status ≠ .published) &&
    ((db.acknowledgements.get? operationId).isNone
      || op.any (·.policyVersion ≠ "manifestation-v2")
      || op.any (·.state ≠ .failed)
      || op.all (!·.completed)
      || decide (event.status ≠ .failed)
      || op.all (·.pilotId.isNone)
      || pilot.isNone
      || pilot.any (·.state ≠ .stopped)
      || op.any (·.pilotId = some pilotId)
      || lock.isSome)

/-! ### Queueing -/

/-- `queue_v2_operation`: the database and the id of the operation. -/
def queueV2Operation (db : Db) (operationId evidenceId authorizationId : String)
    (pilot : PilotGuard) : Except PyError (Db × String) :=
  match loadV2Package py validate db evidenceId with
  | .error e => .error e
  | .ok (_, package) => match db.books.get? package.bookKey with
    | none => valueError "book snapshot or Tier A identity is unavailable"
    | some book =>
      if book.runId ≠ package.runId ∨ package.identity.tier ≠ .tierA then
        valueError "book snapshot or Tier A identity is unavailable"
      else match validateV2BookSnapshot package.bookKey book package, v2Patch py package book with
        | .error e, _ => .error e
        | _, .error e => .error e
        | .ok _, .ok patch =>
          if patch = [] then valueError "canonical patch is empty"
          else if v2AuthorizationMatches py (db.authorizations.get? authorizationId)
              package.bookKey book package patch = false then
            valueError "exact manual authorization is required"
          else match validatePilotGuard py pilot package with
            | .error e => .error e
            | .ok rootSha256 => match lockOrCreatePilot db pilot rootSha256 with
              | .error e => .error e
              | .ok (db₁, stored) =>
                if db₁.operations.rows.any fun r => decide (r.2.state ∈ nonterminalStates) then
                  valueError "another nonterminal operation is already present"
                else if db₁.outbox.rows.any fun r => blocksQueue db₁ pilot.pilotId r.1 r.2 then
                  valueError "the writer outbox is not empty"
                else
                  let patchHash := hashJson py (.obj patch)
                  match createOperation db₁ operationId {
                      idempotencyKey :=
                        "apply-v2:" ++ pilot.pilotId ++ ":" ++ package.evidenceId ++ ":" ++ patchHash
                      operationType := "apply_metadata"
                      bookKey := package.bookKey
                      runId := some book.runId
                      requestedPatch := patch
                      authorizationId := some authorizationId
                      calibreBookId := book.calibreBookId
                      verdictHash := package.packageSha256
                      patchHash := some patchHash
                      fieldLocksHash := some (hashJson py (.obj book.fieldLocks))
                      expectedBeforeMetadata := some (expectedBefore book.currentMetadata patch)
                      policyVersion := "manifestation-v2"
                      evidenceId := some package.evidenceId
                      pilotId := some pilot.pilotId } with
                  | .error e => .error e
                  | .ok (db₂, id) =>
                    if (db₂.operations.get? id).any (·.state ≠ .requested) then
                      valueError "operation was already queued"
                    else if pilotOperationCount db₂ pilot.pilotId ≠ stored.reservedOperations + 1 then
                      valueError "pilot budget ledger changed while reserving an operation"
                    else .ok (({ db₂ with pilots := db₂.pilots.set pilot.pilotId { stored with
                        reservedOperations := pilotOperationCount db₂ pilot.pilotId } }
                      ).setBookStatus package.bookKey "apply_queued", id)

/-- `queue_undo_operation`. The status in the key makes a change that was applied again
undoable again. -/
def queueUndoOperation (db : Db) (operationId : String) (changeId : ℕ) :
    Except PyError (Db × String) :=
  match db.changes.get? changeId with
  | none => valueError "change must be persisted before it can be undone"
  | some change =>
    let book := db.books.get? change.bookKey
    let status := match change.status with
      | .pendingApply => "pending_apply"
      | .applied => "applied"
      | .failedRolledBack => "failed_rolled_back"
      | .failedRollbackFailed => "failed_rollback_failed"
      | .undone => "undone"
    match createOperation db operationId {
        idempotencyKey := "undo:" ++ toString changeId ++ ":" ++ status
        operationType := "undo_change"
        bookKey := change.bookKey
        runId := some change.runId
        requestedPatch := [("change_id", .int changeId)]
        calibreBookId := book.bind (·.calibreBookId)
        expectedBeforeMetadata := some change.afterMetadata } with
    | .error e => .error e
    | .ok (db', id) => .ok (db'.setBookStatus change.bookKey "undo_queued", id)

/-- What `queue_approved_operations` passes on for one book of a legacy verdict that is eligible or
authorized. -/
structure ApprovedRequest where
  operationId : String
  bookKey : String
  runId : String
  patch : Dict
  patchHash : String
  authorizationId : Option String
  calibreBookId : Option ℤ
  verdictHash : String
  fieldLocksHash : String
  expectedBefore : Dict
  deriving DecidableEq, Repr

/-- One pass of the loop of `queue_approved_operations`, after the eligibility checks. -/
def queueApproved (db : Db) (request : ApprovedRequest) : Except PyError Db :=
  match createOperation db request.operationId {
      idempotencyKey :=
        "apply:" ++ request.runId ++ ":" ++ request.bookKey ++ ":" ++ request.patchHash
      operationType := "apply_metadata"
      bookKey := request.bookKey
      runId := some request.runId
      requestedPatch := request.patch
      authorizationId := request.authorizationId
      calibreBookId := request.calibreBookId
      verdictHash := some request.verdictHash
      patchHash := some request.patchHash
      fieldLocksHash := some request.fieldLocksHash
      expectedBeforeMetadata := some request.expectedBefore } with
  | .error e => .error e
  | .ok (db', id) =>
    if (db'.operations.get? id).any (·.state = .requested) then
      .ok (db'.setBookStatus request.bookKey "apply_queued")
    else .ok db'

/-- `queue_approved_operations`. -/
def queueApprovedOperations (db : Db) : List ApprovedRequest → Except PyError Db
  | [] => .ok db
  | request :: rest => match queueApproved db request with
    | .error e => .error e
    | .ok db' => queueApprovedOperations db' rest

/-! ### Incidents -/

/-- `acknowledge_v2_failure`. -/
def acknowledgeV2Failure (db : Db) (operationId actor reason : String) : Except PyError Db :=
  let actor := strip actor
  let reason := strip reason
  if actor = "" ∨ 128 < actor.length ∨ reason.length < 12 ∨ 1000 < reason.length then
    valueError "a valid actor and detailed acknowledgement reason are required"
  else match db.operations.get? operationId with
    | none => valueError "only a completed V2 operation in a safe failed state can be acknowledged"
    | some op =>
      if op.policyVersion ≠ "manifestation-v2" ∨ op.state ≠ .failed ∨ op.completed = false
          ∨ present op.pilotId = false then
        valueError "only a completed V2 operation in a safe failed state can be acknowledged"
      else if (op.pilotId.bind db.pilots.get?).all (·.state ≠ .stopped) then
        valueError
          "the failed V2 operation's supervised pilot must be stopped before acknowledgement"
      else if (db.acknowledgements.get? operationId).isSome then
        valueError "operation incident is already acknowledged"
      else if (db.outbox.get? operationId).all (·.status ≠ .failed)
          ∨ (db.locks.get? op.bookKey).isSome then
        valueError "the failed V2 operation is not safely quiescent"
      else .ok { db with
        acknowledgements := db.acknowledgements.set operationId ⟨actor, reason⟩ }

/-- `pilot_stop`. -/
def pilotStop (db : Db) (pilotId : String) : Db :=
  match db.pilots.get? pilotId with
  | none => db
  | some pilot => { db with pilots := db.pilots.set pilotId { pilot with state := .stopped } }

/-! ### The gate of the writer -/

/-- `_validate_v2_apply_operation`; `revision` is `expected_schema_revision()`. -/
def validateV2ApplyOperation (db : Db) (op : OperationLedger) (book : BookRecord)
    (pilot : Option PilotGuard) (revision : String) : Except PyError Unit :=
  if op.operationType ≠ "apply_metadata" ∨ present op.evidenceId = false
      ∨ op.runId ≠ some book.runId ∨ op.calibreBookId ≠ book.calibreBookId
      ∨ op.fieldLocksHash ≠ some (hashJson py (.obj book.fieldLocks)) then
    valueError "V2 operation identity changed after authorization"
  else match loadV2Package py validate db (op.evidenceId.getD "") with
    | .error e => .error e
    | .ok (_, package) => match validateV2BookSnapshot op.bookKey book package with
      | .error e => .error e
      | .ok _ => match pilot with
        | none => valueError "V2 writer runtime pilot binding is unavailable"
        | some pilot => match validatePilotGuard py pilot package with
          | .error e => valueError ("V2 writer runtime pilot binding is invalid: " ++ e.message)
          | .ok rootSha256 =>
            if op.pilotId ≠ some pilot.pilotId then
              valueError "V2 operation is not bound to a supervised pilot"
            else match db.pilots.get? pilot.pilotId with
              | none =>
                valueError "V2 supervised pilot runtime binding is invalid or stopped"
              | some stored =>
                if stored.reservedOperations ≠ pilotOperationCount db pilot.pilotId then
                  valueError
                    "V2 supervised pilot budget ledger does not match its bound operations"
                else if stored.state ≠ .opened ∨ stored.reservedOperations < 1
                    ∨ stored.maxOperations < stored.reservedOperations
                    ∨ stored.libraryRootSha256 ≠ rootSha256
                    ∨ stored.releaseDigest ≠ pilot.releaseDigest
                    ∨ stored.alembicRevision ≠ pilot.alembicRevision
                    ∨ stored.alembicRevision ≠ revision
                    ∨ stored.maxOperations ≠ pilot.maxOperations then
                  valueError "V2 supervised pilot runtime binding is invalid or stopped"
                else match v2Patch py package book with
                  | .error e => .error e
                  | .ok patch =>
                    if package.identity.tier ≠ .tierA ∨ package.packageSha256 ≠ op.verdictHash
                        ∨ Json.pyEq (.obj patch) (.obj op.requestedPatch) = false
                        ∨ op.patchHash ≠ some (hashJson py (.obj patch)) then
                      valueError "V2 evidence seal or canonical patch changed after authorization"
                    else if v2AuthorizationMatches py
                        (op.authorizationId.bind db.authorizations.get?)
                        op.bookKey book package patch = false then
                      valueError "V2 operation lacks an exact manual authorization"
                    else .ok ()

/-- `validate_apply_operation`. -/
def validateApplyOperation (db : Db) (op : OperationLedger) (book : BookRecord)
    (pilot : Option PilotGuard) (revision : String) : Except PyError Unit :=
  if op.policyVersion ≠ "manifestation-v2" then
    valueError "legacy metadata apply is disabled at the writer boundary"
  else validateV2ApplyOperation py validate db op book pilot revision

end Ledger

end Bookwarden
