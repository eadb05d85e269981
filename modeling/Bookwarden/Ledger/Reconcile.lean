import Bookwarden.Ledger.Writer

/-!
# Reconciliation at a restart

`reconcile_incomplete_operations` of `apply/writer.py`. Each pass of its loop commits, so a pass is
one function; `reconcileIncompleteOperations` is the whole call.

## Main definitions

* `requeue`, `reconcileApply`, `reconcileUndo` — the three kinds of interrupted operations
* `reconcileOperation` — one pass of the loop
* `reconcileIncompleteOperations`
-/

namespace Bookwarden

namespace Ledger

variable (py : Runtime) (validate : Dict → Option EvidencePackageV2)

/-- The answers to the calls of one pass: the clock, the reading and the restore. -/
structure ReconcileReply where
  now : Moment
  read : Reading
  restore : RestoreReply

/-- `_lease_active` of an operation that has a lease. -/
def leaseActive (now : Moment) (op : OperationLedger) : Bool :=
  op.leaseExpiresAt.any fun expires => decide (now < expires)

/-- The transition of `_mark_unknown`. -/
def unknownPath : OperationState → List OperationState
  | .writing | .verifying => [.unknown]
  | .restoring => [.restoreFailed]
  | _ => []

/-- The transition made before a restore. -/
def restoringPath : OperationState → List OperationState
  | .writing | .verifying => [.restoring]
  | _ => []

/-- The transitions made when the target is observed. -/
def succeededPath : OperationState → List OperationState
  | .writing => [.verifying, .succeeded]
  | .verifying => [.succeeded]
  | _ => []

/-- `_mark_unknown` and `_finish_outbox`, after the transitions `steps`. -/
def markUnknown (op : OperationLedger) (steps : List OperationState) (error : String)
    (change : Option (ℕ × ChangeStatus)) : Verdict :=
  ⟨steps ++ unknownPath (steps.getLastD op.state), error, false, error, "error", change⟩

/-- What a pass decides: the operation as it is to be stored, how it is settled, what was read last
and how many commands were issued. -/
structure Decision where
  op : OperationLedger
  verdict : Verdict
  last : Option Readback := none
  issued : ℕ := 0

/-- A claimed operation goes back to the queue. -/
def requeue (db : Db) (id : String) (op : OperationLedger) : Except PyError Db :=
  match transitionOperation op .requested none, db.outbox.get? id with
  | .error e, _ => .error e
  | .ok _, none => .error noRow
  | .ok op', some event => .ok { db with
      operations := db.operations.set id { op' with leaseOwner := none, leaseExpiresAt := none }
      outbox := db.outbox.set id { event with status := .pending, lastError := none }
      locks := releaseLock db.locks op.bookKey id }

/-- The restore of the partial state of an apply operation. -/
def reconcilePartial (config : WriterConfig) (op : OperationLedger) (before : Dict)
    (change : Option (ℕ × Change)) (live : Readback) (r : ReconcileReply) : Decision :=
  match change with
  | none => {
      op
      verdict := markUnknown op [] "partial state without restore point" none
      last := some live }
  | some (changeId, change) =>
    let y := restoreAndCheck (restoreChange config.artifactsDir change) r.restore fun rb =>
      matchesPatch py rb before
    let verdict : Verdict := match y.verdict with
      | .error e =>
        markUnknown op (restoringPath op.state) e.message (some (changeId, .failedRollbackFailed))
      | .ok true => ⟨restoringPath op.state ++ [.restored], none, false, "partial state restored",
          "suggest_fix", some (changeId, .failedRolledBack)⟩
      | .ok false =>
        let text := "restore verification failed"
        ⟨restoringPath op.state ++ [.restoreFailed], text, false, text, "error",
          some (changeId, .failedRollbackFailed)⟩
    { op, verdict, last := y.last <|> some live, issued := y.issued }

/-- The restore after the files of the book changed. -/
def reconcileChanged (config : WriterConfig) (op : OperationLedger) (before : Dict)
    (change : Option (ℕ × Change)) (live : Readback) (e : PyError) (r : ReconcileReply) :
    Decision :=
  let text := "V2 ebook snapshot changed: " ++ e.message
  match change with
  | none => { op, verdict := markUnknown op [] text none, last := some live }
  | some (changeId, change) =>
    let y := restoreAndCheck (restoreChange config.artifactsDir change) r.restore fun rb =>
      matchesPatch py rb before
    let verdict : Verdict :=
      match require "restore verification failed after ebook snapshot change" y.verdict with
      | .error e =>
        markUnknown op (restoringPath op.state) e.message (some (changeId, .failedRollbackFailed))
      | .ok _ => ⟨restoringPath op.state ++ [.restored], text, false, text, "error",
          some (changeId, .failedRolledBack)⟩
    { op, verdict, last := y.last <|> some live, issued := y.issued }

/-- What is decided about an apply operation with its evidence at hand. -/
def decideApply (config : WriterConfig) (db : Db) (op : OperationLedger) (before : Dict)
    (change : Option (ℕ × Change)) (r : ReconcileReply) : Decision :=
  let caught (op : OperationLedger) (e : PyError) (last : Option Readback) : Decision := {
    op
    verdict := markUnknown op [] e.message (change.map fun c => (c.1, .failedRollbackFailed))
    last }
  match r.read with
  | .error e => caught op e none
  | .ok live =>
    let op := { op with observedMetadata := some live.record }
    match verifyRelocated py validate config.libraryPath db op (.ok live) with
    | .error e =>
      if isOsOrValue e then reconcileChanged py config op before change live e r
      else caught op e (some live)
    | .ok op => match matchesPatch py live (op.targetMetadata.getD []) with
      | .error e => caught op e (some live)
      | .ok true =>
        if op.state = .writing ∨ op.state = .verifying then {
          op
          verdict := ⟨succeededPath op.state, none, true, none, "applied",
            change.map fun c => (c.1, .applied)⟩
          last := some live }
        else {
          op
          verdict := markUnknown op [] "target observed during restore" none
          last := some live }
      | .ok false => match matchesPatch py live before with
        | .error e => caught op e (some live)
        | .ok true => {
            op
            verdict := ⟨restoringPath op.state ++ [.restored], none, false,
              "previous state already restored", "suggest_fix",
              change.map fun c => (c.1, .failedRolledBack)⟩
            last := some live }
        | .ok false => reconcilePartial py config op before change live r

/-- The evidence reconciliation needs about an operation: the record before the write. -/
def recoveryEvidence (book : Option BookRecord) (op : OperationLedger) : Option Dict :=
  if (book.bind (·.calibreBookId)).getD 0 = 0 ∨ op.targetMetadata = none then none
  else op.beforeMetadata

/-- Reconcile an interrupted apply operation. -/
def reconcileApply (config : WriterConfig) (db : Db) (id : String) (op : OperationLedger)
    (r : ReconcileReply) : Decision :=
  match recoveryEvidence (db.books.get? op.bookKey) op with
  | none => { op, verdict := markUnknown op [] "insufficient recovery evidence" none }
  | some before => decideApply py validate config db op before (db.changeOf id) r

/-- What is decided about an undo operation with its evidence at hand. -/
def decideUndo (config : WriterConfig) (op : OperationLedger) (before : Dict) (changeId : ℕ)
    (r : ReconcileReply) : Decision :=
  match r.read with
  | .error e => { op, verdict := markUnknown op [] e.message none }
  | .ok live =>
    let op := { op with observedMetadata := some live.record }
    match matchesPatch py live (op.targetMetadata.getD []) with
    | .error e => { op, verdict := markUnknown op [] e.message none, last := some live }
    | .ok true =>
      if op.state = .writing ∨ op.state = .verifying then {
        op
        verdict := ⟨succeededPath op.state, none, true, none, "suggest_fix",
          some (changeId, .undone)⟩
        last := some live }
      else {
        op
        verdict := markUnknown op [] "undo target observed while restore was in progress" none
        last := some live }
    | .ok false => match matchesPatch py live before with
      | .error e => { op, verdict := markUnknown op [] e.message none, last := some live }
      | .ok true => {
          op
          verdict := ⟨restoringPath op.state ++ [.restored], none, false,
            "pre-undo state preserved", "applied", none⟩
          last := some live }
      | .ok false =>
        let commands := match op.rollbackOpfPath with
          | none => .error ⟨.other, "undo rollback artifact is unavailable"⟩
          | some _ => restoreOperationRollback config.artifactsDir op
        let y := restoreAndCheck commands r.restore fun rb => matchesPatch py rb before
        let verdict : Verdict := match require "undo rollback verification failed" y.verdict with
          | .error e => markUnknown op (restoringPath op.state) e.message none
          | .ok _ => ⟨restoringPath op.state ++ [.restored], none, false, "partial undo restored",
              "applied", none⟩
        { op, verdict, last := y.last <|> some live, issued := y.issued }

/-- The change an undo operation is about: `change_id or requested_patch.get("change_id")`. -/
def undoneChange (db : Db) (op : OperationLedger) : Option ℕ :=
  let changeId := match op.changeId with
    | none | some 0 => asChangeId (op.requestedPatch.get "change_id")
    | some n => some n
  changeId.filter fun n => (db.changes.get? n).isSome

/-- `_reconcile_undo`. -/
def reconcileUndo (config : WriterConfig) (db : Db) (op : OperationLedger) (r : ReconcileReply) :
    Decision :=
  match undoneChange db op, recoveryEvidence (db.books.get? op.bookKey) op with
  | some changeId, some before => decideUndo py config op before changeId r
  | _, _ => { op, verdict := markUnknown op [] "insufficient undo recovery evidence" none }

/-- What a pass decides about an operation whose write may have started. -/
def reconcileDecision (config : WriterConfig) (db : Db) (id : String) (op : OperationLedger)
    (r : ReconcileReply) : Decision :=
  if op.operationType = "undo_change" then reconcileUndo py config db op r
  else reconcileApply py validate config db id op r

/-- One pass of the loop; `rest` are the operations after this one. An exception that leaves the
loop ends the process. -/
def reconcileOperation (config : WriterConfig) (db : Db) (id : String) (rest : List String)
    (r : ReconcileReply) : Outcome :=
  match db.operations.get? id with
  | none => { db, control := .stopped }
  | some op =>
    if op.state = .claimed then
      if leaseActive r.now op then { db, control := .reconciling rest }
      else match requeue db id op with
        | .error _ => { db, control := .stopped, attempted := attempts op.state [.requested] }
        | .ok db' => {
            db := db'
            control := .reconciling rest
            attempted := attempts op.state [.requested] }
    else
      let d := reconcileDecision py validate config db id op r
      conclude db id d.op op.bookKey d.verdict (.reconciling rest) (fun _ => .stopped) d.last
        d.issued

/-- The operations of the query of `reconcile_incomplete_operations`. -/
def incompleteOperations (db : Db) : List String :=
  (db.operations.filter fun op => decide (op.state ∈ inflightStates)).map Prod.fst

/-- The loop over the operations, each with its own answers. `none` when an exception leaves it. -/
def reconcileLoop (config : WriterConfig) (replies : String → ReconcileReply) (db : Db) :
    List String → Option Db
  | [] => some db
  | id :: rest =>
    let o := reconcileOperation py validate config db id rest (replies id)
    match o.control with
    | .reconciling _ => reconcileLoop config replies o.db rest
    | _ => none

/-- `reconcile_incomplete_operations`. -/
def reconcileIncompleteOperations (config : WriterConfig) (db : Db)
    (replies : String → ReconcileReply) : Option Db :=
  reconcileLoop py validate config replies db (incompleteOperations db)

end Ledger

end Bookwarden
