import Bookwarden.Lib.Runs
import Bookwarden.Ledger.Reconcile

/-!
# The write path as a machine

One writer process, started and killed at any time, beside the web process that queues, stops and
acknowledges, and the verifier that stores books, packages and authorizations. An event is one
transaction, or the part of a writer's call between two commits; an event that the writer is not
ready for changes nothing.

`before` and `last` are ghosts: for each operation the reading `process` took before the write and
the writer's latest one. So are `attempted`, the transitions tried so far, and `issued`, the number
of commands that reached the library.

## Main definitions

* `State`, `Event`, `exec`, `State.initial`, `Reachable`
-/

namespace Bookwarden

namespace Ledger

variable (py : Runtime) (validate : Dict → Option EvidencePackageV2)

/-- The database, the writer process and the ghosts. -/
structure State where
  db : Db
  config : WriterConfig
  control : Control
  before : String → Option Readback := fun _ => none
  last : String → Option Readback := fun _ => none
  attempted : List (OperationState × OperationState) := []
  issued : ℕ := 0

/-- What can happen, with the answers of the environment. -/
inductive Event
  | queueV2 (operationId evidenceId authorizationId : String) (pilot : PilotGuard)
  | queueUndo (operationId : String) (changeId : ℕ)
  | queueApproved (requests : List ApprovedRequest)
  | acknowledge (operationId actor reason : String)
  | stopPilot (pilotId : String)
  /-- Scans, verifications and authorizations. -/
  | record (books : Table String BookRecord) (packages : Table String StoredPackage)
      (authorizations : Table String ManualAuthorization)
  | start (config : WriterConfig)
  | reconcile (r : ReconcileReply)
  | claim (owner : String) (expires : Moment)
  | process (r : ProcessReply)
  | prepare (r : PrepareReply)
  | write (r : WriteReply)
  | finish (r : FinishReply)
  | unwind
  | undo (r : UndoReply)
  | fail
  | crash

/-- Take over what a part of a call left. -/
def State.absorb (s : State) (id : String) (o : Outcome) : State where
  db := o.db
  config := s.config
  control := o.control
  before := match o.before with
    | some rb => Function.update s.before id (some rb)
    | none => s.before
  last := match o.last with
    | some rb => Function.update s.last id (some rb)
    | none => s.last
  attempted := s.attempted ++ o.attempted
  issued := s.issued + o.issued

/-- The row of the operation at work, read again after a commit. -/
def State.resume (s : State) (id : String) (f : OperationLedger → Outcome) : State :=
  s.absorb id (match s.db.operations.get? id with
    | some op => f op
    | none => raising s.db id noRow)

/-- The rows of the operation at work and of its change. -/
def State.resumeChange (s : State) (id : String) (changeId : ℕ)
    (f : OperationLedger → Change → Outcome) : State :=
  s.resume id fun op => match s.db.changes.get? changeId with
    | some change => f op change
    | none => raising s.db id noRow

/-- A transaction of the web process: rolled back when it raises. -/
def State.commit (s : State) : Except PyError Db → State
  | .ok db => { s with db }
  | .error _ => s

/-- `claim_next_operation` in the loop. An exception of it ends the process. -/
def State.claim (s : State) (owner : String) (expires : Moment) : State :=
  match claimNextOperation s.db owner expires with
  | .error _ => { s with control := .stopped }
  | .ok (db, none) => { s with db }
  | .ok (db, some id) => { s with
      db
      control := .claimed id
      attempted := s.attempted ++ [(.requested, .claimed)] }

/-- One event. -/
def exec (s : State) : Event → State
  | .queueV2 operationId evidenceId authorizationId pilot =>
    s.commit ((queueV2Operation py validate s.db operationId evidenceId authorizationId
      pilot).map Prod.fst)
  | .queueUndo operationId changeId =>
    s.commit ((queueUndoOperation s.db operationId changeId).map Prod.fst)
  | .queueApproved requests => s.commit (queueApprovedOperations s.db requests)
  | .acknowledge operationId actor reason =>
    s.commit (acknowledgeV2Failure s.db operationId actor reason)
  | .stopPilot pilotId => { s with db := pilotStop s.db pilotId }
  | .record books packages authorizations =>
    { s with db := { s.db with books, packages, authorizations } }
  | .start config => match s.control with
    | .stopped => { s with config, control := .reconciling (incompleteOperations s.db) }
    | _ => s
  | .reconcile r => match s.control with
    | .reconciling [] => { s with control := .idle }
    | .reconciling (id :: rest) =>
      s.absorb id (reconcileOperation py validate s.config s.db id rest r)
    | _ => s
  | .claim owner expires => match s.control with
    | .idle => s.claim owner expires
    | _ => s
  | .process r => match s.control with
    | .claimed id => s.absorb id (beginOperation py validate s.config s.db id r)
    | _ => s
  | .prepare r => match s.control with
    | .applying id before => s.resume id fun op => prepareApply py s.config s.db id op before r
    | _ => s
  | .write r => match s.control with
    | .prepared id before changeId cover => s.resumeChange id changeId fun op change =>
        writeChange py s.config s.db id op before changeId change cover r
    | _ => s
  | .finish r => match s.control with
    | .written id before changeId => s.resumeChange id changeId fun op change =>
        finishApply py validate s.config s.db id op before changeId change r
    | _ => s
  | .unwind => match s.control with
    | .rolledBack id exc => s.resume id fun op => applyRaised s.db id op exc
    | _ => s
  | .undo r => match s.control with
    | .undoing id before changeId => s.resumeChange id changeId fun op change =>
        finishUndo py s.config s.db id op before changeId change r
    | _ => s
  | .fail => match s.control with
    | .raised id exc => s.absorb id (failOperation s.db id exc)
    | _ => s
  | .crash => { s with control := .stopped }

/-- An empty ledger and no writer; the configuration is chosen at the first start. -/
def State.initial : State where
  db := .empty
  config := ⟨none, none, none, ""⟩
  control := .stopped

/-- The states the write path can reach. -/
def Reachable (s : State) : Prop :=
  ∃ es : List Event, Runs.run (exec py validate) State.initial es = s

end Ledger

end Bookwarden
