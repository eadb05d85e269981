import Bookwarden.Ledger.Consistency

/-!
# Queueing an undo again

`queue_undo_operation` builds its idempotency key from the change id and the status of the change.
A change that is applied stays applied when an undo of it fails, so the key of the second request is
the key of the first, and `create_operation` hands back the operation that has failed. The book is
marked all the same.

## Main definitions

* `Db.holder` — the operation that has an idempotency key
* `UndoKept` — the request raised and left the books alone, or an operation waits for the writer
* `Undoable` — the key of the change is free, or its operation is still waiting

## Main results

* `queueUndoOperation_of_applied` — a request is one `create_operation` and one status
* `undo_kept_iff` — no request is dropped exactly when the change is `Undoable`
* `failed_undo_dropped` — a run in which it is dropped
-/

namespace Bookwarden

namespace Ledger

open WorkQueue (Consistent Delivery)

variable {py : Runtime} {validate : Dict → Option EvidencePackageV2}

/-- The operation that has the idempotency key. -/
def Db.holder (db : Db) (key : String) : Option (String × OperationLedger) :=
  db.operations.rows.find? fun r => r.2.idempotencyKey = key

/-- The idempotency key of an undo of a change that is applied. -/
def undoKey (changeId : ℕ) : String := "undo:" ++ toString changeId ++ ":" ++ "applied"

/-- What `queue_undo_operation` asks `create_operation` for. -/
def undoRequest (db : Db) (changeId : ℕ) (change : Change) : OperationLedger where
  idempotencyKey := undoKey changeId
  operationType := "undo_change"
  bookKey := change.bookKey
  runId := some change.runId
  requestedPatch := [("change_id", .int changeId)]
  calibreBookId := (db.books.get? change.bookKey).bind (·.calibreBookId)
  expectedBeforeMetadata := some change.afterMetadata

/-- The operation is in `requested`, and its event is pending. -/
def Waiting (db : Db) (id : String) : Prop :=
  db.stateOf id = some .requested ∧ (db.outbox.get? id).map (·.status) = some Delivery.pending

/-- The request raised and left the books alone, or it returned an operation that waits for the
writer. -/
def UndoKept (s : State) (operationId : String) (changeId : ℕ) : Prop :=
  match queueUndoOperation s.db operationId changeId with
  | .error _ => (s.commit ((queueUndoOperation s.db operationId changeId).map Prod.fst)).db.books
      = s.db.books
  | .ok (db', id) => Waiting db' id

/-- No operation has the key of an undo of this change, or the one that has it is still waiting. -/
def Undoable (db : Db) (changeId : ℕ) : Prop :=
  ∀ id op, db.holder (undoKey changeId) = some (id, op) → op.state = .requested

theorem get?_of_holder {db : Db} {key id : String} {op : OperationLedger}
    (h : db.holder key = some (id, op)) : db.operations.get? id = some op :=
  Table.mem_rows_iff.mp (List.mem_of_find?_eq_some h)

theorem queueUndoOperation_of_applied {db : Db} {changeId : ℕ} {change : Change}
    (hchange : db.changes.get? changeId = some change) (happlied : change.status = .applied)
    (operationId : String) :
    queueUndoOperation db operationId changeId
      = (createOperation db operationId (undoRequest db changeId change)).map fun r =>
          (r.1.setBookStatus change.bookKey "undo_queued", r.2) := by
  rw [queueUndoOperation, hchange]
  simp only [happlied]
  cases hcreate : createOperation db operationId (undoRequest db changeId change) with
  | error e =>
    simp only [undoRequest, undoKey] at hcreate
    rw [hcreate]
    rfl
  | ok r =>
    simp only [undoRequest, undoKey] at hcreate
    rw [hcreate]
    rfl

theorem waiting_setBookStatus {db : Db} {id : String} (bookKey status : String) :
    Waiting (db.setBookStatus bookKey status) id ↔ Waiting db id := by
  rw [Waiting, Waiting, Db.stateOf, Db.stateOf, setBookStatus_operations, setBookStatus_outbox]

/-- With consistent tables, an operation that is requested waits. -/
theorem waiting_iff {db : Db} (hc : Consistent db.queue) {id : String} {op : OperationLedger}
    (hop : db.operations.get? id = some op) : Waiting db id ↔ op.state = .requested := by
  have hstate : db.stateOf id = some op.state := stateOf_of_get? hop
  constructor
  · intro h
    exact Option.some.inj (hstate.symm.trans h.1)
  · intro h
    obtain ⟨event, hevent, hpending⟩ := ((follows_of_consistent hc hop).requested h).1
    exact ⟨by rw [hstate, h], by rw [hevent, Option.map_some, hpending]⟩

/-- A request whose key is free either meets a used operation id or leaves a waiting operation. -/
theorem undoKept_of_free {s : State} {operationId : String} {changeId : ℕ} {change : Change}
    (hchange : s.db.changes.get? changeId = some change) (happlied : change.status = .applied)
    (hfree : s.db.holder (undoKey changeId) = none) : UndoKept s operationId changeId := by
  have hnone : s.db.operations.rows.find? (fun r =>
      decide (r.2.idempotencyKey = (undoRequest s.db changeId change).idempotencyKey)) = none := hfree
  rw [UndoKept, queueUndoOperation_of_applied hchange happlied, createOperation, hnone]
  by_cases hused : (s.db.operations.get? operationId).isSome
  · simp only [hused, if_true]
    rfl
  · simp only [hused]
    refine (waiting_setBookStatus _ _).mpr ⟨?_, ?_⟩
    · show ((s.db.operations.set operationId _).get? operationId).map _ = _
      rw [Table.get?_set_self]
      rfl
    · show ((s.db.outbox.set operationId {}).get? operationId).map _ = _
      rw [Table.get?_set_self]
      rfl

/-- With consistent tables, the request is kept exactly when the change is undoable. -/
theorem undoKept_iff_undoable {s : State} (hc : Consistent s.db.queue) {changeId : ℕ}
    {change : Change} (hchange : s.db.changes.get? changeId = some change)
    (happlied : change.status = .applied) (operationId : String) :
    UndoKept s operationId changeId ↔ Undoable s.db changeId := by
  cases hholder : s.db.holder (undoKey changeId) with
  | none =>
    have hfree : Undoable s.db changeId := by
      intro id op h
      rw [hholder] at h
      exact absurd h (by simp)
    exact iff_of_true (undoKept_of_free hchange happlied hholder) hfree
  | some existing =>
    obtain ⟨id, op⟩ := existing
    have hsome : s.db.operations.rows.find? (fun r =>
        decide (r.2.idempotencyKey = (undoRequest s.db changeId change).idempotencyKey))
          = some (id, op) := hholder
    rw [UndoKept, queueUndoOperation_of_applied hchange happlied, createOperation, hsome]
    show Waiting (s.db.setBookStatus change.bookKey "undo_queued") id ↔ _
    rw [waiting_setBookStatus, waiting_iff hc (get?_of_holder hholder)]
    constructor
    · intro hrequested id' op' h
      rw [hholder] at h
      obtain ⟨-, rfl⟩ := Prod.mk.inj (Option.some.inj h)
      exact hrequested
    · intro h
      exact h id op hholder

theorem run_consistent (es : List Event) :
    Consistent (Runs.run (exec py validate) State.initial es).db.queue := by
  have hrun : LawfulStep State.initial (Runs.run (exec py validate) State.initial es) :=
    run_lawful initial_lawful es
  exact hrun.1.tables

/-- A request whose key belongs to an operation that has failed is not kept. -/
theorem not_undoKept_of_failed {s : State} (hc : Consistent s.db.queue) {changeId : ℕ}
    (happlied : (s.db.changes.get? changeId).map (·.status) = some .applied)
    (hfailed : (s.db.holder (undoKey changeId)).map (fun r => r.2.state) = some .failed)
    (operationId : String) : ¬ UndoKept s operationId changeId := by
  intro hkept
  obtain ⟨change, hchange, hstatus⟩ := Option.map_eq_some_iff.mp happlied
  obtain ⟨⟨id, op⟩, hop, hstate⟩ := Option.map_eq_some_iff.mp hfailed
  have hrequested := (undoKept_iff_undoable hc hchange hstatus operationId).mp hkept id op hop
  rw [hrequested] at hstate
  exact absurd hstate (by decide)

/-- **No undo is dropped.** In every reachable ledger, a request to undo a change that is applied
raises and leaves the book alone, or returns an operation that is requested and has a pending event,
exactly when no operation has the key of the change or the one that has it is still requested. -/
theorem undo_kept_iff (py : Runtime) (validate : Dict → Option EvidencePackageV2)
    (es : List Event) (changeId : ℕ) (operationId : String)
    (happlied : ((Runs.run (exec py validate) State.initial es).db.changes.get? changeId).map
      (·.status) = some .applied) :
    UndoKept (Runs.run (exec py validate) State.initial es) operationId changeId ↔
      Undoable (Runs.run (exec py validate) State.initial es).db changeId := by
  obtain ⟨change, hchange, hstatus⟩ := Option.map_eq_some_iff.mp happlied
  exact undoKept_iff_undoable (run_consistent es) hchange hstatus operationId

/-! ### An undo that fails -/

/-- A runtime with one digest: every hash of the example is compared with a hash of the same
text. -/
def oneDigest : Runtime := { Runtime.ascii with sha256 := fun _ => "0" }

/-- The one file of the example book. -/
def undoFormat : FormatEvidence := { exampleFormat "EPUB" with path := "/library/b.epub" }

/-- What the content of the book and one provider state. -/
def undoEvidence : List SourceEvidence := exampleContent ++ exampleRecord "volume-1"

/-- A Tier A package of the example book, whose record has no title and no identifiers. -/
def undoPackage : EvidencePackageV2 where
  evidenceId := "e"
  runId := "run"
  bookKey := "calibre:1"
  createdAt := "2026"
  state := .shadowed
  snapshot := {
    bookKey := "calibre:1"
    calibreBookId := 1
    currentMetadata := []
    files := ["/library/b.epub"]
    libraryRoot := some "/library"
    snapshotSha256 := "0" }
  formats := [undoFormat]
  sourceEvidence := undoEvidence
  identity := (resolveManifestation oneDigest [undoFormat] undoEvidence []).getD { tier := .tierC }
  packageSha256 := some "0"

/-- The pilot the writer is bound to. -/
def undoPilot : PilotGuard where
  enabled := true
  pilotId := "pilot"
  libraryRoot := "/library"
  releaseDigest := "sha256:0000000000000000000000000000000000000000000000000000000000000000"
  alembicRevision := "head"
  maxOperations := 5
  writerReady := true

/-- A reading of the live record; the file has its sealed content. -/
def undoReading (record : Dict) : Reading := .ok {
  record := record ++ [("formats", .strs ["/library/b.epub"])]
  files _ := .content undoFormat.sha256 }

/-- The patch of the package is queued and written, and a first undo of it is queued. -/
def appliedEvents : List Event :=
  [.record
      ⟨[("calibre:1", {
        runId := "run"
        calibreBookId := some 1
        files := [.obj [("path", .str "/library/b.epub")]] })], by decide⟩
      ⟨[("e", {
        bookKey := "calibre:1"
        runId := "run"
        extracted := undoPackage.identity.toJson
        schemaVersion := 2
        observations := some [("evidence_id", .str "e")] })], by decide⟩
      ⟨[("a", {
        bookKey := "calibre:1"
        runId := "run"
        verdictHash := "0"
        patchHash := "0"
        actor := "curator"
        reason := "reviewed" })], by decide⟩,
    .queueV2 "op-1" "e" "a" undoPilot,
    .start ⟨some undoPilot, some "/library", some "/artifacts", "head"⟩,
    .reconcile { now := 0, read := .error noRow, restore := { read := .error noRow } },
    .claim "writer" 60,
    .process { read := undoReading [] },
    .prepare { backup := "b", opfSha256 := "0", stagedCover := "", cover := .error noRow },
    .write { target := .ok ("t.opf", "0"), replies := [none], rollback := { read := .error noRow } },
    .finish {
      first := undoReading undoPackage.identity.autoPatch
      second := undoReading undoPackage.identity.autoPatch
      restore := { read := .error noRow } }]

/-- The first undo meets a record that somebody has edited, and fails. -/
def failedUndoEvents : List Event :=
  appliedEvents ++ [.queueUndo "op-2" 1, .claim "writer" 60,
    .process { read := undoReading [("title", .str "An Edited Title")] }]

/-- Reading back the package of the example. -/
def undoValidate (_ : Dict) : Option EvidencePackageV2 := some undoPackage

/-- After the write the change is applied, and its key is free. -/
theorem applied_run :
    ((Runs.run (exec oneDigest undoValidate) State.initial appliedEvents).db.changes.get? 1).map
        (·.status) = some .applied ∧
      (Runs.run (exec oneDigest undoValidate) State.initial appliedEvents).db.holder (undoKey 1)
        = none := by decide +kernel

/-- After the failed undo the change is still applied, and its key belongs to the failed operation;
a further request marks the book. -/
theorem failed_run :
    ((Runs.run (exec oneDigest undoValidate) State.initial failedUndoEvents).db.changes.get? 1).map
        (·.status) = some .applied ∧
      ((Runs.run (exec oneDigest undoValidate) State.initial failedUndoEvents).db.holder
        (undoKey 1)).map (fun r => r.2.state) = some .failed ∧
      ((exec oneDigest undoValidate (Runs.run (exec oneDigest undoValidate) State.initial
        failedUndoEvents) (.queueUndo "op-3" 1)).db.books.get? "calibre:1").map (·.status)
          = some "undo_queued" := by decide +kernel

/-- The first undo of the example is queued. -/
theorem undo_kept_iff_first :
    UndoKept (Runs.run (exec oneDigest undoValidate) State.initial appliedEvents) "op-2" 1 := by
  have hfree := applied_run.2
  have hiff := undo_kept_iff oneDigest undoValidate appliedEvents 1 "op-2" applied_run.1
  generalize Runs.run (exec oneDigest undoValidate) State.initial appliedEvents = s at hfree hiff ⊢
  refine hiff.mpr fun id op h => ?_
  rw [hfree] at h
  exact absurd h (by simp)

/-- **Dropped.** After the first undo has failed the change is still applied. The second request
returns the failed operation, and the book is marked as queued for an undo. -/
theorem failed_undo_dropped :
    ((Runs.run (exec oneDigest undoValidate) State.initial failedUndoEvents).db.changes.get? 1).map
        (·.status) = some .applied ∧
      ¬ UndoKept (Runs.run (exec oneDigest undoValidate) State.initial failedUndoEvents) "op-3" 1 ∧
      ((exec oneDigest undoValidate (Runs.run (exec oneDigest undoValidate) State.initial
        failedUndoEvents) (.queueUndo "op-3" 1)).db.books.get? "calibre:1").map (·.status)
          = some "undo_queued" := by
  have hdropped := not_undoKept_of_failed (run_consistent _) failed_run.1 failed_run.2.1 "op-3"
  exact ⟨failed_run.1, hdropped, failed_run.2.2⟩

end Ledger

end Bookwarden
