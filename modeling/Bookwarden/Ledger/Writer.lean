import Bookwarden.Ledger.Coordinator

/-!
# The metadata writer

`apply/writer.py` with `ApplyEngine.apply_patch` of `apply/engine.py`. A call of the writer is cut
at its commits: each function here is what happens between two of them, so a crash can fall between
any two functions.

What the environment answers is an argument: every reading of the live record, every failure of an
artifact, and for each command whether it raised. Nothing is assumed about what a command does to
the library, so a reading may show anything.

## Main definitions

* `Reading`, `Command`, `execute`, `restoreAndCheck` — the environment
* `verifyV2LiveFiles`, `metadataMatchesRestore` — the checks on a live record beside `matchesPatch`
* `Control`, `Outcome`, `Verdict`, `conclude`
* `claimNextOperation`, `beginOperation`, `prepareApply`, `writeChange`, `finishApply`,
  `finishUndo`, `failOperation` — a writer at work
-/

namespace Bookwarden

namespace Ledger

open WorkQueue (Delivery)

variable (py : Runtime) (validate : Dict → Option EvidencePackageV2)

/-- What a writer process is started with. -/
structure WriterConfig where
  pilot : Option PilotGuard
  libraryPath : Option String
  artifactsDir : Option String
  schemaRevision : String
  deriving DecidableEq, Repr

/-- The answer of `show_metadata`, with the files of the library at that moment. -/
abbrev Reading := Except PyError Readback

/-! ### Files of the library -/

/-- `sha256_file_beneath`. The path and the root are made absolute and normal before they are
compared; a file that is missing or not a regular one is a `SecurePathError`. -/
def sha256FileBeneath (root : Option String) (files : String → FileView) (path : String) :
    Except PyError String :=
  if root.any fun r => !isRelativeTo (canonicalPath py path) (canonicalPath py r) then
    .error ⟨.other, "path is outside its configured root"⟩
  else if root.any fun r => canonicalPath py path = canonicalPath py r then
    .error ⟨.other, "a directory root cannot be consumed as a regular file"⟩
  else match files path with
    | .missing => .error ⟨.other, "unsafe or symlinked file path"⟩
    | .unreadable => .error ⟨.os, "file is unreadable"⟩
    | .content sha => .ok sha

/-- `_secure_library_file_sha256`. -/
def secureLibraryFileSha256 (root : String) (files : String → FileView) (path : String) :
    Except PyError String :=
  if isAbsPath path then sha256FileBeneath py (some root) files path
  else valueError "ebook path is not absolute"

/-- The loop over the live paths: every file hashes to its sealed value. -/
def verifyContents (root : String) (files : String → FileView) (expected : List (String × String)) :
    List String → Except PyError Unit
  | [] => .ok ()
  | path :: rest => match secureLibraryFileSha256 py root files path with
    | .error e => .error e
    | .ok sha =>
      if some sha = Assoc.get? path expected then verifyContents root files expected rest
      else valueError "ebook content hash differs"

/-- The formats and hashes of the live paths, in the order of the record. -/
def liveFormats (root : String) (files : String → FileView) :
    List String → Except PyError (List (String × String))
  | [] => .ok []
  | path :: rest => match secureLibraryFileSha256 py root files path with
    | .error e => .error e
    | .ok sha => match liveFormats root files rest with
      | .error e => .error e
      | .ok items => .ok ((py.casefold (pathSuffix path), sha) :: items)

/-- `sorted` on pairs of strings. -/
def sortedPairs (items : List (String × String)) : List (String × String) :=
  items.insertionSort fun a b => a.1 < b.1 ∨ (a.1 = b.1 ∧ a.2 ≤ b.2)

/-- `_verify_v2_live_files`. -/
def verifyV2LiveFiles (db : Db) (libraryPath : Option String) (op : OperationLedger)
    (live : Readback) (allowRelocation : Bool) : Except PyError Unit :=
  if present op.evidenceId = false then valueError "V2 operation has no evidence package"
  else match loadV2Package py validate db (op.evidenceId.getD "") with
    | .error e => .error e
    | .ok (_, package) => match libraryPath with
      | none => valueError "V2 writer requires an explicit configured Calibre library path"
      | some libraryPath =>
        let root := canonicalPath py libraryPath
        let paths := formatPaths (live.record.get "formats")
        let expected := Assoc.update [] (package.formats.map fun item => (item.path, item.sha256))
        if package.snapshot.libraryRoot.map (canonicalPath py) ≠ some root then
          valueError "configured Calibre library differs from the sealed snapshot root"
        else if ¬ paths.Nodup then
          valueError "live Calibre format membership contains duplicate paths"
        else if Assoc.keys expected ≠ package.snapshot.files then
          valueError "sealed format evidence is incomplete or reordered"
        else if allowRelocation = false then
          if paths ≠ package.snapshot.files then
            valueError "live Calibre format membership differs from the sealed snapshot"
          else verifyContents py root live.files expected paths
        else match liveFormats py root live.files paths with
          | .error e => .error e
          | .ok items =>
            if sortedPairs items
                = sortedPairs (package.formats.map fun item => (py.casefold item.format, item.sha256))
            then .ok ()
            else valueError "live Calibre formats or content differ from the sealed snapshot"

/-- The value a record shows for a column, else for the edition: `str(value or "")`. -/
def shownColumn (record : Dict) (column : String) : String :=
  orEmpty py (record.getD column (record.getD "edition_statement" (.str "")))

/-- The fields `_metadata_matches_restore` leaves to its own checks, and the volatile ones. -/
def restoreIgnored : List String :=
  ["cover", "#edition", "edition_statement"] ++ volatileMetadataFields

/-- `_metadata_matches_restore`. -/
def metadataMatchesRestore (libraryPath : Option String) (live : Readback) (expected : Dict)
    (change : Change) : Except PyError Bool :=
  if ¬ expected.all fun item =>
      decide (item.1 ∈ restoreIgnored) || Json.pyEq (live.record.get item.1) item.2 then .ok false
  else if ¬ change.beforeCustom.all fun item => shownColumn py live.record item.1 = item.2 then
    .ok false
  else if present change.backupCoverPath = false then .ok true
  else match live.record.get "cover", change.backupCoverSha256 with
    | .str path, some backup => match sha256FileBeneath py libraryPath live.files path with
      | .error e => .error e
      | .ok sha => .ok (sha = backup)
    | _, _ => .ok false

/-- `export_cover`: the hash of a copy of the live cover, if there is one. -/
def exportCover (libraryPath : Option String) (reading : Reading) :
    Except PyError (Option String) :=
  match reading with
  | .error e => .error e
  | .ok live => match live.record.get "cover" with
    | .str path =>
      if strip path = "" then .ok none
      else match sha256FileBeneath py libraryPath live.files path with
        | .error _ => .error ⟨.other, "Calibre returned an unsafe cover path"⟩
        | .ok sha => .ok (some sha)
    | _ => .ok none

/-! ### External writes -/

/-- A command that writes to the library. The hash is the seal of the artifact it passes on. -/
inductive Command
  | setMetadata (opfPath : String) (sha256 : Option String)
  | setCustom (column value : String)
  | setCover (path : String) (sha256 : Option String)
  deriving DecidableEq, Repr

/-- An artifact without a seal is refused before the command is issued. -/
def Command.isSealed : Command → Bool
  | .setMetadata _ sha256 => sha256.isSome
  | .setCustom _ _ => true
  | .setCover _ sha256 => sha256.isSome

/-- What a list of commands came to. -/
structure Execution where
  raised : Option PyError := none
  issued : ℕ := 0

/-- Run commands until one raises. A command without an answer fails before it is issued, because
its artifact is not available. -/
def execute : List Command → List (Option PyError) → Execution
  | [], _ => {}
  | command :: rest, replies =>
    if command.isSealed = false then { raised := some ⟨.other, "artifact has no integrity seal"⟩ }
    else match replies with
      | [] => { raised := some ⟨.other, "artifact is not available"⟩ }
      | some e :: _ => { raised := some e, issued := 1 }
      | none :: replies =>
        let x := execute rest replies
        { x with issued := x.issued + 1 }

/-- The commands of `_restore_change`, also `_restore_components`. -/
def restoreCommands (change : Change) : List Command :=
  .setMetadata change.backupOpfPath change.backupOpfSha256
    :: (change.beforeCustom.map fun item => .setCustom item.1 item.2)
    ++ match change.backupCoverPath with
      | some path => if path = "" then [] else [.setCover path change.backupCoverSha256]
      | none => []

/-- `_restore_change`. -/
def restoreChange (root : Option String) (change : Change) : Except PyError (List Command) :=
  match root with
  | none => .error ⟨.other, "recovery requires the configured artifact root"⟩
  | some _ => .ok (restoreCommands change)

/-- `_restore_operation_rollback`. -/
def restoreOperationRollback (root : Option String) (op : OperationLedger) :
    Except PyError (List Command) :=
  match op.rollbackOpfPath, root with
  | none, _ => .error ⟨.other, "operation rollback OPF is unavailable"⟩
  | some _, none => .error ⟨.other, "recovery requires the configured artifact root"⟩
  | some opf, some _ => .ok (.setMetadata opf op.rollbackOpfSha256
      :: (op.rollbackCustom.map fun item => .setCustom item.1 item.2)
      ++ match op.rollbackCoverPath with
        | some path => if path = "" then [] else [.setCover path op.rollbackCoverSha256]
        | none => [])

/-- The answers to a restore and to the reading after it. -/
structure RestoreReply where
  replies : List (Option PyError) := []
  read : Reading

/-- What a restore and the reading after it came to. -/
structure Restoration where
  verdict : Except PyError Bool
  last : Option Readback := none
  issued : ℕ := 0

/-- Restore, read back and compare with `check`. -/
def restoreAndCheck (commands : Except PyError (List Command)) (r : RestoreReply)
    (check : Readback → Except PyError Bool) : Restoration :=
  match commands with
  | .error e => { verdict := .error e }
  | .ok commands =>
    let x := execute commands r.replies
    match x.raised, r.read with
    | some e, _ => { verdict := .error e, issued := x.issued }
    | none, .error e => { verdict := .error e, issued := x.issued }
    | none, .ok rb => { verdict := check rb, last := some rb, issued := x.issued }

/-! ### Outcomes -/

/-- Where a writer process stands. The record is the one `process` read before the write. -/
inductive Control
  | stopped
  /-- The operations restart reconciliation has still to look at. -/
  | reconciling (todo : List String)
  | idle
  | claimed (id : String)
  /-- The operation is in `writing`, and `apply_patch` is called. -/
  | applying (id : String) (before : Readback)
  /-- The change is recorded, and the commands are about to be issued. -/
  | prepared (id : String) (before : Readback) (changeId : ℕ) (cover : Option String)
  /-- The change is applied. -/
  | written (id : String) (before : Readback) (changeId : ℕ)
  /-- The engine has rolled back, and its exception is on its way. -/
  | rolledBack (id : String) (exc : PyError)
  /-- The undo operation is in `writing`. -/
  | undoing (id : String) (before : Readback) (changeId : ℕ)
  /-- `process` has raised. -/
  | raised (id : String) (exc : PyError)

/-- What a part of a call leaves: the committed database, where the writer stands, the record read
before a write and the one read last, the transitions attempted and the number of commands issued.
-/
structure Outcome where
  db : Db
  control : Control
  before : Option Readback := none
  last : Option Readback := none
  attempted : List (OperationState × OperationState) := []
  issued : ℕ := 0

/-- How a call settles an operation. -/
structure Verdict where
  path : List OperationState
  error : Option String := none
  published : Bool := false
  eventError : Option String := none
  bookStatus : String
  change : Option (ℕ × ChangeStatus) := none

/-- The delivery status of a settled operation's event. -/
def Verdict.delivery (v : Verdict) : Delivery := if v.published then .published else .failed

/-- The transaction that settles an operation with its event, lock, book and change. -/
def settle (db : Db) (id : String) (op : OperationLedger) (bookKey : String) (v : Verdict) :
    Except PyError Db :=
  match op.walk v.error v.path with
  | .error e => .error e
  | .ok op' =>
    match finishOutbox { db with operations := db.operations.set id op' } id v.delivery
        v.eventError with
    | .error e => .error e
    | .ok db' => .ok (match v.change with
      | some (changeId, status) =>
        (db'.setBookStatus bookKey v.bookStatus).setChangeStatus changeId status
      | none => db'.setBookStatus bookKey v.bookStatus)

/-- The rest of a call that ends in a verdict. An exception of the transaction leaves the database
as it was. -/
def conclude (db : Db) (id : String) (op : OperationLedger) (bookKey : String) (v : Verdict)
    (next : Control) (stuck : PyError → Control) (last : Option Readback) (issued : ℕ) : Outcome :=
  match settle db id op bookKey v with
  | .ok db' => { db := db', control := next, last, attempted := attempts op.state v.path, issued }
  | .error e => { db, control := stuck e, last, attempted := attempts op.state v.path, issued }

/-- `process` raises. -/
def raising (db : Db) (id : String) (e : PyError) : Outcome := { db, control := .raised id e }

/-- A row that is there by construction is missing. -/
def noRow : PyError := ⟨.other, "No row was found when one was required"⟩

/-- `except (OSError, ValueError)`. -/
def isOsOrValue (e : PyError) : Bool := decide (e.kind ∈ [.os, .value])

/-! ### Claiming -/

/-- The loop of `claim_next_operation` over the pending events. -/
def claimEvents (db : Db) (owner : String) (expires : Moment) :
    List String → Except PyError (Db × Option String)
  | [] => .ok (db, none)
  | id :: rest => match db.operations.get? id, db.outbox.get? id with
    | some op, some event =>
      if op.state ≠ .requested then
        claimEvents { db with outbox := db.outbox.set id { event with status := .published } }
          owner expires rest
      else match db.locks.get? op.bookKey with
        | some _ => .ok (db, none)
        | none =>
          -- the lock table knows an operation once
          if db.locks.rows.any fun r => r.2.operationId = id then .ok (db, none)
          else match transitionOperation op .claimed none with
            | .error e => .error e
            | .ok op' => .ok ({ db with
                operations := db.operations.set id { op' with
                  leaseOwner := some owner
                  leaseExpiresAt := some expires }
                outbox := db.outbox.set id { event with
                  status := .processing
                  attempts := event.attempts + 1 }
                locks := db.locks.set op.bookKey ⟨id, owner, expires⟩ }, some id)
    | _, _ => .error noRow

/-- The events a claim looks at, in the order of their `id`. -/
def pendingEvents (db : Db) : List String :=
  (db.outbox.rows.filter fun r =>
    decide (r.2.status = .pending) && r.2.eventType = "operation.requested").map Prod.fst

/-- `claim_next_operation`. -/
def claimNextOperation (db : Db) (owner : String) (expires : Moment) :
    Except PyError (Db × Option String) :=
  claimEvents db owner expires (pendingEvents db)

/-! ### Applying -/

/-- The answers to the calls of `process` before its first commit: `show_metadata`, and for an undo
the verification of the backup, the export of the current OPF with its hash, and the reading of
`export_cover` with the failure of its copy. -/
structure ProcessReply where
  read : Reading
  artifact : Option PyError := none
  opf : Except PyError String := .error noRow
  cover : Reading := .error noRow

/-- `expected_before_metadata` is there and matches. -/
def matchesExpected (op : OperationLedger) (live : Readback) : Except PyError Bool :=
  match op.expectedBeforeMetadata with
  | none => .ok false
  | some expected => matchesPatch py live expected

/-- `_verify_v2_live_files` of the operations it is run for. -/
def verifyPolicyFiles (config : WriterConfig) (db : Db) (op : OperationLedger) (live : Readback) :
    Except PyError Unit :=
  if op.policyVersion = "manifestation-v2" then
    verifyV2LiveFiles py validate db config.libraryPath op live false
  else .ok ()

/-- `process` of an apply operation up to the call of `apply_patch`. -/
def beginApply (config : WriterConfig) (db : Db) (id : String) (op : OperationLedger)
    (r : ProcessReply) : Outcome :=
  match db.books.get? op.bookKey with
  | none => raising db id noRow
  | some book =>
    if book.calibreBookId.getD 0 = 0 then
      raising db id ⟨.value, "Operation has no Calibre book id"⟩
    else match validateApplyOperation py validate db op book config.pilot config.schemaRevision with
      | .error e =>
        if e.kind ∈ [.value, .type] then
          conclude db id op op.bookKey ⟨[.failed], e.message, false, e.message, "error", none⟩
            .idle (.raised id) none 0
        else raising db id e
      | .ok _ => match r.read with
        | .error e => raising db id e
        | .ok live => match verifyPolicyFiles py validate config db op live with
          | .error e =>
            if isOsOrValue e then
              let text := "live ebook snapshot changed after authorization: " ++ e.message
              conclude db id op op.bookKey ⟨[.failed], text, false, text, "error", none⟩
                .idle (.raised id) none 0
            else raising db id e
          | .ok _ => match matchesExpected py op live with
            | .error e => raising db id e
            | .ok false =>
              let text := "live metadata changed after authorization"
              conclude db id op op.bookKey ⟨[.failed], text, false, text, "suggest_fix", none⟩
                .idle (.raised id) none 0
            | .ok true =>
              match { op with
                  beforeMetadata := some live.record
                  targetMetadata := some (targetMetadata live.record op.requestedPatch)
                }.walk none [.writing] with
              | .error e => raising db id e
              | .ok op' => {
                  db := { db with operations := db.operations.set id op' }
                  control := .applying id live
                  before := some live
                  last := some live
                  attempted := attempts op.state [.writing] }

/-- The answers to the calls of `apply_patch` before it commits the change: a failure of any of
them, where the backup goes (without the suffix), the hash of the exported OPF, where the cover of
the patch is staged, and the reading of `export_cover`. -/
structure PrepareReply where
  fails : Option PyError := none
  backup : String
  opfSha256 : String
  stagedCover : String
  cover : Reading

/-- The ISBN a cover must be bound to: of the patch, else of the live record. -/
def coverIsbn (patch : CanonicalPatch) (before : Dict) : Option String :=
  match patch.identifiers with
  | some identifiers => validateIsbn ((Assoc.get? "isbn" identifiers).getD "")
  | none => match before.getD "identifiers" (.obj []) with
    | .obj kvs => validateIsbn ((Dict.getD kvs "isbn" (.str "")).toStr py)
    | _ => none

/-- `apply_patch` up to the commit of the change: the change, and where the cover is staged. -/
def prepareChange (config : WriterConfig) (id : String) (op : OperationLedger) (book : BookRecord)
    (before : Dict) (r : PrepareReply) : Except PyError (Change × Option String) :=
  if book.source ≠ "calibre" ∨ book.calibreBookId.getD 0 = 0 then
    valueError "Cannot apply patch to non-Calibre book"
  else match CanonicalPatch.validate py op.requestedPatch with
    | none => valueError "validation error for CanonicalPatch"
    | some patch =>
      let change : Change := {
        operationId := some id
        bookKey := op.bookKey
        runId := book.runId
        beforeMetadata := before
        afterMetadata := patch.dump
        backupOpfPath := r.backup ++ ".opf"
        backupOpfSha256 := some r.opfSha256
        backupCoverPath := none
        backupCoverSha256 := none
        beforeCustom :=
          if patch.editionStatement.isSome then [("#edition", shownEdition py before)] else []
        status := .pendingApply }
      if patch.dump = [] then valueError "Cannot apply an empty canonical patch"
      else match r.fails, patch.cover with
        | some e, _ => .error e
        | none, none => .ok (change, none)
        | none, some cover =>
          if coverIsbn py patch before ≠ some cover.manifestationIsbn then
            valueError "cover artifact is not bound to the exact patch manifestation"
          else match exportCover py config.libraryPath r.cover with
            | .error e => .error e
            | .ok none => valueError
                "cover update is not reversible because the current cover could not be backed up"
            | .ok (some sha) =>
              .ok ({ change with
                backupCoverPath := some (r.backup ++ ".cover")
                backupCoverSha256 := some sha }, some r.stagedCover)

/-- What `process` makes of an exception of `apply_patch`: the change decides. -/
def raisedVerdict (db : Db) (id : String) (e : PyError) : Verdict :=
  match (db.changeOf id).map fun c : ℕ × Change => c.2.status with
  | some .failedRolledBack =>
    ⟨[.restoring, .restored], e.message, false, e.message, "suggest_fix", none⟩
  | some .failedRollbackFailed =>
    ⟨[.restoring, .restoreFailed], e.message, false, e.message, "error", none⟩
  | _ => ⟨[.unknown], e.message, false, e.message, "error", none⟩

/-- `process` after an exception of `apply_patch`. -/
def applyRaised (db : Db) (id : String) (op : OperationLedger) (e : PyError) : Outcome :=
  conclude db id op op.bookKey (raisedVerdict db id e) .idle (.raised id) none 0

/-- The id of the next change. -/
def nextChangeId (db : Db) : ℕ := (Assoc.keys db.changes.rows).foldr max 0 + 1

/-- `process` from the call of `apply_patch` to the commit of the change. A change with the same
operation id is refused by the database, which also spoils the session for the handler. -/
def prepareApply (config : WriterConfig) (db : Db) (id : String) (op : OperationLedger)
    (before : Readback) (r : PrepareReply) : Outcome :=
  match db.books.get? op.bookKey with
  | none => raising db id noRow
  | some book => match prepareChange py config id op book before.record r with
    | .error e => applyRaised db id op e
    | .ok (change, cover) =>
      if (db.changeOf id).isSome then raising db id ⟨.other, "UNIQUE constraint failed"⟩
      else {
        db := { db with changes := db.changes.set (nextChangeId db) change }
        control := .prepared id before (nextChangeId db) cover }

/-- The answers to the calls of `apply_patch` after it committed the change: the target OPF with its
hash, the commands, and the rollback. -/
structure WriteReply where
  target : Except PyError (String × String)
  replies : List (Option PyError) := []
  rollback : RestoreReply

/-- The commands that apply a change. -/
def applyCommands (change : Change) (cover : Option String) (target : String × String) :
    List Command :=
  .setMetadata target.1 (some target.2)
    :: (match Assoc.get? "edition_statement" change.afterMetadata with
      | some edition => [.setCustom "#edition" (edition.toStr py)]
      | none => [])
    ++ match cover with
      | some path => [.setCover path (match change.afterMetadata.get "cover" with
        | .obj kvs => match Dict.get kvs "artifact_sha256" with
          | .str sha => some sha
          | _ => none
        | _ => none)]
      | none => []

/-- `apply_patch` from the commit of the change to its next commit. -/
def writeChange (config : WriterConfig) (db : Db) (id : String) (op : OperationLedger)
    (before : Readback) (changeId : ℕ) (change : Change) (cover : Option String) (r : WriteReply) :
    Outcome :=
  match r.target with
  | .error e => applyRaised db id op e
  | .ok target =>
    let x := execute (applyCommands py change cover target) r.replies
    match x.raised with
    | none => {
        db := db.setChangeStatus changeId .applied
        control := .written id before changeId
        issued := x.issued }
    | some e =>
      let y := restoreAndCheck (.ok (restoreCommands change)) r.rollback fun rb =>
        metadataMatchesRestore py config.libraryPath rb before.record change
      { db := db.setChangeStatus changeId (match y.verdict with
          | .ok true => .failedRolledBack
          | _ => .failedRollbackFailed)
        control := .rolledBack id e
        last := y.last
        issued := x.issued + y.issued }

/-- The answers to the calls of `process` after `apply_patch` returned: the reading that goes with
the verification of the files, the reading that is compared, and the compensation. -/
structure FinishReply where
  first : Reading
  second : Reading
  restore : RestoreReply

/-- The fields Calibre may move with a book. -/
def relocatedFields : List String := ["formats", "path"]

/-- One pass of the loop of `_align_verified_calibre_paths`. -/
def alignField (observed target : Dict) (field : String) : Dict :=
  match Assoc.get? field target, Assoc.get? field observed with
  | some _, some value => Assoc.set field value target
  | _, _ => target

/-- `_align_verified_calibre_paths`. -/
def alignVerifiedCalibrePaths (op : OperationLedger) (observed : Dict) :
    Except PyError OperationLedger :=
  match op.targetMetadata with
  | none => valueError "operation target metadata is unavailable"
  | some target => .ok { op with
      targetMetadata := some (relocatedFields.foldl (alignField observed) target) }

/-- Verification and alignment of the operations they are run for, after a write. -/
def verifyRelocated (libraryPath : Option String) (db : Db) (op : OperationLedger)
    (reading : Reading) : Except PyError OperationLedger :=
  if op.policyVersion = "manifestation-v2" then
    match reading with
    | .error e => .error e
    | .ok live => match verifyV2LiveFiles py validate db libraryPath op live true with
      | .error e => .error e
      | .ok _ => alignVerifiedCalibrePaths op live.record
  else .ok op

/-- A comparison that does not hold raises. -/
def require (message : String) : Except PyError Bool → Except PyError Unit
  | .error e => .error e
  | .ok true => .ok ()
  | .ok false => .error ⟨.other, message⟩

/-- How a compensation settles an operation: `texts` is the error of the operation and of its event
after a restore that is verified. -/
def compensation (message : String) (verdict : Except PyError Bool) (steps : List OperationState)
    (texts : Option String × Option String) (status : String) (changeId : ℕ) : Verdict :=
  match require message verdict with
  | .ok _ => ⟨steps ++ [.restored], texts.1, false, texts.2, status,
      some (changeId, .failedRolledBack)⟩
  | .error e => ⟨steps ++ [.restoreFailed], e.message, false, e.message, "error",
      some (changeId, .failedRollbackFailed)⟩

/-- `process` after `apply_patch` returned. -/
def finishApply (config : WriterConfig) (db : Db) (id : String) (op₀ : OperationLedger)
    (before : Readback) (changeId : ℕ) (change : Change) (r : FinishReply) : Outcome :=
  let op := { op₀ with
    changeId := some changeId
    rollbackOpfPath := some change.backupOpfPath
    rollbackOpfSha256 := change.backupOpfSha256 }
  let raise (e : PyError) : Outcome :=
    { db, control := .raised id e, attempted := attempts op.state [.verifying] }
  let y := restoreAndCheck (restoreChange config.artifactsDir change) r.restore fun rb =>
    matchesPatch py rb before.record
  match verifyRelocated py validate config.libraryPath db op r.first with
  | .error e =>
    if isOsOrValue e then
      let text := "ebook changed during metadata write: " ++ e.message
      conclude db id op op.bookKey
        (compensation "restore verification failed after ebook snapshot change" y.verdict
          [.verifying, .restoring] (some text, some text) "error" changeId)
        .idle (.raised id) y.last y.issued
    else raise e
  | .ok op => match r.second with
    | .error e => raise e
    | .ok live =>
      let op := { op with observedMetadata := some live.record }
      match matchesPatch py live (op.targetMetadata.getD []) with
      | .error e => raise e
      | .ok true => conclude db id op op.bookKey
          ⟨[.verifying, .succeeded], none, true, none, "applied", none⟩
          .idle (.raised id) (some live) 0
      | .ok false => conclude db id op op.bookKey
          (compensation "restore verification failed" y.verdict [.verifying, .restoring]
            (none, some "partial write restored") "suggest_fix" changeId)
          .idle (.raised id) y.last y.issued

/-! ### Undoing -/

/-- `isinstance(value, int)`, as a change id. -/
def asChangeId : Json → Option ℕ
  | .int n => if 0 ≤ n then some n.toNat else none
  | .bool b => some b.toNat
  | _ => none

/-- The current cover, when the change has to put one back. -/
def undoCover (libraryPath : Option String) (change : Change) (reading : Reading) :
    Except PyError (Option String) :=
  if present change.backupCoverPath then
    match exportCover py libraryPath reading with
    | .error e => .error e
    | .ok none => .error ⟨.other, "current cover could not be backed up before undo"⟩
    | .ok (some sha) => .ok (some sha)
  else .ok none

/-- The operation `_process_undo` commits before it writes. -/
def undoOperation (id : String) (op : OperationLedger) (changeId : ℕ) (change : Change)
    (before : Dict) (opfSha256 : String) (coverSha256 : Option String) : OperationLedger :=
  { op with
    rollbackOpfPath := some ("undo/" ++ id ++ "/current.opf")
    rollbackOpfSha256 := some opfSha256
    rollbackCoverPath := coverSha256.map fun _ => "undo/" ++ id ++ "/current.cover"
    rollbackCoverSha256 := coverSha256
    rollbackCustom := change.beforeCustom.map fun item =>
      (item.1, orEmpty py ((before.get item.1).orElse (before.get "edition_statement")))
    changeId := some changeId
    beforeMetadata := some before
    targetMetadata := some change.beforeMetadata }

/-- `_process_undo` up to its first commit. -/
def beginUndo (config : WriterConfig) (db : Db) (id : String) (op : OperationLedger)
    (r : ProcessReply) : Outcome :=
  match (asChangeId (op.requestedPatch.get "change_id")).bind fun changeId =>
      (db.changes.get? changeId).map fun change => (changeId, change) with
  | none => raising db id ⟨.value, "Change not found"⟩
  | some (changeId, change) => match db.books.get? change.bookKey with
    | none => raising db id noRow
    | some book =>
      if book.calibreBookId.getD 0 = 0 ∨ book.calibreBookId ≠ op.calibreBookId
          ∨ some book.runId ≠ op.runId ∨ change.status ≠ .applied then
        let text := "undo identity or change status is stale"
        conclude db id op change.bookKey ⟨[.failed], text, false, text, "error", none⟩
          .idle (.raised id) none 0
      else match r.artifact, r.read with
        | some e, _ => raising db id e
        | none, .error e => raising db id e
        | none, .ok live => match matchesExpected py op live with
          | .error e => raising db id e
          | .ok false =>
            let text := "live metadata changed after undo was queued"
            conclude db id op change.bookKey ⟨[.failed], text, false, text, "applied", none⟩
              .idle (.raised id) none 0
          | .ok true => match r.opf, undoCover py config.libraryPath change r.cover with
            | .error e, _ => raising db id e
            | _, .error e => raising db id e
            | .ok opfSha256, .ok coverSha256 =>
              match (undoOperation py id op changeId change live.record opfSha256
                  coverSha256).walk none [.writing] with
              | .error e => raising db id e
              | .ok op' => {
                  db := { db with operations := db.operations.set id op' }
                  control := .undoing id live changeId
                  before := some live
                  last := some live
                  attempted := attempts op.state [.writing] }

/-- The answers to the calls of `_process_undo` after its first commit. -/
structure UndoReply where
  replies : List (Option PyError) := []
  read : Reading
  artifact : Option PyError := none
  restore : RestoreReply

/-- The commands of a rollback, whose artifact is verified first. -/
def undoRollback (config : WriterConfig) (op : OperationLedger) (artifact : Option PyError) :
    Except PyError (List Command) :=
  match artifact with
  | some e => .error e
  | none => restoreOperationRollback config.artifactsDir op

/-- `_process_undo` after its first commit. -/
def finishUndo (config : WriterConfig) (db : Db) (id : String) (op : OperationLedger)
    (before : Readback) (changeId : ℕ) (change : Change) (r : UndoReply) : Outcome :=
  match restoreChange config.artifactsDir change with
  | .error e => raising db id e
  | .ok commands =>
    let x := execute commands r.replies
    match x.raised, r.read with
    | some e, _ => { db, control := .raised id e, issued := x.issued }
    | none, .error e => { db, control := .raised id e, issued := x.issued
                          attempted := attempts op.state [.verifying] }
    | none, .ok live =>
      let op := { op with observedMetadata := some live.record }
      match matchesPatch py live change.beforeMetadata with
      | .error e => { db, control := .raised id e, last := some live, issued := x.issued
                      attempted := attempts op.state [.verifying] }
      | .ok true => conclude db id op change.bookKey
          ⟨[.verifying, .succeeded], none, true, none, "suggest_fix", some (changeId, .undone)⟩
          .idle (.raised id) (some live) x.issued
      | .ok false =>
        let y := restoreAndCheck (undoRollback config op r.artifact) r.restore fun rb =>
          matchesPatch py rb before.record
        let verdict : Verdict := match require "undo rollback verification failed" y.verdict with
          | .ok _ => ⟨[.verifying, .restoring, .restored], none, false, "partial undo restored",
              "applied", none⟩
          | .error e => ⟨[.verifying, .restoring, .restoreFailed], e.message, false, e.message,
              "error", none⟩
        conclude db id op change.bookKey verdict .idle (.raised id) (y.last <|> some live)
          (x.issued + y.issued)

/-- `process` up to its first commit. -/
def beginOperation (config : WriterConfig) (db : Db) (id : String) (r : ProcessReply) : Outcome :=
  match db.operations.get? id with
  | none => raising db id noRow
  | some op =>
    if op.state ≠ .claimed then raising db id ⟨.value, "Operation is not claimed"⟩
    else if op.operationType = "undo_change" then beginUndo py config db id op r
    else beginApply py validate config db id op r

/-! ### Failing -/

/-- The transition of `fail_operation`. -/
def failPath : OperationState → List OperationState
  | .claimed => [.failed]
  | .writing | .verifying => [.unknown]
  | .restoring => [.restoreFailed]
  | _ => []

/-- The loop's handler: the rollback, then `fail_operation`. An exception of it ends the process. -/
def failOperation (db : Db) (id : String) (exc : PyError) : Outcome :=
  match db.operations.get? id with
  | none => { db, control := .stopped }
  | some op => conclude db id op op.bookKey
      ⟨failPath op.state, exc.message, false, exc.message, "error", none⟩
      .idle (fun _ => .stopped) none 0

end Ledger

end Bookwarden
