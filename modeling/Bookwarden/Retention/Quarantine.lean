import Bookwarden.Lib.Assoc
import Bookwarden.Lib.Crash
import Bookwarden.Paths

/-!
# The retention quarantine

`quarantine_and_delete`, `recover_quarantine` and `list_pending_quarantines` of
`verification/restore.py`. A transaction has a directory below the quarantine root, with a payload and
a journal; a restore point is renamed into the payload before the payload is deleted.

Every `mkdir`, `rename`, `rmdir` and `unlink`, and both halves of a journal write, are one step of a
`Crash.Program`. `rmtree` takes the payload through contents that are its own choice. Nobody else
changes the tree meanwhile, and nothing in it is a link; the times in the journal are left out, and
so are the paths in the texts of the errors, apart from relative ones.

## Main definitions

* `Disk`, `Journal`
* `readQuarantineJournal`, `preflightQuarantine`
* `quarantineAndDelete`, `recoverQuarantine`, `listPendingQuarantines`
-/

namespace Bookwarden.Retention.Quarantine

/-- A restore point below the restore root: run, then book. -/
abbrev Path := String × String

/-- `str(path.relative_to(self.restore_root))`. -/
def relativeText (path : Path) : String := path.1 ++ "/" ++ path.2

/-- The directory of a restore point, with its regular files. -/
structure RestoreDir where
  device : ℕ
  inode : ℕ
  files : List (String × List UInt8)
  deriving DecidableEq, Repr

structure RestoreDeletionCandidate where
  path : Path
  manifestSha256 : String
  device : ℕ
  inode : ℕ
  deriving DecidableEq, Repr

/-- A candidate in a journal. -/
structure Item where
  relativePath : String
  manifestSha256 : String
  device : ℕ
  inode : ℕ
  deriving DecidableEq, Repr

/-- `QUARANTINE_STATES`. -/
inductive State
  | prepared
  | quarantining
  | quarantined
  | deleting
  | deleted
  deriving DecidableEq, Repr

/-- `transaction.json`. -/
structure Journal where
  transactionId : String
  state : State
  transactionDevice : ℕ
  transactionInode : ℕ
  payloadDevice : ℕ
  payloadInode : ℕ
  backupManifestSha256 : String
  moved : List String
  candidates : List Item
  deriving DecidableEq, Repr

/-- The payload of a transaction: the directories of the runs, and the restore points in them. -/
structure Payload where
  device : ℕ
  inode : ℕ
  parents : List String
  entries : Path → Option RestoreDir

/-- The directory of a transaction, and how many temporary files of the journal a crash left in it. -/
structure Transaction where
  device : ℕ
  inode : ℕ
  payload : Option Payload
  journal : Option Journal
  temporaries : ℕ

/-- What stands below the restore root. -/
structure Disk where
  points : Path → Option RestoreDir
  quarantineRoot : Bool
  /-- The directories `.staging-…`, by transaction. -/
  staging : List (String × Transaction)
  transactions : List (String × Transaction)

/-- `hashlib.sha256(…).hexdigest()`. -/
structure Sha256 where
  hexdigest : List UInt8 → String
  length_hexdigest : ∀ bytes, (hexdigest bytes).length = 64

/-- Programs on the restore tree; what is raised is a `RuntimeError`. -/
abbrev Program := Crash.Program Disk String

open Crash.Program (step ask lift raise)

/-! ### Steps -/

/-- Change the directory of a transaction. -/
def Disk.modifyTransaction (disk : Disk) (id : String) (f : Transaction → Transaction) : Disk :=
  match Assoc.get? id disk.transactions with
  | none => disk
  | some transaction => { disk with transactions := Assoc.set id (f transaction) disk.transactions }

/-- Change a staging directory. -/
def Disk.modifyStaging (disk : Disk) (id : String) (f : Transaction → Transaction) : Disk :=
  match Assoc.get? id disk.staging with
  | none => disk
  | some transaction => { disk with staging := Assoc.set id (f transaction) disk.staging }

/-- `temporary.open("w")`, up to its `fsync`. -/
def Transaction.writeTemporary (transaction : Transaction) : Transaction :=
  { transaction with temporaries := transaction.temporaries + 1 }

/-- `os.replace(temporary, path)`. -/
def Transaction.replaceJournal (journal : Journal) (transaction : Transaction) : Transaction :=
  { transaction with journal := some journal, temporaries := transaction.temporaries - 1 }

/-- `_write_quarantine_journal`. -/
def writeQuarantineJournal (id : String) (journal : Journal) : Program Unit := do
  step fun disk => disk.modifyTransaction id .writeTemporary
  step fun disk => disk.modifyTransaction id (.replaceJournal journal)

/-- `_write_quarantine_journal` to a staging directory. -/
def writeStagingJournal (id : String) (journal : Journal) : Program Unit := do
  step fun disk => disk.modifyStaging id .writeTemporary
  step fun disk => disk.modifyStaging id (.replaceJournal journal)

/-- `target.parent.mkdir()`. -/
def Transaction.makeParent (run : String) (transaction : Transaction) : Transaction :=
  { transaction with
    payload := transaction.payload.map fun payload =>
      { payload with parents := payload.parents ++ [run] } }

/-- Has the payload of the transaction a directory for the run? -/
def Disk.hasParent (disk : Disk) (id run : String) : Bool :=
  match (Assoc.get? id disk.transactions).bind Transaction.payload with
  | none => false
  | some payload => decide (run ∈ payload.parents)

/-- `if not target.parent.exists(): target.parent.mkdir()`. -/
def makeParent (id run : String) : Program Unit := do
  let found ← ask fun disk => disk.hasParent id run
  if found then return ()
  step fun disk => disk.modifyTransaction id (.makeParent run)

/-- `os.rename(source, target)`. -/
def Disk.rename (disk : Disk) (id : String) (path : Path) : Disk :=
  let moved := disk.modifyTransaction id fun transaction =>
    { transaction with
      payload := transaction.payload.map fun payload =>
        { payload with entries := Function.update payload.entries path (disk.points path) } }
  { moved with points := Function.update disk.points path none }

/-! ### Checks -/

/-- `UUID(transaction_id).hex == transaction_id`. -/
def isTransactionId (id : String) : Bool :=
  id.length = 32 && id.toList.all fun c => ('0' ≤ c && c ≤ '9') || ('a' ≤ c && c ≤ 'f')

/-- `_validate_candidate_identity`, of what stands at a path. -/
def validateCandidateIdentity (sha : Sha256) (manifestSha256 : String) (device inode : ℕ) :
    Option RestoreDir → Except String Unit
  | none => .error "Restore point changed after preview"
  | some dir =>
    if dir.device ≠ device ∨ dir.inode ≠ inode ∨
        (Assoc.get? "restore.json" dir.files).map sha.hexdigest ≠ some manifestSha256 then
      .error "Restore point changed after preview"
    else .ok ()

/-- `_validate_candidate`. -/
def validateCandidate (sha : Sha256) (disk : Disk) (candidate : RestoreDeletionCandidate) :
    Except String Unit :=
  validateCandidateIdentity sha candidate.manifestSha256 candidate.device candidate.inode
    (disk.points candidate.path)

/-- `_validate_journal_candidate`. -/
def validateJournalCandidate (sha : Sha256) (item : Item) (dir : Option RestoreDir) :
    Except String Unit :=
  validateCandidateIdentity sha item.manifestSha256 item.device item.inode dir

/-- `_validate_payload_root`. -/
def validatePayloadRoot (journal : Journal) : Option Payload → Except String Unit
  | none => .error "Unsafe retention quarantine payload"
  | some payload =>
    if payload.device ≠ journal.payloadDevice ∨ payload.inode ≠ journal.payloadInode then
      .error "Unsafe retention quarantine payload"
    else .ok ()

/-- The path of a candidate, as the components of its text; `none` when the journal reader refuses
it. -/
def relativeOf (text : String) : Option Path :=
  match pathParts text with
  | (0, [run, book]) =>
    if startsWith run "." || startsWith book "." || text ≠ relativeText (run, book) then none
    else some (run, book)
  | _ => none

/-- `Path(item["relative_path"])`. -/
def Item.path (item : Item) : Path := (relativeOf item.relativePath).getD ("", "")

/-- The checks of `_read_quarantine_journal` on what `json.loads` returned. -/
structure Journal.Accepted (name : String) (journal : Journal) : Prop where
  transactionId : journal.transactionId = name
  candidates : journal.candidates ≠ []
  backup : journal.backupManifestSha256.length = 64
  paths : ∀ item ∈ journal.candidates, relativeOf item.relativePath ≠ none
  digests : ∀ item ∈ journal.candidates, item.manifestSha256.length = 64
  distinct : (journal.candidates.map Item.relativePath).Nodup
  movedDistinct : journal.moved.Nodup
  movedKnown : ∀ text ∈ journal.moved, text ∈ journal.candidates.map Item.relativePath

theorem Journal.accepted_iff {name : String} {journal : Journal} : journal.Accepted name ↔
    (journal.transactionId = name ∧ journal.candidates ≠ [] ∧
      journal.backupManifestSha256.length = 64) ∧
    ((∀ item ∈ journal.candidates, relativeOf item.relativePath ≠ none) ∧
      ∀ item ∈ journal.candidates, item.manifestSha256.length = 64) ∧
    (journal.candidates.map Item.relativePath).Nodup ∧ journal.moved.Nodup ∧
    ∀ text ∈ journal.moved, text ∈ journal.candidates.map Item.relativePath :=
  ⟨fun h => ⟨⟨h.transactionId, h.candidates, h.backup⟩, ⟨h.paths, h.digests⟩, h.distinct,
    h.movedDistinct, h.movedKnown⟩,
    fun ⟨⟨h₁, h₂, h₃⟩, ⟨h₄, h₅⟩, h₆, h₇, h₈⟩ => ⟨h₁, h₂, h₃, h₄, h₅, h₆, h₇, h₈⟩⟩

instance (name : String) (journal : Journal) : Decidable (journal.Accepted name) :=
  decidable_of_iff' _ Journal.accepted_iff

/-- `_read_quarantine_journal`. -/
def readQuarantineJournal (name : String) (transaction : Transaction) : Except String Journal :=
  if isTransactionId name = false then .error "Invalid retention quarantine transaction id"
  else
    match transaction.journal with
    | none => .error "Missing or unsafe quarantine journal"
    | some journal =>
      if journal.Accepted name then .ok journal
      else .error "Invalid retention quarantine journal"

/-- One candidate of `_preflight_quarantine`. -/
def preflightItem (sha : Sha256) (disk : Disk) (payload : Option Payload) (journal : Journal)
    (item : Item) : Except String Unit :=
  let source := disk.points item.path
  if journal.state = .deleting ∨ journal.state = .deleted then
    if source.isSome then
      .error ("Original restore point reappeared during deletion: " ++ item.relativePath)
    else .ok ()
  else
    let target := payload.bind fun payload => payload.entries item.path
    if source.isSome = target.isSome then
      .error ("Ambiguous or missing quarantine recovery path: " ++ item.relativePath)
    else
      match validateJournalCandidate sha item (if target.isSome then target else source) with
      | .error e => .error e
      | .ok () =>
        if journal.state = .prepared ∧ (target.isSome ∨ item.relativePath ∈ journal.moved) then
          .error ("Invalid prepared quarantine state: " ++ item.relativePath)
        else if item.relativePath ∈ journal.moved ∧ target.isSome = false then
          .error ("Invalid moved quarantine state: " ++ item.relativePath)
        else if journal.state = .quarantined ∧
            (target.isSome = false ∨ item.relativePath ∉ journal.moved) then
          .error ("Invalid quarantined state: " ++ item.relativePath)
        else .ok ()

/-- `_preflight_quarantine`. -/
def preflightQuarantine (sha : Sha256) (disk : Disk) (transaction : Transaction)
    (journal : Journal) : Except String Unit := do
  if transaction.device ≠ journal.transactionDevice ∨
      transaction.inode ≠ journal.transactionInode then
    throw "Unsafe retention quarantine transaction"
  match journal.state with
  | .deleted =>
    if transaction.payload.isSome then throw "Invalid deleted quarantine payload"
  | .deleting =>
    if transaction.payload.isSome then validatePayloadRoot journal transaction.payload
  | _ => validatePayloadRoot journal transaction.payload
  journal.candidates.forM (preflightItem sha disk transaction.payload journal)

/-! ### Deleting -/

/-- `shutil.rmtree(payload_root)`; on the way, it leaves of the contents what it likes. -/
def removePayload (id : String) : List (Path → Option RestoreDir) → Program Unit
  | [] => step fun disk => disk.modifyTransaction id fun transaction =>
      { transaction with payload := none }
  | contents :: removals => do
    step fun disk => disk.modifyTransaction id fun transaction =>
      { transaction with
        payload := transaction.payload.map fun payload => { payload with entries := contents } }
    removePayload id removals

/-- `_finish_quarantine_delete`. -/
def finishQuarantineDelete (id : String) (journal : Journal)
    (removals : List (Path → Option RestoreDir)) : Program Unit := do
  let payload ← ask fun disk => (Assoc.get? id disk.transactions).bind Transaction.payload
  if payload.isSome then
    lift (validatePayloadRoot journal payload)
    removePayload id removals
  writeQuarantineJournal id { journal with state := .deleted }

/-- The names and the numbers that the system gives to a new transaction. -/
structure Fresh where
  id : String
  device : ℕ
  inode : ℕ
  payloadDevice : ℕ
  payloadInode : ℕ

/-- `_candidate_to_journal`. -/
def candidateToJournal (candidate : RestoreDeletionCandidate) : Item where
  relativePath := relativeText candidate.path
  manifestSha256 := candidate.manifestSha256
  device := candidate.device
  inode := candidate.inode

/-- The loop of `quarantine_and_delete`, with the journal so far. -/
def moveCandidates (sha : Sha256) (id : String) :
    List RestoreDeletionCandidate → Journal → Program Journal
  | [], journal => return journal
  | candidate :: candidates, journal => do
    let checked ← ask fun disk => validateCandidate sha disk candidate
    lift checked
    makeParent id candidate.path.1
    step fun disk => disk.rename id candidate.path
    let journal := { journal with moved := journal.moved ++ [relativeText candidate.path] }
    writeQuarantineJournal id journal
    moveCandidates sha id candidates journal

/-- The journal that is published. -/
def preparedJournal (fresh : Fresh) (backupManifestSha256 : String)
    (candidates : List RestoreDeletionCandidate) : Journal where
  transactionId := fresh.id
  state := .prepared
  transactionDevice := fresh.device
  transactionInode := fresh.inode
  payloadDevice := fresh.payloadDevice
  payloadInode := fresh.payloadInode
  backupManifestSha256 := backupManifestSha256
  moved := []
  candidates := candidates.map candidateToJournal

/-- `staging.mkdir()`. -/
def Disk.makeStaging (disk : Disk) (fresh : Fresh) : Disk :=
  { disk with
    staging := Assoc.set fresh.id ⟨fresh.device, fresh.inode, none, none, 0⟩ disk.staging }

/-- `payload_root.mkdir()`. -/
def Transaction.makePayload (fresh : Fresh) (transaction : Transaction) : Transaction :=
  { transaction with
    payload := some ⟨fresh.payloadDevice, fresh.payloadInode, [], fun _ => none⟩ }

/-- `os.rename(staging, transaction)`. -/
def Disk.publish (disk : Disk) (id : String) : Disk :=
  match Assoc.get? id disk.staging with
  | none => disk
  | some transaction =>
    { disk with
      staging := Assoc.erase id disk.staging
      transactions := Assoc.set id transaction disk.transactions }

/-- `quarantine_and_delete`. -/
def quarantineAndDelete (sha : Sha256) (fresh : Fresh)
    (candidates : List RestoreDeletionCandidate) (backupManifestSha256 : String)
    (removals : List (Path → Option RestoreDir)) : Program ℕ := do
  if backupManifestSha256.length ≠ 64 then
    raise "A verified backup manifest digest is required for retention"
  let checked ← ask fun disk => candidates.forM (validateCandidate sha disk)
  lift checked
  if candidates = [] then return 0
  let found ← ask Disk.quarantineRoot
  if found = false then step fun disk => { disk with quarantineRoot := true }
  step fun disk => disk.makeStaging fresh
  step fun disk => disk.modifyStaging fresh.id (.makePayload fresh)
  let journal := preparedJournal fresh backupManifestSha256 candidates
  writeStagingJournal fresh.id journal
  step fun disk => disk.publish fresh.id
  let journal := { journal with state := .quarantining }
  writeQuarantineJournal fresh.id journal
  let journal ← moveCandidates sha fresh.id candidates journal
  let journal := { journal with state := .quarantined }
  writeQuarantineJournal fresh.id journal
  let journal := { journal with state := .deleting }
  writeQuarantineJournal fresh.id journal
  finishQuarantineDelete fresh.id journal removals
  return candidates.length

/-! ### Recovering -/

/-- The loop of `recover_quarantine`, with the journal so far. -/
def recoverCandidates (sha : Sha256) (id : String) : List Item → Journal → Program Journal
  | [], journal => return journal
  | item :: items, journal => do
    let source ← ask fun disk => disk.points item.path
    let target ← ask fun disk =>
      ((Assoc.get? id disk.transactions).bind Transaction.payload).bind fun payload =>
        payload.entries item.path
    if target.isSome then
      lift (validateJournalCandidate sha item target)
    else if source.isSome then
      lift (validateJournalCandidate sha item source)
      makeParent id item.path.1
      step fun disk => disk.rename id item.path
    else raise ("Missing quarantine recovery path: " ++ item.relativePath)
    if item.relativePath ∈ journal.moved then recoverCandidates sha id items journal
    else
      let journal := { journal with moved := journal.moved ++ [item.relativePath] }
      writeQuarantineJournal id journal
      recoverCandidates sha id items journal

/-- What `recover_quarantine` reads and checks before it changes anything. -/
def openTransaction (sha : Sha256) (id backupManifestSha256 : String) (disk : Disk) :
    Except String Journal := do
  if isTransactionId id = false then throw "Invalid retention quarantine transaction id"
  if disk.quarantineRoot = false then throw "Unsafe retention quarantine"
  match Assoc.get? id disk.transactions with
  | none => throw "Unsafe retention quarantine transaction"
  | some transaction =>
    let journal ← readQuarantineJournal id transaction
    preflightQuarantine sha disk transaction journal
    if journal.backupManifestSha256 ≠ backupManifestSha256 then
      throw "Backup manifest does not match the transaction"
    return journal

/-- `recover_quarantine`. -/
def recoverQuarantine (sha : Sha256) (id backupManifestSha256 : String)
    (removals : List (Path → Option RestoreDir)) : Program ℕ := do
  let opened ← ask (openTransaction sha id backupManifestSha256)
  let journal ← lift opened
  if journal.state = .deleted then return 0
  if journal.state = .deleting then
    finishQuarantineDelete id journal removals
    return journal.candidates.length
  let payload ← ask fun disk => (Assoc.get? id disk.transactions).bind Transaction.payload
  lift (validatePayloadRoot journal payload)
  let journal ← recoverCandidates sha id journal.candidates journal
  let journal := { journal with state := .quarantined }
  writeQuarantineJournal id journal
  let journal := { journal with state := .deleting }
  writeQuarantineJournal id journal
  finishQuarantineDelete id journal removals
  return journal.candidates.length

/-! ### Listing -/

/-- The checks of `_discard_abandoned_staging`. -/
def checkStaging (id : String) (transaction : Transaction) : Except String Unit :=
  if isTransactionId id = false then .error "Invalid retention quarantine transaction id"
  else if transaction.payload.any fun payload => payload.parents ≠ [] then
    .error "Unsafe retention quarantine staging payload"
  else .ok ()

/-- `entry.unlink()` of so many temporary files. -/
def unlinkTemporaries (id : String) : ℕ → Program Unit
  | 0 => return ()
  | n + 1 => do
    step fun disk => disk.modifyStaging id fun transaction => { transaction with temporaries := n }
    unlinkTemporaries id n

/-- `_discard_abandoned_staging`. -/
def discardAbandonedStaging (id : String) (transaction : Transaction) : Program Unit := do
  lift (checkStaging id transaction)
  if transaction.payload.isSome then
    step fun disk => disk.modifyStaging id fun transaction => { transaction with payload := none }
  if transaction.journal.isSome then
    step fun disk => disk.modifyStaging id fun transaction => { transaction with journal := none }
  unlinkTemporaries id transaction.temporaries
  step fun disk => { disk with staging := Assoc.erase id disk.staging }

/-- One transaction of `list_pending_quarantines`: is it pending? -/
def checkTransaction (sha : Sha256) (disk : Disk) (entry : String × Transaction) :
    Except String Bool := do
  let journal ← readQuarantineJournal entry.1 entry.2
  preflightQuarantine sha disk entry.2 journal
  return decide (journal.state ≠ .deleted)

/-- The transactions that are pending, in the order they are checked. -/
def pendingOf (sha : Sha256) (disk : Disk) : List (String × Transaction) → Except String (List String)
  | [] => .ok []
  | entry :: entries => do
    let pending ← checkTransaction sha disk entry
    let rest ← pendingOf sha disk entries
    return if pending then entry.1 :: rest else rest

/-- `sorted(quarantine_root.iterdir())`; the names with a dot come first. -/
def sortedByName (entries : List (String × Transaction)) : List (String × Transaction) :=
  entries.insertionSort fun a b => a.1 ≤ b.1

/-- `list_pending_quarantines`. -/
def listPendingQuarantines (sha : Sha256) : Program (List String) := do
  let disk ← ask id
  if disk.quarantineRoot = false then return []
  (sortedByName disk.staging).forM fun entry => discardAbandonedStaging entry.1 entry.2
  let pending ← ask fun disk => pendingOf sha disk (sortedByName disk.transactions)
  lift pending

end Bookwarden.Retention.Quarantine
