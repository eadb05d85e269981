import Bookwarden.Extractors.Multiformat
import Bookwarden.Pipeline.Package

/-!
# The audit of one book, and the run over a library

`LibraryAuditPipeline` of `pipeline_v2.py`. A book is read, its files are inspected, the evidence of
the enrichers is added, and the resolution of all evidence is sealed into a package. A book of a
materialized source is exported file by file, and read once more at the end: a book that changed in
between is recorded as changed. Whatever else a book raises is recorded in a package of its own, and
the run goes on with the next book.

The reader, the exporter, the inspector and the enrichers are arbitrary: `BookReplies` holds their
answers for one book, each call with an answer of its own. `_active_book` is always unset between two
books, and is left out.

## Main definitions

* `LibraryAuditPipeline.bookSnapshot`, `LibraryAuditPipeline.gather`,
  `LibraryAuditPipeline.processBook` — `_book_snapshot`, the inspection of a book, `_process_book`
* `LibraryAuditPipeline.failedPackage`, `LibraryAuditPipeline.sourceChangedPackage` — the handlers
* `LibraryAuditPipeline.run`
-/

namespace Bookwarden

/-! ### Answers and exceptions -/

/-- `EvidenceEnrichment`. -/
structure EvidenceEnrichment where
  evidence : List SourceEvidence := []
  privacyReceipts : List Dict := []
  warnings : List String := []
  deriving DecidableEq, Repr

/-- What a call to a reader, an inspector or an enricher raises. -/
inductive Raised
  /-- `OfflineLibraryChangedError`. -/
  | libraryChanged (text : String)
  /-- Any other exception: `str(error)` and `type(error).__name__`. -/
  | other (text name : String)
  deriving DecidableEq, Repr

/-- What `_process_book` raises. -/
inductive BookError
  /-- `SourceChangedError`. -/
  | sourceChanged (snapshot : BookSnapshot)
  | other (text name : String)
  deriving DecidableEq, Repr

/-- An exception outside the handler of `_inspect_remote`. -/
def Raised.uncaught : Raised → BookError
  | .libraryChanged text => .other text "OfflineLibraryChangedError"
  | .other text name => .other text name

/-- An exception where `OfflineLibraryChangedError` is turned into `SourceChangedError`. -/
def Raised.caught (snapshot : BookSnapshot) : Raised → BookError
  | .libraryChanged _ => .sourceChanged snapshot
  | .other text name => .other text name

/-- The `ValueError` of the pipeline itself. -/
def BookError.value (text : String) : BookError := .other text "ValueError"

/-- The answers of the reader at one moment. -/
structure ReaderReply where
  /-- `show_metadata`. -/
  metadata : Except Raised Dict
  /-- `format_references`, which only materialized readers have. -/
  references : Json → Except Raised (List String) := fun _ => .ok []

/-- What an enricher makes of the inspections: it may write to them. -/
abbrev Collected := List FormatInspection × EvidenceEnrichment

/-- The answers to every call made for one book. -/
structure BookReplies where
  /-- The reader when the book is taken up. -/
  reader : ReaderReply
  /-- The reader at the end of `_inspect_remote`. -/
  rereader : ReaderReply := reader
  /-- The reader in the handler of a failure. -/
  failureReader : ReaderReply := reader
  /-- Does `open_file_beneath` open the path? -/
  readable : String → Bool := fun _ => true
  /-- The inspection of a path; of a materialized source, the export of a reference with it. -/
  inspect : String → Except Raised FormatInspection
  /-- Leaving `export_format`. -/
  release : String → Except Raised Unit := fun _ => .ok ()
  /-- `collect_materialized`, when the enricher has it. -/
  collectMaterialized : Option (BookSnapshot → FormatInspection →
    Except Raised (FormatInspection × EvidenceEnrichment)) := none
  /-- `collect`, or `collect_aggregate` where it is preferred. -/
  collect : BookSnapshot → List FormatInspection → Except Raised Collected :=
    fun _ inspections => .ok (inspections, {})
  /-- `assert_unchanged`, when the reader has it. -/
  assertUnchanged : Except Raised Unit := .ok ()
  /-- The exception of `resolve_manifestation`, when it raises. -/
  resolveError : String × String := ("", "ValidationError")
  /-- The fresh evidence id and the time of a package, and of the package of a handler. -/
  stamp : String × String
  failureStamp : String × String

/-- An item of `list_books`. Its id is `int(item["id"])`, `none` when that raises. -/
structure ListedBook where
  id : Option ℤ
  raw : Dict
  replies : BookReplies

/-- `AuditMode`. -/
inductive AuditMode
  | shadow
  | tierAAuto
  deriving DecidableEq, Repr

/-- `LibraryRunStatus`. -/
inductive LibraryRunStatus
  | running
  | completed
  | completedWithErrors
  | blockedRecovery
  deriving DecidableEq, Repr

/-- What `LibraryAuditPipeline.__init__` sets up for a source. -/
structure LibraryAuditPipeline where
  source : Option BookSourceDescriptor := none
  /-- `library_path` of a local reader. -/
  libraryPath : Option String := none
  runId : String
  mode : AuditMode := .shadow

/-! ### Merging the evidence of a materialized book -/

/-- `==` of two evidence models. -/
def SourceEvidence.pyEq (a b : SourceEvidence) : Bool :=
  { a with value := .null, manifestationIds := [] } = { b with value := .null, manifestationIds := [] }
    && a.value.pyEq b.value && (Json.strDict a.manifestationIds).pyEq (.strDict b.manifestationIds)

/-- What `merge` has collected. -/
structure Merged where
  evidenceById : List (String × SourceEvidence) := []
  privacyReceipts : List Dict := []
  warnings : List String := []

/-- One item of the evidence loop of `merge`; `none` is the conflict. -/
def mergeEvidence (byId : List (String × SourceEvidence)) (evidence : SourceEvidence) :
    Option (List (String × SourceEvidence)) :=
  match Assoc.get? evidence.evidenceId byId with
  | some existing =>
    if existing.pyEq evidence then some (Assoc.set evidence.evidenceId evidence byId) else none
  | none => some (Assoc.set evidence.evidenceId evidence byId)

/-- `merge`. -/
def Merged.merge (py : Runtime) (m : Merged) (enrichment : EvidenceEnrichment) : Option Merged := do
  let evidenceById ← enrichment.evidence.foldlM mergeEvidence m.evidenceById
  return {
    evidenceById
    privacyReceipts := enrichment.privacyReceipts.foldl (fun receipts receipt =>
      if receipts.any fun r => hashJson py (.obj r) = hashJson py (.obj receipt) then receipts
      else receipts ++ [receipt]) m.privacyReceipts
    warnings := enrichment.warnings.foldl (fun warnings warning =>
      if warning ∈ warnings then warnings else warnings ++ [warning]) m.warnings }

/-- `combined_enrichment`. -/
def Merged.enrichment (m : Merged) : EvidenceEnrichment :=
  ⟨m.evidenceById.map Prod.snd, m.privacyReceipts, m.warnings⟩

/-- The `ValueError` of a merge. -/
def mergeConflict : BookError := .value "remote enricher returned conflicting evidence identifiers"

namespace LibraryAuditPipeline

variable (py : Runtime) (pipeline : LibraryAuditPipeline)

/-! ### Snapshots -/

/-- `self.library_root`: `Path(os.path.abspath(raw_library_root))` of a local source. -/
def libraryRoot : Option String :=
  match pipeline.source with
  | some _ => none
  | none => pipeline.libraryPath.map fun p => normpath (if isAbsPath p then p else joinPath py.cwd p)

/-- `_book_key`. -/
def bookKey (bookId : ℤ) : String :=
  match pipeline.source with
  | none => "calibre:" ++ toString bookId
  | some source => source.kind.keyPrefix ++ ":" ++ source.fingerprint ++ ":" ++ toString bookId

/-- `_file_references`. -/
def fileReferences (reader : ReaderReply) (rawFormats : Json) : Except BookError (List String) :=
  match pipeline.source with
  | none => .ok (formatPaths rawFormats)
  | some _ =>
    match reader.references rawFormats with
    | .error raised => .error raised.uncaught
    | .ok references =>
      if references.Nodup then .ok references
      else .error (.value "Calibre returned duplicate remote format references")

/-- `_new_snapshot`. -/
def newSnapshot (bookId : ℤ) (current : Dict) (files : List String)
    (sourceRevisionSha256 : Option String) : BookSnapshot :=
  let snapshot : BookSnapshot :=
    { bookKey := pipeline.bookKey bookId
      calibreBookId := bookId
      currentMetadata := current
      files
      libraryRoot := pipeline.libraryRoot py
      source := pipeline.source
      sourceRevisionSha256
      snapshotSha256 := String.ofList (List.replicate 64 '0') }
  { snapshot with snapshotSha256 := snapshot.calculatedSha256 py }

/-- The revision of a record of a materialized source. -/
def revision (raw : Dict) : Option String :=
  pipeline.source.map fun _ => hashJson py (.obj raw)

/-- `_book_snapshot`. -/
def bookSnapshot (reader : ReaderReply) (bookId : ℤ) (rawBook : Dict) :
    Except BookError BookSnapshot :=
  match reader.metadata with
  | .error raised => .error raised.uncaught
  | .ok currentRaw =>
    match pipeline.fileReferences reader
        ((Dict.get currentRaw "formats").orElse (Dict.get rawBook "formats")) with
    | .error error => .error error
    | .ok files =>
      .ok (pipeline.newSnapshot py bookId (canonicalCurrent py currentRaw) files
        (pipeline.revision py currentRaw))

/-- `_validated_file`. -/
def validatedFile (replies : BookReplies) (rawPath : String) : Except BookError String :=
  match pipeline.libraryRoot py with
  | none => .ok rawPath
  | some _ =>
    if !isAbsPath rawPath then .error (.value "Calibre returned a non-absolute ebook path")
    else if !replies.readable rawPath then
      .error (.value "Calibre returned an unreadable or symlinked ebook path")
    else .ok rawPath

/-! ### The evidence of a book -/

/-- The inspection of the files of a local book. -/
def inspectLocal (replies : BookReplies) (files : List String) :
    Except BookError (List FormatInspection) :=
  files.mapM fun path => do
    let path ← pipeline.validatedFile py replies path
    (replies.inspect path).mapError Raised.uncaught

/-- A local book: the inspections and what the enricher makes of them. -/
def gatherLocal (replies : BookReplies) (snapshot : BookSnapshot) : Except BookError Collected := do
  let inspections ← pipeline.inspectLocal py replies snapshot.files
  (replies.collect snapshot inspections).mapError Raised.uncaught

/-- The evidence that needs the exported file, merged. -/
def mergeMaterialized (replies : BookReplies) (snapshot : BookSnapshot) (merged : Merged)
    (inspection : FormatInspection) : Except BookError (FormatInspection × Merged) :=
  match replies.collectMaterialized with
  | none => .ok (inspection, merged)
  | some collector =>
    match collector snapshot inspection with
    | .error raised => .error (raised.caught snapshot)
    | .ok (inspection, enrichment) =>
      match merged.merge py enrichment with
      | some merged => .ok (inspection, merged)
      | none => .error mergeConflict

/-- An inspection under the reference of its file. -/
def underReference (reference : String) (inspection : FormatInspection) : FormatInspection :=
  { inspection with formatEvidence := { inspection.formatEvidence with path := reference } }

/-- One pass of the loop of `_inspect_remote`. -/
def inspectReference (replies : BookReplies) (snapshot : BookSnapshot)
    (done : List FormatInspection × Merged) (reference : String) :
    Except BookError (List FormatInspection × Merged) := do
  let inspection ← (replies.inspect reference).mapError (Raised.caught snapshot)
  let (inspection, merged) ← mergeMaterialized py replies snapshot done.2 inspection
  (replies.release reference).mapError (Raised.caught snapshot)
  return (done.1 ++ [underReference reference inspection], merged)

/-- The second reading at the end of `_inspect_remote`. -/
def assertSame (replies : BookReplies) (snapshot : BookSnapshot) : Except BookError Unit := do
  let currentRaw ← replies.rereader.metadata.mapError Raised.uncaught
  let files ← pipeline.fileReferences replies.rereader (Dict.get currentRaw "formats")
  if (Json.obj (canonicalCurrent py currentRaw)).pyEq (.obj snapshot.currentMetadata) = false
      ∨ files ≠ snapshot.files
      ∨ some (hashJson py (.obj currentRaw)) ≠ snapshot.sourceRevisionSha256 then
    .error (.sourceChanged snapshot)
  else replies.assertUnchanged.mapError (Raised.caught snapshot)

/-- `_inspect_remote` up to the second reading: the exports and their merged evidence. -/
def inspectExports (replies : BookReplies) (snapshot : BookSnapshot) :
    Except BookError (List FormatInspection × Merged) := do
  let (inspections, merged) ←
    snapshot.files.foldlM (inspectReference py replies snapshot) ([], {})
  let (inspections, enrichment) ←
    (replies.collect snapshot inspections).mapError Raised.uncaught
  match merged.merge py enrichment with
  | none => .error mergeConflict
  | some merged => .ok (inspections, merged)

/-- `_inspect_remote`. -/
def inspectRemote (replies : BookReplies) (snapshot : BookSnapshot) : Except BookError Collected := do
  let (inspections, merged) ← inspectExports py replies snapshot
  pipeline.assertSame py replies snapshot
  return (inspections, merged.enrichment)

/-- The inspections of a book and the evidence of the enrichers. -/
def gather (replies : BookReplies) (snapshot : BookSnapshot) : Except BookError Collected :=
  match pipeline.source with
  | none => pipeline.gatherLocal py replies snapshot
  | some _ => pipeline.inspectRemote py replies snapshot

end LibraryAuditPipeline

/-- `source_evidence`: the evidence of the inspections, then that of the enrichers. -/
def sourceEvidenceOf (collected : Collected) : List SourceEvidence :=
  collected.1.flatMap (·.evidence) ++ collected.2.evidence

/-- The formats of a package. -/
def formatsOf (collected : Collected) : List FormatEvidence := collected.1.map (·.formatEvidence)

namespace LibraryAuditPipeline

variable (py : Runtime) (pipeline : LibraryAuditPipeline)

/-! ### One book -/

/-- The state of a resolved book; `none` is the refusal of automatic application. -/
def decidedState (tier : IdentityTier) : Option BookAuditState :=
  match tier with
  | .tierC => some .deferred
  | .tierB => some .review
  | .tierA => if pipeline.mode = .shadow then some .shadowed else none

/-- The package of a resolved book, before it is sealed. -/
def decidedPackage (replies : BookReplies) (bookId : ℤ) (snapshot : BookSnapshot)
    (collected : Collected) (identity : ManifestationResolution) (state : BookAuditState) :
    EvidencePackageV2 where
  evidenceId := replies.stamp.1
  runId := pipeline.runId
  bookKey := pipeline.bookKey bookId
  createdAt := replies.stamp.2
  state
  snapshot
  formats := formatsOf collected
  sourceEvidence := sourceEvidenceOf collected
  identity
  privacyReceipts := collected.2.privacyReceipts
  warnings := collected.2.warnings

/-- The `ValueError` of `seal`. -/
def sealRefused : BookError :=
  .value "V2 evidence package violates its internal snapshot invariants"

/-- `_process_book`: the states it emits, and the package or the exception. -/
def processBook (bookId : ℤ) (rawBook : Dict) (replies : BookReplies) :
    List BookAuditState × Except BookError EvidencePackageV2 :=
  match pipeline.bookSnapshot py replies.reader bookId rawBook with
  | .error error => ([.snapshotting], .error error)
  | .ok snapshot =>
    match pipeline.gather py replies snapshot with
    | .error error => ([.snapshotting, .extracting], .error error)
    | .ok collected =>
      match resolveManifestation py (formatsOf collected) (sourceEvidenceOf collected)
          snapshot.currentMetadata with
      | none => ([.snapshotting, .extracting, .resolving],
          .error (.other replies.resolveError.1 replies.resolveError.2))
      | some identity =>
        let states := [.snapshotting, .extracting, .resolving, .decided]
        match pipeline.decidedState identity.tier with
        | none => (states, .error (.value "automatic V2 application is unavailable"))
        | some state =>
          match (pipeline.decidedPackage replies bookId snapshot collected identity state).seal py with
          | none => (states, .error sealRefused)
          | some package => (states ++ [state], .ok package)

/-! ### The handlers -/

/-- The snapshot that `_failed_package` seals: the book's, or one of the listed record. -/
def failedSnapshot (bookId : ℤ) (rawBook : Dict) (replies : BookReplies) : BookSnapshot :=
  match pipeline.bookSnapshot py replies.failureReader bookId rawBook with
  | .ok snapshot => snapshot
  | .error _ =>
    let files := match pipeline.source with
      | some _ => []
      | none => formatPaths (Dict.get rawBook "formats")
    pipeline.newSnapshot py bookId (canonicalCurrent py rawBook) files (pipeline.revision py rawBook)

/-- The identity of a package of a handler. -/
def handlerIdentity (flag reason : String) : ManifestationResolution where
  tier := .tierC
  riskFlags := [flag]
  reasons := [reason]

/-- The package of a handler, before it is sealed. -/
def handlerPackage (snapshot : BookSnapshot) (stamp : String × String) (state : BookAuditState)
    (flag message : String) : EvidencePackageV2 where
  evidenceId := stamp.1
  runId := pipeline.runId
  bookKey := snapshot.bookKey
  createdAt := stamp.2
  state
  snapshot
  identity := handlerIdentity flag message
  error := some message

/-- The message of a failure; that of a materialized source does not tell. -/
def failureMessage (text name : String) : String :=
  match pipeline.source with
  | some _ => "Remote content inspection failed"
  | none => textOr (takeChars 500 text) name

/-- `_failed_package`; `none` when sealing raises. -/
def failedPackage (bookId : ℤ) (rawBook : Dict) (replies : BookReplies) (text name : String) :
    Option EvidencePackageV2 :=
  (pipeline.handlerPackage (pipeline.failedSnapshot py bookId rawBook replies) replies.failureStamp
    .failed "pipeline_error" (pipeline.failureMessage text name)).seal py

/-- `_source_changed_package`; `none` when sealing raises. -/
def sourceChangedPackage (snapshot : BookSnapshot) (stamp : String × String) :
    Option EvidencePackageV2 :=
  (pipeline.handlerPackage snapshot stamp .sourceChanged "source_changed"
    "Calibre source changed while the book was being inspected").seal py

/-! ### The run -/

/-- What a run has done so far. -/
structure RunTrace where
  /-- The calls of the state callback. -/
  emitted : List (String × BookAuditState) := []
  /-- The calls of the package callback. -/
  delivered : List EvidencePackageV2 := []
  hasErrors : Bool := false
  /-- An exception has left the loop. -/
  aborted : Bool := false

/-- A pass of the loop: the states emitted, the package, and whether the book failed. -/
def auditBook (bookId : ℤ) (rawBook : Dict) (replies : BookReplies) :
    List BookAuditState × Option EvidencePackageV2 × Bool :=
  match pipeline.processBook py bookId rawBook replies with
  | (states, .ok package) => (states, some package, false)
  | (states, .error (.sourceChanged snapshot)) =>
    match pipeline.sourceChangedPackage py snapshot replies.failureStamp with
    | some package => (states ++ [.sourceChanged], some package, false)
    | none => (states, none, false)
  | (states, .error (.other text name)) =>
    match pipeline.failedPackage py bookId rawBook replies text name with
    | some package => (states ++ [.failed], some package, true)
    | none => (states, none, true)

/-- The loop over the books. -/
def auditBooks (skipped : List String) : List (ℤ × Dict × BookReplies) → RunTrace → RunTrace
  | [], trace => trace
  | (bookId, rawBook, replies) :: books, trace =>
    let key := pipeline.bookKey bookId
    if key ∈ skipped then auditBooks skipped books trace else
    match pipeline.auditBook py bookId rawBook replies with
    | (states, some package, failed) =>
      let trace := { trace with
        emitted := trace.emitted ++ states.map (key, ·)
        hasErrors := trace.hasErrors || failed }
      if package.state ∈ terminalBookStates then
        auditBooks skipped books { trace with delivered := trace.delivered ++ [package] }
      else { trace with aborted := true }
    | (states, none, failed) =>
      { trace with
        emitted := trace.emitted ++ states.map (key, ·)
        hasErrors := trace.hasErrors || failed
        aborted := true }

/-- `sorted(books, key=int(item["id"]))`, cut to a positive limit; `none` when an id is no
integer. -/
def selectBooks (books : List ListedBook) (limit : ℕ) : Option (List (ℤ × Dict × BookReplies)) := do
  let keyed ← books.mapM fun b => b.id.map fun id => (id, b.raw, b.replies)
  let ordered := keyed.insertionSort fun a b => a.1 ≤ b.1
  return if 0 < limit then ordered.take limit else ordered

/-- `LibraryAuditResult`, with its snapshot inlined; `created_at` is left out. -/
structure LibraryAuditResult where
  runId : String
  status : LibraryRunStatus
  bookKeys : List String
  snapshotSha256 : String
  packages : List EvidencePackageV2

/-- `run`: what it has done, and its result; no result when it raises. -/
def run (books : List ListedBook) (limit : ℕ) (skipped : List String) :
    RunTrace × Option LibraryAuditResult :=
  if pipeline.mode = .tierAAuto then ({ aborted := true }, none) else
  match selectBooks books limit with
  | none => ({ aborted := true }, none)
  | some selected =>
    let trace := pipeline.auditBooks py skipped selected {}
    let keys := selected.map fun b => pipeline.bookKey b.1
    (trace, if trace.aborted then none else some {
      runId := pipeline.runId
      status := if trace.hasErrors then .completedWithErrors else .completed
      bookKeys := keys
      snapshotSha256 := hashJson py (.strs keys)
      packages := trace.delivered })

end LibraryAuditPipeline

end Bookwarden
