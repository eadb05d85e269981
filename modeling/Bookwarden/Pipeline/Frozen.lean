import Bookwarden.Lib.Halting
import Bookwarden.Pipeline.Resilience

/-!
# The frozen reader

`run_persisted_library_audit` does not hand its reader to the pipeline, but a `FrozenLibraryReader`
around it, so that the books of the run are those of the list that was stored when the run was
started. The wrapper passes on every method the pipeline asks for, except `assert_unchanged`: the
pipeline looks it up with `getattr`, does not find it, and leaves the check out.

## Main results

* `LibraryReader.frozen_replies` — the wrapper answers as the reader does, without the check
* `LibraryAuditPipeline.auditBook_outcome_iff` — a book ends as it does without the check, exactly
  when the check has nothing to say
* `LibraryReader.frozen_refines_iff` — the same for whole runs
-/

namespace Bookwarden

/-! ### Readers over time -/

/-- What leaves `export_format`. -/
structure ExportedFile where
  path : String
  content : List UInt8
  deriving DecidableEq, Repr

/-- How far the audit of a book is when the reader is asked. -/
inductive AuditPhase
  | takenUp
  | exporting (reference : String)
  | released (reference : String)
  | reread
  | check
  | failure
  deriving DecidableEq, Repr

/-- A moment of a run: the place of the book in the list, and how far its audit is. -/
structure AuditMoment where
  turn : ℕ
  phase : AuditPhase
  deriving DecidableEq, Repr

/-- A library reader with a `source_kind`, with the answers of its methods at every moment. -/
structure LibraryReader where
  sourceKind : SourceKind
  fingerprint : String
  /-- The listed records; an id is `int(item["id"])`, `none` when that raises. -/
  listBooks : List (Option ℤ × Dict)
  showMetadata : AuditMoment → ℤ → Except Raised Dict
  formatReferences : AuditMoment → ℤ → Json → Except Raised (List String)
  formatFromReference : String → Except Raised String
  /-- Entering `export_format`. -/
  exportFormat : AuditMoment → ℤ → String → Except Raised ExportedFile
  /-- Leaving `export_format`. -/
  releaseFormat : AuditMoment → ℤ → String → Except Raised Unit
  /-- `assert_unchanged`, for a reader that has it. -/
  assertUnchanged : Option (AuditMoment → ℤ → Except Raised Unit)

/-- `FrozenLibraryReader`. -/
def frozenLibraryReader (cli : LibraryReader) (books : List (Option ℤ × Dict)) : LibraryReader where
  sourceKind := cli.sourceKind
  fingerprint := cli.fingerprint
  listBooks := books
  showMetadata := cli.showMetadata
  formatReferences := cli.formatReferences
  formatFromReference := cli.formatFromReference
  exportFormat := cli.exportFormat
  releaseFormat := cli.releaseFormat
  -- the class has no such method, and no `__getattr__`
  assertUnchanged := none

/-- What a run needs besides its reader: the inspector, and for every turn the answers of the
enricher, the fresh ids and the times. -/
structure AuditParts where
  inspector : ExportedFile → Except Raised FormatInspection
  collectMaterialized : Option (ℕ → BookSnapshot → FormatInspection →
    Except Raised (FormatInspection × EvidenceEnrichment)) := none
  collect : ℕ → BookSnapshot → List FormatInspection → Except Raised Collected :=
    fun _ _ inspections => .ok (inspections, {})
  resolveError : ℕ → String × String := fun _ => ("", "ValidationError")
  stamp : ℕ → String × String
  failureStamp : ℕ → String × String

namespace LibraryReader

/-- The reader as the pipeline asks it about a book at a moment. -/
def reply (reader : LibraryReader) (bookId : ℤ) (moment : AuditMoment) : ReaderReply where
  metadata := reader.showMetadata moment bookId
  references := reader.formatReferences moment bookId

/-- The answers that the pipeline gets during the audit of a book. -/
def replies (reader : LibraryReader) (parts : AuditParts) (turn : ℕ) (bookId : ℤ) :
    BookReplies where
  reader := reader.reply bookId ⟨turn, .takenUp⟩
  rereader := reader.reply bookId ⟨turn, .reread⟩
  failureReader := reader.reply bookId ⟨turn, .failure⟩
  inspect := fun reference => do
    let formatName ← reader.formatFromReference reference
    let exported ← reader.exportFormat ⟨turn, .exporting reference⟩ bookId formatName
    parts.inspector exported
  release := fun reference => do
    let formatName ← reader.formatFromReference reference
    reader.releaseFormat ⟨turn, .released reference⟩ bookId formatName
  collectMaterialized := parts.collectMaterialized.map fun collector => collector turn
  collect := parts.collect turn
  -- `getattr(self.cli, "assert_unchanged", None)`
  assertUnchanged := match reader.assertUnchanged with
    | some assertUnchanged => assertUnchanged ⟨turn, .check⟩ bookId
    | none => .ok ()
  resolveError := parts.resolveError turn
  stamp := parts.stamp turn
  failureStamp := parts.failureStamp turn

/-- The listed books, with the answers the pipeline gets for each. -/
def books (reader : LibraryReader) (parts : AuditParts) : List ListedBook :=
  reader.listBooks.zipIdx.map fun item =>
    { id := item.1.1, raw := item.1.2, replies := reader.replies parts item.2 (item.1.1.getD 0) }

/-- `LibraryAuditPipeline.__init__` over a reader with a `source_kind`. -/
def pipeline (reader : LibraryReader) (runId : String) (mode : AuditMode) : LibraryAuditPipeline where
  source := some ⟨reader.sourceKind, reader.fingerprint⟩
  runId := runId
  mode := mode

/-- `LibraryAuditPipeline.run` over a reader. -/
def audit (py : Runtime) (reader : LibraryReader) (parts : AuditParts) (runId : String)
    (mode : AuditMode) (limit : ℕ) (skipped : List String) :
    LibraryAuditPipeline.RunTrace × Option LibraryAuditPipeline.LibraryAuditResult :=
  (reader.pipeline runId mode).run py (reader.books parts) limit skipped

end LibraryReader

/-- How a book ended; `auto_patch` is a field of the identity. -/
structure BookOutcome where
  bookKey : String
  state : BookAuditState
  identity : ManifestationResolution
  deriving DecidableEq, Repr

/-- How the book of a package ended. -/
def EvidencePackageV2.outcome (package : EvidencePackageV2) : BookOutcome :=
  ⟨package.bookKey, package.state, package.identity⟩

/-! ### The check left out -/

/-- The same answers, when `assert_unchanged` is not looked up. -/
def BookReplies.unchecked (replies : BookReplies) : BookReplies :=
  { replies with assertUnchanged := .ok () }

/-- The wrapper answers as the reader it wraps, without the check. -/
theorem LibraryReader.frozen_replies (cli : LibraryReader) (books : List (Option ℤ × Dict))
    (parts : AuditParts) (turn : ℕ) (bookId : ℤ) :
    (frozenLibraryReader cli books).replies parts turn bookId
      = (cli.replies parts turn bookId).unchecked := rfl

namespace LibraryAuditPipeline

variable {py : Runtime} {pipeline : LibraryAuditPipeline} {bookId : ℤ} {rawBook : Dict}
  {replies : BookReplies} {snapshot : BookSnapshot} {collected : Collected}
  {source : BookSourceDescriptor}

/-- The check comes last: an inspection is the unchecked one, followed by the check. -/
theorem gather_eq_unchecked_bind (hsource : pipeline.source = some source) :
    pipeline.gather py replies snapshot = (do
      let collected ← pipeline.gather py replies.unchecked snapshot
      replies.assertUnchanged.mapError (Raised.caught snapshot)
      return collected) := by
  have hsame : pipeline.assertSame py replies snapshot = (do
      pipeline.assertSame py replies.unchecked snapshot
      replies.assertUnchanged.mapError (Raised.caught snapshot)) := by
    show assertSame py pipeline replies snapshot = _
    rw [assertSame, assertSame]
    simp only [BookReplies.unchecked, bind_assoc]
    congr 1
    funext currentRaw
    congr 1
    funext files
    split
    · rfl
    · rfl
  have hexports : inspectExports py replies.unchecked snapshot = inspectExports py replies snapshot :=
    rfl
  simp only [gather, hsource]
  rw [inspectRemote, inspectRemote, hsame, hexports]
  simp only [bind_assoc, pure_bind]

theorem gather_of_unchecked_error (hsource : pipeline.source = some source) {error : BookError}
    (h : pipeline.gather py replies.unchecked snapshot = .error error) :
    pipeline.gather py replies snapshot = .error error := by
  rw [gather_eq_unchecked_bind hsource, h]
  rfl

theorem gather_of_unchecked_ok (hsource : pipeline.source = some source)
    (h : pipeline.gather py replies.unchecked snapshot = .ok collected) :
    pipeline.gather py replies snapshot
      = (replies.assertUnchanged.mapError (Raised.caught snapshot)).map fun _ => collected := by
  rw [gather_eq_unchecked_bind hsource, h]
  cases replies.assertUnchanged with
  | ok u => rfl
  | error raised => rfl

/-- Only the inspection of a book can tell the check from its absence. -/
theorem auditBook_unchecked_of_gather
    (h : ∀ snapshot, pipeline.bookSnapshot py replies.reader bookId rawBook = .ok snapshot →
      pipeline.gather py replies.unchecked snapshot = pipeline.gather py replies snapshot) :
    pipeline.auditBook py bookId rawBook replies.unchecked
      = pipeline.auditBook py bookId rawBook replies := by
  have hprocess : pipeline.processBook py bookId rawBook replies.unchecked
      = pipeline.processBook py bookId rawBook replies := by
    rw [processBook, processBook]
    cases hread : pipeline.bookSnapshot py replies.reader bookId rawBook with
    | error error =>
      have hread' : pipeline.bookSnapshot py replies.unchecked.reader bookId rawBook
        = .error error := hread
      rw [hread']
    | ok snapshot =>
      have hread' : pipeline.bookSnapshot py replies.unchecked.reader bookId rawBook
        = .ok snapshot := hread
      rw [hread']
      dsimp only
      rw [h snapshot hread]
      rfl
  rw [auditBook, auditBook, hprocess]
  rfl

/-- The package of one pass of the loop. -/
theorem auditBook_package (py : Runtime) (pipeline : LibraryAuditPipeline) (bookId : ℤ)
    (rawBook : Dict) (replies : BookReplies) :
    (pipeline.auditBook py bookId rawBook replies).2.1 =
      match (pipeline.processBook py bookId rawBook replies).2 with
      | .ok package => some package
      | .error (.sourceChanged snapshot) =>
        pipeline.sourceChangedPackage py snapshot replies.failureStamp
      | .error (.other text name) => pipeline.failedPackage py bookId rawBook replies text name := by
  rw [auditBook]
  rcases pipeline.processBook py bookId rawBook replies with ⟨states, (snapshot | ⟨text, name⟩) | package⟩
  · dsimp only
    cases pipeline.sourceChangedPackage py snapshot replies.failureStamp <;> rfl
  · dsimp only
    cases pipeline.failedPackage py bookId rawBook replies text name <;> rfl
  · rfl

theorem failedPackage_state {text name : String} {package : EvidencePackageV2}
    (h : pipeline.failedPackage py bookId rawBook replies text name = some package) :
    package.state = .failed := by
  rw [failedPackage] at h
  exact (delivered_of_handler (by decide) h).2

theorem sourceChangedPackage_state {stamp : String × String} {package : EvidencePackageV2}
    (h : pipeline.sourceChangedPackage py snapshot stamp = some package) :
    package.state = .sourceChanged := by
  rw [sourceChangedPackage] at h
  exact (delivered_of_handler (by decide) h).2

/-- The handler of a materialized source does not tell what it handles. -/
theorem failedPackage_of_source (hsource : pipeline.source = some source)
    (text name text' name' : String) :
    pipeline.failedPackage py bookId rawBook replies text name
      = pipeline.failedPackage py bookId rawBook replies text' name' := by
  rw [failedPackage, failedPackage, failureMessage, failureMessage, hsource]

theorem processBook_of_gather_error {error : BookError}
    (hread : pipeline.bookSnapshot py replies.reader bookId rawBook = .ok snapshot)
    (hgather : pipeline.gather py replies snapshot = .error error) :
    (pipeline.processBook py bookId rawBook replies).2 = .error error := by
  rw [processBook, hread]
  dsimp only
  rw [hgather]

/-- An audit that no change interrupts does not end as changed. -/
theorem auditBook_state_ne (hmode : pipeline.mode = .shadow)
    (hchanged : ∀ snapshot, ¬ Changed py pipeline bookId rawBook replies snapshot)
    {package : EvidencePackageV2}
    (h : (pipeline.auditBook py bookId rawBook replies).2.1 = some package) :
    package.state ≠ .sourceChanged := by
  rw [auditBook_package] at h
  rcases processBook_spec py hmode bookId rawBook replies with
    ⟨⟨package', hok, -, -, -, hnot⟩, -⟩ | ⟨s, -, hs⟩ | ⟨⟨text, name, herror⟩, -, -⟩
  · rw [hok] at h
    cases h
    intro hstate
    exact hnot (by rw [hstate]; decide)
  · exact absurd hs (hchanged s)
  · rw [herror] at h
    rw [failedPackage_state h]
    decide

/-- The check would have said something that the run without it does not record: the book passed
everything else, and the check raises. A change is not missed when neither run can record the book;
another exception is not missed when the book fails anyway. -/
inductive Overlooked (py : Runtime) (pipeline : LibraryAuditPipeline) (bookId : ℤ) (rawBook : Dict)
    (replies : BookReplies) : Prop
  | changed (snapshot : BookSnapshot) (collected : Collected) (text : String)
      (read : pipeline.bookSnapshot py replies.reader bookId rawBook = .ok snapshot)
      (gathered : pipeline.gather py replies.unchecked snapshot = .ok collected)
      (raises : replies.assertUnchanged = .error (.libraryChanged text))
      (recorded : snapshot.Sealable py ∨
        (pipeline.failedSnapshot py bookId rawBook replies).Sealable py)
  | failed (snapshot : BookSnapshot) (collected : Collected) (text name : String)
      (clean : Clean py pipeline bookId rawBook replies.unchecked snapshot collected)
      (raises : replies.assertUnchanged = .error (.other text name))

/-- A change that only the check sees: the run without it records the book as if nothing had
happened. -/
theorem outcome_eq_iff_of_changed (hmode : pipeline.mode = .shadow)
    (hsource : pipeline.source = some source)
    (hread : pipeline.bookSnapshot py replies.reader bookId rawBook = .ok snapshot)
    (hgather : pipeline.gather py replies.unchecked snapshot = .ok collected) {text : String}
    (hraises : replies.assertUnchanged = .error (.libraryChanged text)) :
    (pipeline.auditBook py bookId rawBook replies.unchecked).2.1.map (·.outcome)
        = (pipeline.auditBook py bookId rawBook replies).2.1.map (·.outcome) ↔
      ¬ (snapshot.Sealable py ∨ (pipeline.failedSnapshot py bookId rawBook replies).Sealable py) := by
  have hsame : ∀ s, pipeline.bookSnapshot py replies.reader bookId rawBook = .ok s → s = snapshot :=
    fun s hs => (Except.ok.inj (hread.symm.trans hs)).symm
  have hchecked : pipeline.gather py replies snapshot = .error (.sourceChanged snapshot) := by
    rw [gather_of_unchecked_ok hsource hgather, hraises]
    rfl
  have hchanged : Changed py pipeline bookId rawBook replies snapshot := ⟨hread, hchecked⟩
  have hsteady : ∀ s, ¬ Changed py pipeline bookId rawBook replies.unchecked s := by
    intro s hs
    have hgathered := hs.gathered
    rw [hsame s hs.read, hgather] at hgathered
    cases hgathered
  have hstate : ∀ package, (pipeline.auditBook py bookId rawBook replies).2.1 = some package →
      package.state = .sourceChanged := by
    intro package h
    rw [auditBook_package, processBook_of_gather_error hread hchecked] at h
    exact sourceChangedPackage_state h
  constructor
  · intro heq hrecorded
    rcases hrecorded with hsealable | hsealable
    · -- the checked run records the change, and the other run has no such state
      rcases auditBook_spec hmode bookId rawBook replies with ⟨package, hpackage, -⟩ | ⟨-, hnot⟩
      · rw [hpackage, Option.map_some] at heq
        obtain ⟨package', hpackage', houtcome⟩ := Option.map_eq_some_iff.mp heq
        refine auditBook_state_ne hmode hsteady hpackage' ?_
        exact (congrArg BookOutcome.state houtcome).trans (hstate package hpackage)
      · exact hnot (.changed snapshot hchanged hsealable)
    · rcases auditBook_spec hmode bookId rawBook replies.unchecked with
        ⟨package', hpackage', -⟩ | ⟨-, hnot⟩
      · rw [hpackage', Option.map_some] at heq
        obtain ⟨package, hpackage, houtcome⟩ := Option.map_eq_some_iff.mp heq.symm
        refine auditBook_state_ne hmode hsteady hpackage' ?_
        exact (congrArg BookOutcome.state houtcome).symm.trans (hstate package hpackage)
      · exact hnot (.failed hsteady hsealable)
  · intro hnot
    rw [not_or] at hnot
    have hunchecked : ¬ Recordable py pipeline bookId rawBook replies.unchecked := by
      rintro (⟨s, c, h⟩ | ⟨s, h, -⟩ | ⟨-, h⟩)
      · exact hnot.1 (hsame s h.read ▸ h.sealable)
      · exact hsteady s h
      · exact hnot.2 h
    have hdirect : ¬ Recordable py pipeline bookId rawBook replies := by
      rintro (⟨s, c, h⟩ | ⟨s, h, hsealable⟩ | ⟨h, -⟩)
      · exact hnot.1 (hsame s h.read ▸ h.sealable)
      · exact hnot.1 (hsame s h.read ▸ hsealable)
      · exact h snapshot hchanged
    have hnone : ∀ replies', ¬ Recordable py pipeline bookId rawBook replies' →
        (pipeline.auditBook py bookId rawBook replies').2.1 = none := by
      intro replies' h
      rcases auditBook_spec hmode bookId rawBook replies' with ⟨-, -, -, -, hrecordable⟩ | ⟨h', -⟩
      · exact absurd hrecordable h
      · exact h'
    rw [hnone _ hunchecked, hnone _ hdirect]

/-- Another exception of the check: the run without it records a failure only when the book fails
anyway. -/
theorem outcome_eq_iff_of_failed (hmode : pipeline.mode = .shadow)
    (hsource : pipeline.source = some source)
    (hread : pipeline.bookSnapshot py replies.reader bookId rawBook = .ok snapshot)
    (hgather : pipeline.gather py replies.unchecked snapshot = .ok collected) {text name : String}
    (hraises : replies.assertUnchanged = .error (.other text name)) :
    (pipeline.auditBook py bookId rawBook replies.unchecked).2.1.map (·.outcome)
        = (pipeline.auditBook py bookId rawBook replies).2.1.map (·.outcome) ↔
      ¬ ∃ snapshot collected, Clean py pipeline bookId rawBook replies.unchecked snapshot collected := by
  have hchecked : pipeline.gather py replies snapshot = .error (.other text name) := by
    rw [gather_of_unchecked_ok hsource hgather, hraises]
    rfl
  have hdirect : (pipeline.auditBook py bookId rawBook replies).2.1
      = pipeline.failedPackage py bookId rawBook replies text name := by
    rw [auditBook_package, processBook_of_gather_error hread hchecked]
  rcases processBook_spec py hmode bookId rawBook replies.unchecked with
    ⟨⟨package, hok, -, -, -, hnot⟩, hclean⟩ | ⟨s, -, hs⟩ | ⟨⟨text', name', herror⟩, hclean, -⟩
  · refine iff_of_false (fun heq => ?_) (not_not_intro hclean)
    have hpackage : (pipeline.auditBook py bookId rawBook replies.unchecked).2.1 = some package := by
      rw [auditBook_package, hok]
    rw [hpackage, Option.map_some, hdirect] at heq
    obtain ⟨package', hpackage', houtcome⟩ := Option.map_eq_some_iff.mp heq.symm
    have hstate : package.state = .failed :=
      (congrArg BookOutcome.state houtcome).symm.trans (failedPackage_state hpackage')
    exact hnot (by rw [hstate]; decide)
  · have hgathered := hs.gathered
    rw [← Except.ok.inj (hread.symm.trans hs.read), hgather] at hgathered
    cases hgathered
  · refine iff_of_true ?_ fun ⟨s, c, h⟩ => hclean s c h
    rw [hdirect, auditBook_package, herror]
    exact congrArg _ (failedPackage_of_source hsource text' name' text name)

/-- **A book without the check.** It ends as it does with the check, exactly when it is not
overlooked. -/
theorem auditBook_outcome_iff (hmode : pipeline.mode = .shadow)
    (hsource : pipeline.source = some source) :
    (pipeline.auditBook py bookId rawBook replies.unchecked).2.1.map (·.outcome)
        = (pipeline.auditBook py bookId rawBook replies).2.1.map (·.outcome) ↔
      ¬ Overlooked py pipeline bookId rawBook replies := by
  by_cases hend : ∃ snapshot collected,
      pipeline.bookSnapshot py replies.reader bookId rawBook = .ok snapshot ∧
      pipeline.gather py replies.unchecked snapshot = .ok collected
  · obtain ⟨snapshot, collected, hread, hgather⟩ := hend
    have hsame : ∀ s, pipeline.bookSnapshot py replies.reader bookId rawBook = .ok s →
        s = snapshot := fun s hs => (Except.ok.inj (hread.symm.trans hs)).symm
    rcases hraises : replies.assertUnchanged with (text | ⟨text, name⟩) | u
    · rw [outcome_eq_iff_of_changed hmode hsource hread hgather hraises]
      refine not_congr ⟨.changed snapshot collected text hread hgather hraises, ?_⟩
      rintro (⟨s, c, t, hs, -, -, hrecorded⟩ | ⟨s, c, t, n, -, h⟩)
      · exact hsame s hs ▸ hrecorded
      · exact absurd (hraises.symm.trans h) (by simp)
    · rw [outcome_eq_iff_of_failed hmode hsource hread hgather hraises]
      refine not_congr ⟨fun ⟨s, c, h⟩ => .failed s c text name h hraises, ?_⟩
      rintro (⟨s, c, t, -, -, h, -⟩ | ⟨s, c, t, n, h, -⟩)
      · exact absurd (hraises.symm.trans h) (by simp)
      · exact ⟨s, c, h⟩
    · refine iff_of_true ?_ ?_
      · rw [auditBook_unchecked_of_gather fun s hs => ?_]
        rw [hsame s hs, gather_of_unchecked_ok hsource hgather, hraises, hgather]
        rfl
      · rintro (⟨s, c, t, -, -, h, -⟩ | ⟨s, c, t, n, -, h⟩)
        · exact absurd (hraises.symm.trans h) (by simp)
        · exact absurd (hraises.symm.trans h) (by simp)
  · refine iff_of_true ?_ ?_
    · rw [auditBook_unchecked_of_gather fun s hs => ?_]
      cases hgather : pipeline.gather py replies.unchecked s with
      | error error => rw [gather_of_unchecked_error hsource hgather]
      | ok collected => exact absurd ⟨s, collected, hs, hgather⟩ hend
    · rintro (⟨s, c, t, hs, hc, -, -⟩ | ⟨s, c, t, n, h, -⟩)
      · exact hend ⟨s, c, hs, hc⟩
      · exact hend ⟨s, c, h.read, h.gathered⟩

/-! ### The run -/

/-- How the books of a run ended: those recorded, and those of the result, when there is one. -/
def yields (ran : RunTrace × Option LibraryAuditResult) : List BookOutcome × Option (List BookOutcome) :=
  (ran.1.delivered.map (·.outcome), ran.2.map fun result => result.packages.map (·.outcome))

/-- How one pass of the loop records a book. -/
def bookOutcome (py : Runtime) (pipeline : LibraryAuditPipeline) (b : ℤ × Dict × BookReplies) :
    Option BookOutcome :=
  (pipeline.auditBook py b.1 b.2.1 b.2.2).2.1.map (·.outcome)

/-- The books that are not skipped. -/
def queue (pipeline : LibraryAuditPipeline) (skipped : List String)
    (books : List (ℤ × Dict × BookReplies)) : List (ℤ × Dict × BookReplies) :=
  books.filter fun b => decide (pipeline.bookKey b.1 ∉ skipped)

/-- The loop stops at the first book that it cannot record. -/
theorem auditBooks_eq_run (hmode : pipeline.mode = .shadow) (skipped : List String)
    (books : List (ℤ × Dict × BookReplies)) (trace : RunTrace) (halive : trace.aborted = false) :
    (pipeline.auditBooks py skipped books trace).delivered.map (·.outcome)
        = trace.delivered.map (·.outcome)
          ++ (Halting.run (pipeline.bookOutcome py) (pipeline.queue skipped books)).1 ∧
      (pipeline.auditBooks py skipped books trace).aborted
        = !(Halting.run (pipeline.bookOutcome py) (pipeline.queue skipped books)).2 := by
  induction books generalizing trace with
  | nil =>
    rw [auditBooks, queue, List.filter_nil, Halting.run, List.append_nil, halive]
    exact ⟨rfl, rfl⟩
  | cons b books ih =>
    obtain ⟨bookId, rawBook, replies⟩ := b
    rw [auditBooks]
    dsimp only
    by_cases hskip : pipeline.bookKey bookId ∈ skipped
    · have hqueue : pipeline.queue skipped ((bookId, rawBook, replies) :: books)
          = pipeline.queue skipped books := List.filter_cons_of_neg (by simpa using hskip)
      rw [if_pos hskip, hqueue]
      exact ih trace halive
    · have hqueue : pipeline.queue skipped ((bookId, rawBook, replies) :: books)
          = (bookId, rawBook, replies) :: pipeline.queue skipped books :=
        List.filter_cons_of_pos (by simpa using hskip)
      have hspec := @auditBook_spec py pipeline hmode bookId rawBook replies
      rw [if_neg hskip, hqueue]
      rcases haudit : pipeline.auditBook py bookId rawBook replies with ⟨states, recorded, failed⟩
      rw [haudit] at hspec
      have houtcome : pipeline.bookOutcome py (bookId, rawBook, replies)
          = recorded.map (·.outcome) := by
        show (pipeline.auditBook py bookId rawBook replies).2.1.map _ = _
        rw [haudit]
      rcases hspec with ⟨package, hpackage, hdelivered, -⟩ | ⟨hnone, -⟩
      · dsimp only at hpackage
        subst hpackage
        dsimp only
        rw [if_pos hdelivered.terminal, Halting.run_cons_some houtcome]
        obtain ⟨hdone, haborted⟩ := ih
          ⟨trace.emitted ++ states.map (pipeline.bookKey bookId, ·), trace.delivered ++ [package],
            trace.hasErrors || failed, trace.aborted⟩ halive
        refine ⟨hdone.trans ?_, haborted⟩
        dsimp only
        rw [List.map_append, List.append_assoc]
        rfl
      · dsimp only at hnone
        subst hnone
        rw [Halting.run_cons_none houtcome, List.append_nil]
        exact ⟨rfl, rfl⟩

/-- What a run has recorded, and its result when it was finished. -/
def finish (recorded : List BookOutcome × Bool) : List BookOutcome × Option (List BookOutcome) :=
  (recorded.1, if recorded.2 then some recorded.1 else none)

theorem finish_inj {a b : List BookOutcome × Bool} : finish a = finish b ↔ a = b := by
  refine ⟨fun h => ?_, congrArg finish⟩
  obtain ⟨outcomes, finished⟩ := a
  obtain ⟨outcomes', finished'⟩ := b
  obtain ⟨houtcomes, hresult⟩ := Prod.mk.inj h
  have hfinished : finished = finished' := by
    have hsome := congrArg Option.isSome hresult
    cases finished <;> cases finished' <;> first | rfl | cases hsome
  exact Prod.ext houtcomes hfinished

/-- What a run yields, from the run over the books that are not skipped. -/
theorem yields_run (hmode : pipeline.mode = .shadow) {books : List ListedBook} {limit : ℕ}
    {skipped : List String} {selected : List (ℤ × Dict × BookReplies)}
    (hselects : selectBooks books limit = some selected) :
    yields (pipeline.run py books limit skipped)
      = finish (Halting.run (pipeline.bookOutcome py) (pipeline.queue skipped selected)) := by
  have hshadow : pipeline.mode ≠ .tierAAuto := by
    rw [hmode]
    decide
  obtain ⟨hdelivered, haborted⟩ :=
    @auditBooks_eq_run py pipeline hmode skipped selected {} rfl
  rw [run, if_neg hshadow, hselects]
  dsimp only
  rw [yields, finish, hdelivered, haborted]
  cases (Halting.run (pipeline.bookOutcome py) (pipeline.queue skipped selected)).2 with
  | false => rfl
  | true => exact Prod.ext rfl (congrArg some hdelivered)

/-- A list with different answers is sorted and cut as before. -/
theorem selectBooks_map (φ : BookReplies → BookReplies) (books : List ListedBook) (limit : ℕ) :
    selectBooks (books.map fun b => { b with replies := φ b.replies }) limit
      = (selectBooks books limit).map (List.map fun b => (b.1, b.2.1, φ b.2.2)) := by
  have hkeyed : (books.map fun b => { b with replies := φ b.replies }).mapM
        (fun b : ListedBook => b.id.map fun id => (id, b.raw, b.replies))
      = (books.mapM fun b : ListedBook => b.id.map fun id => (id, b.raw, b.replies)).map
        (List.map fun b => (b.1, b.2.1, φ b.2.2)) := by
    induction books with
    | nil => rfl
    | cons b books ih =>
      rw [List.map_cons, List.mapM_cons, List.mapM_cons, ih]
      cases b.id with
      | none => rfl
      | some id =>
        cases books.mapM fun b : ListedBook => b.id.map fun id => (id, b.raw, b.replies) with
        | none => rfl
        | some keyed => rfl
  rw [selectBooks, selectBooks, hkeyed]
  cases books.mapM fun b : ListedBook => b.id.map fun id => (id, b.raw, b.replies) with
  | none => rfl
  | some keyed =>
    have hsorted := List.map_insertionSort (r := fun a b : ℤ × Dict × BookReplies => a.1 ≤ b.1)
      (s := fun a b : ℤ × Dict × BookReplies => a.1 ≤ b.1)
      (fun b => (b.1, b.2.1, φ b.2.2)) keyed fun a _ b _ => Iff.rfl
    show some _ = some _
    rw [← hsorted]
    congr 1
    split
    · rw [List.map_take]
    · rfl

end LibraryAuditPipeline

namespace LibraryReader

open LibraryAuditPipeline

variable (py : Runtime) (cli : LibraryReader) (parts : AuditParts) (runId : String)
  (mode : AuditMode) (limit : ℕ) (skipped : List String)

/-- The run takes up the book: it is a shadow run, and every book before is recorded. -/
def Reaches (b : ℤ × Dict × BookReplies) : Prop :=
  mode = .shadow ∧ ∃ selected, selectBooks (cli.books parts) limit = some selected ∧
    Halting.Reached ((cli.pipeline runId mode).bookOutcome py)
      ((cli.pipeline runId mode).queue skipped selected) b

theorem frozen_books :
    (frozenLibraryReader cli cli.listBooks).books parts
      = (cli.books parts).map fun b => { b with replies := b.replies.unchecked } := by
  rw [books, books, List.map_map]
  rfl

/-- **The frozen reader.** The run over the wrapper yields, book by book, what the run over the reader
itself yields, exactly when the check of no book that the run takes up is overlooked. -/
theorem frozen_refines_iff :
    yields ((frozenLibraryReader cli cli.listBooks).audit py parts runId mode limit skipped)
        = yields (cli.audit py parts runId mode limit skipped) ↔
      ∀ b, cli.Reaches py parts runId mode limit skipped b →
        ¬ Overlooked py (cli.pipeline runId mode) b.1 b.2.1 b.2.2 := by
  have hpipeline : (frozenLibraryReader cli cli.listBooks).pipeline runId mode
      = cli.pipeline runId mode := rfl
  have hselect := selectBooks_map BookReplies.unchecked (cli.books parts) limit
  rw [audit, audit, hpipeline, frozen_books]
  cases mode with
  | tierAAuto =>
    refine iff_of_true ?_ fun b hb => ?_
    · have hmode : (cli.pipeline runId .tierAAuto).mode = .tierAAuto := rfl
      rw [LibraryAuditPipeline.run, LibraryAuditPipeline.run, if_pos hmode, if_pos hmode]
    · cases hb.1
  | shadow =>
    have hmode : (cli.pipeline runId .shadow).mode = .shadow := rfl
    cases hselects : selectBooks (cli.books parts) limit with
    | none =>
      rw [hselects] at hselect
      refine iff_of_true ?_ fun b hb => ?_
      · rw [LibraryAuditPipeline.run, LibraryAuditPipeline.run, hselect, hselects]
        rfl
      · obtain ⟨-, selected, h, -⟩ := hb
        rw [hselects] at h
        cases h
    | some selected =>
      rw [hselects, Option.map_some] at hselect
      have hqueue : (cli.pipeline runId .shadow).queue skipped
            (selected.map fun b => (b.1, b.2.1, b.2.2.unchecked))
          = ((cli.pipeline runId .shadow).queue skipped selected).map
            fun b => (b.1, b.2.1, b.2.2.unchecked) := by
        rw [queue, queue, List.filter_map]
        rfl
      rw [yields_run hmode hselect, yields_run hmode hselects, hqueue, Halting.run_map]
      have hreaches : ∀ b, cli.Reaches py parts runId .shadow limit skipped b ↔
          Halting.Reached ((cli.pipeline runId .shadow).bookOutcome py)
            ((cli.pipeline runId .shadow).queue skipped selected) b := by
        intro b
        constructor
        · rintro ⟨-, selected', h, hreached⟩
          rw [hselects] at h
          cases h
          exact hreached
        · exact fun hreached => ⟨rfl, selected, hselects, hreached⟩
      have hbook : ∀ b : ℤ × Dict × BookReplies,
          (cli.pipeline runId .shadow).bookOutcome py b
            = ((cli.pipeline runId .shadow).bookOutcome py ∘
              fun b => (b.1, b.2.1, b.2.2.unchecked)) b ↔
          ¬ Overlooked py (cli.pipeline runId .shadow) b.1 b.2.1 b.2.2 := by
        intro b
        rw [← auditBook_outcome_iff hmode rfl]
        exact eq_comm
      have hrun := @Halting.run_eq_iff _ _ ((cli.pipeline runId .shadow).bookOutcome py)
        ((cli.pipeline runId .shadow).bookOutcome py ∘ fun b => (b.1, b.2.1, b.2.2.unchecked))
        ((cli.pipeline runId .shadow).queue skipped selected)
      simp only [hbook] at hrun
      simp only [hreaches]
      rw [← hrun]
      rw [finish_inj]
      exact eq_comm

/-- An offline source with one book without files, which changes while the book is inspected. -/
def changedReader : LibraryReader where
  sourceKind := .offlineCalibreSnapshot
  fingerprint := "f"
  listBooks := [(some 1, [])]
  showMetadata := fun _ _ => .ok []
  formatReferences := fun _ _ _ => .ok []
  formatFromReference := fun _ => .error (.other "" "ValueError")
  exportFormat := fun _ _ _ => .error (.other "" "ValueError")
  releaseFormat := fun _ _ _ => .ok ()
  assertUnchanged := some fun _ _ => .error (.libraryChanged "Calibre metadata changed after inventory")

/-- A run without an enricher. -/
def plainParts : AuditParts where
  inspector := fun _ => .error (.other "" "ValueError")
  stamp := fun _ => ("evidence_1", "now")
  failureStamp := fun _ => ("evidence_2", "now")

/-- The changed book ends `source_changed` over the reader, and as decided over the wrapper. -/
theorem change_hidden_by_wrapper :
    (yields (changedReader.audit .ascii plainParts "run" .shadow 0 [])).1.map (·.state)
        = [.sourceChanged] ∧
      (yields ((frozenLibraryReader changedReader changedReader.listBooks).audit .ascii plainParts
        "run" .shadow 0 [])).1.map (·.state) = [.review] := by
  constructor
  · decide +kernel
  · decide +kernel

end LibraryReader

end Bookwarden
