import Bookwarden.Identity.Resolve

/-!
# Snapshots and sealed evidence packages

The data `pipeline_v2.py` hands to the stores: the canonical view of a Calibre record, the snapshot
of a book, and the evidence package with its invariants and its seal. A package is sealed by the
hash of its own JSON, so everything a reader of the database can learn is under the seal.

## Main definitions

* `canonicalCurrent` — `_canonical_current`
* `BookSnapshot`, `EvidencePackageV2`, with `verifyInvariants`, `sealValue`, `seal`, `verifySeal`
-/

namespace Bookwarden

variable (py : Runtime)

/-! ### The canonical current record -/

/-- One author of `_normalize_authors`: stripped, dropped when empty. -/
def normalizeAuthor (item : Json) : Option String :=
  let name := strip (item.toStr py)
  if name = "" then none else some name

/-- `_normalize_authors`. -/
def normalizeAuthors : Json → List String
  | .arr xs => xs.filterMap (normalizeAuthor py)
  | .str s => (split '&' s).filterMap fun part => normalizeAuthor py (.str part)
  | _ => []

/-- One language of `_normalize_languages`: stripped, lower case, dropped when empty. -/
def normalizeLanguage (item : Json) : Option String :=
  let code := strip (item.toStr py)
  if code = "" then none else some (py.lower code)

/-- `_normalize_languages`. -/
def normalizeLanguages : Json → List String
  | .arr xs => xs.filterMap (normalizeLanguage py)
  | .str s =>
    (split ',' (replaceChar ';' ',' s)).filterMap fun part => normalizeLanguage py (.str part)
  | _ => []

/-- `_canonical_current`. -/
def canonicalCurrent (raw : Dict) : Dict :=
  [("title", raw.get "title"),
    ("authors", .strs (normalizeAuthors py (raw.get "authors"))),
    ("identifiers", match raw.get "identifiers" with
      | .obj kvs => .obj kvs
      | _ => .obj []),
    ("languages", .strs (normalizeLanguages py (raw.getD "languages" (raw.get "language")))),
    ("publisher", raw.get "publisher"),
    ("pubdate", raw.getD "pubdate" (raw.get "published_date")),
    ("series", raw.get "series"),
    ("series_index", raw.get "series_index"),
    ("edition_statement", raw.getD "#edition" (raw.get "edition_statement")),
    ("cover", raw.get "cover")]

section CanonicalCurrent

variable {py} (raw : Dict)

@[simp] theorem canonicalCurrent_title :
    (canonicalCurrent py raw).get "title" = raw.get "title" := rfl

@[simp] theorem canonicalCurrent_authors :
    (canonicalCurrent py raw).get "authors" = .strs (normalizeAuthors py (raw.get "authors")) := rfl

@[simp] theorem canonicalCurrent_identifiers :
    (canonicalCurrent py raw).get "identifiers" = match raw.get "identifiers" with
      | .obj kvs => .obj kvs
      | _ => .obj [] := rfl

@[simp] theorem canonicalCurrent_languages :
    (canonicalCurrent py raw).get "languages"
      = .strs (normalizeLanguages py (raw.getD "languages" (raw.get "language"))) := rfl

@[simp] theorem canonicalCurrent_publisher :
    (canonicalCurrent py raw).get "publisher" = raw.get "publisher" := rfl

@[simp] theorem canonicalCurrent_pubdate :
    (canonicalCurrent py raw).get "pubdate" = raw.getD "pubdate" (raw.get "published_date") := rfl

@[simp] theorem canonicalCurrent_series :
    (canonicalCurrent py raw).get "series" = raw.get "series" := rfl

@[simp] theorem canonicalCurrent_series_index :
    (canonicalCurrent py raw).get "series_index" = raw.get "series_index" := rfl

@[simp] theorem canonicalCurrent_edition_statement :
    (canonicalCurrent py raw).get "edition_statement"
      = raw.getD "#edition" (raw.get "edition_statement") := rfl

@[simp] theorem canonicalCurrent_cover :
    (canonicalCurrent py raw).get "cover" = raw.get "cover" := rfl

end CanonicalCurrent

/-- `_format_paths`, also `_metadata_file_paths`: the paths of a `formats` value. -/
def formatPaths : Json → List String
  | .arr xs => xs.filterMap fun
      | .str s => if strip s = "" then none else some (strip s)
      | .obj kvs => match Assoc.get? "path" kvs with
        | some (.str s) => some (strip s)
        | _ => none
      | _ => none
  | .str s => ((split ',' s).map strip).filter fun p => p ≠ ""
  | _ => []

/-! ### Snapshots -/

/-- `BookSourceDescriptor.kind`. -/
inductive SourceKind
  | calibreContentServer
  | offlineCalibreSnapshot
  deriving DecidableEq, Repr

/-- The literal of the kind. -/
def SourceKind.value : SourceKind → String
  | .calibreContentServer => "calibre_content_server"
  | .offlineCalibreSnapshot => "offline_calibre_snapshot"

/-- The prefix of the book keys of a materialized source. -/
def SourceKind.keyPrefix : SourceKind → String
  | .calibreContentServer => "calibre-server"
  | .offlineCalibreSnapshot => "calibre-offline"

/-- `BookSourceDescriptor`; its access mode is always `read_only`. -/
structure BookSourceDescriptor where
  kind : SourceKind
  fingerprint : String
  deriving DecidableEq, Repr

/-- The JSON of a descriptor. -/
def BookSourceDescriptor.toJson (s : BookSourceDescriptor) : Json :=
  .obj [("kind", .str s.kind.value), ("fingerprint", .str s.fingerprint),
    ("access_mode", .str "read_only")]

/-- `BookSnapshot`. -/
structure BookSnapshot where
  bookKey : String
  calibreBookId : ℤ
  currentMetadata : Dict
  files : List String
  libraryRoot : Option String := none
  source : Option BookSourceDescriptor := none
  sourceRevisionSha256 : Option String := none
  snapshotSha256 : String
  deriving DecidableEq, Repr

/-- `calculated_sha256`. -/
def BookSnapshot.calculatedSha256 (s : BookSnapshot) : String :=
  hashJson py (.obj ([("book_key", .str s.bookKey), ("current_metadata", .obj s.currentMetadata),
      ("files", .strs s.files), ("library_root", .optStr s.libraryRoot)]
    ++ match s.source with
      | some source => [("source", source.toJson),
          ("source_revision_sha256", .optStr s.sourceRevisionSha256)]
      | none => []))

/-- `verify_hash`. -/
def BookSnapshot.verifyHash (s : BookSnapshot) : Bool := s.snapshotSha256 = s.calculatedSha256 py

/-- The JSON of a snapshot; a seal of a local package leaves the source fields out. -/
def BookSnapshot.toJson (s : BookSnapshot) (withSource : Bool) : Json :=
  .obj ([("book_key", .str s.bookKey), ("calibre_book_id", .int s.calibreBookId),
      ("current_metadata", .obj s.currentMetadata), ("files", .strs s.files),
      ("library_root", .optStr s.libraryRoot)]
    ++ (if withSource then [("source", (s.source.map (·.toJson)).getD .null),
        ("source_revision_sha256", .optStr s.sourceRevisionSha256)] else [])
    ++ [("snapshot_sha256", .str s.snapshotSha256)])

/-! ### Packages -/

/-- `BookAuditState`. -/
inductive BookAuditState
  | pending
  | snapshotting
  | extracting
  | resolving
  | decided
  | shadowed
  | applying
  | verified
  | review
  | deferred
  | failed
  | sourceChanged
  | blockedRecovery
  deriving DecidableEq, Repr

/-- The value of the enumeration member. -/
def BookAuditState.value : BookAuditState → String
  | .pending => "pending"
  | .snapshotting => "snapshotting"
  | .extracting => "extracting"
  | .resolving => "resolving"
  | .decided => "decided"
  | .shadowed => "shadowed"
  | .applying => "applying"
  | .verified => "verified"
  | .review => "review"
  | .deferred => "deferred"
  | .failed => "failed"
  | .sourceChanged => "source_changed"
  | .blockedRecovery => "blocked_recovery"

/-- `TERMINAL_BOOK_STATES`. -/
def terminalBookStates : List BookAuditState :=
  [.shadowed, .verified, .review, .deferred, .failed, .sourceChanged, .blockedRecovery]

/-- `EvidencePackageV2`. Its schema version is 2 and its policy version is `manifestation-v2`. -/
structure EvidencePackageV2 where
  evidenceId : String
  runId : String
  bookKey : String
  createdAt : String
  state : BookAuditState
  snapshot : BookSnapshot
  formats : List FormatEvidence := []
  sourceEvidence : List SourceEvidence := []
  identity : ManifestationResolution
  privacyReceipts : List Dict := []
  warnings : List String := []
  error : Option String := none
  packageSha256 : Option String := none
  deriving DecidableEq, Repr

/-- The entries of `model_dump(mode="json", exclude={"package_sha256"})`. -/
def EvidencePackageV2.payload (p : EvidencePackageV2) (withSource : Bool) : Dict :=
  [("schema_version", .int 2), ("policy_version", .str "manifestation-v2"),
    ("evidence_id", .str p.evidenceId), ("run_id", .str p.runId), ("book_key", .str p.bookKey),
    ("created_at", .str p.createdAt), ("state", .str p.state.value),
    ("snapshot", p.snapshot.toJson withSource),
    ("formats", .arr (p.formats.map (·.toJson))),
    ("source_evidence", .arr (p.sourceEvidence.map (·.toJson))),
    ("identity", p.identity.toJson),
    ("privacy_receipts", .arr (p.privacyReceipts.map .obj)), ("warnings", .strs p.warnings),
    ("error", .optStr p.error)]

/-- `model_dump(mode="json")`. -/
def EvidencePackageV2.dump (p : EvidencePackageV2) : Dict :=
  p.payload true ++ [("package_sha256", .optStr p.packageSha256)]

theorem BookAuditState.value_injective {s t : BookAuditState} (h : s.value = t.value) : s = t := by
  cases s <;> cases t <;> first | rfl | exact absurd h (by decide)

/-- Packages whose JSON compares equal agree on run, book and state. -/
theorem EvidencePackageV2.same_of_dump_pyEq {p q : EvidencePackageV2}
    (h : Json.pyEq (.obj p.dump) (.obj q.dump) = true) :
    p.runId = q.runId ∧ p.bookKey = q.bookKey ∧ p.state = q.state := by
  have hrun : Assoc.get? "run_id" q.dump = some (.str p.runId) := Json.get_str_of_pyEq_obj h rfl
  have hbook : Assoc.get? "book_key" q.dump = some (.str p.bookKey) := Json.get_str_of_pyEq_obj h rfl
  have hstate : Assoc.get? "state" q.dump = some (.str p.state.value) := Json.get_str_of_pyEq_obj h rfl
  have hrun' : Assoc.get? "run_id" q.dump = some (.str q.runId) := rfl
  have hbook' : Assoc.get? "book_key" q.dump = some (.str q.bookKey) := rfl
  have hstate' : Assoc.get? "state" q.dump = some (.str q.state.value) := rfl
  rw [hrun', Option.some.injEq, Json.str.injEq] at hrun
  rw [hbook', Option.some.injEq, Json.str.injEq] at hbook
  rw [hstate', Option.some.injEq, Json.str.injEq] at hstate
  exact ⟨hrun.symm, hbook.symm, (BookAuditState.value_injective hstate).symm⟩

/-- The book key the snapshot's source and id determine. -/
def BookSnapshot.expectedBookKey (s : BookSnapshot) : String :=
  match s.source with
  | none => "calibre:" ++ toString s.calibreBookId
  | some source =>
    source.kind.keyPrefix ++ ":" ++ source.fingerprint ++ ":" ++ toString s.calibreBookId

/-- A file reference of a materialized source: the book key, a colon, upper-case letters and
digits. -/
def validReference (bookKey path : String) : Bool :=
  startsWith path (bookKey ++ ":") &&
    let format := (removePrefix path (bookKey ++ ":")).toList
    !format.isEmpty && format.all fun c => c.isUpper || c.isDigit

/-- The file conditions of `verify_invariants`, by source. -/
def BookSnapshot.filesValid (s : BookSnapshot) : Bool :=
  match s.source, s.libraryRoot with
  | some _, root =>
    root.isNone && s.sourceRevisionSha256.isSome && s.files.all (validReference s.expectedBookKey)
  | none, some root =>
    s.sourceRevisionSha256.isNone && canonicalPath py root = root && s.files.all fun path =>
      canonicalPath py path = path && isRelativeTo path root
  | none, none => s.sourceRevisionSha256.isNone

/-- `verify_invariants`. A Tier A identity must be the one its own evidence derives; a resolution
that raises does not verify. -/
def EvidencePackageV2.verifyInvariants (p : EvidencePackageV2) : Bool :=
  p.bookKey = p.snapshot.bookKey && p.bookKey = p.snapshot.expectedBookKey
    && p.snapshot.verifyHash py && decide p.snapshot.files.Nodup && p.snapshot.filesValid py
    && (decide (p.state ∈ [.failed, .sourceChanged])
      || decide (p.formats.map (·.path) = p.snapshot.files))
    && decide (p.formats.map (·.path)).Nodup
    && decide (p.sourceEvidence.map (·.evidenceId)).Nodup
    && (p.identity.tier ≠ .tierA ||
      match resolveManifestation py p.formats p.sourceEvidence p.snapshot.currentMetadata with
      | some derived => Json.pyEq derived.toJson p.identity.toJson
      | none => false)

/-- `_seal_value`. -/
def EvidencePackageV2.sealValue (p : EvidencePackageV2) : String :=
  hashJson py (.obj (p.payload p.snapshot.source.isSome))

/-- `seal`; `none` is the `ValueError`. -/
def EvidencePackageV2.seal (p : EvidencePackageV2) : Option EvidencePackageV2 :=
  if p.verifyInvariants py then some { p with packageSha256 := some (p.sealValue py) } else none

/-- `verify_seal`. -/
def EvidencePackageV2.verifySeal (p : EvidencePackageV2) : Bool :=
  p.verifyInvariants py && p.packageSha256 = some (p.sealValue py)

variable {py}

/-- Sealing changes the seal only, and the result verifies. -/
theorem EvidencePackageV2.verifySeal_of_seal {p q : EvidencePackageV2} (h : p.seal py = some q) :
    q.verifySeal py = true ∧ q = { p with packageSha256 := q.packageSha256 } := by
  rw [EvidencePackageV2.seal] at h
  split at h
  · rename_i hinv
    cases h
    refine ⟨?_, rfl⟩
    -- neither the invariants nor the sealed payload read the seal
    rw [EvidencePackageV2.verifySeal, Bool.and_eq_true]
    exact ⟨hinv, decide_eq_true rfl⟩
  · cases h

end Bookwarden
