import Bookwarden.Lib.Reread
import Bookwarden.Pipeline.Package

/-!
# Reading a package back

A sealed package is stored as the JSON of its `model_dump` and read back with `model_validate`.
Pydantic reads a model field by field, refuses unknown keys, fills in defaults, and runs the
validators of the model, which put some values into a canonical form: hashes in lower case, formats
stripped and in upper case, identifiers normalized. This file has that reading for the models of a
package, and when it gives back the model whose JSON it read.

## What is a parameter

`Pydantic` has the coercions of the scalar types that pydantic reads loosely, with what they do on
the JSON that a dump writes. A datetime is represented by the text that is dumped for it.

## Main definitions

* `FormatEvidence.validate`, `SourceEvidence.validate`, `ManifestationResolution.validate`,
  `BookSnapshot.validate`, `EvidencePackageV2.validate`

## Main results

* `FormatEvidence.validate_toJson_iff` and its siblings — the models that are read back as they are
-/

namespace Bookwarden

/-- Pydantic's reading of scalars. -/
structure Pydantic where
  readInt : Json → Option ℤ
  readBool : Json → Option Bool
  /-- A datetime, as the text that is dumped for it. -/
  readDatetime : Json → Option String
  readInt_int : ∀ n, readInt (.int n) = some n
  readBool_bool : ∀ b, readBool (.bool b) = some b

attribute [simp] Pydantic.readInt_int Pydantic.readBool_bool

/-- A reading of integers, Booleans and texts without coercions. -/
def Pydantic.strict : Pydantic where
  readInt
    | .int n => some n
    | _ => none
  readBool
    | .bool b => some b
    | _ => none
  readDatetime
    | .str s => some s
    | _ => none
  readInt_int _ := rfl
  readBool_bool _ := rfl

variable (pd : Pydantic) (py : Runtime)

/-! ### Fields -/

/-- The dictionary has these keys only. -/
def Dict.onlyKeys (d : Dict) (keys : List String) : Bool := (Assoc.keys d).all (· ∈ keys)

/-- A field without a default. -/
def Dict.field {α : Type} (d : Dict) (key : String) (read : Json → Option α) : Option α :=
  (Assoc.get? key d).bind read

/-- A field with a default, which is not validated. -/
def Dict.fieldOr {α : Type} (d : Dict) (key : String) (default : α) (read : Json → Option α) :
    Option α :=
  match Assoc.get? key d with
  | none => some default
  | some v => read v

/-- `model_config = ConfigDict(extra="forbid")`: a dictionary with fields of these names only. -/
def readModel {α : Type} (names : List String) (read : Dict → Option α) : Json → Option α
  | .obj d => if Dict.onlyKeys d names then read d else none
  | _ => none

/-- A `str`. -/
def readStr : Json → Option String
  | .str s => some s
  | _ => none

/-- A `str` with `min_length=1`. -/
def readNonEmpty : Json → Option String
  | .str s => if s = "" then none else some s
  | _ => none

/-- A `list[…]`. -/
def readList {α : Type} (read : Json → Option α) : Json → Option (List α)
  | .arr xs => Reread.readAll read xs
  | _ => none

/-- A `dict[str, …]`. -/
def readDict {α : Type} (read : Json → Option α) : Json → Option (List (String × α))
  | .obj kvs => Reread.readEntries read kvs
  | _ => none

/-- A member of a `StrEnum` or of a `Literal`. -/
def readEnum {α : Type} (members : List α) (value : α → String) : Json → Option α
  | .str s => members.find? fun a => value a = s
  | _ => none

/-- Something or `None`. -/
def readOpt {α : Type} (read : Json → Option α) : Json → Option (Option α)
  | .null => some none
  | v => (read v).map some

/-- `_valid_sha256`: lowered, 64 hexadecimal digits. -/
def readSha256 : Json → Option String
  | .str s => if isSha256 (py.lower s) then some (py.lower s) else none
  | _ => none

/-- `validate_fingerprint`, `validate_source_revision`: stripped and lowered. -/
def readDigest : Json → Option String
  | .str s => if isSha256 (py.lower (strip s)) then some (py.lower (strip s)) else none
  | _ => none

/-- `_canonical_format`, after the length is checked. -/
def readFormat (v : Json) : Option String := (readNonEmpty v).map fun s => py.upper (strip s)

/-- `_canonical_identifiers`. -/
def readNormalized (v : Json) : Option Identifiers :=
  (readDict readStr v).map (normalizeIdentifiers py)

/-! ### Models -/

/-- `FormatEvidence.model_validate`. -/
def FormatEvidence.validate : Json → Option FormatEvidence :=
  readModel ["path", "format", "sha256", "status", "identifiers", "title", "authors",
        "languages", "evidence_ids", "error"] fun d => do
    let path ← d.field "path" readNonEmpty
    let format ← d.field "format" (readFormat py)
    let sha256 ← d.field "sha256" (readSha256 py)
    let status ← d.field "status" (readEnum [.readable, .unsupported, .drm, .corrupt, .error]
      FormatEvidenceStatus.value)
    let identifiers ← d.fieldOr "identifiers" [] (readNormalized py)
    let title ← d.fieldOr "title" none (readOpt readStr)
    let authors ← d.fieldOr "authors" [] (readList readStr)
    let languages ← d.fieldOr "languages" [] (readList readStr)
    let evidenceIds ← d.fieldOr "evidence_ids" [] (readList readStr)
    let error ← d.fieldOr "error" none (readOpt readStr)
    some { path, format, sha256, status, identifiers, title, authors, languages, evidenceIds,
           error }

/-- The members of `EvidenceSourceKind`. -/
def evidenceSourceKinds : List EvidenceSourceKind :=
  [.calibreCurrent, .embeddedMetadata, .contentNative, .ocrObservation, .ocrConsensus, .vision,
    .providerStructured, .officialPage, .nationalLibrary, .calibreFetch, .llm]

/-- `SourceEvidence.model_validate`. -/
def SourceEvidence.validate : Json → Option SourceEvidence :=
  readModel ["evidence_id", "root_id", "independence_root", "source_kind", "field", "value",
        "manifestation_ids", "locator", "artifact_sha256", "source_url", "authoritative"] fun d => do
    let evidenceId ← d.field "evidence_id" readNonEmpty
    let rootId ← d.field "root_id" readNonEmpty
    let independenceRoot ← d.fieldOr "independence_root" none (readOpt readStr)
    let sourceKind ← d.field "source_kind" (readEnum evidenceSourceKinds EvidenceSourceKind.value)
    let field ← d.field "field" readNonEmpty
    let value ← d.field "value" some
    let manifestationIds ← d.fieldOr "manifestation_ids" [] (readNormalized py)
    let locator ← d.fieldOr "locator" none (readOpt readStr)
    let artifactSha256 ← d.fieldOr "artifact_sha256" none (readOpt (readSha256 py))
    let sourceUrl ← d.fieldOr "source_url" none (readOpt readStr)
    let authoritative ← d.fieldOr "authoritative" false pd.readBool
    some { evidenceId, rootId, independenceRoot, sourceKind, field, value, manifestationIds,
           locator, artifactSha256, sourceUrl, authoritative }

/-- `FieldDecision.model_validate`. -/
def FieldDecision.validate : Json → Option FieldDecision :=
  readModel ["field", "current_value", "resolved_value", "status", "evidence_ids", "root_ids",
        "reasons"] fun d => do
    let field ← d.field "field" readStr
    let currentValue ← d.fieldOr "current_value" .null some
    let resolvedValue ← d.fieldOr "resolved_value" .null some
    let status ← d.field "status" (readEnum [.unchanged, .auto, .review, .blocked]
      FieldDecisionStatus.value)
    let evidenceIds ← d.fieldOr "evidence_ids" [] (readList readStr)
    let rootIds ← d.fieldOr "root_ids" [] (readList readStr)
    let reasons ← d.fieldOr "reasons" [] (readList readStr)
    some { field, currentValue, resolvedValue, status, evidenceIds, rootIds, reasons }

/-- `ManifestationResolution.model_validate`. -/
def ManifestationResolution.validate : Json → Option ManifestationResolution :=
  readModel ["tier", "manifestation_ids", "field_decisions", "auto_patch", "risk_flags",
        "reasons"] fun d => do
    let tier ← d.field "tier" (readEnum [.tierA, .tierB, .tierC] IdentityTier.value)
    let manifestationIds ← d.fieldOr "manifestation_ids" [] (readDict readStr)
    let fieldDecisions ← d.fieldOr "field_decisions" [] (readDict FieldDecision.validate)
    let autoPatch ← d.fieldOr "auto_patch" [] (readDict some)
    let riskFlags ← d.fieldOr "risk_flags" [] (readList readStr)
    let reasons ← d.fieldOr "reasons" [] (readList readStr)
    some { tier, manifestationIds, fieldDecisions, autoPatch, riskFlags, reasons }

/-- `BookSourceDescriptor.model_validate`. -/
def BookSourceDescriptor.validate : Json → Option BookSourceDescriptor :=
  readModel ["kind", "fingerprint", "access_mode"] fun d => do
    let kind ← d.field "kind" (readEnum [.calibreContentServer, .offlineCalibreSnapshot]
      SourceKind.value)
    let fingerprint ← d.field "fingerprint" (readDigest py)
    let _ ← d.fieldOr "access_mode" () (readEnum [()] fun _ => "read_only")
    some { kind, fingerprint }

/-- `BookSnapshot.model_validate`. -/
def BookSnapshot.validate : Json → Option BookSnapshot :=
  readModel ["book_key", "calibre_book_id", "current_metadata", "files", "library_root",
        "source", "source_revision_sha256", "snapshot_sha256"] fun d => do
    let bookKey ← d.field "book_key" readStr
    let calibreBookId ← d.field "calibre_book_id" pd.readInt
    let currentMetadata ← d.field "current_metadata" (readDict some)
    let files ← d.field "files" (readList readStr)
    let libraryRoot ← d.fieldOr "library_root" none (readOpt readStr)
    let source ← d.fieldOr "source" none (readOpt (BookSourceDescriptor.validate py))
    let sourceRevisionSha256 ← d.fieldOr "source_revision_sha256" none (readOpt (readDigest py))
    let snapshotSha256 ← d.field "snapshot_sha256" readStr
    some { bookKey, calibreBookId, currentMetadata, files, libraryRoot, source,
           sourceRevisionSha256, snapshotSha256 }

/-- The members of `BookAuditState`. -/
def bookAuditStates : List BookAuditState :=
  [.pending, .snapshotting, .extracting, .resolving, .decided, .shadowed, .applying, .verified,
    .review, .deferred, .failed, .sourceChanged, .blockedRecovery]

/-- `Literal[2]`. -/
def readVersion : Json → Option Unit
  | .int 2 => some ()
  | _ => none

/-- `EvidencePackageV2.model_validate` at the time `now`. -/
def EvidencePackageV2.validate (now : String) : Json → Option EvidencePackageV2 :=
  readModel ["schema_version", "policy_version", "evidence_id", "run_id", "book_key",
        "created_at", "state", "snapshot", "formats", "source_evidence", "identity",
        "privacy_receipts", "warnings", "error", "package_sha256"] fun d => do
    let _ ← d.fieldOr "schema_version" () readVersion
    let _ ← d.fieldOr "policy_version" () (readEnum [()] fun _ => "manifestation-v2")
    let evidenceId ← d.field "evidence_id" readStr
    let runId ← d.field "run_id" readStr
    let bookKey ← d.field "book_key" readStr
    let createdAt ← d.fieldOr "created_at" now pd.readDatetime
    let state ← d.field "state" (readEnum bookAuditStates BookAuditState.value)
    let snapshot ← d.field "snapshot" (BookSnapshot.validate pd py)
    let formats ← d.fieldOr "formats" [] (readList (FormatEvidence.validate py))
    let sourceEvidence ← d.fieldOr "source_evidence" [] (readList (SourceEvidence.validate pd py))
    let identity ← d.field "identity" ManifestationResolution.validate
    let privacyReceipts ← d.fieldOr "privacy_receipts" [] (readList (readDict some))
    let warnings ← d.fieldOr "warnings" [] (readList readStr)
    let error ← d.fieldOr "error" none (readOpt readStr)
    let packageSha256 ← d.fieldOr "package_sha256" none (readOpt readStr)
    some { evidenceId, runId, bookKey, createdAt, state, snapshot, formats, sourceEvidence,
           identity, privacyReceipts, warnings, error, packageSha256 }

variable {pd py}

/-! ### Reading what was written -/

@[simp] theorem readStr_str (s : String) : readStr (.str s) = some s := rfl

@[simp] theorem readList_strs (xs : List String) : readList readStr (.strs xs) = some xs := by
  have h : ∀ x : String, readStr (.str x) = some x := fun _ => rfl
  exact Reread.readAll_map fun x _ => h x

@[simp] theorem readDict_strDict (ids : Identifiers) :
    readDict readStr (.strDict ids) = some ids := by
  have h : ∀ x : String, readStr (.str x) = some x := fun _ => rfl
  exact Reread.readEntries_map h ids

@[simp] theorem readDict_obj (kvs : Dict) : readDict some (.obj kvs) = some kvs := by
  have h : Reread.readEntries some (kvs.map fun p => (p.1, p.2)) = some kvs :=
    Reread.readEntries_map (fun _ => rfl) kvs
  rwa [List.map_id''] at h
  exact fun _ => rfl

@[simp] theorem readOpt_optStr (s : Option String) : readOpt readStr (.optStr s) = some s := by
  cases s with
  | none => rfl
  | some s => rfl

/-- A field of a dictionary that is written out. -/
theorem Dict.field_of_get {α : Type} {d : Dict} {key : String} {v : Json}
    (h : Assoc.get? key d = some v) (read : Json → Option α) : d.field key read = read v := by
  rw [Dict.field, h]
  rfl

theorem Dict.fieldOr_of_get {α : Type} {d : Dict} {key : String} {v : Json}
    (h : Assoc.get? key d = some v) (default : α) (read : Json → Option α) :
    d.fieldOr key default read = read v := by
  rw [Dict.fieldOr, h]

theorem readEnum_value {α : Type} {members : List α} {value : α → String} {a : α}
    (ha : a ∈ members) (hinj : ∀ b ∈ members, value b = value a → b = a) :
    readEnum members value (.str (value a)) = some a := by
  rw [readEnum]
  cases hfind : members.find? fun b => value b = value a with
  | none =>
    rw [List.find?_eq_none] at hfind
    exact absurd (hfind a ha) (by simp)
  | some b =>
    have hval : value b = value a := by simpa using List.find?_some hfind
    rw [hinj b (List.mem_of_find?_eq_some hfind) hval]

@[simp] theorem readEnum_status (s : FormatEvidenceStatus) :
    readEnum [.readable, .unsupported, .drm, .corrupt, .error] FormatEvidenceStatus.value
      (.str s.value) = some s := by
  cases s <;> decide

@[simp] theorem readEnum_kind (k : EvidenceSourceKind) :
    readEnum evidenceSourceKinds EvidenceSourceKind.value (.str k.value) = some k := by
  cases k <;> decide

@[simp] theorem readEnum_decision (s : FieldDecisionStatus) :
    readEnum [.unchanged, .auto, .review, .blocked] FieldDecisionStatus.value (.str s.value) =
      some s := by
  cases s <;> decide

@[simp] theorem readEnum_tier (t : IdentityTier) :
    readEnum [.tierA, .tierB, .tierC] IdentityTier.value (.str t.value) = some t := by
  cases t <;> decide

@[simp] theorem readEnum_source (k : SourceKind) :
    readEnum [.calibreContentServer, .offlineCalibreSnapshot] SourceKind.value (.str k.value) =
      some k := by
  cases k <;> decide

@[simp] theorem readEnum_state (s : BookAuditState) :
    readEnum bookAuditStates BookAuditState.value (.str s.value) = some s := by
  cases s <;> decide

@[simp] theorem readEnum_literal (s : String) :
    readEnum [()] (fun _ => s) (.str s) = some () := by
  simp [readEnum]

@[simp] theorem readVersion_two : readVersion (.int 2) = some () := rfl

/-! ### Models that are read back -/

/-- The fields that a dump of a format's evidence is read from. -/
theorem FormatEvidence.validate_toJson (f : FormatEvidence) :
    FormatEvidence.validate py f.toJson =
      (readNonEmpty (.str f.path)).bind fun path => (readFormat py (.str f.format)).bind fun format =>
      (readSha256 py (.str f.sha256)).bind fun sha256 =>
        some { f with path, format, sha256, identifiers := normalizeIdentifiers py f.identifiers } := by
  simp [FormatEvidence.validate, FormatEvidence.toJson, readModel, Dict.onlyKeys, Assoc.keys,
    Dict.field, Dict.fieldOr, Assoc.get?_cons, readNormalized]

/-- Nothing else is read from the dump of a source's evidence. -/
theorem SourceEvidence.validate_toJson (e : SourceEvidence) :
    SourceEvidence.validate pd py e.toJson =
      (readNonEmpty (.str e.evidenceId)).bind fun evidenceId =>
      (readNonEmpty (.str e.rootId)).bind fun rootId =>
      (readNonEmpty (.str e.field)).bind fun field =>
      (readOpt (readSha256 py) (.optStr e.artifactSha256)).bind fun artifactSha256 =>
        some { e with evidenceId, rootId, field, artifactSha256,
                      manifestationIds := normalizeIdentifiers py e.manifestationIds } := by
  simp [SourceEvidence.validate, SourceEvidence.toJson, readModel, Dict.onlyKeys, Assoc.keys,
    Dict.field, Dict.fieldOr, Assoc.get?_cons, readNormalized]

@[simp] theorem FieldDecision.validate_toJson (d : FieldDecision) :
    FieldDecision.validate d.toJson = some d := by
  simp [FieldDecision.validate, FieldDecision.toJson, readModel, Dict.onlyKeys, Assoc.keys,
    Dict.field, Dict.fieldOr, Assoc.get?_cons]

@[simp] theorem readDict_decisions (ds : List (String × FieldDecision)) :
    readDict FieldDecision.validate (.obj (ds.map fun p => (p.1, p.2.toJson))) = some ds :=
  Reread.readEntries_map FieldDecision.validate_toJson ds

@[simp] theorem ManifestationResolution.validate_toJson (r : ManifestationResolution) :
    ManifestationResolution.validate r.toJson = some r := by
  simp [ManifestationResolution.validate, ManifestationResolution.toJson, readModel, Dict.onlyKeys,
    Assoc.keys, Dict.field, Dict.fieldOr, Assoc.get?_cons]

theorem BookSourceDescriptor.validate_toJson (s : BookSourceDescriptor) :
    BookSourceDescriptor.validate py s.toJson =
      (readDigest py (.str s.fingerprint)).bind fun fingerprint => some { s with fingerprint } := by
  simp [BookSourceDescriptor.validate, BookSourceDescriptor.toJson, readModel, Dict.onlyKeys,
    Assoc.keys, Dict.field, Dict.fieldOr, Assoc.get?_cons]

theorem BookSnapshot.validate_toJson (s : BookSnapshot) :
    BookSnapshot.validate pd py (s.toJson true) =
      (readOpt (BookSourceDescriptor.validate py) ((s.source.map (·.toJson)).getD .null)).bind
        fun source =>
      (readOpt (readDigest py) (.optStr s.sourceRevisionSha256)).bind fun sourceRevisionSha256 =>
        some { s with source, sourceRevisionSha256 } := by
  simp [BookSnapshot.validate, BookSnapshot.toJson, readModel, Dict.onlyKeys,
    Assoc.keys, Dict.field, Dict.fieldOr, Assoc.get?_cons]

@[simp] theorem readList_receipts (receipts : List Dict) :
    readList (readDict some) (.arr (receipts.map .obj)) = some receipts :=
  Reread.readAll_map fun receipt _ => readDict_obj receipt

theorem EvidencePackageV2.validate_dump (now : String) (p : EvidencePackageV2) :
    EvidencePackageV2.validate pd py now (.obj p.dump) =
      (pd.readDatetime (.str p.createdAt)).bind fun createdAt =>
      (BookSnapshot.validate pd py (p.snapshot.toJson true)).bind fun snapshot =>
      (readList (FormatEvidence.validate py) (.arr (p.formats.map (·.toJson)))).bind fun formats =>
      (readList (SourceEvidence.validate pd py)
          (.arr (p.sourceEvidence.map (·.toJson)))).bind fun sourceEvidence =>
        some { p with createdAt, snapshot, formats, sourceEvidence } := by
  simp [EvidencePackageV2.validate, EvidencePackageV2.dump, EvidencePackageV2.payload, readModel,
    Dict.onlyKeys, Assoc.keys, Dict.field, Dict.fieldOr, Assoc.get?_cons]

end Bookwarden
