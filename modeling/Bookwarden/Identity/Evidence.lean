import Bookwarden.Isbn

/-!
# Evidence, patches and resolutions

The data of `identity_v2.py`: what one file of a book shows (`FormatEvidence`), what one source
says about one field (`SourceEvidence`), the fields that may cross the writer boundary
(`CanonicalPatch`), and the outcome of a resolution (`ManifestationResolution`), each with the JSON
that `model_dump(mode="json")` writes.

## Main definitions

* `normalizeIdentifiers` — the validator shared by every identifier map
* `CanonicalPatch.validate`, `CanonicalPatch.dump` — pydantic's reading and writing of a patch
-/

namespace Bookwarden

/-- `ALLOWED_PATCH_FIELDS`. -/
def allowedPatchFields : List String :=
  ["title", "authors", "identifiers", "languages", "publisher", "pubdate", "series",
    "series_index", "edition_statement", "cover"]

/-- `IdentityTier`. -/
inductive IdentityTier
  | tierA
  | tierB
  | tierC
  deriving DecidableEq, Repr

/-- The value of the enumeration member. -/
def IdentityTier.value : IdentityTier → String
  | .tierA => "A"
  | .tierB => "B"
  | .tierC => "C"

/-- `EvidenceSourceKind`. -/
inductive EvidenceSourceKind
  | calibreCurrent
  | embeddedMetadata
  | contentNative
  | ocrObservation
  | ocrConsensus
  | vision
  | providerStructured
  | officialPage
  | nationalLibrary
  | calibreFetch
  | llm
  deriving DecidableEq, Repr

/-- The value of the enumeration member. -/
def EvidenceSourceKind.value : EvidenceSourceKind → String
  | .calibreCurrent => "calibre_current"
  | .embeddedMetadata => "embedded_metadata"
  | .contentNative => "content_native"
  | .ocrObservation => "ocr_observation"
  | .ocrConsensus => "ocr_consensus"
  | .vision => "vision"
  | .providerStructured => "provider_structured"
  | .officialPage => "official_page"
  | .nationalLibrary => "national_library"
  | .calibreFetch => "calibre_fetch"
  | .llm => "llm"

/-- `FormatEvidenceStatus`. -/
inductive FormatEvidenceStatus
  | readable
  | unsupported
  | drm
  | corrupt
  | error
  deriving DecidableEq, Repr

/-- The value of the enumeration member. -/
def FormatEvidenceStatus.value : FormatEvidenceStatus → String
  | .readable => "readable"
  | .unsupported => "unsupported"
  | .drm => "drm"
  | .corrupt => "corrupt"
  | .error => "error"

/-- `FieldDecisionStatus`. -/
inductive FieldDecisionStatus
  | unchanged
  | auto
  | review
  | blocked
  deriving DecidableEq, Repr

/-- The value of the enumeration member. -/
def FieldDecisionStatus.value : FieldDecisionStatus → String
  | .unchanged => "unchanged"
  | .auto => "auto"
  | .review => "review"
  | .blocked => "blocked"

/-! ### Source kinds -/

/-- `INTERNAL_PROMOTION_KINDS`. -/
def internalPromotionKinds : List EvidenceSourceKind :=
  [.embeddedMetadata, .contentNative, .ocrConsensus]

/-- `INTERNAL_IDENTITY_KINDS`. -/
def internalIdentityKinds : List EvidenceSourceKind := [.contentNative, .ocrConsensus]

/-- `EXTERNAL_PROMOTION_KINDS`. -/
def externalPromotionKinds : List EvidenceSourceKind :=
  [.providerStructured, .officialPage, .nationalLibrary]

/-- `OFFICIAL_KINDS`. -/
def officialKinds : List EvidenceSourceKind := [.officialPage, .nationalLibrary]

/-! ### Identifiers -/

/-- An identifier map: namespace and value. -/
abbrev Identifiers := List (String × String)

/-- One pass of the loop of `_normalize_identifiers`. -/
def normalizeIdentifier (py : Runtime) (normalized : Identifiers) (item : String × String) :
    Identifiers :=
  let ns := py.lower (strip item.1)
  let candidate := strip item.2
  if ns = "isbn" then
    match validateIsbn candidate with
    | some valid => Assoc.set ns valid normalized
    | none => normalized
  else if ns ≠ "" ∧ candidate ≠ "" then Assoc.set ns candidate normalized
  else normalized

/-- `_normalize_identifiers`. -/
def normalizeIdentifiers (py : Runtime) (value : Identifiers) : Identifiers :=
  value.foldl (normalizeIdentifier py) []

/-- `{str(key): str(item) for key, item in value.items()}`. -/
def strItems (py : Runtime) (kvs : Dict) : Identifiers := kvs.map fun p => (p.1, p.2.toStr py)

/-! ### Evidence -/

/-- `FormatEvidence`: what one file of the book shows. -/
structure FormatEvidence where
  path : String
  format : String
  sha256 : String
  status : FormatEvidenceStatus
  identifiers : Identifiers := []
  title : Option String := none
  authors : List String := []
  languages : List String := []
  evidenceIds : List String := []
  error : Option String := none
  deriving DecidableEq, Repr

/-- `getattr(item, field)` for a core field. -/
def FormatEvidence.core (f : FormatEvidence) (field : String) : Json :=
  if field = "title" then Json.optStr f.title
  else if field = "authors" then Json.strs f.authors
  else Json.strs f.languages

/-- `SourceEvidence`: what one source says about one field. -/
structure SourceEvidence where
  evidenceId : String
  rootId : String
  independenceRoot : Option String := none
  sourceKind : EvidenceSourceKind
  field : String
  value : Json
  manifestationIds : Identifiers := []
  locator : Option String := none
  artifactSha256 : Option String := none
  sourceUrl : Option String := none
  authoritative : Bool := false
  deriving DecidableEq, Repr

/-- `effective_root`: `self.independence_root or self.root_id`. -/
def SourceEvidence.effectiveRoot (item : SourceEvidence) : String :=
  match item.independenceRoot with
  | some root => if root = "" then item.rootId else root
  | none => item.rootId

/-- `FieldDecision`. -/
structure FieldDecision where
  field : String
  currentValue : Json := .null
  resolvedValue : Json := .null
  status : FieldDecisionStatus
  evidenceIds : List String := []
  rootIds : List String := []
  reasons : List String := []
  deriving DecidableEq, Repr

/-- `ManifestationResolution`. -/
structure ManifestationResolution where
  tier : IdentityTier
  manifestationIds : Identifiers := []
  fieldDecisions : List (String × FieldDecision) := []
  autoPatch : Dict := []
  riskFlags : List String := []
  reasons : List String := []
  deriving DecidableEq, Repr

/-! ### Canonical patches -/

/-- `CoverPatch`: a local cover bound to the exact manifestation. -/
structure CoverPatch where
  artifactPath : String
  artifactSha256 : String
  manifestationIsbn : String
  deriving DecidableEq, Repr

/-- `CanonicalPatch`: the fields that may cross the writer boundary. -/
structure CanonicalPatch where
  title : Option String := none
  authors : Option (List String) := none
  identifiers : Option Identifiers := none
  languages : Option (List String) := none
  publisher : Option String := none
  pubdate : Option String := none
  series : Option String := none
  seriesIndex : Option ℚ := none
  editionStatement : Option String := none
  cover : Option CoverPatch := none
  deriving DecidableEq, Repr

/-- `SHA256_RE.fullmatch`. -/
def isSha256 (s : String) : Bool :=
  s.toList.length == 64 && s.toList.all fun c => c.isDigit || ('a' ≤ c && c ≤ 'f')

/-- A `str | None` field; the outer `none` is a validation error. -/
def readOptStr : Json → Option (Option String)
  | .null => some none
  | .str s => some (some s)
  | _ => none

/-- The items of a `list[str]`. -/
def readStrs : List Json → Option (List String)
  | [] => some []
  | .str s :: xs => (readStrs xs).map (s :: ·)
  | _ :: _ => none

/-- A `list[str] | None` field. -/
def readOptStrs : Json → Option (Option (List String))
  | .null => some none
  | .arr xs => (readStrs xs).map some
  | _ => none

/-- The items of a `dict[str, str]`. -/
def readStrItems : Dict → Option Identifiers
  | [] => some []
  | (k, .str s) :: r => (readStrItems r).map ((k, s) :: ·)
  | _ :: _ => none

/-- The `identifiers` field with its validator. -/
def readIdentifiers (py : Runtime) : Json → Option (Option Identifiers)
  | .null => some none
  | .obj kvs => do
    let value ← readStrItems kvs
    let normalized := normalizeIdentifiers py value
    if value ≠ [] ∧ normalized = [] then none else some (some normalized)
  | _ => none

/-- A `float | None` field; numeric strings and Booleans are coerced. -/
def readOptFloat (py : Runtime) : Json → Option (Option ℚ)
  | .null => some none
  | .str s => (py.parseFloat s).map some
  | v => (v.num?).map some

/-- The `cover` field. -/
def readCover (py : Runtime) : Json → Option (Option CoverPatch)
  | .null => some none
  | .obj kvs => do
    if (Assoc.keys kvs).any fun k =>
        decide (k ∉ ["artifact_path", "artifact_sha256", "manifestation_isbn"]) then none
    let .str path ← Assoc.get? "artifact_path" kvs | none
    let .str sha ← Assoc.get? "artifact_sha256" kvs | none
    let .str isbn ← Assoc.get? "manifestation_isbn" kvs | none
    let canonical ← validateIsbn isbn
    if path = "" ∨ isSha256 (py.lower sha) = false then none
    some (some ⟨path, py.lower sha, canonical⟩)
  | _ => none

/-- `CanonicalPatch.model_validate`; `none` is a `ValidationError`. -/
def CanonicalPatch.validate (py : Runtime) (patch : Dict) : Option CanonicalPatch := do
  if (Assoc.keys patch).any fun k => decide (k ∉ allowedPatchFields) then none
  let title ← readOptStr (patch.get "title")
  let authors ← readOptStrs (patch.get "authors")
  let identifiers ← readIdentifiers py (patch.get "identifiers")
  let languages ← readOptStrs (patch.get "languages")
  let publisher ← readOptStr (patch.get "publisher")
  let pubdate ← readOptStr (patch.get "pubdate")
  let series ← readOptStr (patch.get "series")
  let seriesIndex ← readOptFloat py (patch.get "series_index")
  let editionStatement ← readOptStr (patch.get "edition_statement")
  let cover ← readCover py (patch.get "cover")
  some { title, authors, identifiers, languages, publisher, pubdate, series, seriesIndex,
         editionStatement, cover }

/-- The JSON of a cover patch. -/
def CoverPatch.toJson (c : CoverPatch) : Json :=
  .obj [("artifact_path", .str c.artifactPath), ("artifact_sha256", .str c.artifactSha256),
    ("manifestation_isbn", .str c.manifestationIsbn)]

/-- One entry of a dump with `exclude_none=True`. -/
def dumpField {α : Type} (key : String) (render : α → Json) (value : Option α) : Dict :=
  match value with
  | none => []
  | some v => [(key, render v)]

/-- `model_dump(mode="json", exclude_none=True)`. -/
def CanonicalPatch.dump (p : CanonicalPatch) : Dict :=
  dumpField "title" .str p.title ++ dumpField "authors" .strs p.authors
    ++ dumpField "identifiers" .strDict p.identifiers ++ dumpField "languages" .strs p.languages
    ++ dumpField "publisher" .str p.publisher ++ dumpField "pubdate" .str p.pubdate
    ++ dumpField "series" .str p.series ++ dumpField "series_index" .float p.seriesIndex
    ++ dumpField "edition_statement" .str p.editionStatement
    ++ dumpField "cover" CoverPatch.toJson p.cover

theorem keys_dumpField {α : Type} (key : String) (render : α → Json) (value : Option α) :
    (Assoc.keys (dumpField key render value)).Sublist [key] := by
  cases value with
  | none => exact List.nil_sublist _
  | some v => exact List.Sublist.refl _

@[simp] theorem get?_dumpField {α : Type} (key k : String) (render : α → Json) (value : Option α) :
    Assoc.get? k (dumpField key render value) = if key = k then value.map render else none := by
  cases value with
  | none => simp [dumpField]
  | some v => rfl

/-- A dump has the allowed fields in their declared order. -/
theorem CanonicalPatch.keys_dump_sublist (p : CanonicalPatch) :
    (Assoc.keys p.dump).Sublist allowedPatchFields := by
  have h := fun (α : Type) (key : String) (render : α → Json) (value : Option α) =>
    keys_dumpField key render value
  simp only [CanonicalPatch.dump, Assoc.keys, List.map_append]
  exact ((((((((((h _ "title" _ _).append (h _ "authors" _ _)).append (h _ "identifiers" _ _)).append
    (h _ "languages" _ _)).append (h _ "publisher" _ _)).append (h _ "pubdate" _ _)).append
    (h _ "series" _ _)).append (h _ "series_index" _ _)).append
    (h _ "edition_statement" _ _)).append (h _ "cover" _ _))

theorem CanonicalPatch.nodup_keys_dump (p : CanonicalPatch) : (Assoc.keys p.dump).Nodup :=
  List.Nodup.sublist p.keys_dump_sublist (by decide)

theorem CanonicalPatch.get?_dump_editionStatement (p : CanonicalPatch) :
    Assoc.get? "edition_statement" p.dump = p.editionStatement.map .str := by
  simp [CanonicalPatch.dump, Assoc.get?_append]

theorem CanonicalPatch.get?_dump_cover (p : CanonicalPatch) :
    Assoc.get? "cover" p.dump = p.cover.map CoverPatch.toJson := by
  simp [CanonicalPatch.dump, Assoc.get?_append]

/-! ### JSON of evidence and resolutions -/

/-- The JSON of one format's evidence. -/
def FormatEvidence.toJson (f : FormatEvidence) : Json :=
  .obj [("path", .str f.path), ("format", .str f.format), ("sha256", .str f.sha256),
    ("status", .str f.status.value), ("identifiers", .strDict f.identifiers),
    ("title", .optStr f.title), ("authors", .strs f.authors), ("languages", .strs f.languages),
    ("evidence_ids", .strs f.evidenceIds), ("error", .optStr f.error)]

/-- The JSON of one source's evidence. -/
def SourceEvidence.toJson (e : SourceEvidence) : Json :=
  .obj [("evidence_id", .str e.evidenceId), ("root_id", .str e.rootId),
    ("independence_root", .optStr e.independenceRoot), ("source_kind", .str e.sourceKind.value),
    ("field", .str e.field), ("value", e.value), ("manifestation_ids", .strDict e.manifestationIds),
    ("locator", .optStr e.locator), ("artifact_sha256", .optStr e.artifactSha256),
    ("source_url", .optStr e.sourceUrl), ("authoritative", .bool e.authoritative)]

/-- The JSON of a field decision. -/
def FieldDecision.toJson (d : FieldDecision) : Json :=
  .obj [("field", .str d.field), ("current_value", d.currentValue),
    ("resolved_value", d.resolvedValue), ("status", .str d.status.value),
    ("evidence_ids", .strs d.evidenceIds), ("root_ids", .strs d.rootIds),
    ("reasons", .strs d.reasons)]

/-- The JSON of a resolution. -/
def ManifestationResolution.toJson (r : ManifestationResolution) : Json :=
  .obj [("tier", .str r.tier.value), ("manifestation_ids", .strDict r.manifestationIds),
    ("field_decisions", .obj (r.fieldDecisions.map fun p => (p.1, p.2.toJson))),
    ("auto_patch", .obj r.autoPatch), ("risk_flags", .strs r.riskFlags),
    ("reasons", .strs r.reasons)]

end Bookwarden
