import Bookwarden.Pipeline.Process

/-!
# Structured providers, the LLM, and their composition

The enrichers of `providers/evidence_v2.py`. The structured enricher looks up the one ISBN that the
formats agree on. The LLM enricher shows a bounded excerpt of the title and copyright pages and keeps
of the answer what quotes the excerpt; its evidence is never authoritative. The composite runs the
enrichers in order and concatenates what they return; for a materialized book it runs those that need
the exported file first, and the others once at the end.

The model's name and the prompt are left out: `LlmReply` is the answer to the excerpt.

## Main definitions

* `structuredEvidence` — `StructuredEvidenceEnricher.collect`
* `buildRemoteEvidenceBundle`, `llmObservationToEvidence`, `LlmEnricher.collect`
* `collectSelected`, `BookReplies.enriched` — `CompositeEvidenceEnricher`
-/

namespace Bookwarden

/-! ### Structured providers -/

/-- The answers of the providers to an ISBN. A provider that is switched off is `none`; a request that
fails closed answers `none`. -/
structure ProviderReplies where
  google : Option (String → Option (List GoogleVolume)) := none
  openLibrary : Option (String → Option Dict) := none

/-- `isbn_values`: the valid ISBNs of the formats, as a set. -/
def formatIsbns (inspections : List FormatInspection) : List String :=
  distinct (inspections.flatMap fun i => (i.formatEvidence.identifiers.filter fun p =>
    p.1 = "isbn" && (validateIsbn p.2).isSome).map Prod.snd)

/-- `StructuredEvidenceEnricher.collect`; an OpenLibrary record of the wrong shape raises. -/
def structuredEvidence (py : Runtime) (replies : ProviderReplies)
    (inspections : List FormatInspection) : Except Raised (List SourceEvidence) :=
  match formatIsbns inspections with
  | [isbn] =>
    let google := match replies.google.bind (· isbn) with
      | some items => googleBooksEvidence py isbn items
      | none => []
    match replies.openLibrary.bind (· isbn) with
    | none => .ok google
    | some raw =>
      match openLibraryEvidence py isbn raw with
      | some evidence => .ok (google ++ evidence)
      | none => .error (.other "object is not iterable" "TypeError")
  | _ => .ok []

/-! ### The excerpt -/

/-- `RemoteSnippet`. -/
structure RemoteSnippet where
  source : String
  locator : String
  text : String
  deriving DecidableEq, Repr

/-- `RemoteEvidenceBundle`. -/
structure RemoteEvidenceBundle where
  bookKey : String
  manifestationIds : Identifiers := []
  snippets : List RemoteSnippet := []
  deriving DecidableEq, Repr

/-- The JSON of a bundle. -/
def RemoteEvidenceBundle.toJson (b : RemoteEvidenceBundle) : Json :=
  .obj [("book_key", .str b.bookKey), ("manifestation_ids", .strDict b.manifestationIds),
    ("snippets", .arr (b.snippets.map fun s =>
      .obj [("source", .str s.source), ("locator", .str s.locator), ("text", .str s.text)]))]

/-- The loop of `build_remote_evidence_bundle` over the snippets; `remaining` is the budget. -/
def selectSnippets : ℕ → List ExtractedSnippet → List RemoteSnippet
  | _, [] => []
  | remaining, item :: snippets =>
    if item.source ∉ ["title_page", "copyright_page"] ∨ remaining = 0 then
      selectSnippets remaining snippets
    else
      let selected := takeChars remaining item.text
      if selected = "" then selectSnippets remaining snippets
      else ⟨item.source, item.locator, selected⟩
        :: selectSnippets (remaining - selected.toList.length) snippets

/-- The bundle of `build_remote_evidence_bundle`. -/
def remoteBundle (bookKey : String) (inspections : List FormatInspection) (allowRemoteText : Bool)
    (maxChars : ℤ) : RemoteEvidenceBundle :=
  let ids := (inspections.flatMap (·.formatEvidence.identifiers)).dedup
  { bookKey
    manifestationIds := if ids.length = 1 then ids else []
    snippets := if allowRemoteText then
        selectSnippets (max 0 maxChars).toNat (inspections.flatMap (·.snippets))
      else [] }

/-- `EgressReceipt`. -/
structure EgressReceipt where
  bookKey : String
  textChars : ℕ
  imageCount : ℕ := 0
  payloadSha256 : String
  provider : Option String := none
  remote : Option Bool := none
  deriving DecidableEq, Repr

/-- The JSON of a receipt. -/
def EgressReceipt.dump (r : EgressReceipt) : Dict :=
  [("book_key", .str r.bookKey), ("text_chars", .int r.textChars), ("image_count", .int r.imageCount),
    ("payload_sha256", .str r.payloadSha256), ("provider", .optStr r.provider),
    ("remote", (r.remote.map .bool).getD .null)]

/-- `build_remote_evidence_bundle`. -/
def buildRemoteEvidenceBundle (py : Runtime) (bookKey : String)
    (inspections : List FormatInspection) (allowRemoteText : Bool) (maxChars : ℤ) :
    RemoteEvidenceBundle × EgressReceipt :=
  let bundle := remoteBundle bookKey inspections allowRemoteText maxChars
  (bundle, {
    bookKey
    textChars := (bundle.snippets.map fun s => s.text.toList.length).sum
    payloadSha256 := hashJson py bundle.toJson })

/-! ### The answer -/

/-- `LLMObservation`. -/
structure LLMObservation where
  field : String
  value : Json
  evidenceQuote : String
  deriving DecidableEq, Repr

/-- `LLMObservation.model_validate`. -/
def LLMObservation.validate : Json → Option LLMObservation
  | .obj kvs => do
    if (Assoc.keys kvs).any fun k => decide (k ∉ ["field", "value", "evidence_quote"]) then none
    let .str field ← Assoc.get? "field" kvs | none
    let value ← Assoc.get? "value" kvs
    let .str quote ← Assoc.get? "evidence_quote" kvs | none
    if quote.toList.length = 0 ∨ 1000 < quote.toList.length then none
    some ⟨field, value, quote⟩
  | _ => none

/-- `LLMObservationBatch.model_validate`: the observations. -/
def validateBatch : Json → Option (List LLMObservation)
  | .obj kvs =>
    if (Assoc.keys kvs).any fun k => decide (k ≠ "observations") then none
    else match Assoc.get? "observations" kvs with
      | none => some []
      | some (.arr items) =>
        if 12 < items.length then none else items.mapM LLMObservation.validate
      | some _ => none
  | _ => none

/-- The observation names a field of a patch and quotes a snippet of the bundle. -/
def LLMObservation.cited (bundle : RemoteEvidenceBundle) (o : LLMObservation) : Bool :=
  decide (o.field ∈ allowedPatchFields)
    && bundle.snippets.any fun s => containsText s.text o.evidenceQuote

/-- The key of an observation, before it is hashed to its evidence id. -/
def llmKey (bookKey field responseSha256 : String) : String :=
  bookKey ++ nul ++ field ++ nul ++ responseSha256

/-- The evidence of an observation that is cited. -/
def LLMObservation.toEvidence (py : Runtime) (bundle : RemoteEvidenceBundle)
    (responseSha256 : String) (o : LLMObservation) : SourceEvidence where
  evidenceId := evidenceIdOf py (llmKey bundle.bookKey o.field responseSha256)
  rootId := "llm:" ++ takeChars 20 responseSha256
  independenceRoot := some "llm"
  sourceKind := .llm
  field := o.field
  value := o.value
  manifestationIds := normalizeIdentifiers py bundle.manifestationIds
  locator := (bundle.snippets.find? fun s => containsText s.text o.evidenceQuote).map (·.locator)
  artifactSha256 := some responseSha256
  authoritative := false

/-- `llm_observation_to_evidence` on a validated observation. -/
def llmObservationToEvidence (py : Runtime) (bundle : RemoteEvidenceBundle)
    (responseSha256 : String) (o : LLMObservation) : List SourceEvidence :=
  if o.cited bundle then [o.toEvidence py bundle responseSha256] else []

/-! ### The LLM enricher -/

/-- What the request gives. -/
inductive LlmReply
  /-- The content of the response, after `json.loads` of a text. -/
  | content (content : Json)
  /-- A `ValidationError`, `ValueError`, `TypeError` or `JSONDecodeError`. -/
  | rejected
  /-- Any other exception. -/
  | failed
  deriving DecidableEq, Repr

/-- The provider the router selects. -/
structure LlmProvider where
  name : String
  isLocal : Bool
  reply : RemoteEvidenceBundle → LlmReply

/-- `MinimalEvidenceLLMEnricher`; no provider when the router raises. -/
structure LlmEnricher where
  provider : Option LlmProvider
  allowRemoteText : Bool := false
  runAllowsRemoteText : Bool := false
  maxChars : ℤ

/-- The enrichment of a response that validates. -/
def enrichmentOfBatch (py : Runtime) (bundle : RemoteEvidenceBundle) (receipt : Dict)
    (responseSha256 : String) (batch : List LLMObservation) : EvidenceEnrichment :=
  let evidence := batch.flatMap (llmObservationToEvidence py bundle responseSha256)
  { evidence
    privacyReceipts := [receipt]
    warnings := if evidence.length = batch.length then []
      else ["uncited_llm_observation_rejected"] }

/-- `MinimalEvidenceLLMEnricher.collect`. -/
def LlmEnricher.collect (py : Runtime) (e : LlmEnricher) (book : BookSnapshot)
    (inspections : List FormatInspection) : EvidenceEnrichment :=
  match e.provider with
  | none => { warnings := ["llm_provider_unavailable"] }
  | some provider =>
    let remote := !provider.isLocal
    if remote && !(e.allowRemoteText && e.runAllowsRemoteText) then
      { warnings := ["remote_llm_text_not_authorized"] }
    else
      let built := buildRemoteEvidenceBundle py book.bookKey inspections true (max 0 e.maxChars)
      let bundle := built.1
      let receipt := { built.2 with provider := some provider.name, remote := some remote }.dump
      if bundle.snippets = [] then
        { privacyReceipts := [receipt], warnings := ["llm_evidence_payload_empty"] }
      else match provider.reply bundle with
        | .failed => { privacyReceipts := [receipt], warnings := ["llm_request_failed"] }
        | .rejected => { privacyReceipts := [receipt], warnings := ["llm_response_rejected"] }
        | .content content =>
          match validateBatch content with
          | none => { privacyReceipts := [receipt], warnings := ["llm_response_rejected"] }
          | some batch => enrichmentOfBatch py bundle receipt (hashJson py content) batch

/-! ### The composite -/

/-- An enricher of the composite. -/
structure Enricher where
  /-- `requires_materialized_files`. -/
  requiresMaterializedFiles : Bool := false
  collect : BookSnapshot → List FormatInspection → Except Raised Collected

/-- The structured enricher. -/
def structuredEnricher (py : Runtime) (replies : ProviderReplies) : Enricher where
  collect _ inspections :=
    (structuredEvidence py replies inspections).map fun evidence => (inspections, { evidence })

/-- The LLM enricher. -/
def llmEnricher (py : Runtime) (e : LlmEnricher) : Enricher where
  collect book inspections := .ok (inspections, e.collect py book inspections)

/-- One after the other. -/
def EvidenceEnrichment.append (a b : EvidenceEnrichment) : EvidenceEnrichment :=
  ⟨a.evidence ++ b.evidence, a.privacyReceipts ++ b.privacyReceipts, a.warnings ++ b.warnings⟩

/-- `_collect_selected`. -/
def collectSelected (enrichers : List Enricher) (book : BookSnapshot)
    (inspections : List FormatInspection) : Except Raised Collected :=
  enrichers.foldlM (fun done enricher => do
    let (inspections, enrichment) ← enricher.collect book done.1
    return (inspections, done.2.append enrichment)) (inspections, {})

/-- The answers for a book whose enricher is the composite: `collect` of a local pipeline,
`collect_materialized` and `collect_aggregate` of a materialized one. -/
def BookReplies.enriched (replies : BookReplies) (pipeline : LibraryAuditPipeline)
    (enrichers : List Enricher) : BookReplies :=
  { replies with
    collectMaterialized := some fun book inspection =>
      (collectSelected (enrichers.filter (·.requiresMaterializedFiles)) book [inspection]).map
        fun collected => (collected.1.headD inspection, collected.2)
    collect := match pipeline.source with
      | none => collectSelected enrichers
      | some _ => collectSelected (enrichers.filter fun e => !e.requiresMaterializedFiles) }

end Bookwarden
