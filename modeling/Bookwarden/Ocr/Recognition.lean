import Bookwarden.Providers.Enrichers

/-!
# OCR and cover vision

The recognition enrichers of `ocr/recognition_v2.py`. They need the file of a format, and they write
to its inspection: OCR adds the recognized pages as snippets, and both may seed the identifier that
the providers are then asked for. One OCR engine, or vision, is never authoritative; two OCR engines
that agree are.

## Main definitions

* `OcrEnricher.collect` — `OCRRecognitionEnricher.collect`
* `VisionEnricher.collect` — `VisionRecognitionEnricher.collect`
* `buildV2Enricher` — `build_v2_enricher`: the order of the enrichers
-/

namespace Bookwarden

/-- `Path(p).name`. -/
def pathName (p : String) : String := (pathParts p).2.getLast?.getD ""

/-- `_seed_candidate_identifier`: the inspection, and whether it was seeded. -/
def seedCandidateIdentifier (inspection : FormatInspection) (isbn evidenceId : String) :
    FormatInspection × Bool :=
  let format := inspection.formatEvidence
  if format.identifiers ≠ [] ∧ Assoc.get? "isbn" format.identifiers ≠ some isbn then
    (inspection, false)
  else
    let ids := if evidenceId ∈ format.evidenceIds then format.evidenceIds
      else format.evidenceIds ++ [evidenceId]
    ({ inspection with formatEvidence :=
        { format with identifiers := [("isbn", isbn)], evidenceIds := ids } }, true)

/-- What one inspection adds to an enrichment. -/
structure Recognized where
  inspection : FormatInspection
  evidence : List SourceEvidence := []
  receipts : List Dict := []
  warnings : List String := []

/-! ### OCR -/

/-- `OCRPageResult`: number and text of a page. -/
structure OcrPage where
  number : ℕ
  text : String

/-- A `PDFOCRBackend`; `none` when it raises. -/
structure OcrBackend where
  name : String
  ocrPdfPages : FormatInspection → Option (List OcrPage)

/-- `OCRRecognitionEnricher`, with the answers about the files. -/
structure OcrEnricher where
  backends : List OcrBackend
  maxPages : ℤ := 6
  /-- Does `_safe_source` find the file, with its SHA-256? -/
  safe : FormatInspection → Bool := fun _ => true
  /-- Does `_stable_recognition_copy` succeed? -/
  copied : FormatInspection → Bool := fun _ => true
  /-- Are the copy and the file unchanged after the engines ran? -/
  unchanged : FormatInspection → Bool := fun _ => true

/-- `MAX_OCR_TEXT_CHARS_PER_ENGINE`. -/
def maxOcrTextChars : ℕ := 40000

/-- `"\n".join(page.text for page in pages if page.text)`, cut. -/
def ocrText (pages : List OcrPage) : String :=
  takeChars maxOcrTextChars ("\n".intercalate ((pages.map (·.text)).filter fun t => t ≠ ""))

/-- What the loop over the engines has collected. -/
structure EngineScan where
  snippets : List ExtractedSnippet
  /-- `by_engine`. -/
  byEngine : List (String × List String) := []
  warnings : List String := []

/-- One pass of the loop over the engines. -/
def scanEngine (inspection : FormatInspection) (name : String) (scan : EngineScan)
    (backend : OcrBackend) : EngineScan :=
  match backend.ocrPdfPages inspection with
  | none => { scan with warnings := scan.warnings ++ ["ocr_backend_failed:" ++ backend.name ++ ":" ++ name] }
  | some pages =>
    let text := ocrText pages
    let locator := ",".intercalate ((pages.filter fun p => p.text ≠ "").map fun p => toString p.number)
    let snippets := if text = "" then scan.snippets else scan.snippets ++
      [⟨"copyright_page", text, "ocr:" ++ backend.name ++ ":pages:" ++ locator, some locator⟩]
    let candidates := isbnCandidates text
    let byEngine := if candidates = [] then scan.byEngine else
      Assoc.set backend.name
        (distinct ((Assoc.get? backend.name scan.byEngine).getD [] ++ candidates)) scan.byEngine
    { scan with snippets, byEngine }

/-- `{frozenset(values) for values in by_engine.values()}`, when that is one singleton: its ISBN. -/
def engineConsensus (byEngine : List (String × List String)) : Option String :=
  match (byEngine.map Prod.snd).dedup with
  | [[isbn]] => some isbn
  | _ => none

/-- The key of OCR evidence, before it is hashed. -/
def ocrKey (sha256 isbn engines : String) : String :=
  "ocr" ++ nul ++ sha256 ++ nul ++ isbn ++ nul ++ engines

/-- The evidence of an agreement of the engines. -/
def ocrEvidence (py : Runtime) (sha256 isbn : String) (engines : List String) (maxPages : ℕ) :
    SourceEvidence where
  evidenceId := evidenceIdOf py (ocrKey sha256 isbn (",".intercalate engines))
  rootId := "ocr:" ++ sha256 ++ ":" ++ "+".intercalate engines
  independenceRoot := some "book_content"
  sourceKind := if 2 ≤ engines.length then .ocrConsensus else .ocrObservation
  field := "identifiers"
  value := .strDict [("isbn", isbn)]
  manifestationIds := [("isbn", isbn)]
  locator := some ("pages:1-" ++ toString maxPages)
  artifactSha256 := some sha256
  authoritative := 2 ≤ engines.length

namespace OcrEnricher

variable (py : Runtime) (e : OcrEnricher)

/-- `self.max_pages`. -/
def pageLimit : ℕ := (min (max e.maxPages 1) 12).toNat

/-- `_safe_source`. -/
def safeSource (inspection : FormatInspection) : Bool :=
  decide (inspection.formatEvidence.status = .readable) && e.safe inspection

/-- One pass of the loop of `collect`. -/
def recognize (inspection : FormatInspection) : Recognized :=
  let format := inspection.formatEvidence
  if format.format ≠ "PDF" ∨ format.identifiers ≠ [] then { inspection } else
  let name := pathName format.path
  let unsafeWarning := "ocr_source_changed_or_unsafe:" ++ name
  if !e.safeSource inspection || !e.copied inspection then
    { inspection, warnings := [unsafeWarning] }
  else
    let scan := e.backends.foldl (scanEngine inspection name) { snippets := inspection.snippets }
    if !e.unchanged inspection then { inspection, warnings := scan.warnings ++ [unsafeWarning] } else
    let inspection := { inspection with snippets := scan.snippets }
    if scan.byEngine = [] then { inspection, warnings := scan.warnings } else
    match engineConsensus scan.byEngine with
    | none => { inspection, warnings := scan.warnings ++ ["ocr_identifier_conflict:" ++ name] }
    | some isbn =>
      let engines := sorted (Assoc.keys scan.byEngine)
      let item := ocrEvidence py format.sha256 isbn engines e.pageLimit
      match seedCandidateIdentifier inspection isbn item.evidenceId with
      | (inspection, true) => { inspection, evidence := [item], warnings := scan.warnings }
      | (inspection, false) =>
        { inspection, warnings := scan.warnings ++ ["ocr_identifier_conflict:" ++ name] }

/-- `OCRRecognitionEnricher.collect`. -/
def collect (inspections : List FormatInspection) : Collected :=
  let recognized := inspections.map (e.recognize py)
  (recognized.map (·.inspection),
    { evidence := recognized.flatMap (·.evidence), warnings := recognized.flatMap (·.warnings) })

end OcrEnricher

/-! ### Vision -/

/-- What the vision backend answers about a cover. -/
inductive VisionReply
  | raised
  | notDict
  | result (values : Dict)
  deriving DecidableEq, Repr

/-- `VisionRecognitionEnricher`, with the answers about the files; no backend when the router has
none. -/
structure VisionEnricher where
  /-- Its name, and whether it is local. -/
  backend : Option (String × Bool)
  allowRemoteImages : Bool := false
  runAllowsRemoteImages : Bool := false
  maxImages : ℤ
  safe : FormatInspection → Bool := fun _ => true
  copied : FormatInspection → Bool := fun _ => true
  /-- The SHA-256 of the extracted cover, when it is a valid image. -/
  cover : FormatInspection → Option String
  recognizeCover : FormatInspection → VisionReply
  unchanged : FormatInspection → Bool := fun _ => true

/-- The receipt of one image. -/
def imageReceipt (py : Runtime) (bookKey sha256 coverSha provider : String) (remote : Bool) : Dict :=
  [("book_key", .str bookKey), ("text_chars", .int 0), ("image_count", .int 1),
    ("payload_sha256", .str (hashJson py (.obj [("book_key", .str bookKey),
      ("format_sha256", .str sha256), ("cover_sha256", .str coverSha), ("provider", .str provider)]))),
    ("provider", .str provider), ("remote", .bool remote)]

/-- The valid ISBN of a vision result. -/
def visionIsbn (result : Dict) : Option String :=
  match result.get "isbn" with
  | .str raw => validateIsbn raw
  | _ => none

/-- `value if isinstance(value, str) else None`. -/
def strOrNull : Json → Json
  | .str s => .str s
  | _ => .null

/-- `values`: what a vision result states. -/
def visionValues (py : Runtime) (result : Dict) : Dict :=
  [("title", strOrNull (result.get "title")),
    ("authors", match result.get "authors" with
      | .arr items => .strs ((items.map fun i => strip (i.toStr py)).filter fun a => a ≠ "")
      | _ => .null),
    ("publisher", strOrNull (result.get "publisher")),
    ("identifiers", .strDict (isbnMap (visionIsbn result)))]

/-- The key of an item of a record, before it is hashed. -/
def recordKey (rootId field : String) : String := rootId ++ nul ++ field

/-- The root of the evidence of one cover. -/
def visionRoot (coverSha : String) : String := "vision:" ++ coverSha

/-- The evidence of one cover. -/
def visionEvidence (py : Runtime) (coverSha : String) (result : Dict) : List SourceEvidence :=
  ((visionValues py result).filter fun p => !isAbsent p.2).map fun p =>
    { evidenceId := evidenceIdOf py (recordKey (visionRoot coverSha) p.1)
      rootId := visionRoot coverSha
      independenceRoot := some "vision"
      sourceKind := .vision
      field := p.1
      value := p.2
      manifestationIds := isbnMap (visionIsbn result)
      locator := some "cover:first-page"
      artifactSha256 := some coverSha
      authoritative := false }

namespace VisionEnricher

variable (py : Runtime) (e : VisionEnricher)

/-- `_safe_source`. -/
def safeSource (inspection : FormatInspection) : Bool :=
  decide (inspection.formatEvidence.status = .readable) && e.safe inspection

/-- What a result makes of an inspection and its evidence. -/
def seedResult (inspection : FormatInspection) (result : Dict) (evidence : List SourceEvidence) :
    FormatInspection × List String :=
  match visionIsbn result, evidence.find? fun i => i.field = "identifiers" with
  | some isbn, some item =>
    match seedCandidateIdentifier inspection isbn item.evidenceId with
    | (seeded, true) => (seeded, [])
    | (_, false) =>
      (inspection, ["vision_identifier_conflict:" ++ pathName inspection.formatEvidence.path])
  | _, _ => (inspection, [])

/-- The pass of the loop of `collect` over an inspection that is not beyond the budget; the number is
that of the images it passes on. -/
def recognize (bookKey provider : String) (remote : Bool) (inspection : FormatInspection) :
    Recognized × ℕ :=
  let name := pathName inspection.formatEvidence.path
  let unsafeWarning := "vision_source_changed_or_unsafe:" ++ name
  if !e.safeSource inspection || !e.copied inspection then
    ({ inspection, warnings := [unsafeWarning] }, 0)
  else match e.cover inspection with
    | none => ({ inspection, warnings := ["vision_cover_unavailable:" ++ name] }, 0)
    | some coverSha =>
      let receipts := [imageReceipt py bookKey inspection.formatEvidence.sha256 coverSha provider remote]
      match e.recognizeCover inspection with
      | .raised => ({ inspection, receipts, warnings := ["vision_backend_failed:" ++ name] }, 1)
      | .notDict => ({ inspection, receipts, warnings := ["vision_response_rejected:" ++ name] }, 1)
      | .result values =>
        if !e.unchanged inspection then ({ inspection, receipts, warnings := [unsafeWarning] }, 1)
        else
          let evidence := visionEvidence py coverSha values
          let seeded := seedResult inspection values evidence
          ({ inspection := seeded.1, evidence, receipts, warnings := seeded.2 }, 1)

/-- The loop of `collect`; `budget` is what remains of the images. -/
def recognizeAll (bookKey provider : String) (remote : Bool) : ℕ → List FormatInspection →
    List Recognized
  | _, [] => []
  | 0, inspections => inspections.map fun inspection => { inspection }
  | budget + 1, inspection :: inspections =>
    let (recognized, images) := e.recognize py bookKey provider remote inspection
    recognized :: recognizeAll bookKey provider remote (budget + 1 - images) inspections

/-- `VisionRecognitionEnricher.collect`. -/
def collect (book : BookSnapshot) (inspections : List FormatInspection) : Collected :=
  match e.backend with
  | none => (inspections, { warnings := ["vision_provider_unavailable"] })
  | some (provider, isLocal) =>
    let remote := !isLocal
    if remote && !(e.allowRemoteImages && e.runAllowsRemoteImages) then
      (inspections, { warnings := ["remote_vision_images_not_authorized"] })
    else
      let budget := (min (max e.maxImages 0) 4).toNat
      let recognized := e.recognizeAll py book.bookKey provider remote budget inspections
      (recognized.map (·.inspection),
        { evidence := recognized.flatMap (·.evidence)
          privacyReceipts := recognized.flatMap (·.receipts)
          warnings := recognized.flatMap (·.warnings) })

end VisionEnricher

/-! ### The enrichers of a run -/

/-- The enrichers that are switched on. -/
structure EnricherOptions where
  ocr : Option OcrEnricher := none
  vision : Option VisionEnricher := none
  providers : Option ProviderReplies := none
  llm : Option LlmEnricher := none

/-- The OCR enricher. -/
def ocrEnricher (py : Runtime) (e : OcrEnricher) : Enricher where
  requiresMaterializedFiles := true
  collect _ inspections := .ok (e.collect py inspections)

/-- The vision enricher. -/
def visionEnricher (py : Runtime) (e : VisionEnricher) : Enricher where
  requiresMaterializedFiles := true
  collect book inspections := .ok (e.collect py book inspections)

/-- `build_v2_enricher`: recognition first, so that its candidate can drive the exact lookup. -/
def buildV2Enricher (py : Runtime) (o : EnricherOptions) : List Enricher :=
  (o.ocr.map (ocrEnricher py)).toList ++ (o.vision.map (visionEnricher py)).toList
    ++ (o.providers.map (structuredEnricher py)).toList ++ (o.llm.map (llmEnricher py)).toList

end Bookwarden
