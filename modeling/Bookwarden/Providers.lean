import Bookwarden.Identity.Evidence

/-!
# Provider records as evidence

The structured adapters of `providers/evidence_v2.py`. A provider answers an exact ISBN query with
records; each record is flattened into one `SourceEvidence` per field. All items of a record share
its `root_id`, and all records of a provider share the provider's `independence_root`.

Fetching and schema validation are outside: `GoogleVolume` is a validated item of the response.

## Main definitions

* `recordEvidence` — `_record_evidence`
* `googleBooksEvidence`, `openLibraryEvidence` — `fetch_by_isbn` of the two providers after the
  response is parsed
-/

namespace Bookwarden

/-- `value in (None, [], {})`. -/
def isAbsent : Json → Bool
  | .null => true
  | .arr xs => xs.isEmpty
  | .obj kvs => kvs.isEmpty
  | _ => false

/-- `_record_evidence`: one item for each present field that a patch may carry. -/
def recordEvidence (py : Runtime) (provider recordId : String) (sourceUrl : Option String)
    (responseSha256 : String) (identifiers : Identifiers) (values : Dict) : List SourceEvidence :=
  let rootId := provider ++ ":" ++ recordId
  (values.filter fun p => decide (p.1 ∈ allowedPatchFields) && !isAbsent p.2).map fun p =>
    { evidenceId := "ev_" ++ String.ofList
        ((py.sha256 (rootId ++ String.singleton (Char.ofNat 0) ++ p.1)).toList.take 20)
      rootId
      independenceRoot := some provider
      sourceKind := .providerStructured
      field := p.1
      value := p.2
      manifestationIds := identifiers
      sourceUrl
      artifactSha256 := some responseSha256
      authoritative := true }

/-- A validated `GoogleVolume`, with its `volumeInfo` inlined. -/
structure GoogleVolume where
  id : String
  selfLink : Option String := none
  title : Option String := none
  authors : List String := []
  publisher : Option String := none
  publishedDate : Option String := none
  language : Option String := none
  industryIdentifiers : List (String × String) := []
  imageLinks : Identifiers := []
  deriving DecidableEq, Repr

/-- `item.model_dump(mode="json")`. -/
def GoogleVolume.toJson (v : GoogleVolume) : Json :=
  .obj [("id", .str v.id), ("self_link", .optStr v.selfLink),
    ("volume_info", .obj
      [("title", .optStr v.title), ("authors", .strs v.authors),
        ("publisher", .optStr v.publisher), ("published_date", .optStr v.publishedDate),
        ("language", .optStr v.language),
        ("industry_identifiers", .arr (v.industryIdentifiers.map fun p =>
          .obj [("type", .str p.1), ("identifier", .str p.2)])),
        ("image_links", .strDict v.imageLinks)])]

/-- `values`: the fields a volume states. -/
def GoogleVolume.values (py : Runtime) (canonical : String) (v : GoogleVolume) : Dict :=
  [("identifiers", .strDict [("isbn", canonical)]), ("title", .optStr v.title),
    ("authors", .strs v.authors),
    ("languages", match v.language with
      | some l => if l = "" then .arr [] else .strs [py.lower l]
      | none => .arr []),
    ("publisher", .optStr v.publisher), ("pubdate", .optStr v.publishedDate)]
  ++ match Assoc.get? "thumbnail" v.imageLinks with
    | some url =>
      if url = "" then []
      else [("cover", .strDict [("source_url", url), ("manifestation_isbn", canonical)])]
    | none => []

/-- The evidence of one volume; none unless its own identifiers carry the ISBN asked for. -/
def GoogleVolume.evidence (py : Runtime) (canonical : String) (v : GoogleVolume) :
    List SourceEvidence :=
  if some canonical ∈ v.industryIdentifiers.map (fun p => validateIsbn p.2) then
    recordEvidence py "google_books" v.id v.selfLink (hashJson py v.toJson) [("isbn", canonical)]
      (v.values py canonical)
  else []

/-- `GoogleBooksEvidenceProvider.fetch_by_isbn` on a parsed response. -/
def googleBooksEvidence (py : Runtime) (isbn : String) (items : List GoogleVolume) :
    List SourceEvidence :=
  match validateIsbn isbn with
  | some canonical => (items.take 10).flatMap (·.evidence py canonical)
  | none => []

/-- The items a `for` loop sees; `none` is the `TypeError` of a value that has none. -/
def iterItems : Json → Option (List Json)
  | .arr xs => some xs
  | .str s => some (s.toList.map fun c => .str (String.singleton c))
  | .obj kvs => some (kvs.map fun p => .str p.1)
  | _ => none

/-- `item.get("name") for item in record.get(key, []) if isinstance(item, dict) and …`. -/
def namedItems (record : Dict) (key : String) : Option (List Json) :=
  (iterItems (record.getD key (.arr []))).map fun items => items.filterMap fun
    | .obj kvs => let name := Dict.get kvs "name"; if name.truthy then some name else none
    | _ => none

/-- One language of a record: what follows the last slash of its key. -/
def languageOfKey (py : Runtime) : Json → Option Json
  | .obj kvs => match Assoc.get? "key" kvs with
    | some (.str key) => some (.str (py.lower (afterLast '/' key)))
    | _ => none
  | _ => none

/-- The evidence of the record of an ISBN; `none` is a `TypeError`, which the enricher does not
catch. -/
def openLibraryRecord (py : Runtime) (canonical : String) (record : Dict) :
    Option (List SourceEvidence) := do
  let authors ← namedItems record "authors"
  let publishers ← namedItems record "publishers"
  let languages ← iterItems (record.getD "languages" (.arr []))
  let cover : Dict := match record.get "cover" with
    | .obj kvs => match Assoc.get? "large" kvs with
      | some (.str url) =>
        [("cover", .strDict [("source_url", url), ("manifestation_isbn", canonical)])]
      | _ => []
    | _ => []
  let sourceUrl := match record.get "url" with
    | .str url => some url
    | _ => none
  return recordEvidence py "openlibrary" canonical sourceUrl (hashJson py (.obj record))
    [("isbn", canonical)]
    ([("identifiers", .strDict [("isbn", canonical)]), ("title", record.get "title"),
      ("authors", .arr authors), ("languages", .arr (languages.filterMap (languageOfKey py))),
      ("publisher", publishers.head?.getD .null), ("pubdate", record.get "publish_date")] ++ cover)

/-- `OpenLibraryEvidenceProvider.fetch_by_isbn` on a parsed response. -/
def openLibraryEvidence (py : Runtime) (isbn : String) (raw : Dict) : Option (List SourceEvidence) :=
  match validateIsbn isbn with
  | none => some []
  | some canonical =>
    match raw.get ("ISBN:" ++ canonical) with
    | .obj record => openLibraryRecord py canonical record
    | _ => some []

/-- Items of one record share root and independence root. -/
theorem recordEvidence_root {py : Runtime} {provider recordId : String}
    {sourceUrl : Option String} {responseSha256 : String} {identifiers : Identifiers}
    {values : Dict} {item : SourceEvidence}
    (h : item ∈ recordEvidence py provider recordId sourceUrl responseSha256 identifiers values) :
    item.rootId = provider ++ ":" ++ recordId ∧ item.independenceRoot = some provider := by
  obtain ⟨p, -, rfl⟩ := List.mem_map.mp h
  exact ⟨rfl, rfl⟩

/-- Records of one provider are one independent root, whatever their number. -/
theorem recordEvidence_effectiveRoot {py : Runtime} {provider recordId : String}
    {sourceUrl : Option String} {responseSha256 : String} {identifiers : Identifiers}
    {values : Dict} {item : SourceEvidence} (hp : provider ≠ "")
    (h : item ∈ recordEvidence py provider recordId sourceUrl responseSha256 identifiers values) :
    item.effectiveRoot = provider := by
  rw [SourceEvidence.effectiveRoot, (recordEvidence_root h).2]
  exact if_neg hp

end Bookwarden
