import Bookwarden.Exceptions
import Bookwarden.Identity.Evidence
import Bookwarden.Lib.Tally

/-!
# The inventory of a content server

`aggregate_inventory` of `calibre/content_server.py`: the records of the books are put in the order of
their ids, and one pass counts them into a report in which no single book shows.

## What is a parameter

`Datetimes` is `datetime.fromisoformat` and `datetime.isoformat`. Instants are microseconds from the
start of the year 1 in UTC. The time of capture is given, and the interpreter's stack is taken to be
deep enough for the nested lists of a record.

## Main definitions

* `validatedBooks`, `aggregateInventory`
-/

namespace Bookwarden.ContentServer

/-- `datetime.fromisoformat` and `datetime.isoformat`. -/
structure Datetimes where
  /-- The local time, and the offset from UTC if the text has one; `none` when it raises
  `ValueError`. -/
  fromisoformat : String → Option (ℤ × Option ℤ)
  isoformat : ℤ → String

/-- The microseconds from the start of the year 1 to the end of the year 9999. -/
def endOfTime : ℤ := 3652059 * 86400 * 1000000

/-- `sys.get_int_max_str_digits()`. -/
def maxStrDigits : ℕ := 4300

variable (py : Runtime) (dt : Datetimes)

/-! ### The records -/

/-- A `ContentServerError`. -/
def contentServerError (message : String) : PyError := ⟨.other, message⟩

/-- `raw.get("id")` of a record, if it is a positive integer and no earlier record has it. -/
def validatedBook (seen : List ℤ) : Json → Except PyError (ℤ × Dict)
  | .obj raw =>
    match Dict.get raw "id" with
    | .int bookId =>
      if bookId ≤ 0 then .error (contentServerError "Calibre returned an invalid book id")
      else if bookId ∈ seen then
        .error (contentServerError "Calibre returned a duplicate book id")
      else .ok (bookId, raw)
    | _ => .error (contentServerError "Calibre returned an invalid book id")
  | _ => .error (contentServerError "Calibre did not return a valid JSON book list")

/-- The loop of `_validated_books`: the records with their ids. -/
def validatedBooksLoop (seen : List ℤ) : List Json → Except PyError (List (ℤ × Dict))
  | [] => .ok []
  | raw :: payload => do
    let book ← validatedBook seen raw
    let books ← validatedBooksLoop (book.1 :: seen) payload
    return book :: books

/-- `_validated_books`: the records in the order of their ids. -/
def validatedBooks : Json → Except PyError (List (ℤ × Dict))
  | .arr payload => do
    let books ← validatedBooksLoop [] payload
    return books.insertionSort fun a b => a.1 ≤ b.1
  | _ => .error (contentServerError "Calibre did not return a valid JSON book list")

/-! ### One record -/

/-- `_FORMAT_RE.fullmatch`. -/
def isFormat (s : String) : Bool :=
  1 ≤ s.toList.length && s.toList.length ≤ 16 &&
    s.toList.all fun c => ('A' ≤ c && c ≤ 'Z') || c.isDigit

/-- `_LANGUAGE_RE.fullmatch`. -/
def isLanguage (s : String) : Bool :=
  2 ≤ s.toList.length && s.toList.length ≤ 3 && s.toList.all fun c => 'A' ≤ c && c ≤ 'Z'

/-- `_INVENTORY_FORMATS`. -/
def inventoryFormats : List String :=
  ["AZW", "AZW3", "CBR", "CBZ", "DJVU", "DOCX", "EPUB", "FB2", "HTM", "HTML", "KFX", "LIT", "LRF",
    "MOBI", "ODT", "PDB", "PDF", "PRC", "RTF", "TCR", "TPZ", "TXT"]

/-- `candidate`: the text that may name the format of an entry. -/
def formatCandidate : Json → Option String
  | .str value => some (if pathSuffix value = "" then value else pathSuffix value)
  | .obj value =>
    match Dict.get value "format" with
    | .str rawFormat => some rawFormat
    | _ =>
      match Dict.get value "path" with
      | .str path => some (pathSuffix path)
      | _ => none
  | _ => none

/-- The canonical format of an entry. -/
def formatOf (value : Json) : String :=
  let canonical := py.upper (strip ((formatCandidate value).getD ""))
  if isFormat canonical then canonical else "UNKNOWN"

/-- `_formats`. -/
def formats : Json → List String
  | .null => []
  | .arr values => values.map (formatOf py)
  | raw => [formatOf py raw]

mutual

/-- `_nonempty`. -/
def nonempty : Json → Bool
  | .str s => strip s ≠ ""
  | .arr values => anyNonempty values
  | .null => false
  | _ => true

def anyNonempty : List Json → Bool
  | [] => false
  | value :: values => nonempty value || anyNonempty values

end

/-- The keys of `isbn_counts`. -/
inductive IsbnState
  | invalid
  | missing
  | valid
  deriving DecidableEq, Repr

/-- A value that is a string. -/
def strOf? : Json → Option String
  | .str s => some s
  | _ => none

/-- `candidates` of `_isbn_state`. -/
def isbnCandidates (book : Dict) : List String :=
  let nested := match book.get "identifiers" with
    | .obj identifiers => (strOf? (Dict.get identifiers "isbn")).toList
    | _ => []
  nested ++ (strOf? (book.get "isbn")).toList

/-- `_isbn_state`. -/
def isbnState (book : Dict) : IsbnState :=
  let presented := (isbnCandidates book).filter fun value => strip value ≠ ""
  if presented = [] then .missing
  else if presented.any fun value => (validateIsbn value).isSome then .valid
  else .invalid

/-- `normalized_languages`. -/
def normalizedLanguages (rawLanguages : Json) : List String :=
  let languages := match rawLanguages with
    | .arr values => values
    | value => [value]
  let presented := distinct
    (((languages.filterMap strOf?).filter fun value => strip value ≠ "").map fun value =>
      py.upper (strip value))
  sorted (distinct (presented.map fun language => if isLanguage language then language else "OTHER"))

/-- `astimezone(UTC)` of a local time with its offset from UTC. -/
def astimezone (localTime offset : ℤ) : Except PyError ℤ :=
  if 0 ≤ localTime - offset ∧ localTime - offset < endOfTime then .ok (localTime - offset)
  else .error ⟨.other, "date value out of range"⟩

/-- The text that `_last_modified` gives to `fromisoformat`. -/
def isoText (s : String) : String :=
  String.ofList ((strip s).toList.flatMap fun c => if c = 'Z' then "+00:00".toList else [c])

/-- `_last_modified`. -/
def lastModified : Json → Except PyError (Option ℤ)
  | .str raw =>
    if strip raw = "" then .ok none
    else
      match dt.fromisoformat (isoText raw) with
      | none => .error ⟨.value, "Invalid isoformat string"⟩
      | some (localTime, none) => .ok (some localTime)
      | some (localTime, some offset) => do
        let instant ← astimezone localTime offset
        return some instant
  | _ => .ok none

/-- What the loop makes of `last_modified`. -/
inductive Modified
  | missing
  | invalid
  | dated (instant : ℤ)
  deriving DecidableEq, Repr

/-- `raw_modified is None or (isinstance(raw_modified, str) and not raw_modified.strip())`. -/
def isBlank : Json → Bool
  | .null => true
  | .str raw => strip raw = ""
  | _ => false

/-- The branches on `raw_modified`; only `TypeError` and `ValueError` are caught. -/
def modifiedOf (rawModified : Json) : Except PyError Modified :=
  if isBlank rawModified then .ok .missing
  else
    match lastModified dt rawModified with
    | .error e => if e.kind = .type ∨ e.kind = .value then .ok .invalid else .error e
    | .ok none => .ok .invalid
    | .ok (some instant) => .ok (.dated instant)

/-! ### The pass -/

/-- An entry of `manifest_items`. -/
structure ManifestItem where
  id : ℤ
  formats : List String
  lastModified : Option String
  deriving DecidableEq, Repr

/-- The entry as a dictionary. -/
def ManifestItem.toJson (item : ManifestItem) : Json :=
  .obj [("id", .int item.id), ("formats", .strs item.formats),
    ("last_modified", .optStr item.lastModified)]

/-- `isbn_counts`. -/
structure ISBNCounts where
  invalid : ℕ := 0
  missing : ℕ := 0
  valid : ℕ := 0
  deriving DecidableEq, Repr

/-- `isbn_counts[state] += 1`. -/
def ISBNCounts.add (counts : ISBNCounts) : IsbnState → ISBNCounts
  | .invalid => { counts with invalid := counts.invalid + 1 }
  | .missing => { counts with missing := counts.missing + 1 }
  | .valid => { counts with valid := counts.valid + 1 }

/-- The counters of the loop. -/
@[ext]
structure Counters where
  formatCounts : List (String × ℕ) := []
  languageCounts : List (String × ℕ) := []
  isbnCounts : ISBNCounts := {}
  incomplete : List (String × ℕ) :=
    [("authors", 0), ("languages", 0), ("publisher", 0), ("pubdate", 0), ("title", 0)]
  modified : List ℤ := []
  invalidModified : ℕ := 0
  missingModified : ℕ := 0
  totalFormats : ℕ := 0
  multiFormat : ℕ := 0
  noFormat : ℕ := 0
  manifestItems : List ManifestItem := []
  deriving DecidableEq, Repr

/-- `format_name if format_name in _INVENTORY_FORMATS else "OTHER"`. -/
def aggregateFormat (formatName : String) : String :=
  if formatName ∈ inventoryFormats then formatName else "OTHER"

/-- `modified`, `invalid_modified`, `missing_modified`. -/
def Counters.addModified (c : Counters) : Modified → Counters
  | .missing => { c with missingModified := c.missingModified + 1 }
  | .invalid => { c with invalidModified := c.invalidModified + 1 }
  | .dated instant => { c with modified := c.modified ++ [instant] }

/-- `canonical_modified`. -/
def canonicalModified : Modified → Option String
  | .dated instant => some (dt.isoformat instant)
  | _ => none

/-- One round of the loop. -/
def countBook (c : Counters) (book : ℤ × Dict) : Except PyError Counters := do
  let bookFormats := formats py (book.2.get "formats")
  let languages := normalizedLanguages py (book.2.get "languages")
  let incomplete := c.incomplete.map fun (field, n) =>
    let value := if field = "languages" then .strs languages else book.2.get field
    (field, n + if nonempty value then 0 else 1)
  let modified ← modifiedOf dt (book.2.get "last_modified")
  let counted : Counters := { c with
    totalFormats := c.totalFormats + bookFormats.length
    multiFormat := c.multiFormat + if 1 < bookFormats.length then 1 else 0
    noFormat := c.noFormat + if bookFormats = [] then 1 else 0
    formatCounts := Tally.addAll c.formatCounts (bookFormats.map aggregateFormat)
    languageCounts := Tally.addAll c.languageCounts languages
    incomplete := incomplete
    isbnCounts := c.isbnCounts.add (isbnState book.2)
    manifestItems := c.manifestItems ++
      [{ id := book.1, formats := bookFormats, lastModified := canonicalModified dt modified }] }
  return counted.addModified modified

/-- `json.dumps(manifest_items, ...)`; a number of too many digits has no text. -/
def encodeManifest (items : List ManifestItem) : Except PyError String :=
  if items.all fun item => (Nat.toDigits 10 item.id.natAbs).length ≤ maxStrDigits then
    .ok (dumps py (.arr (items.map ManifestItem.toJson)))
  else .error ⟨.value, "Exceeds the limit (4300 digits) for integer string conversion"⟩

/-! ### The report -/

/-- `InventoryCounts`. -/
structure InventoryCounts where
  books : ℕ
  formats : ℕ
  multiFormat : ℕ
  noFormat : ℕ
  deriving DecidableEq, Repr

/-- `LastModifiedRange`. -/
structure LastModifiedRange where
  minimum : Option ℤ
  maximum : Option ℤ
  missing : ℕ
  invalid : ℕ
  deriving DecidableEq, Repr

/-- `InventoryReport`. -/
structure InventoryReport where
  schemaVersion : ℕ := 1
  capturedAt : ℤ
  sourceFingerprint : String
  manifestSha256 : String
  counts : InventoryCounts
  formats : List (String × ℕ)
  languages : List (String × ℕ)
  isbn : ISBNCounts
  incompleteFields : List (String × ℕ)
  lastModified : LastModifiedRange
  deriving DecidableEq, Repr

/-- `_valid_digest`. -/
def validDigest (value : String) : Except PyError String :=
  let lowered := py.lower value
  if isSha256 lowered then .ok lowered
  else .error ⟨.value, "inventory fingerprints must be SHA-256 values"⟩

/-- `dict(sorted(counts.items()))`. -/
def sortedItems (counts : List (String × ℕ)) : List (String × ℕ) :=
  counts.insertionSort fun a b => a.1 ≤ b.1

/-- `aggregate_inventory`. -/
def aggregateInventory (books : List Dict) (sourceFingerprint : String) (capturedAt : ℤ) :
    Except PyError InventoryReport := do
  let validated ← validatedBooks (.arr (books.map .obj))
  let c ← validated.foldlM (countBook py dt) {}
  let manifestEncoded ← encodeManifest py c.manifestItems
  let fingerprint ← validDigest py sourceFingerprint
  let manifestSha256 ← validDigest py (py.sha256 manifestEncoded)
  return {
    capturedAt := capturedAt
    sourceFingerprint := fingerprint
    manifestSha256 := manifestSha256
    counts := {
      books := validated.length
      formats := c.totalFormats
      multiFormat := c.multiFormat
      noFormat := c.noFormat }
    formats := sortedItems c.formatCounts
    languages := sortedItems c.languageCounts
    isbn := c.isbnCounts
    incompleteFields := c.incomplete
    lastModified := {
      minimum := c.modified.min?
      maximum := c.modified.max?
      missing := c.missingModified
      invalid := c.invalidModified } }

end Bookwarden.ContentServer
