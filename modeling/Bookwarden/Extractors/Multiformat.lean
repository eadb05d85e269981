import Bookwarden.Lib.Matcher
import Bookwarden.Providers

/-!
# Inspecting the files of a book

`extractors/multiformat.py`: what one ebook shows of its edition. A file is copied to a stable
snapshot, inspected by its suffix, and copied again; the inspection stands only if both copies have
one SHA-256.

Archives, XML and PDF are read by libraries, so a parsed document is the input here: `EpubArchive`
is a package document with its spine, `PdfDocument` a document with its pages, `CbzArchive` an
archive with its `ComicInfo.xml`. Everything the extractor makes of these is below, the regular
expression for labelled ISBNs included.

## Main definitions

* `isbnContexts` — `ISBN_CONTEXT_RE.findall`
* `inspectEpub`, `inspectPdf`, `inspectCbz`, `inspectConverted`, `inspectFormat`
-/

namespace Bookwarden

/-! ### Labelled ISBNs -/

/-- A letter of the label, without regard to case; `I` and `S` have relatives outside ASCII. -/
def labelChar (letter : Char) (c : Char) : Bool :=
  c.toUpper = letter || (letter = 'I' && (c.toNat = 0x130 || c.toNat = 0x131))
    || (letter = 'S' && c.toNat = 0x17F)

/-- `[0-9Xx]`. -/
def isbnChar (c : Char) : Bool := c.isDigit || c = 'X' || c = 'x'

open Matcher in
/-- The label of `ISBN_CONTEXT_RE`: `ISBN(?:-1[03])?\s*[: ]\s*`. -/
def isbnLabel : Matcher Char :=
  andThen (char (labelChar 'I')) <| andThen (char (labelChar 'S')) <|
  andThen (char (labelChar 'B')) <| andThen (char (labelChar 'N')) <|
  andThen (optional (andThen (char (· = '-')) (andThen (char (· = '1'))
    (char fun c => c = '0' || c = '3')))) <|
  andThen (many isSpace) <| andThen (char fun c => c = ':' || c = ' ') (many isSpace)

open Matcher in
/-- The group of `ISBN_CONTEXT_RE`: `[0-9Xx][0-9Xx\s-]{8,20}[0-9Xx]`. -/
def isbnGroup : Matcher Char :=
  let inner : Char → Bool := fun c => isbnChar c || isSpace c || c = '-'
  andThen (char isbnChar) <| andThen (exactly inner 8) <| andThen (upTo inner 12) (char isbnChar)

/-- The first match at the start of the text: the group and the rest. -/
def matchIsbnContext (cs : List Char) : Option (List Char × List Char) :=
  (isbnLabel cs).findSome? fun afterLabel => (isbnGroup afterLabel).head?.map fun rest =>
    (afterLabel.take (afterLabel.length - rest.length), rest)

/-- `findall` on the characters; `fuel` bounds the scan by the length of the text. -/
def findIsbnContexts : ℕ → List Char → List String
  | 0, _ => []
  | _, [] => []
  | fuel + 1, c :: cs =>
    match matchIsbnContext (c :: cs) with
    | some (group, rest) => String.ofList group :: findIsbnContexts fuel rest
    | none => findIsbnContexts fuel cs

/-- `ISBN_CONTEXT_RE.findall`. -/
def isbnContexts (text : String) : List String :=
  findIsbnContexts (text.toList.length + 1) text.toList

/-- `_isbn_candidates_from_text`, also `_isbn_candidates`: the valid labelled ISBNs, as a set. -/
def isbnCandidates (text : String) : List String :=
  distinct ((isbnContexts text).filterMap validateIsbn)

example : isbnCandidates "Copyright. isbn-13: 978-0-306-40615-7, ISBN 12345" = ["9780306406157"] := by
  decide +kernel

/-! ### Inspections -/

/-- `ExtractedSnippet`. -/
structure ExtractedSnippet where
  source : String
  text : String
  locator : String
  pageRange : Option String := none
  deriving DecidableEq, Repr

/-- `FormatInspection`. -/
structure FormatInspection where
  formatEvidence : FormatEvidence
  evidence : List SourceEvidence := []
  snippets : List ExtractedSnippet := []
  metadata : Dict := []
  deriving DecidableEq, Repr

/-- An exception inside the extractor, by the handler that catches it. -/
inductive ExtractError
  /-- `subprocess.TimeoutExpired`. -/
  | timeout (text : String)
  /-- `subprocess.CalledProcessError`. -/
  | exitCode (code : ℤ)
  /-- The parser, Unicode, value, archive, key and operating system errors. -/
  | malformed (text name : String)
  /-- Any other exception leaves `inspect_format`. -/
  | escapes (text name : String)
  deriving DecidableEq, Repr

/-- `s[:n]`. -/
def takeChars (n : ℕ) (s : String) : String := String.ofList (s.toList.take n)

/-- `str(exc) or type(exc).__name__`. -/
def textOr (text name : String) : String := if text = "" then name else text

/-- The validator of `FormatEvidence.format`. -/
def canonicalFormat (py : Runtime) (s : String) : String := py.upper (strip s)

/-- `str(Path(p))`. -/
def pathText (p : String) : String :=
  let parts := pathParts p
  textOr (String.ofList (List.replicate parts.1 '/') ++ "/".intercalate parts.2) "."

/-- `_failed_inspection`. -/
def failedInspection (py : Runtime) (path sha256 : String) (status : FormatEvidenceStatus)
    (message : String) : FormatInspection where
  formatEvidence :=
    { path := pathText path
      format := canonicalFormat py (textOr (pathSuffix path) "UNKNOWN")
      sha256
      status
      error := some (takeChars 500 message) }

/-- The id of an item: the truncated hash of its key. -/
def evidenceIdOf (py : Runtime) (key : String) : String :=
  "ev_" ++ String.ofList ((py.sha256 key).toList.take 20)

/-- The character `\0`. -/
def nul : String := String.singleton (Char.ofNat 0)

/-- The root of the evidence of one file. -/
def formatRoot (sha256 : String) : String := "format:" ++ sha256

/-- `_evidence`. -/
def contentEvidence (py : Runtime) (sha256 field : String) (value : Json)
    (identifiers : Identifiers) (locator : String)
    (sourceKind : EvidenceSourceKind := .embeddedMetadata) : SourceEvidence where
  evidenceId := evidenceIdOf py (formatRoot sha256 ++ nul ++ field ++ nul ++ locator)
  rootId := formatRoot sha256
  independenceRoot := some "book_content"
  sourceKind
  field
  value
  manifestationIds := identifiers
  locator := some locator
  artifactSha256 := some sha256
  authoritative := true

/-- The identifier map of an optional ISBN. -/
def isbnMap : Option String → Identifiers
  | some isbn => [("isbn", isbn)]
  | none => []

/-! ### EPUB -/

/-- What reading a member of the archive gives. -/
inductive MemberRead
  /-- `KeyError`: the archive has no such member. -/
  | missing
  | raises (error : ExtractError)
  /-- The number of bytes, and the text without its tags, stripped. -/
  | text (size : ℕ) (text : String)
  deriving DecidableEq, Repr

/-- A parsed EPUB: its package document, and its spine with the text of each member. -/
structure EpubArchive where
  opfPath : String
  identifiers : List String := []
  title : Option String := none
  creators : List String := []
  languages : List String := []
  publisher : Option String := none
  date : Option String := none
  spine : List (String × MemberRead) := []
  deriving DecidableEq, Repr

/-- `part in text`. -/
def containsText (text part : String) : Bool := text.toList.tails.any (part.toList.isPrefixOf ·)

/-- `_source_for_path`. -/
def sourceForPath (py : Runtime) (path : String) (index : ℕ) : String :=
  let lowered := py.casefold path
  if containsText lowered "copyright" || containsText lowered "colophon" then "copyright_page"
  else if containsText lowered "title" || index = 0 then "title_page"
  else "body"

/-- Does the text carry one of the markers of an edition page? -/
def hasEditionMarker (lowered : String) : Bool :=
  ["copyright", "colophon", "published by"].any (containsText lowered ·)

/-- `MAX_TEXT_BYTES`. -/
def maxTextBytes : ℕ := 2 * 1024 * 1024

/-- What the loop over the spine has collected. -/
structure SpineScan where
  snippets : List ExtractedSnippet := []
  isbns : List String := []
  consumed : ℕ := 0
  deriving DecidableEq, Repr

/-- The loop over the spine. -/
def scanSpine (py : Runtime) : ℕ → List (String × MemberRead) → SpineScan →
    Except ExtractError SpineScan
  | _, [], scan => .ok scan
  | index, (path, read) :: spine, scan =>
    if maxTextBytes ≤ scan.consumed then .ok scan else
    match read with
    | .missing => scanSpine py (index + 1) spine scan
    | .raises error => .error error
    | .text size text =>
      let scan := { scan with consumed := scan.consumed + size }
      if text = "" then scanSpine py (index + 1) spine scan else
      let source := sourceForPath py path index
      let edition := source = "copyright_page"
        ∨ (index < 6 ∧ hasEditionMarker (py.casefold text) = true)
      scanSpine py (index + 1) spine
        { scan with
          snippets := scan.snippets ++ [⟨source, takeChars 100000 text, path, none⟩]
          isbns := if edition then distinct (scan.isbns ++ isbnCandidates text) else scan.isbns }

/-- The evidence of the fields that a document states, all at one place. -/
def statedEvidence (py : Runtime) (sha256 : String) (identifiers : Identifiers) (locator : String)
    (values : Dict) : List SourceEvidence :=
  (values.filter fun p => !isAbsent p.2).map fun p =>
    contentEvidence py sha256 p.1 p.2 identifiers locator

/-- The place of the ISBN found in the content: the first snippet that shows one. -/
def isbnLocator (isbns : List String) (snippets : List ExtractedSnippet) : String :=
  match snippets.find? fun s => isbns.any fun i => decide (i ∈ isbnCandidates s.text) with
  | some snippet => snippet.locator
  | none => "epub:front-matter"

/-- `content_identifiers`: the ISBN of the content, when there is exactly one. -/
def contentIdentifiers (isbns : List String) : Identifiers :=
  match isbns with
  | [isbn] => [("isbn", isbn)]
  | _ => []

namespace EpubArchive

variable (py : Runtime) (a : EpubArchive)

/-- `embedded_identifiers`. -/
def embeddedIdentifiers : Identifiers := isbnMap (a.identifiers.findSome? validateIsbn)

/-- `parsed_metadata`. -/
def parsedMetadata : Dict :=
  [("title", .optStr a.title), ("authors", .strs a.creators),
    ("identifiers", .strDict a.embeddedIdentifiers), ("languages", .strs (a.languages.map py.lower)),
    ("publisher", .optStr a.publisher), ("pubdate", .optStr a.date)]

end EpubArchive

/-- `_inspect_epub`. -/
def inspectEpub (py : Runtime) (path sha256 : String) (a : EpubArchive) :
    Except ExtractError FormatInspection := do
  let scan ← scanSpine py 0 a.spine {}
  let content := contentIdentifiers scan.isbns
  let evidence := statedEvidence py sha256 a.embeddedIdentifiers a.opfPath (a.parsedMetadata py)
    ++ if content = [] then [] else
      [contentEvidence py sha256 "identifiers" (.strDict content) content
        (isbnLocator scan.isbns scan.snippets) .contentNative]
  return {
    formatEvidence :=
      { path := pathText path
        format := "EPUB"
        sha256
        status := .readable
        identifiers := if content = [] then a.embeddedIdentifiers else content
        title := a.title
        authors := a.creators
        languages := a.languages.map py.lower
        evidenceIds := evidence.map (·.evidenceId) }
    evidence
    snippets := scan.snippets
    metadata := (a.parsedMetadata py).filter fun p => decide (p.2 ≠ .null) }

/-! ### PDF -/

/-- A parsed PDF: its information dictionary and the text of its pages. -/
structure PdfDocument where
  needsPass : Bool := false
  title : String := ""
  author : String := ""
  pages : List String := []
  deriving DecidableEq, Repr

/-- A stripped text, or nothing when it is empty. -/
def nonempty (s : String) : Option String := if strip s = "" then none else some (strip s)

/-- `_split_authors`. -/
def splitAuthors (value : Option String) : List String :=
  match value with
  | some s => ((split '&' (replaceChar ';' '&' s)).map strip).filter fun a => a ≠ ""
  | none => []

/-- What the loop over the pages has collected. -/
structure PageScan where
  snippets : List ExtractedSnippet := []
  /-- The first valid ISBN of an edition page, and its page. -/
  found : Option (String × String) := none
  consumed : ℕ := 0
  deriving DecidableEq, Repr

/-- The locator of a page. -/
def pageLocator (index : ℕ) : String := "page:" ++ toString (index + 1)

/-- The loop over the pages. -/
def scanPages (py : Runtime) : ℕ → List String → PageScan → PageScan
  | _, [], scan => scan
  | index, raw :: pages, scan =>
    if maxTextBytes ≤ scan.consumed then scan else
    let text := takeChars 100000 raw
    let lowered := py.casefold text
    let edition := index < 12 ∧ (hasEditionMarker lowered = true
      ∨ (index < 6 ∧ containsText lowered "edition" = true))
    let source := if index = 0 then "title_page" else "copyright_page"
    scanPages py (index + 1) pages
      { snippets := if index = 0 ∨ edition then
            scan.snippets ++ [⟨source, text, pageLocator index, some (toString (index + 1))⟩]
          else scan.snippets
        found := if scan.found = none ∧ edition then
            ((isbnContexts text).findSome? validateIsbn).map (·, pageLocator index)
          else scan.found
        consumed := scan.consumed + text.utf8ByteSize }

/-- `_inspect_pdf`. -/
def inspectPdf (py : Runtime) (path sha256 : String) (d : PdfDocument) : FormatInspection :=
  if d.needsPass then failedInspection py path sha256 .drm "PDF requires a password" else
  let scan := scanPages py 0 d.pages {}
  let title := nonempty d.title
  let authors := splitAuthors (nonempty d.author)
  let identifiers := isbnMap (scan.found.map (·.1))
  let evidence := statedEvidence py sha256 identifiers "pdf:document-info"
      [("title", .optStr title), ("authors", .strs authors)]
    ++ match scan.found with
      | some (_, locator) =>
        [contentEvidence py sha256 "identifiers" (.strDict identifiers) identifiers locator
          .contentNative]
      | none => []
  { formatEvidence :=
      { path := pathText path
        format := "PDF"
        sha256
        status := .readable
        identifiers
        title
        authors
        evidenceIds := evidence.map (·.evidenceId) }
    evidence
    snippets := scan.snippets
    metadata := [("title", .optStr title), ("authors", .strs authors),
      ("identifiers", .strDict identifiers), ("languages", .arr [])] }

/-! ### Comic archives -/

/-- `ComicInfo.xml`: the member's name and its fields. -/
structure ComicInfo where
  member : String
  title : Option String := none
  writer : Option String := none
  languageIso : Option String := none
  gtin : Option String := none
  isbn : Option String := none
  deriving DecidableEq, Repr

/-- A parsed comic archive. -/
structure CbzArchive where
  comicInfo : Option ComicInfo := none
  deriving DecidableEq, Repr

/-- `_inspect_cbz`. -/
def inspectCbz (py : Runtime) (path sha256 : String) (a : CbzArchive) : FormatInspection :=
  match a.comicInfo with
  | none =>
    { formatEvidence :=
        { path := pathText path
          format := "CBZ"
          sha256
          status := .readable
          error := some "ComicInfo.xml is absent; identity evidence is incomplete" } }
  | some info =>
    let authors := splitAuthors info.writer
    let identifiers := isbnMap ((info.gtin.or info.isbn).bind validateIsbn)
    let languages := (info.languageIso.map py.lower).toList
    let metadata : Dict := [("title", .optStr info.title), ("authors", .strs authors),
      ("languages", .strs languages), ("identifiers", .strDict identifiers)]
    let evidence := statedEvidence py sha256 identifiers info.member metadata
    { formatEvidence :=
        { path := pathText path
          format := "CBZ"
          sha256
          status := .readable
          identifiers
          title := info.title
          authors
          languages
          evidenceIds := evidence.map (·.evidenceId) }
      evidence
      metadata }

/-! ### The entry point -/

/-- What the libraries answer about one ebook. -/
structure EbookFile where
  /-- The SHA-256 of the stable copy; the text of the error otherwise. -/
  before : Except ExtractError String
  /-- The SHA-256 of the second copy. -/
  after : Except ExtractError String
  /-- The parsed documents, each the answer if the file is opened as one. -/
  epub : Except ExtractError EpubArchive := .error (.malformed "" "BadZipFile")
  pdf : Except ExtractError PdfDocument := .error (.escapes "" "FileDataError")
  cbz : Except ExtractError CbzArchive := .error (.malformed "" "BadZipFile")
  /-- Is a converter at hand? The parsed documents are then those of its output. -/
  converter : Bool := true

/-- The inspection by suffix, before errors are caught. -/
def inspectBySuffix (py : Runtime) (path suffix sha256 : String) (file : EbookFile) :
    Except ExtractError FormatInspection :=
  if suffix = "epub" then file.epub.bind (inspectEpub py path sha256)
  else if suffix = "pdf" then file.pdf.map (inspectPdf py path sha256)
  else if suffix = "cbz" then file.cbz.map (inspectCbz py path sha256)
  else if suffix ∈ ["mobi", "azw3", "cbr"] then
    if !file.converter then
      .ok (failedInspection py path sha256 .unsupported
        (py.upper suffix ++ " requires the ebook-convert capability"))
    else if suffix = "cbr" then file.cbz.map (inspectCbz py path sha256)
    else file.epub.bind (inspectEpub py path sha256)
  else
    let shown := if suffix = "" then "<none>" else "." ++ suffix
    .ok (failedInspection py path sha256 .unsupported ("format " ++ shown ++ " has no safe extractor"))

/-- The handlers around the inspection of the snapshot; the outer `Except` is what leaves them. -/
def caughtInspection (py : Runtime) (path suffix sha256 : String) (file : EbookFile) :
    Except (String × String) FormatInspection :=
  match inspectBySuffix py path suffix sha256 file with
  | .ok inspection => .ok inspection
  | .error (.timeout text) =>
    .ok (failedInspection py path sha256 .error ("conversion timed out: " ++ text))
  | .error (.exitCode code) =>
    .ok (failedInspection py path sha256 .error ("conversion failed: " ++ toString code))
  | .error (.malformed text name) =>
    .ok (failedInspection py path sha256 .corrupt (textOr text name))
  | .error (.escapes text name) => .error (text, name)

/-- The handlers around a copy of the source; `FileNotFoundError` has its own message. -/
def failedCopy (py : Runtime) (path : String) : ExtractError → Except (String × String) FormatInspection
  | .malformed text name =>
    let message := if name = "FileNotFoundError" then "ebook file does not exist" else textOr text name
    .ok (failedInspection py path (String.ofList (List.replicate 64 '0')) .error message)
  | .timeout text => .error (text, "TimeoutExpired")
  | .exitCode code => .error (toString code, "CalledProcessError")
  | .escapes text name => .error (text, name)

/-- `inspect_format`; an error is the text and the type of the exception that leaves it. -/
def inspectFormat (py : Runtime) (path : String) (file : EbookFile) :
    Except (String × String) FormatInspection :=
  match file.before with
  | .error error => failedCopy py path error
  | .ok before =>
    match caughtInspection py path (py.lower (pathSuffix path)) before file with
    | .error escaped => .error escaped
    | .ok result =>
      match file.after with
      | .error error => failedCopy py path error
      | .ok after =>
        if after ≠ before then
          .ok (failedInspection py path after .error "ebook changed during inspection")
        else .ok { result with
          formatEvidence := { result.formatEvidence with
            path := pathText path
            format := textOr (py.upper (pathSuffix path)) "UNKNOWN"
            sha256 := before } }

end Bookwarden
