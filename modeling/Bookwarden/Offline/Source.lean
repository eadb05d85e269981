import Bookwarden.Offline.Files
import Bookwarden.Pipeline.Frozen

/-!
# The offline source

`calibre/offline.py`: the inventory of a stopped Calibre library, taken from a private copy of
`metadata.db`, and the export of the files it lists. Everything is checked against what was frozen when
the inventory was taken.

SQLite is a parameter: `openSnapshot` is `_open_snapshot` followed by reading all tables. The queries of
`_load_inventory` are those on lists of rows. A column that should hold text holds a `Cell`; the other
columns hold what Python makes of them. `int` of a reference reads ASCII digits.

## Main definitions

* `OfflineCalibreSource.init` — the constructor
* `OfflineCalibreSource.assertUnchanged`, `OfflineCalibreSource.enterExport`,
  `OfflineCalibreSource.leaveExport`
* `OfflineCalibreSource.listBooks`, `OfflineCalibreSource.formatReferences`,
  `OfflineCalibreSource.formatFromReference`
-/

namespace Bookwarden

/-! ### The database -/

/-- The value of a column that should hold text. -/
inductive Cell
  | null
  | text (s : String)
  /-- A number or a blob, with the text SQLite makes of it. -/
  | other (shown : String)
  deriving DecidableEq, Repr

/-- The text that SQLite compares; `none` for NULL, which comes first. -/
def Cell.shown : Cell → Option String
  | .null => none
  | .text s => some s
  | .other shown => some shown

/-- A row of `books`. -/
structure BooksRow where
  id : ℤ
  title : Cell
  timestamp : Cell
  pubdate : Cell
  /-- `float(row["series_index"])`, `none` when that raises. -/
  seriesIndex : Option ℚ
  authorSort : Cell
  path : Cell
  uuid : Cell
  /-- `bool(row["has_cover"])`. -/
  hasCover : Bool
  lastModified : Cell
  deriving DecidableEq, Repr

/-- A row of `authors`, `publishers`, `series`, `tags` or `languages`. -/
structure NameRow where
  id : ℤ
  name : Cell
  deriving DecidableEq, Repr

/-- A row of a link table; only the links of languages have an `item_order`. -/
structure LinkRow where
  id : ℤ
  book : ℤ
  target : ℤ
  itemOrder : ℤ := 0
  deriving DecidableEq, Repr

/-- A row of `identifiers`. -/
structure IdentifierRow where
  id : ℤ
  book : ℤ
  type : Cell
  val : Cell
  deriving DecidableEq, Repr

/-- A row of `comments`. -/
structure CommentRow where
  id : ℤ
  book : ℤ
  text : Cell
  deriving DecidableEq, Repr

/-- A row of `data`. -/
structure DataRow where
  id : ℤ
  book : ℤ
  format : Cell
  name : Cell
  deriving DecidableEq, Repr

/-- A table with its link table. -/
structure LinkedTable where
  rows : List NameRow := []
  links : List LinkRow := []
  deriving DecidableEq, Repr

/-- A Calibre database. -/
structure CalibreDb where
  applicationId : ℤ
  userVersion : ℤ
  /-- The tables of `sqlite_schema`, with their columns. -/
  columns : List (String × List String)
  books : List BooksRow := []
  authors : LinkedTable := {}
  publishers : LinkedTable := {}
  series : LinkedTable := {}
  tags : LinkedTable := {}
  languages : LinkedTable := {}
  identifiers : List IdentifierRow := []
  comments : List CommentRow := []
  data : List DataRow := []
  deriving DecidableEq, Repr

/-- `ORDER BY` a number. -/
def orderBy {ρ : Type} (key : ρ → ℤ) (rows : List ρ) : List ρ :=
  rows.insertionSort fun a b => key a ≤ key b

/-- `ORDER BY` a number and then another. -/
def orderByTwo {ρ : Type} (key key' : ρ → ℤ) (rows : List ρ) : List ρ :=
  rows.insertionSort fun a b => key a < key b ∨ key a = key b ∧ key' a ≤ key' b

/-- The order of two texts, NULL first. -/
def textBefore : Option String → Option String → Bool
  | none, some _ => true
  | some a, some b => a < b
  | _, none => false

/-- `ORDER BY` a text and then a number. -/
def orderByText {ρ : Type} (key : ρ → Option String) (key' : ρ → ℤ) (rows : List ρ) : List ρ :=
  rows.insertionSort fun a b => textBefore (key a) (key b) ∨ key a = key b ∧ key' a ≤ key' b

/-- SQLite's `lower`: ASCII letters only. -/
def sqlLower (s : String) : String := String.ofList (s.toList.map Char.toLower)

/-- SQLite's `upper`: ASCII letters only. -/
def sqlUpper (s : String) : String := String.ofList (s.toList.map Char.toUpper)

/-- `SELECT x.name FROM link JOIN x ON x.id = link.x WHERE link.book = ? ORDER BY …`. -/
def LinkedTable.names (table : LinkedTable) (order : List LinkRow → List LinkRow) (bookId : ℤ) :
    List Cell :=
  (order (table.links.filter fun link => link.book = bookId)).flatMap fun link =>
    (table.rows.filter fun row => row.id = link.target).map (·.name)

/-- `ORDER BY link.id`. -/
def byLinkId : List LinkRow → List LinkRow := orderBy (·.id)

/-- `ORDER BY link.item_order, link.id`. -/
def byItemOrder : List LinkRow → List LinkRow := orderByTwo (·.itemOrder) (·.id)

/-! ### Checks of text -/

/-- `OfflineCalibreError`. -/
def Raised.offline (text : String) : Raised := .other text "OfflineCalibreError"

/-- `except OfflineCalibreError`, which catches its subclass as well. -/
def Raised.isOffline : Raised → Bool
  | .libraryChanged _ => true
  | .other _ name => name = "OfflineCalibreError"

/-- `_single_text`. -/
def singleText (value : Cell) (field : String) (allowEmpty : Bool) : Except Raised (Option String) :=
  match value with
  | .null => .ok none
  | .other _ => .error (.offline ("Calibre " ++ field ++ " contains invalid text"))
  | .text s =>
    if s.toList.any fun c => c.toNat < 32 then
      .error (.offline ("Calibre " ++ field ++ " contains invalid text"))
    else if s = "" ∧ allowEmpty = false then .error (.offline ("Calibre " ++ field ++ " is empty"))
    else .ok (some s)

/-- `_single_text(…, allow_empty=False) or ""`. -/
def requiredText (value : Cell) (field : String) : Except Raised String := do
  let text ← singleText value field false
  return text.getD ""

/-- The parts of a relative `PurePosixPath`. -/
def posixParts (s : String) : List String :=
  (split '/' s).filter fun part => part ≠ "" && part ≠ "."

/-- `as_posix` of a relative path. -/
def asPosix (parts : List String) : String := "/".intercalate parts

/-- `_safe_relative_path`: its parts. -/
def safeRelativePath (value : Cell) (field : String) : Except Raised (List String) := do
  match ← singleText value field false with
  | none => .error (.other "" "AssertionError")
  | some text =>
    if startsWith text "/" || (posixParts text).isEmpty || (posixParts text).contains ".."
        || text.toList.contains '\\' then
      .error (.offline ("Calibre " ++ field ++ " is not a safe relative path"))
    else .ok (posixParts text)

/-- `_FORMAT_RE.fullmatch`. -/
def isFormat (s : String) : Bool :=
  decide (1 ≤ s.toList.length ∧ s.toList.length ≤ 16) &&
    s.toList.all fun c => ('A' ≤ c && c ≤ 'Z') || ('0' ≤ c && c ≤ '9')

/-! ### Schema -/

/-- `CALIBRE_APPLICATION_ID`. -/
def calibreApplicationId : ℤ := 0x63616C69

/-- `SUPPORTED_SCHEMA_MARKERS`. -/
def supportedSchemaMarkers : List (ℤ × ℤ) := [(25, 0), (26, 0), (27, calibreApplicationId)]

/-- `_REQUIRED_COLUMNS`. -/
def requiredColumns : List (String × List String) := [
  ("books", ["id", "title", "timestamp", "pubdate", "series_index", "author_sort", "path", "uuid",
    "has_cover", "last_modified"]),
  ("authors", ["id", "name"]),
  ("books_authors_link", ["id", "book", "author"]),
  ("publishers", ["id", "name"]),
  ("books_publishers_link", ["book", "publisher"]),
  ("series", ["id", "name"]),
  ("books_series_link", ["book", "series"]),
  ("tags", ["id", "name"]),
  ("books_tags_link", ["id", "book", "tag"]),
  ("languages", ["id", "lang_code"]),
  ("books_languages_link", ["id", "book", "lang_code", "item_order"]),
  ("identifiers", ["id", "book", "type", "val"]),
  ("comments", ["book", "text"]),
  ("data", ["id", "book", "format", "uncompressed_size", "name"])]

/-- One table of `_validate_schema`: its entry in the signature. -/
def checkTable (db : CalibreDb) (required : String × List String) :
    Except Raised (String × Json) :=
  let columns := (Assoc.get? required.1 db.columns).getD []
  if required.2.all fun column => column ∈ columns then
    .ok (required.1, .strs (sorted (distinct columns)))
  else .error (.offline ("Calibre metadata table " ++ required.1 ++ " is missing required columns"))

/-- `_validate_schema`: the signature. -/
def validateSchema (py : Runtime) (db : CalibreDb) : Except Raised String :=
  if (supportedSchemaMarkers.map Prod.fst).contains db.userVersion = false then
    .error (.offline ("unsupported Calibre schema version " ++ toString db.userVersion
      ++ "; supported versions are 25, 26, 27"))
  else if supportedSchemaMarkers.contains (db.userVersion, db.applicationId) = false then
    .error (.offline ("Calibre schema version " ++ toString db.userVersion
      ++ " has an unexpected application id"))
  else if (requiredColumns.all fun required => (Assoc.get? required.1 db.columns).isSome) = false then
    .error (.offline "Calibre metadata schema is missing required tables")
  else do
    let signature ← requiredColumns.mapM (checkTable db)
    return hashJson py (.obj signature)

/-! ### Frozen files -/

/-- `_FrozenFile`. -/
structure FrozenFile where
  relativePath : String
  format : String
  size : ℕ
  device : ℕ
  inode : ℕ
  mtimeNs : ℕ
  ctimeNs : ℕ
  sha256 : String
  deriving DecidableEq, Repr

/-- `manifest`. -/
def FrozenFile.manifest (f : FrozenFile) : Json :=
  .obj [("relative_path", .str f.relativePath), ("format", .str f.format), ("size", .int f.size),
    ("device", .int f.device), ("inode", .int f.inode), ("mtime_ns", .int f.mtimeNs),
    ("ctime_ns", .int f.ctimeNs), ("sha256", .str f.sha256)]

/-- The identity that the file had. -/
def FrozenFile.identity (f : FrozenFile) : FileIdentity where
  file := ⟨f.device, f.inode⟩
  size := f.size
  mtimeNs := f.mtimeNs
  ctimeNs := f.ctimeNs

/-- `MAX_METADATA_DB_BYTES`. -/
def maxMetadataDbBytes : ℕ := 4 * 1024 * 1024 * 1024

/-- `MAX_EBOOK_BYTES`. -/
def maxEbookBytes : ℕ := 2 * 1024 * 1024 * 1024

/-- `_SIDECARS`. -/
def sidecars : List String := ["metadata.db-wal", "metadata.db-shm", "metadata.db-journal"]

/-- The path of `metadata.db`. -/
def metadataDb : List String := ["metadata.db"]

namespace Mount

variable (mount : Mount)

/-- `any(_sidecar_exists(…) for name in names)`. -/
def anySidecar : List String → Offline Bool
  | [] => pure false
  | name :: names => do
    if ← mount.lstat [name] then return true
    anySidecar names

/-- `_reject_sidecars`. -/
def rejectSidecars : Offline Unit := do
  let present ← mount.anySidecar sidecars
  Offline.refuse present
    (.offline "Calibre SQLite sidecar state is present; the library is not offline")

/-- `_describe_file`. -/
def describeFile (relativePath canonicalFormat : String) : Offline FrozenFile :=
  Offline.rethrow Raised.isFileError (.offline "Calibre format path is unsafe or unreadable") (do
    let descriptor ← mount.openFileBeneath (posixParts relativePath) maxEbookBytes
    let before ← mount.fstat descriptor
    let payload ← mount.readAll descriptor none (.securePath "")
    let after ← mount.fstat descriptor
    return (before, payload, after)) >>= fun (before, payload, after) => do
  Offline.refuse (before ≠ after) (.offline "Calibre format changed during inventory")
  return {
    relativePath
    format := canonicalFormat
    size := before.size
    device := before.file.device
    inode := before.file.inode
    mtimeNs := before.mtimeNs
    ctimeNs := before.ctimeNs
    sha256 := mount.sha256 payload }

/-- `_assert_file`. -/
def assertFile (frozen : FrozenFile) : Offline Unit := do
  let current ← Offline.rethrow Raised.isOffline
    (.libraryChanged "Calibre format is no longer safely readable")
    (mount.describeFile frozen.relativePath frozen.format)
  Offline.refuse (current ≠ frozen) (.libraryChanged "Calibre format changed after inventory")

end Mount

/-! ### The inventory -/

/-- A book of `_metadata` and `_formats`. -/
structure FrozenBook where
  bookId : ℤ
  metadata : Dict
  formats : List FrozenFile
  deriving DecidableEq, Repr

section Inventory

variable (py : Runtime) (mount : Mount) (libraryPath : String) (db : CalibreDb)

/-- `str(self.library_path.joinpath(*parts))`. -/
def beneath (parts : List String) : String := joinPath libraryPath (asPosix parts)

/-- `SELECT format, name FROM data WHERE book = ? ORDER BY upper(format), id`. -/
def CalibreDb.dataOf (bookId : ℤ) : List DataRow :=
  orderByText (fun row => row.format.shown.map sqlUpper) (·.id)
    (db.data.filter fun row => row.book = bookId)

/-- `SELECT type, val FROM identifiers WHERE book = ? ORDER BY lower(type), id`. -/
def CalibreDb.identifiersOf (bookId : ℤ) : List IdentifierRow :=
  orderByText (fun row => row.type.shown.map sqlLower) (·.id)
    (db.identifiers.filter fun row => row.book = bookId)

/-- `SELECT text AS name FROM comments WHERE book = ? ORDER BY id`. -/
def CalibreDb.commentsOf (bookId : ℤ) : List Cell :=
  (orderBy CommentRow.id (db.comments.filter fun row => row.book = bookId)).map (·.text)

/-- The checks of a row of `data`: its format and its path. -/
def formatPath (bookPath : List String) (row : DataRow) : Except Raised (String × String) := do
  let format ← requiredText row.format "format"
  let name ← requiredText row.name "format filename"
  let canonical := py.upper format
  if isFormat canonical = false || name.toList.contains '/' || name.toList.contains '\\'
      || name = "." || name = ".." then
    .error (.offline "Calibre metadata contains an unsafe format filename")
  else .ok (canonical, asPosix (bookPath ++ [name ++ "." ++ py.lower canonical]))

/-- The loop of `_load_formats`; `seen` are the formats so far. -/
def loadFormats (bookPath : List String) : List String → List DataRow → Offline (List FrozenFile)
  | _, [] => pure []
  | seen, row :: rows => do
    let (canonical, relative) ← Offline.lift (formatPath py bookPath row)
    Offline.refuse (canonical ∈ seen) (.offline "Calibre metadata contains duplicate book formats")
    let frozen ← mount.describeFile relative canonical
    let rest ← loadFormats bookPath (canonical :: seen) rows
    return frozen :: rest

/-- The loop over the identifiers of a book. -/
def loadIdentifiers : List (String × String) → List IdentifierRow →
    Except Raised (List (String × String))
  | identifiers, [] => .ok identifiers
  | identifiers, row :: rows => do
    let type ← requiredText row.type "identifier type"
    let value ← requiredText row.val "identifier value"
    let kind := py.lower type
    if (Assoc.get? kind identifiers).isSome then
      .error (.offline "Calibre metadata contains duplicate identifier types")
    else loadIdentifiers (identifiers ++ [(kind, value)]) rows

/-- `_many_names`, on the selected column. -/
def manyNames (field : String) (cells : List Cell) : Except Raised (List String) :=
  cells.mapM fun cell => requiredText cell field

/-- `_one_name`, on the selected column. -/
def oneName (field : String) : List Cell → Except Raised (Option String)
  | [] => .ok none
  | [cell] => singleText cell field false
  | _ => .error (.offline ("Calibre metadata contains multiple " ++ field ++ " values"))

/-- `float(row["series_index"])`. -/
def floatOf : Option ℚ → Except Raised ℚ
  | some q => .ok q
  | none => .error (.other "" "TypeError")

/-- The metadata of a row of `books`, once its path, its files and its identifiers are known. -/
def bookMetadata (row : BooksRow) (bookPath : List String) (formats : List FrozenFile)
    (identifiers : List (String × String)) : Except Raised Dict := do
  let title ← singleText row.title "title" false
  let authors ← manyNames "author" (db.authors.names byLinkId row.id)
  let authorSort ← singleText row.authorSort "author sort" true
  let publisher ← oneName "publisher" (db.publishers.names byLinkId row.id)
  let pubdate ← singleText row.pubdate "publication date" true
  let series ← oneName "series" (db.series.names byLinkId row.id)
  let seriesIndex ← floatOf row.seriesIndex
  let languages ← manyNames "language" (db.languages.names byItemOrder row.id)
  let tags ← manyNames "tag" (db.tags.names byLinkId row.id)
  let comments ← oneName "comment" (db.commentsOf row.id)
  let timestamp ← singleText row.timestamp "timestamp" true
  let uuid ← singleText row.uuid "uuid" true
  let lastModified ← singleText row.lastModified "last modified" true
  return [
    ("id", .int row.id),
    ("title", .optStr title),
    ("authors", .strs authors),
    ("author_sort", .optStr authorSort),
    ("publisher", .optStr publisher),
    ("pubdate", .optStr pubdate),
    ("series", .optStr series),
    ("series_index", .float seriesIndex),
    ("identifiers", .strDict identifiers),
    ("languages", .strs languages),
    ("tags", .strs tags),
    ("comments", .optStr comments),
    ("formats", .strs (formats.map fun f => beneath libraryPath (posixParts f.relativePath))),
    ("cover", .optStr (if row.hasCover then some (beneath libraryPath (bookPath ++ ["cover.jpg"]))
      else none)),
    ("timestamp", .optStr timestamp),
    ("uuid", .optStr uuid),
    ("last_modified", .optStr lastModified)]

/-- One pass of the loop of `_load_inventory`. -/
def loadBook (known : List FrozenBook) (row : BooksRow) : Offline FrozenBook := do
  Offline.refuse (row.id ≤ 0 ∨ row.id ∈ known.map (·.bookId))
    (.offline "Calibre metadata contains an invalid or duplicate book id")
  let bookPath ← Offline.lift (safeRelativePath row.path "book path")
  let formats ← loadFormats py mount bookPath [] (db.dataOf row.id)
  let identifiers ← Offline.lift (loadIdentifiers py [] (db.identifiersOf row.id))
  let metadata ← Offline.lift (bookMetadata libraryPath db row bookPath formats identifiers)
  return ⟨row.id, metadata, formats⟩

/-- The loop over the rows of `books`. -/
def loadRows : List FrozenBook → List BooksRow → Offline (List FrozenBook)
  | known, [] => pure known
  | known, row :: rows => do
    let book ← loadBook py mount libraryPath db known row
    loadRows (known ++ [book]) rows

/-- `_load_inventory`. -/
def loadInventory : Offline (List FrozenBook) :=
  loadRows py mount libraryPath db [] (orderBy (·.id) db.books)

end Inventory

/-! ### The source -/

/-- `OfflineCalibreSource`, once its constructor has returned. -/
structure OfflineCalibreSource where
  libraryPath : String
  /-- `_metadata` and `_formats`. -/
  books : List FrozenBook
  metadataSha256 : String
  schemaSignature : String
  applicationId : ℤ
  schemaVersion : ℤ
  fingerprint : String
  deriving DecidableEq, Repr

/-- `_book_manifest`. -/
def bookManifest (books : List FrozenBook) : Json :=
  .arr ((orderBy FrozenBook.bookId books).map fun book =>
    .obj [("book_id", .int book.bookId), ("formats", .arr (book.formats.map (·.manifest)))])

namespace OfflineCalibreSource

/-- `_formats.items()`, or the formats of one book. -/
def selected (source : OfflineCalibreSource) : Option ℤ → List FrozenFile
  | none => source.books.flatMap (·.formats)
  | some bookId => (source.books.filter fun book => book.bookId = bookId).flatMap (·.formats)

/-- `assert_unchanged`. -/
def assertUnchanged (mount : Mount) (source : OfflineCalibreSource) (bookId : Option ℤ) :
    Offline Unit := do
  Offline.rethrow Raised.isOffline
    (.libraryChanged "Calibre SQLite sidecar state appeared after inventory") mount.rejectSidecars
  let currentMetadata ← Offline.rethrow Raised.isFileError
    (.libraryChanged "Calibre metadata is no longer safely readable")
    (mount.sha256FileBeneath metadataDb maxMetadataDbBytes)
  Offline.refuse (currentMetadata ≠ source.metadataSha256)
    (.libraryChanged "Calibre metadata changed after inventory")
  (source.selected bookId).forM mount.assertFile

/-- `OfflineCalibreSource.__init__`, with Calibre confirmed to be stopped. -/
def init (py : Runtime) (mount : Mount) (openSnapshot : List UInt8 → Except Raised CalibreDb)
    (libraryPath : String) : Offline OfflineCalibreSource := do
  mount.rejectSidecars
  let (snapshot, metadataSha256) ← Offline.rethrow Raised.isFileError
    (.offline "offline Calibre source is unsafe or unreadable")
    (mount.copyFileBeneath metadataDb maxMetadataDbBytes none)
  mount.rejectSidecars
  let db ← Offline.lift (openSnapshot snapshot)
  let schemaSignature ← Offline.lift (validateSchema py db)
  let books ← loadInventory py mount libraryPath db
  let source : OfflineCalibreSource := {
    libraryPath
    books
    metadataSha256
    schemaSignature
    applicationId := db.applicationId
    schemaVersion := db.userVersion
    fingerprint := hashJson py (.obj [
      ("kind", .str "offline_calibre_snapshot"),
      ("library_root_sha256", .str (mount.sha256 (libraryPath.toList.flatMap String.utf8EncodeChar))),
      ("metadata_sha256", .str metadataSha256),
      ("schema_version", .int db.userVersion),
      ("schema_signature", .str schemaSignature),
      ("books", bookManifest books)]) }
  source.assertUnchanged mount none
  return source

/-- `list_books`. -/
def listBooks (source : OfflineCalibreSource) : List Dict :=
  (orderBy FrozenBook.bookId source.books).map (·.metadata)

/-- The book of `_metadata` and `_formats` with this id. -/
def book? (source : OfflineCalibreSource) (bookId : ℤ) : Option FrozenBook :=
  source.books.find? fun book => book.bookId = bookId

/-- `show_metadata`. -/
def showMetadata (source : OfflineCalibreSource) (bookId : ℤ) : Except Raised Dict :=
  match source.book? bookId with
  | some book => .ok book.metadata
  | none => .error (.offline "Calibre book is outside the frozen inventory")

/-- The formats of `_formats.get(book_id, ())`. -/
def formatsOf (source : OfflineCalibreSource) (bookId : ℤ) : List FrozenFile :=
  ((source.book? bookId).map (·.formats)).getD []

/-- The prefix of the references. -/
def referencePrefix (source : OfflineCalibreSource) : String :=
  "calibre-offline:" ++ source.fingerprint ++ ":"

/-- `format_references`. -/
def formatReferences (source : OfflineCalibreSource) (bookId : ℤ) (rawFormats : Json) :
    Except Raised (List String) := do
  let metadata ← source.showMetadata bookId
  if rawFormats.pyEq (Dict.get metadata "formats") then
    return (source.formatsOf bookId).map fun f =>
      source.referencePrefix ++ toString bookId ++ ":" ++ f.format
  else .error (.libraryChanged "Calibre format membership no longer matches the frozen inventory")

/-- `isdigit`, of ASCII text. -/
def isDigits (cs : List Char) : Bool := !cs.isEmpty && cs.all Char.isDigit

/-- `format_from_reference`. -/
def formatFromReference (source : OfflineCalibreSource) (reference : String) :
    Except Raised String :=
  let invalid : Raised := .other "offline Calibre format reference is invalid" "ValueError"
  if startsWith reference source.referencePrefix = false then .error invalid else
  let remainder := (removePrefix reference source.referencePrefix).toList
  let bookIdText := remainder.takeWhile (· ≠ ':')
  -- without a separator, what `partition` leaves is empty, and no format
  let canonical := String.ofList (remainder.drop (bookIdText.length + 1))
  if isDigits bookIdText = false || isFormat canonical = false then .error invalid else
  if ((source.formatsOf (Nat.ofDigitChars 10 bookIdText 0)).map (·.format)).contains canonical then
    .ok canonical
  else .error (.other "offline Calibre format reference is outside the frozen inventory" "ValueError")

/-- `export_format` after its `yield`. -/
def leaveExport (mount : Mount) (frozen : FrozenFile) : Offline Unit := mount.assertFile frozen

end OfflineCalibreSource

end Bookwarden
