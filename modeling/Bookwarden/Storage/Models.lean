import Bookwarden.Pipeline.Package

/-!
# Database rows

The rows of `storage/models.py` that the verifier and the writer share. A table is keyed by the
column that is unique in the schema, and a row does not repeat its key. Moments are microseconds;
the clocks of different processes are not assumed to agree.

Rows that only one of the two components touches stand with that component.

## Main definitions

* `BookRecord`, `StoredPackage` — one book, and one row of evidence
* `packageRow`, `bookFiles` — what a package leaves in those tables
-/

namespace Bookwarden

/-- A moment, in microseconds. -/
abbrev Moment := ℤ

/-- A `timedelta` of whole seconds. -/
def seconds (n : ℤ) : ℤ := n * 1000000

/-- `bool(value)` of an optional string column. -/
def present (value : Option String) : Bool :=
  match value with
  | some s => s ≠ ""
  | none => false

/-- A row of `BookRecord`, keyed by `book_key`. -/
structure BookRecord where
  runId : String
  calibreBookId : Option ℤ
  source : String := "calibre"
  files : List Json := []
  currentMetadata : Dict := []
  fieldLocks : Dict := []
  status : String := "scanned"
  deriving DecidableEq, Repr

/-- A row of `EvidencePackage`, keyed by `evidence_id`. `observations` is the JSON of a package. -/
structure StoredPackage where
  bookKey : String
  runId : String
  schemaVersion : ℤ := 1
  current : Dict := []
  extracted : Json := .obj []
  riskFlags : List String := []
  decision : Option Dict := none
  observations : Option Dict := none
  deriving DecidableEq, Repr

/-- The evidence row a store writes for a package. -/
def packageRow (package : EvidencePackageV2) : StoredPackage where
  bookKey := package.bookKey
  runId := package.runId
  schemaVersion := 2
  current := package.snapshot.currentMetadata
  extracted := package.identity.toJson
  riskFlags := package.identity.riskFlags
  observations := some package.dump

variable (py : Runtime)

/-- The name of the format of one file of a package: from its evidence, else from the reference. -/
def formatName (package : EvidencePackageV2) (path : String) : String :=
  match package.formats.reverse.find? fun item => item.path = path with
  | some item => py.upper item.format
  | none =>
    if package.snapshot.source.isSome then afterLast ':' path
    else if '.' ∈ path.toList then py.upper (afterLast '.' path)
    else "UNKNOWN"

/-- The `files` column written for a package. -/
def bookFiles (package : EvidencePackageV2) : List Json :=
  package.snapshot.files.map fun path =>
    .obj [("path", .str path), ("format", .str (formatName py package path))]

end Bookwarden
