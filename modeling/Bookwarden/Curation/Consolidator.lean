import Mathlib.Data.List.Dedup
import Bookwarden.Isbn
import Bookwarden.Lib.Grouping
import Bookwarden.Lib.KeepFirst
import Bookwarden.Verification.Value

/-!
# Duplicate records

`DuplicateConsolidator` of `curation/duplicates.py`: records with the same normalized title and author
are one cluster, and so are records with the same cleaned ISBN; a second cluster of the same records
is dropped. The rows are those of the query, one for each book.

## Main definitions

* `normalizeStr`, `isValidIsbn`
* `findMultiFormatDuplicates`
-/

namespace Bookwarden.Curation.Consolidator

variable (py : RuleRuntime)

/-! ### Normal forms -/

/-- The words of `_ARTICLE_RE`. -/
def articles : List String :=
  ["the", "a", "an", "el", "la", "los", "las", "un", "una", "der", "die", "das"]

/-- One round of `_ARTICLE_RE` on lower case letters: an article and white space. -/
def dropArticle (cs : List Char) : Option (List Char) :=
  articles.findSome? fun article =>
    let rest := cs.drop article.toList.length
    if article.toList.isPrefixOf cs && (rest.head?).any isSpace then some (rest.dropWhile isSpace)
    else none

/-- `_ARTICLE_RE.sub("", ·)`, a round for each character at most. -/
def dropArticles : ℕ → List Char → List Char
  | 0, cs => cs
  | n + 1, cs =>
    match dropArticle cs with
    | some rest => dropArticles n rest
    | none => cs

/-- The normal form of a text of which some characters count. -/
def normalForm (counts : Char → Bool) (s : String) : String :=
  if s = "" then ""
  else
    let cleaned := strip (py.lower (String.ofList (s.toList.map fun c => if counts c then c else ' ')))
    let cleaned := stripChars (dropArticles cleaned.toList.length cleaned.toList)
    String.ofList (collapseSpaces cleaned)

/-- `[a-zA-Z0-9\s+#]`. -/
def isPlain (c : Char) : Bool := c.isAlphanum || isSpace c || c = '+' || c = '#'

/-- `_normalize_str`. -/
def normalizeStr (s : String) : String := normalForm py isPlain s

/-- `DUMMY_ISBNS`. -/
def dummyIsbns : List String :=
  ["1234567890", "0123456789", "9876543210", "0987654321", "1234567890123", "9781234567890",
    "9780000000000"]

/-- `re.sub(r"[^\dX]", "", isbn.upper())`. -/
def cleanedIsbn (isbn : String) : List Char :=
  (py.upper isbn).toList.filter fun c => (py.decimal c).isSome || c = 'X'

/-- `is_valid_isbn`. -/
def isValidIsbn (isbn : String) (strictChecksum : Bool) : Bool :=
  let clean := cleanedIsbn py isbn
  if clean.length ≠ 10 ∧ clean.length ≠ 13 then false
  else if clean.dedup.length ≤ 1 then false
  else if String.ofList clean ∈ dummyIsbns then false
  else if 'X' ∈ clean ∧ (clean.length ≠ 10 ∨ clean.getD 9 ' ' ≠ 'X') then false
  else if strictChecksum then
    if clean.length = 10 then isbn10ChecksumValid (String.ofList clean)
    else isbn13ChecksumValid (String.ofList clean)
  else true

/-! ### Clusters -/

/-- A row of the query. -/
structure BookRow where
  bookId : ℤ
  title : Option String
  authors : Option String
  formats : Option String
  isbn : Option String
  deriving DecidableEq, Repr

/-- `entry`. -/
structure Entry where
  bookId : ℤ
  title : String
  authors : String
  formats : List String
  isbn : Option String
  deriving DecidableEq, Repr

/-- The entry of a row. -/
def entryOf (r : BookRow) : Entry :=
  { bookId := r.bookId
    title := r.title.getD ""
    authors := r.authors.getD ""
    formats := (((split ',' (r.formats.getD "")).map strip).filter fun fmt => fmt ≠ "").map py.upper
    isbn := r.isbn }

/-- `(norm_t, norm_a)`, if neither is empty. -/
def titleKey (e : Entry) : Option (String × String) :=
  let normT := normalizeStr py e.title
  let normA := normalizeStr py e.authors
  if normT ≠ "" ∧ normA ≠ "" then some (normT, normA) else none

/-- `clean_isbn`, if it is valid. -/
def isbnKey (e : Entry) : Option String :=
  match e.isbn with
  | none => none
  | some isbn =>
    let clean := String.ofList (cleanedIsbn py isbn)
    if isbn ≠ "" ∧ isValidIsbn py clean false then some clean else none

/-- `DuplicateCluster`. -/
structure DuplicateCluster where
  clusterType : String
  confidence : ℚ
  primaryBookId : ℤ
  duplicateBookIds : List ℤ
  title : String
  author : String
  formatsByBook : List (ℤ × List String)
  recommendation : String
  details : List (String × String)
  deriving DecidableEq, Repr

/-- The books of a cluster. -/
def DuplicateCluster.bookIds (c : DuplicateCluster) : List ℤ := c.primaryBookId :: c.duplicateBookIds

/-- `tuple(sorted(e["book_id"] for e in entries))`. -/
def DuplicateCluster.bids (c : DuplicateCluster) : List ℤ := c.bookIds.insertionSort (· ≤ ·)

/-- `is_complementary`. -/
def isComplementary (formatsMap : List (ℤ × List String)) : Bool :=
  let allFormats := formatsMap.flatMap Prod.snd
  allFormats ≠ [] ∧ allFormats.Nodup

/-- The cluster of a group, if it has more than one entry. -/
def clusterOf (clusterType : String) (complementary other : ℚ) (details : List (String × String)) :
    List Entry → Option DuplicateCluster
  | primary :: duplicate :: duplicates =>
    let entries := primary :: duplicate :: duplicates
    let formatsMap := Assoc.update [] (entries.map fun e => (e.bookId, e.formats))
    some {
      clusterType := clusterType
      confidence := if isComplementary formatsMap then complementary else other
      primaryBookId := primary.bookId
      duplicateBookIds := (duplicate :: duplicates).map Entry.bookId
      title := primary.title
      author := primary.authors
      formatsByBook := formatsMap
      recommendation := if isComplementary formatsMap then "MERGE_FORMATS" else "INSPECT_MANUALLY"
      details := details }
  | _ => none

/-- The cluster of a group of a title and an author. -/
def titleCluster (group : (String × String) × List Entry) : Option DuplicateCluster :=
  clusterOf "multi_format_duplicate" (98 / 100) (85 / 100)
    [("norm_title", group.1.1), ("norm_author", group.1.2)] group.2

/-- The cluster of a group of an ISBN. -/
def isbnCluster (group : String × List Entry) : Option DuplicateCluster :=
  clusterOf "isbn_collision" (99 / 100) (88 / 100) [("isbn", group.1)] group.2

/-- The entries under their keys. -/
def keyed {κ : Type} (key : Entry → Option κ) (entries : List Entry) : List (κ × Entry) :=
  entries.filterMap fun e => (key e).map fun k => (k, e)

/-- `find_multi_format_duplicates`. The `handled_pairs` are the `bids` of the clusters there. -/
def findMultiFormatDuplicates (rows : List BookRow) : List DuplicateCluster :=
  let entries := rows.map (entryOf py)
  let titleAuthorGroups := Grouping.collect (keyed (titleKey py) entries)
  let isbnGroups := Grouping.collect (keyed (isbnKey py) entries)
  let clusters := KeepFirst.addAll DuplicateCluster.bids [] (titleAuthorGroups.filterMap titleCluster)
  KeepFirst.addAll DuplicateCluster.bids clusters (isbnGroups.filterMap isbnCluster)

end Bookwarden.Curation.Consolidator
