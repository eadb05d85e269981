import Mathlib.Data.Finset.Basic
import Bookwarden.Curation.DisjointSetUnion
import Bookwarden.Isbn.Agreement
import Bookwarden.Lib.Grouping
import Bookwarden.Verification.Value

/-!
# Duplicate clusters

`FRBRDeduplicationEngine` of `curation/series_topology.py`: books with the same canonical ISBN, or
with the same cleaned author and the same title, are united, and the sets of two and more are reported
with a type. The key of author and title is the text of a pair of strings, which is a literal for the
pair; here the pair is the key.

## Main definitions

* `EntityCleanser.cleanAuthorName`
* `completeFormatHashes`, `classify`
* `clusterDuplicates`

## Implementation notes

The authors and the formats of a cluster come out of sets, and are lists without repetition here.
The sorting name and the paths of a book are left out, which the engine does not read.
-/

namespace Bookwarden

variable (py : RuleRuntime)

namespace EntityCleanser

/-- The characters that the cleanser strips from both ends. -/
def isSyntaxNoise (c : Char) : Bool :=
  c ∈ [' ', '\t', '\n', '\r', ';', '/', ',', '\\', '\'', '"']

/-- `BOGUS_AUTHOR_PATTERNS`. -/
def bogusAuthorPatterns : Matcher Char :=
  let digits := Matcher.many1 fun c => (py.decimal c).isSome
  let spaces := Matcher.many1 isSpace
  (Matcher.oneOf [
    (wordOf py "calibre").andThen (Matcher.optional (wordOf py "-web")),
    wordOf py "unknown", wordOf py "desconocido", wordOf py "epublibre", wordOf py "editor",
    wordOf py "traductor",
    ((wordOf py "chapter").andThen spaces).andThen
      (Matcher.oneOf [wordOf py "one", wordOf py "two", wordOf py "three", digits]),
    ((((wordOf py "cap").andThen
      (Matcher.char fun c => py.ignoreCase 'í' c || py.ignoreCase 'i' c)).andThen
        (wordOf py "tulo")).andThen spaces).andThen
      (Matcher.oneOf [wordOf py "uno", wordOf py "dos", digits]),
    wordOf py "author", wordOf py "autor", wordOf py "none", wordOf py "n/a",
    Matcher.many1 (· = '?')]).andThen Matcher.atEnd

/-- `clean_author_name`. -/
def cleanAuthorName (rawAuthor : String) : Option String :=
  if rawAuthor = "" then none
  else
    let s := (rawAuthor.toList.dropWhile isSyntaxNoise).rdropWhile isSyntaxNoise
    let s := stripChars ((collapseSpaces s).rdropWhile fun c => c = ';' || c = '/')
    if s = [] ∨ (bogusAuthorPatterns py s).isEmpty = false then none else some (String.ofList s)

end EntityCleanser

namespace Curation

/-- `DuplicateType`. -/
inductive DuplicateType
  | clone
  | multiformat
  | edition
  | omnibus
  deriving DecidableEq, Repr

/-- `BookNode`. -/
structure BookNode where
  bookId : ℤ
  title : String
  cleanedTitle : String
  author : String
  isbn : Option String
  formats : List String
  fileHashes : List String := []
  deriving DecidableEq, Repr

/-- `DuplicateCluster`. -/
structure DuplicateCluster where
  clusterId : String
  clusterType : DuplicateType
  canonicalBookId : ℤ
  memberBookIds : List ℤ
  titles : List String
  authors : List String
  formats : List String
  confidence : ℚ
  recommendation : String
  deriving DecidableEq, Repr

/-! ### Format hashes -/

/-- `[0-9a-f]{64}`. -/
def isHexDigest (s : String) : Bool :=
  s.toList.length = 64 && s.toList.all fun c => c.isDigit || ('a' ≤ c && c ≤ 'f')

/-- One round of the loop over formats and digests; `none` is the return from the middle. -/
def addFormatHash (mapping : List (String × String)) (p : String × String) :
    Option (List (String × String)) :=
  let normalizedFormat := py.upper (strip p.1)
  let normalizedDigest := py.lower (strip p.2)
  if normalizedFormat = "" ∨ isHexDigest normalizedDigest = false ∨
      normalizedFormat ∈ Assoc.keys mapping then none
  else some (Assoc.set normalizedFormat normalizedDigest mapping)

/-- `_complete_format_hashes`. -/
def completeFormatHashes (book : BookNode) : Option (List (String × String)) :=
  if book.formats = [] ∨ book.formats.length ≠ book.fileHashes.length then none
  else (book.formats.zip book.fileHashes).foldlM (addFormatHash py) []

/-- `==` of two dictionaries. -/
def sameMapping (m m' : List (String × String)) : Bool :=
  m.length = m'.length && m.all fun p => Assoc.get? p.1 m' = some p.2

/-! ### Clusters -/

/-- `is_clone` of the member nodes. -/
def isClone (members : List BookNode) : Bool :=
  match members.map (completeFormatHashes py) with
  | [] => false
  | none :: _ => false
  | some first :: rest => rest.all fun mapping => mapping.any fun m => sameMapping m first

/-- The type of a cluster, its confidence and the recommendation. -/
def classify (members : List BookNode) : DuplicateType × ℚ × String :=
  let allFormats := members.flatMap BookNode.formats
  if isClone py members then
    (.clone, 1, "Review complete cryptographic hash evidence before any manual cleanup.")
  else if allFormats.Nodup ∧ members.length = 2 ∧ "EPUB" ∈ allFormats ∧ "PDF" ∈ allFormats then
    (.multiformat, 3 / 4,
      "Review complementary formats; title or ISBN evidence alone must not merge records.")
  else
    (.edition, 3 / 4,
      "Review edition variants; consider keeping if distinct translations or publishers.")

/-- The canonical book: the first with an EPUB, or the lowest id. -/
def canonicalId (memberIds : List ℤ) (members : List BookNode) : ℤ :=
  match members.find? fun m => "EPUB" ∈ m.formats with
  | some m => m.bookId
  | none => memberIds.min?.getD 0

/-- The cluster of a root. -/
def makeCluster (root : ℤ) (memberIds : List ℤ) (members : List BookNode) : DuplicateCluster :=
  let (clusterType, confidence, recommendation) := classify py members
  { clusterId := "cluster_" ++ toString root
    clusterType := clusterType
    canonicalBookId := canonicalId memberIds members
    memberBookIds := memberIds
    titles := members.map BookNode.title
    authors := distinct ((members.map BookNode.author).filter fun a => a ≠ "")
    formats := distinct (members.flatMap BookNode.formats)
    confidence := confidence
    recommendation := recommendation }

/-- What the first loop builds. -/
structure CandidateIndex where
  dsu : DisjointSetUnion ℤ := {}
  byIsbn : List (String × List ℤ) := []
  byCleanTitle : List ((String × String) × List ℤ) := []

/-- The key of author and title, of a book that has a title. -/
def titleKey (b : BookNode) : Option (String × String) :=
  if b.cleanedTitle = "" then none
  else some ((EntityCleanser.cleanAuthorName py b.author).getD "", py.lower b.cleanedTitle)

/-- File an id under a key, if there is one. -/
def fileUnder {κ : Type} [DecidableEq κ] (key : Option κ) (id : ℤ) (groups : List (κ × List ℤ)) :
    List (κ × List ℤ) :=
  match key with
  | some k => Grouping.push k id groups
  | none => groups

/-- One round of the first loop. -/
def indexBook (index : CandidateIndex) (b : BookNode) : Except PyError CandidateIndex := do
  let dsu := (index.dsu.find b.bookId).1
  let canIsbn ← EntityCleanser.validateAndConvertIsbn py.toRuntime b.isbn
  return {
    dsu := dsu
    byIsbn := fileUnder (canIsbn.filter fun isbn => isbn ≠ "") b.bookId index.byIsbn
    byCleanTitle := fileUnder (titleKey py b) b.bookId index.byCleanTitle }

/-- The first of a group with each of the others. -/
def starPairs : List ℤ → List (ℤ × ℤ)
  | [] => []
  | first :: others => others.map fun other => (first, other)

/-- The loop over the groups of a dictionary. -/
def unionGroups {κ : Type} (dsu : DisjointSetUnion ℤ) (groups : List (κ × List ℤ)) :
    DisjointSetUnion ℤ :=
  groups.foldl (fun dsu group => dsu.unionAll (starPairs group.2)) dsu

/-- One round of the loop that collects the members under their root. -/
def collectMember (state : DisjointSetUnion ℤ × List (ℤ × List ℤ)) (b : BookNode) :
    DisjointSetUnion ℤ × List (ℤ × List ℤ) :=
  let (dsu, root) := state.1.find b.bookId
  (dsu, Grouping.push root b.bookId state.2)

/-- One round of the last loop. Every member is a key of `by_id`. -/
def clusterOf (byId : List (ℤ × BookNode)) (entry : ℤ × List ℤ) : Option DuplicateCluster :=
  if entry.2.length ≤ 1 then none
  else some (makeCluster py entry.1 entry.2 (entry.2.filterMap fun id => Assoc.get? id byId))

/-- `cluster_duplicates`. -/
def clusterDuplicates (books : List BookNode) : Except PyError (List DuplicateCluster) := do
  let byId := Assoc.update [] (books.map fun b => (b.bookId, b))
  let index ← books.foldlM (indexBook py) {}
  let dsu := unionGroups (unionGroups index.dsu index.byIsbn) index.byCleanTitle
  let clustersMap := (books.foldl collectMember (dsu, [])).2
  return clustersMap.filterMap (clusterOf py byId)

end Curation

end Bookwarden
