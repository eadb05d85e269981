import Bookwarden.Isbn.Agreement
import Bookwarden.Lib.Ranking
import Bookwarden.Verification.Value

/-!
# Provider consensus

The scoring of external candidates of `providers/consensus_engine.py`. Candidates whose valid ISBN is
not the declared one are set aside, the others are scored against the declared title and author, and
the first of them by descending score is looked at: if the tripwire has fired on it nothing is
selected, else it is selected for review.

Scores are exact rational numbers. Rounding is to three decimals, half to even, of the exact number.

## Main definitions

* `FuzzyMatcher.ratio`, `FuzzyMatcher.tokenSetRatio`
* `SemanticTripwire.evaluate`
* `ConsensusEngine.scoreCandidate`, `ConsensusEngine.resolveConsensus`
-/

namespace Bookwarden.Consensus

/-- `IdentityTier`. -/
inductive IdentityTier
  | tierA
  | tierB
  | tierC
  deriving DecidableEq, Repr

/-- `ActionDecision`. -/
inductive ActionDecision
  | autoApply
  | enrichMissing
  | reviewRecommended
  | keepLocal
  | quarantinePoisonedIsbn
  deriving DecidableEq, Repr

/-- `ExternalCandidate`. -/
structure ExternalCandidate where
  provider : String
  providerId : String
  title : String
  authors : List String := []
  publisher : Option String := none
  publishedYear : Option ℤ := none
  isbn13 : Option String := none
  coverUrl : Option String := none
  isHdCover : Bool := false
  description : Option String := none
  tags : List String := []
  deriving DecidableEq, Repr

/-- `ScoreBreakdown`. -/
structure ScoreBreakdown where
  titleScore : ℚ := 0
  authorScore : ℚ := 0
  isbnScore : ℚ := 0
  publisherScore : ℚ := 0
  yearScore : ℚ := 0
  coverScore : ℚ := 0
  penalties : ℚ := 0
  finalScore : ℚ := 0
  tripwireTriggered : Bool := false
  reasons : List String := []
  deriving DecidableEq, Repr

/-- `ConsensusResult`. -/
structure ConsensusResult where
  bookId : String
  declaredTitle : String
  declaredAuthors : List String
  declaredIsbn : Option String
  bestCandidate : Option ExternalCandidate
  scores : ScoreBreakdown
  tier : IdentityTier
  action : ActionDecision
  quarantinedIdentifiers : List (String × String) := []
  deriving DecidableEq, Repr

variable (py : RuleRuntime)

/-! ### Similarity of texts -/

namespace FuzzyMatcher

/-- `normalize_str`. -/
def normalizeStr (s : String) : String :=
  let cs := (py.nfkd s).toList.filter fun c => !py.combining c
  let cs := cs.map fun c => if py.isWord c || isSpace c then c else ' '
  py.lower (strip (String.ofList (collapseSpaces cs)))

/-- The inner loop: the rest of a row from its last entry and the row above. -/
def levenshteinCells (ch1 : Char) : ℕ → List ℕ → List Char → List ℕ
  | left, above :: above' :: prev, ch2 :: c2 =>
    let cell := min (min (above' + 1) (left + 1)) (above + if ch1 = ch2 then 0 else 1)
    cell :: levenshteinCells ch1 cell (above' :: prev) c2
  | _, _, _ => []

/-- The outer loop over the longer text, which is at index `i`. -/
def levenshteinRows (c2 : List Char) : ℕ → List ℕ → List Char → List ℕ
  | _, prev, [] => prev
  | i, prev, ch1 :: c1 =>
    levenshteinRows c2 (i + 1) ((i + 1) :: levenshteinCells ch1 (i + 1) prev c2) c1

/-- `prev[-1]` after the loops. -/
def levenshtein (c1 c2 : List Char) : ℕ :=
  (levenshteinRows c2 0 (List.range (c2.length + 1)) c1).getLastD 0

/-- `ratio`. -/
def ratio (s1 s2 : String) : ℚ :=
  let c1 := (normalizeStr py s1).toList
  let c2 := (normalizeStr py s2).toList
  if c1 = [] ∧ c2 = [] then 1
  else if c1 = [] ∨ c2 = [] then 0
  else if c1 = c2 then 1
  else
    let longer := if c1.length < c2.length then c2 else c1
    let shorter := if c1.length < c2.length then c1 else c2
    max 0 (1 - (levenshtein longer shorter : ℚ) / (max longer.length shorter.length : ℕ))

/-- `token_set_ratio`. -/
def tokenSetRatio (s1 s2 : String) : ℚ :=
  let c1 := normalizeStr py s1
  let c2 := normalizeStr py s2
  let t1 := distinct (splitSpaces c1)
  let t2 := distinct (splitSpaces c2)
  if t1 = [] ∨ t2 = [] then 0
  else
    let inter := t1.filter fun t => t ∈ t2
    let d1 := t1.filter fun t => t ∉ inter
    let d2 := t2.filter fun t => t ∉ inter
    let sInter := " ".intercalate (sorted inter)
    let sD1 := strip (sInter ++ " " ++ " ".intercalate (sorted d1))
    let sD2 := strip (sInter ++ " " ++ " ".intercalate (sorted d2))
    let r1 := if sInter ≠ "" then ratio py sInter sD1 else 0
    let r2 := if sInter ≠ "" then ratio py sInter sD2 else 0
    let r3 := ratio py sD1 sD2
    max (max (max r1 r2) r3) (ratio py c1 c2)

/-- The larger of the two ratios, which tripwire and scores compare texts by. -/
def similarity (s1 s2 : String) : ℚ := max (ratio py s1 s2) (tokenSetRatio py s1 s2)

/-- The largest similarity to one of several names; there is one. -/
def bestSimilarity (s : String) (names : List String) : ℚ :=
  ((names.map (similarity py s)).max?).getD 0

end FuzzyMatcher

/-! ### The tripwire -/

namespace SemanticTripwire

/-- `author_sim`. -/
def authorSim (localAuthor : String) (candidateAuthors : List String) : ℚ :=
  if candidateAuthors ≠ [] ∧ localAuthor ≠ "" ∧ py.lower localAuthor ≠ "unknown" then
    FuzzyMatcher.bestSimilarity py localAuthor candidateAuthors
  else if localAuthor = "" ∨ py.lower localAuthor = "unknown" then 1 / 2
  else 0

/-- `evaluate`: whether the candidate passes, and why not. -/
def evaluate (localTitle localAuthor candidateTitle : String) (candidateAuthors : List String) :
    Bool × Option String :=
  let titleSim := FuzzyMatcher.similarity py localTitle candidateTitle
  let authorSim := authorSim py localAuthor candidateAuthors
  if titleSim < 40 / 100 ∧ authorSim < 35 / 100 then
    (false, some ("Poisoned ISBN detected: Local '" ++ localTitle ++ "' by '" ++ localAuthor ++ "' "
      ++ "conflicts with candidate '" ++ candidateTitle ++ "' by '"
      ++ ", ".intercalate candidateAuthors ++ "' "
      ++ "(title_sim=" ++ py.twoDecimals titleSim ++ ", author_sim="
      ++ py.twoDecimals authorSim ++ ")"))
  else (true, none)

end SemanticTripwire

/-! ### Scores and the decision -/

namespace ConsensusEngine

/-- `round(·, 3)`. -/
def round3 (q : ℚ) : ℚ := Double.roundHalfEven (q * 1000) / 1000

/-- `bool` of an optional text. -/
def hasText (s : Option String) : Bool := s.any fun s => s ≠ ""

/-- `isbn_score`. -/
def isbnScore (declaredIsbn candidateIsbn : Option String) : Except PyError ℚ :=
  if hasText declaredIsbn && hasText candidateIsbn then do
    let canLocal ← EntityCleanser.validateAndConvertIsbn py.toRuntime declaredIsbn
    let canCand ← EntityCleanser.validateAndConvertIsbn py.toRuntime candidateIsbn
    return if hasText canLocal && hasText canCand && canLocal == canCand then 1 else 0
  else .ok 0

/-- `author_score`. -/
def authorScore (declaredAuthor : String) (authors : List String) : ℚ :=
  if authors ≠ [] ∧ declaredAuthor ≠ "" then
    FuzzyMatcher.bestSimilarity py declaredAuthor authors
  else if declaredAuthor = "" then 1 / 2
  else 0

/-- `cover_score`. -/
def coverScore (candidate : ExternalCandidate) : ℚ :=
  if candidate.isHdCover then 1 else if hasText candidate.coverUrl then 1 / 2 else 0

/-- `final`: the weighted composite score. -/
def weighted (hasIsbn : Bool) (title author isbn cover penalties : ℚ) : ℚ :=
  if hasIsbn then
    35 / 100 * title + 25 / 100 * author + 25 / 100 * isbn + 15 / 100 * cover - penalties
  else 50 / 100 * title + 35 / 100 * author + 15 / 100 * cover - penalties

/-- `score_candidate`. -/
def scoreCandidate (declaredTitle declaredAuthor : String) (declaredIsbn : Option String)
    (candidate : ExternalCandidate) : Except PyError ScoreBreakdown :=
  match SemanticTripwire.evaluate py declaredTitle declaredAuthor candidate.title
      candidate.authors with
  | (false, tripwireReason) =>
    .ok {
      tripwireTriggered := true
      finalScore := 0
      reasons := [(tripwireReason.filter fun r => r ≠ "").getD "tripwire_failed"] }
  | (true, _) => do
    let titleScore := FuzzyMatcher.similarity py declaredTitle candidate.title
    let authorScore := authorScore py declaredAuthor candidate.authors
    let isbnScore ← isbnScore py declaredIsbn candidate.isbn13
    let coverScore := coverScore candidate
    let penalties := if authorScore < 25 / 100 ∧ declaredAuthor ≠ "" then 35 / 100 else 0
    let final := weighted (hasText declaredIsbn) titleScore authorScore isbnScore coverScore
      penalties
    return {
      titleScore := round3 titleScore
      authorScore := round3 authorScore
      isbnScore := round3 isbnScore
      coverScore := round3 coverScore
      penalties := round3 penalties
      finalScore := max 0 (min 1 (round3 final))
      tripwireTriggered := false }

/-- `local_isbn and candidate_isbn and candidate_isbn != local_isbn`. -/
def isbnConflict (localIsbn candidateIsbn : Option String) : Bool :=
  hasText localIsbn && hasText candidateIsbn && candidateIsbn != localIsbn

/-- The loop that sets the conflicting candidates aside: the eligible ones, and the ISBNs of the
others. -/
def splitEligible (localIsbn : Option String) :
    List ExternalCandidate → Except PyError (List ExternalCandidate × List String)
  | [] => .ok ([], [])
  | candidate :: candidates => do
    let candidateIsbn ← EntityCleanser.validateAndConvertIsbn py.toRuntime candidate.isbn13
    let (eligible, rejectedIsbns) ← splitEligible localIsbn candidates
    if isbnConflict localIsbn candidateIsbn then
      return (eligible, candidateIsbn.toList ++ rejectedIsbns)
    return (candidate :: eligible, rejectedIsbns)

/-- What is decided on the first of the ranking. -/
def decideOn (result : ConsensusResult) (best : ExternalCandidate × ScoreBreakdown) :
    ConsensusResult :=
  if best.2.tripwireTriggered then
    { result with
      scores := best.2
      quarantinedIdentifiers :=
        match best.1.isbn13 with
        | some isbn => if isbn = "" then [] else [("candidate_isbn", isbn)]
        | none => [] }
  else
    { result with
      bestCandidate := some best.1
      scores := best.2
      action := .reviewRecommended }

/-- The result that keeps the local metadata. -/
def keepLocal (bookId declaredTitle declaredAuthor : String) (declaredIsbn : Option String) :
    ConsensusResult :=
  { bookId := bookId
    declaredTitle := declaredTitle
    declaredAuthors := if declaredAuthor = "" then [] else [declaredAuthor]
    declaredIsbn := declaredIsbn
    bestCandidate := none
    scores := {}
    tier := .tierC
    action := .keepLocal }

/-- `resolve_consensus`. -/
def resolveConsensus (bookId declaredTitle declaredAuthor : String) (declaredIsbn : Option String)
    (candidates : List ExternalCandidate) : Except PyError ConsensusResult :=
  let nothing := keepLocal bookId declaredTitle declaredAuthor declaredIsbn
  if candidates = [] then .ok nothing
  else do
    let localIsbn ← EntityCleanser.validateAndConvertIsbn py.toRuntime declaredIsbn
    let (eligible, rejectedIsbns) ← splitEligible py localIsbn candidates
    if eligible = [] then
      return { nothing with
        scores := { reasons := ["candidate_rejected_valid_isbn_conflict"] }
        quarantinedIdentifiers := [("candidate_isbn", ",".intercalate rejectedIsbns)] }
    let scored ← eligible.mapM fun candidate =>
      (scoreCandidate py declaredTitle declaredAuthor declaredIsbn candidate).map
        fun scores => (candidate, scores)
    -- `eligible` is not empty, so the ranking has a first item
    match Ranking.best (fun item => item.2.finalScore) scored with
    | some best => return decideOn nothing best
    | none => return nothing

end ConsensusEngine

end Bookwarden.Consensus
