import Bookwarden.Verification.AuthorsRule
import Bookwarden.Verification.IsbnRule
import Bookwarden.Verification.TitleRule

/-!
# The other rules and their registry

The rules of `verification/rules.py` for publishers, dates, languages, series and numbers, and
`RULE_REGISTRY`. Most of them raise nothing; the numeric ones convert with `float` and `round`, which
do.

## Main definitions

* `verifyPublisher`, `verifyPublishedDate`, `verifyLanguage`, `verifySeries`, `verifySeriesIndex`
* `verifyVolume`, `verifyChapter`, `verifySeriesPosition`
* `RuleName`, `applyRule` — the registry
-/

namespace Bookwarden.Verification

variable (py : RuleRuntime)

/-! ### Texts -/

/-- What three of the rules do with a value that only one side has. -/
structure Presence where
  field : String
  /-- Where an observed value is found, and how sure one is of it. -/
  source : String
  confidence : ℕ
  /-- The reasons. -/
  nothing : String
  found : String
  absent : String

/-- The opening of a rule: both values are missing, one is, or they are compared. -/
def Presence.verify (p : Presence) (declared observed : Value) (pageRange : Option String)
    (compare : FieldVerdict) : FieldVerdict :=
  if declared.isNull && observed.isNull then
    { field := p.field, declaredValue := .null, verdict := .ambiguous, confidence := 0
      reason := p.nothing }
  else if declared.isNull && observed.truthy then
    { field := p.field, declaredValue := .null, observedValue := observed, verdict := .missing
      confidence := p.confidence
      evidence := [⟨p.source, observed.toStr py, pageRange, p.confidence⟩]
      reason := p.found ++ py.reprValue observed ++ "." }
  else if declared.truthy && observed.isNull then
    { field := p.field, declaredValue := declared, verdict := .ambiguous, confidence := 50
      reason := p.absent }
  else compare

/-- The end of `verify_publisher`. -/
def comparePublishers (declared observed : Value) (pageRange : Option String) : FieldVerdict :=
  let normDecl := normalizeText py declared
  let normObs := normalizeText py observed
  let ratio := fuzzyRatio normDecl normObs
  let verdict : FieldVerdict :=
    { field := "publisher", declaredValue := declared, observedValue := observed
      verdict := .ambiguous, confidence := 60
      reason := "Publisher similarity " ++ py.twoDecimals ratio ++ "; ambiguous." }
  if normDecl = normObs then
    { verdict with
      verdict := .confirmed, confidence := 99, reason := "Publisher matches exactly." }
  else if (6 / 10 : ℚ) ≤ ratio ∧
      (hasInfix normDecl.toList normObs.toList || hasInfix normObs.toList normDecl.toList) then
    { verdict with
      verdict := .confirmed, confidence := 85
      evidence := [⟨"copyright_page", observed.toStr py, pageRange, 85⟩]
      reason := "Publisher variant only (similarity " ++ py.twoDecimals ratio ++ ")." }
  else if ratio < 1 / 2 then
    { verdict with
      verdict := .mismatch, confidence := 85, riskFlags := ["publisher_mismatch"]
      reason := "Publisher mismatch (similarity " ++ py.twoDecimals ratio ++ ")."
      requiresReview := true }
  else verdict

/-- `verify_publisher`. -/
def verifyPublisher (declared observed : Value) (pageRange : Option String) : FieldVerdict :=
  Presence.verify py ⟨"publisher", "copyright_page", 80,
      "No publisher declared and none observed.", "Publisher found on copyright page: ",
      "Publisher declared but extraction found none."⟩
    declared observed pageRange (comparePublishers py declared observed pageRange)

/-- `_IS_DATE_RE.match(str(value).strip())`, the first group. -/
def dateYear (v : Value) : Option (List Char) :=
  let year := (strip (v.toStr py)).toList.take 4
  if year.length = 4 ∧ year.all (fun c => (py.decimal c).isSome) then some year else none

/-- `int` of decimal digits. -/
def yearNumber (year : List Char) : ℕ :=
  year.foldl (fun n c => 10 * n + (py.decimal c).getD 0) 0

/-- The end of `verify_published_date`. -/
def compareDates (declared observed : Value) : FieldVerdict :=
  let verdict : FieldVerdict :=
    { field := "published_date", declaredValue := declared, observedValue := observed
      verdict := .ambiguous, confidence := 40, reason := "Date parse failed." }
  match dateYear py declared, dateYear py observed with
  | some declYear, some obsYear =>
    if declYear ≠ obsYear then
      if ((yearNumber py declYear : ℤ) - yearNumber py obsYear).natAbs = 1 then
        { verdict with
          verdict := .confirmed, confidence := 80, reason := "Years off by one; acceptable." }
      else
        { verdict with
          verdict := .mismatch, confidence := 90
          reason := "Year mismatch: declared " ++ String.ofList declYear ++ ", observed " ++
            String.ofList obsYear ++ "."
          requiresReview := true }
    else { verdict with verdict := .confirmed, confidence := 90, reason := "Year matches." }
  | _, _ => verdict

/-- `verify_published_date`. -/
def verifyPublishedDate (declared observed : Value) (pageRange : Option String) : FieldVerdict :=
  Presence.verify py ⟨"published_date", "copyright_page", 85,
      "No date declared and none observed.", "Date found on copyright page: ",
      "Date declared but extraction found none."⟩
    declared observed pageRange (compareDates py declared observed)

/-- `str(value).strip().lower()`. -/
def languageText (v : Value) : String := py.lower (strip (v.toStr py))

/-- The end of `verify_language`. -/
def compareLanguages (declared observed : Value) : FieldVerdict :=
  let normDecl := languageText py declared
  let normObs := languageText py observed
  if normDecl = normObs then
    { field := "language", declaredValue := declared, observedValue := observed
      verdict := .confirmed, confidence := 99, reason := "Language matches." }
  else
    { field := "language", declaredValue := declared, observedValue := observed
      verdict := .mismatch, confidence := 90
      reason := "Language mismatch: declared " ++ normDecl ++ ", detected " ++ normObs ++ "." }

/-- `verify_language`. -/
def verifyLanguage (declared observed : Value) (pageRange : Option String) : FieldVerdict :=
  Presence.verify py ⟨"language", "body_sample", 90,
      "No language declared and none observed.", "Language detected: ",
      "Language declared but body sample too small."⟩
    declared observed pageRange (compareLanguages py declared observed)

/-- `verify_series`. -/
def verifySeries (declared observed : Value) (pageRange : Option String) (observedAny : Bool) :
    FieldVerdict :=
  let verdict : FieldVerdict :=
    { field := "series", declaredValue := declared, observedValue := observed
      verdict := .mismatch, confidence := 85, riskFlags := ["series_mismatch"]
      reason := "Series differs.", requiresReview := true }
  if declared.isNull && observed.isNull then
    if !observedAny then
      { field := "series", declaredValue := .null, verdict := .confirmed, confidence := 90
        reason := "No series declared; headers not sampled." }
    else
      { field := "series", declaredValue := .null, verdict := .confirmed, confidence := 95
        reason := "No series declared and none observed." }
  else if declared.isNull && observed.truthy then
    { field := "series", declaredValue := .null, observedValue := observed, verdict := .missing
      confidence := 85, evidence := [⟨"header", observed.toStr py, pageRange, 85⟩]
      reason := "Series header found: " ++ py.reprValue observed ++ "." }
  else if declared.truthy && observed.isNull then
    if !observedAny then
      { field := "series", declaredValue := declared, verdict := .ambiguous, confidence := 50
        reason := "Series declared but headers not sampled." }
    else
      { field := "series", declaredValue := declared, verdict := .mismatch, confidence := 80
        riskFlags := ["series_mismatch"]
        evidence := [⟨"header", "(no series header found)", pageRange, 80⟩]
        reason := "Series declared but no series header on running pages."
        requiresReview := true }
  else if normalizeText py declared = normalizeText py observed then
    { field := "series", declaredValue := declared, observedValue := observed
      verdict := .confirmed, confidence := 95, reason := "Series matches." }
  else verdict

/-! ### Numbers -/

/-- `float` of a number; `none` of another value. -/
def floatOfNumber : Value → Option (Except PyError Double)
  | .bool b => some (.ok (.finite (if b then 1 else 0)))
  | .int n => some (match Double.ofInt n.1 with
    | some x => .ok x
    | none => .error ⟨.other, "int too large to convert to float"⟩)
  | .float x => some (.ok x)
  | _ => none

/-- `float(value)`; `none` is the `TypeError` or `ValueError` that `verify_series_index` handles. -/
def floatOf (v : Value) : Except PyError (Option Double) :=
  match floatOfNumber v with
  | some x => x.map some
  | none =>
    match v with
    | .str s => .ok (py.parseDouble s)
    | _ => .ok none

/-- `_coerce_number`. -/
def coerceNumber (v : Value) : Except PyError (Option Double) :=
  if v.isNull then .ok none
  else
    match floatOfNumber v with
    | some x => x.map some
    | none =>
      let s := strip (v.toStr py)
      if s = "" then .ok none else .ok (py.parseDouble s)

/-- The float `0.01`. -/
def tolerance : ℚ := 5764607523034235 / 576460752303423488

example : Double.round (1 / 100) = .finite tolerance := by decide +kernel

/-- `abs(d - o) < 0.01`. -/
def isClose (d o : Double) : Bool := Double.lt (Double.abs (Double.sub d o)) (.finite tolerance)

/-- `verify_series_index`. -/
def verifySeriesIndex (declared observed : Value) (pageRange : Option String) :
    Except PyError FieldVerdict :=
  if declared.isNull && observed.isNull then
    .ok { field := "series_index", declaredValue := .null, verdict := .confirmed, confidence := 90
          reason := "No series_index declared and none observed." }
  else if declared.isNull then
    .ok { field := "series_index", declaredValue := .null, observedValue := observed
          verdict := .missing, confidence := 85
          evidence := [⟨"header", observed.toStr py, pageRange, 85⟩]
          reason := "Series index found in header: " ++ py.reprValue observed ++ "." }
  else if observed.isNull then
    .ok { field := "series_index", declaredValue := declared, verdict := .ambiguous
          confidence := 50, reason := "Series_index declared but not found in header sample." }
  else do
    let verdict : FieldVerdict :=
      { field := "series_index", declaredValue := declared, observedValue := observed
        verdict := .ambiguous, confidence := 40, reason := "Series index parse failed." }
    match ← floatOf py declared with
    | none => return verdict
    | some d =>
      match ← floatOf py observed with
      | none => return verdict
      | some o =>
        if isClose d o then
          return { verdict with
            verdict := .confirmed, confidence := 95, reason := "Series index matches." }
        return { verdict with
          verdict := .mismatch, confidence := 90
          reason := "Series index mismatch: declared " ++ py.doubleRepr d ++ ", observed " ++
            py.doubleRepr o ++ "." }

/-- What the rules for volume, chapter and position differ in. -/
structure NumericRule where
  field : String
  /-- The name in the reasons. -/
  label : String
  /-- What follows `matches` in the reason. -/
  tolerant : String
  /-- The comparison of two numbers, and how they are printed. -/
  compare : Double → Double → Except PyError (Bool × String × String)

/-- The rule for a number. -/
def NumericRule.verify (r : NumericRule) (declared observed : Value) (pageRange : Option String) :
    Except PyError FieldVerdict := do
  let d ← coerceNumber py declared
  let o ← coerceNumber py observed
  match d, o with
  | none, none =>
    return { field := r.field, declaredValue := declared, observedValue := observed
             verdict := .confirmed, confidence := 90
             reason := "No " ++ r.field ++ " declared and none observed." }
  | none, some _ =>
    return { field := r.field, declaredValue := .null, observedValue := observed
             verdict := .missing, confidence := 85
             evidence := [⟨"header", observed.toStr py, pageRange, 85⟩]
             reason := r.label ++ " found: " ++ py.reprValue observed ++ "." }
  | some _, none =>
    return { field := r.field, declaredValue := declared, verdict := .ambiguous, confidence := 50
             reason := r.label ++ " declared but not found in content sample." }
  | some d, some o =>
    let (same, declText, obsText) ← r.compare d o
    if same then
      return { field := r.field, declaredValue := declared, observedValue := observed
               verdict := .confirmed, confidence := 95
               reason := r.label ++ " matches" ++ r.tolerant ++ "." }
    return { field := r.field, declaredValue := declared, observedValue := observed
             verdict := .mismatch, confidence := 90
             reason := r.label ++ " mismatch: declared " ++ declText ++ ", observed " ++ obsText ++
               "." }

/-- `int(round(x))`. -/
def intRound (x : Double) : Except PyError ℤ :=
  match x, x.toInt with
  | _, some n => .ok n
  | .nan, none => .error ⟨.value, "cannot convert float NaN to integer"⟩
  | _, none => .error ⟨.other, "cannot convert float infinity to integer"⟩

/-- The comparison as whole numbers. -/
def compareRounded (d o : Double) : Except PyError (Bool × String × String) := do
  let m ← intRound d
  let n ← intRound o
  return (m = n, toString m, toString n)

/-- The comparison within the tolerance. -/
def compareClose (d o : Double) : Except PyError (Bool × String × String) :=
  .ok (isClose d o, py.doubleRepr d, py.doubleRepr o)

/-- `verify_volume`. -/
def verifyVolume : Value → Value → Option String → Except PyError FieldVerdict :=
  NumericRule.verify py ⟨"volume", "Volume", "", compareRounded⟩

/-- `verify_chapter`. -/
def verifyChapter : Value → Value → Option String → Except PyError FieldVerdict :=
  NumericRule.verify py ⟨"chapter", "Chapter", " (decimal)", compareClose py⟩

/-- `verify_series_position`. -/
def verifySeriesPosition : Value → Value → Option String → Except PyError FieldVerdict :=
  NumericRule.verify py ⟨"series_position", "Series position", "", compareClose py⟩

/-! ### The registry -/

/-- The keys of `RULE_REGISTRY`. -/
inductive RuleName
  | isbn
  | title
  | authors
  | publisher
  | publishedDate
  | language
  | series
  | seriesIndex
  | volume
  | chapter
  | seriesPosition
  deriving DecidableEq, Repr

/-- The key as it is written. -/
def RuleName.key : RuleName → String
  | isbn => "isbn"
  | title => "title"
  | authors => "authors"
  | publisher => "publisher"
  | publishedDate => "published_date"
  | language => "language"
  | series => "series"
  | seriesIndex => "series_index"
  | volume => "volume"
  | chapter => "chapter"
  | seriesPosition => "series_position"

/-- What the engine knows beside the two values. -/
structure RuleContext where
  pageRange : Option String
  /-- Headers were sampled. -/
  observedAny : Bool := true
  evidenceQuality : String := "high"
  /-- The iteration orders of the sets of declared and observed names. -/
  declOrder : SetOrder
  obsOrder : SetOrder

/-- The rule of the registry. -/
def applyRule (r : RuleName) (declared observed : Value) (ctx : RuleContext) :
    Except PyError FieldVerdict :=
  match r with
  | .isbn => verifyIsbn py declared observed ctx.pageRange
  | .title => .ok (verifyTitle py declared observed ctx.pageRange ctx.evidenceQuality)
  | .authors => verifyAuthors py ctx.declOrder ctx.obsOrder declared observed ctx.pageRange
      ctx.evidenceQuality
  | .publisher => .ok (verifyPublisher py declared observed ctx.pageRange)
  | .publishedDate => .ok (verifyPublishedDate py declared observed ctx.pageRange)
  | .language => .ok (verifyLanguage py declared observed ctx.pageRange)
  | .series => .ok (verifySeries py declared observed ctx.pageRange ctx.observedAny)
  | .seriesIndex => verifySeriesIndex py declared observed ctx.pageRange
  | .volume => verifyVolume py declared observed ctx.pageRange
  | .chapter => verifyChapter py declared observed ctx.pageRange
  | .seriesPosition => verifySeriesPosition py declared observed ctx.pageRange

end Bookwarden.Verification
