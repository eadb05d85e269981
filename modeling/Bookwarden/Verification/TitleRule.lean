import Bookwarden.Verification.Text
import Bookwarden.Verification.Verdict

/-!
# The title rule

`verify_title` of `verification/rules.py`. It looks for noise on the declared title before it compares
the two: five detectors, each of which takes the observed title to be the clean form.

## Main definitions

* `titleNoise` — the detectors
* `verifyTitle`
-/

namespace Bookwarden.Verification

variable (py : RuleRuntime)

/-- `s.split(sep)[0]`. -/
def beforeInfix (sep : List Char) : List Char → List Char
  | [] => []
  | c :: cs => if sep.isPrefixOf (c :: cs) then [] else c :: beforeInfix sep cs

/-- `s.rstrip("!?.,;:*")`. -/
def rstripPunctuation (s : String) : String :=
  String.ofList (s.toList.rdropWhile fun c => c ∈ ['!', '?', '.', ',', ';', ':', '*'])

/-! ### Noise on a declared title -/

/-- Scraper junk or a file extension. -/
def hasJunk (raw normObs : String) : Bool :=
  let cleaned := cleanTitle py raw
  cleaned ≠ "" && cleaned ≠ raw && normalizeString py cleaned = normObs

/-- Trailing punctuation. -/
def hasTrailingPunctuation (raw normObs : String) : Bool :=
  let stripped := rstripPunctuation raw
  stripped ≠ "" && normalizeString py stripped = normObs && stripped ≠ raw

/-- `Title by Author`. -/
def hasByAuthor (raw normObs : String) : Bool :=
  hasInfix [' ', 'b', 'y', ' '] (py.lower raw).toList &&
    normObs = strip (String.ofList
      (beforeInfix [' ', 'b', 'y', ' '] (normalizeString py raw).toList))

/-- The shape of a file name. -/
def looksFilenameDerived (raw normObs : String) : Bool :=
  ((py.lower raw).toList.contains '_' ||
      [".epub", ".pdf", ".mobi"].any fun ext => endsWithLower py.toRuntime raw ext) &&
    (normalizeString py raw ≠ "" && normObs ≠ "" &&
      (1 / 2 : ℚ) ≤ fuzzyRatio (normalizeString py raw) normObs)

/-- The noise that is found first: a confidence, the evidence and the reason. -/
def titleNoise (declared observed : Value) (pageRange : Option String) :
    Option (ℕ × List EvidenceSpan × String) :=
  let normObs := normalizeText py observed
  let raw := strip (declared.toStr py)
  if hasJunk py raw normObs then
    some (95, [⟨"title_page", observed.toStr py, pageRange, 95⟩],
      "Declared title contains scraper/extension junk; canonical title is " ++
        py.reprValue (.str (cleanTitle py raw)) ++ ".")
  else if hasTrailingPunctuation py raw normObs then
    some (80, [], "Trailing punctuation noise on declared title.")
  else if hasByAuthor py raw normObs then
    some (88, [], "'by Author' suffix noise on declared title.")
  else if hasEditionTag py (declared.toStr py) && !hasEditionTag py (observed.toStr py) &&
      (9 / 10 : ℚ) ≤ fuzzyRatio (normalizeText py declared) normObs then
    some (82, [], "Declared title has edition annotation; canonical is " ++
      py.reprValue observed ++ ".")
  else if looksFilenameDerived py raw normObs then
    some (92, [], "Declared title looks filename-derived.")
  else none

/-! ### The rule -/

/-- The end of `verify_title`: two titles that are not empty, and no noise on the declared one. -/
def compareTitles (declared observed : Value) (pageRange : Option String) (lowSignal : Bool) :
    FieldVerdict :=
  let normDecl := normalizeText py declared
  let normObs := normalizeText py observed
  let ratio := fuzzyRatio normDecl normObs
  let inDecl := hasInfix normObs.toList normDecl.toList
  let inObs := hasInfix normDecl.toList normObs.toList
  let page (confidence : ℕ) : List EvidenceSpan :=
    [⟨"title_page", observed.toStr py, pageRange, confidence⟩]
  let verdict : FieldVerdict :=
    { field := "title", declaredValue := declared, observedValue := observed
      verdict := .ambiguous, confidence := 60
      reason := "Title similarity " ++ py.twoDecimals ratio ++
        " is ambiguous; needs LLM adjudication." }
  if (19 / 20 : ℚ) ≤ ratio then
    if lowSignal then
      { verdict with confidence := 55, reason := "OCR quality is low; cannot confirm match." }
    else
      { verdict with
        verdict := .confirmed, confidence := 95, evidence := page 95
        reason := "Titles match (similarity " ++ py.twoDecimals ratio ++ ")." }
  else if inDecl || inObs then
    if ((normDecl.toList.length : ℤ) - normObs.toList.length).natAbs ≤ 20 then
      { verdict with
        verdict := .confirmed, confidence := 85, evidence := page 85
        reason := "Titles match after normalization (substring or wrapped)." }
    else if inDecl && normObs.toList.length < normDecl.toList.length then
      { verdict with
        verdict := .mismatch, confidence := 80, evidence := page 80
        reason := "Declared title has edition annotation; canonical is " ++
          py.reprValue observed ++ "." }
    else
      { verdict with
        verdict := .mismatch, confidence := 80, evidence := page 80
        reason := "Declared title has noise or annotation; canonical is " ++
          py.reprValue observed ++ "." }
  else if ratio < 7 / 10 then
    { verdict with
      verdict := .mismatch, confidence := 95
      riskFlags := if ratio < 4 / 10 then ["wrong_book"] else []
      evidence := page 95
      reason := "Titles differ significantly (similarity " ++ py.twoDecimals ratio ++ ")." }
  else verdict

/-- `verify_title`. -/
def verifyTitle (declared observed : Value) (pageRange : Option String)
    (evidenceQuality : String) : FieldVerdict :=
  let lowSignal := decide (evidenceQuality = "low")
  if declared.isNull && observed.isNull then
    { field := "title", declaredValue := .null, verdict := .ambiguous, confidence := 0
      reason := "No title declared and none observed." }
  else if declared.isNull && observed.truthy then
    if lowSignal then
      { field := "title", declaredValue := .null, observedValue := observed
        verdict := .ambiguous, confidence := 55
        reason := "OCR quality is low; cannot trust title." }
    else
      { field := "title", declaredValue := .null, observedValue := observed
        verdict := .missing
        confidence := if 3 ≤ (observed.toStr py).toList.length then 95 else 70
        evidence := [⟨"title_page", observed.toStr py, pageRange, 95⟩]
        reason := "Title found on title page: " ++ py.reprValue observed ++ "." }
  else if declared.truthy && observed.isNull then
    { field := "title", declaredValue := declared, verdict := .ambiguous, confidence := 50
      reason := "Title declared but extraction returned no title-page text." }
  else if normalizeText py declared = "" ∨ normalizeText py observed = "" then
    { field := "title", declaredValue := declared, observedValue := observed
      verdict := .ambiguous, confidence := 40
      reason := "One or both titles are empty after normalization." }
  else
    match titleNoise py declared observed pageRange with
    | some (confidence, evidence, reason) =>
      { field := "title", declaredValue := declared, observedValue := observed
        verdict := .mismatch, confidence := confidence, evidence := evidence, reason := reason }
    | none => compareTitles py declared observed pageRange lowSignal

end Bookwarden.Verification
