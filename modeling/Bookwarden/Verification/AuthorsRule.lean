import Bookwarden.Isbn.Agreement
import Mathlib.Data.List.Dedup
import Bookwarden.Verification.Text
import Bookwarden.Verification.Verdict

/-!
# The authors rule

`verify_authors` of `verification/rules.py`. Names are compared as sets of normal forms, by
transliteration and by surname. Where it pairs the sets of normal forms with the lists of names, the
order of both decides which form stands next to which name.

## Main definitions

* `SetOrder` — the order in which sets of strings are iterated
* `authorsEqual`, `matchedInPairs`, `verifyAuthors`
-/

namespace Bookwarden.Verification

variable (py : RuleRuntime)

/-- In which order the set of the members of a list is iterated. -/
structure SetOrder where
  enumerate : List String → List String
  nodup : ∀ l, (enumerate l).Nodup
  mem : ∀ l s, s ∈ enumerate l ↔ s ∈ l

/-- The order of the last occurrences. -/
def SetOrder.plain : SetOrder where
  enumerate l := l.dedup
  nodup l := l.nodup_dedup
  mem _ _ := List.mem_dedup

/-- `set(a) == set(b)`. -/
def sameSet (a b : List String) : Bool := a.all (· ∈ b) && b.all (· ∈ a)

/-- `declared_list` and `observed_list`. -/
def authorList : Value → List String
  | .str s => ((split '&' s).map strip).filter fun a => a ≠ ""
  | .list xs => (xs.filter Value.truthy).map (Value.toStr py)
  | _ => []

/-- `_normalize_text(normalize_author_display(·))`. -/
def normalizeDisplay (a : String) : String := normalizeString py (normalizeAuthorDisplay py a)

/-- `if a` in a comprehension over names. -/
def named (l : List String) : List String := l.filter fun a => a ≠ ""

/-- The normal form of the sort name. -/
def normalizeSort (a : String) : Except PyError String :=
  (computeAuthorSort py a).map (normalizeString py)

/-- `_authors_equal`. -/
def authorsEqual (declared observed : List String) : Except PyError Bool := do
  if sameSet ((named declared).map (normalizeString py))
      ((named observed).map (normalizeString py)) then
    return true
  if sameSet ((named declared).map (normalizeDisplay py))
      ((named observed).map (normalizeDisplay py)) then
    return true
  let sortDecl ← (named declared).mapM (normalizeSort py)
  let sortObs ← (named observed).mapM (normalizeSort py)
  return sameSet sortDecl sortObs

/-- `_is_transliteration_match`. -/
def isTransliterationMatch (a b : String) : Bool :=
  a ≠ "" && b ≠ "" &&
    (9 / 10 : ℚ) ≤ crossScriptSimilarity py (normalizeString py a) (normalizeString py b)

/-- `_surname_match`. -/
def surnameMatch (a b : String) : Bool :=
  let aWords := splitSpaces (normalizeString py a)
  let bWords := splitSpaces (normalizeString py b)
  match aWords.getLast?, bWords.getLast?, bWords.head? with
  | some surname, some last, some first => surname = last || surname = first
  | _, _, _ => false

/-- `sentinels`. -/
def sentinels : List String :=
  ["unknown", "anonymous", "n n", "n n ", "various", "n a", "desconocido", "calibre", "mantesh",
    "chenjin5 com"]

/-- `_cross`. -/
def cross (a b : List String) : Bool := a.any fun x => b.any fun y => isTransliterationMatch py x y

/-- `_covered_by`. -/
def coveredBy (src dst : List String) : Bool :=
  src.all fun s => dst.any fun d =>
    normalizeString py s = normalizeString py d || isTransliterationMatch py s d ||
      surnameMatch py s d

/-- Every normal form has a transliteration, or the name next to it a surname, among the others. -/
def pairsCovered (a b : List (String × String)) : Bool :=
  a.all fun p => b.any fun q => isTransliterationMatch py p.1 q.1 || surnameMatch py p.2 q.2

/-- The condition of the match with transliteration tolerance. -/
def matchedInPairs (normDecl normObs declared observed : List String) : Bool :=
  declared.length = observed.length &&
    (pairsCovered py (normDecl.zip declared) (normObs.zip observed) &&
      pairsCovered py (normObs.zip observed) (normDecl.zip declared))

/-- The names without a transliteration or a surname among the others. -/
def extraNames (names others : List String) : List String :=
  names.filter fun a => !others.any fun b => isTransliterationMatch py a b || surnameMatch py a b

/-- The end of `verify_authors`: two lists of names that are not equal as sets. -/
def compareAuthors (normDecl normObs declared observed : List String)
    (pageRange : Option String) : FieldVerdict :=
  let page (confidence : ℕ) : List EvidenceSpan :=
    [⟨"title_page", ", ".intercalate observed, pageRange, confidence⟩]
  let verdict : FieldVerdict :=
    { field := "authors", declaredValue := .strs declared, observedValue := .strs observed
      verdict := .mismatch, confidence := 80, evidence := page 80
      reason := "Author sets partially overlap." }
  if matchedInPairs py normDecl normObs declared observed then
    { verdict with
      verdict := .confirmed, confidence := 88, evidence := page 88
      reason := "Authors match (transliteration tolerance)." }
  else if normDecl.all (· ∈ sentinels) then
    { verdict with
      confidence := 92, evidence := page 92
      reason := "Declared author is sentinel; book has real author(s): " ++
        py.reprValue (.strs observed) ++ "." }
  else if !normDecl.any (· ∈ normObs) && !cross py normDecl normObs &&
      !declared.any fun d => observed.any fun o => surnameMatch py d o then
    { verdict with
      confidence := 92, riskFlags := ["author_swap"], evidence := page 92
      reason := "Author swap: declared " ++ py.reprValue (.strs declared) ++ " but book has " ++
        py.reprValue (.strs observed) ++ "."
      requiresReview := true }
  else
    let declCovered := coveredBy py normDecl normObs
    let obsCovered := coveredBy py normObs normDecl
    if obsCovered && !declCovered then
      let extra := extraNames py declared observed
      { verdict with
        confidence := 88, riskFlags := if extra = [] then [] else ["author_swap"]
        evidence := page 88
        reason := "Declared authors include hallucinated extra(s): " ++
          py.reprValue (.strs extra) ++ "."
        requiresReview := extra ≠ [] }
    else if declCovered && !obsCovered then
      { verdict with
        confidence := 92, evidence := page 92
        reason := "Missing co-author(s): " ++
          py.reprValue (.strs (extraNames py observed declared)) ++ "." }
    else verdict

/-- `verify_authors`. The two orders are those of the sets `norm_decl` and `norm_obs`. -/
def verifyAuthors (declOrder obsOrder : SetOrder) (declared observed : Value)
    (pageRange : Option String) (evidenceQuality : String) : Except PyError FieldVerdict := do
  let lowSignal := decide (evidenceQuality = "low")
  let declaredList := authorList py declared
  let observedList := authorList py observed
  if declaredList = [] ∧ observedList = [] then
    return { field := "authors", declaredValue := .list [], verdict := .ambiguous
             confidence := 0, reason := "No authors declared and none observed." }
  if declaredList = [] then
    return { field := "authors", declaredValue := .list [], observedValue := .strs observedList
             verdict := .missing, confidence := 95
             evidence := [⟨"title_page", ", ".intercalate observedList, pageRange, 95⟩]
             reason := "Author(s) found on title page: " ++
               py.reprValue (.strs observedList) ++ "." }
  if observedList = [] then
    return { field := "authors", declaredValue := .strs declaredList, verdict := .ambiguous
             confidence := 50
             reason := "Authors declared but extraction returned no author info." }
  if ← authorsEqual py declaredList observedList then
    if lowSignal then
      return { field := "authors", declaredValue := .strs declaredList
               observedValue := .strs observedList, verdict := .ambiguous, confidence := 55
               reason := "OCR quality is low; cannot confirm match." }
    return { field := "authors", declaredValue := .strs declaredList
             observedValue := .strs observedList, verdict := .confirmed, confidence := 99
             evidence := [⟨"title_page", ", ".intercalate observedList, pageRange, 99⟩]
             reason := "Authors match." }
  return compareAuthors py
    (declOrder.enumerate ((named declaredList).map (normalizeDisplay py)))
    (obsOrder.enumerate ((named observedList).map (normalizeDisplay py)))
    declaredList observedList pageRange

end Bookwarden.Verification
