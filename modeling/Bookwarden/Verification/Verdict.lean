import Bookwarden.Verification.Value

/-!
# Verdicts

What the rules say of a field and what the engine says of a book, from `verification/verdict.py`.
Times of creation are left out.
-/

namespace Bookwarden.Verification

/-- `VerdictKind`. -/
inductive VerdictKind
  | confirmed
  | mismatch
  | missing
  | ambiguous
  deriving DecidableEq, Repr

/-- The value of the enumeration member. -/
def VerdictKind.value : VerdictKind → String
  | confirmed => "confirmed"
  | mismatch => "mismatch"
  | missing => "missing"
  | ambiguous => "ambiguous"

/-- `VerdictAction`. -/
inductive VerdictAction
  | noChange
  | suggestFix
  | needsReview
  | defer
  deriving DecidableEq, Repr

/-- `EvidenceSpan`. -/
structure EvidenceSpan where
  source : String
  text : String
  pageRange : Option String := none
  confidence : ℕ
  deriving DecidableEq, Repr

/-- `JudgeCall`. -/
structure JudgeCall where
  provider : String
  model : String
  promptHash : String
  responseHash : String
  tokensIn : ℤ
  tokensOut : ℤ
  durationMs : ℤ
  deriving DecidableEq, Repr

/-- `FieldVerdict`. -/
structure FieldVerdict where
  field : String
  declaredValue : Value
  observedValue : Value := .null
  verdict : VerdictKind
  confidence : ℕ
  evidence : List EvidenceSpan := []
  judgeCalls : List JudgeCall := []
  requiresReview : Bool := false
  riskFlags : List String := []
  reason : Option String
  isDeterministic : Bool := true

/-- `BookVerdict`. -/
structure BookVerdict where
  bookKey : String
  runId : String
  fieldVerdicts : List (String × FieldVerdict)
  overallConfidence : ℕ
  riskFlags : List String
  action : VerdictAction
  autoApplyEligible : Bool
  proposedPatch : List (String × Value)
  reasons : List String

/-- `AUTO_APPLY_MIN_CONFIDENCE`. -/
def autoApplyMinConfidence : ℕ := 80

/-- `AUTO_APPLY_MIN_FIELD_CONFIDENCE`. -/
def autoApplyMinFieldConfidence : ℕ := 75

/-- `HIGH_RISK_FLAGS`. -/
def highRiskFlags : List String :=
  ["author_swap", "isbn_conflict", "edition_ambiguous", "cover_mismatch", "wrong_book",
    "series_mismatch", "publisher_mismatch"]

end Bookwarden.Verification
