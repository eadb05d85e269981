import Bookwarden.Verification.Rules

/-!
# The verification engine

`verification/engine.py`: every rule is run on what is declared and what was observed, and the
verdicts on the fields are put together to a verdict on the book. The values that the engine computes
and does not read again (`any_mismatch_with_risk`, `any_declared_ambiguous`) are left out.

## Main definitions

* `DeclaredMetadata`, `ObservationSet`, `fieldBindings` — what is compared
* `ContentVerificationEngine.verify`

## Main results

* `ContentVerificationEngine.verify_isOk_iff` — the engine returns when every rule does
* `ContentVerificationEngine.exists_of_verify` — what it puts together then
-/

namespace Bookwarden.Verification

/-- `DeclaredMetadata`. -/
structure DeclaredMetadata where
  title : Value := .null
  authors : Value := .list []
  publisher : Value := .null
  publishedDate : Value := .null
  language : Value := .null
  series : Value := .null
  seriesIndex : Value := .null
  volume : Value := .null
  chapter : Value := .null
  seriesPosition : Value := .null
  isbn : Value := .null

/-- `ObservationSet`, the part that the engine reads. -/
structure ObservationSet where
  headerRunningText : Option String := none
  isbnExtracted : Value := .null
  publisherExtracted : Value := .null
  dateExtracted : Value := .null
  languageDetected : Value := .null
  titleExtracted : Value := .null
  authorsExtracted : Value := .null
  seriesExtracted : Value := .null
  seriesIndexExtracted : Value := .null
  volumeExtracted : Value := .null
  chapterExtracted : Value := .null
  seriesPositionExtracted : Value := .null
  pageRangeTitle : String := "1-3"
  pageRangeCopyright : String := "2-5"
  pageRangeHeader : String := "running"
  pageRangeIsbn : String := "2-5"
  evidenceQuality : String := "high"

/-- The fields of `_FIELD_BINDINGS`, in order. Each has the name of its rule. -/
def fieldBindings : List RuleName :=
  [.isbn, .title, .authors, .publisher, .publishedDate, .language, .series, .seriesIndex, .volume,
    .chapter, .seriesPosition]

/-- The declared value of a field. -/
def DeclaredMetadata.get (d : DeclaredMetadata) : RuleName → Value
  | .isbn => d.isbn
  | .title => d.title
  | .authors => d.authors
  | .publisher => d.publisher
  | .publishedDate => d.publishedDate
  | .language => d.language
  | .series => d.series
  | .seriesIndex => d.seriesIndex
  | .volume => d.volume
  | .chapter => d.chapter
  | .seriesPosition => d.seriesPosition

/-- The observed value of a field. -/
def ObservationSet.get (o : ObservationSet) : RuleName → Value
  | .isbn => o.isbnExtracted
  | .title => o.titleExtracted
  | .authors => o.authorsExtracted
  | .publisher => o.publisherExtracted
  | .publishedDate => o.dateExtracted
  | .language => o.languageDetected
  | .series => o.seriesExtracted
  | .seriesIndex => o.seriesIndexExtracted
  | .volume => o.volumeExtracted
  | .chapter => o.chapterExtracted
  | .seriesPosition => o.seriesPositionExtracted

/-- The pages that a field was observed on. -/
def ObservationSet.pageRange (o : ObservationSet) : RuleName → String
  | .isbn => o.pageRangeIsbn
  | .title => o.pageRangeTitle
  | .authors => o.pageRangeTitle
  | .publisher => o.pageRangeCopyright
  | .publishedDate => o.pageRangeCopyright
  | _ => o.pageRangeHeader

/-! ### The verdict on a field in the whole -/

/-- `None`, an empty list or an empty text. -/
def Value.isBlank : Value → Bool
  | .null => true
  | .str s => s = ""
  | .list xs => xs.isEmpty
  | _ => false

namespace FieldVerdict

/-- Nothing declared and nothing observed: skipped. -/
def isSilent (v : FieldVerdict) : Bool :=
  v.verdict = .ambiguous && Value.isBlank v.declaredValue && Value.isBlank v.observedValue

/-- There was something to decide, and it was not decided. -/
def isRealAmbiguous (v : FieldVerdict) : Bool := v.verdict = .ambiguous && !v.isSilent

/-- The field is to be patched. -/
def isPatched (v : FieldVerdict) : Bool := v.verdict = .mismatch || v.verdict = .missing

/-- A call was made. -/
def isDecided (v : FieldVerdict) : Bool := v.verdict ≠ .ambiguous

/-- A high-risk flag is raised. -/
def isHighRisk (v : FieldVerdict) : Bool := v.riskFlags.any fun flag => flag ∈ highRiskFlags

end FieldVerdict

/-- `int(sum(cs) / len(cs))`, and 0 of nothing. -/
def meanConfidence (vs : List FieldVerdict) : ℕ := (vs.map FieldVerdict.confidence).sum / vs.length

/-- The thresholds of the engine. -/
structure ContentVerificationEngine where
  autoApplyMinOverall : ℕ := autoApplyMinConfidence
  autoApplyMinField : ℕ := autoApplyMinFieldConfidence

namespace ContentVerificationEngine

/-- `_decide_action`. -/
def decideAction (vs : List FieldVerdict) : VerdictAction :=
  let decided := vs.filter FieldVerdict.isDecided
  if vs.any FieldVerdict.isHighRisk then .needsReview
  else if vs.any FieldVerdict.isRealAmbiguous then .needsReview
  else if decided = [] then .noChange
  else if decided.all fun v => v.verdict = .confirmed then .noChange
  else if 85 ≤ meanConfidence decided then .suggestFix
  else if 70 ≤ meanConfidence decided then .needsReview
  else .defer

/-- `_is_auto_apply_eligible`. -/
def isAutoApplyEligible (engine : ContentVerificationEngine) (action : VerdictAction)
    (vs : List FieldVerdict) : Bool :=
  let patched := vs.filter FieldVerdict.isPatched
  action = .suggestFix && !vs.any FieldVerdict.isRealAmbiguous && !vs.any FieldVerdict.isHighRisk &&
    !patched.isEmpty && engine.autoApplyMinOverall ≤ meanConfidence patched &&
      patched.all fun v => engine.autoApplyMinField ≤ v.confidence && !v.requiresReview

/-- The verdicts on the fields, put together. -/
def aggregate (engine : ContentVerificationEngine) (bookKey runId : String)
    (verdicts : List (String × FieldVerdict)) : BookVerdict :=
  let vs := verdicts.map Prod.snd
  let action := decideAction vs
  { bookKey := bookKey, runId := runId, fieldVerdicts := verdicts
    overallConfidence := meanConfidence (vs.filter FieldVerdict.isDecided)
    riskFlags := sorted (distinct (vs.flatMap FieldVerdict.riskFlags))
    action := action
    autoApplyEligible := engine.isAutoApplyEligible action vs
    proposedPatch := (verdicts.filter fun p => p.2.isPatched).map fun p =>
      (p.1, p.2.observedValue)
    reasons := verdicts.filterMap fun p =>
      if p.2.isSilent then none
      else p.2.reason.bind fun reason =>
        if reason = "" then none else some ("[" ++ p.1 ++ "] " ++ reason) }

variable (py : RuleRuntime) (declOrder obsOrder : SetOrder)

/-- What the engine gives to a rule beside the two values. -/
def contextOf (observed : ObservationSet) (rule : RuleName) : RuleContext where
  pageRange := some (observed.pageRange rule)
  observedAny := observed.headerRunningText.isSome
  evidenceQuality := observed.evidenceQuality
  declOrder := declOrder
  obsOrder := obsOrder

/-- One round of the loop over the bindings. -/
def verifyField (declared : DeclaredMetadata) (observed : ObservationSet) (rule : RuleName) :
    Except PyError (String × FieldVerdict) :=
  (applyRule py rule (declared.get rule) (observed.get rule)
    (contextOf declOrder obsOrder observed rule)).map fun v =>
      (rule.key, { v with field := rule.key })

/-- `ContentVerificationEngine.verify`. -/
def verify (engine : ContentVerificationEngine) (bookKey runId : String)
    (declared : DeclaredMetadata) (observed : ObservationSet) : Except PyError BookVerdict :=
  (fieldBindings.mapM (verifyField py declOrder obsOrder declared observed)).map
    (engine.aggregate bookKey runId)

variable {py declOrder obsOrder}

/-! ### The loop over the fields -/

/-- A loop returns when every round does. -/
theorem exists_mapM_iff {α β : Type} {f : α → Except PyError β} {l : List α} :
    (∃ l', l.mapM f = .ok l') ↔ ∀ a ∈ l, ∃ b, f a = .ok b := by
  constructor
  · rintro ⟨l', h⟩ a ha
    by_contra hnone
    obtain ⟨e, he⟩ : ∃ e, f a = .error e := by
      cases hfa : f a with
      | error e => exact ⟨e, rfl⟩
      | ok b => exact absurd ⟨b, hfa⟩ hnone
    obtain ⟨e', he'⟩ := mapM_error ha he
    rw [he'] at h
    cases h
  · intro h
    induction l with
    | nil => exact ⟨[], rfl⟩
    | cons a l ih =>
      obtain ⟨b, hb⟩ := h a List.mem_cons_self
      obtain ⟨bs, hbs⟩ := ih fun c hc => h c (List.mem_cons_of_mem _ hc)
      exact ⟨b :: bs, by rw [List.mapM_cons, hb, hbs]; rfl⟩

theorem mem_fieldBindings (r : RuleName) : r ∈ fieldBindings := by
  cases r <;> decide

variable {engine : ContentVerificationEngine} {bookKey runId : String}
  {declared : DeclaredMetadata} {observed : ObservationSet} {book : BookVerdict}

/-- The engine returns when every rule returns on its field. -/
theorem verify_isOk_iff :
    (∃ book, engine.verify py declOrder obsOrder bookKey runId declared observed = .ok book) ↔
      ∀ r, ∃ v, applyRule py r (declared.get r) (observed.get r)
        (contextOf declOrder obsOrder observed r) = .ok v := by
  have hmap : (∃ book, engine.verify py declOrder obsOrder bookKey runId declared observed =
      .ok book) ↔ ∃ l, fieldBindings.mapM (verifyField py declOrder obsOrder declared observed) =
        .ok l := by
    rw [verify]
    cases fieldBindings.mapM (verifyField py declOrder obsOrder declared observed) with
    | error e => simp [Except.map]
    | ok l => exact ⟨fun _ => ⟨l, rfl⟩, fun _ => ⟨_, rfl⟩⟩
  rw [hmap, exists_mapM_iff]
  refine ⟨fun h r => ?_, fun h r _ => ?_⟩
  · obtain ⟨p, hp⟩ := h r (mem_fieldBindings r)
    rw [verifyField] at hp
    cases hv : applyRule py r (declared.get r) (observed.get r)
        (contextOf declOrder obsOrder observed r) with
    | error e =>
      rw [hv] at hp
      cases hp
    | ok v => exact ⟨v, rfl⟩
  · obtain ⟨v, hv⟩ := h r
    exact ⟨_, by rw [verifyField, hv]; rfl⟩

/-- What the engine puts together: the verdict of each rule, under the name of its field. -/
theorem exists_of_verify
    (h : engine.verify py declOrder obsOrder bookKey runId declared observed = .ok book) :
    ∃ verdicts : RuleName → FieldVerdict,
      (∀ r, ∃ v, applyRule py r (declared.get r) (observed.get r)
        (contextOf declOrder obsOrder observed r) = .ok v ∧
          verdicts r = { v with field := r.key }) ∧
      book = engine.aggregate bookKey runId (fieldBindings.map fun r => (r.key, verdicts r)) := by
  rw [verify] at h
  cases hl : fieldBindings.mapM (verifyField py declOrder obsOrder declared observed) with
  | error e =>
    rw [hl] at h
    cases h
  | ok l =>
    rw [hl, Except.map, Except.ok.injEq] at h
    have hrule := verify_isOk_iff.mp ⟨book, by rw [verify, hl, Except.map, h]⟩
    choose v hv using hrule
    refine ⟨fun r => { v r with field := r.key }, fun r => ⟨v r, hv r, rfl⟩, ?_⟩
    have hmap := mapM_ok (f := verifyField py declOrder obsOrder declared observed)
      (g := fun r => (r.key, { v r with field := r.key })) (l := fieldBindings) fun r _ => by
        rw [verifyField, hv r]
        rfl
    rw [hmap, Except.ok.injEq] at hl
    rw [← h, ← hl]

end ContentVerificationEngine

end Bookwarden.Verification
