import Bookwarden.Verification.Total

/-!
# The auto-apply gate

A book is patched without review when the engine finds it eligible. The gate is about flags, verdicts
and confidences, and it keeps what it says about them. It does not look at the values: a rule that
patches a field with an empty value clears it, and two rules do.

## Main definitions

* `GateSound` — what is asked of an eligible book
* `LanguageClears`, `SeriesIndexClears` — where a rule clears its field

## Main results

* `patched_value` — what the rules patch with
* `eligible_facts`, `eligible_of_quiet` — what makes a book eligible
* `autoApply_sound_iff` — for which values of the two fields the gate is sound
-/

namespace Bookwarden.Verification

variable (py : RuleRuntime)

/-- A value that clears its field. -/
def Value.isEmpty : Value → Bool
  | .null => true
  | .str s => s = ""
  | .list xs => xs.isEmpty
  | .dict kvs => kvs.isEmpty
  | _ => false

/-- The value of a patch is the observed one, in the form of its rule. -/
def ObservedAs (r : RuleName) (observed value : Value) : Prop :=
  match r with
  | .isbn => value = .str (isbnText py observed)
  | .authors => value = .strs (authorList py observed)
  | _ => value = observed

/-- The language rule finds a mismatch with nothing. -/
def LanguageClears (declared observed : Value) : Prop :=
  Value.isEmpty observed = true ∧ (declared.isNull && observed.isNull) = false ∧
    (declared.truthy && observed.isNull) = false ∧ languageText py declared ≠ languageText py observed

/-- The series index rule finds nothing where nothing was declared. -/
def SeriesIndexClears (declared observed : Value) : Prop :=
  declared.isNull = true ∧ observed.isNull = false ∧ Value.isEmpty observed = true

/-- The rules of the two fields return, and decide what there is to decide. -/
def LetThrough (languageDeclared languageObserved indexDeclared indexObserved : Value) : Prop :=
  (verifyLanguage py languageDeclared languageObserved none).isRealAmbiguous = false ∧
    ∃ v, verifySeriesIndex py indexDeclared indexObserved none = .ok v ∧ v.isRealAmbiguous = false

/-- What is asked of a book that is eligible. -/
structure GateSound (observed : ObservationSet) (book : BookVerdict) : Prop where
  action : book.action = .suggestFix
  noRisk : ∀ p ∈ book.fieldVerdicts, ∀ flag ∈ p.2.riskFlags, flag ∉ highRiskFlags
  /-- No field with a declared or observed value is ambiguous. -/
  decided : ∀ p ∈ book.fieldVerdicts, p.2.verdict = .ambiguous →
    Value.isBlank p.2.declaredValue = true ∧ Value.isBlank p.2.observedValue = true
  /-- The patched fields are the mismatches and the missing ones. -/
  patched : ∀ field value, (field, value) ∈ book.proposedPatch ↔
    ∃ v, (field, v) ∈ book.fieldVerdicts ∧ (v.verdict = .mismatch ∨ v.verdict = .missing) ∧
      v.observedValue = value
  nonempty : book.proposedPatch ≠ []
  confident : ∀ p ∈ book.fieldVerdicts, p.2.verdict = .mismatch ∨ p.2.verdict = .missing →
    75 ≤ p.2.confidence ∧ p.2.requiresReview = false
  /-- Their mean confidence is at least 80. -/
  mean : 80 * (book.fieldVerdicts.filter fun p => p.2.isPatched).length ≤
    ((book.fieldVerdicts.filter fun p => p.2.isPatched).map fun p => p.2.confidence).sum
  /-- Nothing is cleared: a patch is a value that was observed. -/
  observed : ∀ field value, (field, value) ∈ book.proposedPatch → ∃ r : RuleName, r.key = field ∧
    ObservedAs py r (observed.get r) value ∧ Value.isEmpty value = false

variable {py} {declared observed : Value} {pageRange : Option String} {v : FieldVerdict}

/-! ### Empty values -/

theorem not_isEmpty_of_truthy {w : Value} (h : w.truthy = true) : Value.isEmpty w = false := by
  cases w <;> simp_all [Value.truthy, Value.isEmpty]

theorem normalizeString_empty : normalizeString py "" = "" := by
  have hnfkd : py.nfkd "" = "" := py.nfkd_ascii "" rfl
  rw [normalizeString, hnfkd]
  exact py.lower_empty

theorem normalizeString_braces : normalizeString py "\x7b\x7d" = "" := by
  have hnfkd : py.nfkd "\x7b\x7d" = "\x7b\x7d" := py.nfkd_ascii _ rfl
  have hopen : py.combining '\x7b' = false := py.combining_ascii _ (by decide)
  have hclose : py.combining '\x7d' = false := py.combining_ascii _ (by decide)
  have hopen' : py.isWord '\x7b' = false := py.isWord_ascii _ (by decide)
  have hclose' : py.isWord '\x7d' = false := py.isWord_ascii _ (by decide)
  have hchars : ("\x7b\x7d" : String).toList = ['\x7b', '\x7d'] := rfl
  have htags : deleteMatches (fun _ => editionTags py) none 0 ['\x7b', '\x7d'] = ['\x7b', '\x7d'] :=
    rfl
  have hspaces : isSpace '\x7b' = false ∧ isSpace '\x7d' = false := by decide
  have hblank : strip (String.ofList (collapseSpaces [' ', ' '])) = "" := by decide
  simp [normalizeString, hnfkd, hchars, hopen, hclose, htags, hopen', hclose', hspaces.1, hspaces.2,
    hblank, py.lower_empty]

/-- An empty value has an empty normal form. -/
theorem normalizeText_of_isEmpty {w : Value} (h : Value.isEmpty w = true) :
    normalizeText py w = "" := by
  cases w with
  | null => rfl
  | str s =>
    rw [Value.isEmpty, decide_eq_true_eq] at h
    rw [h]
    exact normalizeString_empty
  | list xs =>
    rw [Value.isEmpty, List.isEmpty_iff] at h
    rw [h]
    exact normalizeString_empty
  | dict kvs =>
    rw [Value.isEmpty, List.isEmpty_iff] at h
    rw [h]
    show normalizeString py (py.reprValue (.dict [])) = ""
    rw [py.repr_dict_nil]
    exact normalizeString_braces
  | _ => cases h

/-- An empty value is no number. -/
theorem coerceNumber_of_isEmpty {w : Value} (h : Value.isEmpty w = true) :
    coerceNumber py w = .ok none := by
  cases w with
  | null => rfl
  | str s =>
    rw [Value.isEmpty, decide_eq_true_eq] at h
    rw [h]
    rfl
  | list xs =>
    simp only [coerceNumber, Value.isNull, floatOfNumber, Value.toStr, Bool.false_eq_true, if_false,
      py.parseDouble_repr (.list xs) rfl, ite_self]
  | dict kvs =>
    simp only [coerceNumber, Value.isNull, floatOfNumber, Value.toStr, Bool.false_eq_true, if_false,
      py.parseDouble_repr (.dict kvs) rfl, ite_self]
  | _ => cases h

theorem floatOf_of_isEmpty {w : Value} (h : Value.isEmpty w = true) : floatOf py w = .ok none := by
  cases w with
  | str s =>
    rw [Value.isEmpty, decide_eq_true_eq] at h
    rw [h]
    exact congrArg Except.ok py.parseDouble_empty
  | null | list _ | dict _ => rfl
  | _ => cases h

/-! ### What the rules patch with -/

/-- A patch without review has the observed value, and does not clear the field. -/
def PatchesWith (v : FieldVerdict) (value : Value) : Prop :=
  v.isPatched = true → v.requiresReview = false →
    v.observedValue = value ∧ Value.isEmpty value = false

theorem patchesWith_of_not {w : Value} (h : v.isPatched = false) : PatchesWith v w := by
  intro hpatched
  rw [h] at hpatched
  cases hpatched

theorem patchesWith_of_review {w : Value} (h : v.requiresReview = true) : PatchesWith v w := by
  intro _ hreview
  rw [h] at hreview
  cases hreview

theorem compareIsbns_patched {d o : String} (ho : o ≠ "")
    (h : compareIsbns py d o pageRange = .ok v) : PatchesWith v (.str o) := by
  have houtcome := @compareIsbns_outcome py pageRange d o
  rw [h, Except.map, compared] at houtcome
  -- what is patched is in conflict, and wants review
  split_ifs at houtcome
  · rw [Except.ok.injEq, outcome, Prod.mk.injEq] at houtcome
    exact patchesWith_of_not (by rw [FieldVerdict.isPatched, houtcome.1]; rfl)
  · rw [Except.ok.injEq, outcome, Prod.mk.injEq] at houtcome
    exact patchesWith_of_not (by rw [FieldVerdict.isPatched, houtcome.1]; rfl)
  · cases hcross : crossFormat py d o with
    | error e =>
      rw [hcross] at houtcome
      cases houtcome
    | ok same =>
      rw [hcross, Except.map, Except.ok.injEq, outcome] at houtcome
      cases same with
      | true =>
        rw [if_pos rfl, Prod.mk.injEq] at houtcome
        exact patchesWith_of_not (by rw [FieldVerdict.isPatched, houtcome.1]; rfl)
      | false =>
        rw [if_neg (by decide), Prod.mk.injEq, Prod.mk.injEq] at houtcome
        exact patchesWith_of_review houtcome.2.2

theorem verifyIsbn_patched (h : verifyIsbn py declared observed pageRange = .ok v) :
    PatchesWith v (.str (isbnText py observed)) := by
  simp only [verifyIsbn] at h
  split_ifs at h with hnone hd hvalid ho
  · cases h
    exact patchesWith_of_not rfl
  · cases h
    have ho : isbnText py observed ≠ "" := fun ho => hnone ⟨hd, ho⟩
    exact fun _ _ => ⟨rfl, decide_eq_false ho⟩
  · cases h
    exact patchesWith_of_not rfl
  · cases h
    exact patchesWith_of_not rfl
  · exact compareIsbns_patched ho h

theorem compareTitles_observed (lowSignal : Bool) :
    (compareTitles py declared observed pageRange lowSignal).observedValue = observed := by
  simp only [compareTitles]
  split_ifs <;> rfl

theorem verifyTitle_patched (quality : String) :
    PatchesWith (verifyTitle py declared observed pageRange quality) observed := by
  simp only [verifyTitle]
  split_ifs with hnone hmissing hlow hlength habsent hempty
  · exact patchesWith_of_not rfl
  · exact patchesWith_of_not rfl
  · rw [Bool.and_eq_true] at hmissing
    exact fun _ _ => ⟨rfl, not_isEmpty_of_truthy hmissing.2⟩
  · rw [Bool.and_eq_true] at hmissing
    exact fun _ _ => ⟨rfl, not_isEmpty_of_truthy hmissing.2⟩
  · exact patchesWith_of_not rfl
  · exact patchesWith_of_not rfl
  · have hobserved : Value.isEmpty observed = false := by
      rw [Bool.eq_false_iff]
      exact fun h => hempty (.inr (normalizeText_of_isEmpty h))
    split
    · exact fun _ _ => ⟨rfl, hobserved⟩
    · exact fun _ _ => ⟨compareTitles_observed _, hobserved⟩

theorem compareAuthors_observed {e f d o : List String} :
    (compareAuthors py e f d o pageRange).observedValue = .strs o := by
  simp only [compareAuthors]
  split_ifs <;> rfl

theorem verifyAuthors_patched {declOrder obsOrder : SetOrder} {quality : String}
    (h : verifyAuthors py declOrder obsOrder declared observed pageRange quality = .ok v) :
    PatchesWith v (.strs (authorList py observed)) := by
  rw [verifyAuthors] at h
  have hstrs : authorList py observed ≠ [] →
      Value.isEmpty (.strs (authorList py observed)) = false := by
    intro ho
    rw [Value.strs, Value.isEmpty, List.isEmpty_eq_false_iff, ne_eq, List.map_eq_nil_iff]
    exact ho
  by_cases hd : authorList py declared = []
  · by_cases ho : authorList py observed = []
    · rw [if_pos ⟨hd, ho⟩] at h
      cases h
      exact patchesWith_of_not rfl
    · rw [if_neg fun h => ho h.2, if_pos hd] at h
      cases h
      exact fun _ _ => ⟨rfl, hstrs ho⟩
  · by_cases ho : authorList py observed = []
    · rw [if_neg fun h => hd h.1, if_neg hd, if_pos ho] at h
      cases h
      exact patchesWith_of_not rfl
    · rw [if_neg fun h => hd h.1, if_neg hd, if_neg ho] at h
      cases hsame : authorsEqual py (authorList py declared) (authorList py observed) with
      | error e =>
        rw [hsame] at h
        cases h
      | ok same =>
        rw [hsame] at h
        cases same with
        | false =>
          cases h
          exact fun _ _ => ⟨compareAuthors_observed, hstrs ho⟩
        | true =>
          have hnot : v.isPatched = false := by
            by_cases hquality : quality = "low" <;>
              simp [hquality, bind, Except.bind, pure, Except.pure] at h <;> rw [← h] <;> rfl
          exact patchesWith_of_not hnot

/-- The opening of a rule patches with a value that is there. -/
theorem presence_patched {p : Presence} {compare : FieldVerdict}
    (h : (declared.isNull && observed.isNull) = false →
      (declared.truthy && observed.isNull) = false → PatchesWith compare observed) :
    PatchesWith (p.verify py declared observed pageRange compare) observed := by
  rw [Presence.verify]
  split_ifs with hnone hmissing habsent
  · exact patchesWith_of_not rfl
  · rw [Bool.and_eq_true] at hmissing
    exact fun _ _ => ⟨rfl, not_isEmpty_of_truthy hmissing.2⟩
  · exact patchesWith_of_not rfl
  · exact h (Bool.eq_false_iff.mpr hnone) (Bool.eq_false_iff.mpr habsent)

theorem verifyPublisher_patched :
    PatchesWith (verifyPublisher py declared observed pageRange) observed := by
  refine presence_patched fun _ _ => ?_
  simp only [comparePublishers]
  split_ifs
  · exact patchesWith_of_not rfl
  · exact patchesWith_of_not rfl
  · exact patchesWith_of_review rfl
  · exact patchesWith_of_not rfl

theorem verifyPublishedDate_patched :
    PatchesWith (verifyPublishedDate py declared observed pageRange) observed := by
  refine presence_patched fun _ _ => ?_
  simp only [compareDates]
  split
  · split_ifs
    · exact patchesWith_of_not rfl
    · exact patchesWith_of_review rfl
    · exact patchesWith_of_not rfl
  · exact patchesWith_of_not rfl

theorem verifyLanguage_patched (hclears : ¬LanguageClears py declared observed) :
    PatchesWith (verifyLanguage py declared observed pageRange) observed := by
  refine presence_patched fun hnone habsent => ?_
  simp only [compareLanguages]
  split_ifs with hsame
  · exact patchesWith_of_not rfl
  · refine fun _ _ => ⟨rfl, Bool.eq_false_iff.mpr fun hempty => ?_⟩
    exact hclears ⟨hempty, hnone, habsent, hsame⟩

theorem verifySeries_patched {observedAny : Bool} :
    PatchesWith (verifySeries py declared observed pageRange observedAny) observed := by
  simp only [verifySeries]
  split_ifs with hnone _ hmissing
  · exact patchesWith_of_not rfl
  · exact patchesWith_of_not rfl
  · rw [Bool.and_eq_true] at hmissing
    exact fun _ _ => ⟨rfl, not_isEmpty_of_truthy hmissing.2⟩
  · exact patchesWith_of_not rfl
  · exact patchesWith_of_review rfl
  · exact patchesWith_of_not rfl
  · exact patchesWith_of_review rfl

theorem verifySeriesIndex_patched (hclears : ¬SeriesIndexClears declared observed)
    (h : verifySeriesIndex py declared observed pageRange = .ok v) : PatchesWith v observed := by
  intro hpatched _
  obtain ⟨hvalue, hobserved⟩ := (verifySeriesIndex_ok h).patched hpatched
  refine ⟨hvalue, Bool.eq_false_iff.mpr fun hempty => ?_⟩
  rcases hobserved with ⟨hmissing, hthere⟩ | ⟨o, ho⟩
  · exact hclears ⟨hmissing, hthere, hempty⟩
  · rw [floatOf_of_isEmpty hempty] at ho
    cases ho

theorem numericRule_patched {r : NumericRule}
    (h : r.verify py declared observed pageRange = .ok v) : PatchesWith v observed := by
  intro hpatched _
  obtain ⟨o, ho, -, hvalue⟩ := numericRule_ok h
  obtain ⟨hsome, hobserved⟩ := hvalue hpatched
  refine ⟨hobserved, Bool.eq_false_iff.mpr fun hempty => ?_⟩
  rw [coerceNumber_of_isEmpty hempty, Except.ok.injEq] at ho
  rw [← ho] at hsome
  cases hsome

/-- Where neither of the two rules clears its field, a patch without review is what was observed. -/
theorem patched_value {r : RuleName} {ctx : RuleContext}
    (hlanguage : r = .language → ¬LanguageClears py declared observed)
    (hindex : r = .seriesIndex → ¬SeriesIndexClears declared observed)
    (h : applyRule py r declared observed ctx = .ok v) (hpatched : v.isPatched = true)
    (hreview : v.requiresReview = false) :
    ObservedAs py r observed v.observedValue ∧ Value.isEmpty v.observedValue = false := by
  have hwith : ∀ {w : Value}, PatchesWith v w →
      v.observedValue = w ∧ Value.isEmpty v.observedValue = false := by
    intro w hw
    obtain ⟨hvalue, hempty⟩ := hw hpatched hreview
    exact ⟨hvalue, hvalue ▸ hempty⟩
  cases r with
  | isbn => exact hwith (verifyIsbn_patched h)
  | title => exact hwith (Except.ok.inj h ▸ verifyTitle_patched _)
  | authors => exact hwith (verifyAuthors_patched h)
  | publisher => exact hwith (Except.ok.inj h ▸ verifyPublisher_patched)
  | publishedDate => exact hwith (Except.ok.inj h ▸ verifyPublishedDate_patched)
  | language => exact hwith (Except.ok.inj h ▸ verifyLanguage_patched (hlanguage rfl))
  | series => exact hwith (Except.ok.inj h ▸ verifySeries_patched)
  | seriesIndex => exact hwith (verifySeriesIndex_patched (hindex rfl) h)
  | volume => exact hwith (numericRule_patched h)
  | chapter => exact hwith (numericRule_patched h)
  | seriesPosition => exact hwith (numericRule_patched h)

/-! ### The gate -/

/-- The book is eligible: everything the gate looks at. -/
structure Eligible (vs : List FieldVerdict) : Prop where
  action : ContentVerificationEngine.decideAction vs = .suggestFix
  decided : ∀ v ∈ vs, v.isRealAmbiguous = false
  noRisk : ∀ v ∈ vs, v.isHighRisk = false
  patched : vs.filter FieldVerdict.isPatched ≠ []
  mean : 80 ≤ meanConfidence (vs.filter FieldVerdict.isPatched)
  confident : ∀ v ∈ vs, v.isPatched = true → 75 ≤ v.confidence ∧ v.requiresReview = false

theorem eligible_iff {vs : List FieldVerdict} :
    ContentVerificationEngine.isAutoApplyEligible {} (ContentVerificationEngine.decideAction vs) vs
      = true ↔ Eligible vs := by
  simp only [ContentVerificationEngine.isAutoApplyEligible, Bool.and_eq_true, decide_eq_true_eq,
    Bool.not_eq_true', List.any_eq_false, List.all_eq_true, List.isEmpty_eq_false_iff,
    List.mem_filter, and_imp, Bool.not_eq_true]
  constructor
  · rintro ⟨⟨⟨⟨⟨haction, hdecided⟩, hrisk⟩, hpatched⟩, hmean⟩, hconfident⟩
    exact ⟨haction, hdecided, hrisk, hpatched, hmean, hconfident⟩
  · intro h
    exact ⟨⟨⟨⟨⟨h.action, h.decided⟩, h.noRisk⟩, h.patched⟩, h.mean⟩, h.confident⟩

theorem isPatched_iff : v.isPatched = true ↔ v.verdict = .mismatch ∨ v.verdict = .missing := by
  simp [FieldVerdict.isPatched]

section Book

variable {declOrder obsOrder : SetOrder} {bookKey runId : String} {declared : DeclaredMetadata}
  {observed : ObservationSet} {book : BookVerdict}

/-- Where neither of the two rules clears its field, the gate is sound. -/
theorem gateSound_of_eligible
    (hlanguage : ¬LanguageClears py declared.language observed.languageDetected)
    (hindex : ¬SeriesIndexClears declared.seriesIndex observed.seriesIndexExtracted)
    (hbook : ContentVerificationEngine.verify py declOrder obsOrder {} bookKey runId declared observed =
      .ok book) (heligible : book.autoApplyEligible = true) : GateSound py observed book := by
  obtain ⟨verdicts, hverdicts, rfl⟩ := ContentVerificationEngine.exists_of_verify hbook
  have h := eligible_iff.mp heligible
  have hmem : ∀ r, verdicts r ∈ (fieldBindings.map fun r => (r.key, verdicts r)).map Prod.snd := by
    intro r
    rw [List.map_map]
    exact List.mem_map_of_mem (ContentVerificationEngine.mem_fieldBindings r)
  have hentry : ∀ p ∈ fieldBindings.map (fun r => (r.key, verdicts r)),
      p.2 ∈ (fieldBindings.map fun r => (r.key, verdicts r)).map Prod.snd :=
    fun p hp => List.mem_map_of_mem hp
  have hfilter : ((fieldBindings.map fun r => (r.key, verdicts r)).map Prod.snd).filter
      FieldVerdict.isPatched = ((fieldBindings.map fun r => (r.key, verdicts r)).filter
        fun p => p.2.isPatched).map Prod.snd := List.filter_map ..
  constructor
  · exact h.action
  · intro p hp flag hflag hhigh
    have hrisk := h.noRisk p.2 (hentry p hp)
    rw [FieldVerdict.isHighRisk, List.any_eq_false] at hrisk
    exact hrisk flag hflag (decide_eq_true hhigh)
  · intro p hp hambiguous
    have hreal := h.decided p.2 (hentry p hp)
    rw [FieldVerdict.isRealAmbiguous, hambiguous] at hreal
    simpa [FieldVerdict.isSilent, hambiguous] using hreal
  · intro field value
    simp only [ContentVerificationEngine.aggregate, List.mem_map, List.mem_filter]
    constructor
    · rintro ⟨p, ⟨hp, hpatched⟩, heq⟩
      rw [Prod.mk.injEq] at heq
      exact ⟨p.2, by rw [← heq.1]; exact hp, isPatched_iff.mp hpatched, heq.2⟩
    · rintro ⟨w, hw, hpatched, rfl⟩
      exact ⟨(field, w), ⟨hw, isPatched_iff.mpr hpatched⟩, rfl⟩
  · have hpatched := h.patched
    rw [hfilter] at hpatched
    intro hnil
    rw [ContentVerificationEngine.aggregate] at hnil
    exact hpatched (by rw [List.map_eq_nil_iff.mp hnil]; rfl)
  · intro p hp hpatched
    exact h.confident p.2 (hentry p hp) (isPatched_iff.mpr hpatched)
  · have hmean := h.mean
    have hpatched := h.patched
    rw [hfilter] at hmean hpatched
    rw [meanConfidence, List.length_map, Nat.le_div_iff_mul_le, List.map_map] at hmean
    · exact hmean
    · rw [List.length_pos_iff]
      exact fun hnil => hpatched (by rw [hnil]; rfl)
  · intro field value hvalue
    simp only [ContentVerificationEngine.aggregate, List.mem_map, List.mem_filter] at hvalue
    obtain ⟨p, ⟨⟨r, -, rfl⟩, hpatched⟩, heq⟩ := hvalue
    rw [Prod.mk.injEq] at heq
    obtain ⟨w, hw, hfield⟩ := hverdicts r
    have hreview := (h.confident _ (hmem r) hpatched).2
    have hsame : w.isPatched = (verdicts r).isPatched ∧
        w.requiresReview = (verdicts r).requiresReview ∧
        w.observedValue = (verdicts r).observedValue := by
      rw [hfield]
      exact ⟨rfl, rfl, rfl⟩
    obtain ⟨hobserved, hempty⟩ := patched_value (fun hr => by subst hr; exact hlanguage)
      (fun hr => by subst hr; exact hindex) hw (hsame.1.trans hpatched) (hsame.2.1.trans hreview)
    rw [hsame.2.2, heq.2] at hobserved hempty
    exact ⟨r, heq.1, hobserved, hempty⟩

end Book

/-! ### Books that get through -/

/-- A verdict that does not keep a book from being eligible. -/
structure Fine (v : FieldVerdict) : Prop where
  risk : v.isHighRisk = false
  decided : v.isRealAmbiguous = false
  review : v.requiresReview = false
  confident : v.isDecided = true → 85 ≤ v.confidence

theorem mul_length_le_sum {c : ℕ} {vs : List FieldVerdict} (h : ∀ v ∈ vs, c ≤ v.confidence) :
    c * vs.length ≤ (vs.map FieldVerdict.confidence).sum := by
  induction vs with
  | nil => exact Nat.le_refl _
  | cons v vs ih =>
    have hhead := h v List.mem_cons_self
    have htail := ih fun w hw => h w (List.mem_cons_of_mem _ hw)
    rw [List.length_cons, List.map_cons, List.sum_cons, Nat.mul_succ]
    omega

theorem le_meanConfidence {c : ℕ} {vs : List FieldVerdict} (hne : vs ≠ [])
    (h : ∀ v ∈ vs, c ≤ v.confidence) : c ≤ meanConfidence vs := by
  rw [meanConfidence, Nat.le_div_iff_mul_le (List.length_pos_iff.mpr hne)]
  exact mul_length_le_sum h

theorem isDecided_of_isPatched (h : v.isPatched = true) : v.isDecided = true := by
  rcases isPatched_iff.mp h with h | h <;> simp [FieldVerdict.isDecided, h]

/-- A book of such verdicts is eligible as soon as one field is patched. -/
theorem eligible_of_fine {vs : List FieldVerdict} (h : ∀ v ∈ vs, Fine v) {w : FieldVerdict}
    (hw : w ∈ vs) (hpatched : w.isPatched = true) : Eligible vs := by
  have hdecided : w ∈ vs.filter FieldVerdict.isDecided :=
    List.mem_filter.mpr ⟨hw, isDecided_of_isPatched hpatched⟩
  have hpatch : w ∈ vs.filter FieldVerdict.isPatched := List.mem_filter.mpr ⟨hw, hpatched⟩
  have hmean : 85 ≤ meanConfidence (vs.filter FieldVerdict.isDecided) :=
    le_meanConfidence (List.ne_nil_of_mem hdecided) fun v hv =>
      (h v (List.mem_filter.mp hv).1).confident (List.mem_filter.mp hv).2
  have hmean' : 85 ≤ meanConfidence (vs.filter FieldVerdict.isPatched) :=
    le_meanConfidence (List.ne_nil_of_mem hpatch) fun v hv =>
      (h v (List.mem_filter.mp hv).1).confident (isDecided_of_isPatched (List.mem_filter.mp hv).2)
  have hrisk : ¬vs.any FieldVerdict.isHighRisk = true := by
    rw [Bool.not_eq_true, List.any_eq_false]
    exact fun v hv => Bool.eq_false_iff.mp (h v hv).risk
  have hreal : ¬vs.any FieldVerdict.isRealAmbiguous = true := by
    rw [Bool.not_eq_true, List.any_eq_false]
    exact fun v hv => Bool.eq_false_iff.mp (h v hv).decided
  have hconfirmed : ¬((vs.filter FieldVerdict.isDecided).all fun v => v.verdict = .confirmed) = true := by
    rw [List.all_eq_true]
    intro hall
    have hkind := of_decide_eq_true (hall w hdecided)
    rcases isPatched_iff.mp hpatched with h | h
    · rw [h] at hkind
      cases hkind
    · rw [h] at hkind
      cases hkind
  refine ⟨?_, fun v hv => (h v hv).decided, fun v hv => (h v hv).risk, List.ne_nil_of_mem hpatch,
    hmean'.trans' (by decide), fun v hv hp => ?_⟩
  · rw [ContentVerificationEngine.decideAction]
    simp only [if_neg hrisk, if_neg hreal, if_neg (List.ne_nil_of_mem hdecided), if_neg hconfirmed,
      if_pos hmean]
  · have hconfident := (h v hv).confident (isDecided_of_isPatched hp)
    exact ⟨by omega, (h v hv).review⟩

/-- A verdict without its evidence. -/
def bare (v : FieldVerdict) : FieldVerdict := { v with evidence := [] }

theorem verifyLanguage_bare (p q : Option String) :
    bare (verifyLanguage py declared observed p) = bare (verifyLanguage py declared observed q) := by
  simp only [verifyLanguage, Presence.verify]
  split_ifs <;> rfl

theorem verifySeriesIndex_bare (p q : Option String) :
    (verifySeriesIndex py declared observed p).map bare =
      (verifySeriesIndex py declared observed q).map bare := by
  simp only [verifySeriesIndex]
  split_ifs <;> rfl

theorem verifyLanguage_fine (h : (verifyLanguage py declared observed none).isRealAmbiguous = false) :
    Fine (verifyLanguage py declared observed pageRange) := by
  have hbare := @verifyLanguage_bare py declared observed
    pageRange none
  have hreal := congrArg FieldVerdict.isRealAmbiguous hbare
  have hfacts : (verifyLanguage py declared observed pageRange).riskFlags = [] ∧
      (verifyLanguage py declared observed pageRange).requiresReview = false ∧
      ((verifyLanguage py declared observed pageRange).isDecided = true →
        85 ≤ (verifyLanguage py declared observed pageRange).confidence) := by
    simp only [verifyLanguage, Presence.verify, compareLanguages]
    split_ifs <;> simp [FieldVerdict.isDecided]
  refine ⟨?_, hreal.trans h, hfacts.2.1, hfacts.2.2⟩
  rw [FieldVerdict.isHighRisk, hfacts.1]
  rfl

theorem verifySeriesIndex_fine (h : verifySeriesIndex py declared observed none = .ok v)
    (hreal : v.isRealAmbiguous = false) :
    ∃ w, verifySeriesIndex py declared observed pageRange = .ok w ∧ Fine w ∧ bare w = bare v := by
  have hbare := @verifySeriesIndex_bare py declared observed
    pageRange none
  rw [h] at hbare
  cases hw : verifySeriesIndex py declared observed pageRange with
  | error e =>
    rw [hw] at hbare
    cases hbare
  | ok w =>
    rw [hw, Except.map, Except.map, Except.ok.injEq] at hbare
    have hok := verifySeriesIndex_ok hw
    have hdecided := congrArg FieldVerdict.isRealAmbiguous hbare
    refine ⟨w, rfl, ⟨?_, hdecided.trans hreal, hok.review, hok.confident⟩, hbare⟩
    rw [FieldVerdict.isHighRisk, hok.flags]
    rfl

/-! ### A book that is cleared -/

/-- A book with a language and a series index, and nothing else. -/
def twoFieldsDeclared (language index : Value) : DeclaredMetadata :=
  { language := language, seriesIndex := index }

/-- What was observed of it. -/
def twoFieldsObserved (language index : Value) : ObservationSet :=
  { languageDetected := language, seriesIndexExtracted := index }

/-- The rules of the other fields have nothing to decide. -/
theorem applyRule_nothing {r : RuleName} {ctx : RuleContext} (hr : r ≠ .authors) :
    ∃ v, applyRule py r .null .null ctx = .ok v ∧ Fine v := by
  have hsilent : ∀ {v : FieldVerdict}, v.riskFlags = [] → v.requiresReview = false →
      v.verdict = .ambiguous → v.isSilent = true → Fine v := by
    intro v hflags hreview hkind hsilent
    refine ⟨?_, ?_, hreview, fun h => ?_⟩
    · rw [FieldVerdict.isHighRisk, hflags]
      rfl
    · rw [FieldVerdict.isRealAmbiguous, hsilent, Bool.not_true, Bool.and_false]
    · simp [FieldVerdict.isDecided, hkind] at h
  have hconfirmed : ∀ {v : FieldVerdict}, v.riskFlags = [] → v.requiresReview = false →
      v.verdict = .confirmed → 85 ≤ v.confidence → Fine v := by
    intro v hflags hreview hkind hrange
    refine ⟨?_, ?_, hreview, fun _ => hrange⟩
    · rw [FieldVerdict.isHighRisk, hflags]
      rfl
    · simp [FieldVerdict.isRealAmbiguous, hkind]
  cases r with
  | authors => exact absurd rfl hr
  | isbn | title | publisher | publishedDate | language =>
    exact ⟨_, rfl, hsilent rfl rfl rfl rfl⟩
  | series =>
    refine ⟨_, rfl, ?_⟩
    cases hany : ctx.observedAny with
    | true => exact hconfirmed rfl rfl rfl (show 85 ≤ 95 by decide)
    | false => exact hconfirmed rfl rfl rfl (show 85 ≤ 90 by decide)
  | seriesIndex | volume | chapter | seriesPosition =>
    exact ⟨_, rfl, hconfirmed rfl rfl rfl (show 85 ≤ 90 by decide)⟩

theorem verifyAuthors_nothing {ctx : RuleContext} :
    ∃ v, applyRule py .authors (.list []) .null ctx = .ok v ∧ Fine v := by
  refine ⟨_, rfl, ?_⟩
  exact ⟨rfl, rfl, rfl, fun h => by simp [FieldVerdict.isDecided] at h⟩

section TwoFields

variable {language language' index index' : Value} {declOrder obsOrder : SetOrder}
  {bookKey runId : String}

theorem applyRule_twoFields (hthrough : LetThrough py language language' index index') (r : RuleName) :
    ∃ v, applyRule py r ((twoFieldsDeclared language index).get r)
      ((twoFieldsObserved language' index').get r)
      (ContentVerificationEngine.contextOf declOrder obsOrder (twoFieldsObserved language' index') r) =
        .ok v ∧ Fine v := by
  obtain ⟨hlanguage, v, hv, hreal⟩ := hthrough
  cases r with
  | language => exact ⟨_, rfl, verifyLanguage_fine hlanguage⟩
  | seriesIndex =>
    obtain ⟨w, hw, hfine, -⟩ := @verifySeriesIndex_fine _ _ _ (some "running") _ hv hreal
    exact ⟨w, hw, hfine⟩
  | authors => exact verifyAuthors_nothing
  | _ => exact applyRule_nothing (by decide)

/-- A book with a cleared field is eligible. -/
theorem exists_cleared_book (hthrough : LetThrough py language language' index index')
    (hclears : LanguageClears py language language' ∨ SeriesIndexClears index index') :
    ∃ book, ContentVerificationEngine.verify py declOrder obsOrder {} bookKey runId
        (twoFieldsDeclared language index) (twoFieldsObserved language' index') = .ok book ∧
      book.autoApplyEligible = true ∧
      ∃ field value, (field, value) ∈ book.proposedPatch ∧ Value.isEmpty value = true := by
  have hrules := @applyRule_twoFields _ _ _ _ _ declOrder obsOrder hthrough
  obtain ⟨book, hbook⟩ := (@ContentVerificationEngine.verify_isOk_iff _ _ _ {} bookKey runId _ _).mpr
    fun r => (hrules r).imp fun _ => And.left
  obtain ⟨verdicts, hverdicts, hwhole⟩ := ContentVerificationEngine.exists_of_verify hbook
  have hfine : ∀ r, Fine (verdicts r) := by
    intro r
    obtain ⟨v, hv, hfine⟩ := hrules r
    obtain ⟨w, hw, hfield⟩ := hverdicts r
    rw [hv, Except.ok.injEq] at hw
    rw [hfield, ← hw]
    exact ⟨hfine.risk, hfine.decided, hfine.review, hfine.confident⟩
  have hcleared : ∃ r, (verdicts r).isPatched = true ∧
      Value.isEmpty (verdicts r).observedValue = true := by
    rcases hclears with ⟨hempty, hnone, habsent, hdiffer⟩ | ⟨hmissing, hthere, hempty⟩
    · obtain ⟨w, hw, hfield⟩ := hverdicts .language
      have htruthy : (language.isNull && language'.truthy) = false := by
        cases htruthy : language'.truthy with
        | true =>
          rw [not_isEmpty_of_truthy htruthy] at hempty
          cases hempty
        | false => rw [Bool.and_false]
      have hverdict : verifyLanguage py language language' (some "running") =
          compareLanguages py language language' := by
        simp only [verifyLanguage, Presence.verify, hnone, htruthy, habsent, Bool.false_eq_true,
          if_false]
      have hsame : w = compareLanguages py language language' :=
        (Except.ok.inj hw).symm.trans hverdict
      refine ⟨.language, ?_, ?_⟩
      · rw [hfield, hsame, compareLanguages, if_neg hdiffer]
        rfl
      · rw [hfield, hsame, compareLanguages, if_neg hdiffer]
        exact hempty
    · obtain ⟨w, hw, hfield⟩ := hverdicts .seriesIndex
      have hverdict := hw
      change verifySeriesIndex py index index' (some "running") = .ok w at hverdict
      rw [verifySeriesIndex, if_neg (by rw [hthere]; simp), if_pos hmissing, Except.ok.injEq]
        at hverdict
      refine ⟨.seriesIndex, ?_, ?_⟩
      · rw [hfield, ← hverdict]
        rfl
      · rw [hfield, ← hverdict]
        exact hempty
  obtain ⟨r, hpatched, hempty⟩ := hcleared
  have hmem : verdicts r ∈ (fieldBindings.map fun r => (r.key, verdicts r)).map Prod.snd := by
    rw [List.map_map]
    exact List.mem_map_of_mem (ContentVerificationEngine.mem_fieldBindings r)
  refine ⟨book, hbook, ?_, r.key, (verdicts r).observedValue, ?_, hempty⟩
  · rw [hwhole]
    refine eligible_iff.mpr (eligible_of_fine (fun v hv => ?_) hmem hpatched)
    obtain ⟨p, hp, rfl⟩ := List.mem_map.mp hv
    obtain ⟨r', -, rfl⟩ := List.mem_map.mp hp
    exact hfine r'
  · rw [hwhole]
    refine List.mem_map.mpr ⟨(r.key, verdicts r), List.mem_filter.mpr ⟨?_, hpatched⟩, rfl⟩
    exact List.mem_map_of_mem (ContentVerificationEngine.mem_fieldBindings r)

/-- An eligible book comes from rules that let it through. -/
theorem letThrough_of_eligible {declared : DeclaredMetadata} {observed : ObservationSet}
    {book : BookVerdict}
    (hbook : ContentVerificationEngine.verify py declOrder obsOrder {} bookKey runId declared observed =
      .ok book) (heligible : book.autoApplyEligible = true) :
    LetThrough py declared.language observed.languageDetected declared.seriesIndex
      observed.seriesIndexExtracted := by
  obtain ⟨verdicts, hverdicts, rfl⟩ := ContentVerificationEngine.exists_of_verify hbook
  have h := eligible_iff.mp heligible
  have hreal : ∀ r, (verdicts r).isRealAmbiguous = false := by
    intro r
    refine h.decided _ ?_
    rw [List.map_map]
    exact List.mem_map_of_mem (ContentVerificationEngine.mem_fieldBindings r)
  constructor
  · obtain ⟨w, hw, hfield⟩ := hverdicts .language
    have hdecided := hreal .language
    rw [hfield, ← Except.ok.inj hw] at hdecided
    have hbare := @verifyLanguage_bare py declared.language observed.languageDetected
      none (some (observed.pageRange .language))
    exact (congrArg FieldVerdict.isRealAmbiguous hbare).trans hdecided
  · obtain ⟨w, hw, hfield⟩ := hverdicts .seriesIndex
    have hdecided := hreal .seriesIndex
    rw [hfield] at hdecided
    have hbare := @verifySeriesIndex_bare py declared.seriesIndex
      observed.seriesIndexExtracted none (some (observed.pageRange .seriesIndex))
    change verifySeriesIndex py declared.seriesIndex observed.seriesIndexExtracted
      (some (observed.pageRange .seriesIndex)) = .ok w at hw
    rw [hw] at hbare
    cases hv : verifySeriesIndex py declared.seriesIndex observed.seriesIndexExtracted none with
    | error e =>
      rw [hv] at hbare
      cases hbare
    | ok v =>
      rw [hv, Except.map, Except.map, Except.ok.injEq] at hbare
      exact ⟨v, rfl, (congrArg FieldVerdict.isRealAmbiguous hbare).trans hdecided⟩

end TwoFields

/-- **The auto-apply gate.** For given values of language and series index, every eligible book is
sound exactly when neither of the two rules clears its field, or one of them keeps the book from
being eligible. -/
theorem autoApply_sound_iff (py : RuleRuntime) (language language' index index' : Value) :
    (∀ (declOrder obsOrder : SetOrder) (bookKey runId : String) (declared : DeclaredMetadata)
        (observed : ObservationSet) (book : BookVerdict),
      declared.language = language → observed.languageDetected = language' →
      declared.seriesIndex = index → observed.seriesIndexExtracted = index' →
      ContentVerificationEngine.verify py declOrder obsOrder {} bookKey runId declared observed =
        .ok book → book.autoApplyEligible = true → GateSound py observed book) ↔
      ¬((LanguageClears py language language' ∨ SeriesIndexClears index index') ∧
        LetThrough py language language' index index') := by
  constructor
  · rintro h ⟨hclears, hthrough⟩
    obtain ⟨book, hbook, heligible, field, value, hmem, hempty⟩ :=
      @exists_cleared_book _ _ _ _ _ .plain .plain "" ""
        hthrough hclears
    obtain ⟨r, -, -, hnonempty⟩ :=
      (h _ _ _ _ _ _ book rfl rfl rfl rfl hbook heligible).observed field value hmem
    rw [hempty] at hnonempty
    cases hnonempty
  · rintro h declOrder obsOrder bookKey runId declared observed book rfl rfl rfl rfl hbook heligible
    have hclears := not_and'.mp h (letThrough_of_eligible hbook heligible)
    rw [not_or] at hclears
    exact gateSound_of_eligible hclears.1 hclears.2 hbook heligible

/-- A declared language with an empty detected one: the book is eligible, and its patch is the empty
language. -/
theorem language_is_cleared :
    ∃ book, ContentVerificationEngine.verify .ascii .plain .plain {} "1" "run"
        { language := .str "eng" } { languageDetected := .str "" } = .ok book ∧
      book.autoApplyEligible = true ∧ book.proposedPatch = [("language", .str "")] :=
  ⟨_, rfl, rfl, rfl⟩

end Bookwarden.Verification
