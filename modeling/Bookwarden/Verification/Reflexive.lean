import Bookwarden.Verification.Total

/-!
# A value against itself

Where the same value is declared and observed there is nothing to patch. The title rule patches all
the same: it cleans the declared title before it looks whether the two are equal, and a title that
ends in a question mark is dirty to it. And an infinity and NaN are not close to themselves.

## Main definitions

* `LooksNoisy`, `SelfContradicting` — the values that a rule does not accept as their own confirmation

## Main results

* `applyRule_self` — the verdict on a value against itself
* `self_verdict_iff` — the rules and the engine on equal values
-/

namespace Bookwarden.Verification

variable (py : RuleRuntime)

/-- A title that is noise to itself: cleaning it, cutting its punctuation or cutting it before `by`
does not change its normal form, or it has the shape of a file name. -/
def LooksNoisy (v : Value) : Prop :=
  let raw := strip (v.toStr py)
  let norm := normalizeText py v
  norm ≠ "" ∧
    (hasJunk py raw norm = true ∨ hasTrailingPunctuation py raw norm = true ∨
      hasByAuthor py raw norm = true ∨ looksFilenameDerived py raw norm = true)

/-- The values that a rule does not accept as their own confirmation. -/
def SelfContradicting (r : RuleName) (v : Value) : Prop :=
  match r with
  | .title => LooksNoisy py v
  | .seriesIndex => IsHuge v ∨ ∃ x, floatOf py v = .ok (some x) ∧ x.isFinite = false
  | .volume => IsHuge v ∨ ReadsUnbounded py v
  | .chapter => IsHuge v ∨ ReadsUnbounded py v
  | .seriesPosition => IsHuge v ∨ ReadsUnbounded py v
  | _ => False

/-- A verdict without risk that patches exactly under a condition. -/
def PatchesIff (w : FieldVerdict) (p : Prop) : Prop :=
  w.riskFlags = [] ∧ (w.isPatched = true ↔ p)

variable {py} {v : Value} {w : FieldVerdict} {pageRange : Option String}

theorem patchesIff_of_not {p : Prop} (hflags : w.riskFlags = []) (hw : w.isPatched = false)
    (hp : ¬p) : PatchesIff w p :=
  ⟨hflags, iff_of_false (by rw [hw]; exact Bool.false_ne_true) hp⟩

/-! ### Titles -/

theorem titleNoise_self : (titleNoise py v v pageRange).isSome = true ↔
    hasJunk py (strip (v.toStr py)) (normalizeText py v) = true ∨
      hasTrailingPunctuation py (strip (v.toStr py)) (normalizeText py v) = true ∨
      hasByAuthor py (strip (v.toStr py)) (normalizeText py v) = true ∨
      looksFilenameDerived py (strip (v.toStr py)) (normalizeText py v) = true := by
  simp only [titleNoise, Bool.and_not_self, Bool.false_and, Bool.false_eq_true, if_false]
  split_ifs <;> simp [*]

theorem compareTitles_self :
    (compareTitles py v v pageRange false).verdict = .confirmed ∧
      (compareTitles py v v pageRange false).riskFlags = [] := by
  have hratio : (19 / 20 : ℚ) ≤ 1 := by norm_num
  constructor <;> simp [compareTitles, hratio]

theorem verifyTitle_self : PatchesIff (verifyTitle py v v pageRange "high") (LooksNoisy py v) := by
  by_cases hnull : v.isNull = true
  · have hnoisy : ¬LooksNoisy py v := by
      rw [Value.isNull_iff.mp hnull]
      exact fun h => h.1 rfl
    refine patchesIff_of_not ?_ ?_ hnoisy <;> simp [verifyTitle, hnull, FieldVerdict.isPatched]
  · rw [verifyTitle]
    have hfalse : v.isNull = false := Bool.eq_false_iff.mpr hnull
    simp only [hfalse, Bool.false_and, Bool.and_false, Bool.false_eq_true, if_false, or_self]
    by_cases hempty : normalizeText py v = ""
    · rw [if_pos hempty]
      exact patchesIff_of_not rfl rfl fun h => h.1 hempty
    · rw [if_neg hempty]
      have hself := @titleNoise_self py v pageRange
      cases hnoise : titleNoise py v v pageRange with
      | some noise =>
        rw [hnoise] at hself
        exact ⟨rfl, iff_of_true rfl ⟨hempty, hself.mp rfl⟩⟩
      | none =>
        rw [hnoise] at hself
        obtain ⟨hconfirmed, hflags⟩ := @compareTitles_self py v pageRange
        refine patchesIff_of_not hflags ?_ fun h => absurd (hself.mpr h.2) (by decide)
        simp only [FieldVerdict.isPatched]
        show (_ || _) = false
        rw [show decide ("high" = "low") = false from rfl, hconfirmed]
        rfl

/-! ### Texts and names -/

theorem sameSet_self (l : List String) : sameSet l l = true := by
  simp [sameSet]

theorem verifyIsbn_self :
    ∃ w, verifyIsbn py v v pageRange = .ok w ∧ PatchesIff w False := by
  rw [verifyIsbn]
  by_cases hempty : isbnText py v = ""
  · rw [if_pos ⟨hempty, hempty⟩]
    exact ⟨_, rfl, patchesIff_of_not rfl rfl id⟩
  · rw [if_neg fun h => hempty h.1, if_neg hempty, if_neg hempty, compareIsbns]
    cases hvalid : isbnIsValid (isbnText py v) with
    | true => exact ⟨_, by simp [pure, Except.pure]; rfl, patchesIff_of_not rfl rfl id⟩
    | false => exact ⟨_, by simp [pure, Except.pure]; rfl, patchesIff_of_not rfl rfl id⟩

theorem verifyAuthors_self {declOrder obsOrder : SetOrder} :
    ∃ w, verifyAuthors py declOrder obsOrder v v pageRange "high" = .ok w ∧ PatchesIff w False := by
  rw [verifyAuthors]
  by_cases hempty : authorList py v = []
  · rw [if_pos ⟨hempty, hempty⟩]
    exact ⟨_, rfl, patchesIff_of_not rfl rfl id⟩
  · have hsame : authorsEqual py (authorList py v) (authorList py v) = .ok true := by
      rw [authorsEqual, if_pos (sameSet_self _)]
      rfl
    rw [if_neg fun h => hempty h.1, if_neg hempty, if_neg hempty, hsame]
    exact ⟨_, rfl, patchesIff_of_not rfl rfl id⟩

/-- The opening of a rule leaves the comparison of a value that is there with itself. -/
theorem presence_self {p : Presence} {compare : FieldVerdict} (h : PatchesIff compare False) :
    PatchesIff (p.verify py v v pageRange compare) False := by
  rw [Presence.verify]
  cases hnull : v.isNull with
  | true => exact patchesIff_of_not rfl rfl id
  | false => simpa using h

theorem verifyPublisher_self : PatchesIff (verifyPublisher py v v pageRange) False := by
  refine presence_self ?_
  simp only [comparePublishers, if_true]
  exact patchesIff_of_not rfl rfl id

theorem verifyPublishedDate_self : PatchesIff (verifyPublishedDate py v v pageRange) False := by
  refine presence_self ?_
  rw [compareDates]
  cases dateYear py v with
  | none => exact patchesIff_of_not rfl rfl id
  | some year =>
    simp only [ne_eq, not_true_eq_false, if_false]
    exact patchesIff_of_not rfl rfl id

theorem verifyLanguage_self : PatchesIff (verifyLanguage py v v pageRange) False := by
  refine presence_self ?_
  simp only [compareLanguages, if_true]
  exact patchesIff_of_not rfl rfl id

theorem verifySeries_self {observedAny : Bool} :
    PatchesIff (verifySeries py v v pageRange observedAny) False := by
  rw [verifySeries]
  cases hnull : v.isNull with
  | true => cases observedAny <;> exact patchesIff_of_not rfl rfl id
  | false =>
    simp only [Bool.false_and, Bool.and_false, Bool.false_eq_true, if_false, if_true]
    exact patchesIff_of_not rfl rfl id

/-! ### Numbers -/

theorem isClose_self (x : Double) : isClose x x = x.isFinite :=
  Double.abs_sub_self_lt (by norm_num [tolerance]) x

theorem verifySeriesIndex_self (h : verifySeriesIndex py v v pageRange = .ok w) :
    PatchesIff w (SelfContradicting py .seriesIndex v) := by
  have hsmall : ¬(v ≠ .null ∧ IsHuge v) := fun hhuge => by
    have herror := @verifySeriesIndex_error_iff py _ _ pageRange
      |>.mpr ⟨hhuge.1, hhuge.1, .inl hhuge.2⟩
    rw [h] at herror
    simp at herror
  show PatchesIff w (IsHuge v ∨ ∃ x, floatOf py v = .ok (some x) ∧ x.isFinite = false)
  rw [verifySeriesIndex] at h
  cases hnull : v.isNull with
  | true =>
    rw [Value.isNull_iff.mp hnull] at h ⊢
    cases h
    refine patchesIff_of_not rfl rfl ?_
    rintro (hhuge | ⟨x, hx, -⟩)
    · exact hhuge
    · cases hx
  | false =>
    have hne : v ≠ .null := fun heq => by
      rw [heq] at hnull
      cases hnull
    have hnothuge : ¬IsHuge v := fun hhuge => hsmall ⟨hne, hhuge⟩
    simp only [hnull, Bool.false_and, Bool.false_eq_true, if_false] at h
    cases hfloat : floatOf py v with
    | error e => exact absurd (floatOf_error_iff.mp ⟨e, hfloat⟩) hnothuge
    | ok x =>
      rw [hfloat] at h
      cases x with
      | none =>
        cases h
        refine patchesIff_of_not rfl rfl ?_
        rintro (hhuge | ⟨x, hx, -⟩)
        · exact hnothuge hhuge
        · cases hx
      | some x =>
        simp only [bind, Except.bind, isClose_self] at h
        cases hfinite : x.isFinite with
        | true =>
          simp [hfinite, pure, Except.pure] at h
          rw [← h]
          refine patchesIff_of_not rfl rfl ?_
          rintro (hhuge | ⟨y, hy, hinfinite⟩)
          · exact hnothuge hhuge
          · cases hy
            rw [hfinite] at hinfinite
            cases hinfinite
        | false =>
          simp [hfinite, pure, Except.pure] at h
          rw [← h]
          exact ⟨rfl, iff_of_true rfl (.inr ⟨x, rfl, hfinite⟩)⟩

/-- A numeric rule patches a value with itself when the number does not equal itself. -/
theorem numericRule_self {r : NumericRule} (h : r.verify py v v pageRange = .ok w) :
    PatchesIff w (∃ x declText obsText, coerceNumber py v = .ok (some x) ∧
      r.compare x x = .ok (false, declText, obsText)) := by
  rw [NumericRule.verify] at h
  cases hx : coerceNumber py v with
  | error e =>
    rw [hx] at h
    cases h
  | ok x =>
    rw [hx] at h
    cases x with
    | none =>
      cases h
      exact patchesIff_of_not rfl rfl (by simp)
    | some x =>
      simp only [bind, Except.bind] at h
      cases hcompare : r.compare x x with
      | error e =>
        rw [hcompare] at h
        cases h
      | ok result =>
        obtain ⟨same, declText, obsText⟩ := result
        rw [hcompare] at h
        cases same with
        | true =>
          cases h
          refine patchesIff_of_not rfl rfl ?_
          rintro ⟨y, dt, ot, hy, hfalse⟩
          cases hy
          rw [hcompare] at hfalse
          cases hfalse
        | false =>
          cases h
          exact ⟨rfl, iff_of_true rfl ⟨x, declText, obsText, rfl, hcompare⟩⟩

theorem closeRule_self {field label tolerant : String}
    (h : NumericRule.verify py ⟨field, label, tolerant, compareClose py⟩ v v pageRange = .ok w) :
    PatchesIff w (IsHuge v ∨ ReadsUnbounded py v) := by
  obtain ⟨hflags, hiff⟩ := numericRule_self h
  have hsmall : ¬IsHuge v := fun hhuge => by
    have herror := @closeRule_error_iff py field label tolerant v v pageRange
      |>.mpr (.inl hhuge)
    rw [h] at herror
    simp at herror
  refine ⟨hflags, hiff.trans ⟨?_, ?_⟩⟩
  · rintro ⟨x, declText, obsText, hx, hcompare⟩
    have hclose : compareClose py x x = .ok (false, declText, obsText) := hcompare
    rw [compareClose, Except.ok.injEq, Prod.mk.injEq, isClose_self] at hclose
    exact .inr ⟨x, hx, hclose.1⟩
  · rintro (hhuge | ⟨x, hx, hinfinite⟩)
    · exact absurd hhuge hsmall
    · refine ⟨x, py.doubleRepr x, py.doubleRepr x, hx, ?_⟩
      show compareClose py x x = _
      rw [compareClose, isClose_self, hinfinite]

theorem verifyVolume_self (h : verifyVolume py v v pageRange = .ok w) :
    PatchesIff w (SelfContradicting py .volume v) := by
  obtain ⟨hflags, hiff⟩ := numericRule_self h
  have hraises : ¬Raises py .volume v v := fun hraises => by
    have herror := (@verifyVolume_error_iff _ _ _ pageRange).mpr hraises
    rw [h] at herror
    simp at herror
  have hnot : ¬(IsHuge v ∨ ReadsUnbounded py v) := by
    rintro (hhuge | ⟨x, hx, hinfinite⟩)
    · exact hraises (.inl hhuge)
    · exact hraises (.inr (.inr ⟨⟨x, hx⟩, ⟨x, hx⟩, .inl ⟨x, hx, hinfinite⟩⟩))
  refine ⟨hflags, hiff.trans (iff_of_false ?_ hnot)⟩
  -- whole numbers equal themselves
  rintro ⟨x, declText, obsText, -, hcompare⟩
  dsimp only [compareRounded] at hcompare
  cases hround : intRound x with
  | error e =>
    rw [hround] at hcompare
    cases hcompare
  | ok n =>
    rw [hround] at hcompare
    simp [bind, Except.bind, pure, Except.pure] at hcompare

/-! ### The rules and the engine -/

/-- A rule raises of a value against itself only when it does not accept it. -/
theorem selfContradicting_of_raises {r : RuleName} (h : Raises py r v v) :
    SelfContradicting py r v := by
  cases r with
  | isbn =>
    obtain ⟨w, hw, -⟩ := @verifyIsbn_self py v none
    obtain ⟨e, he⟩ := (@verifyIsbn_error_iff _ _ _ none).mpr h
    rw [hw] at he
    cases he
  | authors =>
    obtain ⟨-, -, hsame, -⟩ := h
    rw [sameSet_self] at hsame
    cases hsame
  | seriesIndex =>
    obtain ⟨-, -, hhuge | hhuge⟩ := h
    · exact .inl hhuge
    · exact .inl hhuge.1
  | volume =>
    rcases h with hhuge | hhuge | ⟨-, -, hunbounded⟩
    · exact .inl hhuge
    · exact .inl hhuge
    · exact .inr (hunbounded.elim id id)
  | chapter => exact .inl (h.elim id id)
  | seriesPosition => exact .inl (h.elim id id)
  | _ => exact h.elim

/-- The verdict on a value against itself. -/
theorem applyRule_self {r : RuleName} {ctx : RuleContext} (hquality : ctx.evidenceQuality = "high")
    (h : applyRule py r v v ctx = .ok w) : PatchesIff w (SelfContradicting py r v) := by
  cases r with
  | isbn =>
    obtain ⟨w', hw', hself⟩ := @verifyIsbn_self py v ctx.pageRange
    rw [applyRule, hw', Except.ok.injEq] at h
    exact h ▸ hself
  | title =>
    rw [applyRule, hquality, Except.ok.injEq] at h
    exact h ▸ verifyTitle_self
  | authors =>
    obtain ⟨w', hw', hself⟩ := @verifyAuthors_self py v ctx.pageRange ctx.declOrder ctx.obsOrder
    rw [applyRule, hquality, hw', Except.ok.injEq] at h
    exact h ▸ hself
  | publisher => exact Except.ok.inj h ▸ verifyPublisher_self
  | publishedDate => exact Except.ok.inj h ▸ verifyPublishedDate_self
  | language => exact Except.ok.inj h ▸ verifyLanguage_self
  | series => exact Except.ok.inj h ▸ verifySeries_self
  | seriesIndex => exact verifySeriesIndex_self h
  | volume => exact verifyVolume_self h
  | chapter => exact closeRule_self h
  | seriesPosition => exact closeRule_self h

/-- The fields that the engine patches. -/
theorem proposedPatch_eq_nil_iff {engine : ContentVerificationEngine} {bookKey runId : String}
    {verdicts : RuleName → FieldVerdict} :
    (engine.aggregate bookKey runId (fieldBindings.map fun r => (r.key, verdicts r))).proposedPatch
      = [] ↔ ∀ r, (verdicts r).isPatched = false := by
  simp only [ContentVerificationEngine.aggregate, List.map_eq_nil_iff, List.filter_eq_nil_iff,
    List.mem_map, forall_exists_index, and_imp, forall_apply_eq_imp_iff₂, Bool.not_eq_true]
  exact ⟨fun h r => h r (ContentVerificationEngine.mem_fieldBindings r), fun h r _ => h r⟩

/-- **A value against itself.** A rule returns a verdict that neither patches nor raises a flag,
unless it does not accept the value. The engine proposes nothing for a book whose declared metadata
are what was observed, unless the rule of a field does not accept its value. -/
theorem self_verdict_iff (py : RuleRuntime) :
    (∀ r v ctx, ctx.evidenceQuality = "high" → ((∃ w, applyRule py r v v ctx = .ok w ∧
      w.verdict ≠ .mismatch ∧ w.verdict ≠ .missing ∧ w.riskFlags = []) ↔
        ¬SelfContradicting py r v)) ∧
    ∀ (engine : ContentVerificationEngine) (declOrder obsOrder : SetOrder) (bookKey runId : String)
      (declared : DeclaredMetadata) (observed : ObservationSet),
      observed.evidenceQuality = "high" → (∀ r, declared.get r = observed.get r) →
        ((∃ book, engine.verify py declOrder obsOrder bookKey runId declared observed = .ok book ∧
          book.proposedPatch = []) ↔ ∀ r, ¬SelfContradicting py r (declared.get r)) := by
  have hpatched : ∀ w : FieldVerdict,
      w.isPatched = false ↔ w.verdict ≠ .mismatch ∧ w.verdict ≠ .missing := by
    intro w
    simp [FieldVerdict.isPatched]
  constructor
  · intro r v ctx hquality
    constructor
    · rintro ⟨w, hw, hmismatch, hmissing, -⟩ hself
      have htrue := (applyRule_self hquality hw).2.mpr hself
      rw [(hpatched w).mpr ⟨hmismatch, hmissing⟩] at htrue
      cases htrue
    · intro hself
      obtain ⟨w, hw⟩ := (@applyRule_isOk_iff _ _ _ _ ctx).mpr fun hraises =>
        hself (selfContradicting_of_raises hraises)
      obtain ⟨hflags, hiff⟩ := applyRule_self hquality hw
      have hnot := (hpatched w).mp (Bool.eq_false_iff.mpr fun h => hself (hiff.mp h))
      exact ⟨w, hw, hnot.1, hnot.2, hflags⟩
  · intro engine declOrder obsOrder bookKey runId declared observed hquality hsame
    constructor
    · rintro ⟨book, hbook, hnil⟩ r hself
      obtain ⟨verdicts, hverdicts, rfl⟩ := ContentVerificationEngine.exists_of_verify hbook
      obtain ⟨w, hw, hfield⟩ := hverdicts r
      rw [← hsame r] at hw
      have htrue := (applyRule_self (r := r) hquality hw).2.mpr hself
      have hfalse := proposedPatch_eq_nil_iff.mp hnil r
      rw [hfield] at hfalse
      exact absurd (htrue.symm.trans hfalse) (by decide)
    · intro hself
      have hreturns := @ContentVerificationEngine.verify_isOk_iff py declOrder obsOrder engine
        bookKey runId declared observed
      obtain ⟨book, hbook⟩ := hreturns.mpr fun r => by
          rw [← hsame r]
          exact applyRule_isOk_iff.mpr fun hraises => hself r (selfContradicting_of_raises hraises)
      refine ⟨book, hbook, ?_⟩
      obtain ⟨verdicts, hverdicts, rfl⟩ := ContentVerificationEngine.exists_of_verify hbook
      refine proposedPatch_eq_nil_iff.mpr fun r => ?_
      obtain ⟨w, hw, hfield⟩ := hverdicts r
      rw [← hsame r] at hw
      have hiff := (applyRule_self (r := r) hquality hw).2
      rw [hfield, Bool.eq_false_iff]
      exact fun h => hself r (hiff.mp h)

/-- A book whose title and language are what was observed. -/
theorem dune_is_left_alone :
    ∃ book, ContentVerificationEngine.verify .ascii .plain .plain {} "1" "run"
      { title := .str "Dune", language := .str "eng" }
      { titleExtracted := .str "Dune", languageDetected := .str "eng"
        authorsExtracted := .list [] } = .ok book ∧ book.proposedPatch = [] := by
  refine ((self_verdict_iff .ascii).2 _ _ _ _ _ _ _ rfl (fun r => by cases r <;> rfl)).mpr ?_
  intro r hself
  cases r with
  | title =>
    obtain ⟨-, hjunk | hpunctuation | hby | hfile⟩ := hself
    · exact absurd hjunk (by decide +kernel)
    · exact absurd hpunctuation (by decide +kernel)
    · exact absurd hby (by decide +kernel)
    · exact absurd hfile (by decide +kernel)
  | seriesIndex =>
    obtain hhuge | ⟨x, hx, -⟩ := hself
    · exact hhuge
    · cases hx
  | volume | chapter | seriesPosition =>
    obtain hhuge | ⟨x, hx, -⟩ := hself
    · exact hhuge
    · cases hx
  | _ => exact hself

/-- A title that ends in a question mark is a mismatch of itself. -/
theorem question_mark_is_noise :
    (verifyTitle .ascii (.str "What If?") (.str "What If?") none "high").verdict = .mismatch := by
  decide +kernel

end Bookwarden.Verification
