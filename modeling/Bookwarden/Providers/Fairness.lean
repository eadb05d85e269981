import Bookwarden.Providers.Consensus

/-!
# Fair consensus

A candidate is acceptable when its valid ISBN is not another than the declared one and the tripwire
does not fire on it. Consensus should select an acceptable candidate of the largest score whenever
there is one, in whatever order the candidates arrive.

A tripwired candidate keeps its place in the ranking with a score of zero, and an acceptable one can
score zero as well: a penalty for the author may eat up a weak title. Then the earlier of the two
decides.

## Main definitions

* `Conflicts`, `Tripwired`, `Acceptable`
* `Fair`, `FairInAnyOrder` — what consensus owes its caller
* `Decisive` — when it is owed

## Main results

* `fairInAnyOrder_iff`
* `poisoned_candidate_hides_an_acceptable_one`
-/

namespace Bookwarden.Consensus

open EntityCleanser (validateAndConvertIsbn)
open ConsensusEngine

section Notions

variable (py : RuleRuntime) (title author : String) (isbn : Option String)

/-- Both ISBNs are valid and they differ. -/
def Conflicts (c : ExternalCandidate) : Prop :=
  ∃ localIsbn candidateIsbn,
    validateAndConvertIsbn py.toRuntime isbn = .ok (some localIsbn) ∧
    validateAndConvertIsbn py.toRuntime c.isbn13 = .ok (some candidateIsbn) ∧
    candidateIsbn ≠ localIsbn

/-- The tripwire fires on the candidate. -/
def Tripwired (c : ExternalCandidate) : Prop :=
  (SemanticTripwire.evaluate py title author c.title c.authors).1 = false

instance (c : ExternalCandidate) : Decidable (Tripwired py title author c) :=
  inferInstanceAs (Decidable (_ = false))

/-- Eligible and not tripwired. -/
structure Acceptable (c : ExternalCandidate) : Prop where
  eligible : ¬Conflicts py isbn c
  passes : ¬Tripwired py title author c

/-- No ISBN, or a text that the cleanser survives. -/
def WellFormed (isbn : Option String) : Prop := ∀ s, isbn = some s → ¬StrayX s

/-- What a result owes to the candidates. -/
structure Fair (candidates : List ExternalCandidate) (r : ConsensusResult) : Prop where
  mem : ∀ c, r.bestCandidate = some c → c ∈ candidates
  keepsIsbn : ∀ c, r.bestCandidate = some c → ¬Conflicts py isbn c
  notTripwired : ∀ c, r.bestCandidate = some c → ¬Tripwired py title author c
  selects : (∃ c ∈ candidates, Acceptable py title author isbn c) → r.bestCandidate.isSome = true
  scored : ∀ c, r.bestCandidate = some c → scoreCandidate py title author isbn c = .ok r.scores
  maximal : ∀ c, r.bestCandidate = some c →
    ∀ c' ∈ candidates, Acceptable py title author isbn c' →
      ∀ s, scoreCandidate py title author isbn c' = .ok s → s.finalScore ≤ r.scores.finalScore

/-- Selected or not, the score, the tier and the action. -/
def outcome (r : ConsensusResult) : Bool × ℚ × IdentityTier × ActionDecision :=
  (r.bestCandidate.isSome, r.scores.finalScore, r.tier, r.action)

/-- The result is fair, and in every other order the outcome is the same. -/
def FairInAnyOrder (bookId : String) (candidates : List ExternalCandidate) : Prop :=
  ∃ r, resolveConsensus py bookId title author isbn candidates = .ok r ∧
    Fair py title author isbn candidates r ∧
    ∀ candidates', candidates'.Perm candidates →
      ∃ r', resolveConsensus py bookId title author isbn candidates' = .ok r' ∧
        outcome r' = outcome r

/-- Where a tripwired candidate meets acceptable ones, one of these scores above zero. -/
def Decisive (candidates : List ExternalCandidate) : Prop :=
  ∀ v ∈ candidates, ¬Conflicts py isbn v → Tripwired py title author v →
    (∃ c ∈ candidates, Acceptable py title author isbn c) →
      ∃ c ∈ candidates, Acceptable py title author isbn c ∧
        ∃ s, scoreCandidate py title author isbn c = .ok s ∧ 0 < s.finalScore

end Notions

section Scores

variable {py : RuleRuntime} {title author : String} {isbn : Option String} {c : ExternalCandidate}

/-! ### The score of a candidate -/

theorem isbnScore_ok (hupper : LawfulUpper py.toRuntime) {isbn isbn' : Option String}
    (h : WellFormed isbn) (h' : WellFormed isbn') : ∃ q, isbnScore py isbn isbn' = .ok q := by
  rw [isbnScore, EntityCleanser.validateAndConvertIsbn_eq_bind hupper h,
    EntityCleanser.validateAndConvertIsbn_eq_bind hupper h']
  split
  · exact ⟨_, rfl⟩
  · exact ⟨_, rfl⟩

theorem scoreCandidate_of_tripwired (h : Tripwired py title author c) :
    ∃ s, scoreCandidate py title author isbn c = .ok s ∧ s.tripwireTriggered = true ∧
      s.finalScore = 0 := by
  unfold scoreCandidate
  split
  · exact ⟨_, rfl, rfl, rfl⟩
  · rename_i heq
    have htrue := congrArg Prod.fst heq
    rw [show (SemanticTripwire.evaluate py title author c.title c.authors).1 = false from h] at htrue
    cases htrue

theorem scoreCandidate_of_passes (hupper : LawfulUpper py.toRuntime) (hisbn : WellFormed isbn)
    (hc : WellFormed c.isbn13) (h : ¬Tripwired py title author c) :
    ∃ s, scoreCandidate py title author isbn c = .ok s ∧ s.tripwireTriggered = false ∧
      0 ≤ s.finalScore := by
  obtain ⟨q, hq⟩ := isbnScore_ok hupper hisbn hc
  unfold scoreCandidate
  split
  · rename_i heq
    exact absurd (congrArg Prod.fst heq) h
  · rw [hq]
    exact ⟨_, rfl, rfl, le_max_left _ _⟩

/-- The score of a candidate on which scoring does not raise. -/
def scoreOf (py : RuleRuntime) (title author : String) (isbn : Option String)
    (c : ExternalCandidate) : ScoreBreakdown :=
  match scoreCandidate py title author isbn c with
  | .ok s => s
  | .error _ => {}

theorem scoreOf_eq {s : ScoreBreakdown} (h : scoreCandidate py title author isbn c = .ok s) :
    scoreOf py title author isbn c = s := by
  unfold scoreOf
  rw [h]

theorem finalScore_of_tripwired (h : Tripwired py title author c) :
    (scoreOf py title author isbn c).finalScore = 0 := by
  obtain ⟨s, hs, -, hzero⟩ := @scoreCandidate_of_tripwired _ _ _ isbn _ h
  rw [scoreOf_eq hs, hzero]

theorem tripwireTriggered_of_tripwired (h : Tripwired py title author c) :
    (scoreOf py title author isbn c).tripwireTriggered = true := by
  obtain ⟨s, hs, htriggered, -⟩ := @scoreCandidate_of_tripwired _ _ _ isbn _ h
  rw [scoreOf_eq hs, htriggered]

theorem tripwireTriggered_of_passes (hupper : LawfulUpper py.toRuntime) (hisbn : WellFormed isbn)
    (hc : WellFormed c.isbn13) (h : ¬Tripwired py title author c) :
    (scoreOf py title author isbn c).tripwireTriggered = false := by
  obtain ⟨s, hs, htriggered, -⟩ := scoreCandidate_of_passes hupper hisbn hc h
  rw [scoreOf_eq hs, htriggered]

theorem scoreCandidate_eq (hupper : LawfulUpper py.toRuntime) (hisbn : WellFormed isbn)
    (hc : WellFormed c.isbn13) :
    scoreCandidate py title author isbn c = .ok (scoreOf py title author isbn c) := by
  by_cases h : Tripwired py title author c
  · obtain ⟨s, hs, -, -⟩ := @scoreCandidate_of_tripwired _ _ _ isbn _ h
    rw [hs, scoreOf_eq hs]
  · obtain ⟨s, hs, -, -⟩ := scoreCandidate_of_passes hupper hisbn hc h
    rw [hs, scoreOf_eq hs]

end Scores

section Ranking

variable {py : RuleRuntime} {title author : String} {isbn : Option String}
  {candidates : List ExternalCandidate}

/-! ### The eligible candidates -/

/-- The candidate is set aside for its ISBN. -/
def isSetAside (isbn : Option String) (c : ExternalCandidate) : Bool :=
  isbnConflict (isbn.bind validateIsbn) (c.isbn13.bind validateIsbn)

theorem hasText_of_canonical {isbn : Option String} {canonical : String}
    (h : isbn.bind validateIsbn = some canonical) : hasText (some canonical) = true := by
  obtain ⟨s, -, hs⟩ := Option.bind_eq_some_iff.mp h
  simp [hasText, canonical_ne_empty hs]

theorem conflicts_iff (hupper : LawfulUpper py.toRuntime) (hisbn : WellFormed isbn)
    {c : ExternalCandidate} (hc : WellFormed c.isbn13) :
    Conflicts py isbn c ↔ isSetAside isbn c = true := by
  rw [Conflicts, EntityCleanser.validateAndConvertIsbn_eq_bind hupper hisbn,
    EntityCleanser.validateAndConvertIsbn_eq_bind hupper hc, isSetAside]
  constructor
  · rintro ⟨localIsbn, candidateIsbn, hlocal, hcandidate, hne⟩
    have hlocal' := Except.ok.inj hlocal
    have hcandidate' := Except.ok.inj hcandidate
    have hp := hasText_of_canonical hlocal'
    have hq := hasText_of_canonical hcandidate'
    rw [hlocal', hcandidate', isbnConflict, hp, hq]
    simp [hne]
  · intro h
    cases hlocal : isbn.bind validateIsbn with
    | none => simp [isbnConflict, hlocal, hasText] at h
    | some localIsbn =>
      cases hcandidate : c.isbn13.bind validateIsbn with
      | none => simp [isbnConflict, hcandidate, hasText] at h
      | some candidateIsbn =>
        rw [hlocal, hcandidate] at h
        refine ⟨localIsbn, candidateIsbn, rfl, rfl, ?_⟩
        rintro rfl
        simp [isbnConflict] at h

/-- What is ranked: the eligible candidates with their scores. -/
def scoredCandidates (py : RuleRuntime) (title author : String) (isbn : Option String)
    (candidates : List ExternalCandidate) : List (ExternalCandidate × ScoreBreakdown) :=
  (candidates.filter fun c => !isSetAside isbn c).map fun c => (c, scoreOf py title author isbn c)

/-- The key of the ranking. -/
def rankingKey (item : ExternalCandidate × ScoreBreakdown) : ℚ := item.2.finalScore

theorem mem_scoredCandidates (hupper : LawfulUpper py.toRuntime) (hisbn : WellFormed isbn)
    (hwell : ∀ c ∈ candidates, WellFormed c.isbn13)
    {item : ExternalCandidate × ScoreBreakdown} :
    item ∈ scoredCandidates py title author isbn candidates ↔
      item.1 ∈ candidates ∧ ¬Conflicts py isbn item.1 ∧
        item.2 = scoreOf py title author isbn item.1 := by
  rw [scoredCandidates, List.mem_map]
  constructor
  · rintro ⟨c, hc, rfl⟩
    obtain ⟨hmem, hkept⟩ := List.mem_filter.mp hc
    refine ⟨hmem, fun hconflict => ?_, rfl⟩
    rw [(conflicts_iff hupper hisbn (hwell c hmem)).mp hconflict] at hkept
    cases hkept
  · rintro ⟨hmem, hkept, hscore⟩
    refine ⟨item.1, List.mem_filter.mpr ⟨hmem, ?_⟩, by rw [← hscore]⟩
    rw [conflicts_iff hupper hisbn (hwell item.1 hmem)] at hkept
    simpa using hkept

theorem scoredCandidates_perm {candidates' : List ExternalCandidate}
    (hperm : candidates'.Perm candidates) :
    (scoredCandidates py title author isbn candidates').Perm
      (scoredCandidates py title author isbn candidates) :=
  (hperm.filter _).map _

theorem splitEligible_eq (hupper : LawfulUpper py.toRuntime)
    (hwell : ∀ c ∈ candidates, WellFormed c.isbn13) :
    ∃ rejected, splitEligible py (isbn.bind validateIsbn) candidates =
      .ok (candidates.filter fun c => !isSetAside isbn c, rejected) := by
  induction candidates with
  | nil => exact ⟨[], rfl⟩
  | cons c candidates ih =>
    obtain ⟨rejected, hrest⟩ := ih fun c' hc' => hwell c' (List.mem_cons_of_mem _ hc')
    have hvalid := EntityCleanser.validateAndConvertIsbn_eq_bind hupper
      (hwell c List.mem_cons_self)
    rw [splitEligible, hvalid, hrest, List.filter_cons]
    by_cases h : isSetAside isbn c = true
    · refine ⟨(c.isbn13.bind validateIsbn).toList ++ rejected, ?_⟩
      have hconflict := h
      rw [isSetAside] at hconflict
      simp [h, hconflict, bind, Except.bind, pure, Except.pure]
    · refine ⟨rejected, ?_⟩
      have hconflict := h
      rw [isSetAside] at hconflict
      simp [h, hconflict, bind, Except.bind, pure, Except.pure]

/-! ### The decision -/

/-- Nothing is selected, and the score is zero. -/
structure KeepsLocal (r : ConsensusResult) : Prop where
  unselected : r.bestCandidate = none
  outcome_eq : outcome r = (false, 0, .tierC, .keepLocal)

/-- The candidate is selected with its score. -/
structure Selects (py : RuleRuntime) (title author : String) (isbn : Option String)
    (c : ExternalCandidate) (r : ConsensusResult) : Prop where
  selected : r.bestCandidate = some c
  scores_eq : r.scores = scoreOf py title author isbn c
  outcome_eq : outcome r =
    (true, (scoreOf py title author isbn c).finalScore, .tierC, .reviewRecommended)

/-- What consensus does: nothing without eligible candidates, else what the first of the ranking
says. -/
theorem resolveConsensus_cases (hupper : LawfulUpper py.toRuntime) (hisbn : WellFormed isbn)
    (hwell : ∀ c ∈ candidates, WellFormed c.isbn13) (bookId : String) :
    ∃ r, resolveConsensus py bookId title author isbn candidates = .ok r ∧
      ((scoredCandidates py title author isbn candidates = [] ∧ KeepsLocal r) ∨
        ∃ c, Ranking.best rankingKey (scoredCandidates py title author isbn candidates) =
            some (c, scoreOf py title author isbn c) ∧
          ((Tripwired py title author c ∧ KeepsLocal r) ∨
            (¬Tripwired py title author c ∧ Selects py title author isbn c r))) := by
  by_cases hnil : candidates = []
  · subst hnil
    exact ⟨_, rfl, .inl ⟨rfl, rfl, rfl⟩⟩
  obtain ⟨rejected, hsplit⟩ := @splitEligible_eq _ isbn _ hupper hwell
  have hlocal := EntityCleanser.validateAndConvertIsbn_eq_bind hupper hisbn
  have hmapM : (candidates.filter fun c => !isSetAside isbn c).mapM
      (fun c => (scoreCandidate py title author isbn c).map fun scores => (c, scores)) =
      .ok (scoredCandidates py title author isbn candidates) := by
    refine mapM_ok fun c hc => ?_
    rw [scoreCandidate_eq hupper hisbn (hwell c (List.mem_filter.mp hc).1)]
    rfl
  have hresolve := resolveConsensus.eq_def py bookId title author isbn candidates
  rw [if_neg hnil, hlocal] at hresolve
  simp only [bind, Except.bind, hsplit, hmapM] at hresolve
  by_cases hempty : (candidates.filter fun c => !isSetAside isbn c) = []
  · rw [if_pos hempty] at hresolve
    refine ⟨_, hresolve, .inl ⟨?_, rfl, rfl⟩⟩
    rw [scoredCandidates, hempty]
    rfl
  · rw [if_neg hempty] at hresolve
    have hscored : scoredCandidates py title author isbn candidates ≠ [] := by
      rw [scoredCandidates]
      simpa using hempty
    obtain ⟨⟨c, s⟩, hbest⟩ := @Ranking.exists_best _ _ _ rankingKey _ hscored
    have hbest' : Ranking.best (fun item => item.2.finalScore)
        (scoredCandidates py title author isbn candidates) = some (c, s) := hbest
    obtain ⟨hc, -, hs⟩ := (mem_scoredCandidates hupper hisbn hwell).mp (Ranking.mem_of_best hbest)
    have hs' : s = scoreOf py title author isbn c := hs
    subst hs'
    rw [hbest'] at hresolve
    refine ⟨_, hresolve, .inr ⟨c, hbest, ?_⟩⟩
    by_cases h : Tripwired py title author c
    · have htriggered := @tripwireTriggered_of_tripwired _ _ _ isbn _ h
      refine .inl ⟨h, ?_, ?_⟩
      · rw [decideOn, if_pos htriggered]
        rfl
      · rw [decideOn, if_pos htriggered, outcome]
        simp [keepLocal, finalScore_of_tripwired h]
    · have htriggered := tripwireTriggered_of_passes hupper hisbn (hwell c hc) h
      have hnot : ¬(scoreOf py title author isbn c).tripwireTriggered = true := by
        rw [htriggered]
        decide
      refine .inr ⟨h, ?_, ?_, ?_⟩
      · rw [decideOn, if_neg hnot]
      · rw [decideOn, if_neg hnot]
      · rw [decideOn, if_neg hnot, outcome]
        rfl

end Ranking

section Fairness

variable {py : RuleRuntime} {title author : String} {isbn : Option String}
  {candidates : List ExternalCandidate}

/-! ### Fair in any order -/

theorem Decisive.perm {candidates' : List ExternalCandidate}
    (h : Decisive py title author isbn candidates) (hperm : candidates'.Perm candidates) :
    Decisive py title author isbn candidates' := by
  intro v hv hkept htripped hacceptable
  obtain ⟨c, hc, hok⟩ := hacceptable
  obtain ⟨c', hc', hok'⟩ := h v (hperm.mem_iff.mp hv) hkept htripped ⟨c, hperm.mem_iff.mp hc, hok⟩
  exact ⟨c', hperm.mem_iff.mpr hc', hok'⟩

theorem score_le_of_best (hupper : LawfulUpper py.toRuntime) (hisbn : WellFormed isbn)
    (hwell : ∀ c ∈ candidates, WellFormed c.isbn13) {c c' : ExternalCandidate}
    (hbest : Ranking.best rankingKey (scoredCandidates py title author isbn candidates) =
      some (c, scoreOf py title author isbn c))
    (hc' : c' ∈ candidates) (hkept : ¬Conflicts py isbn c') :
    (scoreOf py title author isbn c').finalScore ≤ (scoreOf py title author isbn c).finalScore := by
  have hmem : (c', scoreOf py title author isbn c') ∈
      scoredCandidates py title author isbn candidates :=
    (mem_scoredCandidates hupper hisbn hwell).mpr ⟨hc', hkept, rfl⟩
  have hle := Ranking.key_le_of_best hbest hmem
  exact hle

/-- With an acceptable candidate about, the first of the ranking passes the tripwire. -/
theorem best_passes (hupper : LawfulUpper py.toRuntime) (hisbn : WellFormed isbn)
    (hwell : ∀ c ∈ candidates, WellFormed c.isbn13)
    (hdecisive : Decisive py title author isbn candidates)
    (hacceptable : ∃ c ∈ candidates, Acceptable py title author isbn c) {c : ExternalCandidate}
    (hbest : Ranking.best rankingKey (scoredCandidates py title author isbn candidates) =
      some (c, scoreOf py title author isbn c)) : ¬Tripwired py title author c := by
  intro htripped
  obtain ⟨hc, hkept, -⟩ := (mem_scoredCandidates hupper hisbn hwell).mp (Ranking.mem_of_best hbest)
  obtain ⟨c', hc', hok, s, hs, hpos⟩ := hdecisive c hc hkept htripped hacceptable
  have hle := score_le_of_best hupper hisbn hwell hbest hc' hok.eligible
  rw [finalScore_of_tripwired htripped, scoreOf_eq hs] at hle
  exact absurd hpos (not_lt.mpr hle)

theorem resolve_of_acceptable (hupper : LawfulUpper py.toRuntime) (hisbn : WellFormed isbn)
    (hwell : ∀ c ∈ candidates, WellFormed c.isbn13)
    (hdecisive : Decisive py title author isbn candidates)
    (hacceptable : ∃ c ∈ candidates, Acceptable py title author isbn c) (bookId : String) :
    ∃ r c, resolveConsensus py bookId title author isbn candidates = .ok r ∧
      Ranking.best rankingKey (scoredCandidates py title author isbn candidates) =
        some (c, scoreOf py title author isbn c) ∧
      Selects py title author isbn c r := by
  obtain ⟨r, hr, hcase⟩ := resolveConsensus_cases hupper hisbn hwell bookId
  rcases hcase with ⟨hnone, -⟩ | ⟨c, hbest, hcase⟩
  · obtain ⟨c, hc, hok⟩ := hacceptable
    have hmem : (c, scoreOf py title author isbn c) ∈
        scoredCandidates py title author isbn candidates :=
      (mem_scoredCandidates hupper hisbn hwell).mpr ⟨hc, hok.eligible, rfl⟩
    rw [hnone] at hmem
    cases hmem
  · have hpasses := best_passes hupper hisbn hwell hdecisive hacceptable hbest
    rcases hcase with ⟨htripped, -⟩ | ⟨-, hselects⟩
    · exact absurd htripped hpasses
    · exact ⟨r, c, hr, hbest, hselects⟩

theorem resolve_of_not_acceptable (hupper : LawfulUpper py.toRuntime) (hisbn : WellFormed isbn)
    (hwell : ∀ c ∈ candidates, WellFormed c.isbn13)
    (hnone : ¬∃ c ∈ candidates, Acceptable py title author isbn c) (bookId : String) :
    ∃ r, resolveConsensus py bookId title author isbn candidates = .ok r ∧ KeepsLocal r := by
  obtain ⟨r, hr, hcase⟩ := resolveConsensus_cases hupper hisbn hwell bookId
  refine ⟨r, hr, ?_⟩
  rcases hcase with ⟨-, hkeeps⟩ | ⟨c, hbest, ⟨-, hkeeps⟩ | ⟨hpasses, -⟩⟩
  · exact hkeeps
  · exact hkeeps
  · obtain ⟨hc, hkept, -⟩ := (mem_scoredCandidates hupper hisbn hwell).mp
      (Ranking.mem_of_best hbest)
    exact absurd ⟨c, hc, hkept, hpasses⟩ hnone

theorem KeepsLocal.fair {r : ConsensusResult} (h : KeepsLocal r)
    (hnone : ¬∃ c ∈ candidates, Acceptable py title author isbn c) :
    Fair py title author isbn candidates r := by
  have hno : ∀ c, r.bestCandidate ≠ some c := by
    intro c hc
    rw [h.unselected] at hc
    cases hc
  exact ⟨fun c hc => absurd hc (hno c), fun c hc => absurd hc (hno c),
    fun c hc => absurd hc (hno c), fun hsome => absurd hsome hnone,
    fun c hc => absurd hc (hno c), fun c hc => absurd hc (hno c)⟩

theorem Selects.fair (hupper : LawfulUpper py.toRuntime) (hisbn : WellFormed isbn)
    (hwell : ∀ c ∈ candidates, WellFormed c.isbn13)
    (hdecisive : Decisive py title author isbn candidates)
    (hacceptable : ∃ c ∈ candidates, Acceptable py title author isbn c) {c : ExternalCandidate}
    (hbest : Ranking.best rankingKey (scoredCandidates py title author isbn candidates) =
      some (c, scoreOf py title author isbn c)) {r : ConsensusResult}
    (h : Selects py title author isbn c r) : Fair py title author isbn candidates r := by
  obtain ⟨hc, hkept, -⟩ := (mem_scoredCandidates hupper hisbn hwell).mp (Ranking.mem_of_best hbest)
  have hpasses := best_passes hupper hisbn hwell hdecisive hacceptable hbest
  have hsame : ∀ c', r.bestCandidate = some c' → c' = c := by
    intro c' hc'
    rw [h.selected] at hc'
    exact (Option.some.inj hc').symm
  refine ⟨?_, ?_, ?_, ?_, ?_, ?_⟩
  · intro c' hc'
    rw [hsame c' hc']
    exact hc
  · intro c' hc'
    rw [hsame c' hc']
    exact hkept
  · intro c' hc'
    rw [hsame c' hc']
    exact hpasses
  · intro _
    rw [h.selected]
    rfl
  · intro c' hc'
    rw [hsame c' hc', h.scores_eq]
    exact scoreCandidate_eq hupper hisbn (hwell c hc)
  · intro _ _ c' hc' hok s hs
    have hle := score_le_of_best hupper hisbn hwell hbest hc' hok.eligible
    rwa [scoreOf_eq hs, ← h.scores_eq] at hle

theorem fairInAnyOrder_of_decisive (hupper : LawfulUpper py.toRuntime) (hisbn : WellFormed isbn)
    (hwell : ∀ c ∈ candidates, WellFormed c.isbn13)
    (hdecisive : Decisive py title author isbn candidates) (bookId : String) :
    FairInAnyOrder py title author isbn bookId candidates := by
  by_cases hacceptable : ∃ c ∈ candidates, Acceptable py title author isbn c
  · obtain ⟨r, c, hr, hbest, hselects⟩ :=
      resolve_of_acceptable hupper hisbn hwell hdecisive hacceptable bookId
    refine ⟨r, hr, hselects.fair hupper hisbn hwell hdecisive hacceptable hbest, ?_⟩
    intro candidates' hperm
    have hwell' : ∀ c ∈ candidates', WellFormed c.isbn13 :=
      fun c hc => hwell c (hperm.mem_iff.mp hc)
    have hacceptable' : ∃ c ∈ candidates', Acceptable py title author isbn c := by
      obtain ⟨c, hc, hok⟩ := hacceptable
      exact ⟨c, hperm.mem_iff.mpr hc, hok⟩
    obtain ⟨r', c', hr', hbest', hselects'⟩ :=
      resolve_of_acceptable hupper hisbn hwell' (hdecisive.perm hperm) hacceptable' bookId
    have hkey : (scoreOf py title author isbn c').finalScore =
        (scoreOf py title author isbn c).finalScore := by
      have hsorted := Ranking.key_best_eq_of_perm
        (@scoredCandidates_perm py title _ _ _ _ hperm) hbest' hbest
      exact hsorted
    refine ⟨r', hr', ?_⟩
    rw [hselects'.outcome_eq, hselects.outcome_eq, hkey]
  · obtain ⟨r, hr, hkeeps⟩ := resolve_of_not_acceptable hupper hisbn hwell hacceptable bookId
    refine ⟨r, hr, hkeeps.fair hacceptable, ?_⟩
    intro candidates' hperm
    have hwell' : ∀ c ∈ candidates', WellFormed c.isbn13 :=
      fun c hc => hwell c (hperm.mem_iff.mp hc)
    have hacceptable' : ¬∃ c ∈ candidates', Acceptable py title author isbn c := by
      rintro ⟨c, hc, hok⟩
      exact hacceptable ⟨c, hperm.mem_iff.mp hc, hok⟩
    obtain ⟨r', hr', hkeeps'⟩ := resolve_of_not_acceptable hupper hisbn hwell' hacceptable' bookId
    refine ⟨r', hr', ?_⟩
    rw [hkeeps'.outcome_eq, hkeeps.outcome_eq]

/-- On a declared text that the cleanser does not survive consensus raises. -/
theorem resolveConsensus_stray (hupper : LawfulUpper py.toRuntime) {s : String} (hs : StrayX s)
    (hne : candidates ≠ []) (bookId : String) (r : ConsensusResult) :
    resolveConsensus py bookId title author (some s) candidates ≠ .ok r := by
  intro h
  obtain ⟨e, he⟩ := EntityCleanser.validateAndConvertIsbn_stray hupper hs
  rw [resolveConsensus.eq_def, if_neg hne, he] at h
  cases h

theorem decisive_of_fairInAnyOrder (hupper : LawfulUpper py.toRuntime) (hisbn : WellFormed isbn)
    (hwell : ∀ c ∈ candidates, WellFormed c.isbn13) {bookId : String}
    (hfair : FairInAnyOrder py title author isbn bookId candidates) :
    Decisive py title author isbn candidates := by
  obtain ⟨r, -, hr, hsame⟩ := hfair
  intro v hv hkept htripped hacceptable
  by_contra hzero
  -- every eligible candidate scores zero, so the tripwired one wins when it stands first
  obtain ⟨before, after, rfl⟩ := List.append_of_mem hv
  have hperm : (v :: (before ++ after)).Perm (before ++ v :: after) := List.perm_middle.symm
  have hwell' : ∀ c ∈ v :: (before ++ after), WellFormed c.isbn13 :=
    fun c hc => hwell c (hperm.mem_iff.mp hc)
  have hkey : ∀ item ∈ scoredCandidates py title author isbn (before ++ after),
      rankingKey item ≤ rankingKey (v, scoreOf py title author isbn v) := by
    intro item hitem
    have hwell'' : ∀ c ∈ before ++ after, WellFormed c.isbn13 :=
      fun c hc => hwell' c (List.mem_cons_of_mem _ hc)
    obtain ⟨hmem, hkept', hscore⟩ := (mem_scoredCandidates hupper hisbn hwell'').mp hitem
    have hin : item.1 ∈ before ++ v :: after := hperm.mem_iff.mp (List.mem_cons_of_mem _ hmem)
    rw [rankingKey, rankingKey, hscore, finalScore_of_tripwired htripped]
    by_cases h : Tripwired py title author item.1
    · exact (finalScore_of_tripwired h).le
    · by_contra hpos
      exact hzero ⟨item.1, hin, ⟨hkept', h⟩, _,
        scoreCandidate_eq hupper hisbn (hwell item.1 hin), not_le.mp hpos⟩
  have hscored : scoredCandidates py title author isbn (v :: (before ++ after)) =
      (v, scoreOf py title author isbn v) ::
        scoredCandidates py title author isbn (before ++ after) := by
    have haside : isSetAside isbn v = false := by
      rw [conflicts_iff hupper hisbn (hwell v hv)] at hkept
      simpa using hkept
    rw [scoredCandidates, List.filter_cons, haside]
    rfl
  have hbest : Ranking.best rankingKey (scoredCandidates py title author isbn
      (v :: (before ++ after))) = some (v, scoreOf py title author isbn v) := by
    rw [hscored]
    exact Ranking.best_cons hkey
  obtain ⟨r', hr', hout⟩ := hsame _ hperm
  have hselected : r'.bestCandidate.isSome = true := by
    have hfst := congrArg Prod.fst hout
    exact hfst.trans (hr.selects hacceptable)
  have hunselected : r'.bestCandidate = none := by
    obtain ⟨r'', hr'', hcase⟩ := resolveConsensus_cases hupper hisbn hwell' bookId
    rw [hr'] at hr''
    cases hr''
    rcases hcase with ⟨-, hkeeps⟩ | ⟨c, hc, hcase⟩
    · exact hkeeps.unselected
    · rw [hbest] at hc
      cases hc
      rcases hcase with ⟨-, hkeeps⟩ | ⟨hpasses, -⟩
      · exact hkeeps.unselected
      · exact absurd htripped hpasses
  rw [hunselected] at hselected
  cases hselected

/-- Consensus is fair in any order exactly when there is nothing to decide, or the declared ISBN does
not make the cleanser raise and no tripwired candidate ties with the acceptable ones at zero. -/
theorem fairInAnyOrder_iff (hupper : LawfulUpper py.toRuntime) (bookId : String)
    (hwell : ∀ c ∈ candidates, WellFormed c.isbn13) :
    FairInAnyOrder py title author isbn bookId candidates ↔
      candidates = [] ∨ WellFormed isbn ∧ Decisive py title author isbn candidates := by
  constructor
  · intro h
    by_cases hnil : candidates = []
    · exact .inl hnil
    have hisbn : WellFormed isbn := by
      rintro s rfl hs
      obtain ⟨r, hr, -⟩ := h
      exact resolveConsensus_stray hupper hs hnil bookId r hr
    exact .inr ⟨hisbn, decisive_of_fairInAnyOrder hupper hisbn hwell h⟩
  · rintro (rfl | ⟨hisbn, hdecisive⟩)
    · have hnone : ¬∃ c ∈ ([] : List ExternalCandidate), Acceptable py title author isbn c := by
        rintro ⟨c, hc, -⟩
        cases hc
      have hkeeps : KeepsLocal (keepLocal bookId title author isbn) := ⟨rfl, rfl⟩
      refine ⟨_, rfl, hkeeps.fair hnone, ?_⟩
      intro candidates' hperm
      rw [hperm.eq_nil]
      exact ⟨_, rfl, rfl⟩
    · exact fairInAnyOrder_of_decisive hupper hisbn hwell hdecisive bookId

end Fairness

/-! ### A tripwired candidate in front -/

/-- A weak match by another author, with a score of zero. -/
def dust : ExternalCandidate :=
  { provider := "google_books", providerId := "dust", title := "Dust", authors := ["Hugh Howey"] }

/-- Another book altogether. -/
def emma : ExternalCandidate :=
  { provider := "google_books", providerId := "emma", title := "Emma", authors := ["Jane Austen"] }

/-- A good match. -/
def dune : ExternalCandidate :=
  { provider := "google_books", providerId := "dune", title := "Dune",
    authors := ["Frank Herbert"] }

theorem fairInAnyOrder_dune :
    FairInAnyOrder .ascii "Dune" "Frank Herbert" none "1" [emma, dune] := by
  have hupper : LawfulUpper RuleRuntime.ascii.toRuntime := lawfulUpper_ascii
  have hnone : ∀ c ∈ [emma, dune], c.isbn13 = none := by decide
  have hwell : ∀ c ∈ [emma, dune], WellFormed c.isbn13 := by
    intro c hc s hs
    rw [hnone c hc] at hs
    cases hs
  have hdeclared : WellFormed none := by
    intro s hs
    cases hs
  refine (fairInAnyOrder_iff hupper "1" hwell).mpr (.inr ⟨hdeclared, ?_⟩)
  intro _ _ _ _ _
  have hscore : ∃ s, scoreCandidate .ascii "Dune" "Frank Herbert" none dune = .ok s ∧
      0 < s.finalScore := by
    have hpasses : ¬Tripwired .ascii "Dune" "Frank Herbert" dune := by decide +kernel
    refine ⟨_, scoreCandidate_eq hupper hdeclared (hwell dune (by simp)), ?_⟩
    decide +kernel
  refine ⟨dune, by simp, ⟨?_, by decide +kernel⟩, hscore⟩
  rintro ⟨localIsbn, candidateIsbn, hlocal, -, -⟩
  cases hlocal

theorem poisoned_candidate_hides_an_acceptable_one :
    ¬FairInAnyOrder .ascii "Dune" "Frank Herbert" none "1" [emma, dust] := by
  rintro ⟨r, hr, hfair, -⟩
  have hresolve : (resolveConsensus .ascii "1" "Dune" "Frank Herbert" none [emma, dust]).toOption.map
      (fun r => r.bestCandidate) = some none := by decide +kernel
  have hacceptable : ∃ c ∈ [emma, dust], Acceptable .ascii "Dune" "Frank Herbert" none c := by
    refine ⟨dust, by simp, ?_, by decide +kernel⟩
    rintro ⟨localIsbn, candidateIsbn, hlocal, -, -⟩
    cases hlocal
  have hselected := hfair.selects hacceptable
  rw [hr] at hresolve
  have hunselected : r.bestCandidate = none := Option.some.inj hresolve
  rw [hunselected] at hselected
  cases hselected

end Bookwarden.Consensus
