import Bookwarden.Verification.Engine
import Bookwarden.Verification.Spaces

/-!
# When the rules return

A rule converts what it compares: an ISBN to thirteen digits, a name to its sort name, a value to a
number. Five of these conversions raise, and nothing between them and the caller handles it. A
verdict that is returned has a confidence from 0 to 100.

## Main definitions

* `UnreadableIsbn`, `HasBlankName`, `IsHuge`, `Raises`

## Main results

* `confidence_le` — the range of the confidence
* `rules_total_iff` — when a rule and the engine return
-/

namespace Bookwarden.Verification

variable (py : RuleRuntime)

/-- Ten characters, not all of the first nine digits, next to a valid ISBN-13. -/
def UnreadableIsbn (ten thirteen : String) : Prop :=
  ten.toList.length = 10 ∧ thirteen.toList.length = 13 ∧ isbnIsValid thirteen = true ∧
    ∃ c ∈ ten.toList.take 9, py.decimal c = none

/-- A name of white space. -/
def IsBlankName (a : String) : Prop := a ≠ "" ∧ strip a = ""

/-- Two lists of names that are not the same set of normal forms, and a blank name in one of them. -/
def HasBlankName (declared observed : List String) : Prop :=
  declared ≠ [] ∧ observed ≠ [] ∧
    sameSet ((named declared).map (normalizeString py))
      ((named observed).map (normalizeString py)) = false ∧
    sameSet ((named declared).map (normalizeDisplay py))
      ((named observed).map (normalizeDisplay py)) = false ∧
    ∃ a ∈ declared ++ observed, IsBlankName a

/-- An integer beyond the largest float. -/
def IsHuge : Value → Prop
  | .int n => Double.ofInt n.1 = none
  | _ => False

/-- The value is read as a number that is infinite or none. -/
def ReadsUnbounded (v : Value) : Prop :=
  ∃ x, coerceNumber py v = .ok (some x) ∧ x.isFinite = false

/-- The value is read as a number. -/
def Reads (v : Value) : Prop := ∃ x, coerceNumber py v = .ok (some x)

/-- Where a rule raises. -/
def Raises (r : RuleName) (declared observed : Value) : Prop :=
  match r with
  | .isbn => UnreadableIsbn py (isbnText py declared) (isbnText py observed) ∨
      UnreadableIsbn py (isbnText py observed) (isbnText py declared)
  | .authors => HasBlankName py (authorList py declared) (authorList py observed)
  | .seriesIndex => declared ≠ .null ∧ observed ≠ .null ∧
      (IsHuge declared ∨ IsHuge observed ∧ ∃ x, floatOf py declared = .ok (some x))
  | .volume => IsHuge declared ∨ IsHuge observed ∨
      Reads py declared ∧ Reads py observed ∧
        (ReadsUnbounded py declared ∨ ReadsUnbounded py observed)
  | .chapter => IsHuge declared ∨ IsHuge observed
  | .seriesPosition => IsHuge declared ∨ IsHuge observed
  | _ => False

variable {py}

/-! ### Numbers -/

theorem floatOfNumber_error_iff {v : Value} :
    (∃ e, floatOfNumber v = some (.error e)) ↔ IsHuge v := by
  cases v with
  | int n =>
    rw [floatOfNumber, IsHuge]
    cases Double.ofInt n.1 <;> simp
  | _ => simp [floatOfNumber, IsHuge]

theorem coerceNumber_error_iff {v : Value} : (∃ e, coerceNumber py v = .error e) ↔ IsHuge v := by
  rw [← floatOfNumber_error_iff, coerceNumber]
  by_cases hnull : v.isNull = true
  · rw [if_pos hnull, Value.isNull_iff.mp hnull]
    simp [floatOfNumber]
  · rw [if_neg hnull]
    cases hnumber : floatOfNumber v with
    | none =>
      dsimp only
      split <;> simp
    | some x => cases x <;> simp [Except.map]

theorem floatOf_error_iff {v : Value} : (∃ e, floatOf py v = .error e) ↔ IsHuge v := by
  rw [← floatOfNumber_error_iff, floatOf.eq_def]
  cases hnumber : floatOfNumber v with
  | none =>
    dsimp only
    split <;> simp
  | some x => cases x <;> simp [Except.map]

/-- A number that is read is not huge. -/
theorem coerceNumber_cases (v : Value) : IsHuge v ∨ ∃ x, coerceNumber py v = .ok x := by
  cases h : coerceNumber py v with
  | error e => exact .inl (coerceNumber_error_iff.mp ⟨e, h⟩)
  | ok x => exact .inr ⟨x, rfl⟩

theorem not_huge_of_coerce {v : Value} {x : Option Double} (h : coerceNumber py v = .ok x) :
    ¬IsHuge v := fun hhuge => by
  obtain ⟨e, he⟩ := coerceNumber_error_iff.mpr hhuge
  rw [he] at h
  cases h

/-! ### ISBNs -/

@[simp] theorem clean_isbnText (v : Value) :
    cleanSeparators (isbnText py v) = isbnText py v := by
  rw [isbnText]
  split
  · exact cleanSeparators_idem _
  · rfl

variable {d o : String}

theorem convertsTo_error_iff (hd : cleanSeparators d = d) :
    (∃ e, convertsTo py d o (isbnIsValid o) = .error e) ↔ UnreadableIsbn py d o := by
  by_cases hguard : d.toList.length = 10 ∧ o.toList.length = 13 ∧ isbnIsValid o = true
  · obtain ⟨hten, hthirteen, hvalid⟩ := hguard
    rw [convertsTo_of hd hten hthirteen hvalid]
    simp only [UnreadableIsbn, hten, hthirteen, hvalid, true_and]
    constructor
    · rintro ⟨e, he⟩
      by_contra hread
      obtain ⟨check, hcheck⟩ := isbn13FromIsbn10_ok hread
      rw [hcheck] at he
      cases he
    · intro hnone
      obtain ⟨e, he⟩ := isbn13FromIsbn10_error hnone
      exact ⟨e, by rw [he]; rfl⟩
  · rw [convertsTo_of_not hd hguard]
    refine iff_of_false (by simp) fun hun => hguard ⟨hun.1, hun.2.1, hun.2.2.1⟩

theorem crossFormat_error_iff (hd : cleanSeparators d = d) (ho : cleanSeparators o = o) :
    (∃ e, crossFormat py d o = .error e) ↔ UnreadableIsbn py d o ∨ UnreadableIsbn py o d := by
  by_cases hten : d.toList.length = 10
  · have hother : ¬UnreadableIsbn py o d := fun hun => by
      have hlength := hun.2.1
      omega
    rw [crossFormat_left hd ho hten, convertsTo_error_iff hd, or_iff_left hother]
  · have hother : ¬UnreadableIsbn py d o := fun hun => hten hun.1
    rw [crossFormat_right hd hten, convertsTo_error_iff ho, or_iff_right hother]

theorem compared_error_iff (hd : cleanSeparators d = d) (ho : cleanSeparators o = o) :
    (∃ e, compared py d o = .error e) ↔ UnreadableIsbn py d o ∨ UnreadableIsbn py o d := by
  rw [← crossFormat_error_iff hd ho, compared]
  constructor
  · rintro ⟨e, he⟩
    split at he
    · cases he
    · split at he
      · cases he
      · cases hcross : crossFormat py d o with
        | error e' => exact ⟨e', rfl⟩
        | ok same =>
          rw [hcross] at he
          cases he
  · rintro ⟨e, he⟩
    have hun := (crossFormat_error_iff hd ho).mp ⟨e, he⟩
    have hvalid : ¬(isbnIsValid d || isbnIsValid o) = false := by
      rcases hun with hun | hun
      · simp [hun.2.2.1]
      · simp [hun.2.2.1]
    have hne : d ≠ o := by
      rintro rfl
      rcases hun with hun | hun
      · exact absurd (hun.1.symm.trans hun.2.1) (by decide)
      · exact absurd (hun.1.symm.trans hun.2.1) (by decide)
    exact ⟨e, by rw [if_neg hvalid, if_neg hne, he]; rfl⟩

theorem verifyIsbn_error_iff {declared observed : Value} {pageRange : Option String} :
    (∃ e, verifyIsbn py declared observed pageRange = .error e) ↔
      Raises py .isbn declared observed := by
  show _ ↔ UnreadableIsbn py (isbnText py declared) (isbnText py observed) ∨
    UnreadableIsbn py (isbnText py observed) (isbnText py declared)
  rw [← compared_error_iff (clean_isbnText declared) (clean_isbnText observed)]
  have houtcome := @compareIsbns_outcome py pageRange
    (isbnText py declared) (isbnText py observed)
  have hblank : isbnText py declared = "" ∨ isbnText py observed = "" →
      ¬∃ e, compared py (isbnText py declared) (isbnText py observed) = .error e := by
    intro hblank herror
    rcases (compared_error_iff (clean_isbnText declared) (clean_isbnText observed)).mp herror
      with hun | hun <;> rcases hblank with hblank | hblank
    · exact absurd (hblank ▸ hun.1) (by decide)
    · exact absurd (hblank ▸ hun.2.1) (by decide)
    · exact absurd (hblank ▸ hun.2.1) (by decide)
    · exact absurd (hblank ▸ hun.1) (by decide)
  rw [verifyIsbn]
  by_cases hd : isbnText py declared = ""
  · refine iff_of_false ?_ (hblank (.inl hd))
    simp only [hd, true_and, if_true]
    split
    · simp
    · split <;> simp
  · by_cases ho : isbnText py observed = ""
    · refine iff_of_false ?_ (hblank (.inr ho))
      simp only [hd, ho, false_and, if_false, if_true]
      simp
    · simp only [hd, ho, false_and, if_false]
      rw [← houtcome]
      cases compareIsbns py (isbnText py declared) (isbnText py observed) pageRange with
      | error e => simp [Except.map]
      | ok v => simp [Except.map]

/-! ### Names -/

/-- The sort name of a blank name is asked for its last word. -/
theorem computeAuthorSort_blank {name : String} (h : IsBlankName name) :
    computeAuthorSort py name = .error ⟨.other, "list index out of range"⟩ := by
  obtain ⟨hne, hblank⟩ := h
  have hcorporate : Assoc.get? (py.lower "") corporateEntities = none := by
    rw [py.lower_empty]
    rfl
  have hcompound : compoundSort py "" [] = none := by
    rw [compoundSort]
    cases Assoc.get? (authorityKey py "") compoundSurnameAuthority <;> simp
  have hwords : splitSpaces "" = [] := by rfl
  have hparticle : (particleSort py [] 2).or (particleSort py [] 1) = none := by rfl
  have hcomma : "".toList.contains ',' = false := by rfl
  have hprefixes : (startsWith "" "Saint " || startsWith "" "St. " || startsWith "" "San ") = false ∧
      (startsWith "" "Pope " || startsWith "" "Papa ") = false := by decide
  simp only [computeAuthorSort, if_neg hne, hblank, hcorporate, hcomma, hprefixes.1, hprefixes.2,
    hwords, hcompound, hparticle]
  rfl

theorem computeAuthorSort_ok {name : String} (h : ¬IsBlankName name) :
    ∃ sort, computeAuthorSort py name = .ok sort := by
  by_cases hne : name = ""
  · exact ⟨"", if_pos hne⟩
  have hwords : splitSpaces (strip name) ≠ [] := fun hnil => h ⟨hne, splitSpaces_strip hnil⟩
  rw [computeAuthorSort, if_neg hne]
  dsimp only
  generalize splitSpaces (strip name) = words at hwords
  cases Assoc.get? (py.lower (strip name)) corporateEntities with
  | some sort => exact ⟨sort, rfl⟩
  | none =>
    by_cases hcomma : (strip name).toList.contains ',' = true
    · exact ⟨_, if_pos hcomma⟩
    rw [if_neg hcomma]
    by_cases hsaint : (startsWith (strip name) "Saint " || startsWith (strip name) "St. " ||
        startsWith (strip name) "San ") = true
    · exact ⟨_, if_pos hsaint⟩
    rw [if_neg hsaint]
    by_cases hpope : (startsWith (strip name) "Pope " || startsWith (strip name) "Papa ") = true
    · exact ⟨_, if_pos hpope⟩
    rw [if_neg hpope]
    match words with
    | [] => exact absurd rfl hwords
    | [word] => exact ⟨word, rfl⟩
    | first :: second :: rest =>
      dsimp only
      cases compoundSort py (strip name) (first :: second :: rest) with
      | some sort => exact ⟨sort, rfl⟩
      | none =>
        cases (particleSort py (first :: second :: rest) 2).or
          (particleSort py (first :: second :: rest) 1) with
        | some sort => exact ⟨sort, rfl⟩
        | none => exact ⟨_, if_neg hwords⟩

theorem computeAuthorSort_error_iff {name : String} :
    (∃ e, computeAuthorSort py name = .error e) ↔ IsBlankName name := by
  constructor
  · rintro ⟨e, he⟩
    by_contra hblank
    obtain ⟨sort, hsort⟩ := @computeAuthorSort_ok py _ hblank
    rw [hsort] at he
    cases he
  · exact fun h => ⟨_, computeAuthorSort_blank h⟩

theorem mapM_error_iff {α β : Type} {f : α → Except PyError β} {l : List α} :
    (∃ e, l.mapM f = .error e) ↔ ∃ a ∈ l, ∃ e, f a = .error e := by
  constructor
  · rintro ⟨e, he⟩
    by_contra hnone
    have hok : ∀ a ∈ l, ∃ b, f a = .ok b := by
      intro a ha
      cases hfa : f a with
      | error e' => exact absurd ⟨a, ha, e', hfa⟩ hnone
      | ok b => exact ⟨b, rfl⟩
    obtain ⟨l', hl'⟩ := ContentVerificationEngine.exists_mapM_iff.mpr hok
    rw [hl'] at he
    cases he
  · rintro ⟨a, ha, e, he⟩
    exact mapM_error ha he

theorem mapM_normalizeSort_error_iff {l : List String} :
    (∃ e, (named l).mapM (normalizeSort py) = .error e) ↔ ∃ a ∈ l, IsBlankName a := by
  rw [mapM_error_iff]
  have hname : ∀ a, (∃ e, normalizeSort py a = .error e) ↔ IsBlankName a := by
    intro a
    rw [← @computeAuthorSort_error_iff py _, normalizeSort]
    cases computeAuthorSort py a <;> simp [Except.map]
  simp only [hname, named, List.mem_filter, decide_eq_true_eq]
  exact ⟨fun ⟨a, ha, hblank⟩ => ⟨a, ha.1, hblank⟩, fun ⟨a, ha, hblank⟩ => ⟨a, ⟨ha, hblank.1⟩, hblank⟩⟩

theorem authorsEqual_error_iff {declared observed : List String} :
    (∃ e, authorsEqual py declared observed = .error e) ↔
      sameSet ((named declared).map (normalizeString py))
        ((named observed).map (normalizeString py)) = false ∧
      sameSet ((named declared).map (normalizeDisplay py))
        ((named observed).map (normalizeDisplay py)) = false ∧
      ∃ a ∈ declared ++ observed, IsBlankName a := by
  have hsplit : (∃ a ∈ declared ++ observed, IsBlankName a) ↔
      (∃ e, (named declared).mapM (normalizeSort py) = .error e) ∨
        ∃ e, (named observed).mapM (normalizeSort py) = .error e := by
    simp only [mapM_normalizeSort_error_iff, List.mem_append, or_and_right, exists_or]
  rw [hsplit, authorsEqual]
  cases sameSet ((named declared).map (normalizeString py))
    ((named observed).map (normalizeString py)) with
  | true => simp [pure, Except.pure]
  | false =>
    cases sameSet ((named declared).map (normalizeDisplay py))
      ((named observed).map (normalizeDisplay py)) with
    | true => simp [pure, Except.pure]
    | false =>
      cases (named declared).mapM (normalizeSort py) with
      | error e => simp [bind, Except.bind]
      | ok sortDecl =>
        cases (named observed).mapM (normalizeSort py) with
        | error e => simp [bind, Except.bind]
        | ok sortObs => simp [bind, Except.bind, pure, Except.pure]

theorem verifyAuthors_error_iff {declOrder obsOrder : SetOrder} {declared observed : Value}
    {pageRange : Option String} {quality : String} :
    (∃ e, verifyAuthors py declOrder obsOrder declared observed pageRange quality = .error e) ↔
      Raises py .authors declared observed := by
  show _ ↔ HasBlankName py (authorList py declared) (authorList py observed)
  rw [HasBlankName, ← authorsEqual_error_iff, verifyAuthors]
  by_cases hd : authorList py declared = []
  · by_cases ho : authorList py observed = []
    · simp [hd, ho, pure, Except.pure]
    · simp [hd, ho, pure, Except.pure]
  · by_cases ho : authorList py observed = []
    · simp [hd, ho, pure, Except.pure]
    · rw [if_neg fun h => hd h.1, if_neg hd, if_neg ho]
      cases authorsEqual py (authorList py declared) (authorList py observed) with
      | error e => simp [hd, ho, bind, Except.bind]
      | ok same =>
        cases same with
        | false => simp [bind, Except.bind, pure, Except.pure]
        | true =>
          by_cases hquality : quality = "low" <;>
            simp [hquality, bind, Except.bind, pure, Except.pure]

/-! ### Numeric rules -/

theorem numericRule_error_iff {r : NumericRule} {declared observed : Value}
    {pageRange : Option String} :
    (∃ e, r.verify py declared observed pageRange = .error e) ↔
      IsHuge declared ∨ IsHuge observed ∨ ∃ d o, coerceNumber py declared = .ok (some d) ∧
        coerceNumber py observed = .ok (some o) ∧ ∃ e, r.compare d o = .error e := by
  rw [NumericRule.verify]
  cases hd : coerceNumber py declared with
  | error e => simp [coerceNumber_error_iff.mp ⟨e, hd⟩, bind, Except.bind]
  | ok d =>
    have hdsmall := not_huge_of_coerce hd
    cases ho : coerceNumber py observed with
    | error e => simp [coerceNumber_error_iff.mp ⟨e, ho⟩, bind, Except.bind]
    | ok o =>
      have hosmall := not_huge_of_coerce ho
      cases d with
      | none => cases o <;> simp [hdsmall, hosmall, bind, Except.bind, pure, Except.pure]
      | some d =>
        cases o with
        | none => simp [hdsmall, hosmall, bind, Except.bind, pure, Except.pure]
        | some o =>
          cases hcompare : r.compare d o with
          | error e => simp [hdsmall, hosmall, hcompare, bind, Except.bind]
          | ok result =>
            obtain ⟨same, declText, obsText⟩ := result
            cases same <;> simp [hdsmall, hosmall, hcompare, bind, Except.bind, pure, Except.pure]

theorem intRound_error_iff {x : Double} : (∃ e, intRound x = .error e) ↔ x.isFinite = false := by
  rw [← Double.toInt_eq_none_iff]
  cases x <;> simp [intRound, Double.toInt]

theorem compareRounded_error_iff {d o : Double} :
    (∃ e, compareRounded d o = .error e) ↔ d.isFinite = false ∨ o.isFinite = false := by
  rw [← intRound_error_iff, ← intRound_error_iff, compareRounded]
  cases intRound d with
  | error e => simp [bind, Except.bind]
  | ok m => cases intRound o <;> simp [bind, Except.bind, pure, Except.pure]

theorem verifyVolume_error_iff {declared observed : Value} {pageRange : Option String} :
    (∃ e, verifyVolume py declared observed pageRange = .error e) ↔
      Raises py .volume declared observed := by
  rw [verifyVolume, numericRule_error_iff]
  show _ ↔ IsHuge declared ∨ IsHuge observed ∨ Reads py declared ∧ Reads py observed ∧
    (ReadsUnbounded py declared ∨ ReadsUnbounded py observed)
  refine or_congr_right (or_congr_right ?_)
  constructor
  · rintro ⟨d, o, hd, ho, herror⟩
    refine ⟨⟨d, hd⟩, ⟨o, ho⟩, ?_⟩
    exact (compareRounded_error_iff.mp herror).imp (fun h => ⟨d, hd, h⟩) fun h => ⟨o, ho, h⟩
  · rintro ⟨⟨d, hd⟩, ⟨o, ho⟩, hunbounded⟩
    refine ⟨d, o, hd, ho, compareRounded_error_iff.mpr ?_⟩
    refine hunbounded.imp (fun h => ?_) fun h => ?_
    · obtain ⟨x, hx, hfinite⟩ := h
      rw [hd, Except.ok.injEq, Option.some.injEq] at hx
      rw [hx, hfinite]
    · obtain ⟨x, hx, hfinite⟩ := h
      rw [ho, Except.ok.injEq, Option.some.injEq] at hx
      rw [hx, hfinite]

/-- The rules with a tolerance raise only of huge integers. -/
theorem closeRule_error_iff {field label tolerant : String} {declared observed : Value}
    {pageRange : Option String} :
    (∃ e, NumericRule.verify py ⟨field, label, tolerant, compareClose py⟩ declared observed
      pageRange = .error e) ↔ IsHuge declared ∨ IsHuge observed := by
  rw [numericRule_error_iff]
  refine or_congr_right (or_iff_left ?_)
  rintro ⟨d, o, -, -, e, he⟩
  cases he

theorem verifySeriesIndex_error_iff {declared observed : Value} {pageRange : Option String} :
    (∃ e, verifySeriesIndex py declared observed pageRange = .error e) ↔
      Raises py .seriesIndex declared observed := by
  show _ ↔ declared ≠ .null ∧ observed ≠ .null ∧
    (IsHuge declared ∨ IsHuge observed ∧ ∃ x, floatOf py declared = .ok (some x))
  rw [verifySeriesIndex]
  by_cases hd : declared = .null
  · by_cases ho : observed = .null
    · simp [hd, ho, Value.isNull]
    · simp [hd, Value.isNull]
  · have hdnull : ¬declared.isNull = true := fun h => hd (Value.isNull_iff.mp h)
    by_cases ho : observed = .null
    · simp [ho, Value.isNull]
    · have honull : ¬observed.isNull = true := fun h => ho (Value.isNull_iff.mp h)
      rw [if_neg (by simp [hdnull]), if_neg hdnull, if_neg honull, ← @floatOf_error_iff py _,
        ← @floatOf_error_iff py observed]
      cases floatOf py declared with
      | error e => simp [hd, ho, bind, Except.bind]
      | ok d =>
        cases d with
        | none => simp [bind, Except.bind, pure, Except.pure]
        | some d =>
          cases floatOf py observed with
          | error e => simp [hd, ho, bind, Except.bind]
          | ok o =>
            cases o with
            | none => simp [bind, Except.bind, pure, Except.pure]
            | some o =>
              cases hclose : isClose d o <;>
                simp [hclose, bind, Except.bind, pure, Except.pure]

/-! ### Confidence -/

variable {declared observed : Value} {pageRange : Option String} {v : FieldVerdict}

theorem compareIsbns_confidence {d o : String} (h : compareIsbns py d o pageRange = .ok v) :
    v.confidence ≤ 100 := by
  rw [compareIsbns] at h
  generalize convertsTo py d o (isbnIsValid o) = x at h
  generalize convertsTo py o d (isbnIsValid d) = y at h
  generalize isbnIsValid d = dv at h
  generalize isbnIsValid o = ov at h
  by_cases heq : d = o
  · cases dv <;> cases ov <;> simp [heq, pure, Except.pure] at h <;> simp [← h]
  · rcases x with e | a
    · cases dv <;> cases ov <;> simp [heq, bind, Except.bind, pure, Except.pure] at h
      simp [← h]
    · rcases y with e | b
      · cases a <;> cases dv <;> cases ov <;>
          simp [heq, bind, Except.bind, pure, Except.pure] at h <;> simp [← h]
      · cases a <;> cases b <;> cases dv <;> cases ov <;>
          simp [heq, bind, Except.bind, pure, Except.pure] at h <;> simp [← h]

theorem verifyIsbn_confidence (h : verifyIsbn py declared observed pageRange = .ok v) :
    v.confidence ≤ 100 := by
  simp only [verifyIsbn] at h
  split_ifs at h
  · cases h
    simp
  · cases h
    simp
  · cases h
    simp
  · cases h
    simp
  · exact compareIsbns_confidence h

theorem titleNoise_confidence {c : ℕ} {evidence : List EvidenceSpan} {reason : String}
    (h : titleNoise py declared observed pageRange = some (c, evidence, reason)) : c ≤ 95 := by
  rw [titleNoise] at h
  split_ifs at h <;> cases h <;> decide

theorem compareTitles_confidence (lowSignal : Bool) :
    (compareTitles py declared observed pageRange lowSignal).confidence ≤ 100 := by
  simp only [compareTitles]
  split_ifs <;> simp

theorem verifyTitle_confidence (quality : String) :
    (verifyTitle py declared observed pageRange quality).confidence ≤ 100 := by
  simp only [verifyTitle]
  split_ifs
  · simp
  · simp
  · simp
  · simp
  · simp
  · simp
  · split
    · rename_i c evidence reason hnoise
      exact (titleNoise_confidence hnoise).trans (by decide)
    · exact compareTitles_confidence _

theorem compareAuthors_confidence (normDecl normObs declared observed : List String) :
    (compareAuthors py normDecl normObs declared observed pageRange).confidence ≤ 100 := by
  simp only [compareAuthors]
  split_ifs <;> simp

theorem verifyAuthors_confidence {declOrder obsOrder : SetOrder} {quality : String}
    (h : verifyAuthors py declOrder obsOrder declared observed pageRange quality = .ok v) :
    v.confidence ≤ 100 := by
  rw [verifyAuthors] at h
  by_cases hnone : authorList py declared = [] ∧ authorList py observed = []
  · rw [if_pos hnone] at h
    cases h
    simp
  rw [if_neg hnone] at h
  by_cases hd : authorList py declared = []
  · rw [if_pos hd] at h
    cases h
    simp
  rw [if_neg hd] at h
  by_cases ho : authorList py observed = []
  · rw [if_pos ho] at h
    cases h
    simp
  rw [if_neg ho] at h
  cases hsame : authorsEqual py (authorList py declared) (authorList py observed) with
  | error e =>
    rw [hsame] at h
    cases h
  | ok same =>
    rw [hsame] at h
    cases same with
    | false =>
      cases h
      exact compareAuthors_confidence _ _ _ _
    | true =>
      by_cases hquality : quality = "low" <;> simp [hquality, bind, Except.bind, pure, Except.pure] at h <;> simp [← h]

theorem presence_confidence {p : Presence} (hp : p.confidence ≤ 100) {compare : FieldVerdict}
    (h : compare.confidence ≤ 100) :
    (p.verify py declared observed pageRange compare).confidence ≤ 100 := by
  rw [Presence.verify]
  split_ifs
  · simp
  · exact hp
  · simp
  · exact h

theorem verifyPublisher_confidence :
    (verifyPublisher py declared observed pageRange).confidence ≤ 100 := by
  refine presence_confidence (by decide) ?_
  simp only [comparePublishers]
  split_ifs <;> simp

theorem verifyPublishedDate_confidence :
    (verifyPublishedDate py declared observed pageRange).confidence ≤ 100 := by
  refine presence_confidence (by decide) ?_
  simp only [compareDates]
  split
  · split_ifs <;> simp
  · simp

theorem verifyLanguage_confidence :
    (verifyLanguage py declared observed pageRange).confidence ≤ 100 := by
  refine presence_confidence (by decide) ?_
  simp only [compareLanguages]
  split_ifs <;> simp

theorem verifySeries_confidence (observedAny : Bool) :
    (verifySeries py declared observed pageRange observedAny).confidence ≤ 100 := by
  simp only [verifySeries]
  split_ifs <;> simp

/-- What the series index rule returns. -/
structure SeriesIndexOk (py : RuleRuntime) (declared observed : Value) (v : FieldVerdict) : Prop where
  range : v.confidence ≤ 100
  flags : v.riskFlags = []
  review : v.requiresReview = false
  confident : v.isDecided = true → 85 ≤ v.confidence
  patched : v.isPatched = true → v.observedValue = observed ∧
    (declared.isNull = true ∧ observed.isNull = false ∨ ∃ o, floatOf py observed = .ok (some o))

theorem verifySeriesIndex_ok (h : verifySeriesIndex py declared observed pageRange = .ok v) :
    SeriesIndexOk py declared observed v := by
  have hambiguous : ∀ {w : FieldVerdict}, w.verdict = .ambiguous → w.confidence ≤ 100 →
      w.riskFlags = [] → w.requiresReview = false → SeriesIndexOk py declared observed w := by
    intro w hw hrange hflags hreview
    refine ⟨hrange, hflags, hreview, fun h => ?_, fun h => ?_⟩
    · simp [FieldVerdict.isDecided, hw] at h
    · simp [FieldVerdict.isPatched, hw] at h
  rw [verifySeriesIndex] at h
  split_ifs at h with hnone hmissing habsent
  · cases h
    exact ⟨by simp, rfl, rfl, fun _ => by simp, fun h => by cases h⟩
  · cases h
    have hthere : observed.isNull = false := by
      rw [Bool.and_eq_true, not_and] at hnone
      exact Bool.eq_false_iff.mpr (hnone hmissing)
    exact ⟨by simp, rfl, rfl, fun _ => by simp, fun _ => ⟨rfl, .inl ⟨hmissing, hthere⟩⟩⟩
  · cases h
    exact hambiguous rfl (by simp) rfl rfl
  · cases hd : floatOf py declared with
    | error e =>
      rw [hd] at h
      cases h
    | ok d =>
      rw [hd] at h
      cases d with
      | none =>
        cases h
        exact hambiguous rfl (by simp) rfl rfl
      | some d =>
        cases ho : floatOf py observed with
        | error e => simp [ho, bind, Except.bind] at h
        | ok o =>
          cases o with
          | none =>
            simp [ho, bind, Except.bind, pure, Except.pure] at h
            rw [← h]
            exact hambiguous rfl (by simp) rfl rfl
          | some o =>
            cases hclose : isClose d o with
            | true =>
              simp [ho, hclose, bind, Except.bind, pure, Except.pure] at h
              rw [← h]
              exact ⟨by simp, rfl, rfl, fun _ => by simp, fun h => by cases h⟩
            | false =>
              simp [ho, hclose, bind, Except.bind, pure, Except.pure] at h
              rw [← h]
              exact ⟨by simp, rfl, rfl, fun _ => by simp, fun _ => ⟨rfl, .inr ⟨o, ho⟩⟩⟩

/-- A numeric rule that returns has read both values, and it patches with an observed number. -/
theorem numericRule_ok {r : NumericRule} (h : r.verify py declared observed pageRange = .ok v) :
    ∃ o, coerceNumber py observed = .ok o ∧ v.confidence ≤ 100 ∧
      (v.isPatched = true → o.isSome = true ∧ v.observedValue = observed) := by
  rw [NumericRule.verify] at h
  cases hd : coerceNumber py declared with
  | error e =>
    rw [hd] at h
    cases h
  | ok d =>
    cases ho : coerceNumber py observed with
    | error e =>
      rw [hd, ho] at h
      cases h
    | ok o =>
      refine ⟨o, rfl, ?_⟩
      rw [hd, ho] at h
      match d, o with
      | none, none =>
        cases h
        exact ⟨by simp, fun hpatched => by cases hpatched⟩
      | none, some o =>
        cases h
        exact ⟨by simp, fun _ => ⟨rfl, rfl⟩⟩
      | some d, none =>
        cases h
        exact ⟨by simp, fun hpatched => by cases hpatched⟩
      | some d, some o =>
        cases hcompare : r.compare d o with
        | error e => simp [hcompare, bind, Except.bind] at h
        | ok result =>
          obtain ⟨same, declText, obsText⟩ := result
          cases same with
          | true =>
            simp [hcompare, bind, Except.bind, pure, Except.pure] at h
            rw [← h]
            exact ⟨by simp, fun hpatched => by cases hpatched⟩
          | false =>
            simp [hcompare, bind, Except.bind, pure, Except.pure] at h
            rw [← h]
            exact ⟨by simp, fun _ => ⟨rfl, rfl⟩⟩

/-- Every verdict has a confidence from 0 to 100. -/
theorem confidence_le {r : RuleName} {ctx : RuleContext}
    (h : applyRule py r declared observed ctx = .ok v) : v.confidence ≤ 100 := by
  cases r with
  | isbn => exact verifyIsbn_confidence h
  | title => exact Except.ok.inj h ▸ verifyTitle_confidence _
  | authors => exact verifyAuthors_confidence h
  | publisher => exact Except.ok.inj h ▸ verifyPublisher_confidence
  | publishedDate => exact Except.ok.inj h ▸ verifyPublishedDate_confidence
  | language => exact Except.ok.inj h ▸ verifyLanguage_confidence
  | series => exact Except.ok.inj h ▸ verifySeries_confidence _
  | seriesIndex => exact (verifySeriesIndex_ok h).range
  | volume => exact (numericRule_ok h).choose_spec.2.1
  | chapter => exact (numericRule_ok h).choose_spec.2.1
  | seriesPosition => exact (numericRule_ok h).choose_spec.2.1

/-! ### The rules and the engine -/

/-- A rule raises where it is said to. -/
theorem applyRule_error_iff {r : RuleName} {ctx : RuleContext} :
    (∃ e, applyRule py r declared observed ctx = .error e) ↔ Raises py r declared observed := by
  cases r with
  | isbn => exact verifyIsbn_error_iff
  | authors => exact verifyAuthors_error_iff
  | seriesIndex => exact verifySeriesIndex_error_iff
  | volume => exact verifyVolume_error_iff
  | chapter => exact closeRule_error_iff
  | seriesPosition => exact closeRule_error_iff
  | _ => exact iff_of_false (fun ⟨_, he⟩ => by cases he) id

theorem applyRule_isOk_iff {r : RuleName} {ctx : RuleContext} :
    (∃ v, applyRule py r declared observed ctx = .ok v) ↔ ¬Raises py r declared observed := by
  rw [← @applyRule_error_iff _ _ _ _ ctx]
  cases applyRule py r declared observed ctx <;> simp

/-- **When the rules return.** A rule returns a verdict with a confidence in range unless it raises
as said, and the engine returns unless a rule does on its field. -/
theorem rules_total_iff (py : RuleRuntime) :
    (∀ r declared observed ctx, (∃ v, applyRule py r declared observed ctx = .ok v ∧
      v.confidence ≤ 100) ↔ ¬Raises py r declared observed) ∧
    ∀ (engine : ContentVerificationEngine) (declOrder obsOrder : SetOrder) (bookKey runId : String)
      (declared : DeclaredMetadata) (observed : ObservationSet),
      (∃ book, engine.verify py declOrder obsOrder bookKey runId declared observed = .ok book) ↔
        ∀ r, ¬Raises py r (declared.get r) (observed.get r) := by
  constructor
  · intro r declared observed ctx
    rw [← @applyRule_isOk_iff _ _ _ _ ctx]
    exact ⟨fun ⟨v, hv, _⟩ => ⟨v, hv⟩, fun ⟨v, hv⟩ => ⟨v, hv, confidence_le hv⟩⟩
  · intro engine declOrder obsOrder bookKey runId declared observed
    rw [ContentVerificationEngine.verify_isOk_iff]
    exact forall_congr' fun r => applyRule_isOk_iff

/-- A volume that is declared and observed as no number. -/
theorem nan_volume_raises : ¬∃ v, verifyVolume .ascii (.str "nan") (.str "nan") none = .ok v := by
  have hraises : verifyVolume .ascii (.str "nan") (.str "nan") none =
      .error ⟨.value, "cannot convert float NaN to integer"⟩ := by rfl
  rw [hraises]
  simp

end Bookwarden.Verification
